import KernelAtlas.Command
import KernelAtlas.Proofs.RecentNames

/-! Whether a command can name its kernels.

A command that shows names asks the demangler for each of its kernels in turn. It is ended by the demangler exactly if
the run for one of them ends in an unforeseen way, and by nothing else that the demangler does. -/

set_option autoImplicit false

namespace KernelAtlas

namespace Demangler

section
variable {demangler : Demangler} {memo : Memo} {request : Request} {answer : Recorded Failure Shown} {shown : Shown}

theorem Course.exists_shown (course : Course demangler memo request answer)
    (stays : ∀ failure, ¬Raises demangler request failure) : ∃ shown, answer.result = .ok shown := by
  cases course with
  | raised unheld raises => exact absurd raises (stays _)
  | _ => exact ⟨_, rfl⟩

theorem Course.eq_of_lost (course : Course demangler .empty request answer) (lost : found? demangler request = none)
    (made : answer.result = .ok shown) : shown = ⟨request.name, .empty⟩ := by
  cases course with
  | blank empty =>
    cases made
    rw [empty]
  | kept filled held => cases held
  | found filled unheld found =>
    rw [lost] at found
    cases found
  | failed filled unheld failed expected =>
    cases made
    rfl
  | raised unheld raises => cases made

theorem Course.mem_keys (course : Course demangler memo request answer) (made : answer.result = .ok shown) {key : Key}
    (held : key ∈ shown.memo.entries.map Prod.fst) : key = request.key ∨ key ∈ memo.entries.map Prod.fst := by
  have used {name : String} (held : key ∈ (memo.use request.key name).entries.map Prod.fst) :
      key = request.key ∨ key ∈ memo.entries.map Prod.fst := by
    obtain ⟨entry, member, rfl⟩ := List.mem_map.mp held
    rcases Memo.mem_entries_use member with same | kept
    · exact .inl same.1
    · exact .inr (List.mem_map_of_mem kept)
  cases course with
  | raised unheld raises => cases made
  | blank empty =>
    cases made
    exact .inr held
  | failed filled unheld failed expected =>
    cases made
    exact .inr held
  | kept filled name =>
    cases made
    exact used held
  | found filled unheld found =>
    cases made
    exact used held

/-- A call that returns has not been left, and a run for it would not be either if it is none for a remembered name. -/
theorem Course.not_raises (course : Course demangler memo request answer) (made : answer.result = .ok shown)
    (clear : request.key ∈ memo.entries.map Prod.fst → ∀ failure, ¬Raises demangler request failure) (failure : Failure) :
    ¬Raises demangler request failure := by
  cases course with
  | blank empty => exact fun raises => raises.1 empty
  | kept filled held => exact clear (List.mem_map_of_mem (Memo.mem_of_get? held)) failure
  | found filled unheld found => exact not_raises_of_found found failure
  | failed filled unheld failed expected => exact not_raises_of_failed failed expected failure
  | raised unheld raises => cases made

end

section
variable {demangler : Demangler} {calls : List Request} {memo after : Memo} {names : List String}

theorem exists_demangleAll (stays : ∀ request ∈ calls, ∀ failure, ¬Raises demangler request failure) (memo : Memo) :
    ∃ names after, (demangleAll demangler memo calls).result = .ok (names, after) := by
  induction calls generalizing memo with
  | nil => exact ⟨[], memo, rfl⟩
  | cons request rest ih =>
    obtain ⟨shown, first⟩ := (course demangler memo request).exists_shown (stays request List.mem_cons_self)
    obtain ⟨names, after, later⟩ := ih (fun other member => stays other (List.mem_cons_of_mem request member)) shown.memo
    refine ⟨shown.name :: names, after, ?_⟩
    apply Recorded.result_bind_of_ok first
    apply Recorded.result_bind_of_ok later
    rfl

theorem demangleAll_cons {request : Request} {rest : List Request}
    (done : (demangleAll demangler memo (request :: rest)).result = .ok (names, after)) :
    ∃ shown others, (demangle demangler memo request).result = .ok shown ∧
      (demangleAll demangler shown.memo rest).result = .ok (others, after) ∧ names = shown.name :: others := by
  obtain ⟨shown, first, done⟩ := (Recorded.result_bind_eq_ok_iff _ _ _).mp done
  obtain ⟨⟨others, last⟩, later, done⟩ := (Recorded.result_bind_eq_ok_iff _ _ _).mp done
  cases done
  exact ⟨shown, others, first, later, rfl⟩

/-- If all calls return, then no run for any of them would leave it. -/
theorem not_raises_of_demangleAll
    (same : ∀ first ∈ calls, ∀ second ∈ calls, first.key = second.key → first = second)
    (clear : ∀ request ∈ calls, request.key ∈ memo.entries.map Prod.fst → ∀ failure, ¬Raises demangler request failure)
    (done : (demangleAll demangler memo calls).result = .ok (names, after)) :
    ∀ request ∈ calls, ∀ failure, ¬Raises demangler request failure := by
  induction calls generalizing memo names with
  | nil =>
    intro request member
    cases member
  | cons request rest ih =>
    obtain ⟨shown, others, first, later, -⟩ := demangleAll_cons done
    have here := (course demangler memo request).not_raises first (clear request List.mem_cons_self)
    refine List.forall_mem_cons.mpr ⟨here, ih ?_ ?_ later⟩
    · intro one inRest other inRestToo
      exact same one (List.mem_cons_of_mem request inRest) other (List.mem_cons_of_mem request inRestToo)
    · intro other member held
      rcases (course demangler memo request).mem_keys first held with key | before
      · rw [same other (List.mem_cons_of_mem request member) request List.mem_cons_self key]
        exact here
      · exact clear other (List.mem_cons_of_mem request member) before

theorem names_of_demangleAll_of_lost (lost : ∀ request, found? demangler request = none)
    (done : (demangleAll demangler .empty calls).result = .ok (names, after)) : names = calls.map Request.name := by
  induction calls generalizing names with
  | nil =>
    cases done
    rfl
  | cons request rest ih =>
    obtain ⟨shown, others, first, later, rfl⟩ := demangleAll_cons done
    cases (course demangler .empty request).eq_of_lost (lost request) first
    rw [ih later, List.map_cons]

end

end Demangler

namespace Command

open Demangler (Raises found? demangleAll)

/-- Whether the name of a kernel can be told: there is nothing to be looked up, or the run ends as it may. -/
def Answers (demangler : Demangler) (config : Config) (kernel : Kernel) : Prop :=
  kernel.symbol ≠ "" → ¬(demangler (kernel.request config.demangler config.demangleTimeout)).Unforeseen

/-- It was not the demangler that ended a computation. -/
def Intact {α : Type} (result : Except Failure α) : Prop := ∀ failure, result ≠ .error (.demangler failure)

section
variable {world : World} {scope : Scope} {config : Config} {kernels : List Kernel} {names : List String}

/-- No settings take the demangler away. -/
theorem demangler_ne_nil (settings : (world.config scope).result = .ok config) : config.demangler ≠ [] := by
  obtain ⟨loaded, load, kept⟩ := (Recorded.result_bind_eq_ok_iff _ _ _).mp settings
  obtain ⟨directories, -, made⟩ := (Recorded.result_bind_eq_ok_iff _ _ _).mp
    ((Recorded.result_mapError_eq_ok_iff _ _ _).mp load)
  have same : loaded = config := by
    split at kept
    · cases kept
    · exact Except.ok.inj kept
  rw [← same, ← Except.ok.inj made, Config.filled]
  split <;> simp [Config.default]

theorem answers_iff (demangler : Demangler) (named : config.demangler ≠ []) (kernel : Kernel) :
    Answers demangler config kernel ↔
      ∀ failure, ¬Raises demangler (kernel.request config.demangler config.demangleTimeout) failure := by
  rw [← not_exists, Demangler.exists_raises_iff named, Answers, not_and]
  rfl

theorem names_eq_ok_iff :
    (world.names config kernels).result = .ok names ↔ ∃ memo, (demangleAll world.demangler .empty
      (kernels.map (·.request config.demangler config.demangleTimeout))).result = .ok (names, memo) := by
  rw [World.names, Recorded.result_bind_eq_ok_iff]
  simp [Recorded.result_mapError_eq_ok_iff]

theorem length_of_names (made : (world.names config kernels).result = .ok names) : names.length = kernels.length := by
  obtain ⟨memo, done⟩ := names_eq_ok_iff.mp made
  rw [Demangler.length_of_demangleAll done, List.length_map]

theorem exists_names_iff (named : config.demangler ≠ []) :
    (∃ names, (world.names config kernels).result = .ok names) ↔
      ∀ kernel ∈ kernels, Answers world.demangler config kernel := by
  simp only [names_eq_ok_iff, answers_iff world.demangler named]
  constructor
  · rintro ⟨names, memo, done⟩ kernel member
    refine Demangler.not_raises_of_demangleAll ?_ ?_ done _ (List.mem_map_of_mem member)
    · intro first inCalls second inCallsToo same
      obtain ⟨one, -, rfl⟩ := List.mem_map.mp inCalls
      obtain ⟨other, -, rfl⟩ := List.mem_map.mp inCallsToo
      simpa [Demangler.Request.key, Kernel.request] using same
    · intro request _ held
      cases held
  · intro answers
    apply Demangler.exists_demangleAll
    intro request member
    obtain ⟨kernel, inKernels, rfl⟩ := List.mem_map.mp member
    exact answers kernel inKernels

/-- Once the listings are read, naming the kernels is all that is left to be done. -/
theorem result_kernelsReport {dumps : List Dump} (settings : (world.config scope).result = .ok config)
    (read : (Discovery.dumps world.tree config scope.workspace).result = .ok dumps) :
    (kernelsReport world scope).result =
      (world.names config (kernelsOf dumps)).result.map (.ofNames (kernelsOf dumps)) := by
  have dumped : (world.dumps config scope).result = .ok dumps := Recorded.result_mapError_of_ok read
  rw [kernelsReport, Recorded.result_bind, settings]
  change (world.dumps config scope >>= _).result = _
  rw [Recorded.result_bind, dumped]
  change (world.names config (kernelsOf dumps) >>= _).result = _
  rw [Recorded.result_bind]
  cases (world.names config (kernelsOf dumps)).result <;> rfl

theorem names_of_lost (lost : ∀ request, found? world.demangler request = none)
    (made : (world.names config kernels).result = .ok names) : names = kernels.map Kernel.symbol := by
  obtain ⟨memo, done⟩ := names_eq_ok_iff.mp made
  rw [Demangler.names_of_demangleAll_of_lost lost done, List.map_map]
  rfl

end

section
variable {α β ε : Type} {first : Run α} {next : α → Run β}

theorem intact_ok (value : α) : Intact (.ok value) := by
  intro failure same
  cases same

theorem intact_mapError {convert : ε → Failure} (plain : ∀ cause failure, convert cause ≠ .demangler failure)
    (computation : Recorded ε α) : Intact (computation.mapError convert).result := by
  obtain ⟨entries, result⟩ := computation
  intro failure same
  cases result with
  | error cause => exact plain cause failure (Except.error.inj same)
  | ok value => cases same

theorem intact_bind_iff (intact : Intact first.result) :
    Intact (first >>= next).result ↔ ∀ value, first.result = .ok value → Intact (next value).result := by
  rw [Recorded.result_bind]
  cases made : first.result with
  | error failure =>
    refine iff_of_true (fun other same => ?_) fun value same => by cases same
    cases same
    exact intact other made
  | ok value =>
    constructor
    · intro rest other same
      cases same
      exact rest
    · intro rest
      exact rest value rfl

theorem intact_bind (intact : Intact first.result) (rest : ∀ value, Intact (next value).result) :
    Intact (first >>= next).result :=
  (intact_bind_iff intact).mpr fun value _ => rest value

theorem Intact.of_bind (intact : Intact (first >>= next).result) : Intact first.result := by
  intro failure failed
  apply intact failure
  rw [Recorded.result_bind, failed]
  rfl

theorem Intact.of_bind_next (intact : Intact (first >>= next).result) {value : α} (made : first.result = .ok value) :
    Intact (next value).result :=
  (intact_bind_iff intact.of_bind).mp intact value made

theorem intact_bind_iff_first (rest : ∀ value, Intact (next value).result) :
    Intact (first >>= next).result ↔ Intact first.result :=
  ⟨Intact.of_bind, fun intact => intact_bind intact rest⟩

end

section
variable (world : World) (scope : Scope)

theorem intact_given {α : Type} (use : Absent) (value : Option α) : Intact (given use value).result := by
  cases value with
  | none => exact fun failure same => by cases same
  | some value => exact intact_ok value

theorem intact_config : Intact (world.config scope).result := by
  refine intact_bind (intact_mapError (fun _ _ same => by cases same) _) fun config => ?_
  split
  · exact fun failure same => by cases same
  · exact intact_ok config

theorem intact_dumps (config : Config) : Intact (world.dumps config scope).result :=
  intact_mapError (fun _ _ same => by cases same) _

theorem intact_search (config : Config) (query : Query) : Intact (world.search config scope query).result := by
  refine intact_bind (intact_dumps world scope config) fun dumps => ?_
  exact intact_bind (intact_mapError (fun _ _ same => by cases same) _) fun found => intact_ok _

theorem intact_pick (versions : List Placed) (position : Int) : Intact (pick versions position).result := by
  unfold pick
  split
  · exact fun failure same => by cases same
  · exact intact_ok _

theorem intact_withoutSource {α : Type} : Intact (world.withoutSource scope : Run α).result :=
  intact_bind (intact_config world scope) fun config => intact_bind (intact_dumps world scope config) fun _ failure same => by
    cases same

theorem intact_ofReport {α : Type} (json : Bool) (toJson : α → Json) (text : α → Except Report.Failure String) (report : α) :
    Intact (Output.ofReport json toJson text report).result := by
  unfold Output.ofReport
  split
  · exact intact_ok _
  · refine intact_bind (fun failure same => ?_) fun _ => intact_ok _
    cases made : text report <;> rw [made] at same <;> cases same

theorem intact_lookupReport (source : String) (assemblyLine : Option Int) (position : Int) :
    Intact (lookupReport world scope source assemblyLine position).result := by
  refine intact_bind (intact_config world scope) fun config => ?_
  refine intact_bind (intact_mapError (fun _ _ same => by cases same) _) fun view => ?_
  split
  · exact fun failure same => by cases same
  · refine intact_bind (intact_mapError (fun _ _ same => by cases same) _) fun view => ?_
    refine intact_bind (intact_given _ _) fun line => ?_
    exact intact_bind (intact_mapError (fun _ _ same => by cases same) _) fun location => intact_ok _

variable {scope} {config : Config}

theorem intact_names_iff (kernels : List Kernel) :
    Intact (world.names config kernels).result ↔ ∃ names, (world.names config kernels).result = .ok names := by
  constructor
  · intro intact
    cases made : (world.names config kernels).result with
    | ok names => exact ⟨names, rfl⟩
    | error failure =>
      rw [World.names, Recorded.result_bind] at made
      cases done : (demangleAll world.demangler .empty
          (kernels.map (·.request config.demangler config.demangleTimeout))).result with
      | ok found =>
        simp only [Recorded.mapError, done, Except.mapError] at made
        cases made
      | error cause =>
        refine absurd ?_ (intact cause)
        rw [World.names, Recorded.result_bind]
        simp only [Recorded.mapError, done, Except.mapError]
        rfl
  · rintro ⟨names, made⟩
    rw [made]
    exact intact_ok names

/-- Naming kernels is where the demangler may end a command. -/
theorem intact_names_bind_iff (named : config.demangler ≠ []) (kernels : List Kernel) {α : Type}
    {next : List String → Run α} (rest : ∀ names, Intact (next names).result) :
    Intact (world.names config kernels >>= next).result ↔ ∀ kernel ∈ kernels, Answers world.demangler config kernel := by
  rw [intact_bind_iff_first rest, intact_names_iff, exists_names_iff named]

end

end Command

end KernelAtlas
