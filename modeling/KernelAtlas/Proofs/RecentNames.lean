import KernelAtlas.Demangler.Memo
import KernelAtlas.Proofs.Gathering
import KernelAtlas.Proofs.Outcome

/-! The memory of demangled names over any number of calls.

Whether a name is remembered or found anew is not seen in what is shown. The memory holds the names that were used
last: a use is a call for which the demangler finds a name, whether or not it had to be run for it. A call is left by a
failure exactly if its run ends in a way that no call expects; the memory stays as it was. -/

set_option autoImplicit false

namespace KernelAtlas.Demangler

/-- The outcome depends on what a remembered name is found by. -/
def Steady (demangler : Demangler) : Prop :=
  ∀ first second : Request, first.key = second.key → demangler first = demangler second

def Process.Steady (process : Process) : Prop :=
  ∀ (request : Request) (timeout : Timeout), process { request with timeout := timeout } = process request

/-- What a run prints, without the blanks around it; none if it fails or prints nothing else. -/
def found? (demangler : Demangler) (request : Request) : Option String :=
  match demangler request with
  | .printed output => if Text.stripped output = "" then none else some (Text.stripped output)
  | _ => none

def display (demangler : Demangler) (request : Request) : String :=
  if request.name = "" then "" else (found? demangler request).getD request.name

def used? (demangler : Demangler) (request : Request) : Option Key :=
  if request.name = "" then none else (found? demangler request).map fun _ => request.key

def recentKeys (count : Nat) (demangler : Demangler) (history : List Request) : List Key :=
  (history.filterMap (used? demangler)).reverse.eraseDups.take count

def Outcome.Unforeseen : Outcome → Prop
  | undecodable _ | refused _ => True
  | printed _ | exited _ | timedOut | missing | failed _ => False

/-- The failure by which a call is left, if it has to run the demangler. -/
def Raises (demangler : Demangler) (request : Request) (failure : Failure) : Prop :=
  request.name ≠ "" ∧ (demangler request).name request = .error failure ∧ failure.escapes = true

def Memo.next (memo : Memo) (answer : Recorded Failure Shown) : Memo :=
  match answer.result with
  | .ok shown => shown.memo
  | .error _ => memo

def Memo.through (demangler : Demangler) (memo : Memo) (calls : List Request) : Memo :=
  calls.foldl (fun memo request => memo.next (demangle demangler memo request)) memo

/-- What the memory holds after a history of calls. -/
structure Memo.Follows (memo : Memo) (demangler : Demangler) (history : List Request) : Prop where
  bounded : memo.size ≤ 4096
  distinct : (memo.entries.map Prod.fst).Nodup
  /-- A run would find the name anew. -/
  faithful : ∀ key name, (key, name) ∈ memo.entries →
    (∃ request ∈ history, request.key = key) ∧ ∀ request, request.key = key → found? demangler request = some name
  recent : memo.entries.map Prod.fst = recentKeys 4096 demangler history

/-- What is to be expected of the answer to a call after a history of others. -/
structure Served (demangler : Demangler) (history : List Request) (request : Request) (answer : Recorded Failure Shown) :
    Prop where
  raised : ∀ failure, answer.result = .error failure ↔ Raises demangler request failure
  shown : (∀ failure, ¬Raises demangler request failure) → ∃ memo, answer.result = .ok ⟨display demangler request, memo⟩
  reported : request.name ≠ "" → found? demangler request = none → (∀ failure, ¬Raises demangler request failure) →
    ∃ failure, (demangler request).name request = .error failure ∧
      answer.diagnostics = [unavailable request.name failure]
  unreported : request.name = "" ∨ found? demangler request ≠ none ∨ (∃ failure, Raises demangler request failure) →
    answer.diagnostics = []
  started : Journal.requests answer.entries =
    if request.name ≠ "" ∧ request.key ∉ recentKeys 4096 demangler history then [request] else []

section
variable {demangler : Demangler} {request other : Request}

theorem name_eq_ok_iff (text : String) :
    (demangler request).name request = .ok text ↔ found? demangler request = some text := by
  unfold found?
  cases demangler request with
  | printed output =>
    simp only [Outcome.name, Text.stripped]
    split
    · rename_i blank
      simp [blank]
    · rename_i filled
      have chars : Text.trim output.toList ≠ [] := filled
      simp [chars]
  | _ => simp [Outcome.name]

theorem found?_eq_none_iff :
    found? demangler request = none ↔ ∃ failure, (demangler request).name request = .error failure := by
  cases named : (demangler request).name request with
  | error failure =>
    refine iff_of_true (Option.eq_none_iff_forall_ne_some.mpr fun text found => ?_) ⟨failure, rfl⟩
    rw [(name_eq_ok_iff text).mpr found] at named
    cases named
  | ok text =>
    rw [(name_eq_ok_iff text).mp named]
    simp

theorem not_raises_of_found {text : String} (found : found? demangler request = some text) (failure : Failure) :
    ¬Raises demangler request failure := by
  rintro ⟨-, failed, -⟩
  rw [found?_eq_none_iff.mpr ⟨failure, failed⟩] at found
  cases found

theorem not_raises_of_failed {failure : Failure} (failed : (demangler request).name request = .error failure)
    (expected : failure.escapes = false) (other : Failure) : ¬Raises demangler request other := by
  rintro ⟨-, failedToo, escapes⟩
  rw [failed] at failedToo
  cases failedToo
  rw [expected] at escapes
  cases escapes

theorem exists_raises_iff (commanded : request.command ≠ []) :
    (∃ failure, Raises demangler request failure) ↔ request.name ≠ "" ∧ (demangler request).Unforeseen := by
  obtain ⟨program, arguments, words⟩ := List.exists_cons_of_ne_nil commanded
  simp only [Raises, exists_and_left]
  refine and_congr_right fun _ => ?_
  cases demangler request with
  | printed output =>
    simp only [Outcome.name, Outcome.Unforeseen]
    split <;> simp [Failure.escapes]
  | missing => simp [Outcome.name, words, notFound, Failure.escapes, Outcome.Unforeseen]
  | _ => simp [Outcome.name, Failure.escapes, Outcome.Unforeseen]

theorem found?_eq_of_key (steady : Steady demangler) (same : other.key = request.key) :
    found? demangler other = found? demangler request := by
  simp only [found?, steady other request same]

theorem steady_ofProcess {process : Process} (steady : Process.Steady process) (longest : Rat) :
    Steady (ofProcess longest process) := by
  rintro ⟨command, name, timeout⟩ ⟨otherCommand, otherName, otherTimeout⟩ same
  simp only [Request.key, Key.mk.injEq] at same
  obtain ⟨rfl, rfl, length⟩ := same
  have ending := steady ⟨command, name, otherTimeout⟩ timeout
  simp only [ofProcess, ending, length]

end

inductive Course (demangler : Demangler) (memo : Memo) (request : Request) : Recorded Failure Shown → Prop where
  | blank (empty : request.name = "") : Course demangler memo request ⟨[], .ok ⟨"", memo⟩⟩
  | kept {name : String} (filled : request.name ≠ "") (held : memo.get? request.key = some name) :
      Course demangler memo request ⟨[], .ok ⟨name, memo.use request.key name⟩⟩
  | found {text : String} (filled : request.name ≠ "") (unheld : memo.get? request.key = none)
      (found : found? demangler request = some text) :
      Course demangler memo request ⟨[.started request], .ok ⟨text, memo.use request.key text⟩⟩
  | failed {failure : Failure} (filled : request.name ≠ "") (unheld : memo.get? request.key = none)
      (failed : (demangler request).name request = .error failure) (expected : failure.escapes = false) :
      Course demangler memo request
        ⟨[.started request, .diagnostic (unavailable request.name failure)], .ok ⟨request.name, memo⟩⟩
  | raised {failure : Failure} (unheld : memo.get? request.key = none) (raises : Raises demangler request failure) :
      Course demangler memo request ⟨[.started request], .error failure⟩

theorem course (demangler : Demangler) (memo : Memo) (request : Request) :
    Course demangler memo request (demangle demangler memo request) := by
  unfold demangle
  by_cases empty : request.name = ""
  · rw [if_pos empty]
    exact .blank empty
  rw [if_neg empty]
  cases held : memo.get? request.key with
  | some name => exact .kept empty held
  | none =>
    cases named : (demangler request).name request with
    | ok text =>
      simp only [fresh, run, named]
      exact .found empty held ((name_eq_ok_iff text).mp named)
    | error failure =>
      cases escapes : failure.escapes with
      | true =>
        simp only [fresh, run, named, escapes, if_true]
        exact .raised held ⟨empty, named, escapes⟩
      | false =>
        simp only [fresh, run, named, escapes, Bool.false_eq_true, if_false]
        exact .failed empty held named escapes

section
variable {α : Type} [DecidableEq α]

theorem take_moveToFront (count : Nat) {items : List α} (distinct : items.Nodup) (item : α) :
    (item :: (items.take count).filter (· ≠ item)).take count = (item :: items.filter (· ≠ item)).take count := by
  cases count with
  | zero => rfl
  | succ count =>
    rw [List.take_succ_cons, List.take_succ_cons]
    congr 1
    by_cases short : items.length ≤ count + 1
    · rw [List.take_of_length_le short]
    -- Only one item can be missing from those in front, so what stands behind them does not come into it.
    have enough : count ≤ ((items.take (count + 1)).filter (· ≠ item)).length := by
      have erased := (distinct.sublist (List.take_sublist (count + 1) items)).erase_eq_filter item
      have bound := List.le_length_erase (l := items.take (count + 1)) (a := item)
      rw [List.length_take, Nat.min_eq_left (by omega), erased] at bound
      have same : (fun other => decide (other ≠ item)) = (· != item) := by
        funext other
        rw [Bool.eq_iff_iff, decide_eq_true_iff, bne_iff_ne]
      rw [same]
      exact bound
    conv_rhs => rw [← List.take_append_drop (count + 1) items, List.filter_append]
    rw [List.take_append_of_le_length enough]

end

section
variable {demangler : Demangler} {history : List Request} {request : Request} {key : Key}

theorem recentKeys_of_unused (count : Nat) (unused : used? demangler request = none) :
    recentKeys count demangler (history ++ [request]) = recentKeys count demangler history := by
  simp [recentKeys, List.filterMap_append, unused]

theorem recentKeys_of_used (count : Nat) (used : used? demangler request = some key) :
    recentKeys count demangler (history ++ [request]) =
      (key :: (recentKeys count demangler history).filter (· ≠ key)).take count := by
  simp only [recentKeys]
  rw [take_moveToFront count (nodup_eraseDups _), List.filterMap_append, List.filterMap_cons_some used,
    List.filterMap_nil, List.reverse_append, List.reverse_singleton, List.singleton_append, eraseDups_moveToFront]

end

namespace Memo

theorem follows_empty (demangler : Demangler) : Memo.empty.Follows demangler [] :=
  ⟨Nat.zero_le _, List.nodup_nil, fun _ _ member => (by cases member), rfl⟩

theorem keys_use (memo : Memo) (key : Key) (name : String) :
    (memo.use key name).entries.map Prod.fst =
      (key :: (memo.entries.map Prod.fst).filter (· ≠ key)).take capacity := by
  simp only [use, List.map_take, List.map_cons, List.filter_map]
  rfl

theorem mem_entries_use {memo : Memo} {key other : Key} {name text : String}
    (member : (other, text) ∈ (memo.use key name).entries) : other = key ∧ text = name ∨ (other, text) ∈ memo.entries := by
  rcases List.mem_cons.mp (List.mem_of_mem_take member) with same | kept
  · exact Or.inl (Prod.mk.inj same)
  · exact Or.inr (List.mem_of_mem_filter kept)

theorem get?_eq_none_iff (memo : Memo) (key : Key) : memo.get? key = none ↔ key ∉ memo.entries.map Prod.fst := by
  rw [get?, Option.map_eq_none_iff, List.find?_eq_none, List.mem_map]
  simp only [decide_eq_true_eq, not_exists, not_and]

theorem mem_of_get? {memo : Memo} {key : Key} {name : String} (held : memo.get? key = some name) :
    (key, name) ∈ memo.entries := by
  obtain ⟨entry, found, rfl⟩ := Option.map_eq_some_iff.mp held
  have same : entry.1 = key := by simpa using List.find?_some found
  rw [← same]
  exact List.mem_of_find?_eq_some found

section
variable {memo : Memo} {demangler : Demangler} {history : List Request} {request : Request}
  (follows : memo.Follows demangler history)
include follows

theorem Follows.skip (unused : used? demangler request = none) : memo.Follows demangler (history ++ [request]) where
  bounded := follows.bounded
  distinct := follows.distinct
  faithful key name member := by
    obtain ⟨⟨earlier, present, same⟩, again⟩ := follows.faithful key name member
    exact ⟨⟨earlier, List.mem_append_left _ present, same⟩, again⟩
  recent := by rw [recentKeys_of_unused 4096 unused, follows.recent]

theorem Follows.use (steady : Steady demangler) (filled : request.name ≠ "") {text : String}
    (found : found? demangler request = some text) :
    (memo.use request.key text).Follows demangler (history ++ [request]) where
  bounded := size_use_le _ _ _
  distinct := nodup_use follows.distinct _ _
  faithful key name member := by
    rcases mem_entries_use member with ⟨rfl, rfl⟩ | kept
    · refine ⟨⟨request, List.mem_append_right _ List.mem_cons_self, rfl⟩, ?_⟩
      intro other same
      rw [found?_eq_of_key steady same, found]
    · obtain ⟨⟨earlier, present, same⟩, again⟩ := follows.faithful key name kept
      exact ⟨⟨earlier, List.mem_append_left _ present, same⟩, again⟩
  recent := by
    have used : used? demangler request = some request.key := by simp [used?, filled, found]
    rw [keys_use, recentKeys_of_used 4096 used, follows.recent]
    rfl

end

end Memo

section
variable {demangler : Demangler} {history : List Request} {memo : Memo} (follows : memo.Follows demangler history)
include follows

theorem Course.follows_next (steady : Steady demangler) {request : Request} {answer : Recorded Failure Shown}
    (course : Course demangler memo request answer) : (memo.next answer).Follows demangler (history ++ [request]) := by
  cases course with
  | blank empty => exact follows.skip (if_pos empty)
  | kept filled held =>
    exact follows.use steady filled ((follows.faithful _ _ (Memo.mem_of_get? held)).2 request rfl)
  | found filled unheld found => exact follows.use steady filled found
  | failed filled unheld failed expected =>
    have lost := found?_eq_none_iff.mpr ⟨_, failed⟩
    exact follows.skip (by simp [used?, lost])
  | raised unheld raises =>
    have lost := found?_eq_none_iff.mpr ⟨_, raises.2.1⟩
    exact follows.skip (by simp [used?, lost])

theorem Course.served {request : Request} {answer : Recorded Failure Shown}
    (course : Course demangler memo request answer) : Served demangler history request answer := by
  have unheld_iff : memo.get? request.key = none ↔ request.key ∉ recentKeys 4096 demangler history := by
    rw [memo.get?_eq_none_iff, follows.recent]
  -- A name that is found, be it remembered or not, is shown without more ado.
  have quiet {text : String} {memo : Memo} (filled : request.name ≠ "") (found : found? demangler request = some text)
      {entries : List Journal.Entry} (started : Journal.requests entries =
        if request.name ≠ "" ∧ request.key ∉ recentKeys 4096 demangler history then [request] else [])
      (silent : Journal.diagnostics entries = []) : Served demangler history request ⟨entries, .ok ⟨text, memo⟩⟩ := by
    refine ⟨fun failure => ?_, fun _ => ⟨memo, ?_⟩, fun _ lost => ?_, fun _ => silent, started⟩
    · exact iff_of_false (by simp) (not_raises_of_found found failure)
    · rw [display, if_neg filled, found, Option.getD_some]
    · rw [found] at lost
      cases lost
  cases course with
  | blank empty =>
    refine ⟨fun failure => ?_, fun _ => ⟨memo, ?_⟩, fun filled => absurd empty filled, fun _ => rfl, ?_⟩
    · exact iff_of_false (by simp) fun raises => raises.1 empty
    · rw [display, if_pos empty]
    · rw [if_neg fun started => started.1 empty]
      rfl
  | @kept name filled held =>
    -- Only names that a run would find are remembered.
    have found := (follows.faithful _ _ (Memo.mem_of_get? held)).2 request rfl
    refine quiet filled found ?_ rfl
    rw [if_neg fun started => by simp [unheld_iff.mpr started.2] at held]
    rfl
  | @found text filled unheld found =>
    refine quiet filled found ?_ rfl
    rw [if_pos ⟨filled, unheld_iff.mp unheld⟩]
    rfl
  | @failed failure filled unheld failed expected =>
    have lost := found?_eq_none_iff.mpr ⟨failure, failed⟩
    have stays (other : Failure) : ¬Raises demangler request other := not_raises_of_failed failed expected other
    refine ⟨fun other => iff_of_false (by simp) (stays other), fun _ => ⟨memo, ?_⟩, fun _ _ _ => ⟨failure, failed, rfl⟩,
      fun quiet => ?_, ?_⟩
    · rw [display, if_neg filled, lost, Option.getD_none]
    · exact absurd quiet (by simp [filled, lost, stays])
    · rw [if_pos ⟨filled, unheld_iff.mp unheld⟩]
      rfl
  | @raised failure unheld raises =>
    refine ⟨fun other => ⟨?_, ?_⟩, fun stays => absurd raises (stays failure), fun _ _ stays => absurd raises (stays failure),
      fun _ => rfl, ?_⟩
    · intro same
      cases same
      exact raises
    · intro raisesToo
      have same := raises.2.1.symm.trans raisesToo.2.1
      rw [Except.error.inj same]
    · rw [if_pos ⟨raises.1, unheld_iff.mp unheld⟩]
      rfl

theorem follows_through (steady : Steady demangler) (calls : List Request) :
    (memo.through demangler calls).Follows demangler (history ++ calls) := by
  induction calls generalizing memo history with
  | nil =>
    rw [List.append_nil]
    exact follows
  | cons request rest ih =>
    have later := ih ((course demangler memo request).follows_next follows steady)
    rwa [List.append_assoc, List.singleton_append] at later

end

/-- After calls with any names and commands, whatever became of them, the memory holds what was used last, and a further
call shows what a run of the demangler would show. The demangler is run exactly if the name is not remembered, and the
call is left by a failure exactly if a run for it ends in an unforeseen way. -/
theorem memo_transparent {demangler : Demangler} (steady : Steady demangler) :
    (∀ calls : List Request, (Memo.empty.through demangler calls).Follows demangler calls ∧
      ∀ request, Served demangler calls request (demangle demangler (Memo.empty.through demangler calls) request)) ∧
    ∀ request : Request, request.command ≠ [] →
      ((∃ failure, Raises demangler request failure) ↔ request.name ≠ "" ∧ (demangler request).Unforeseen) := by
  refine ⟨fun calls => ?_, fun request commanded => exists_raises_iff commanded⟩
  have follows : (Memo.empty.through demangler calls).Follows demangler calls :=
    follows_through (Memo.follows_empty demangler) steady calls
  exact ⟨follows, fun request => (course demangler _ request).served follows⟩

def knowsOne : Process := fun request =>
  if request.name = "_Z1fv" then .ended 0 [0x20, 0x66, 0x28, 0x29, 0x0A] []
  else if request.name = "_Z1gv" then .late
  else .ended 0 [0xFF] []

def asked (name : String) (timeout : Timeout) : Request := ⟨["c++filt", "-n"], name, timeout⟩

def fourCalls : List Request :=
  [asked "_Z1fv" (.whole 5), asked "_Z1gv" (.whole 5), asked "_Z1hv" (.whole 5), asked "" (.whole 5)]

/-- The first of four calls once more, with the same wait given as a fraction: the name is remembered, although a call
between the two was left by a failure. -/
theorem memo_transparent_again :
    Steady (ofProcess 2147483 knowsOne) ∧
      let memo := Memo.empty.through (ofProcess 2147483 knowsOne) fourCalls
      memo.size = 1 ∧
        (∃ after, (demangle (ofProcess 2147483 knowsOne) memo (asked "_Z1fv" (.fraction (.finite false 5)))).result =
          .ok ⟨"f()", after⟩) ∧
        Journal.requests (demangle (ofProcess 2147483 knowsOne) memo (asked "_Z1fv" (.fraction (.finite false 5)))).entries =
          [] ∧
        (demangle (ofProcess 2147483 knowsOne) memo (asked "_Z1hv" (.whole 7))).result =
          .error (.undecodable ⟨0, 1, .badStart, 0xFF⟩) := by
  have steady : Steady (ofProcess 2147483 knowsOne) := steady_ofProcess (fun _ _ => rfl) 2147483
  have known : found? (ofProcess 2147483 knowsOne) (asked "_Z1fv" (.fraction (.finite false 5))) = some "f()" := by
    decide +kernel
  have recent : recentKeys 4096 (ofProcess 2147483 knowsOne) fourCalls = [(asked "_Z1fv" (.whole 5)).key] := by
    decide +kernel
  have raises : Raises (ofProcess 2147483 knowsOne) (asked "_Z1hv" (.whole 7)) (.undecodable ⟨0, 1, .badStart, 0xFF⟩) :=
    ⟨by decide, by decide +kernel, rfl⟩
  obtain ⟨laws, -⟩ := memo_transparent steady
  obtain ⟨follows, served⟩ := laws fourCalls
  refine ⟨steady, ?_, ?_, ?_, ((served _).raised _).mpr raises⟩
  · have keys := congrArg List.length follows.recent
    rwa [List.length_map, recent] at keys
  · obtain ⟨after, shown⟩ := (served _).shown (not_raises_of_found known)
    have text : display (ofProcess 2147483 knowsOne) (asked "_Z1fv" (.fraction (.finite false 5))) = "f()" := by
      rw [display, if_neg (by decide), known, Option.getD_some]
    exact ⟨after, text ▸ shown⟩
  · rw [(served _).started, recent]
    decide +kernel

/-- Calls for which there is a name to be found, or at least the symbol to be shown, and that are left by a failure: the
process prints a byte that is no text, or there is no end to the wait. -/
theorem demangle_raises_undecodable :
    Process.Steady knowsOne ∧ (asked "_Z1hv" (.whole 5)).command ≠ [] ∧
      (demangle (ofProcess 2147483 knowsOne) .empty (asked "_Z1hv" (.whole 5))).result =
        .error (.undecodable ⟨0, 1, .badStart, 0xFF⟩) ∧
      (demangle (ofProcess 2147483 knowsOne) .empty (asked "_Z1fv" (.fraction (.infinite false)))).result =
        .error (.refused .endless) := by
  have raised (request : Request) (failure : Failure) (raises : Raises (ofProcess 2147483 knowsOne) request failure) :
      (demangle (ofProcess 2147483 knowsOne) .empty request).result = .error failure :=
    (((course _ _ request).served (Memo.follows_empty _)).raised failure).mpr raises
  refine ⟨fun _ _ => rfl, by decide, raised _ _ ⟨by decide, ?_, rfl⟩, raised _ _ ⟨by decide, ?_, rfl⟩⟩
  · decide +kernel
  · decide +kernel

end KernelAtlas.Demangler
