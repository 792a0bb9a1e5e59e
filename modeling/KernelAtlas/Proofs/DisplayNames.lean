import KernelAtlas.Proofs.LatestBuild
import KernelAtlas.Proofs.NamedKernels
import KernelAtlas.Proofs.NamedReports

/-! The demangler decides the names that are shown and nothing else, unless it ends the command.

With any two demanglers that give a name for each kernel a command ends with the same status, and its reports differ at
most in names. A demangler ends a command exactly if a run for one of the kernels that are shown ends in an unforeseen
way; then there is neither a report nor a status. -/

set_option autoImplicit false

namespace KernelAtlas

theorem cases_of_map_eq {ε α β : Type} {left right : Except ε α} {view : α → β} (alike : left.map view = right.map view) :
    (∃ failure, left = .error failure ∧ right = .error failure) ∨
      ∃ value other, left = .ok value ∧ right = .ok other ∧ view value = view other := by
  cases left with
  | error failure =>
    cases right with
    | error other =>
      cases alike
      exact .inl ⟨failure, rfl, rfl⟩
    | ok other => cases alike
  | ok value =>
    cases right with
    | error failure => cases alike
    | ok other => exact .inr ⟨value, other, rfl, rfl, Except.ok.inj alike⟩

namespace Recorded

variable {ε α β γ : Type}

theorem map_result_bind (first : Recorded ε α) (next : α → Recorded ε β) (view : β → γ) :
    (first >>= next).result.map view = first.result >>= fun value => (next value).result.map view := by
  rw [result_bind]
  cases first.result <;> rfl

end Recorded

namespace Command

open Demangler (found?)
open Query (twoBuilds)
open Report (Kernels Matches MatchEntry)

def World.withDemangler (world : World) (demangler : Demangler) : World := { world with demangler := demangler }

/-- Two commands fail alike, or make reports that are the same but for the fields of a name. -/
def AlikeButNames {α : Type} (toJson : α → Json) (left right : Run α) : Prop :=
  left.result.map (fun report => (toJson report).without "name") =
    right.result.map fun report => (toJson report).without "name"

/-- Two commands fail alike, or print values that are the same but for the fields of a name. -/
inductive PrintedAlike (left right : Run Output) : Prop where
  | failed (failure : Failure) (first : left.result = .error failure) (second : right.result = .error failure)
  | printed (context other : Json) (same : context.without "name" = other.without "name")
      (first : left.result = .ok ⟨0, context.render ++ "\n"⟩) (second : right.result = .ok ⟨0, other.render ++ "\n"⟩)

/-- Where two demanglers do not end a command, nothing but names tells by which of them it was run. -/
structure Unseen (world : World) (first second : Demangler) : Prop where
  status : ∀ arguments, Intact (run (world.withDemangler first) arguments) →
    Intact (run (world.withDemangler second) arguments) →
      (run (world.withDemangler first) arguments).map Answer.status =
        (run (world.withDemangler second) arguments).map Answer.status
  kernels : ∀ scope, Intact (kernelsReport (world.withDemangler first) scope).result →
    Intact (kernelsReport (world.withDemangler second) scope).result →
      AlikeButNames Kernels.toJson (kernelsReport (world.withDemangler first) scope)
        (kernelsReport (world.withDemangler second) scope)
  search : ∀ scope query, Intact (searchReport (world.withDemangler first) scope query).result →
    Intact (searchReport (world.withDemangler second) scope query).result →
      AlikeButNames Matches.toJson (searchReport (world.withDemangler first) scope query)
        (searchReport (world.withDemangler second) scope query)
  diff : ∀ scope source symbol left right width,
    Intact (diffReport (world.withDemangler first) scope source symbol left right width).result →
    Intact (diffReport (world.withDemangler second) scope source symbol left right width).result →
      AlikeButNames DiffReport.toJson (diffReport (world.withDemangler first) scope source symbol left right width)
        (diffReport (world.withDemangler second) scope source symbol left right width)
  /-- A lookup shows no names. -/
  printed : ∀ scope action, scope.json = true → (∀ source line position, action ≠ .lookup source line position) →
    Intact (perform (world.withDemangler first) scope action).result →
    Intact (perform (world.withDemangler second) scope action).result →
      PrintedAlike (perform (world.withDemangler first) scope action) (perform (world.withDemangler second) scope action)

/-- A kernel whose name an action shows, if it comes to that. -/
inductive Shows (world : World) (scope : Scope) (config : Config) : Action → Kernel → Prop where
  | listed {dumps : List Dump} {kernel : Kernel} (read : (world.dumps config scope).result = .ok dumps)
      (member : kernel ∈ kernelsOf dumps) : Shows world scope config .kernels kernel
  | found {source : String} {line : Int} {found : List Match} {item : Match} (counted : 0 ≤ line)
      (searched : (world.search config scope ⟨source, line⟩).result = .ok found) (member : item ∈ found) :
      Shows world scope config (.search (some source) (some line)) item.kernel
  | compared {source : String} {symbol : Option String} {leftPosition rightPosition width : Int} {found : List Match}
      {left right : Placed} {kernel : Kernel} (searched : (world.search config scope ⟨source, 0⟩).result = .ok found)
      (leftPicked : (pick (versionsOf symbol found) leftPosition).result = .ok left)
      (rightPicked : (pick (versionsOf symbol found) rightPosition).result = .ok right)
      (one : kernel ∈ [left.found.kernel, right.found.kernel]) :
      Shows world scope config (.diff (some source) symbol (some leftPosition) (some rightPosition) (some width)) kernel

/-- When a demangler ends commands. -/
structure Ends (world : World) (demangler : Demangler) : Prop where
  perform : ∀ scope action, Intact (perform (world.withDemangler demangler) scope action).result ↔
    ∀ config kernel, (world.config scope).result = .ok config → Shows world scope config action kernel →
      Answers demangler config kernel
  run : ∀ arguments failure, run (world.withDemangler demangler) arguments = .error (.demangler failure) ↔
    ∃ invocation, Invocation.ofArguments arguments = .ok invocation ∧
      (Command.perform (world.withDemangler demangler) invocation.scope invocation.action).result =
        .error (.demangler failure)

structure ShowsSymbols (world : World) : Prop where
  kernels : ∀ scope report, (kernelsReport world scope).result = .ok report →
    ∀ summary ∈ report.kernels, summary.name = summary.symbol
  search : ∀ scope query report, (searchReport world scope query).result = .ok report →
    ∀ entry ∈ report.entries, entry.kernel.name = entry.kernel.symbol
  diff : ∀ scope source symbol left right width diff,
    (diffReport world scope source symbol left right width).result = .ok diff →
      diff.report.left.name = diff.report.left.symbol ∧ diff.report.right.name = diff.report.right.symbol

theorem alike_bind {σ α β : Type} {start : Run σ} {next other : σ → Run α} {view : α → β}
    (left : Intact (start >>= next).result) (right : Intact (start >>= other).result)
    (alike : ∀ value, start.result = .ok value → Intact (next value).result → Intact (other value).result →
      (next value).result.map view = (other value).result.map view) :
    (start >>= next).result.map view = (start >>= other).result.map view := by
  rw [Recorded.map_result_bind, Recorded.map_result_bind]
  cases made : start.result with
  | error failure => rfl
  | ok value => exact alike value made (left.of_bind_next made) (right.of_bind_next made)

section
variable (world : World) {first second : Demangler} {scope : Scope} {α β : Type}

theorem alike_names {config : Config} {kernels : List Kernel} {make : List String → Run α} {view : α → β}
    (left : Intact ((world.withDemangler first).names config kernels >>= make).result)
    (right : Intact ((world.withDemangler second).names config kernels >>= make).result)
    (blind : ∀ names other, names.length = kernels.length → other.length = kernels.length →
      (make names).result.map view = (make other).result.map view) :
    ((world.withDemangler first).names config kernels >>= make).result.map view =
      ((world.withDemangler second).names config kernels >>= make).result.map view := by
  -- Both demanglers give as many names as there are kernels, be it the symbols themselves.
  obtain ⟨names, done⟩ := (intact_names_iff _ kernels).mp left.of_bind
  obtain ⟨other, doneToo⟩ := (intact_names_iff _ kernels).mp right.of_bind
  rw [Recorded.map_result_bind, Recorded.map_result_bind, done, doneToo]
  exact blind names other (length_of_names done) (length_of_names doneToo)

theorem alike_kernelsReport {view : Kernels → β}
    (blind : ∀ {kernels names other}, List.length names = List.length kernels → List.length other = kernels.length →
      view (.ofNames kernels names) = view (.ofNames kernels other))
    (left : Intact (kernelsReport (world.withDemangler first) scope).result)
    (right : Intact (kernelsReport (world.withDemangler second) scope).result) :
    (kernelsReport (world.withDemangler first) scope).result.map view =
      (kernelsReport (world.withDemangler second) scope).result.map view := by
  refine alike_bind left right fun config _ left right => ?_
  refine alike_bind left right fun dumps _ left right => ?_
  refine alike_names world left right fun names other length lengthToo => ?_
  exact congrArg Except.ok (blind length lengthToo)

theorem alike_searchReport {view : Matches → β}
    (blind : ∀ query {found names other}, List.length names = List.length found → List.length other = found.length →
      view (.ofNames query found names) = view (.ofNames query found other)) {query : Query}
    (left : Intact (searchReport (world.withDemangler first) scope query).result)
    (right : Intact (searchReport (world.withDemangler second) scope query).result) :
    (searchReport (world.withDemangler first) scope query).result.map view =
      (searchReport (world.withDemangler second) scope query).result.map view := by
  unfold searchReport at left right ⊢
  split
  · rfl
  rename_i counted
  rw [if_neg counted] at left right
  refine alike_bind left right fun config _ left right => ?_
  refine alike_bind left right fun found _ left right => ?_
  refine alike_names world left right fun names other length lengthToo => ?_
  rw [List.length_map] at length lengthToo
  exact congrArg Except.ok (blind query length lengthToo)

theorem alike_diffReport {view : DiffReport → β}
    (blind : ∀ alignment width left right otherLeft otherRight leftOutdated rightOutdated,
      view ⟨.ofNames alignment width left right, leftOutdated, rightOutdated⟩ =
        view ⟨.ofNames alignment width otherLeft otherRight, leftOutdated, rightOutdated⟩)
    {source : String} {symbol : Option String} {leftPosition rightPosition width : Option Int}
    (left : Intact (diffReport (world.withDemangler first) scope source symbol leftPosition rightPosition width).result)
    (right : Intact (diffReport (world.withDemangler second) scope source symbol leftPosition rightPosition width).result) :
    (diffReport (world.withDemangler first) scope source symbol leftPosition rightPosition width).result.map view =
      (diffReport (world.withDemangler second) scope source symbol leftPosition rightPosition width).result.map view := by
  refine alike_bind left right fun config _ left right => ?_
  refine alike_bind left right fun found _ left right => ?_
  refine alike_bind left right fun leftPosition _ left right => ?_
  refine alike_bind left right fun leftVersion _ left right => ?_
  refine alike_bind left right fun rightPosition _ left right => ?_
  refine alike_bind left right fun rightVersion _ left right => ?_
  refine alike_bind left right fun _ _ left right => ?_
  refine alike_bind left right fun columns _ left right => ?_
  refine alike_names world left right fun names other _ _ => ?_
  exact congrArg Except.ok (blind _ _ _ _ _ _ _ _)

end

section
variable {α : Type} {left right : Run α} {toJson : α → Json} {text : α → Except Report.Failure String}

theorem map_status_ofReport (json : Bool) (toJson : α → Json) (text : α → Except Report.Failure String) (report : α) :
    (Output.ofReport json toJson text report).result.map Output.status =
      if json then .ok 0 else ((ending (text report)).mapError Failure.report).map fun _ => 0 := by
  unfold Output.ofReport
  cases json with
  | true => rfl
  | false =>
    cases made : text report <;> rfl

theorem status_ofReport (json : Bool) (toJson : α → Json)
    (alike : left.result.map (fun report => ending (text report)) = right.result.map fun report => ending (text report)) :
    (left >>= Output.ofReport json toJson text).result.map Output.status =
      (right >>= Output.ofReport json toJson text).result.map Output.status := by
  simp only [Recorded.map_result_bind, map_status_ofReport]
  obtain ⟨failure, made, madeToo⟩ | ⟨report, other, made, madeToo, same⟩ := cases_of_map_eq alike
  · rw [made, madeToo]
  · rw [made, madeToo]
    change (if json then _ else _) = (if json then _ else _)
    rw [same]

theorem printedAlike_ofReport (text : α → Except Report.Failure String) (alike : AlikeButNames toJson left right) :
    PrintedAlike (left >>= Output.ofReport true toJson text) (right >>= Output.ofReport true toJson text) := by
  obtain ⟨failure, made, madeToo⟩ | ⟨report, other, made, madeToo, same⟩ := cases_of_map_eq alike
  · refine .failed failure ?_ ?_
    · rw [Recorded.result_bind, made]
      rfl
    · rw [Recorded.result_bind, madeToo]
      rfl
  · exact .printed (toJson report) (toJson other) same (Recorded.result_bind_of_ok made rfl)
      (Recorded.result_bind_of_ok madeToo rfl)

end

section
variable (world : World) {first second : Demangler} {scope : Scope}

theorem status_perform {action : Action} (left : Intact (perform (world.withDemangler first) scope action).result)
    (right : Intact (perform (world.withDemangler second) scope action).result) :
    (perform (world.withDemangler first) scope action).result.map Output.status =
      (perform (world.withDemangler second) scope action).result.map Output.status := by
  cases action with
  | kernels =>
    apply status_ofReport
    exact alike_kernelsReport world Kernels.ending_text_blind left.of_bind right.of_bind
  | search source line =>
    refine alike_bind left right fun line _ left right => ?_
    cases source with
    | none => rfl
    | some source =>
      apply status_ofReport
      exact alike_searchReport world Matches.ending_text_blind left.of_bind right.of_bind
  | lookup source line position => cases source <;> rfl
  | diff source symbol leftPosition rightPosition width =>
    cases source with
    | none => rfl
    | some source =>
      apply status_ofReport
      apply alike_diffReport world _ left.of_bind right.of_bind
      intro alignment width leftName rightName otherLeft otherRight leftOutdated rightOutdated
      exact DiffReport.ending_text_blind _ _ _ _ _ _ _ _ _

theorem run_eq_demangler_iff (world : World) (arguments : List String) (failure : Demangler.Failure) :
    run world arguments = .error (.demangler failure) ↔
      ∃ invocation, Invocation.ofArguments arguments = .ok invocation ∧
        (perform world invocation.scope invocation.action).result = .error (.demangler failure) := by
  unfold run
  cases Invocation.ofArguments arguments with
  | error stop => cases stop <;> simp
  | ok invocation =>
    simp only [Except.ok.injEq, exists_eq_left']
    cases made : (perform world invocation.scope invocation.action).result with
    | ok output => simp
    | error cause =>
      by_cases escapes : cause.escapes = true
      · simp [escapes]
      · simp only [escapes, Bool.false_eq_true, if_false, reduceCtorEq, false_iff, Except.error.injEq]
        rintro rfl
        exact escapes rfl

theorem intact_perform_of_run {arguments : List String} {invocation : Invocation}
    (parsed : Invocation.ofArguments arguments = .ok invocation) (intact : Intact (run world arguments)) :
    Intact (perform world invocation.scope invocation.action).result := fun failure failed =>
  intact failure ((run_eq_demangler_iff world arguments failure).mpr ⟨invocation, parsed, failed⟩)

theorem status_run {arguments : List String} (left : Intact (run (world.withDemangler first) arguments))
    (right : Intact (run (world.withDemangler second) arguments)) :
    (run (world.withDemangler first) arguments).map Answer.status =
      (run (world.withDemangler second) arguments).map Answer.status := by
  cases parsed : Invocation.ofArguments arguments with
  | error stop => cases stop <;> simp only [run, parsed]
  | ok invocation =>
    have alike := status_perform world (intact_perform_of_run _ parsed left) (intact_perform_of_run _ parsed right)
    simp only [run, parsed]
    obtain ⟨failure, made, madeToo⟩ | ⟨output, other, made, madeToo, same⟩ := cases_of_map_eq alike
    · simp only [made, madeToo]
      split <;> simp only [Except.map]
    · simp only [made, madeToo]
      exact congrArg Except.ok same

end

theorem exists_withoutSource {α : Type} (world : World) (scope : Scope) :
    ∃ failure, (world.withoutSource scope : Run α).result = .error failure := by
  simp only [World.withoutSource, Recorded.result_bind]
  cases (world.config scope).result with
  | error failure => exact ⟨failure, rfl⟩
  | ok config =>
    change ∃ failure, ((world.dumps config scope).result >>= fun _ => Except.error _) = Except.error failure
    cases (world.dumps config scope).result with
    | error failure => exact ⟨failure, rfl⟩
    | ok dumps => exact ⟨_, rfl⟩

section
variable (world : World) {first second : Demangler} {scope : Scope}

theorem withoutSource_printedAlike :
    PrintedAlike ((world.withDemangler first).withoutSource scope) ((world.withDemangler second).withoutSource scope) := by
  obtain ⟨failure, failed⟩ : ∃ failure, ((world.withDemangler first).withoutSource scope : Run Output).result = .error failure :=
    exists_withoutSource _ scope
  exact .failed failure failed failed

theorem perform_printedAlike (json : scope.json = true) {action : Action}
    (names : ∀ source line position, action ≠ .lookup source line position)
    (left : Intact (perform (world.withDemangler first) scope action).result)
    (right : Intact (perform (world.withDemangler second) scope action).result) :
    PrintedAlike (perform (world.withDemangler first) scope action) (perform (world.withDemangler second) scope action) := by
  cases action with
  | kernels =>
    have alike : AlikeButNames Kernels.toJson (kernelsReport (world.withDemangler first) scope)
        (kernelsReport (world.withDemangler second) scope) :=
      alike_kernelsReport world Kernels.toJson_blind left.of_bind right.of_bind
    simp only [perform, json]
    exact printedAlike_ofReport _ alike
  | search source line =>
    cases line with
    | none => exact .failed _ rfl rfl
    | some line =>
      cases source with
      | none =>
        by_cases negative : line < 0
        · refine .failed .negativeLine ?_ ?_ <;> simp [perform, given, negative, Recorded.fail]
        · simp only [perform, given, pure_bind, if_neg negative]
          exact withoutSource_printedAlike world
      | some source =>
        have left := (left.of_bind_next (result_given .line line)).of_bind
        have right := (right.of_bind_next (result_given .line line)).of_bind
        have alike : AlikeButNames Matches.toJson (searchReport (world.withDemangler first) scope ⟨source, line⟩)
            (searchReport (world.withDemangler second) scope ⟨source, line⟩) :=
          alike_searchReport world Matches.toJson_blind left right
        simp only [perform, json]
        exact printedAlike_ofReport _ alike
  | lookup source line position => exact absurd rfl (names source line position)
  | diff source symbol leftPosition rightPosition width =>
    cases source with
    | none => exact withoutSource_printedAlike world
    | some source =>
      have alike : AlikeButNames DiffReport.toJson
          (diffReport (world.withDemangler first) scope source symbol leftPosition rightPosition width)
          (diffReport (world.withDemangler second) scope source symbol leftPosition rightPosition width) :=
        alike_diffReport world DiffReport.toJson_blind left.of_bind right.of_bind
      simp only [perform, json]
      exact printedAlike_ofReport _ alike

end

theorem unseen (world : World) (first second : Demangler) : Unseen world first second where
  status _ left right := status_run world left right
  kernels _ left right := alike_kernelsReport world Kernels.toJson_blind left right
  search _ _ left right := alike_searchReport world Matches.toJson_blind left right
  diff _ _ _ _ _ _ left right := alike_diffReport world DiffReport.toJson_blind left right
  printed _ _ json names left right := perform_printedAlike world json names left right

section
variable (world : World) (scope : Scope)

theorem intact_kernelsReport_iff :
    Intact (kernelsReport world scope).result ↔ ∀ config, (world.config scope).result = .ok config →
      ∀ dumps, (world.dumps config scope).result = .ok dumps →
        ∀ kernel ∈ kernelsOf dumps, Answers world.demangler config kernel := by
  refine (intact_bind_iff (intact_config world scope)).trans (forall₂_congr fun config settings => ?_)
  refine (intact_bind_iff (intact_dumps world scope config)).trans (forall₂_congr fun dumps _ => ?_)
  exact intact_names_bind_iff world (demangler_ne_nil settings) _ fun names => intact_ok _

theorem intact_searchReport_iff (query : Query) :
    Intact (searchReport world scope query).result ↔ 0 ≤ query.line → ∀ config, (world.config scope).result = .ok config →
      ∀ found, (world.search config scope query).result = .ok found →
        ∀ item ∈ found, Answers world.demangler config item.kernel := by
  unfold searchReport
  split
  · rename_i negative
    exact iff_of_true (fun failure same => by cases same) fun counted => absurd counted (Int.not_le.mpr negative)
  · rename_i counted
    rw [forall_prop_of_true (Int.not_lt.mp counted)]
    refine (intact_bind_iff (intact_config world scope)).trans (forall₂_congr fun config settings => ?_)
    refine (intact_bind_iff (intact_search world scope config query)).trans (forall₂_congr fun found _ => ?_)
    refine (intact_names_bind_iff world (demangler_ne_nil settings) _ fun names => intact_ok _).trans ?_
    exact List.forall_mem_map

theorem intact_diffReport_iff (source : String) (symbol : Option String) (left right width : Option Int) :
    Intact (diffReport world scope source symbol left right width).result ↔
      ∀ config, (world.config scope).result = .ok config →
      ∀ found, (world.search config scope ⟨source, 0⟩).result = .ok found →
      ∀ leftPosition, left = some leftPosition →
      ∀ leftVersion, (pick (versionsOf symbol found) leftPosition).result = .ok leftVersion →
      ∀ rightPosition, right = some rightPosition →
      ∀ rightVersion, (pick (versionsOf symbol found) rightPosition).result = .ok rightVersion →
      ∀ columns, width = some columns → ∀ kernel ∈ [leftVersion.found.kernel, rightVersion.found.kernel],
        Answers world.demangler config kernel := by
  refine (intact_bind_iff (intact_config world scope)).trans (forall₂_congr fun config settings => ?_)
  refine (intact_bind_iff (intact_search world scope config _)).trans (forall₂_congr fun found _ => ?_)
  refine (intact_bind_iff (intact_given _ _)).trans (forall_congr' fun leftPosition => ?_)
  refine imp_congr (result_given_eq_ok_iff _ _ _) ?_
  refine (intact_bind_iff (intact_pick _ _)).trans (forall₂_congr fun leftVersion _ => ?_)
  refine (intact_bind_iff (intact_given _ _)).trans (forall_congr' fun rightPosition => ?_)
  refine imp_congr (result_given_eq_ok_iff _ _ _) ?_
  refine (intact_bind_iff (intact_pick _ _)).trans (forall₂_congr fun rightVersion _ => ?_)
  rw [Recorded.result_record_bind]
  refine (intact_bind_iff (intact_given _ _)).trans (forall_congr' fun columns => ?_)
  refine imp_congr (result_given_eq_ok_iff _ _ _) ?_
  exact intact_names_bind_iff world (demangler_ne_nil settings) _ fun names => intact_ok _

theorem intact_perform_iff (action : Action) :
    Intact (perform world scope action).result ↔ ∀ config kernel, (world.config scope).result = .ok config →
      Shows world scope config action kernel → Answers world.demangler config kernel := by
  cases action with
  | kernels =>
    rw [perform, intact_bind_iff_first fun _ => intact_ofReport _ _ _ _, intact_kernelsReport_iff]
    constructor
    · intro answers config kernel settings shows
      cases shows with
      | listed read member => exact answers config settings _ read kernel member
    · intro answers config settings dumps read kernel member
      exact answers config kernel settings (.listed read member)
  | search source line =>
    rw [perform, intact_bind_iff (intact_given _ _)]
    cases line with
    | none => exact iff_of_true (fun value same => by cases same) fun config kernel _ shows => by cases shows
    | some line =>
      cases source with
      | none =>
        refine iff_of_true (fun value _ => ?_) fun config kernel _ shows => by cases shows
        dsimp only
        split
        · exact fun failure same => by cases same
        · exact intact_withoutSource world scope
      | some source =>
        have only : (∀ value, (given .line (some line)).result = .ok value →
            Intact (searchReport world scope ⟨source, value⟩ >>=
              Output.ofReport scope.json Matches.toJson Matches.text).result) ↔
              Intact (searchReport world scope ⟨source, line⟩).result := by
          rw [← intact_bind_iff_first fun _ => intact_ofReport scope.json Matches.toJson Matches.text _]
          exact ⟨fun all => all line rfl, fun intact value same => by cases same; exact intact⟩
        refine only.trans ((intact_searchReport_iff world scope _).trans ?_)
        constructor
        · intro answers config kernel settings shows
          cases shows with
          | found counted searched member => exact answers counted config settings _ searched _ member
        · intro answers counted config settings found searched item member
          exact answers config item.kernel settings (.found counted searched member)
  | lookup source line position =>
    refine iff_of_true ?_ fun config kernel _ shows => by cases shows
    cases source with
    | none => exact intact_withoutSource world scope
    | some source => exact intact_bind (intact_lookupReport world scope source line position) fun _ => intact_ok _
  | diff source symbol left right width =>
    cases source with
    | none => exact iff_of_true (intact_withoutSource world scope) fun config kernel _ shows => by cases shows
    | some source =>
      rw [perform, intact_bind_iff_first fun _ => intact_ofReport _ _ _ _, intact_diffReport_iff]
      constructor
      · intro answers config kernel settings shows
        cases shows with
        | compared searched leftPicked rightPicked one =>
          exact answers config settings _ searched _ rfl _ leftPicked _ rfl _ rightPicked _ rfl kernel one
      · rintro answers config settings found searched leftPosition rfl leftVersion leftPicked rightPosition rfl
          rightVersion rightPicked columns rfl kernel one
        exact answers config kernel settings (.compared searched leftPicked rightPicked one)

theorem Shows.withDemangler {world : World} {scope : Scope} {config : Config} {action : Action} {kernel : Kernel}
    (shows : Shows world scope config action kernel) (demangler : Demangler) :
    Shows (world.withDemangler demangler) scope config action kernel := by
  cases shows with
  | listed read member => exact .listed read member
  | found counted searched member => exact .found counted searched member
  | compared searched leftPicked rightPicked one => exact .compared searched leftPicked rightPicked one

theorem shows_withDemangler_iff (demangler : Demangler) {config : Config} {action : Action} {kernel : Kernel} :
    Shows (world.withDemangler demangler) scope config action kernel ↔ Shows world scope config action kernel :=
  ⟨fun shows => shows.withDemangler world.demangler, fun shows => shows.withDemangler demangler⟩

theorem ends (demangler : Demangler) : Ends world demangler where
  perform scope action := by
    rw [intact_perform_iff]
    simp only [shows_withDemangler_iff]
    exact Iff.rfl
  run := run_eq_demangler_iff (world.withDemangler demangler)

end

theorem zip_map_left {α : Type} (name : α → String) (items : List α) :
    (items.map name).zip items = items.map fun item => (name item, item) := by
  simpa using List.zip_map' (f := name) (g := id) (l := items)

section
variable {world : World} (lost : ∀ request, found? world.demangler request = none)
include lost

theorem name_of_kernelsReport {scope : Scope} {report : Kernels} (made : (kernelsReport world scope).result = .ok report)
    {summary : Report.Summary} (member : summary ∈ report.kernels) : summary.name = summary.symbol := by
  obtain ⟨config, settings, made⟩ := (Recorded.result_bind_eq_ok_iff _ _ _).mp made
  obtain ⟨dumps, -, made⟩ := (Recorded.result_bind_eq_ok_iff _ _ _).mp made
  obtain ⟨names, named, made⟩ := (Recorded.result_bind_eq_ok_iff _ _ _).mp made
  cases made
  cases names_of_lost lost named
  rw [Kernels.ofNames, zip_map_left, List.map_map] at member
  obtain ⟨kernel, -, rfl⟩ := List.mem_map.mp member
  rfl

theorem name_of_searchReport {scope : Scope} {query : Query} {report : Matches}
    (made : (searchReport world scope query).result = .ok report) {entry : MatchEntry} (member : entry ∈ report.entries) :
    entry.kernel.name = entry.kernel.symbol := by
  unfold searchReport at made
  split at made
  · cases made
  obtain ⟨config, settings, made⟩ := (Recorded.result_bind_eq_ok_iff _ _ _).mp made
  obtain ⟨found, -, made⟩ := (Recorded.result_bind_eq_ok_iff _ _ _).mp made
  obtain ⟨names, named, made⟩ := (Recorded.result_bind_eq_ok_iff _ _ _).mp made
  cases made
  have symbols : names = (Placed.list found).map fun item => item.found.kernel.symbol := by
    rw [names_of_lost lost named]
    conv_lhs => rw [← Placed.map_found_list found]
    simp only [List.map_map]
    rfl
  rw [Matches.ofNames, symbols, zip_map_left, List.map_map] at member
  obtain ⟨item, -, rfl⟩ := List.mem_map.mp member
  rfl

theorem name_of_diffReport {scope : Scope} {source : String} {symbol : Option String} {left right width : Option Int}
    {diff : DiffReport} (made : (diffReport world scope source symbol left right width).result = .ok diff) :
    diff.report.left.name = diff.report.left.symbol ∧ diff.report.right.name = diff.report.right.symbol := by
  obtain ⟨config, found, leftVersion, rightVersion, columns, names, -, -, -, -, -, named, rfl⟩ :=
    (diffReport_eq_ok_iff diff).mp made
  cases names_of_lost lost named
  exact ⟨rfl, rfl⟩

theorem showsSymbols : ShowsSymbols world where
  kernels _ _ made _ member := name_of_kernelsReport lost made member
  search _ _ _ made _ member := name_of_searchReport lost made member
  diff _ _ _ _ _ _ _ made := name_of_diffReport lost made

end

/-- A demangler that gives a name for every kernel that a command shows decides about these names and about nothing
else; the command is ended by any other demangler. If no name is ever found, the symbols stand for the names. -/
theorem demangler_unseen (world : World) :
    (∀ first second, Unseen world first second) ∧ (∀ demangler, Ends world demangler) ∧
      ∀ failing, (∀ request, found? failing request = none) → ShowsSymbols (world.withDemangler failing) :=
  ⟨unseen world, ends world, fun _ lost => showsSymbols lost⟩

def callsAllKernel : Demangler := fun _ => .printed "kernel()\n"

/-- Two builds of a kernel are compared alike whether the demangler has a name for it or is missing. -/
theorem demangler_unseen_twoBuilds :
    ∃ report other,
      (diffReport (twoBuildsWorld.withDemangler callsAllKernel) bothBuilds "x/a.hip" (some "kernel_one") (some 0) (some 1)
        (some 60)).result = .ok report ∧
      (diffReport (twoBuildsWorld.withDemangler fun _ => .missing) bothBuilds "x/a.hip" (some "kernel_one") (some 0) (some 1)
        (some 60)).result = .ok other ∧
      report.toJson.without "name" = other.toJson.without "name" ∧
        (report.report.left.name = "kernel()" ∧ report.report.left.symbol = "kernel_one") ∧
          other.report.left.name = other.report.left.symbol := by
  obtain ⟨unseen, -, symbols⟩ := demangler_unseen twoBuildsWorld
  have settings : (twoBuildsWorld.config bothBuilds).result = .ok bothConfigured := by decide +kernel
  obtain ⟨report, shown, made⟩ : ∃ report : DiffReport,
      (report.report.left.name = "kernel()" ∧ report.report.left.symbol = "kernel_one") ∧
        (diffReport (twoBuildsWorld.withDemangler callsAllKernel) bothBuilds "x/a.hip" (some "kernel_one") (some 0) (some 1)
          (some 60)).result = .ok report := by
    refine ⟨_, ?_, (diffReport_eq_ok_iff _).mpr ⟨_, _, _, _, _, _, settings, search_twoBuilds, ⟨0, rfl, rfl⟩, ⟨1, rfl, rfl⟩, rfl,
      rfl, rfl⟩⟩
    decide +kernel
  have intact : Intact (diffReport (twoBuildsWorld.withDemangler callsAllKernel) bothBuilds "x/a.hip" (some "kernel_one")
      (some 0) (some 1) (some 60)).result := by
    rw [made]
    exact intact_ok report
  have intactToo : Intact (diffReport (twoBuildsWorld.withDemangler fun _ => .missing) bothBuilds "x/a.hip"
      (some "kernel_one") (some 0) (some 1) (some 60)).result := by
    rw [intact_diffReport_iff]
    intro _ _ _ _ _ _ _ _ _ _ _ _ _ _ _ _ _ unforeseen
    exact unforeseen
  have alike := (unseen callsAllKernel fun _ => .missing).diff _ _ _ _ _ _ intact intactToo
  obtain ⟨failure, failed, -⟩ | ⟨found, other, foundMade, otherMade, same⟩ := cases_of_map_eq alike
  · rw [made] at failed
    cases failed
  · cases made.symm.trans foundMade
    have symbol := (symbols (fun _ => .missing) fun _ => rfl).diff _ _ _ _ _ _ other otherMade
    exact ⟨report, other, made, otherMade, same, shown, symbol.1⟩

/-- A listing of the kernels that succeeds if there is no demangler, and that a demangler ends which is there. -/
theorem kernels_ended_by_demangler :
    (∃ answer, run (twoBuildsWorld.withDemangler fun _ => .missing)
        ["kernels", "w", "--build-dir", "build", "--build-dir", "old", "--json"] = .ok answer ∧ answer.status = 0) ∧
      run (twoBuildsWorld.withDemangler (.ofProcess 2147483 Demangler.knowsOne))
        ["kernels", "w", "--build-dir", "build", "--build-dir", "old", "--json"] =
          .error (.demangler (.undecodable ⟨0, 1, .badStart, 0xFF⟩)) := by
  have parsed : Invocation.ofArguments ["kernels", "w", "--build-dir", "build", "--build-dir", "old", "--json"] =
      .ok ⟨false, bothBuilds, .kernels⟩ := by decide +kernel
  have settings : (twoBuildsWorld.config bothBuilds).result = .ok bothConfigured := by decide +kernel
  have listed (demangler : Demangler) : (kernelsReport (twoBuildsWorld.withDemangler demangler) bothBuilds).result =
      ((twoBuildsWorld.withDemangler demangler).names bothConfigured (kernelsOf twoBuilds)).result.map
        (.ofNames (kernelsOf twoBuilds)) := result_kernelsReport settings dumps_twoBuilds
  constructor
  · have performed : (perform (twoBuildsWorld.withDemangler fun _ => .missing) bothBuilds .kernels).result = _ :=
      Recorded.result_bind_of_ok (listed _) rfl
    simp only [run, parsed, performed]
    exact ⟨_, rfl, rfl⟩
  · have ended : ((twoBuildsWorld.withDemangler (.ofProcess 2147483 Demangler.knowsOne)).names bothConfigured (kernelsOf twoBuilds)).result =
        .error (.demangler (.undecodable ⟨0, 1, .badStart, 0xFF⟩)) := by decide +kernel
    refine (run_eq_demangler_iff _ _ _).mpr ⟨_, parsed, ?_⟩
    rw [perform, Recorded.result_bind, listed, ended]
    rfl

end Command

end KernelAtlas
