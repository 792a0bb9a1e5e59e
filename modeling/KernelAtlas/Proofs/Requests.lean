import KernelAtlas.Proofs.SessionView
import Mathlib.Data.List.Perm.Basic

/-! Requests that overlap.

A request begins, and later it finishes with a view or is given up; between the two any other steps may come. The
view of a request is installed exactly if no request has begun since, so the views that a session shows have
increasing numbers and nothing is replaced by the result of an older request. -/

set_option autoImplicit false

namespace KernelAtlas.Session

inductive Kind where
  | refresh
  | select
  deriving DecidableEq, Repr

structure Request where
  number : Nat
  kind : Kind
  deriving DecidableEq, Repr

def Request.displays (request : Request) (view : ActiveView) : List Display :=
  match request.kind with
  | .refresh => refreshDisplays view
  | .select => [.showMatches view.selected]

def Display.presents : Display → Bool
  | .showMatches _ | .showEmpty _ => true
  | .highlight _ | .reveal _ | .showDiff _ => false

inductive Event where
  | begin (kind : Kind)
  | finish (request : Request) (view : ActiveView)
  | abort (request : Request)

/-- A session and the requests that have begun and not ended. -/
structure Traffic where
  session : Session
  pending : List Request

def Traffic.idle (session : Session) : Traffic := ⟨session, []⟩

/-- One step of the traffic, with what is shown during it. A request ends once, with a view of its own number or
with a failure. -/
inductive Step : Traffic → Event → List Display → Traffic → Prop where
  | begin (traffic : Traffic) (kind : Kind) :
      Step traffic (.begin kind) [] ⟨traffic.session.begin, ⟨traffic.session.begin.issued, kind⟩ :: traffic.pending⟩
  | finish (traffic : Traffic) {request : Request} (waits : request ∈ traffic.pending)
      {answer : Recorded Failure ActiveView} {view : ActiveView} (made : answer.result = .ok view)
      (tagged : view.generation = request.number) :
      Step traffic (.finish request view) (traffic.session.finish request.displays answer).displays
        ⟨(traffic.session.finish request.displays answer).session, traffic.pending.erase request⟩
  | abort (traffic : Traffic) {request : Request} (waits : request ∈ traffic.pending)
      {answer : Recorded Failure ActiveView} {failure : Failure} (failed : answer.result = .error failure) :
      Step traffic (.abort request) (traffic.session.finish request.displays answer).displays
        ⟨(traffic.session.finish request.displays answer).session, traffic.pending.erase request⟩

inductive Run (start : Traffic) : List Event → Traffic → Prop where
  | none : Run start [] start
  | step {history : List Event} {traffic next : Traffic} {event : Event} {shown : List Display} :
      Run start history traffic → Step traffic event shown next → Run start (history ++ [event]) next

def Event.isBegin : Event → Bool
  | .begin _ => true
  | _ => false

def begins (history : List Event) : Nat := history.countP Event.isBegin

def Replaces (traffic : Traffic) (view : ActiveView) (next : Traffic) : Prop :=
  traffic.session.active ≠ some view ∧ next.session.active = some view

/-- How a request fares that finishes with a view after the given history. -/
structure Settled (history : List Event) (traffic : Traffic) (request : Request) (view : ActiveView)
    (shown : List Display) (next : Traffic) : Prop where
  /-- It began as the request of its number, and counts if none has begun since. -/
  latest : ∃ before between, history = before ++ .begin request.kind :: between ∧ request.number = begins before + 1 ∧
    (Replaces traffic view next ↔ ∀ event ∈ between, event.isBegin = false)
  discarded : ¬Replaces traffic view next → next.session = traffic.session
  increases : Replaces traffic view next → ∀ old, traffic.session.active = some old → old.generation < view.generation
  presents : (∃ display ∈ shown, display.presents = true) ↔ Replaces traffic view next
  shows : (Replaces traffic view next → shown = request.displays view) ∧ (¬Replaces traffic view next → shown = [])
  /-- Once installed, the view stays until a later request has finished. -/
  stays : Replaces traffic view next → ∀ later final, Run next later final →
    (∀ other installed, Event.finish other installed ∈ later → other.number ≤ request.number) →
      final.session.active = some view

def Passes (traffic : Traffic) (kind : Kind) (reply : Reply ActiveView) : Prop :=
  ∃ middle ending, Step traffic (.begin kind) [] middle ∧
    Step middle ending reply.displays ⟨reply.session, traffic.pending⟩

/-- What holds after a history of overlapping requests. -/
structure Serialized (history : List Event) (traffic : Traffic) : Prop where
  refreshes : ∀ tree query, Passes traffic .refresh (traffic.session.refresh tree query)
  selects : ∀ position, (traffic.session.select position).session = traffic.session ∨
    Passes traffic .select (traffic.session.select position)
  finishes : ∀ request view shown next, Step traffic (.finish request view) shown next →
    Settled history traffic request view shown next
  begins : ∀ kind shown next, Step traffic (.begin kind) shown next → shown = [] ∧ next.session.active = traffic.session.active
  aborts : ∀ request shown next, Step traffic (.abort request) shown next → shown = [] ∧ next.session = traffic.session
  never_older : ∀ later final, Run traffic later final → ∀ old, traffic.session.active = some old →
    ∃ view, final.session.active = some view ∧ (view = old ∨ old.generation < view.generation)

section
variable {traffic next : Traffic} {request : Request} {shown : List Display}

/-- All that a finished request can do: its view is installed and shown, or nothing happens. -/
theorem Step.finish_cases {view : ActiveView} (step : Step traffic (.finish request view) shown next) :
    request ∈ traffic.pending ∧ view.generation = request.number ∧
      ((request.number = traffic.session.issued ∧
          next = ⟨{ traffic.session with active := some view }, traffic.pending.erase request⟩ ∧
            shown = request.displays view) ∨
        (request.number ≠ traffic.session.issued ∧ next = ⟨traffic.session, traffic.pending.erase request⟩ ∧
          shown = [])) := by
  cases step with
  | finish waits made tagged =>
    refine ⟨waits, tagged, ?_⟩
    rw [finish_of_ok made]
    by_cases current : request.number = traffic.session.issued
    · have same : view.generation = traffic.session.issued := by rw [tagged, current]
      exact Or.inl ⟨current, by simp [commit, same], by simp [accepts, same]⟩
    · have other : view.generation ≠ traffic.session.issued := by omega
      exact Or.inr ⟨current, by simp [commit, other], by simp [accepts, other]⟩

theorem Step.abort_cases (step : Step traffic (.abort request) shown next) :
    request ∈ traffic.pending ∧ next = ⟨traffic.session, traffic.pending.erase request⟩ ∧ shown = [] := by
  cases step with
  | abort waits failed =>
    rw [finish_of_error failed]
    exact ⟨waits, rfl, rfl⟩

end

/-- The invariant of overlapping requests. -/
structure Numbered (history : List Event) (traffic : Traffic) : Prop where
  issued : traffic.session.issued = begins history
  begun : ∀ request ∈ traffic.pending, ∃ before between,
    history = before ++ .begin request.kind :: between ∧ request.number = begins before + 1
  distinct : (traffic.pending.map Request.number).Nodup
  active : ∀ view, traffic.session.active = some view →
    view.generation ≤ traffic.session.issued ∧ ∀ request ∈ traffic.pending, view.generation ≠ request.number

theorem begins_append (first second : List Event) : begins (first ++ second) = begins first + begins second :=
  List.countP_append

@[simp] theorem begins_begin_cons (kind : Kind) (history : List Event) :
    begins (.begin kind :: history) = begins history + 1 :=
  List.countP_cons_of_pos rfl

theorem begins_eq_zero_iff (history : List Event) : begins history = 0 ↔ ∀ event ∈ history, event.isBegin = false := by
  simp [begins, List.countP_eq_zero]

theorem numbered_new (workspace : String) (config : Config) : Numbered [] (.idle (.new workspace config)) := by
  refine ⟨rfl, ?_, List.nodup_nil, ?_⟩
  · intro request member
    cases member
  · intro view active
    cases active

section
variable {history : List Event} {traffic next : Traffic} (numbered : Numbered history traffic)
include numbered

theorem Numbered.number_le {request : Request} (waits : request ∈ traffic.pending) :
    request.number ≤ traffic.session.issued := by
  obtain ⟨before, between, whole, number⟩ := numbered.begun request waits
  rw [numbered.issued, whole, number, begins_append, begins_begin_cons]
  omega

theorem Numbered.ne_of_mem_erase {request other : Request} (waits : request ∈ traffic.pending)
    (remains : other ∈ traffic.pending.erase request) : other.number ≠ request.number := by
  have distinct := ((List.perm_cons_erase waits).map Request.number).nodup_iff.mp numbered.distinct
  intro same
  apply (List.nodup_cons.mp distinct).1
  rw [← same]
  exact List.mem_map_of_mem remains

theorem Numbered.begun_append {request : Request} (waits : request ∈ traffic.pending) (event : Event) :
    ∃ before between, history ++ [event] = before ++ .begin request.kind :: between ∧ request.number = begins before + 1 := by
  obtain ⟨before, between, whole, number⟩ := numbered.begun request waits
  exact ⟨before, between ++ [event], by rw [whole, List.append_assoc, List.cons_append], number⟩

theorem Numbered.begin (kind : Kind) :
    Numbered (history ++ [.begin kind])
      ⟨traffic.session.begin, ⟨traffic.session.begin.issued, kind⟩ :: traffic.pending⟩ := by
  have count : begins (history ++ [.begin kind]) = begins history + 1 := begins_append history [.begin kind]
  refine ⟨?_, ?_, ?_, ?_⟩
  · rw [count, ← numbered.issued]
    rfl
  · intro request member
    rcases List.mem_cons.mp member with same | waits
    · rw [same]
      exact ⟨history, [], rfl, congrArg (· + 1) numbered.issued⟩
    · exact numbered.begun_append waits _
  · rw [List.map_cons, List.nodup_cons]
    refine ⟨?_, numbered.distinct⟩
    -- The new number is greater than all that were given before.
    intro repeated
    obtain ⟨request, waits, same⟩ := List.mem_map.mp repeated
    have bound := numbered.number_le waits
    simp only [Session.begin] at same
    omega
  · intro view active
    obtain ⟨bound, apart⟩ := numbered.active view active
    refine ⟨?_, ?_⟩
    · simp only [Session.begin]
      omega
    · intro request member
      rcases List.mem_cons.mp member with same | waits
      · rw [same]
        simp only [Session.begin]
        omega
      · exact apart request waits

theorem Numbered.ended (request : Request) {event : Event}
    (quiet : event.isBegin = false) {session : Session} (issued : session.issued = traffic.session.issued)
    (active : ∀ view, session.active = some view →
      view.generation ≤ traffic.session.issued ∧ ∀ other ∈ traffic.pending.erase request, view.generation ≠ other.number) :
    Numbered (history ++ [event]) ⟨session, traffic.pending.erase request⟩ := by
  refine ⟨?_, ?_, ?_, ?_⟩
  · simp [issued, numbered.issued, begins, quiet]
  · intro other remains
    exact numbered.begun_append (List.mem_of_mem_erase remains) event
  · exact numbered.distinct.sublist (List.erase_sublist.map Request.number)
  · intro view shown
    rw [issued]
    exact active view shown

theorem Numbered.kept (request : Request) {view : ActiveView} (active : traffic.session.active = some view) :
    view.generation ≤ traffic.session.issued ∧ ∀ other ∈ traffic.pending.erase request, view.generation ≠ other.number := by
  obtain ⟨bound, apart⟩ := numbered.active view active
  exact ⟨bound, fun other remains => apart other (List.mem_of_mem_erase remains)⟩

theorem Numbered.step {event : Event} {shown : List Display} (step : Step traffic event shown next) :
    Numbered (history ++ [event]) next := by
  cases event with
  | begin kind =>
    cases step
    exact numbered.begin kind
  | finish request view =>
    obtain ⟨waits, tagged, ⟨current, rfl, -⟩ | ⟨-, rfl, -⟩⟩ := step.finish_cases
    · refine numbered.ended request rfl rfl ?_
      intro installed active
      cases Option.some.inj active
      refine ⟨by omega, ?_⟩
      intro other remains
      have apart := numbered.ne_of_mem_erase waits remains
      omega
    · exact numbered.ended request rfl rfl fun _ => numbered.kept request
  | abort request =>
    obtain ⟨-, rfl, -⟩ := step.abort_cases
    exact numbered.ended request rfl rfl fun _ => numbered.kept request

theorem Numbered.run {later : List Event} {final : Traffic} (run : Run traffic later final) :
    Numbered (history ++ later) final := by
  induction run with
  | none =>
    rw [List.append_nil]
    exact numbered
  | step _ step ih =>
    rw [← List.append_assoc]
    exact ih.step step

/-- The view of a request that counts is newer than the one that it replaces. -/
theorem Numbered.generation_lt {request : Request} (waits : request ∈ traffic.pending)
    (current : request.number = traffic.session.issued) {old : ActiveView} (active : traffic.session.active = some old) :
    old.generation < request.number := by
  obtain ⟨bound, apart⟩ := numbered.active old active
  have other := apart request waits
  omega

theorem Numbered.replaces_iff {request : Request} {view : ActiveView} {shown : List Display}
    (step : Step traffic (.finish request view) shown next) :
    Replaces traffic view next ↔ request.number = traffic.session.issued := by
  obtain ⟨waits, tagged, ⟨current, rfl, -⟩ | ⟨superseded, rfl, -⟩⟩ := step.finish_cases
  · refine iff_of_true ⟨?_, rfl⟩ current
    -- A request that still waits has not been shown.
    intro active
    exact (numbered.active view active).2 request waits tagged
  · exact iff_of_false (fun replaced => replaced.1 replaced.2) superseded

theorem Numbered.active_step {event : Event} {shown : List Display} (step : Step traffic event shown next) {old : ActiveView}
    (active : traffic.session.active = some old) :
    ∃ view, next.session.active = some view ∧ (view = old ∨ old.generation < view.generation) := by
  cases event with
  | begin kind =>
    cases step
    exact ⟨old, active, Or.inl rfl⟩
  | finish request view =>
    obtain ⟨waits, tagged, ⟨current, rfl, -⟩ | ⟨-, rfl, -⟩⟩ := step.finish_cases
    · refine ⟨view, rfl, Or.inr ?_⟩
      rw [tagged]
      exact numbered.generation_lt waits current active
    · exact ⟨old, active, Or.inl rfl⟩
  | abort request =>
    obtain ⟨-, rfl, -⟩ := step.abort_cases
    exact ⟨old, active, Or.inl rfl⟩

theorem Numbered.active_run {later : List Event} {final : Traffic} (run : Run traffic later final) {old : ActiveView}
    (active : traffic.session.active = some old) :
    ∃ view, final.session.active = some view ∧ (view = old ∨ old.generation < view.generation) := by
  induction run with
  | none => exact ⟨old, active, Or.inl rfl⟩
  | step run step ih =>
    obtain ⟨middle, shown, order⟩ := ih
    obtain ⟨view, installed, next⟩ := (numbered.run run).active_step step shown
    refine ⟨view, installed, ?_⟩
    rcases next with rfl | newer
    · exact order
    · rcases order with rfl | before
      · exact Or.inr newer
      · exact Or.inr (Int.lt_trans before newer)

/-- No request replaces a view that is as new as itself. -/
theorem Numbered.active_run_of_le {later : List Event} {final : Traffic} (run : Run traffic later final) {view : ActiveView}
    (active : traffic.session.active = some view)
    (older : ∀ request installed, Event.finish request installed ∈ later → request.number ≤ view.generation) :
    final.session.active = some view := by
  induction run with
  | none => exact active
  | @step events middle next event shown run step ih =>
    have before := ih fun request installed member => older request installed (List.mem_append_left _ member)
    have ordered := numbered.run run
    cases event with
    | begin kind =>
      cases step
      exact before
    | finish request installed =>
      have bound := older request installed (List.mem_append_right _ List.mem_cons_self)
      obtain ⟨waits, -, ⟨current, -, -⟩ | ⟨-, rfl, -⟩⟩ := step.finish_cases
      · have newer := ordered.generation_lt waits current before
        omega
      · exact before
    | abort request =>
      obtain ⟨-, rfl, -⟩ := step.abort_cases
      exact before

end

theorem Request.exists_presents (request : Request) (view : ActiveView) :
    ∃ display ∈ request.displays view, display.presents = true := by
  obtain ⟨number, kind⟩ := request
  cases kind with
  | refresh =>
    simp only [Request.displays, refreshDisplays]
    split
    · exact ⟨_, List.mem_cons_self, rfl⟩
    · exact ⟨_, List.mem_cons_self, rfl⟩
  | select => exact ⟨_, List.mem_cons_self, rfl⟩

section
variable (traffic : Traffic)

theorem passes_finish (kind : Kind) {answer : Recorded Failure ActiveView}
    (tagged : ∀ view, answer.result = .ok view → view.generation = traffic.session.begin.issued) :
    Passes traffic kind (traffic.session.begin.finish (Request.displays ⟨traffic.session.begin.issued, kind⟩) answer) := by
  have ended : (⟨traffic.session.begin.issued, kind⟩ :: traffic.pending).erase ⟨traffic.session.begin.issued, kind⟩ =
      traffic.pending := List.erase_cons_head _ _
  cases made : answer.result with
  | error failure =>
    have step := Step.abort ⟨traffic.session.begin, ⟨traffic.session.begin.issued, kind⟩ :: traffic.pending⟩
      List.mem_cons_self made
    rw [ended] at step
    exact ⟨_, _, .begin traffic kind, step⟩
  | ok view =>
    have step := Step.finish ⟨traffic.session.begin, ⟨traffic.session.begin.issued, kind⟩ :: traffic.pending⟩
      List.mem_cons_self made (tagged view made)
    rw [ended] at step
    exact ⟨_, _, .begin traffic kind, step⟩

theorem passes_refresh (tree : FileTree) (query : Query) :
    Passes traffic .refresh (traffic.session.refresh tree query) := by
  apply passes_finish traffic .refresh
  intro view made
  exact generation_of_lookUp made

theorem passes_select (position : Int) :
    (traffic.session.select position).session = traffic.session ∨
      Passes traffic .select (traffic.session.select position) := by
  obtain ⟨nothing, -⟩ | ⟨view, place, item, -, -, -, request⟩ := traffic.session.select_cases position
  · rw [nothing]
    exact Or.inl rfl
  · rw [request]
    right
    apply passes_finish traffic .select
    intro next made
    exact generation_of_viewAt made

end

theorem Numbered.settled {history : List Event} {traffic next : Traffic} (numbered : Numbered history traffic)
    {request : Request} {view : ActiveView} {shown : List Display}
    (step : Step traffic (.finish request view) shown next) : Settled history traffic request view shown next := by
  have replaces := numbered.replaces_iff step
  have after := numbered.step step
  obtain ⟨waits, tagged, outcome⟩ := step.finish_cases
  refine ⟨?_, ?_, ?_, ?_, ?_, ?_⟩
  · obtain ⟨before, between, whole, number⟩ := numbered.begun request waits
    refine ⟨before, between, whole, number, ?_⟩
    -- The number of a request counts those up to its own; what has been issued since are the later ones.
    have count : traffic.session.issued = begins before + 1 + begins between := by
      rw [numbered.issued, whole, begins_append, begins_begin_cons]
      omega
    rw [replaces, ← begins_eq_zero_iff, number, count]
    omega
  · intro kept
    obtain ⟨current, -, -⟩ | ⟨-, rfl, -⟩ := outcome
    · exact absurd (replaces.mpr current) kept
    · rfl
  · intro replaced old active
    rw [tagged]
    exact numbered.generation_lt waits (replaces.mp replaced) active
  · rw [replaces]
    obtain ⟨current, -, rfl⟩ | ⟨superseded, -, rfl⟩ := outcome
    · exact iff_of_true (request.exists_presents view) current
    · exact iff_of_false (by simp) superseded
  · rw [replaces]
    obtain ⟨current, -, all⟩ | ⟨superseded, -, none⟩ := outcome
    · exact ⟨fun _ => all, fun other => absurd current other⟩
    · exact ⟨fun same => absurd same superseded, fun _ => none⟩
  · intro replaced later final run older
    apply after.active_run_of_le run replaced.2
    intro other installed member
    rw [tagged]
    exact Int.ofNat_le.mpr (older other installed member)

/-- However requests overlap, one that another has superseded is never installed nor shown, and one that has begun
last is installed when it finishes and stays until a newer one has finished. -/
theorem superseded_never_installed {workspace : String} {config : Config} {history : List Event} {traffic : Traffic}
    (reached : Run (.idle (.new workspace config)) history traffic) : Serialized history traffic := by
  have numbered : Numbered history traffic := (numbered_new workspace config).run reached
  refine ⟨passes_refresh traffic, passes_select traffic, ?_, ?_, ?_, ?_⟩
  · intro request view shown next step
    exact numbered.settled step
  · intro kind shown next step
    cases step
    exact ⟨rfl, rfl⟩
  · intro request shown next step
    obtain ⟨-, rfl, silent⟩ := step.abort_cases
    exact ⟨silent, rfl⟩
  · intro later final run old active
    exact numbered.active_run run active

def overtaking : List Event := [.begin .refresh, .begin .refresh, .finish ⟨2, .refresh⟩ (.nothing "b.hip" 2)]

def overtaken : Traffic := ⟨⟨"w", .default, some (.nothing "b.hip" 2), 2⟩, [⟨1, .refresh⟩]⟩

theorem run_overtaking : Run (.idle (.new "w" .default)) overtaking overtaken := by
  have first : Run (.idle (.new "w" .default)) [.begin .refresh] ⟨⟨"w", .default, none, 1⟩, [⟨1, .refresh⟩]⟩ :=
    .step .none (.begin _ .refresh)
  have second : Run (.idle (.new "w" .default)) [.begin .refresh, .begin .refresh]
      ⟨⟨"w", .default, none, 2⟩, [⟨2, .refresh⟩, ⟨1, .refresh⟩]⟩ := .step first (.begin _ .refresh)
  exact .step second (.finish _ List.mem_cons_self (Recorded.result_pure (ActiveView.nothing "b.hip" 2)) rfl)

theorem superseded_never_installed_overtaking :
    Run (.idle (.new "w" .default)) overtaking overtaken ∧ Serialized overtaking overtaken ∧
      Step overtaken (.finish ⟨1, .refresh⟩ (.nothing "a.hip" 1)) [] ⟨overtaken.session, []⟩ := by
  refine ⟨run_overtaking, superseded_never_installed run_overtaking, ?_⟩
  exact .finish overtaken List.mem_cons_self (Recorded.result_pure (ActiveView.nothing "a.hip" 1)) rfl

end KernelAtlas.Session
