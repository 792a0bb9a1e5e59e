import KernelAtlas.Proofs.Provenance
import KernelAtlas.Proofs.SessionView
import KernelAtlas.Session.Conversation

/-! What a session keeps over any number of calls.

A view is replaced as a whole, and only by a refresh or a selection that succeeds; every other call, and every call
that fails, leaves it as it was. So the parts of a view always fit each other: the matches are those of its source
file, the latest first, and the index is that of the selected one. -/

set_option autoImplicit false

namespace KernelAtlas

/-- The parts of a view fit each other, and its number is one of those issued. -/
structure ActiveView.Consistent (view : ActiveView) (issued : Nat) : Prop where
  latest_first : view.found.Pairwise fun left right => right.time ≤ left.time
  named : ∀ item ∈ view.found, Path.baseName item.sourceFile = Path.baseName view.source
  selected : view.selected = none ↔ view.found = []
  indexed : ∀ place, view.selected = some place → ∃ item, view.found[place]? = some item ∧
    LineIndex.build item.kernel.listing.lines item.kernel.table = .ok view.index
  unindexed : view.selected = none → view.index = .empty
  numbered : 1 ≤ view.generation ∧ view.generation ≤ issued

namespace Session

def Conversation.transcript (start : Conversation) : List Call → List (Call × Outcome)
  | [] => []
  | call :: rest => (call, call.perform start) :: (call.perform start).after.transcript rest

def chosen? : Call × Outcome → Option (Call × ActiveView)
  | (.refresh tree query, ⟨_, _, .ok (.view view), _⟩) => some (.refresh tree query, view)
  | (.select position, ⟨_, _, .ok (.view view), _⟩) => some (.select position, view)
  | _ => none

def Call.position? (view : ActiveView) : Call → Option Nat
  | refresh _ _ => if view.found = [] then none else some 0
  | select position => position.toNat?
  | _ => none

/-- What a call may do to a session. -/
structure Call.Confined (call : Call) (before : Conversation) : Prop where
  failed : ∀ failure, (call.perform before).answer = .error failure →
    (call.perform before).after.session.active = before.session.active
  changed : (call.perform before).after.session.active ≠ before.session.active →
    ∃ view, chosen? (call, call.perform before) = some (call, view) ∧
      (call.perform before).after.session.active = some view
  asked : (∀ tree query, call ≠ .refresh tree query) → (∀ position, call ≠ .select position) →
    (call.perform before).after.session = before.session
  outside : ∀ position, call = .select position →
    (∀ view, before.session.active = some view → ¬(0 ≤ position ∧ position < view.found.length)) →
      (call.perform before).answer = .error (.noMatchAt position) ∧ (call.perform before).after = before

/-- What a run of calls keeps. -/
structure Conversation.Sound (start : Conversation) (calls : List Call) : Prop where
  consistent : ∀ view, (start.run calls).session.active = some view →
    view.Consistent (start.run calls).session.issued
  /-- What is shown is the view of the last refresh or selection that succeeded. -/
  last : (start.run calls).session.active = (((start.transcript calls).filterMap chosen?).getLast?).map Prod.snd
  position : ∀ call view, (call, view) ∈ (start.transcript calls).filterMap chosen? →
    view.selected = call.position? view
  confined : ∀ call : Call, call.Confined (start.run calls)

end Session

theorem ActiveView.Consistent.mono {view : ActiveView} {issued later : Nat} (holds : view.Consistent issued)
    (more : issued ≤ later) : view.Consistent later := by
  obtain ⟨first, last⟩ := holds.numbered
  exact { holds with numbered := ⟨first, by omega⟩ }

namespace Session

def Consistent (session : Session) : Prop := ∀ view, session.active = some view → view.Consistent session.issued

section
variable {session : Session} {tree : FileTree} {query : Query} {view : ActiveView}

theorem baseName_of_mem_resolve {dumps : List Dump} {discovered : List Match}
    (read : (Discovery.dumps tree session.config session.workspace).result = .ok dumps)
    (resolved : (query.resolve dumps).result = .ok discovered) {item : Match} (member : item ∈ orderMatches discovered) :
    Path.baseName item.sourceFile = Path.baseName query.source := by
  obtain ⟨listings, -, parsed⟩ := (Discovery.dumps_eq_ok_iff _ _ _ _).mp read
  have present : item ∈ discovered := (latestFirst_perm Match.time discovered).mem_iff.mp member
  obtain ⟨-, answers, -⟩ := Query.alone_of_mem_resolve parsed resolved present
  obtain ⟨before, after, -, base, -⟩ := answers.first
  exact base

theorem consistent_at (source : String) {found : List Match} {place issued : Nat} {item : Match} {index : LineIndex}
    (begun : 1 ≤ issued) (sorted : found.Pairwise fun left right => right.time ≤ left.time)
    (named : ∀ item ∈ found, Path.baseName item.sourceFile = Path.baseName source) (there : found[place]? = some item)
    (indexed : item.index.result = .ok index) :
    ActiveView.Consistent ⟨source, found, some place, index, issued⟩ issued where
  latest_first := sorted
  named := named
  selected := by
    refine iff_of_false (by simp) ?_
    rintro rfl
    cases there
  indexed := by
    intro other same
    cases same
    rw [Match.result_index] at indexed
    exact ⟨item, there, indexed⟩
  unindexed := by
    intro none
    cases none
  numbered := by
    constructor <;> simp only <;> omega

theorem consistent_of_lookUp (begun : 1 ≤ session.issued)
    (made : (session.lookUp tree query session.issued).result = .ok view) : view.Consistent session.issued := by
  obtain ⟨dumps, discovered, read, resolved, ⟨-, rfl⟩ | ⟨item, index, first, indexed, rfl⟩⟩ :=
    (lookUp_eq_ok_iff _ _ _ _ _).mp made
  · refine ⟨List.Pairwise.nil, ?_, iff_of_true rfl rfl, ?_, fun _ => rfl, ?_⟩
    · intro item member
      cases member
    · intro place chosen
      cases chosen
    · constructor <;> simp only [ActiveView.nothing] <;> omega
  · exact consistent_at query.source begun (latestFirst_sorted _ _) (fun _ => baseName_of_mem_resolve read resolved) first
      indexed

theorem consistent_of_viewAt (begun : 1 ≤ session.issued) {shown : ActiveView} {issued place : Nat} {item : Match}
    (holds : shown.Consistent issued) (there : shown.found[place]? = some item)
    (made : (viewAt shown.source shown.found place item session.issued).result = .ok view) :
    view.Consistent session.issued := by
  obtain ⟨index, indexed, rfl⟩ := (viewAt_eq_ok_iff _ _ _ _ _ _).mp made
  exact consistent_at shown.source begun holds.latest_first holds.named there indexed

end

/-- A call that replaces the view. -/
structure Call.Chooses (call : Call) (before : Conversation) (view : ActiveView) : Prop where
  chosen : chosen? (call, call.perform before) = some (call, view)
  after : (call.perform before).after.session = { before.session.begin with active := some view }
  position : view.selected = call.position? view
  consistent : before.session.Consistent → view.Consistent before.session.begin.issued

structure Call.Leaves (call : Call) (before : Conversation) : Prop where
  unchosen : chosen? (call, call.perform before) = none
  after : (call.perform before).after.session = before.session ∨
    (call.perform before).after.session = before.session.begin

section
variable {before : Conversation} {outcome : Outcome} {view : ActiveView}

theorem answer_ofReply_of_error {reply : Reply ActiveView} {failure : Failure} (failed : reply.answer.result = .error failure) :
    (Outcome.ofReply before reply).answer = .error failure := by
  rw [Outcome.ofReply, failed]
  rfl

theorem answer_ofReply_of_ok {reply : Reply ActiveView} (made : reply.answer.result = .ok view) :
    (Outcome.ofReply before reply).answer = .ok (.view view) := by
  rw [Outcome.ofReply, made]
  rfl

theorem chosen?_of_error (call : Call) {failure : Failure} (failed : outcome.answer = .error failure) :
    chosen? (call, outcome) = none := by
  obtain ⟨after, displays, answer, reported⟩ := outcome
  cases failed
  cases call <;> rfl

theorem chosen?_refresh (tree : FileTree) (query : Query) (made : outcome.answer = .ok (.view view)) :
    chosen? (.refresh tree query, outcome) = some (.refresh tree query, view) := by
  obtain ⟨after, displays, answer, reported⟩ := outcome
  cases made
  rfl

theorem chosen?_select (position : Int) (made : outcome.answer = .ok (.view view)) :
    chosen? (.select position, outcome) = some (.select position, view) := by
  obtain ⟨after, displays, answer, reported⟩ := outcome
  cases made
  rfl

end

-- A request that has begun cannot be overtaken within one call, so its view is installed if there is one.
theorem Call.chooses_or_leaves_of_finish {call : Call} {before : Conversation} {shows : ActiveView → List Display}
    {answer : Recorded Failure ActiveView}
    (performed : call.perform before = .ofReply before (before.session.begin.finish shows answer))
    (choice : ∀ outcome view, outcome.answer = .ok (.view view) → chosen? (call, outcome) = some (call, view))
    (current : ∀ view, answer.result = .ok view → view.generation = before.session.begin.issued)
    (position : ∀ view, answer.result = .ok view → view.selected = call.position? view)
    (consistent : ∀ view, answer.result = .ok view → before.session.Consistent →
      view.Consistent before.session.begin.issued) :
    (∃ view, call.Chooses before view) ∨ call.Leaves before := by
  obtain ⟨failure, failed, session⟩ | ⟨view, made, answered, session⟩ :=
    finish_cases before.session.begin shows answer current
  · refine Or.inr ⟨?_, Or.inr ?_⟩
    · rw [performed]
      exact chosen?_of_error call (answer_ofReply_of_error failed)
    · rw [performed]
      exact session
  · refine Or.inl ⟨view, ?_, ?_, position view made, consistent view made⟩
    · rw [performed]
      exact choice _ view (answer_ofReply_of_ok answered)
    · rw [performed]
      exact session

theorem Call.refresh_cases (before : Conversation) (tree : FileTree) (query : Query) :
    (∃ view, (Call.refresh tree query).Chooses before view) ∨ (Call.refresh tree query).Leaves before := by
  apply chooses_or_leaves_of_finish rfl
  · intro outcome view made
    exact chosen?_refresh tree query made
  · intro view made
    exact generation_of_lookUp made
  · intro view made
    obtain ⟨dumps, discovered, -, -, ⟨-, rfl⟩ | ⟨item, index, first, -, rfl⟩⟩ := (lookUp_eq_ok_iff _ _ _ _ _).mp made
    · rfl
    · have filled : orderMatches discovered ≠ [] := by
        intro empty
        rw [empty] at first
        cases first
      simp only [position?, if_neg filled]
  · intro view made _
    exact consistent_of_lookUp (Nat.le_add_left 1 _) made

theorem Call.select_cases (before : Conversation) (position : Int) :
    (∃ view, (Call.select position).Chooses before view) ∨ (Call.select position).Leaves before := by
  obtain ⟨nothing, -⟩ | ⟨shown, place, item, active, rfl, there, request⟩ := before.session.select_cases position
  · have failed : (before.session.select position).answer.result = .error (.noMatchAt position) := by
      rw [nothing]
      rfl
    refine Or.inr ⟨chosen?_of_error _ (answer_ofReply_of_error failed), Or.inl ?_⟩
    rw [perform, nothing]
    rfl
  · have performed := congrArg (Outcome.ofReply before) request
    change (Call.select place).perform before = _ at performed
    apply chooses_or_leaves_of_finish performed
    · intro outcome view made
      exact chosen?_select place made
    · intro view made
      exact generation_of_viewAt made
    · intro view made
      obtain ⟨index, -, rfl⟩ := (viewAt_eq_ok_iff _ _ _ _ _ _).mp made
      rfl
    · intro view made holds
      exact consistent_of_viewAt (Nat.le_add_left 1 _) (holds shown active) there made

theorem Call.asked (call : Call) (before : Conversation) (noRefresh : ∀ tree query, call ≠ .refresh tree query)
    (noSelect : ∀ position, call ≠ .select position) :
    chosen? (call, call.perform before) = none ∧ (call.perform before).after.session = before.session := by
  cases call with
  | refresh tree query => exact absurd rfl (noRefresh tree query)
  | select position => exact absurd rfl (noSelect position)
  | linesFor file line => exact ⟨rfl, rfl⟩
  | highlight context file line => exact ⟨rfl, rfl⟩
  | locate context position => exact ⟨rfl, rfl⟩
  | staleness => exact ⟨rfl, rfl⟩
  | compare position =>
    refine ⟨rfl, ?_⟩
    simp only [perform, Outcome.ofComparison]
    cases before.session.compare position <;> rfl
  | locateCompared context comparison side position => exact ⟨rfl, rfl⟩

/-- All that a call can do to what is shown. -/
theorem Call.chooses_or_leaves (call : Call) (before : Conversation) :
    (∃ view, call.Chooses before view) ∨ call.Leaves before := by
  cases call with
  | refresh tree query => exact refresh_cases before tree query
  | select position => exact select_cases before position
  | _ =>
    refine Or.inr ((asked _ before ?_ ?_).elim fun unchosen same => ⟨unchosen, Or.inl same⟩)
    · simp
    · simp

section
variable {call : Call} {before : Conversation}

theorem Call.Leaves.active (leaves : call.Leaves before) :
    (call.perform before).after.session.active = before.session.active := by
  rcases leaves.after with same | begun
  · rw [same]
  · rw [begun]
    rfl

theorem Call.consistent_perform (call : Call) (holds : before.session.Consistent) :
    (call.perform before).after.session.Consistent := by
  intro shown active
  obtain ⟨view, chooses⟩ | leaves := call.chooses_or_leaves before
  · rw [chooses.after] at active ⊢
    cases Option.some.inj active
    exact chooses.consistent holds
  · rw [leaves.active] at active
    have kept := holds shown active
    rcases leaves.after with same | begun
    · rw [same]
      exact kept
    · rw [begun]
      exact kept.mono (Nat.le_succ _)

theorem Call.active_perform (call : Call) (before : Conversation) :
    (call.perform before).after.session.active =
      ((chosen? (call, call.perform before)).map Prod.snd).or before.session.active := by
  obtain ⟨view, chooses⟩ | leaves := call.chooses_or_leaves before
  · rw [chooses.chosen, chooses.after]
    rfl
  · rw [leaves.unchosen, leaves.active]
    rfl

theorem Call.confined (call : Call) (before : Conversation) : call.Confined before := by
  refine ⟨?_, ?_, fun noRefresh noSelect => (call.asked before noRefresh noSelect).2, ?_⟩
  · intro failure failed
    obtain ⟨view, chooses⟩ | leaves := call.chooses_or_leaves before
    · have refused := chosen?_of_error call failed
      rw [chooses.chosen] at refused
      cases refused
    · exact leaves.active
  · intro changed
    obtain ⟨view, chooses⟩ | leaves := call.chooses_or_leaves before
    · exact ⟨view, chooses.chosen, by rw [chooses.after]⟩
    · exact absurd leaves.active changed
  · rintro position rfl outside
    obtain ⟨nothing, -⟩ | ⟨shown, place, item, active, rfl, there, -⟩ := before.session.select_cases position
    · rw [perform, nothing]
      exact ⟨rfl, rfl⟩
    · have inside := (List.getElem?_eq_some_iff.mp there).1
      exact absurd ⟨by omega, by omega⟩ (outside shown active)

end

section
variable (start : Conversation) (calls : List Call)

theorem Conversation.consistent_run {start : Conversation} (holds : start.session.Consistent) (calls : List Call) :
    (start.run calls).session.Consistent := by
  induction calls generalizing start with
  | nil => exact holds
  | cons call rest ih => exact ih (call.consistent_perform holds)

theorem Conversation.active_run :
    (start.run calls).session.active =
      ((((start.transcript calls).filterMap chosen?).getLast?).map Prod.snd).or start.session.active := by
  induction calls generalizing start with
  | nil => rfl
  | cons call rest ih =>
    rw [run, List.foldl_cons, ← run, ih, transcript, call.active_perform]
    cases made : chosen? (call, call.perform start) with
    | none => rw [List.filterMap_cons_none made, Option.map_none, Option.none_or]
    | some entry =>
      rw [List.filterMap_cons_some made, List.getLast?_cons]
      cases (((call.perform start).after.transcript rest).filterMap chosen?).getLast? <;> rfl

theorem Conversation.position_of_mem_transcript {call : Call} {view : ActiveView}
    (member : (call, view) ∈ (start.transcript calls).filterMap chosen?) : view.selected = call.position? view := by
  induction calls generalizing start with
  | nil => cases member
  | cons first rest ih =>
    rw [transcript] at member
    obtain ⟨chosenView, chooses⟩ | leaves := first.chooses_or_leaves start
    · rw [List.filterMap_cons_some chooses.chosen] at member
      rcases List.mem_cons.mp member with same | later
      · cases same
        exact chooses.position
      · exact ih _ later
    · rw [List.filterMap_cons_none leaves.unchosen] at member
      exact ih _ member

end

/-- After any calls to a new session, whatever their arguments and whatever became of them, its view is consistent and
is the one that the last successful refresh or selection chose. -/
theorem Conversation.run_sound (workspace : String) (config : Config) (contexts : Nat → Bool) (calls : List Call) :
    (Conversation.new workspace config contexts).Sound calls := by
  have fresh : (Conversation.new workspace config contexts).session.Consistent := by
    intro view active
    cases active
  refine ⟨consistent_run fresh calls, ?_, fun _ _ => position_of_mem_transcript _ calls, fun call => call.confined _⟩
  rw [active_run]
  exact Option.or_none

end Session

end KernelAtlas
