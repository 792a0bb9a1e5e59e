import KernelAtlas.Proofs.QueriedLine
import KernelAtlas.Session

/-! What a session shows after a request.

A request that ends before another one begins installs the view that it answers with. After a refresh that
is the view of the latest match, after a selection the view of the selected one, each with the whole index
of its listing. -/

set_option autoImplicit false

namespace KernelAtlas

namespace ActiveView

/-- The view of the match at a place, with the index of its listing. -/
structure Shows (view : ActiveView) (found : List Match) (place : Nat) (item : Match) (index : LineIndex) : Prop where
  found_eq : view.found = found
  selected_eq : view.selected = some place
  there : found[place]? = some item
  indexed : item.index.result = .ok index
  index_eq : view.index = index

theorem Shows.selection? {view : ActiveView} {found : List Match} {place : Nat} {item : Match} {index : LineIndex}
    (shown : view.Shows found place item index) : view.selection? = some ⟨place, item⟩ := by
  simp [ActiveView.selection?, shown.selected_eq, shown.found_eq, shown.there]

end ActiveView

namespace Session

open ActiveView

section
variable {session : Session} {displays : ActiveView → List Display} {answer : Recorded Failure ActiveView}

theorem finish_of_ok {view : ActiveView} (made : answer.result = .ok view) :
    session.finish displays answer =
      ⟨session.commit view, if session.accepts view then displays view else [], answer⟩ := by
  unfold finish
  rw [made]

theorem finish_of_error {failure : Failure} (failed : answer.result = .error failure) :
    session.finish displays answer = ⟨session, [], answer⟩ := by
  unfold finish
  rw [failed]

end

@[simp] theorem answer_finish (session : Session) (displays : ActiveView → List Display)
    (answer : Recorded Failure ActiveView) : (session.finish displays answer).answer = answer := by
  unfold finish
  split <;> rfl

/-- A request that no other one has interrupted fails, or answers with the view that it installs. -/
theorem finish_cases (session : Session) (displays : ActiveView → List Display) (answer : Recorded Failure ActiveView)
    (current : ∀ view, answer.result = .ok view → view.generation = session.issued) :
    (∃ failure, (session.finish displays answer).answer.result = .error failure ∧
        (session.finish displays answer).session = session) ∨
      ∃ view, answer.result = .ok view ∧ (session.finish displays answer).answer.result = .ok view ∧
        (session.finish displays answer).session = { session with active := some view } := by
  cases made : answer.result with
  | error failure =>
    rw [finish_of_error made]
    exact Or.inl ⟨failure, made, rfl⟩
  | ok view =>
    rw [finish_of_ok made]
    exact Or.inr ⟨view, rfl, made, by simp [commit, current view made]⟩

theorem active_finish {session : Session} {answer : Recorded Failure ActiveView} {view : ActiveView}
    (made : answer.result = .ok view) (current : view.generation = session.issued)
    (displays : ActiveView → List Display) : (session.finish displays answer).session.active = some view := by
  unfold finish
  simp [made, active_commit, accepts, current]

structure Installs (reply : Reply ActiveView) (view : ActiveView) : Prop where
  answered : reply.answer.result = .ok view
  active : reply.session.active = some view

theorem installs_finish {session : Session} {answer : Recorded Failure ActiveView} {view : ActiveView}
    (made : answer.result = .ok view) (current : view.generation = session.issued)
    (displays : ActiveView → List Display) : Installs (session.finish displays answer) view := by
  constructor
  · rw [answer_finish]
    exact made
  · exact active_finish made current displays

section
variable {found : List Match} {place : Nat} {item : Match} {index : LineIndex}

theorem result_viewAt (source : String) (found : List Match) (place : Nat) (generation : Int)
    (indexed : item.index.result = .ok index) :
    (viewAt source found place item generation).result = .ok ⟨source, found, some place, index, generation⟩ := by
  apply Recorded.result_bind_of_ok (Recorded.result_mapError_of_ok indexed)
  rfl

theorem viewAt_eq_ok_iff (source : String) (found : List Match) (place : Nat) (item : Match) (generation : Int)
    (view : ActiveView) :
    (viewAt source found place item generation).result = .ok view ↔
      ∃ index, item.index.result = .ok index ∧ view = ⟨source, found, some place, index, generation⟩ := by
  rw [viewAt, Recorded.result_bind_eq_ok_iff]
  refine exists_congr fun index => ?_
  rw [Recorded.result_mapError_eq_ok_iff, Recorded.result_pure, Except.ok.injEq, @eq_comm _ view]

/-- A view that is looked up shows nothing, or the latest match. -/
theorem lookUp_eq_ok_iff (session : Session) (tree : FileTree) (query : Query) (generation : Int) (view : ActiveView) :
    (session.lookUp tree query generation).result = .ok view ↔
      ∃ dumps discovered, (Discovery.dumps tree session.config session.workspace).result = .ok dumps ∧
        (query.resolve dumps).result = .ok discovered ∧
          ((orderMatches discovered = [] ∧ view = .nothing query.source generation) ∨
            ∃ item index, (orderMatches discovered)[0]? = some item ∧ item.index.result = .ok index ∧
              view = ⟨query.source, orderMatches discovered, some 0, index, generation⟩) := by
  simp only [lookUp, Recorded.result_bind_eq_ok_iff, Recorded.result_mapError_eq_ok_iff, exists_and_left]
  refine exists_congr fun dumps => and_congr_right fun _ => exists_congr fun discovered => and_congr_right fun _ => ?_
  cases order : orderMatches discovered with
  | nil => simp [eq_comm]
  | cons first rest => simp [viewAt_eq_ok_iff]

theorem generation_of_viewAt {source : String} {generation : Int} {view : ActiveView}
    (made : (viewAt source found place item generation).result = .ok view) : view.generation = generation := by
  obtain ⟨index, -, rfl⟩ := (viewAt_eq_ok_iff _ _ _ _ _ _).mp made
  rfl

theorem generation_of_lookUp {session : Session} {tree : FileTree} {query : Query} {generation : Int} {view : ActiveView}
    (made : (session.lookUp tree query generation).result = .ok view) : view.generation = generation := by
  obtain ⟨dumps, discovered, -, -, ⟨-, rfl⟩ | ⟨item, index, -, -, rfl⟩⟩ := (lookUp_eq_ok_iff _ _ _ _ _).mp made
  · rfl
  · rfl

/-- A selection either finds no match at its position and does nothing, or is a request for the view of one. -/
theorem select_cases (session : Session) (position : Int) :
    (session.select position = ⟨session, [], .fail (.noMatchAt position)⟩ ∧
        ∀ view (place : Nat), session.active = some view → position = place → view.found[place]? = none) ∨
      ∃ (view : ActiveView) (place : Nat) (item : Match), session.active = some view ∧ position = place ∧
        view.found[place]? = some item ∧
          session.select position = session.begin.finish (fun view => [.showMatches view.selected])
            (viewAt view.source view.found place item session.begin.issued) := by
  cases active : session.active with
  | none => exact Or.inl ⟨by simp [select, active], by simp⟩
  | some view =>
    cases counted : position.toNat? with
    | none =>
      refine Or.inl ⟨by simp [select, active, counted], ?_⟩
      rintro other place - rfl
      cases counted
    | some place =>
      have same : position = place := Int.mem_toNat?.mp counted
      cases there : view.found[place]? with
      | none =>
        refine Or.inl ⟨by simp [select, active, counted, there], ?_⟩
        intro other otherPlace shown equal
        cases Option.some.inj shown
        have places : otherPlace = place := by omega
        rw [places]
        exact there
      | some item => exact Or.inr ⟨view, place, item, rfl, same, there, by simp [select, active, counted, there]⟩

theorem refresh_shows (session : Session) {tree : FileTree} {query : Query} {dumps : List Dump} {discovered : List Match}
    (read : (Discovery.dumps tree session.config session.workspace).result = .ok dumps)
    (resolved : (query.resolve dumps).result = .ok discovered)
    (first : (orderMatches discovered)[0]? = some item) (indexed : item.index.result = .ok index) :
    ∃ view, Installs (session.refresh tree query) view ∧ view.Shows (orderMatches discovered) 0 item index := by
  refine ⟨⟨query.source, orderMatches discovered, some 0, index, session.begin.issued⟩, ?_,
    ⟨rfl, rfl, first, indexed, rfl⟩⟩
  -- The request is numbered as it begins, and nothing else begins before its view is committed.
  refine installs_finish ?_ rfl refreshDisplays
  apply Recorded.result_bind_of_ok (Recorded.result_mapError_of_ok read)
  apply Recorded.result_bind_of_ok (Recorded.result_mapError_of_ok resolved)
  cases order : orderMatches discovered with
  | nil => simp [order] at first
  | cons head rest =>
    have same : head = item := by simpa [order] using first
    rw [same]
    exact result_viewAt query.source (item :: rest) 0 session.begin.issued indexed

theorem select_shows {session : Session} {view : ActiveView} (active : session.active = some view)
    (there : view.found[place]? = some item) (indexed : item.index.result = .ok index) :
    ∃ next, Installs (session.select place) next ∧ next.Shows view.found place item index := by
  refine ⟨⟨view.source, view.found, some place, index, session.begin.issued⟩, ?_, ⟨rfl, rfl, there, indexed, rfl⟩⟩
  have position : ((place : Int).toNat?.bind fun place => view.found[place]?.map (place, ·)) = some (place, item) := by
    change (view.found[place]?.map (place, ·)) = _
    rw [there]
    rfl
  simp only [select, active, position]
  exact installs_finish (result_viewAt view.source view.found place session.begin.issued indexed) rfl _

theorem result_locationOf {session : Session} {view : ActiveView} (active : session.active = some view)
    (shown : view.Shows found place item index) (position : Int) :
    (session.locationOf position).result = .ok (index.reverse? position) := by
  simp only [locationOf, active, shown.selected_eq, reduceCtorEq, if_false, lookUpLine, shown.index_eq]
  cases index.reverse? position <;> rfl

end

end Session

end KernelAtlas
