import KernelAtlas.Proofs.LatestBuild
import KernelAtlas.Proofs.RegionTiling
import KernelAtlas.Proofs.SessionRuns

/-! Following a line of a comparison.

A comparison keeps the two matches that it was made from, and a row of it knows the lines of their listings that it
shows. So a line is followed to the same source location as if its match had been selected, whatever has become of
the session since. -/

set_option autoImplicit false

namespace KernelAtlas

/-- The bounds of the kernel are lines of its listing. -/
structure Kernel.Within (kernel : Kernel) : Prop where
  bounds : ∃ start stop : Nat, kernel.start = start ∧ kernel.stop = stop ∧ start ≤ stop ∧
    stop ≤ kernel.listing.lines.length

theorem Kernel.Within.getElem?_lines {kernel : Kernel} (within : kernel.Within) {place : Nat} {text : String}
    (there : kernel.lines[place]? = some text) :
    ∃ line : Nat, kernel.start + place = line ∧ kernel.listing.lines[line]? = some text := by
  obtain ⟨start, stop, first, last, ordered, inside⟩ := within.bounds
  rw [Kernel.lines, first, last, slice_of_le ordered inside, List.getElem?_drop, List.getElem?_take] at there
  split at there
  · exact ⟨start + place, by omega, there⟩
  · cases there

theorem Dump.bounds_of_ofListing {listing : Listing} {dump : Dump} (read : (ofListing listing).result = .ok dump)
    {kernel : Kernel} (member : kernel ∈ dump.kernels) :
    ∃ start stop : Nat, kernel.start = start ∧ kernel.stop = stop ∧ start < stop ∧ stop ≤ kernel.listing.lines.length := by
  obtain ⟨table, -, rfl⟩ := (ofListing_eq_ok_iff listing dump).mp read
  obtain ⟨region, among, named⟩ := List.mem_filterMap.mp member
  obtain ⟨symbol, line, -, rfl⟩ := (Listing.Region.kernel?_eq_some_iff _ _ _ _).mp named
  obtain ⟨span, cut, rfl⟩ := List.mem_map.mp among
  have bounds := Listing.fst_lt_snd_of_mem_spans (Listing.pairwise_regionStarts listing.lines)
    (fun _ => Listing.lt_length_of_mem_regionStarts) span cut
  exact ⟨span.1, span.2, rfl, rfl, bounds.1, bounds.2⟩

theorem Dump.within_of_ofListing {listing : Listing} {dump : Dump} (read : (ofListing listing).result = .ok dump)
    {kernel : Kernel} (member : kernel ∈ dump.kernels) : kernel.Within := by
  obtain ⟨start, stop, first, last, ordered, inside⟩ := bounds_of_ofListing read member
  exact ⟨start, stop, first, last, Nat.le_of_lt ordered, inside⟩

theorem Query.within_of_mem_resolve {listings : List Listing} {dumps : List Dump}
    (read : (listings.mapM Dump.ofListing).result = .ok dumps) {query : Query} {found : List Match}
    (resolved : (query.resolve dumps).result = .ok found) {item : Match} (member : item ∈ found) : item.kernel.Within := by
  obtain ⟨among, -, -⟩ := alone_of_mem_resolve read resolved member
  obtain ⟨dump, inDumps, inside⟩ := List.mem_flatMap.mp among
  obtain ⟨listing, -, made⟩ := Recorded.exists_of_mem_result_mapM read inDumps
  exact Dump.within_of_ofListing made inside

namespace Alignment

def textAt? (alignment : Alignment) (side : Side) (position : Int) : Option String := do
  let position ← position.toNat?
  let row ← alignment.rows[position]?
  return (row.cell side).text

def kernel (alignment : Alignment) : Side → Kernel
  | .left => alignment.left
  | .right => alignment.right

theorem getElem?_pair (lefts rights : List Cell) (place : Nat) :
    (pair lefts rights)[place]? =
      if place < max lefts.length rights.length then
        some ⟨lefts[place]?.getD .filling, rights[place]?.getD .filling⟩
      else none := by
  fun_induction pair lefts rights generalizing place with
  | case1 => simp
  | case2 left lefts ih =>
    cases place with
    | zero => simp
    | succ place => simpa using ih place
  | case3 right rights ih =>
    cases place with
    | zero => simp
    | succ place => simpa using ih place
  | case4 left lefts right rights ih =>
    cases place with
    | zero => simp
    | succ place => simpa using ih place

theorem getElem?_cells (kernel : Kernel) (place : Nat) :
    (cells kernel)[place]? = kernel.lines[place]?.map fun text => ⟨text, some (kernel.start + place)⟩ := by
  simp only [cells, List.getElem?_map, List.getElem?_zipIdx, Option.map_map]
  cases kernel.lines[place]? <;> simp

theorem cell_of_getElem?_rows {left right : Kernel} {place : Nat} {row : Row}
    (there : (ofKernels left right).rows[place]? = some row) (side : Side) :
    row.cell side = (cells ((ofKernels left right).kernel side))[place]?.getD .filling := by
  rw [ofKernels, getElem?_pair] at there
  split at there
  · cases there
    cases side <;> rfl
  · cases there

theorem getElem?_lines_of_locate? {left right : Kernel} {side : Side} {position line : Int}
    (located : (ofKernels left right).locate? side position = some line) :
    ∃ (place : Nat) (text : String), ((ofKernels left right).kernel side).lines[place]? = some text ∧
      line = ((ofKernels left right).kernel side).start + place ∧
        (ofKernels left right).textAt? side position = some text := by
  simp only [locate?, Option.bind_eq_bind, Option.bind_eq_some_iff] at located
  obtain ⟨place, counted, row, there, index⟩ := located
  have cell := cell_of_getElem?_rows there side
  rw [getElem?_cells] at cell
  cases found : ((ofKernels left right).kernel side).lines[place]? with
  | none => simp [cell, found, Cell.filling] at index
  | some text =>
    rw [found, Option.map_some, Option.getD_some] at cell
    rw [cell] at index
    refine ⟨place, text, found, (Option.some.inj index).symm, ?_⟩
    simp [textAt?, counted, there, cell]

theorem locate?_of_getElem?_lines {left right : Kernel} {side : Side} {place : Nat} {text : String}
    (there : ((ofKernels left right).kernel side).lines[place]? = some text) :
    (ofKernels left right).locate? side place = some (((ofKernels left right).kernel side).start + place) := by
  have bound : place < max left.lines.length right.lines.length := by
    have inside := (List.getElem?_eq_some_iff.mp there).1
    cases side with
    | left => exact Nat.lt_of_lt_of_le inside (Nat.le_max_left _ _)
    | right => exact Nat.lt_of_lt_of_le inside (Nat.le_max_right _ _)
  obtain ⟨row, present⟩ : ∃ row, (ofKernels left right).rows[place]? = some row := by
    rw [ofKernels, getElem?_pair, length_cells, length_cells, if_pos bound]
    exact ⟨_, rfl⟩
  have cell := cell_of_getElem?_rows present side
  rw [getElem?_cells, there] at cell
  change (do let row ← (ofKernels left right).rows[place]?; (row.cell side).index) = _
  rw [present, Option.bind_eq_bind, Option.bind_some, cell]
  rfl

end Alignment

namespace Session

def Within (session : Session) : Prop :=
  ∀ view, session.active = some view → ∀ item ∈ view.found, item.kernel.Within

theorem Call.found_perform (call : Call) (before : Conversation) {view : ActiveView}
    (active : (call.perform before).after.session.active = some view) :
    (∃ shown, before.session.active = some shown ∧ view.found = shown.found) ∨
      ∃ tree query dumps discovered, (Discovery.dumps tree before.session.config before.session.workspace).result = .ok dumps ∧
        (Query.resolve query dumps).result = .ok discovered ∧ view.found = orderMatches discovered := by
  cases call with
  | refresh tree query =>
    obtain ⟨failure, -, session⟩ | ⟨next, made, -, session⟩ := finish_cases before.session.begin refreshDisplays
      (before.session.begin.lookUp tree query before.session.begin.issued) fun _ => generation_of_lookUp
    · change (before.session.refresh tree query).session = _ at session
      rw [perform, Outcome.ofReply, session] at active
      exact Or.inl ⟨view, active, rfl⟩
    · change (before.session.refresh tree query).session = _ at session
      rw [perform, Outcome.ofReply, session] at active
      cases active
      obtain ⟨dumps, discovered, read, resolved, shown⟩ := (lookUp_eq_ok_iff _ _ _ _ _).mp made
      refine Or.inr ⟨tree, query, dumps, discovered, read, resolved, ?_⟩
      rcases shown with ⟨empty, rfl⟩ | ⟨item, index, -, -, rfl⟩
      · exact empty.symm
      · rfl
  | select position =>
    obtain ⟨nothing, -⟩ | ⟨shown, place, item, activeBefore, rfl, there, request⟩ := before.session.select_cases position
    · rw [perform, nothing] at active
      exact Or.inl ⟨view, active, rfl⟩
    · obtain ⟨failure, -, session⟩ | ⟨next, made, -, session⟩ := finish_cases before.session.begin
        (fun view => [.showMatches view.selected]) (viewAt shown.source shown.found place item before.session.begin.issued)
        fun _ => generation_of_viewAt
      · rw [perform, request, Outcome.ofReply, session] at active
        exact Or.inl ⟨view, active, rfl⟩
      · rw [perform, request, Outcome.ofReply, session] at active
        cases active
        obtain ⟨index, -, rfl⟩ := (viewAt_eq_ok_iff _ _ _ _ _ _).mp made
        exact Or.inl ⟨shown, activeBefore, rfl⟩
  | _ =>
    rw [(asked _ before (by simp) (by simp)).2] at active
    exact Or.inl ⟨view, active, rfl⟩

section
variable {property : Match → Prop} (resolution : ∀ (listings : List Listing) (dumps : List Dump) (query : Query)
  (found : List Match), (listings.mapM Dump.ofListing).result = .ok dumps → (query.resolve dumps).result = .ok found →
    ∀ item ∈ found, property item)
include resolution

theorem Call.forall_found_perform (call : Call) {before : Conversation}
    (holds : ∀ view, before.session.active = some view → ∀ item ∈ view.found, property item) :
    ∀ view, (call.perform before).after.session.active = some view → ∀ item ∈ view.found, property item := by
  intro view active item member
  obtain ⟨shown, activeBefore, same⟩ | ⟨tree, query, dumps, discovered, read, resolved, same⟩ := call.found_perform before active
  · exact holds shown activeBefore item (same ▸ member)
  · obtain ⟨listings, -, parsed⟩ := (Discovery.dumps_eq_ok_iff _ _ _ _).mp read
    rw [same] at member
    exact resolution listings dumps query discovered parsed resolved item
      ((latestFirst_perm Match.time discovered).mem_iff.mp member)

/-- What is true of every match that a resolution gives is true of all that a session shows. -/
theorem Conversation.forall_found_run {start : Conversation}
    (holds : ∀ view, start.session.active = some view → ∀ item ∈ view.found, property item) (calls : List Call) :
    ∀ view, (start.run calls).session.active = some view → ∀ item ∈ view.found, property item := by
  induction calls generalizing start with
  | nil => exact holds
  | cons call rest ih => exact ih (call.forall_found_perform resolution holds)

end

theorem Conversation.within_run {start : Conversation} (holds : start.session.Within) (calls : List Call) :
    (start.run calls).session.Within :=
  forall_found_run (fun _ _ _ _ read resolved _ => Query.within_of_mem_resolve read resolved) holds calls

theorem getElem?_selection {view : ActiveView} {selected : Placed} (chosen : view.selection? = some selected) :
    view.found[selected.place]? = some selected.found := by
  simp only [ActiveView.selection?, Option.bind_eq_bind, Option.bind_eq_some_iff] at chosen
  obtain ⟨place, -, item, there, same⟩ := chosen
  cases same
  exact there

theorem exists_of_compare {session : Session} {position : Int} {comparison : Comparison}
    (compared : session.compare position = .ok comparison) :
    ∃ view, session.active = some view ∧
      (∀ side, view.found[(comparison.side side).place]? = some (comparison.side side).found) ∧
        comparison.alignment = .ofKernels comparison.left.found.kernel comparison.right.found.kernel := by
  obtain ⟨⟨view, left⟩, selected, made⟩ := (bind_eq_ok_iff _ _ _).mp compared
  cases active : session.active with
  | none => simp [selection, active] at selected
  | some shown =>
    cases chosen : shown.selection? with
    | none => simp [selection, active, chosen] at selected
    | some item =>
      simp only [selection, active, Option.bind_some, chosen, Option.map_some, Except.ok.injEq, Prod.mk.injEq] at selected
      obtain ⟨rfl, rfl⟩ := selected
      cases counted : position.toNat? with
      | none => simp [counted] at made
      | some place =>
        cases there : shown.found[place]? with
        | none => simp [counted, there] at made
        | some right =>
          simp only [counted, Option.bind_some, there, Option.map_some] at made
          cases made
          refine ⟨shown, rfl, ?_, rfl⟩
          intro side
          cases side with
          | left => exact getElem?_selection chosen
          | right => exact there

theorem Comparison.kernel_alignment {comparison : Comparison}
    (aligned : comparison.alignment = .ofKernels comparison.left.found.kernel comparison.right.found.kernel) (side : Side) :
    comparison.alignment.kernel side = (comparison.side side).found.kernel := by
  rw [aligned]
  cases side <;> rfl

section
variable {comparison : Comparison} {side : Side}

theorem result_lookUpLine (index : LineIndex) (position : Int) :
    (lookUpLine index position).result = .ok (index.reverse? position) := by
  unfold lookUpLine
  cases index.reverse? position <;> rfl

/-- A line of a comparison is looked up in the index of its match, whatever the session shows. -/
theorem answer_locateCompared (before : Conversation) (context : Option Nat) (line : Int) :
    ((Call.locateCompared context (some comparison) side.name line).perform before).answer =
      ((comparison.side side).found.index.result.mapError .oversize).map fun index => .location (index.reverse? line) := by
  have known : (Side.ofName side.name).mapError Failure.unknownSide = .ok side := by
    rw [Side.ofName_name]
    rfl
  simp only [Call.perform, Outcome.ofLocation, comparedLocation, known, Recorded.result_bind, Recorded.result_ofExcept,
    Recorded.mapError, result_lookUpLine]
  change Except.map Answer.location (Except.mapError Failure.oversize (comparison.side side).found.index.result >>= fun index =>
    .ok (index.reverse? line)) = _
  cases (comparison.side side).found.index.result <;> rfl

theorem answer_select_of_error {before : Conversation} {shown : ActiveView} {place : Nat} {item : Match}
    (active : before.session.active = some shown) (there : shown.found[place]? = some item) {refused : Numeral.Oversize}
    (failed : item.index.result = .error refused) :
    ((Call.select place).perform before).answer = .error (.oversize refused) := by
  obtain ⟨-, none⟩ | ⟨view, other, record, activeToo, counted, thereToo, request⟩ := before.session.select_cases place
  · rw [none shown place active rfl] at there
    cases there
  · cases Option.some.inj (active.symm.trans activeToo)
    cases Int.ofNat.inj counted
    cases Option.some.inj (there.symm.trans thereToo)
    rw [Call.perform, request]
    apply answer_ofReply_of_error
    rw [answer_finish, viewAt, Recorded.result_bind, Recorded.mapError, failed]
    rfl

theorem select_of_ok {before : Conversation} {shown : ActiveView} {place : Nat} {item : Match} {index : LineIndex}
    (active : before.session.active = some shown) (there : shown.found[place]? = some item)
    (built : item.index.result = .ok index) (context : Option Nat) (line : Int) :
    (∃ view, ((Call.select place).perform before).answer = .ok (.view view)) ∧
      ((Call.locate context line).perform ((Call.select place).perform before).after).answer =
        .ok (.location (index.reverse? line)) := by
  obtain ⟨view, installed, shows⟩ := select_shows active there built
  refine ⟨⟨view, answer_ofReply_of_ok installed.answered⟩, ?_⟩
  have located := result_locationOf installed.active shows line
  change (((before.session.select place).session.locationOf line).result.map Answer.location) = _
  rw [located]
  rfl

/-- What it means that a line of a comparison can be followed. Any calls may have been made since the comparison. -/
structure Comparison.Follows (comparison : Comparison) (start : Conversation) (side : Side) (position line : Int) : Prop where
  shown : ∃ (place : Nat) (text : String), line = place ∧ comparison.alignment.textAt? side position = some text ∧
    (comparison.side side).found.kernel.listing.lines[place]? = some text
  selectable : ∃ view, start.session.active = some view ∧
    view.found[(comparison.side side).place]? = some (comparison.side side).found
  agrees : ∀ (others later : List Call) (view : ActiveView) (place : Nat), (start.run others).session.active = some view →
    view.found[place]? = some (comparison.side side).found → ∀ context otherContext : Option Nat,
      let selected := (Call.select place).perform (start.run others)
      let followed := (Call.locateCompared context (some comparison) side.name line).perform (start.run later)
      ((∃ chosen, selected.answer = .ok (.view chosen)) ↔ ∃ location, followed.answer = .ok (.location location)) ∧
        ∀ chosen, selected.answer = .ok (.view chosen) →
          ((Call.locate otherContext line).perform selected.after).answer = followed.answer

theorem Comparison.agrees_of_selected (comparison : Comparison) (side : Side) {selecting following : Conversation}
    {view : ActiveView} {place : Nat} (active : selecting.session.active = some view)
    (there : view.found[place]? = some (comparison.side side).found) (context otherContext : Option Nat) (line : Int) :
    ((∃ chosen, ((Call.select place).perform selecting).answer = .ok (.view chosen)) ↔
        ∃ location, ((Call.locateCompared context (some comparison) side.name line).perform following).answer =
          .ok (.location location)) ∧
      ∀ chosen, ((Call.select place).perform selecting).answer = .ok (.view chosen) →
        ((Call.locate otherContext line).perform ((Call.select place).perform selecting).after).answer =
          ((Call.locateCompared context (some comparison) side.name line).perform following).answer := by
  rw [answer_locateCompared]
  cases built : (comparison.side side).found.index.result with
  | error refused =>
    rw [answer_select_of_error active there built]
    simp [Except.mapError, Except.map]
  | ok index =>
    obtain ⟨chosen, located⟩ := select_of_ok active there built otherContext line
    exact ⟨iff_of_true chosen ⟨_, rfl⟩, fun _ _ => located⟩

/-- After any calls to a new session, a line that a comparison shows is that line of the listing of its match. To
follow it gives the location that is found if the match is selected, whatever is called in between. -/
theorem compared_line_follows_selection {workspace : String} {config : Config} {contexts : Nat → Bool} {calls : List Call}
    {position : Int} {comparison : Comparison}
    (compared : ((Call.compare position).perform ((Conversation.new workspace config contexts).run calls)).answer =
      .ok (.comparison comparison))
    (side : Side) {row line : Int} (located : comparison.alignment.locate? side row = some line) :
    comparison.Follows ((Call.compare position).perform ((Conversation.new workspace config contexts).run calls)).after side
      row line := by
  generalize reached : (Conversation.new workspace config contexts).run calls = before at compared
  have within : before.session.Within := by
    rw [← reached]
    apply Conversation.within_run
    intro view active
    cases active
  have made : before.session.compare position = .ok comparison := by
    simp only [Call.perform, Outcome.ofComparison] at compared
    cases answer : before.session.compare position with
    | error failure => simp [answer] at compared
    | ok other =>
      simp only [answer, Except.ok.injEq, Answer.comparison.injEq] at compared
      rw [compared]
  have same : ((Call.compare position).perform before).after = before := by
    simp only [Call.perform, Outcome.ofComparison, made]
  rw [same]
  obtain ⟨view, active, there, aligned⟩ := exists_of_compare made
  refine ⟨?_, ⟨view, active, there side⟩, ?_⟩
  · have kernel := Comparison.kernel_alignment aligned side
    rw [aligned] at located kernel ⊢
    obtain ⟨place, text, shown, rfl, column⟩ := Alignment.getElem?_lines_of_locate? located
    rw [kernel] at shown ⊢
    obtain ⟨index, counted, there⟩ :=
      (within view active _ (List.mem_of_getElem? (there side))).getElem?_lines shown
    exact ⟨index, text, counted, column, there⟩
  · intro others later shown place activeThen thereThen context otherContext
    exact comparison.agrees_of_selected side activeThen thereThen context otherContext line

end

theorem compare_of_shows {session : Session} {view : ActiveView} {found : List Match} {place other : Nat}
    {selected right : Match} {index : LineIndex} (active : session.active = some view)
    (shown : view.Shows found place selected index) (there : found[other]? = some right) :
    session.compare other = .ok ⟨⟨place, selected⟩, ⟨other, right⟩, .check ⟨place, selected⟩ (Placed.list found),
      .check ⟨other, right⟩ (Placed.list found), .ofKernels selected.kernel right.kernel⟩ := by
  have position : ((other : Int).toNat?.bind fun place => found[place]?.map (Placed.mk place)) = some ⟨other, right⟩ := by
    change (found[other]?.map (Placed.mk other)) = _
    rw [there]
    rfl
  simp only [compare, selection, active, Option.bind_some, shown.selection?, Option.map_some]
  simp only [Bind.bind, Except.bind, shown.found_eq, position]
  rfl

/-- A session that shows the newer of two builds. -/
def showingNewer : Conversation :=
  (Conversation.new "w" Command.bothConfigured fun _ => false).run [.refresh Command.twoBuildsWorld.tree ⟨"x/a.hip", 7⟩]

/-- The older build is compared with it, and its last line is followed. -/
theorem compared_line_follows_selection_twoBuilds :
    ∃ comparison, ((Call.compare 2).perform showingNewer).answer = .ok (.comparison comparison) ∧
      comparison.alignment.locate? .right 2 = some 4 ∧
        comparison.Follows ((Call.compare 2).perform showingNewer).after .right 2 4 := by
  obtain ⟨view, newer, index, installed, shows⟩ := Command.refresh_twoBuilds
  have active : showingNewer.session.active = some view := installed.active
  obtain ⟨older, there⟩ : ∃ older, Query.twoBuildsFound[2]? = some older := ⟨_, rfl⟩
  have compared := compare_of_shows active shows there
  have answered := congrArg (fun answer => (Outcome.ofComparison showingNewer answer).answer) compared
  have located : (Alignment.ofKernels newer.kernel older.kernel).locate? .right 2 = some 4 := by
    cases there
    exact Alignment.locate?_of_getElem?_lines rfl
  exact ⟨_, answered, located, compared_line_follows_selection answered .right located⟩

end Session

end KernelAtlas
