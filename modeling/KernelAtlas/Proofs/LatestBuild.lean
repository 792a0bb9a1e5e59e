import KernelAtlas.Proofs.SearchLookup
import Mathlib.Data.List.Nodup

/-! Which build of a kernel is the latest.

Matches are ordered by a stable sort, the staleness of a match looks for the first of the latest versions, and the
other versions of a match leave out the match itself. All three break ties by the order in which the matches were
found, so they name the same build, whether or not the matches have been ordered before. -/

set_option autoImplicit false

namespace KernelAtlas

section
variable {α : Type} (time : α → Rat)

theorem filter_time_latestFirst (items : List α) (moment : Rat) :
    (latestFirst time items).filter (fun item => time item = moment) = items.filter fun item => time item = moment :=
  filter_mergeSort_of_key time items moment

variable {time}

theorem time_le_of_head {first : α} {rest : List α}
    (sorted : (first :: rest).Pairwise fun left right => time right ≤ time left) :
    ∀ item ∈ first :: rest, time item ≤ time first := by
  intro item member
  rcases List.mem_cons.mp member with rfl | later
  · exact Rat.le_refl
  · exact (List.pairwise_cons.mp sorted).1 item later

theorem mem_iff_of_filter_time_eq {left right : List α}
    (same : ∀ moment, left.filter (fun item => time item = moment) = right.filter fun item => time item = moment)
    (item : α) : item ∈ left ↔ item ∈ right := by
  have equal := congrArg (item ∈ ·) (same (time item))
  simpa using equal

/-- A sorted list is known by its items of each time. -/
theorem eq_of_filter_time_eq {left right : List α}
    (leftSorted : left.Pairwise fun before after => time after ≤ time before)
    (rightSorted : right.Pairwise fun before after => time after ≤ time before)
    (same : ∀ moment, left.filter (fun item => time item = moment) = right.filter fun item => time item = moment) :
    left = right := by
  have members := mem_iff_of_filter_time_eq same
  induction left generalizing right with
  | nil =>
    cases right with
    | nil => rfl
    | cons first rest => exact absurd ((members first).mpr List.mem_cons_self) List.not_mem_nil
  | cons first rest ih =>
    cases right with
    | nil => exact absurd ((members first).mp List.mem_cons_self) List.not_mem_nil
    | cons other others =>
      -- Both lists start with their latest time, and so with the first item of that time.
      have times : time first = time other :=
        Rat.le_antisymm (time_le_of_head rightSorted first ((members first).mp List.mem_cons_self))
          (time_le_of_head leftSorted other ((members other).mpr List.mem_cons_self))
      have heads : first = other := by
        have equal := same (time first)
        simp only [List.filter_cons, decide_true, if_true, times, List.cons.injEq] at equal
        exact equal.1
      subst heads
      have rests : ∀ moment, rest.filter (fun item => time item = moment) =
          others.filter fun item => time item = moment := by
        intro moment
        have equal := same moment
        by_cases hit : time first = moment
        · simpa [hit] using equal
        · simpa [hit] using equal
      rw [ih (List.pairwise_cons.mp leftSorted).2 (List.pairwise_cons.mp rightSorted).2 rests
        (mem_iff_of_filter_time_eq rests)]

variable (time)

theorem filter_latestFirst (kept : α → Bool) (items : List α) :
    (latestFirst time items).filter kept = latestFirst time (items.filter kept) := by
  refine eq_of_filter_time_eq ((latestFirst_sorted time items).filter kept) (latestFirst_sorted time _) ?_
  intro moment
  rw [filter_time_latestFirst, List.filter_comm, filter_time_latestFirst, List.filter_comm]

theorem latestFirst_of_sorted {items : List α} (sorted : items.Pairwise fun left right => time right ≤ time left) :
    latestFirst time items = items :=
  List.mergeSort_of_pairwise (sorted.imp fun before => decide_eq_true before)

theorem latestOf_cons (first item : α) (rest : List α) :
    latestOf time first (item :: rest) = latestOf time (if time first < time item then item else first) rest := rfl

theorem time_le_latestOf (first : α) (rest : List α) :
    ∀ item ∈ first :: rest, time item ≤ time (latestOf time first rest) := by
  induction rest generalizing first with
  | nil =>
    intro item member
    rw [List.mem_singleton.mp member]
    exact Rat.le_refl
  | cons next rest ih =>
    rw [latestOf_cons, List.forall_mem_cons, List.forall_mem_cons]
    by_cases later : time first < time next
    · rw [if_pos later]
      have bound := ih next
      rw [List.forall_mem_cons] at bound
      exact ⟨Rat.le_trans (Rat.le_of_lt later) bound.1, bound⟩
    · rw [if_neg later]
      have bound := ih first
      rw [List.forall_mem_cons] at bound
      exact ⟨bound.1, Rat.le_trans (Rat.not_lt.mp later) bound.1, bound.2⟩

theorem find?_latestOf (first : α) (rest : List α) :
    (first :: rest).find? (fun item => time item = time (latestOf time first rest)) =
      some (latestOf time first rest) := by
  induction rest generalizing first with
  | nil => simp [latestOf]
  | cons next rest ih =>
    rw [latestOf_cons]
    by_cases later : time first < time next
    · rw [if_pos later]
      have below : time first < time (latestOf time next rest) :=
        Std.lt_of_lt_of_le later (time_le_latestOf time next rest next List.mem_cons_self)
      rw [List.find?_cons_of_neg (by simpa using Rat.ne_of_lt below)]
      exact ih next
    · rw [if_neg later]
      have found := ih first
      by_cases hit : time first = time (latestOf time first rest)
      · rw [List.find?_cons_of_pos (by simpa using hit)] at found ⊢
        exact found
      · have below : time first < time (latestOf time first rest) :=
          Std.lt_of_le_of_ne (time_le_latestOf time first rest first List.mem_cons_self) hit
        have nextBelow := Std.lt_of_le_of_lt (Rat.not_lt.mp later) below
        rw [List.find?_cons_of_neg (by simpa using hit)] at found ⊢
        rw [List.find?_cons_of_neg (by simpa using Rat.ne_of_lt nextBelow)]
        exact found

/-- A stable sort puts the first of the latest items in front. -/
theorem head?_latestFirst (first : α) (rest : List α) :
    (latestFirst time (first :: rest)).head? = some (latestOf time first rest) := by
  have found := find?_latestOf time first rest
  have upper := time_le_latestOf time first rest
  have member := latestOf_mem time first rest
  generalize latestOf time first rest = latest at found upper member
  have perm := latestFirst_perm time (first :: rest)
  have sorted := latestFirst_sorted time (first :: rest)
  rw [← List.head?_filter, ← filter_time_latestFirst, List.head?_filter] at found
  cases order : latestFirst time (first :: rest) with
  | nil => simp [order] at perm
  | cons head tail =>
    rw [order] at perm sorted found
    -- The head and the latest item both have the latest time.
    have times : time head = time latest :=
      Rat.le_antisymm (upper head (perm.mem_iff.mp List.mem_cons_self))
        (time_le_of_head sorted latest (perm.mem_iff.mpr member))
    rw [List.find?_cons_of_pos (by simpa using times)] at found
    exact found

end

theorem orderMatches_sorted (found : List Match) :
    (orderMatches found).Pairwise fun left right => right.time ≤ left.time := latestFirst_sorted Match.time found

namespace Placed

def ordered (items : List Placed) : List Placed := latestFirst time items

theorem map_found_list (found : List Match) : (list found).map Placed.found = found := by
  simp [list, Function.comp_def]

theorem map_found_ordered (found : List Match) : (ordered (list found)).map Placed.found = orderMatches found := by
  rw [ordered, latestFirst, orderMatches, latestFirst]
  conv_rhs => rw [← map_found_list found]
  apply List.map_mergeSort
  intro left _ right _
  rfl

theorem versions_ordered (selected : Placed) (items : List Placed) :
    selected.versions (ordered items) = ordered (selected.versions items) :=
  filter_latestFirst time _ items

theorem comparable_eq (selected : Placed) (items : List Placed) :
    selected.comparable items = (ordered (selected.versions items)).filter fun item => item.place ≠ selected.place :=
  (filter_latestFirst time _ _).symm

theorem mem_versions_self {selected : Placed} {items : List Placed} (member : selected ∈ items) :
    selected ∈ selected.versions items := by
  simp [versions, member]

@[simp] theorem sameFile_self (item : Placed) : item.sameFile item = true := by
  simp [sameFile]

theorem mem_list_iff (found : List Match) (item : Placed) : item ∈ list found ↔ found[item.place]? = some item.found := by
  obtain ⟨place, record⟩ := item
  simp [list, List.mem_zipIdx_iff_getElem?]

theorem eq_of_place_eq {found : List Match} {left right : Placed} (inLeft : left ∈ list found) (inRight : right ∈ list found)
    (same : left.place = right.place) : left = right := by
  obtain ⟨place, record⟩ := left
  obtain ⟨other, recordToo⟩ := right
  cases same
  rw [mem_list_iff] at inLeft inRight
  cases Option.some.inj (inLeft.symm.trans inRight)
  rfl

theorem nodup_place_list (found : List Match) : ((list found).map place).Nodup := by
  have places : (list found).map place = List.range found.length := by
    simp [list, Function.comp_def, List.zipIdx_map_snd, List.range_eq_range']
  rw [places]
  exact List.nodup_range

theorem length_versions_list {found : List Match} {selected : Placed} (member : selected ∈ list found) :
    (selected.versions (list found)).length = 1 + (selected.comparable (list found)).length := by
  have places : ((selected.versions (list found)).map place).Nodup :=
    (nodup_place_list found).sublist (List.filter_sublist.map place)
  have once : (selected.versions (list found)).countP (fun item => item.place = selected.place) = 1 := by
    have counted := List.count_eq_one_of_mem places (List.mem_map_of_mem (mem_versions_self member))
    rw [List.count, List.countP_map] at counted
    rw [← counted]
    congr 1
  rw [List.length_eq_countP_add_countP fun item => item.place = selected.place, once, comparable,
    (latestFirst_perm _ _).length_eq, List.countP_eq_length_filter]
  simp

end Placed

namespace Staleness

/-- For one of the candidates, the latest version is the first one in order, also if there is no other. -/
theorem check_of_mem {selected : Placed} {items : List Placed} (member : selected ∈ items) :
    ∃ latest, (Placed.ordered (selected.versions items)).head? = some latest ∧
      check selected items = ⟨!selected.sameFile latest, latest, (selected.versions items).length⟩ := by
  have present := Placed.mem_versions_self member
  unfold check
  match selected.versions items, present with
  | [only], present =>
    have same : selected = only := List.mem_singleton.mp present
    exact ⟨selected, by simp [Placed.ordered, latestFirst, same], by simp⟩
  | first :: second :: rest, _ => exact ⟨_, head?_latestFirst _ _ _, by simp⟩

/-- Of matches that are in order, the first version of a kernel is the latest. -/
theorem outdated_of_first {found : List Match} (sorted : found.Pairwise fun left right => right.time ≤ left.time)
    {selected : Placed}
    (first : (Placed.list found).find? (fun item => item.found.symbol = selected.found.symbol) = some selected) :
    (check selected (Placed.list found)).outdated = false := by
  have placedSorted : (Placed.list found).Pairwise fun left right => right.time ≤ left.time := by
    rw [← Placed.map_found_list found] at sorted
    exact List.pairwise_map.mp sorted
  obtain ⟨latest, head, checked⟩ := check_of_mem (List.mem_of_find?_eq_some first)
  rw [Placed.versions, Placed.ordered, latestFirst_of_sorted _ (placedSorted.filter _), List.head?_filter, first] at head
  cases head
  simp [checked]

end Staleness

namespace Placed

/-- Ordering, staleness and comparison of versions agree on the latest build. -/
structure LatestAgrees (found : List Match) (selected : Placed) : Prop where
  same_order : (ordered (list found)).map Placed.found = orderMatches found
  permutes : (ordered (list found)).Perm (list found)
  decreases : (ordered (list found)).Pairwise fun left right => right.time ≤ left.time
  keeps : ∀ moment, (ordered (list found)).filter (fun item => item.time = moment) =
    (list found).filter fun item => item.time = moment
  filters : ∀ symbol, (ordered (list found)).filter (fun item => item.found.symbol = symbol) =
    ordered ((list found).filter fun item => item.found.symbol = symbol)
  checked : Staleness.check selected (ordered (list found)) = Staleness.check selected (list found)
  first : (ordered (list found)).find? (fun item => item.found.symbol = selected.found.symbol) =
    some (Staleness.check selected (list found)).latest
  compared : (Staleness.check selected (list found)).latest ≠ selected →
    (selected.comparable (list found)).head? = some (Staleness.check selected (list found)).latest
  counted : (Staleness.check selected (list found)).versions = 1 + (selected.comparable (list found)).length

theorem latestAgrees {found : List Match} {place : Nat} {item : Match} (there : found[place]? = some item) :
    LatestAgrees found ⟨place, item⟩ := by
  have member : ⟨place, item⟩ ∈ list found := (mem_list_iff found _).mpr there
  generalize Placed.mk place item = selected at member
  obtain ⟨latest, head, checked⟩ := Staleness.check_of_mem member
  refine ⟨map_found_ordered found, latestFirst_perm _ _, latestFirst_sorted _ _, filter_time_latestFirst _ _,
    fun symbol => filter_latestFirst _ _ _, ?_, ?_, ?_, ?_⟩
  · obtain ⟨other, headToo, checkedToo⟩ :=
      Staleness.check_of_mem ((latestFirst_perm time (list found)).mem_iff.mpr member)
    rw [← ordered] at checkedToo headToo
    rw [versions_ordered] at headToo checkedToo
    have idem : ordered (ordered (selected.versions (list found))) = ordered (selected.versions (list found)) :=
      latestFirst_of_sorted _ (latestFirst_sorted _ _)
    rw [idem, head] at headToo
    cases headToo
    rw [checkedToo, checked, ordered, (latestFirst_perm _ _).length_eq]
  · rw [checked, ← head, ← versions_ordered, versions, List.head?_filter]
  · intro other
    rw [checked] at other ⊢
    rw [comparable_eq]
    have among : latest ∈ list found :=
      List.mem_of_mem_filter ((latestFirst_perm _ _).mem_iff.mp (List.mem_of_head? head))
    have apart : latest.place ≠ selected.place := fun same => other (eq_of_place_eq among member same)
    obtain ⟨tail, order⟩ := List.head?_eq_some_iff.mp head
    rw [order, List.filter_cons_of_pos (by simpa using apart), List.head?_cons]
  · rw [checked]
    exact length_versions_list member

end Placed

namespace Session

/-- Directly after a refresh that found something, the selected match is not outdated. -/
theorem staleness_refresh {session : Session} {tree : FileTree} {query : Query} {view : ActiveView}
    (answered : (session.refresh tree query).answer.result = .ok view) (filled : view.found ≠ []) :
    ∃ staleness, (session.refresh tree query).session.staleness = .ok staleness ∧ staleness.outdated = false := by
  rw [refresh, answer_finish] at answered
  have active : (session.refresh tree query).session.active = some view :=
    active_finish answered (generation_of_lookUp answered) refreshDisplays
  obtain ⟨dumps, discovered, -, -, ⟨-, rfl⟩ | ⟨item, index, first, -, rfl⟩⟩ := (lookUp_eq_ok_iff _ _ _ _ _).mp answered
  · exact absurd rfl filled
  · refine ⟨.check ⟨0, item⟩ (Placed.list (orderMatches discovered)), ?_, ?_⟩
    · simp [staleness, selection, active, ActiveView.selection?, first, Bind.bind, Except.bind, Pure.pure, Except.pure]
    · apply Staleness.outdated_of_first (orderMatches_sorted discovered)
      have head : (Placed.list (orderMatches discovered)).head? = some ⟨0, item⟩ := by
        rw [List.head?_eq_getElem?, Placed.getElem?_list, first]
        rfl
      obtain ⟨tail, order⟩ := List.head?_eq_some_iff.mp head
      rw [order, List.find?_cons_of_pos (by simp)]

end Session

namespace Command

open Query (twoBuilds twoBuildsFound)

section
variable {world : World} {scope : Scope} {config : Config} {source : String} {symbol : Option String}

theorem result_given_eq_ok_iff {β : Type} (use : Absent) (value : Option β) (needed : β) :
    (given use value).result = .ok needed ↔ value = some needed := by
  cases value <;> simp [given, Recorded.fail]

def versionsOf (symbol : Option String) (found : List Match) : List Placed :=
  (Placed.list found).filter fun item => some item.found.symbol = symbol

theorem diffReport_eq_ok_iff {left right width : Option Int} (report : DiffReport) :
    (diffReport world scope source symbol left right width).result = .ok report ↔
      ∃ config found leftVersion rightVersion columns names, (world.config scope).result = .ok config ∧
        (world.search config scope ⟨source, 0⟩).result = .ok found ∧
        (∃ position, left = some position ∧ (pick (versionsOf symbol found) position).result = .ok leftVersion) ∧
        (∃ position, right = some position ∧ (pick (versionsOf symbol found) position).result = .ok rightVersion) ∧
        width = some columns ∧
        (world.names config [leftVersion.found.kernel, rightVersion.found.kernel]).result = .ok names ∧
        report = ⟨.ofNames (.ofKernels leftVersion.found.kernel rightVersion.found.kernel) columns (names.headD "")
            (names.getLastD ""), (Staleness.check leftVersion (Placed.list found)).outdated,
          (Staleness.check rightVersion (Placed.list found)).outdated⟩ := by
  constructor
  · intro made
    obtain ⟨config, settings, made⟩ := (Recorded.result_bind_eq_ok_iff _ _ _).mp made
    obtain ⟨found, searched, made⟩ := (Recorded.result_bind_eq_ok_iff _ _ _).mp made
    obtain ⟨leftPosition, leftGiven, made⟩ := (Recorded.result_bind_eq_ok_iff _ _ _).mp made
    obtain ⟨leftVersion, leftPicked, made⟩ := (Recorded.result_bind_eq_ok_iff _ _ _).mp made
    obtain ⟨rightPosition, rightGiven, made⟩ := (Recorded.result_bind_eq_ok_iff _ _ _).mp made
    obtain ⟨rightVersion, rightPicked, made⟩ := (Recorded.result_bind_eq_ok_iff _ _ _).mp made
    obtain ⟨-, -, made⟩ := (Recorded.result_bind_eq_ok_iff _ _ _).mp made
    obtain ⟨columns, widthGiven, made⟩ := (Recorded.result_bind_eq_ok_iff _ _ _).mp made
    obtain ⟨names, named, made⟩ := (Recorded.result_bind_eq_ok_iff _ _ _).mp made
    exact ⟨config, found, leftVersion, rightVersion, columns, names, settings, searched,
      ⟨leftPosition, (result_given_eq_ok_iff _ _ _).mp leftGiven, leftPicked⟩,
      ⟨rightPosition, (result_given_eq_ok_iff _ _ _).mp rightGiven, rightPicked⟩,
      (result_given_eq_ok_iff _ _ _).mp widthGiven, named, (Except.ok.inj made).symm⟩
  · rintro ⟨config, found, leftVersion, rightVersion, columns, names, settings, searched, ⟨leftPosition, rfl, leftPicked⟩,
      ⟨rightPosition, rfl, rightPicked⟩, rfl, named, rfl⟩
    apply Recorded.result_bind_of_ok settings
    apply Recorded.result_bind_of_ok searched
    apply Recorded.result_bind_of_ok (result_given .version leftPosition)
    apply Recorded.result_bind_of_ok leftPicked
    apply Recorded.result_bind_of_ok (result_given .version rightPosition)
    apply Recorded.result_bind_of_ok rightPicked
    refine Recorded.result_bind_of_ok rfl ?_
    apply Recorded.result_bind_of_ok (result_given .width columns)
    exact Recorded.result_bind_of_ok named rfl

theorem head?_of_pick_zero {versions : List Placed} {version : Placed} (picked : (pick versions 0).result = .ok version) :
    versions.head? = some version := by
  cases versions with
  | nil => cases picked
  | cons first rest =>
    cases picked
    rfl

theorem outdated_version_zero {found : List Match} (searched : (world.search config scope ⟨source, 0⟩).result = .ok found)
    {version : Placed}
    (picked : (pick (versionsOf symbol found) 0).result = .ok version) :
    (Staleness.check version (Placed.list found)).outdated = false := by
  obtain ⟨dumps, discovered, -, -, rfl⟩ := (result_search_eq_ok_iff found).mp searched
  have head := head?_of_pick_zero picked
  have named : some version.found.symbol = symbol := by
    simpa using (List.mem_filter.mp (List.mem_of_head? head)).2
  apply Staleness.outdated_of_first (orderMatches_sorted discovered)
  rw [← named, versionsOf, List.head?_filter] at head
  simpa using head

end

/-- Ordering, staleness and comparison agree on which build of a kernel is the latest. So the match that a refresh
selects and the first version that is compared are never outdated. -/
theorem latest_build_agrees :
    (∀ (found : List Match) (place : Nat) (item : Match), found[place]? = some item →
      Placed.LatestAgrees found ⟨place, item⟩) ∧
    (∀ (session : Session) (tree : FileTree) (query : Query) (view : ActiveView),
      (session.refresh tree query).answer.result = .ok view → view.found ≠ [] →
        ∃ staleness, (session.refresh tree query).session.staleness = .ok staleness ∧ staleness.outdated = false) ∧
    ∀ (world : World) (scope : Scope) (source : String) (symbol : Option String) (left right width : Option Int)
      (report : DiffReport), (diffReport world scope source symbol left right width).result = .ok report →
        (left = some 0 → report.leftOutdated = false) ∧ (right = some 0 → report.rightOutdated = false) := by
  refine ⟨fun found place item => Placed.latestAgrees, fun _ _ _ _ => Session.staleness_refresh, ?_⟩
  intro world scope source symbol left right width report made
  obtain ⟨config, found, leftVersion, rightVersion, columns, names, -, searched, ⟨leftPosition, leftGiven, leftPicked⟩,
    ⟨rightPosition, rightGiven, rightPicked⟩, -, -, rfl⟩ := (diffReport_eq_ok_iff report).mp made
  constructor
  · intro zero
    cases leftGiven.symm.trans zero
    exact outdated_version_zero searched leftPicked
  · intro zero
    cases rightGiven.symm.trans zero
    exact outdated_version_zero searched rightPicked

theorem orderMatches_twoBuilds : orderMatches twoBuildsFound = twoBuildsFound :=
  List.mergeSort_of_pairwise (by decide +kernel)

theorem search_twoBuilds :
    (twoBuildsWorld.search bothConfigured bothBuilds ⟨"x/a.hip", 0⟩).result = .ok (twoBuildsFound.map Match.bare) := by
  have searched : (twoBuildsWorld.search bothConfigured bothBuilds ⟨"x/a.hip", 7⟩).result = .ok twoBuildsFound := by
    apply (result_search_eq_ok_iff _).mpr
    exact ⟨twoBuilds, twoBuildsFound, dumps_twoBuilds, Query.resolve_twoBuilds, orderMatches_twoBuilds⟩
  have bare := search_withoutLine searched
  exact bare

theorem refresh_twoBuilds :
    ∃ view latest index, Session.Installs ((Session.new "w" bothConfigured).refresh twoBuildsWorld.tree ⟨"x/a.hip", 7⟩) view ∧
      view.Shows twoBuildsFound 0 latest index := by
  obtain ⟨latest, there⟩ : ∃ latest, twoBuildsFound[0]? = some latest := ⟨_, rfl⟩
  obtain ⟨index, built⟩ := Query.exists_index_of_mem_resolve Query.read_twoBuilds Query.resolve_twoBuilds (by decide)
    (List.mem_of_getElem? there)
  rw [← orderMatches_twoBuilds] at there
  obtain ⟨view, installed, shown⟩ := Session.refresh_shows (Session.new "w" bothConfigured) dumps_twoBuilds
    Query.resolve_twoBuilds there built
  rw [orderMatches_twoBuilds] at shown
  exact ⟨view, latest, index, installed, shown⟩

/-- Found in the other order, the older of two builds is outdated. Neither the match that is selected first nor the
first version that is compared is. -/
theorem latest_build_agrees_twoBuilds :
    (∃ older, twoBuildsFound.reverse[0]? = some older ∧ Placed.LatestAgrees twoBuildsFound.reverse ⟨0, older⟩ ∧
      (Staleness.check ⟨0, older⟩ (Placed.list twoBuildsFound.reverse)).outdated = true ∧
        (Staleness.check ⟨0, older⟩ (Placed.list twoBuildsFound.reverse)).latest.place = 2) ∧
    (∃ view staleness, ((Session.new "w" bothConfigured).refresh twoBuildsWorld.tree ⟨"x/a.hip", 7⟩).answer.result = .ok view ∧
      view.found ≠ [] ∧
        ((Session.new "w" bothConfigured).refresh twoBuildsWorld.tree ⟨"x/a.hip", 7⟩).session.staleness = .ok staleness ∧
          staleness.outdated = false) ∧
    ∃ report, (diffReport twoBuildsWorld bothBuilds "x/a.hip" (some "kernel_one") (some 0) (some 1) (some 60)).result =
        .ok report ∧ report.leftOutdated = false ∧ report.rightOutdated = true := by
  obtain ⟨agrees, refreshed, compared⟩ := latest_build_agrees
  refine ⟨?_, ?_, ?_⟩
  · obtain ⟨older, there⟩ : ∃ older, twoBuildsFound.reverse[0]? = some older := ⟨_, rfl⟩
    refine ⟨older, there, agrees _ 0 older there, ?_⟩
    cases there
    decide +kernel
  · obtain ⟨view, latest, index, installed, shown⟩ := refresh_twoBuilds
    have filled : view.found ≠ [] := by
      rw [shown.found_eq]
      decide +kernel
    obtain ⟨staleness, answered, current⟩ := refreshed _ _ _ view installed.answered filled
    exact ⟨view, staleness, installed.answered, filled, answered, current⟩
  · have settings : (twoBuildsWorld.config bothBuilds).result = .ok bothConfigured := by decide +kernel
    obtain ⟨report, rightOutdated, made⟩ : ∃ report : DiffReport, report.rightOutdated = true ∧
        (diffReport twoBuildsWorld bothBuilds "x/a.hip" (some "kernel_one") (some 0) (some 1) (some 60)).result = .ok report := by
      refine ⟨_, ?_, (diffReport_eq_ok_iff _).mpr ⟨_, _, _, _, _, _, settings, search_twoBuilds, ⟨0, rfl, rfl⟩, ⟨1, rfl, rfl⟩, rfl,
        rfl, rfl⟩⟩
      decide +kernel
    exact ⟨report, made, (compared _ _ _ _ _ _ _ report made).1 rfl, rightOutdated⟩

end Command

end KernelAtlas
