import KernelAtlas.Command
import KernelAtlas.Proofs.Provenance
import KernelAtlas.Proofs.SessionView

/-! Searching for a source line and looking up an assembly line are inverse to each other.

A search has a line and builds the index of one source file for each listing; a lookup has none, selects
by position and uses the index of the whole listing. Both find the same matches in the same order, and the
two indexes agree on the file of a match. -/

set_option autoImplicit false

namespace KernelAtlas.Command

open Query (twoKernels olderBuild twoBuilds twoBuildsFound)
open Report (MatchEntry Matches)

/-- A lookup succeeds and prints a source file and a line of it, counted from one. -/
def LooksUp (world : World) (scope : Scope) (source : String) (assemblyLine position : Int) (file : String) (line : Int) :
    Prop :=
  ∃ (report : LookupReport) (number : Nat), (number : Int) + 1 = line ∧
    (lookupReport world scope source (some assemblyLine) position).result = .ok report ∧
      report.location = some ⟨file, number⟩ ∧
        (perform world scope (.lookup (some source) (some assemblyLine) position)).result =
          .ok ⟨0, if scope.json then (report.toJson ⟨file, number⟩).render ++ "\n" else s!"{file}:{number + 1}\n"⟩

/-- The hits of an entry are the instructions of its kernel that are looked up to the queried line. -/
structure Inverse (world : World) (scope : Scope) (source : String) (line : Int) (entry : MatchEntry) (lines : List String)
    (table : SourceTable) : Prop where
  holds : world.tree.Holds entry.kernel.assemblyFile lines table
  looked_up : ∀ hit ∈ entry.hits, ∀ json : Bool,
    LooksUp world { scope with json } source (hit.1 + 1) entry.position entry.sourcePath line
  /-- Another number of the same file may have brought a lookup there, so it is excluded. -/
  hit : ∀ position : Nat, Listing.instructionAt lines position = true →
    entry.kernel.startLine ≤ position → position ≤ entry.kernel.endLine →
      (∀ fileId, table.get? fileId = some entry.sourcePath → fileId = entry.fileId) → ∀ json : Bool,
        LooksUp world { scope with json } source (position + 1) entry.position entry.sourcePath line →
          ∃ text, ((position : Int), text) ∈ entry.hits

theorem result_given {α : Type} (use : Absent) (value : α) : (given use (some value)).result = .ok value := rfl

section
variable {world : World} {scope : Scope} {config : Config} {query : Query}

theorem result_search_eq_ok_iff (found : List Match) :
    (world.search config scope query).result = .ok found ↔
      ∃ dumps discovered, (Discovery.dumps world.tree config scope.workspace).result = .ok dumps ∧
        (query.resolve dumps).result = .ok discovered ∧ orderMatches discovered = found := by
  simp only [World.search, World.dumps, Recorded.result_bind_eq_ok_iff, Recorded.result_mapError_eq_ok_iff,
    Recorded.result_pure, Except.ok.injEq]
  constructor
  · rintro ⟨dumps, read, discovered, resolved, same⟩
    exact ⟨dumps, discovered, read, resolved, same⟩
  · rintro ⟨dumps, discovered, read, resolved, same⟩
    exact ⟨dumps, read, discovered, resolved, same⟩

theorem exists_of_searchReport {report : Matches} (asked : 0 < query.line)
    (made : (searchReport world scope query).result = .ok report) :
    ∃ config found names, (world.config scope).result = .ok config ∧
      (world.search config scope query).result = .ok found ∧ report = .ofNames query found names := by
  have counted : ¬query.line < 0 := by omega
  simp only [searchReport, counted, if_false] at made
  obtain ⟨config, settings, made⟩ := (Recorded.result_bind_eq_ok_iff _ _ _).mp made
  obtain ⟨found, searched, made⟩ := (Recorded.result_bind_eq_ok_iff _ _ _).mp made
  obtain ⟨names, -, made⟩ := (Recorded.result_bind_eq_ok_iff _ _ _).mp made
  exact ⟨config, found, names, settings, searched, (Except.ok.inj made).symm⟩

theorem status_of_ofReport {α : Type} {json : Bool} {toJson : α → Json} {text : α → Except Report.Failure String}
    {report : α} {output : Output} (printed : (Output.ofReport json toJson text report).result = .ok output) :
    output.status = 0 := by
  unfold Output.ofReport at printed
  cases json with
  | true =>
    cases printed
    rfl
  | false =>
    obtain ⟨shown, -, same⟩ := (Recorded.result_bind_eq_ok_iff _ _ _).mp printed
    cases same
    rfl

theorem getElem?_entries {found : List Match} {names : List String} {place : Nat} {entry : MatchEntry}
    (there : (Matches.ofNames query found names).entries[place]? = some entry) :
    ∃ name item, found[place]? = some item ∧ entry = MatchEntry.ofPlaced (Placed.list found) name ⟨place, item⟩ := by
  simp only [Matches.ofNames, List.getElem?_map, Option.map_eq_some_iff] at there
  obtain ⟨⟨name, placed⟩, both, rfl⟩ := there
  have second := (List.getElem?_zip_eq_some.mp both).2
  rw [Placed.getElem?_list] at second
  obtain ⟨item, present, rfl⟩ := Option.map_eq_some_iff.mp second
  exact ⟨name, item, present, rfl⟩

-- A refresh has selected the first match already; any other one is selected by its place.
theorem chosen_shows {reply : Session.Reply ActiveView} {view : ActiveView} {found : List Match} {first item : Match}
    {firstIndex index : LineIndex} {place : Nat} (installed : Session.Installs reply view)
    (shown : view.Shows found 0 first firstIndex) (there : found[place]? = some item)
    (built : item.index.result = .ok index) :
    ∃ next, Session.Installs (if (place : Int) = 0 then { reply with answer := return view } else
      reply.session.select place) next ∧ next.Shows found place item index := by
  by_cases zero : place = 0
  · have same : item = first := by
      rw [zero] at there
      exact Option.some.inj (there.symm.trans shown.there)
    have sameIndex : firstIndex = index := by
      rw [same] at built
      exact Except.ok.inj (shown.indexed.symm.trans built)
    refine ⟨view, ?_, ?_⟩
    · rw [if_pos (by omega)]
      exact ⟨rfl, installed.active⟩
    · rw [zero, same, ← sameIndex]
      exact shown
  · have other : ¬(place : Int) = 0 := by omega
    rw [← shown.found_eq] at there ⊢
    rw [if_neg other]
    exact Session.select_shows installed.active there built

section
variable {source : String} {found : List Match} {place : Nat} {item : Match} {index : LineIndex}
  (settings : (world.config scope).result = .ok config)
  (searched : (world.search config scope ⟨source, 0⟩).result = .ok found)
  (indexed : ∀ item ∈ found, ∃ index, item.index.result = .ok index) (there : found[place]? = some item)
  (built : item.index.result = .ok index)
include settings searched indexed there built

theorem result_lookupReport (assemblyLine : Int) :
    (lookupReport world scope source (some assemblyLine) place).result =
      .ok ⟨item, assemblyLine, index.reverse? (assemblyLine - 1)⟩ := by
  obtain ⟨dumps, discovered, read, resolved, order⟩ := (result_search_eq_ok_iff found).mp searched
  cases found with
  | nil => simp at there
  | cons first rest =>
    obtain ⟨firstIndex, firstBuilt⟩ := indexed first List.mem_cons_self
    have latest : (orderMatches discovered)[0]? = some first := by rw [order]; rfl
    obtain ⟨view, installed, shown⟩ :=
      Session.refresh_shows (Session.new scope.workspace config) read resolved latest firstBuilt
    rw [order] at shown
    apply Recorded.result_bind_of_ok settings
    apply Recorded.result_bind_of_ok (Recorded.result_mapError_of_ok installed.answered)
    simp only [shown.found_eq]
    obtain ⟨chosen, installedToo, shownToo⟩ := chosen_shows installed shown there built
    have located := Session.result_locationOf installedToo.active shownToo (assemblyLine - 1)
    apply Recorded.result_bind_of_ok (Recorded.result_mapError_of_ok installedToo.answered)
    apply Recorded.result_bind_of_ok (result_given .assemblyLine assemblyLine)
    apply Recorded.result_bind_of_ok (Recorded.result_mapError_of_ok located)
    rw [shownToo.selection?]
    rfl

theorem looksUp_iff (json : Bool) (assemblyLine : Int) (file : String) (line : Int) :
    LooksUp world { scope with json } source assemblyLine place file line ↔
      ∃ number : Nat, (number : Int) + 1 = line ∧ index.reverse? (assemblyLine - 1) = some ⟨file, number⟩ := by
  -- The settings and the matches do not depend on the form of the output.
  have made : (lookupReport world { scope with json } source (some assemblyLine) place).result =
      .ok ⟨item, assemblyLine, index.reverse? (assemblyLine - 1)⟩ :=
    result_lookupReport settings searched indexed there built assemblyLine
  constructor
  · rintro ⟨report, number, counted, other, reported, -⟩
    have same := Except.ok.inj (made.symm.trans other)
    rw [← same] at reported
    exact ⟨number, counted, reported⟩
  · rintro ⟨number, counted, reported⟩
    refine ⟨_, number, counted, made, reported, ?_⟩
    apply Recorded.result_bind_of_ok made
    simp only [LookupReport.output, reported]
    rfl

end

/-- A search without a line finds the same matches, without their hits, at the same places. -/
theorem search_withoutLine {found : List Match} (searched : (world.search config scope query).result = .ok found) :
    (world.search config scope query.withoutLine).result = .ok (found.map Match.bare) := by
  obtain ⟨dumps, discovered, read, resolved, rfl⟩ := (result_search_eq_ok_iff found).mp searched
  obtain ⟨listings, -, parsed⟩ := (Discovery.dumps_eq_ok_iff _ _ _ _).mp read
  apply (result_search_eq_ok_iff _).mpr
  exact ⟨dumps, discovered.map Match.bare, read, Query.resolve_withoutLine parsed resolved, orderMatches_map_bare discovered⟩

theorem match_of_search {found : List Match} (searched : (world.search config scope query).result = .ok found)
    (asked : 0 < query.line) {item : Match} (member : item ∈ found) :
    world.tree.Holds item.kernel.listing.path item.kernel.listing.lines item.kernel.table ∧
      query.Answers item.kernel item ∧ ∃ index, item.index.result = .ok index := by
  obtain ⟨dumps, discovered, read, resolved, rfl⟩ := (result_search_eq_ok_iff found).mp searched
  obtain ⟨listings, -, parsed⟩ := (Discovery.dumps_eq_ok_iff _ _ _ _).mp read
  have present : item ∈ discovered := (latestFirst_perm Match.time discovered).mem_iff.mp member
  obtain ⟨among, answers, -⟩ := Query.alone_of_mem_resolve parsed resolved present
  exact ⟨Discovery.holds_of_mem_kernelsOf read among, answers,
    Query.exists_index_of_mem_resolve parsed resolved asked present⟩

theorem inverse_of_search {source : String} {line : Int} {found : List Match} {place : Nat} {item : Match}
    (settings : (world.config scope).result = .ok config)
    (searched : (world.search config scope ⟨source, line⟩).result = .ok found) (asked : 0 < line)
    (there : found[place]? = some item) (name : String) :
    Inverse world scope source line (MatchEntry.ofPlaced (Placed.list found) name ⟨place, item⟩)
      item.kernel.listing.lines item.kernel.table := by
  obtain ⟨holds, answers, index, built⟩ := match_of_search searched asked (List.mem_of_getElem? there)
  have valid : item.kernel.table.WellFormed := by
    obtain ⟨bytes, modified, -, -, declared⟩ := holds
    exact SourceTable.wellFormed_of_ofLines declared
  -- A lookup finds the matches without their hits, but at the same places and with the same listings.
  have indexed : ∀ bare ∈ found.map Match.bare, ∃ index, bare.index.result = .ok index := by
    intro bare member
    obtain ⟨other, present, rfl⟩ := List.mem_map.mp member
    exact (match_of_search searched asked present).2.2
  have bareThere : (found.map Match.bare)[place]? = some item.bare := by
    rw [List.getElem?_map, there]
    rfl
  have lookup := looksUp_iff settings (search_withoutLine searched) indexed bareThere built
  refine ⟨holds, ?_, ?_⟩
  · intro hit member json
    obtain ⟨position, among, rfl⟩ := List.mem_map.mp member
    apply (lookup json _ _ _).mpr
    rw [Int.add_sub_cancel]
    exact answers.reverse?_of_mem_hits asked valid built among
  · intro position instruction first last single json looked
    obtain ⟨number, counted, back⟩ := (lookup json _ _ _).mp looked
    have inside : item.kernel.contains position = true := by
      simp only [MatchEntry.ofPlaced, Report.Summary.ofKernel, Kernel.last] at first last
      simp only [Kernel.contains, Bool.and_eq_true, decide_eq_true_eq]
      omega
    rw [Int.add_sub_cancel] at back
    have member : position ∈ item.hits :=
      answers.mem_hits_of_reverse? asked built single inside instruction counted back
    exact ⟨_, List.mem_map.mpr ⟨position, member, rfl⟩⟩

/-- A search for a line prints a report in which each hit is looked up to that line, and each instruction that
is looked up to it is a hit. -/
theorem search_lookup_inverse {source : String} {line : Int} {output : Output} (asked : 1 ≤ line)
    (performed : (perform world scope (.search (some source) (some line))).result = .ok output) :
    ∃ report, (searchReport world scope ⟨source, line⟩).result = .ok report ∧
      (Output.ofReport scope.json Matches.toJson Matches.text report).result = .ok output ∧ output.status = 0 ∧
        ∀ (place : Nat) (entry : MatchEntry), report.entries[place]? = some entry →
          entry.position = place ∧ ∃ lines table, Inverse world scope source line entry lines table := by
  obtain ⟨number, same, performed⟩ := (Recorded.result_bind_eq_ok_iff _ _ _).mp performed
  cases same
  obtain ⟨report, made, printed⟩ := (Recorded.result_bind_eq_ok_iff _ _ _).mp performed
  refine ⟨report, made, printed, status_of_ofReport printed, ?_⟩
  intro place entry there
  have positive : 0 < (⟨source, line⟩ : Query).line := asked
  obtain ⟨config, found, names, settings, searched, rfl⟩ := exists_of_searchReport positive made
  obtain ⟨name, item, present, rfl⟩ := getElem?_entries there
  exact ⟨rfl, _, _, inverse_of_search settings searched asked present name⟩

end

def buildEntries (listing : Listing) (modified : Timestamp) : List (String × FileTree.Node) :=
  let text := ['\n'].intercalate (listing.lines.map String.toList)
  [(listing.name, .file (text.map fun c => c.toNat.toUInt8) modified)]

/-- A workspace with two builds, and a demangler that finds nothing to demangle. -/
def twoBuildsWorld : World where
  tree := ⟨[("w", .directory [("build", .directory (buildEntries twoKernels ⟨2000000000⟩)),
    ("old", .directory (buildEntries olderBuild ⟨1000000000⟩))])], []⟩
  environment := ""
  demangler := fun request => .printed request.input
  nesting := 989
  denied := none
  room := 200

def bothBuilds : Scope := ⟨"w", [some "build", some "old"], true⟩

def bothConfigured : Config :=
  { Config.default with buildDirectories := [Text.codePoints "build", Text.codePoints "old"] }

theorem dumps_twoBuilds :
    (Discovery.dumps twoBuildsWorld.tree bothConfigured "w").result = .ok twoBuilds := by
  apply (Discovery.dumps_eq_ok_iff _ _ _ _).mpr
  refine ⟨[twoKernels, olderBuild], ?_, Query.read_twoBuilds⟩
  refine Recorded.result_bind_of_ok ((Recorded.result_mapM_eq_ok_iff _ _ [[twoKernels], [olderBuild]]).mpr ?_) rfl
  -- The walk is the only part that does not compute, and neither build has subdirectories.
  have build : twoBuildsWorld.tree.directoryAt (Path.join "w" "build") =
      .ok ⟨["build", "w"], buildEntries twoKernels ⟨2000000000⟩⟩ := rfl
  have old : twoBuildsWorld.tree.directoryAt (Path.join "w" "old") =
      .ok ⟨["old", "w"], buildEntries olderBuild ⟨1000000000⟩⟩ := rfl
  have present : Discovery.presentBuild? twoBuildsWorld.tree "w" (Text.codePoints "build") = some "build" := by
    decide +kernel
  have presentToo : Discovery.presentBuild? twoBuildsWorld.tree "w" (Text.codePoints "old") = some "old" := by
    decide +kernel
  refine .cons ?_ (.cons ?_ .nil)
  · rw [Discovery.result_scanBuild present, Discovery.findings,
      FileTree.walk_of_flat build (by decide +kernel) (by decide +kernel)]
    decide +kernel
  · rw [Discovery.result_scanBuild presentToo, Discovery.findings,
      FileTree.walk_of_flat old (by decide +kernel) (by decide +kernel)]
    decide +kernel

theorem search_lookup_inverse_twoBuilds :
    ∃ output report, (perform twoBuildsWorld bothBuilds (.search (some "x/a.hip") (some 7))).result = .ok output ∧
      (searchReport twoBuildsWorld bothBuilds ⟨"x/a.hip", 7⟩).result = .ok report ∧
        report.entries.map (fun entry => entry.hits.map Prod.fst) = [[5], [8, 12], [4]] ∧
          ∀ (place : Nat) (entry : MatchEntry), report.entries[place]? = some entry →
            entry.position = place ∧
              ∃ lines table, Inverse twoBuildsWorld bothBuilds "x/a.hip" 7 entry lines table := by
  have settings : (twoBuildsWorld.config bothBuilds).result = .ok bothConfigured := by decide +kernel
  have searched : (twoBuildsWorld.search bothConfigured bothBuilds ⟨"x/a.hip", 7⟩).result = .ok twoBuildsFound := by
    apply (result_search_eq_ok_iff _).mpr
    refine ⟨twoBuilds, twoBuildsFound, dumps_twoBuilds, Query.resolve_twoBuilds, ?_⟩
    exact List.mergeSort_of_pairwise (by decide +kernel)
  have named : (twoBuildsWorld.names bothConfigured (twoBuildsFound.map Match.kernel)).result =
      .ok ["kernel_one", "kernel_two", "kernel_one"] := by decide +kernel
  have made : (searchReport twoBuildsWorld bothBuilds ⟨"x/a.hip", 7⟩).result =
      .ok (.ofNames ⟨"x/a.hip", 7⟩ twoBuildsFound ["kernel_one", "kernel_two", "kernel_one"]) := by
    apply Recorded.result_bind_of_ok settings
    apply Recorded.result_bind_of_ok searched
    apply Recorded.result_bind_of_ok named
    rfl
  obtain ⟨output, performed⟩ : ∃ output,
      (perform twoBuildsWorld bothBuilds (.search (some "x/a.hip") (some 7))).result = .ok output :=
    ⟨_, Recorded.result_bind_of_ok (result_given .line 7) (Recorded.result_bind_of_ok made rfl)⟩
  obtain ⟨report, madeToo, -, -, inverse⟩ := search_lookup_inverse (by decide) performed
  refine ⟨output, report, performed, madeToo, ?_, inverse⟩
  cases made.symm.trans madeToo
  decide +kernel

end KernelAtlas.Command
