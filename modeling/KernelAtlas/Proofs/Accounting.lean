import KernelAtlas.Proofs.FileIsolation
import KernelAtlas.Proofs.RegionTiling
import KernelAtlas.Proofs.WalkedFiles

/-! What becomes of everything between the disk and the matches of a query.

A build directory is scanned or reported, a file is read or reported, and the start of a region becomes a match or a
report: what a stage passes over it reports once, and a report takes nothing from what comes after it. -/

set_option autoImplicit false

namespace KernelAtlas

open Numeral (Oversize)

namespace Recorded

variable {ε α β : Type}

@[simp] theorem diagnostics_pure (value : α) : (Pure.pure value : Recorded ε α).diagnostics = [] := rfl

@[simp] theorem diagnostics_note (step : Journal.Progress) : (note step : Recorded ε Unit).diagnostics = [] := rfl

theorem diagnostics_bind_of_ok {first : Recorded ε α} {value : α} (done : first.result = .ok value)
    (next : α → Recorded ε β) : (first >>= next).diagnostics = first.diagnostics ++ (next value).diagnostics := by
  rw [diagnostics, entries_bind_of_ok done, Journal.diagnostics, List.filterMap_append]
  rfl

theorem diagnostics_bind_eq_nil {first : Recorded ε α} {next : α → Recorded ε β} (quiet : first.diagnostics = [])
    (after : ∀ value, (next value).diagnostics = []) : (first >>= next).diagnostics = [] := by
  cases done : first.result with
  | error failure => rw [diagnostics, entries_bind_of_error done, ← diagnostics, quiet]
  | ok value => rw [diagnostics_bind_of_ok done, quiet, after, List.append_nil]

theorem diagnostics_mapM_of_ok {step : α → Recorded ε β} {items : List α} {values : List β}
    (done : (items.mapM step).result = .ok values) :
    (items.mapM step).diagnostics = items.flatMap fun item => (step item).diagnostics := by
  have each := (result_mapM_eq_ok_iff step items values).mp done
  clear done
  induction each with
  | nil => rfl
  | @cons item value rest others first later ih =>
    have restDone := (result_mapM_eq_ok_iff step rest others).mpr later
    rw [List.mapM_cons, diagnostics_bind_of_ok first, diagnostics_bind_of_ok restDone, ih, diagnostics_pure,
      List.append_nil, List.flatMap_cons]

end Recorded

def Diagnostic.site (diagnostic : Diagnostic) : Option Text.Points × Option Int := (diagnostic.path, diagnostic.line)

def Kernel.site (kernel : Kernel) : Option Text.Points × Option Int :=
  (some (Text.codePoints kernel.listing.path), some kernel.start)

def Listing.sites (listing : Listing) : List (Option Text.Points × Option Int) :=
  (Listing.regionStarts listing.lines).map fun (start : Nat) => (some (Text.codePoints listing.path), some (start : Int))

theorem map_eq_map_of_forall₂ {α β γ : Type} {related : α → β → Prop} {left : α → γ} {right : β → γ} {items : List α}
    {others : List β} (each : List.Forall₂ related items others)
    (same : ∀ item other, related item other → left item = right other) : items.map left = others.map right := by
  induction each with
  | nil => rfl
  | cons first later ih => rw [List.map_cons, List.map_cons, same _ _ first, ih]

namespace Dump

variable {listing : Listing} {dump : Dump} (read : (ofListing listing).result = .ok dump)
include read

theorem diagnostics_ofListing :
    (ofListing listing).diagnostics = ((Listing.candidates listing.lines).filter fun span =>
      ¬Listing.Named listing.lines span).map (Listing.unnamed listing) := by
  obtain ⟨table, declared, same⟩ := (ofListing_eq_ok_iff listing dump).mp read
  have announced : (⟨dump.kernels.map announce, .ok dump⟩ : Recorded Oversize Dump).diagnostics = [] := by
    refine List.filterMap_eq_nil_iff.mpr fun entry member => ?_
    obtain ⟨kernel, -, rfl⟩ := List.mem_map.mp member
    rfl
  have made : (ofTable listing table).result = .ok dump := by
    rw [same]
    rfl
  have found : (listing.kernels table).result = .ok dump.kernels := by
    rw [same]
    rfl
  have tabled : (Recorded.ofExcept (SourceTable.ofLines listing.lines)).result = .ok table := declared
  rw [ofListing, Recorded.diagnostics_bind_of_ok tabled, Recorded.diagnostics_bind_of_ok made, ofTable,
    Recorded.diagnostics_bind_of_ok found, Recorded.diagnostics_pure, Listing.diagnostics_kernels, announced,
    List.append_nil, List.append_nil]
  rfl

theorem map_site_kernels :
    dump.kernels.map Kernel.site = ((Listing.candidates listing.lines).filter fun span =>
      Listing.Named listing.lines span).map fun span =>
        (some (Text.codePoints listing.path), some (span.1 : Int)) := by
  obtain ⟨table, declared, rfl⟩ := (ofListing_eq_ok_iff listing dump).mp read
  refine (map_eq_map_of_forall₂ (Listing.forall₂_candidates listing table) ?_).symm
  rintro span kernel ⟨shape, -⟩
  rw [shape]
  rfl

theorem pairwise_start_kernels : dump.kernels.Pairwise fun left right => left.start < right.start := by
  obtain ⟨table, declared, rfl⟩ := (ofListing_eq_ok_iff listing dump).mp read
  have starts : ((Listing.candidates listing.lines).filter fun span => Listing.Named listing.lines span).Pairwise
      fun left right => left.1 < right.1 := by
    have sorted := Listing.pairwise_regionStarts listing.lines
    rw [← Listing.map_fst_spans listing.lines.length (Listing.regionStarts listing.lines), List.pairwise_map] at sorted
    exact sorted.filter _
  have lines : ((Listing.candidates listing.lines).filter fun span => Listing.Named listing.lines span).map
      (fun span => (span.1 : Int)) =
        ((Listing.regions listing.lines).filterMap (Listing.Region.kernel? listing table)).map Kernel.start :=
    map_eq_map_of_forall₂ (Listing.forall₂_candidates listing table) fun span kernel shape => by rw [shape.1]
  rw [← List.pairwise_map (f := Kernel.start) (R := (· < ·)), ← lines, List.pairwise_map]
  exact starts.imp Int.ofNat_lt.mpr

/-- Every start of a region is that of a kernel or of a report. -/
theorem perm_sites :
    listing.sites.Perm (dump.kernels.map Kernel.site ++ (ofListing listing).diagnostics.map Diagnostic.site) := by
  rw [map_site_kernels read, diagnostics_ofListing read, List.map_map, Listing.sites,
    ← Listing.map_fst_spans listing.lines.length (Listing.regionStarts listing.lines), List.map_map]
  have halves := (List.filter_append_perm (fun span => decide (Listing.Named listing.lines span))
    (Listing.candidates listing.lines)).symm.map fun span =>
      ((some (Text.codePoints listing.path), some (span.1 : Int)) : Option Text.Points × Option Int)
  rw [List.map_append] at halves
  simpa [Function.comp_def, Diagnostic.site, Listing.unnamed, Listing.candidates] using halves

omit read in
theorem kind_of_mem_reports {listings : List Listing} {dumps : List Dump}
    (each : (listings.mapM ofListing).result = .ok dumps) :
    ∀ report ∈ listings.flatMap fun listing => (ofListing listing).diagnostics, report.kind = .noKernelSymbol := by
  intro report member
  obtain ⟨listing, among, inside⟩ := List.mem_flatMap.mp member
  rw [Recorded.result_mapM] at each
  obtain ⟨dump, parsed⟩ := exists_ok_of_mem each among
  rw [diagnostics_ofListing parsed] at inside
  obtain ⟨span, -, rfl⟩ := List.mem_map.mp inside
  rfl

end Dump

namespace Query

variable {query : Query}

theorem kernel_of_match? {kernel : Kernel} {found : Match} (made : query.match? kernel = some found) :
    found.kernel = kernel := by
  rcases (query.alone_eq_ok_iff kernel _).mp (alone_of_match? made) with
    ⟨-, none⟩ | ⟨fileId, path, -, ⟨-, index, -, same⟩ | ⟨-, same⟩⟩
  · cases none
  · cases same
    rfl
  · cases same
    rfl

theorem diagnostics_indexFor (kept : Indexes) (place : Nat) (kernel : Kernel) (fileId : Int) :
    (indexFor kept place kernel fileId).diagnostics = [] := by
  unfold indexFor
  cases kept.get? (place, fileId) with
  | some index => rfl
  | none => exact Recorded.diagnostics_bind_eq_nil rfl fun index => rfl

theorem diagnostics_hitsFor (query : Query) (kept : Indexes) (place : Nat) (kernel : Kernel) (fileId : Int)
    (path : String) : (query.hitsFor kept place kernel fileId path).diagnostics = [] := by
  unfold hitsFor
  split
  · exact Recorded.diagnostics_bind_eq_nil (diagnostics_indexFor kept place kernel fileId) fun made => rfl
  · rfl

theorem diagnostics_matchFor {kept : Indexes} {place : Nat} {kernel : Kernel} {made : Option Match × Indexes}
    (done : (query.matchFor kept place kernel).result = .ok made) :
    (query.matchFor kept place kernel).diagnostics = if query.refersTo kernel then [] else [query.mismatch kernel] := by
  have refers := query.refersTo_iff kernel
  unfold matchFor at done ⊢
  cases named : kernel.table.findBaseName? query.name with
  | none =>
    have foreign : query.refersTo kernel = false := by simpa [named] using refers
    rw [foreign]
    rfl
  | some entry =>
    obtain ⟨fileId, path⟩ := entry
    have own : query.refersTo kernel = true := by simpa [named] using refers
    simp only [named] at done ⊢
    obtain ⟨⟨hits, next⟩, hit, rest⟩ := (Recorded.result_bind_eq_ok_iff _ _ _).mp done
    rw [own, Recorded.diagnostics_bind_of_ok hit, diagnostics_hitsFor]
    rfl

theorem diagnostics_resolveFrom {kept : Indexes} {placed : List (Nat × Kernel)} {found : List Match}
    (resolved : (query.resolveFrom kept placed).result = .ok found) :
    (query.resolveFrom kept placed).diagnostics =
      ((placed.map Prod.snd).filter fun kernel => !query.refersTo kernel).map query.mismatch := by
  induction placed generalizing kept found with
  | nil => rfl
  | cons entry rest ih =>
    obtain ⟨place, kernel⟩ := entry
    obtain ⟨⟨first, next⟩, made, onward⟩ := (Recorded.result_bind_eq_ok_iff _ _ _).mp resolved
    obtain ⟨later, restMade, whole⟩ := (Recorded.result_bind_eq_ok_iff _ _ _).mp onward
    rw [resolveFrom, Recorded.diagnostics_bind_of_ok made, Recorded.diagnostics_bind_of_ok restMade, ih restMade,
      diagnostics_matchFor made]
    by_cases refers : query.refersTo kernel = true <;> simp [refers]

theorem diagnostics_resolve {dumps : List Dump} {found : List Match} (resolved : (query.resolve dumps).result = .ok found) :
    (query.resolve dumps).diagnostics =
      ((kernelsOf dumps).filter fun kernel => !query.refersTo kernel).map query.mismatch := by
  rw [← map_snd_placedKernels]
  exact diagnostics_resolveFrom resolved

/-- The kernels that refer to the queried file stand, in order, beside their matches. -/
theorem forall₂_kernel_match? {kernels : List Kernel}
    (each : ∀ kernel ∈ kernels, ∃ single, query.alone kernel = .ok single) :
    List.Forall₂ (fun kernel found => found.kernel = kernel) (kernels.filter query.refersTo)
      (kernels.filterMap query.match?) := by
  apply Listing.forall₂_filter_filterMap
  · intro kernel member found made
    have refers := isSome_of_alone (alone_of_match? made)
    exact ⟨refers.symm, kernel_of_match? made⟩
  · intro kernel member missing
    obtain ⟨single, made⟩ := each kernel member
    have none : single = none := by
      rw [← missing, match?, made]
      rfl
    rw [← isSome_of_alone made, none]
    rfl

theorem perm_site_kernels {kernels : List Kernel}
    (each : ∀ kernel ∈ kernels, ∃ single, query.alone kernel = .ok single) :
    (kernels.map Kernel.site).Perm ((kernels.filterMap query.match?).map (fun found => found.kernel.site) ++
      ((kernels.filter fun kernel => !query.refersTo kernel).map query.mismatch).map Diagnostic.site) := by
  have matched : (kernels.filter query.refersTo).map Kernel.site =
      (kernels.filterMap query.match?).map fun found => found.kernel.site :=
    map_eq_map_of_forall₂ (forall₂_kernel_match? each) fun kernel found same => by rw [same]
  have halves := (List.filter_append_perm query.refersTo kernels).symm.map Kernel.site
  rw [List.map_append, matched] at halves
  rw [List.map_map]
  exact halves

end Query

namespace Discovery

variable {tree : FileTree} {config : Config} {workspace : String}

/-- What a walk of a build directory leaves: its listings in the order of the walk, and for every assembly file one
listing or one report. -/
structure Walked (tree : FileTree) (config : Config) (root buildTag : String) (listings : List Listing)
    (reports : List Diagnostic) : Prop where
  inOrder : listings = (encounters tree config (tree.walk root)).filterMap fun encounter =>
    (fileFinding tree buildTag encounter.path).listing?
  kinds : ∀ report ∈ reports, report.kind = .unreadableFile
  once : ∀ path directory, .entered path directory ∈ tree.walk root → ∀ entry ∈ directory.entries,
    tree.leadsToDirectory path entry = false → config.isAssemblyFile entry.1 = true →
      listings.countP (fun listing => listing.path = Path.join path entry.1) +
        reports.countP (unreadable (Path.join path entry.1)) = 1

/-- What becomes of a configured build directory. -/
inductive Settled (tree : FileTree) (config : Config) (workspace : String) (directory : Text.Points) :
    List Listing → List Diagnostic → Prop where
  | missing (absent : presentBuild? tree workspace directory = none) {message : String} :
    Settled tree config workspace directory []
      [⟨.missingBuildDirectory, message, some (Path.joinPoints workspace directory), none⟩]
  | scanned {buildTag : String} (present : presentBuild? tree workspace directory = some buildTag)
    {listings : List Listing} {reports : List Diagnostic}
    (walked : Walked tree config (Path.join workspace buildTag) buildTag listings reports) :
    Settled tree config workspace directory listings reports

theorem kind_of_visitFindings {buildTag : String} {visit : FileTree.Visit} {finding : Finding}
    (member : finding ∈ visitFindings tree config buildTag visit) {report : Diagnostic}
    (reported : finding.entry?.bind Journal.Entry.diagnostic? = some report) : report.kind = .unreadableFile := by
  cases visit with
  | refused path failure =>
    rw [List.mem_singleton.mp member] at reported
    cases reported
    rfl
  | repeated path =>
    rw [List.mem_singleton.mp member] at reported
    cases reported
  | entered path directory =>
    obtain ⟨name, -, rfl⟩ := List.mem_map.mp member
    unfold fileFinding at reported
    split at reported
    · cases reported
    · cases reported
      rfl

theorem walked (wellFormed : tree.WellFormed) (root buildTag : String) :
    Walked tree config root buildTag ((findings tree config root buildTag).filterMap Finding.listing?)
      (Journal.diagnostics ((findings tree config root buildTag).filterMap Finding.entry?)) := by
  refine ⟨filterMap_listing_findings tree config root buildTag, ?_, ?_⟩
  · intro report member
    rw [Journal.diagnostics, List.filterMap_filterMap] at member
    obtain ⟨finding, among, reported⟩ := List.mem_filterMap.mp member
    obtain ⟨visit, -, inside⟩ := List.mem_flatMap.mp among
    exact kind_of_visitFindings inside reported
  · intro path directory visited entry present plain assembly
    exact count_of_encounter wellFormed (mem_encounters_of_plain visited present plain assembly)

theorem settled (wellFormed : tree.WellFormed) {directory : Text.Points} {listings : List Listing}
    (done : (scanBuild tree config workspace directory).result = .ok listings) :
    Settled tree config workspace directory listings (scanBuild tree config workspace directory).diagnostics := by
  cases present : presentBuild? tree workspace directory with
  | none =>
    simp only [scanBuild, present] at done ⊢
    cases done
    exact .missing present
  | some buildTag =>
    rw [result_scanBuild present] at done
    cases done
    have reports : (scanBuild tree config workspace directory).diagnostics =
        Journal.diagnostics ((findings tree config (Path.join workspace buildTag) buildTag).filterMap Finding.entry?) := by
      have done : (scanDirectory tree config (Path.join workspace buildTag) buildTag : Recorded Oversize _).result =
        .ok ((findings tree config (Path.join workspace buildTag) buildTag).filterMap Finding.listing?) := rfl
      simp only [scanBuild, present]
      rw [Recorded.diagnostics_bind_of_ok rfl, Recorded.diagnostics_bind_of_ok done, Recorded.diagnostics_bind_of_ok rfl,
        Recorded.diagnostics_note, Recorded.diagnostics_note, Recorded.diagnostics_pure, List.nil_append, List.append_nil]
      exact List.append_nil _
    rw [reports]
    exact .scanned present (walked wellFormed _ _)

theorem exists_settled (wellFormed : tree.WellFormed) {directories : List Text.Points} {parts : List (List Listing)}
    (done : List.Forall₂ (fun directory part => (scanBuild tree config workspace directory).result = .ok part)
      directories parts) :
    ∃ builds : List (List Listing × List Diagnostic),
      List.Forall₂ (fun directory build => Settled tree config workspace directory build.1 build.2) directories builds ∧
        parts.flatten = builds.flatMap Prod.fst ∧
          (directories.flatMap fun directory => (scanBuild tree config workspace directory).diagnostics) =
            builds.flatMap Prod.snd := by
  induction done with
  | nil => exact ⟨[], .nil, rfl, rfl⟩
  | @cons directory part _ _ first _ ih =>
    obtain ⟨builds, each, listings, reports⟩ := ih
    refine ⟨(part, (scanBuild tree config workspace directory).diagnostics) :: builds,
      .cons (settled wellFormed first) each, ?_, ?_⟩
    · rw [List.flatten_cons, List.flatMap_cons, listings]
    · rw [List.flatMap_cons, List.flatMap_cons, reports]

theorem exists_builds (wellFormed : tree.WellFormed) {listings : List Listing}
    (scanned : (scan tree config workspace).result = .ok listings) :
    ∃ builds : List (List Listing × List Diagnostic),
      List.Forall₂ (fun directory build => Settled tree config workspace directory build.1 build.2)
        config.buildDirectories builds ∧
        listings = builds.flatMap Prod.fst ∧ (scan tree config workspace).diagnostics = builds.flatMap Prod.snd := by
  obtain ⟨parts, made, whole⟩ := (Recorded.result_bind_eq_ok_iff _ _ _).mp scanned
  obtain ⟨builds, each, same, reports⟩ := exists_settled wellFormed ((Recorded.result_mapM_eq_ok_iff _ _ _).mp made)
  refine ⟨builds, each, (Except.ok.inj whole).symm.trans same, ?_⟩
  rw [scan, Recorded.diagnostics_bind_of_ok made, Recorded.diagnostics_mapM_of_ok made, reports]
  exact List.append_nil _

theorem Settled.kinds {directory : Text.Points} {listings : List Listing} {reports : List Diagnostic}
    (settled : Settled tree config workspace directory listings reports) :
    ∀ report ∈ reports, report.kind = .missingBuildDirectory ∨ report.kind = .unreadableFile := by
  intro report member
  cases settled with
  | missing absent =>
    rw [List.mem_singleton.mp member]
    exact .inl rfl
  | scanned present walked => exact .inr (walked.kinds report member)

theorem kind_of_mem_builds {directories : List Text.Points} {builds : List (List Listing × List Diagnostic)}
    (settled : List.Forall₂ (fun directory build => Settled tree config workspace directory build.1 build.2)
      directories builds) :
    ∀ report ∈ builds.flatMap Prod.snd, report.kind = .missingBuildDirectory ∨ report.kind = .unreadableFile := by
  intro report member
  obtain ⟨build, among, inside⟩ := List.mem_flatMap.mp member
  obtain ⟨directory, -, single⟩ := exists_of_mem_of_forall₂ settled among
  exact single.kinds report inside

theorem diagnostics_dumps {listings : List Listing} {found : List Dump}
    (scanned : (scan tree config workspace).result = .ok listings)
    (read : (listings.mapM Dump.ofListing).result = .ok found) :
    (dumps tree config workspace).diagnostics = (scan tree config workspace).diagnostics ++
      listings.flatMap fun listing => (Dump.ofListing listing).diagnostics := by
  rw [dumps, Recorded.diagnostics_bind_of_ok scanned, Recorded.diagnostics_bind_of_ok read,
    Recorded.diagnostics_mapM_of_ok read]
  exact congrArg _ (List.append_nil _)

end Discovery

namespace Query

/-- The starts of the regions of all listings are those of kernels and of reports. -/
theorem perm_sites_listings {listings : List Listing} {dumps : List Dump}
    (read : List.Forall₂ (fun listing dump => (Dump.ofListing listing).result = .ok dump) listings dumps) :
    (listings.flatMap Listing.sites).Perm ((kernelsOf dumps).map Kernel.site ++
      (listings.flatMap fun listing => (Dump.ofListing listing).diagnostics).map Diagnostic.site) := by
  induction read with
  | nil => exact .nil
  | @cons listing dump _ dumps first _ ih =>
    have kernels : kernelsOf (dump :: dumps) = dump.kernels ++ kernelsOf dumps := List.flatMap_cons
    have here := Dump.perm_sites first
    rw [List.perm_iff_count] at here ih ⊢
    intro site
    have counted := here site
    have countedLater := ih site
    simp only [kernels, List.flatMap_cons, List.map_append, List.count_append] at counted countedLater ⊢
    omega

/-- What a query makes of a workspace, with the listings and the reports of each build directory. -/
structure Accounted (query : Query) (tree : FileTree) (config : Config) (workspace : String) (found : List Match)
    (builds : List (List Listing × List Diagnostic)) : Prop where
  directories : List.Forall₂ (fun directory build =>
    Discovery.Settled tree config workspace directory build.1 build.2) config.buildDirectories builds
  /-- Nothing else is reported but kernels that have no name or do not refer to the queried file. -/
  reports : ∃ later, (query.inWorkspace tree config workspace).diagnostics = builds.flatMap Prod.snd ++ later ∧
    ∀ report ∈ later, report.kind = .noKernelSymbol ∨ report.kind = .noSourceFileMatch
  starts : ((builds.flatMap Prod.fst).flatMap Listing.sites).Perm
    (found.map (fun found => found.kernel.site) ++
      (((query.inWorkspace tree config workspace).diagnostics.filter fun report => report.kind = .noKernelSymbol).map
          Diagnostic.site ++
        ((query.inWorkspace tree config workspace).diagnostics.filter fun report => report.kind = .noSourceFileMatch).map
          Diagnostic.site))
  /-- The matches come listing by listing, and in one listing line by line. -/
  order : ∃ groups, found = groups.flatten ∧ List.Forall₂ (fun listing group =>
    (∀ member ∈ group, member.kernel.listing = listing) ∧
      group.Pairwise fun left right => left.kernel.start < right.kernel.start) (builds.flatMap Prod.fst) groups

theorem inOrder_of_inListing {query : Query} {listing : Listing} {group : List Match}
    (made : (query.inListing listing).result = .ok group) :
    (∀ member ∈ group, member.kernel.listing = listing) ∧
      group.Pairwise fun left right => left.kernel.start < right.kernel.start := by
  obtain ⟨dump, read, rfl, each⟩ := (inListing_eq_ok_iff query listing group).mp made
  constructor
  · intro found member
    obtain ⟨kernel, inside, matched⟩ := List.mem_filterMap.mp member
    rw [kernel_of_match? matched, (Dump.kernel_of_ofListing read inside).1, Dump.listing_of_ofListing read]
  · refine (Dump.pairwise_start_kernels read).filterMap _ ?_
    intro left right before first matched second matchedToo
    rw [kernel_of_match? matched, kernel_of_match? matchedToo]
    exact before

theorem diagnostics_inWorkspace {query : Query} {tree : FileTree} {config : Config} {workspace : String}
    {listings : List Listing} {dumps : List Dump} {found : List Match}
    (scanned : (Discovery.scan tree config workspace).result = .ok listings)
    (read : (listings.mapM Dump.ofListing).result = .ok dumps) (resolved : (query.resolve dumps).result = .ok found) :
    (query.inWorkspace tree config workspace).diagnostics = (Discovery.scan tree config workspace).diagnostics ++
      ((listings.flatMap fun listing => (Dump.ofListing listing).diagnostics) ++
        ((kernelsOf dumps).filter fun kernel => !query.refersTo kernel).map query.mismatch) := by
  have dumped := (Discovery.dumps_eq_ok_iff tree config workspace dumps).mpr ⟨listings, scanned, read⟩
  rw [inWorkspace, Recorded.diagnostics_bind_of_ok dumped, Discovery.diagnostics_dumps scanned read,
    diagnostics_resolve resolved, List.append_assoc]

theorem filter_kind_append {early unnamed foreign : List Diagnostic}
    (first : ∀ report ∈ early, report.kind = .missingBuildDirectory ∨ report.kind = .unreadableFile)
    (second : ∀ report ∈ unnamed, report.kind = .noKernelSymbol)
    (third : ∀ report ∈ foreign, report.kind = .noSourceFileMatch) :
    (early ++ (unnamed ++ foreign)).filter (fun report => report.kind = .noKernelSymbol) = unnamed ∧
      (early ++ (unnamed ++ foreign)).filter (fun report => report.kind = .noSourceFileMatch) = foreign := by
  have keeps {kind : Diagnostic.Kind} {reports : List Diagnostic} (all : ∀ report ∈ reports, report.kind = kind) :
      reports.filter (fun report => report.kind = kind) = reports := by simpa using all
  have drops {kind : Diagnostic.Kind} {reports : List Diagnostic} (none : ∀ report ∈ reports, report.kind ≠ kind) :
      reports.filter (fun report => report.kind = kind) = [] := by simpa using none
  have earlyNamed : ∀ report ∈ early, report.kind ≠ .noKernelSymbol := by
    intro report member
    rcases first report member with kind | kind <;> simp [kind]
  have earlyOwn : ∀ report ∈ early, report.kind ≠ .noSourceFileMatch := by
    intro report member
    rcases first report member with kind | kind <;> simp [kind]
  have unnamedOwn : ∀ report ∈ unnamed, report.kind ≠ .noSourceFileMatch := fun report member => by
    simp [second report member]
  have foreignNamed : ∀ report ∈ foreign, report.kind ≠ .noKernelSymbol := fun report member => by
    simp [third report member]
  simp only [List.filter_append]
  constructor
  · rw [drops earlyNamed, keeps second, drops foreignNamed, List.nil_append, List.append_nil]
  · rw [drops earlyOwn, drops unnamedOwn, keeps third, List.nil_append, List.nil_append]

/-- Nothing between the disk and the matches is lost in silence, and nothing is counted twice. -/
theorem inWorkspace_accounted (query : Query) (tree : FileTree) (config : Config) (workspace : String)
    (found : List Match) (wellFormed : tree.WellFormed)
    (resolved : (query.inWorkspace tree config workspace).result = .ok found) :
    ∃ builds, query.Accounted tree config workspace found builds := by
  obtain ⟨dumps, dumped, matched⟩ := (Recorded.result_bind_eq_ok_iff _ _ _).mp resolved
  obtain ⟨listings, scanned, read⟩ := (Discovery.dumps_eq_ok_iff tree config workspace dumps).mp dumped
  obtain ⟨same, each⟩ := (resolve_eq_ok_iff read query found).mp matched
  obtain ⟨groups, made, whole⟩ := (inWorkspace_eq_ok_iff scanned query found).mp resolved
  obtain ⟨builds, settled, listed, reported⟩ := Discovery.exists_builds wellFormed scanned
  have diagnostics := diagnostics_inWorkspace scanned read matched
  have early := Discovery.kind_of_mem_builds settled
  have unnamed := Dump.kind_of_mem_reports read
  have foreign : ∀ report ∈ ((kernelsOf dumps).filter fun kernel => !query.refersTo kernel).map query.mismatch,
      report.kind = .noSourceFileMatch := by
    intro report member
    obtain ⟨kernel, -, rfl⟩ := List.mem_map.mp member
    rfl
  rw [reported] at diagnostics
  refine ⟨builds, settled, ⟨_, diagnostics, ?_⟩, ?_, groups, whole, ?_⟩
  · intro report member
    exact (List.mem_append.mp member).imp (unnamed report) (foreign report)
  · obtain ⟨nameless, mismatched⟩ := filter_kind_append early unnamed foreign
    rw [← listed, diagnostics, nameless, mismatched, same]
    have regions := perm_sites_listings ((Recorded.result_mapM_eq_ok_iff _ _ _).mp read)
    have kernels := perm_site_kernels each
    rw [List.perm_iff_count] at regions kernels ⊢
    intro site
    have counted := regions site
    have countedKernels := kernels site
    simp only [List.count_append] at counted countedKernels ⊢
    omega
  · rw [← listed]
    refine ((Recorded.result_mapM_eq_ok_iff _ _ _).mp made).imp ?_
    intro listing group part
    exact inOrder_of_inListing part

def halfNamed : Listing where
  path := "w/build/k-hip-amdgcn-amd-amdhsa-gfx90a.s"
  buildTag := "build"
  modified := .finite false 2
  lines := [".file 1 \"/p\" \"a.hip\"", ".section .text.first", ".globl kernel_one", ".loc 1 7 0", "s_endpgm",
    ".section .text.second", "s_nop 0"]

def foreign : Listing where
  path := "w/build/o-hip-amdgcn-amd-amdhsa-gfx90a.s"
  buildTag := "build"
  modified := .finite false 1
  lines := [".file 1 \"/p\" \"b.hip\"", ".globl kernel_two", "s_nop 0"]

def patchyEntries : List (String × FileTree.Node) :=
  let bytes (listing : Listing) := (['\n'].intercalate (listing.lines.map String.toList)).map fun c => c.toNat.toUInt8
  [("x-hip-amdgcn-amd-amdhsa-gfx90a.s", .link "nowhere"),
    ("k-hip-amdgcn-amd-amdhsa-gfx90a.s", .file (bytes halfNamed) ⟨2000000000⟩),
    ("o-hip-amdgcn-amd-amdhsa-gfx90a.s", .file (bytes foreign) ⟨1000000000⟩)]

/-- A workspace in which every stage passes something over. -/
def patchy : FileTree := ⟨[("w", .directory [("build", .directory patchyEntries)])], []⟩

def buildAndGone : Config :=
  { Config.default with buildDirectories := [Text.codePoints "build", Text.codePoints "gone"] }

theorem scan_patchy : (Discovery.scan patchy buildAndGone "w").result = .ok [halfNamed, foreign] := by
  refine Recorded.result_bind_of_ok ((Recorded.result_mapM_eq_ok_iff _ _ [[halfNamed, foreign], []]).mpr ?_) rfl
  refine .cons ?_ (.cons (by decide +kernel) .nil)
  have present : Discovery.presentBuild? patchy "w" (Text.codePoints "build") = some "build" := by decide +kernel
  have there : patchy.directoryAt (Path.join "w" "build") = .ok ⟨["build", "w"], patchyEntries⟩ :=
    FileTree.directoryAt_of_place ["build", "w"] (by decide +kernel) rfl
  have flat : patchy.subdirectories (Path.join "w" "build") ⟨["build", "w"], patchyEntries⟩ = [] := by
    have none : (patchyEntries.filter (patchy.leadsToDirectory (Path.join "w" "build"))).map Prod.fst = [] := by
      decide +kernel
    rw [FileTree.subdirectories, none, FileTree.sortNames, List.mergeSort_nil]
  have plain : patchy.plainEntries (Path.join "w" "build") ⟨["build", "w"], patchyEntries⟩ =
      ["k-hip-amdgcn-amd-amdhsa-gfx90a.s", "o-hip-amdgcn-amd-amdhsa-gfx90a.s", "x-hip-amdgcn-amd-amdhsa-gfx90a.s"] := by
    have all : (patchyEntries.filter fun entry => !patchy.leadsToDirectory (Path.join "w" "build") entry).map Prod.fst =
        ["x-hip-amdgcn-amd-amdhsa-gfx90a.s", "k-hip-amdgcn-amd-amdhsa-gfx90a.s", "o-hip-amdgcn-amd-amdhsa-gfx90a.s"] := by
      decide +kernel
    rw [FileTree.plainEntries, all, FileTree.sortNames]
    simp [List.mergeSort, List.MergeSort.Internal.splitInTwo]
  rw [Discovery.result_scanBuild present, Discovery.filterMap_listing_findings,
    FileTree.walk_of_flat there (by decide +kernel) flat]
  simp only [Discovery.encounters, FileTree.entered_cons_entered, FileTree.entered_nil, List.flatMap_cons, List.flatMap_nil,
    List.append_nil, Discovery.encountersIn, plain]
  decide +kernel

/-- The only match, beside a missing directory, a file that cannot be read, a region without a name and a kernel of
another file. -/
theorem inWorkspace_accounted_patchy :
    ∃ found : Match, found.symbol = "kernel_one" ∧ found.hits = [4] ∧ patchy.WellFormed ∧
      (inWorkspace ⟨"x/a.hip", 7⟩ patchy buildAndGone "w").result = .ok [found] ∧
        ∃ builds, Accounted ⟨"x/a.hip", 7⟩ patchy buildAndGone "w" [found] builds := by
  let kernel : Kernel := ⟨"kernel_one", 1, 5, halfNamed, ⟨[(1, "/p/a.hip")]⟩⟩
  let found : Match := ⟨kernel, "/p/a.hip", 1, [4]⟩
  have wellFormed : patchy.WellFormed := by decide +kernel
  have resolved : (inWorkspace ⟨"x/a.hip", 7⟩ patchy buildAndGone "w").result = .ok [found] := by
    refine (inWorkspace_eq_ok_iff scan_patchy ⟨"x/a.hip", 7⟩ [found]).mpr ⟨[[found], []], ?_, rfl⟩
    decide +kernel
  exact ⟨found, rfl, rfl, wellFormed, resolved,
    inWorkspace_accounted ⟨"x/a.hip", 7⟩ patchy buildAndGone "w" [found] wellFormed resolved⟩

end Query

end KernelAtlas
