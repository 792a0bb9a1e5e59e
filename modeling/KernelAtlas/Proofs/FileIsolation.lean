import KernelAtlas.Proofs.PhysicalLines
import KernelAtlas.Proofs.Provenance
import KernelAtlas.Proofs.Resolution

/-! What one assembly file can do to the resolution of a workspace.

A scan never fails, and the matches of a workspace are the matches of its files, one file after the other. The
one thing that stops a resolution is a numeral that is too long, in a directive that the query has to read. It
is not kept to its file: the matches of all other files are lost with it. -/

set_option autoImplicit false

namespace KernelAtlas

open Numeral (Oversize)

def Directive.File.Legible (file : Directive.File) : Prop := file.id.length ≤ Numeral.digitLimit

instance (file : Directive.File) : Decidable file.Legible := inferInstanceAs (Decidable (_ ≤ _))

def Listing.FilesLegible (lines : List String) : Prop :=
  ∀ line ∈ lines, ∀ file ∈ Directive.file? line.toList, file.Legible

instance (lines : List String) : Decidable (Listing.FilesLegible lines) :=
  inferInstanceAs (Decidable (∀ line ∈ lines, _))

namespace SourceTable

theorem exists_declare_iff (table : SourceTable) (line : String) :
    (∃ next, table.declare line = .ok next) ↔ ∀ file ∈ Directive.file? line.toList, file.Legible := by
  unfold declare
  cases Directive.file? line.toList with
  | none => simp
  | some file =>
    by_cases short : file.id.length ≤ Numeral.digitLimit
    · simp [Numeral.read, short, Except.map, Directive.File.Legible]
    · simp [Numeral.read, short, Except.map, Directive.File.Legible]

-- Whether a line can be read does not depend on the table that it is read into.
theorem exists_foldlM_iff (table : SourceTable) (lines : List String) :
    (∃ last, lines.foldlM declare table = .ok last) ↔ Listing.FilesLegible lines := by
  induction lines generalizing table with
  | nil => simp [Listing.FilesLegible, Pure.pure, Except.pure]
  | cons line rest ih =>
    simp only [List.foldlM_cons, bind_eq_ok_iff, Listing.FilesLegible, List.forall_mem_cons,
      ← exists_declare_iff table line]
    constructor
    · intro ⟨last, next, first, later⟩
      exact ⟨⟨next, first⟩, (ih next).mp ⟨last, later⟩⟩
    · intro ⟨⟨next, first⟩, legible⟩
      obtain ⟨last, later⟩ := (ih next).mpr legible
      exact ⟨last, next, first, later⟩

theorem exists_ofLines_iff (lines : List String) :
    (∃ table, ofLines lines = .ok table) ↔ Listing.FilesLegible lines := exists_foldlM_iff .empty lines

end SourceTable

theorem Dump.exists_ofListing_iff (listing : Listing) :
    (∃ dump, (ofListing listing).result = .ok dump) ↔ Listing.FilesLegible listing.lines := by
  rw [← SourceTable.exists_ofLines_iff]
  simp only [ofListing_eq_ok_iff]
  constructor
  · intro ⟨dump, table, read, _⟩
    exact ⟨table, read⟩
  · intro ⟨table, read⟩
    exact ⟨_, table, read, rfl⟩

namespace Discovery

variable (tree : FileTree) (config : Config) (workspace : String)

theorem exists_scanBuild (directory : Text.Points) :
    ∃ listings, (scanBuild tree config workspace directory).result = .ok listings := by
  cases present : presentBuild? tree workspace directory with
  | none => exact ⟨[], by simp only [scanBuild, present]; rfl⟩
  | some buildTag => exact ⟨_, result_scanBuild present⟩

/-- Whatever the tree holds, its assembly files are found. -/
theorem exists_scan : ∃ listings, (scan tree config workspace).result = .ok listings := by
  obtain ⟨parts, scanned⟩ := (exists_mapM_iff (fun directory => (scanBuild tree config workspace directory).result)
    config.buildDirectories).mpr fun directory _ => exists_scanBuild tree config workspace directory
  refine ⟨parts.flatten, Recorded.result_bind_of_ok ?_ rfl⟩
  rw [Recorded.result_mapM]
  exact scanned

end Discovery

namespace Query

theorem exists_alone_iff (query : Query) (kernel : Kernel) :
    (∃ found, query.alone kernel = .ok found) ↔
      (0 < query.line → query.refersTo kernel = true → Listing.Legible kernel.listing.lines) := by
  rw [alone_eq_freshMatch, freshMatch, refersTo_iff]
  cases named : kernel.table.findBaseName? query.name with
  | none => simp
  | some entry =>
    obtain ⟨fileId, path⟩ := entry
    by_cases asked : 0 < query.line
    · have legible := LineIndex.exists_buildWanted_iff kernel.listing.lines kernel.table (· == fileId)
      simp only [asked, if_true, Option.isSome_some, true_implies, ← legible, freshIndex]
      cases LineIndex.buildWanted kernel.listing.lines kernel.table (· == fileId) with
      | error refused => simp [Except.map]
      | ok index => simp [Except.map]
    · simp [asked]

def inListing (query : Query) (listing : Listing) : Recorded Oversize (List Match) := do
  let dump ← Dump.ofListing listing
  query.resolve [dump]

def inWorkspace (query : Query) (tree : FileTree) (config : Config) (workspace : String) :
    Recorded Oversize (List Match) := do
  let dumps ← Discovery.dumps tree config workspace
  query.resolve dumps

/-- What a query has to read of a listing can be read: the source files that it declares and, if a line is asked
for in one of its kernels, its location directives. -/
structure Reads (query : Query) (listing : Listing) : Prop where
  files : Listing.FilesLegible listing.lines
  locations : 0 < query.line → ∀ dump, (Dump.ofListing listing).result = .ok dump →
    (∃ kernel ∈ dump.kernels, query.refersTo kernel = true) → Listing.Legible listing.lines

theorem resolve_eq_ok_iff {listings : List Listing} {dumps : List Dump}
    (read : (listings.mapM Dump.ofListing).result = .ok dumps) (query : Query) (found : List Match) :
    (query.resolve dumps).result = .ok found ↔
      found = (kernelsOf dumps).filterMap query.match? ∧
        ∀ kernel ∈ kernelsOf dumps, ∃ single, query.alone kernel = .ok single := by
  refine ⟨resolve_eq_ok read, ?_⟩
  intro ⟨same, each⟩
  obtain ⟨records, made⟩ := (exists_mapM_iff query.alone (kernelsOf dumps)).mpr each
  rw [result_resolve read, made, same, ← filterMap_of_mapM made]
  rfl

theorem mapM_singleton_ofListing {listing : Listing} {dump : Dump}
    (parsed : (Dump.ofListing listing).result = .ok dump) : ([listing].mapM Dump.ofListing).result = .ok [dump] :=
  (Recorded.result_mapM_eq_ok_iff _ _ _).mpr (.cons parsed .nil)

theorem inListing_eq_ok_iff (query : Query) (listing : Listing) (part : List Match) :
    (query.inListing listing).result = .ok part ↔
      ∃ dump, (Dump.ofListing listing).result = .ok dump ∧ part = dump.kernels.filterMap query.match? ∧
        ∀ kernel ∈ dump.kernels, ∃ single, query.alone kernel = .ok single := by
  rw [inListing, Recorded.result_bind_eq_ok_iff]
  refine exists_congr fun dump => and_congr_right fun parsed => ?_
  rw [resolve_eq_ok_iff (mapM_singleton_ofListing parsed), kernelsOf, List.flatMap_singleton]

theorem exists_inListing_iff (query : Query) (listing : Listing) :
    (∃ part, (query.inListing listing).result = .ok part) ↔ query.Reads listing := by
  simp only [inListing_eq_ok_iff, exists_alone_iff]
  constructor
  · intro ⟨part, dump, parsed, _, each⟩
    refine ⟨(Dump.exists_ofListing_iff listing).mp ⟨dump, parsed⟩, ?_⟩
    intro asked other parsedToo ⟨kernel, member, refers⟩
    cases Except.ok.inj (parsed.symm.trans parsedToo)
    have legible := each kernel member asked refers
    rwa [(Dump.kernel_of_ofListing parsed member).1, Dump.listing_of_ofListing parsed] at legible
  · intro reads
    obtain ⟨dump, parsed⟩ := (Dump.exists_ofListing_iff listing).mpr reads.files
    refine ⟨_, dump, parsed, rfl, ?_⟩
    intro kernel member asked refers
    rw [(Dump.kernel_of_ofListing parsed member).1, Dump.listing_of_ofListing parsed]
    exact reads.locations asked dump parsed ⟨kernel, member, refers⟩

theorem resolve_cons_eq_ok_iff {query : Query} {listing : Listing} {dump : Dump} {rest : List Listing}
    {dumps : List Dump} (parsed : (Dump.ofListing listing).result = .ok dump)
    (read : (rest.mapM Dump.ofListing).result = .ok dumps) (found : List Match) :
    (query.resolve (dump :: dumps)).result = .ok found ↔
      ∃ part later, (query.inListing listing).result = .ok part ∧ (query.resolve dumps).result = .ok later ∧
        found = part ++ later := by
  have whole : ((listing :: rest).mapM Dump.ofListing).result = .ok (dump :: dumps) :=
    (Recorded.result_mapM_eq_ok_iff _ _ _).mpr (.cons parsed ((Recorded.result_mapM_eq_ok_iff _ _ _).mp read))
  have kernels : kernelsOf (dump :: dumps) = dump.kernels ++ kernelsOf dumps := List.flatMap_cons
  simp only [resolve_eq_ok_iff whole, resolve_eq_ok_iff read, inListing_eq_ok_iff, kernels, List.filterMap_append,
    List.forall_mem_append]
  constructor
  · intro ⟨same, first, others⟩
    exact ⟨_, _, ⟨dump, parsed, rfl, first⟩, ⟨rfl, others⟩, same⟩
  · intro ⟨part, later, ⟨other, parsedToo, partSame, first⟩, ⟨laterSame, others⟩, same⟩
    cases Except.ok.inj (parsed.symm.trans parsedToo)
    exact ⟨by rw [same, partSame, laterSame], first, others⟩

/-- To resolve listings together is to resolve them one by one. -/
theorem resolve_listings_eq_ok_iff (query : Query) (listings : List Listing) (found : List Match) :
    (∃ dumps, (listings.mapM Dump.ofListing).result = .ok dumps ∧ (query.resolve dumps).result = .ok found) ↔
      ∃ parts, (listings.mapM query.inListing).result = .ok parts ∧ found = parts.flatten := by
  simp only [Recorded.result_mapM_eq_ok_iff]
  induction listings generalizing found with
  | nil =>
    have nothing : (query.resolve []).result = .ok [] := rfl
    simp [nothing, eq_comm]
  | cons listing rest ih =>
    constructor
    · intro ⟨dumps, read, resolved⟩
      obtain ⟨dump, others, parsed, readRest, rfl⟩ := List.forall₂_cons_left_iff.mp read
      have mapped := (Recorded.result_mapM_eq_ok_iff _ _ _).mpr readRest
      obtain ⟨part, later, first, resolvedRest, same⟩ := (resolve_cons_eq_ok_iff parsed mapped found).mp resolved
      obtain ⟨parts, each, laterSame⟩ := (ih later).mp ⟨others, readRest, resolvedRest⟩
      exact ⟨part :: parts, .cons first each, by rw [same, laterSame, List.flatten_cons]⟩
    · intro ⟨parts, each, same⟩
      obtain ⟨part, others, first, eachRest, rfl⟩ := List.forall₂_cons_left_iff.mp each
      obtain ⟨dump, parsed, -⟩ := (inListing_eq_ok_iff query listing part).mp first
      obtain ⟨dumps, readRest, resolvedRest⟩ := (ih others.flatten).mpr ⟨others, eachRest, rfl⟩
      have mapped := (Recorded.result_mapM_eq_ok_iff _ _ _).mpr readRest
      refine ⟨dump :: dumps, .cons parsed readRest, ?_⟩
      exact (resolve_cons_eq_ok_iff parsed mapped found).mpr ⟨part, _, first, resolvedRest, same⟩

section
variable {tree : FileTree} {config : Config} {workspace : String} {listings : List Listing}
  (scanned : (Discovery.scan tree config workspace).result = .ok listings)
include scanned

theorem inWorkspace_eq_ok_iff (query : Query) (found : List Match) :
    (query.inWorkspace tree config workspace).result = .ok found ↔
      ∃ parts, (listings.mapM query.inListing).result = .ok parts ∧ found = parts.flatten := by
  rw [← resolve_listings_eq_ok_iff, inWorkspace, Recorded.result_bind_eq_ok_iff]
  refine exists_congr fun dumps => and_congr_left fun _ => ?_
  rw [Discovery.dumps_eq_ok_iff]
  simp [scanned]

theorem exists_inWorkspace_iff (query : Query) :
    (∃ found, (query.inWorkspace tree config workspace).result = .ok found) ↔
      ∀ listing ∈ listings, query.Reads listing := by
  simp only [inWorkspace_eq_ok_iff scanned, ← exists_inListing_iff, Recorded.result_mapM,
    ← exists_mapM_iff fun listing => (query.inListing listing).result]
  constructor
  · intro ⟨_, parts, made, _⟩
    exact ⟨parts, made⟩
  · intro ⟨parts, made⟩
    exact ⟨parts.flatten, parts, made, rfl⟩

end

/-- Whatever a workspace holds, its files are found. It is resolved exactly if the query can read each of them, and
then each file has the matches that it has on its own, in order. -/
theorem inWorkspace_file_by_file (query : Query) (tree : FileTree) (config : Config) (workspace : String) :
    ∃ listings, (Discovery.scan tree config workspace).result = .ok listings ∧
      ((∃ found, (query.inWorkspace tree config workspace).result = .ok found) ↔
        ∀ listing ∈ listings, query.Reads listing) ∧
      ∀ found, (query.inWorkspace tree config workspace).result = .ok found ↔
        ∃ parts, (listings.mapM query.inListing).result = .ok parts ∧ found = parts.flatten := by
  obtain ⟨listings, scanned⟩ := Discovery.exists_scan tree config workspace
  exact ⟨listings, scanned, exists_inWorkspace_iff scanned query, inWorkspace_eq_ok_iff scanned query⟩

end Query

theorem Text.Utf8.decodeLossy_ascii {text : List Char} (ascii : ∀ c ∈ text, c.toNat < 0x80) :
    decodeLossy (text.map fun c => c.toNat.toUInt8) = text := by
  induction text with
  | nil => rfl
  | cons c rest ih =>
    have bound : c.toNat < 0x80 := ascii c List.mem_cons_self
    have byte : c.toNat.toUInt8.toNat = c.toNat := by
      simp only [Nat.toUInt8, UInt8.toNat_ofNat']
      omega
    rw [List.map_cons, decodeLossy_cons _ (byte.symm ▸ bound), byte, Char.ofNat_toNat,
      ih fun other member => ascii other (List.mem_cons_of_mem c member)]

def Listing.isPlain (c : Char) : Bool := c.toNat < 0x80 && c ≠ '\r' && c ≠ '\n'

theorem Listing.linesOfBytes_of_plain {text : List Char} (plain : ∀ c ∈ text, isPlain c = true) :
    linesOfBytes (text.map fun c => c.toNat.toUInt8) = [String.ofList text] := by
  simp only [isPlain, Bool.and_eq_true, decide_eq_true_eq] at plain
  have whole : text.splitOn '\n' = [text] := List.splitOn_eq_singleton fun member => (plain '\n' member).2 rfl
  rw [linesOfBytes, Text.Utf8.decodeLossy_ascii fun c member => (plain c member).1.1,
    Text.unifyNewlines_of_notMem fun member => (plain '\r' member).1.2 rfl, linesOf, Text.splitLines, whole,
    List.map_singleton]

theorem Discovery.result_scanBuild_single {tree : FileTree} {config : Config} {workspace buildTag name : String}
    {directory : Text.Points} {place : Place} {bytes : List UInt8} {modified : Timestamp}
    (present : presentBuild? tree workspace directory = some buildTag)
    (there : tree.directoryAt (Path.join workspace buildTag) = .ok ⟨place, [(name, .file bytes modified)]⟩)
    (known : place ∈ tree.directories) (assembly : config.isAssemblyFile name = true)
    (read : tree.read (Path.join (Path.join workspace buildTag) name) = .ok (bytes, modified.seconds)) :
    (scanBuild tree config workspace directory).result =
      .ok [⟨Path.join (Path.join workspace buildTag) name, buildTag, modified.seconds, Listing.linesOfBytes bytes⟩] := by
  have flat : tree.subdirectories (Path.join workspace buildTag) ⟨place, [(name, .file bytes modified)]⟩ = [] := by
    simp [FileTree.subdirectories, FileTree.leadsToDirectory, FileTree.sortNames]
  have plain : tree.plainEntries (Path.join workspace buildTag) ⟨place, [(name, .file bytes modified)]⟩ = [name] := by
    simp [FileTree.plainEntries, FileTree.leadsToDirectory, FileTree.sortNames]
  rw [result_scanBuild present, findings, FileTree.walk_of_flat there known flat]
  simp [visitFindings, plain, assembly, fileFinding, read, Finding.listing?]

namespace Query

def declaration (digits : Nat) : List Char :=
  ".file ".toList ++ (List.replicate digits '1' ++ " \"b.hip\"".toList)

theorem isPlain_declaration (digits : Nat) : ∀ c ∈ declaration digits, Listing.isPlain c = true := by
  have before : ".file ".toList.all Listing.isPlain = true := by decide
  have after : " \"b.hip\"".toList.all Listing.isPlain = true := by decide
  intro c member
  rcases List.mem_append.mp member with start | rest
  · exact List.all_eq_true.mp before c start
  · rcases List.mem_append.mp rest with digit | path
    · rw [List.eq_of_mem_replicate digit]
      decide
    · exact List.all_eq_true.mp after c path

theorem file?_declaration {digits : Nat} (filled : 0 < digits) :
    Directive.file? (declaration digits) = some ⟨List.replicate digits '1', "b.hip".toList, none⟩ := by
  have number : Directive.run? Text.isDigit (List.replicate digits '1' ++ " \"b.hip\"".toList) =
      some (List.replicate digits '1', " \"b.hip\"".toList) := by
    apply (Directive.run?_eq_some_iff _ _ _ _).mpr
    refine ⟨rfl, by simp; omega, ?_, ?_⟩
    · intro c member
      rw [List.eq_of_mem_replicate member]
      decide
    · intro c first
      have blank : " \"b.hip\"".toList.head? = some ' ' := rfl
      rw [Option.some.inj (first.symm.trans blank)]
      decide
  have opened : Directive.opening? ".file".toList (declaration digits) =
      some (List.replicate digits '1' ++ " \"b.hip\"".toList) := by
    -- The gap ends where the first digit stands.
    obtain ⟨count, rfl⟩ := Nat.exists_eq_add_of_lt filled
    rfl
  rw [Directive.file?, opened, Option.bind_eq_bind, Option.bind_some, number]
  rfl

def declaring (digits : Nat) : Listing where
  path := "w/old/z-hip-amdgcn-amd-amdhsa-gfx90a.s"
  buildTag := "old"
  modified := .finite false 1
  lines := [String.ofList (declaration digits)]

/-- The limit is sharp. -/
theorem filesLegible_declaring_iff {digits : Nat} (filled : 0 < digits) :
    Listing.FilesLegible (declaring digits).lines ↔ digits ≤ Numeral.digitLimit := by
  simp [Listing.FilesLegible, declaring, file?_declaration filled, Directive.File.Legible]

def oversized : Listing := declaring (Numeral.digitLimit + 1)

/-- A workspace with two builds. The file of the second one declares a source file under a number that is too long. -/
def besideOversized : FileTree :=
  let bytes (text : List Char) := text.map fun c => c.toNat.toUInt8
  let written := ['\n'].intercalate (twoKernels.lines.map String.toList)
  let refused := declaration (Numeral.digitLimit + 1)
  ⟨[("w", .directory [
    ("build", .directory [("k-hip-amdgcn-amd-amdhsa-gfx90a.s", .file (bytes written) ⟨2000000000⟩)]),
    ("old", .directory [("z-hip-amdgcn-amd-amdhsa-gfx90a.s", .file (bytes refused) ⟨1000000000⟩)])])], []⟩

def buildAndOld : Config :=
  { Config.default with buildDirectories := [Text.codePoints "build", Text.codePoints "old"] }

theorem scan_besideOversized :
    (Discovery.scan besideOversized buildAndOld "w").result = .ok [twoKernels, oversized] := by
  refine Recorded.result_bind_of_ok ((Recorded.result_mapM_eq_ok_iff _ _ [[twoKernels], [oversized]]).mpr ?_) rfl
  refine .cons ?_ (.cons ?_ .nil)
  · have present : Discovery.presentBuild? besideOversized "w" (Text.codePoints "build") = some "build" := by
      decide +kernel
    have assembly : buildAndOld.isAssemblyFile "k-hip-amdgcn-amd-amdhsa-gfx90a.s" = true := by decide +kernel
    rw [Discovery.result_scanBuild_single present rfl (by decide +kernel) assembly rfl]
    decide +kernel
  -- The long line is not read by evaluation: it is plain, so it is the only line of its file.
  · have present : Discovery.presentBuild? besideOversized "w" (Text.codePoints "old") = some "old" := by
      decide +kernel
    have assembly : buildAndOld.isAssemblyFile "z-hip-amdgcn-amd-amdhsa-gfx90a.s" = true := by decide +kernel
    have path : Path.join (Path.join "w" "old") "z-hip-amdgcn-amd-amdhsa-gfx90a.s" = oversized.path := by decide +kernel
    have modified : Timestamp.seconds ⟨1000000000⟩ = .finite false 1 := by decide +kernel
    rw [Discovery.result_scanBuild_single present rfl (by decide +kernel) assembly rfl, path, modified,
      Listing.linesOfBytes_of_plain (isPlain_declaration _)]
    rfl

/-- The kernels of the first build are found if it is resolved on its own. Beside the second no query finds anything. -/
theorem inWorkspace_besideOversized :
    (Discovery.scan besideOversized buildAndOld "w").result = .ok [twoKernels, oversized] ∧
      (inListing ⟨"x/a.hip", 7⟩ twoKernels).result = .ok (twoBuildsFound.take 2) ∧
        ∀ (query : Query) (found : List Match),
          (query.inWorkspace besideOversized buildAndOld "w").result ≠ .ok found := by
  refine ⟨scan_besideOversized, by decide +kernel, ?_⟩
  intro query found resolved
  have reads := (exists_inWorkspace_iff scan_besideOversized query).mp ⟨found, resolved⟩
  have legible : Listing.FilesLegible oversized.lines := (reads oversized (by simp)).files
  have short := (filesLegible_declaring_iff (Nat.succ_pos Numeral.digitLimit)).mp legible
  omega

end Query

end KernelAtlas
