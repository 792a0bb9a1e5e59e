import KernelAtlas.Discovery
import KernelAtlas.Proofs.Regions

/-! Where discovered kernels come from.

Every listing that a scan gives is a file of the tree, with the lines that are read from it, and every
kernel keeps the listing that it was found in. So what is known of a kernel can be asked of the tree. -/

set_option autoImplicit false

namespace KernelAtlas

open Numeral (Oversize)

namespace FileTree

/-- The lines of the assembly file at a path, and the source files that they declare. -/
def Holds (tree : FileTree) (path : String) (lines : List String) (table : SourceTable) : Prop :=
  ∃ bytes modified, tree.read path = .ok (bytes, modified) ∧ lines = Listing.linesOfBytes bytes ∧
    SourceTable.ofLines lines = .ok table

/-- A directory without subdirectories is all that a walk from it comes to. -/
theorem walk_of_flat {tree : FileTree} {path : String} {directory : Directory}
    (found : tree.directoryAt path = .ok directory) (known : directory.place ∈ tree.directories)
    (flat : tree.subdirectories path directory = []) : tree.walk path = [.entered path directory] := by
  rw [walk, walkFrom]
  simp only [found, known, flat, dif_pos, List.map_nil, List.nil_append]
  rw [walkFrom]

end FileTree

namespace Discovery

variable {tree : FileTree} {config : Config}

def Stored (tree : FileTree) (listing : Listing) : Prop :=
  ∃ bytes, tree.read listing.path = .ok (bytes, listing.modified) ∧ listing.lines = Listing.linesOfBytes bytes

theorem stored_of_fileFinding {buildTag path : String} {listing : Listing}
    (found : (fileFinding tree buildTag path).listing? = some listing) : Stored tree listing := by
  unfold fileFinding at found
  cases read : tree.read path with
  | error failure => simp [read, Finding.listing?] at found
  | ok contents =>
    obtain ⟨bytes, modified⟩ := contents
    simp only [read, Finding.listing?, Option.some.injEq] at found
    subst found
    exact ⟨bytes, read, rfl⟩

theorem stored_of_visitFindings {buildTag : String} {visit : FileTree.Visit} {finding : Finding} {listing : Listing}
    (member : finding ∈ visitFindings tree config buildTag visit) (found : finding.listing? = some listing) :
    Stored tree listing := by
  cases visit with
  | refused path failure =>
    rw [List.mem_singleton.mp member] at found
    cases found
  | repeated path =>
    rw [List.mem_singleton.mp member] at found
    cases found
  | entered path directory =>
    obtain ⟨name, -, rfl⟩ := List.mem_map.mp member
    exact stored_of_fileFinding found

theorem result_scanBuild {workspace buildTag : String} {directory : Text.Points}
    (present : presentBuild? tree workspace directory = some buildTag) :
    (scanBuild tree config workspace directory).result =
      .ok ((findings tree config (Path.join workspace buildTag) buildTag).filterMap Finding.listing?) := by
  simp only [scanBuild, present]
  rfl

theorem stored_of_scanBuild {workspace : String} {directory : Text.Points} {listings : List Listing}
    (scanned : (scanBuild tree config workspace directory).result = .ok listings) :
    ∀ listing ∈ listings, Stored tree listing := by
  intro listing member
  cases present : presentBuild? tree workspace directory with
  | none =>
    simp only [scanBuild, present] at scanned
    cases scanned
    cases member
  | some buildTag =>
    rw [result_scanBuild present] at scanned
    cases scanned
    obtain ⟨finding, among, found⟩ := List.mem_filterMap.mp member
    obtain ⟨visit, -, visited⟩ := List.mem_flatMap.mp among
    exact stored_of_visitFindings visited found

theorem stored_of_scan {workspace : String} {listings : List Listing}
    (scanned : (scan tree config workspace).result = .ok listings) : ∀ listing ∈ listings, Stored tree listing := by
  obtain ⟨parts, made, whole⟩ := (Recorded.result_bind_eq_ok_iff _ _ _).mp scanned
  have same : listings = parts.flatten := (Except.ok.inj whole).symm
  intro listing member
  rw [same] at member
  obtain ⟨part, among, inside⟩ := List.mem_flatten.mp member
  obtain ⟨directory, -, build⟩ := Recorded.exists_of_mem_result_mapM made among
  exact stored_of_scanBuild build listing inside

theorem dumps_eq_ok_iff (tree : FileTree) (config : Config) (workspace : String) (found : List Dump) :
    (dumps tree config workspace).result = .ok found ↔
      ∃ listings, (scan tree config workspace).result = .ok listings ∧
        (listings.mapM Dump.ofListing).result = .ok found := by
  rw [dumps, Recorded.result_bind_eq_ok_iff]
  refine exists_congr fun listings => and_congr_right fun _ => ?_
  rw [Recorded.result_bind_eq_ok_iff]
  constructor
  · rintro ⟨other, read, same⟩
    cases same
    exact read
  · intro read
    exact ⟨found, read, rfl⟩

theorem holds_of_mem_kernelsOf {workspace : String} {found : List Dump}
    (read : (dumps tree config workspace).result = .ok found) {kernel : Kernel} (member : kernel ∈ kernelsOf found) :
    tree.Holds kernel.listing.path kernel.listing.lines kernel.table := by
  obtain ⟨listings, scanned, parsed⟩ := (dumps_eq_ok_iff tree config workspace found).mp read
  obtain ⟨dump, among, inside⟩ := List.mem_flatMap.mp member
  obtain ⟨listing, there, made⟩ := Recorded.exists_of_mem_result_mapM parsed among
  obtain ⟨sameListing, sameTable⟩ := Dump.kernel_of_ofListing made inside
  obtain ⟨bytes, contents, lines⟩ := stored_of_scan scanned listing there
  rw [← Dump.listing_of_ofListing made] at contents lines
  rw [sameListing, sameTable]
  exact ⟨bytes, _, contents, lines, Dump.table_of_ofListing made⟩

end Discovery

end KernelAtlas
