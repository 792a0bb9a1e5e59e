import KernelAtlas.Kernel
import KernelAtlas.Proofs.Outcome

/-! The regions that a listing is cut into.

Regions start at increasing lines and each ends where the next one starts, so two kernels of one listing
have no line in common. -/

set_option autoImplicit false

namespace KernelAtlas

open Numeral (Oversize)

theorem pairwise_snd_zipIdx {α : Type} (items : List α) :
    items.zipIdx.Pairwise fun left right => left.2 < right.2 := by
  have places : (items.zipIdx.map Prod.snd).Pairwise (· < ·) := by
    rw [List.zipIdx_map_snd]
    exact List.pairwise_lt_range'
  exact List.pairwise_map.mp places

namespace Listing

theorem pairwise_positions (test : String → Bool) (lines : List String) : (positions test lines).Pairwise (· < ·) := by
  refine (pairwise_snd_zipIdx lines).filterMap _ ?_
  intro left right before first kept second keptToo
  split at kept
  · split at keptToo
    · cases kept
      cases keptToo
      exact before
    · cases keptToo
  · cases kept

theorem pairwise_regionStarts (lines : List String) : (regionStarts lines).Pairwise (· < ·) := by
  unfold regionStarts
  split
  · exact pairwise_positions _ lines
  · exact pairwise_positions _ lines

/-- Each span ends before the next one starts. -/
theorem pairwise_spans (total : Nat) {starts : List Nat} (sorted : starts.Pairwise (· < ·)) :
    (spans total starts).Pairwise fun left right => left.2 ≤ right.1 := by
  fun_induction spans total starts with
  | case1 => exact List.Pairwise.nil
  | case2 start => exact List.pairwise_singleton _ _
  | case3 start next rest ih =>
    -- The first span ends at the next start, and no later start comes before that.
    have tail := List.Pairwise.tail sorted
    refine List.pairwise_cons.mpr ⟨fun span member => ?_, ih tail⟩
    have first : span.1 ∈ next :: rest := by
      rw [← map_fst_spans total (next :: rest)]
      exact List.mem_map_of_mem member
    rcases List.mem_cons.mp first with same | later
    · exact Nat.le_of_eq same.symm
    · exact Nat.le_of_lt ((List.pairwise_cons.mp tail).1 span.1 later)

theorem pairwise_regions (lines : List String) :
    (regions lines).Pairwise fun left right => left.stop ≤ right.start :=
  List.pairwise_map.mpr (pairwise_spans lines.length (pairwise_regionStarts lines))

theorem Region.kernel?_eq_some_iff (listing : Listing) (table : SourceTable) (region : Region) (kernel : Kernel) :
    region.kernel? listing table = some kernel ↔
      ∃ symbol line, region.symbol = some (symbol, line) ∧
        kernel = ⟨symbol, region.start, region.stop, listing, table⟩ := by
  simp only [Region.kernel?, Option.map_eq_some_iff, Prod.exists]
  exact exists_congr fun symbol => exists_congr fun line => and_congr_right fun _ => eq_comm

theorem pairwise_kernel? (listing : Listing) (table : SourceTable) :
    ((regions listing.lines).filterMap (Region.kernel? listing table)).Pairwise fun left right =>
      left.stop ≤ right.start := by
  refine (pairwise_regions listing.lines).filterMap _ ?_
  intro left right before first named second namedToo
  obtain ⟨symbol, line, -, rfl⟩ := (Region.kernel?_eq_some_iff _ _ _ _).mp named
  obtain ⟨other, place, -, rfl⟩ := (Region.kernel?_eq_some_iff _ _ _ _).mp namedToo
  exact Int.ofNat_le.mpr before

end Listing

namespace Dump

theorem ofListing_eq_ok_iff (listing : Listing) (dump : Dump) :
    (ofListing listing).result = .ok dump ↔
      ∃ table, SourceTable.ofLines listing.lines = .ok table ∧
        dump = ⟨listing, table, (Listing.regions listing.lines).filterMap (Listing.Region.kernel? listing table)⟩ := by
  simp only [ofListing, ofTable, Recorded.result_bind_eq_ok_iff]
  constructor
  · rintro ⟨table, read, whole, ⟨kernels, found, made⟩, same⟩
    cases found
    cases made
    cases same
    exact ⟨table, read, rfl⟩
  · rintro ⟨table, read, rfl⟩
    exact ⟨table, read, _, ⟨_, rfl, rfl⟩, rfl⟩

section
variable {listing : Listing} {dump : Dump} (read : (ofListing listing).result = .ok dump)
include read

theorem listing_of_ofListing : dump.listing = listing := by
  obtain ⟨table, -, rfl⟩ := (ofListing_eq_ok_iff listing dump).mp read
  rfl

theorem table_of_ofListing : SourceTable.ofLines dump.listing.lines = .ok dump.table := by
  obtain ⟨table, found, rfl⟩ := (ofListing_eq_ok_iff listing dump).mp read
  exact found

theorem kernel_of_ofListing {kernel : Kernel} (member : kernel ∈ dump.kernels) :
    kernel.listing = dump.listing ∧ kernel.table = dump.table := by
  obtain ⟨table, -, rfl⟩ := (ofListing_eq_ok_iff listing dump).mp read
  obtain ⟨region, -, named⟩ := List.mem_filterMap.mp member
  obtain ⟨symbol, line, -, rfl⟩ := (Listing.Region.kernel?_eq_some_iff _ _ _ _).mp named
  exact ⟨rfl, rfl⟩

theorem pairwise_kernels : dump.kernels.Pairwise fun left right => left.stop ≤ right.start := by
  obtain ⟨table, -, rfl⟩ := (ofListing_eq_ok_iff listing dump).mp read
  exact Listing.pairwise_kernel? listing table

end

end Dump

end KernelAtlas
