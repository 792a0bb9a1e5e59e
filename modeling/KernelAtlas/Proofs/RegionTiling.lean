import KernelAtlas.Proofs.Regions

/-! How the regions of a listing tile it, and which of them are kernels.

From the first start on, every line lies in exactly one region. A region is a kernel if a line of its window
exports a kernel symbol, and the first such line names it. The window ends with the region, so no region takes the
symbol of a later one. -/

set_option autoImplicit false

namespace KernelAtlas

namespace Listing

def candidates (lines : List String) : List (Nat × Nat) := spans lines.length (regionStarts lines)

def exported? (lines : List String) (position : Nat) : Option String := lines[position]?.bind Kernel.symbolOn?

/-- The lines in which the symbol of a region is looked for: the first one and twenty more, within the region. -/
def InWindow (span : Nat × Nat) (position : Nat) : Prop :=
  span.1 ≤ position ∧ position < span.2 ∧ position ≤ span.1 + 20

/-- A region has its name from the first line of its window that exports a symbol. -/
structure Names (lines : List String) (span : Nat × Nat) (position : Nat) (symbol : String) : Prop where
  window : InWindow span position
  exports : exported? lines position = some symbol
  first : ∀ earlier, InWindow span earlier → earlier < position → exported? lines earlier = none

def Named (lines : List String) (span : Nat × Nat) : Prop :=
  ∃ position, position < span.2 ∧ InWindow span position ∧ (exported? lines position).isSome = true

instance (span : Nat × Nat) (position : Nat) : Decidable (InWindow span position) :=
  inferInstanceAs (Decidable (_ ∧ _ ∧ _))

instance (lines : List String) (span : Nat × Nat) : Decidable (Named lines span) :=
  inferInstanceAs (Decidable (∃ position, position < span.2 ∧ _))

/-- The cut of a listing into regions loses and repeats no line. -/
structure Tiled (lines : List String) : Prop where
  increases : (regionStarts lines).Pairwise (· < ·)
  bounds : ∀ place : Nat, (candidates lines)[place]? =
    (regionStarts lines)[place]?.map fun start => (start, (regionStarts lines)[place + 1]?.getD lines.length)
  filled : ∀ span ∈ candidates lines, span.1 < span.2
  covers : lines.take ((regionStarts lines).head?.getD lines.length) ++
    (candidates lines).flatMap (fun span => slice span.1 span.2 lines) = lines

def unnamed (listing : Listing) (span : Nat × Nat) : Diagnostic :=
  ⟨.noKernelSymbol, "Section has no kernel .globl directive, skipping", some listing.path, some span.1⟩

/-- Every region is a kernel under its own symbol, or is reported. -/
structure Extracted (listing : Listing) (table : SourceTable) (kernels : List Kernel) (reports : List Diagnostic) :
    Prop where
  named : List.Forall₂ (fun (span : Nat × Nat) (kernel : Kernel) =>
      kernel = ⟨kernel.symbol, span.1, span.2, listing, table⟩ ∧
        ∃ position, Names listing.lines span position kernel.symbol)
    ((candidates listing.lines).filter fun span => Named listing.lines span) kernels
  reported : reports = ((candidates listing.lines).filter fun span => ¬Named listing.lines span).map (unnamed listing)
  without_sections : (∀ line ∈ listing.lines, Directive.opensTextSection line.toList = false) → reports = [] ∧
    List.Forall₂ (fun (start : Nat) (kernel : Kernel) =>
        kernel.start = start ∧ exported? listing.lines start = some kernel.symbol)
      (regionStarts listing.lines) kernels
  apart : kernels.Pairwise fun left right => left.last < right.start

section
variable {lines : List String}

theorem lt_length_of_mem_regionStarts {start : Nat} (member : start ∈ regionStarts lines) : start < lines.length := by
  have bounded : ∀ test, start ∈ positions test lines → start < lines.length := by
    intro test inside
    obtain ⟨line, found, -⟩ := (mem_positions_iff test lines start).mp inside
    exact (List.getElem?_eq_some_iff.mp found).1
  unfold regionStarts at member
  split at member
  · exact bounded _ member
  · exact bounded _ member

theorem getElem?_spans (total : Nat) (starts : List Nat) (place : Nat) :
    (spans total starts)[place]? = starts[place]?.map fun start => (start, starts[place + 1]?.getD total) := by
  fun_induction spans total starts generalizing place with
  | case1 => simp
  | case2 start => cases place <;> simp
  | case3 start next rest ih =>
    cases place with
    | zero => simp
    | succ place => simpa using ih place

theorem fst_lt_snd_of_mem_spans {total : Nat} {starts : List Nat} (sorted : starts.Pairwise (· < ·))
    (inside : ∀ start ∈ starts, start < total) : ∀ span ∈ spans total starts, span.1 < span.2 ∧ span.2 ≤ total := by
  fun_induction spans total starts with
  | case1 => simp
  | case2 start =>
    intro span member
    rw [List.mem_singleton.mp member]
    exact ⟨inside start List.mem_cons_self, Nat.le_refl total⟩
  | case3 start next rest ih =>
    obtain ⟨before, later⟩ := List.pairwise_cons.mp sorted
    have within : ∀ other ∈ next :: rest, other < total := fun other member => inside other (List.mem_cons_of_mem _ member)
    intro span member
    rcases List.mem_cons.mp member with same | behind
    · rw [same]
      exact ⟨before next List.mem_cons_self, Nat.le_of_lt (within next List.mem_cons_self)⟩
    · exact ih later within span behind

/-- The spans hold all lines from the first start on, in order. -/
theorem flatMap_slice_spans {starts : List Nat} (sorted : starts.Pairwise (· < ·))
    (inside : ∀ start ∈ starts, start < lines.length) :
    (spans lines.length starts).flatMap (fun span => slice span.1 span.2 lines) =
      lines.drop (starts.head?.getD lines.length) := by
  generalize total : lines.length = length at inside ⊢
  fun_induction spans length starts with
  | case1 => simp [← total]
  | case2 start =>
    have bound := inside start List.mem_cons_self
    rw [List.flatMap_singleton, slice_of_le (Nat.le_of_lt bound) (Nat.le_of_eq total.symm), ← total]
    simp
  | case3 start next rest ih =>
    obtain ⟨before, later⟩ := List.pairwise_cons.mp sorted
    have within : ∀ other ∈ next :: rest, other < length := fun other member => inside other (List.mem_cons_of_mem _ member)
    have ordered : start ≤ next := Nat.le_of_lt (before next List.mem_cons_self)
    have bound : next ≤ lines.length := total ▸ Nat.le_of_lt (within next List.mem_cons_self)
    have taken : start ≤ (lines.take next).length := by
      rw [List.length_take]
      omega
    calc (spans length (start :: next :: rest)).flatMap (fun span => slice span.1 span.2 lines)
        = slice start next lines ++ lines.drop next := by
          rw [spans, List.flatMap_cons, ih later within]
          rfl
      _ = (lines.take next ++ lines.drop next).drop start := by
          rw [slice_of_le ordered bound, List.drop_append_of_le_length taken]
      _ = lines.drop start := by rw [List.take_append_drop]

end

theorem tiled (lines : List String) : Tiled lines := by
  have sorted := pairwise_regionStarts lines
  have inside : ∀ start ∈ regionStarts lines, start < lines.length := fun _ => lt_length_of_mem_regionStarts
  refine ⟨sorted, getElem?_spans lines.length (regionStarts lines), ?_, ?_⟩
  · intro span member
    exact (fst_lt_snd_of_mem_spans sorted inside span member).1
  · rw [candidates, flatMap_slice_spans sorted inside, List.take_append_drop]

theorem findSome?_zipIdx_eq_some_iff {α β : Type} (value? : α → Option β) (items : List α) (offset : Nat) (value : β)
    (place : Nat) :
    ((items.zipIdx offset).findSome? fun entry => (value? entry.1).map (·, entry.2)) = some (value, place) ↔
      offset ≤ place ∧ items[place - offset]?.bind value? = some value ∧
        ∀ earlier, offset ≤ earlier → earlier < place → items[earlier - offset]?.bind value? = none := by
  induction items generalizing offset with
  | nil => simp
  | cons item rest ih =>
    rw [List.zipIdx_cons, List.findSome?_cons]
    -- A place behind the first item is the same place counted in the rest.
    have behind : ∀ place, offset + 1 ≤ place →
        ((item :: rest)[place - offset]?.bind value?) = rest[place - (offset + 1)]?.bind value? := by
      intro place later
      rw [show place - offset = place - (offset + 1) + 1 by omega, List.getElem?_cons_succ]
    cases found : value? item with
    | some here =>
      simp only [Option.map_some, Option.some.injEq, Prod.mk.injEq]
      constructor
      · rintro ⟨rfl, rfl⟩
        refine ⟨Nat.le_refl _, by simp [found], fun earlier after before => by omega⟩
      · rintro ⟨after, given, none⟩
        rcases Nat.eq_or_lt_of_le after with same | later
        · subst same
          simpa [found] using given
        · have empty := none offset (Nat.le_refl _) later
          simp [found] at empty
    | none =>
      simp only [Option.map_none, ih]
      constructor
      · rintro ⟨after, given, none⟩
        refine ⟨by omega, (behind place after).trans given, fun earlier start before => ?_⟩
        rcases Nat.eq_or_lt_of_le start with same | later
        · subst same
          simp [found]
        · exact (behind earlier later).trans (none earlier later before)
      · rintro ⟨after, given, none⟩
        rcases Nat.eq_or_lt_of_le after with same | later
        · subst same
          simp [found] at given
        · exact ⟨later, (behind place later).symm.trans given,
            fun earlier start before => (behind earlier start).symm.trans (none earlier (by omega) before)⟩

theorem bind_getElem?_window (lines : List String) (stop : Nat) {start position : Nat} (after : start ≤ position) :
    ((lines.drop start).take (min (stop - start) (symbolWindow + 1)))[position - start]?.bind Kernel.symbolOn? =
      if InWindow (start, stop) position then exported? lines position else none := by
  have counted : start + (position - start) = position := by omega
  have window : position - start < min (stop - start) (symbolWindow + 1) ↔ InWindow (start, stop) position := by
    simp only [InWindow, symbolWindow]
    omega
  rw [List.getElem?_take, List.getElem?_drop, counted]
  by_cases inside : InWindow (start, stop) position
  · rw [if_pos (window.mpr inside), if_pos inside, exported?]
  · rw [if_neg fun near => inside (window.mp near), if_neg inside, Option.bind_none]

theorem symbolIn?_eq_some_iff (lines : List String) (start stop : Nat) (symbol : String) (position : Nat) :
    symbolIn? lines start stop = some (symbol, position) ↔ Names lines (start, stop) position symbol := by
  unfold symbolIn?
  rw [findSome?_zipIdx_eq_some_iff]
  constructor
  · rintro ⟨after, given, none⟩
    rw [bind_getElem?_window lines stop after] at given
    split at given
    · rename_i inside
      refine ⟨inside, given, fun earlier window before => ?_⟩
      have empty := none earlier window.1 before
      rwa [bind_getElem?_window lines stop window.1, if_pos window] at empty
    · cases given
  · rintro ⟨window, exports, first⟩
    refine ⟨window.1, ?_, fun earlier after before => ?_⟩
    · rw [bind_getElem?_window lines stop window.1, if_pos window]
      exact exports
    · rw [bind_getElem?_window lines stop after]
      split
      · rename_i inside
        exact first earlier inside before
      · rfl

theorem symbolIn?_eq_none_iff (lines : List String) (start stop : Nat) :
    symbolIn? lines start stop = none ↔ ∀ position, InWindow (start, stop) position → exported? lines position = none := by
  unfold symbolIn?
  rw [List.findSome?_eq_none_iff]
  constructor
  · intro none position window
    cases found : exported? lines position with
    | none => rfl
    | some symbol =>
      have given := bind_getElem?_window lines stop window.1
      rw [if_pos window, found] at given
      obtain ⟨line, there, exports⟩ := Option.bind_eq_some_iff.mp given
      have refused := none (line, position) (List.mem_zipIdx_iff_le_and_getElem?_sub.mpr ⟨window.1, there⟩)
      simp [exports] at refused
  · rintro none ⟨line, position⟩ member
    obtain ⟨after, there⟩ := List.mem_zipIdx_iff_le_and_getElem?_sub.mp member
    have given := bind_getElem?_window lines stop after
    simp only at there
    rw [there, Option.bind_some] at given
    simp only [given]
    split
    · rename_i inside
      rw [none position inside]
      rfl
    · rfl

theorem named_iff (lines : List String) (span : Nat × Nat) :
    Named lines span ↔ ∃ symbol position, symbolIn? lines span.1 span.2 = some (symbol, position) := by
  cases found : symbolIn? lines span.1 span.2 with
  | none =>
    have empty := (symbolIn?_eq_none_iff lines span.1 span.2).mp found
    simp only [reduceCtorEq, exists_false, iff_false]
    rintro ⟨position, -, window, exports⟩
    rw [empty position window] at exports
    cases exports
  | some entry =>
    have names := (symbolIn?_eq_some_iff lines span.1 span.2 entry.1 entry.2).mp found
    have present : Named lines span := ⟨entry.2, names.window.2.1, names.window, by rw [names.exports]; rfl⟩
    exact iff_of_true present ⟨entry.1, entry.2, rfl⟩

theorem forall₂_filter_filterMap {α β : Type} {related : α → β → Prop} {kept : α → Bool} {value? : α → Option β}
    {items : List α} (gives : ∀ item ∈ items, ∀ value, value? item = some value → kept item = true ∧ related item value)
    (lacks : ∀ item ∈ items, value? item = none → kept item = false) :
    List.Forall₂ related (items.filter kept) (items.filterMap value?) := by
  induction items with
  | nil => exact .nil
  | cons item rest ih =>
    have later := ih (fun other member => gives other (List.mem_cons_of_mem item member))
      fun other member => lacks other (List.mem_cons_of_mem item member)
    cases made : value? item with
    | none =>
      have dropped := lacks item List.mem_cons_self made
      simpa [dropped, made] using later
    | some value =>
      obtain ⟨passed, holds⟩ := gives item List.mem_cons_self value made
      rw [List.filter_cons_of_pos passed, List.filterMap_cons_some made]
      exact .cons holds later

section
variable (listing : Listing) (table : SourceTable)

theorem diagnostic?_entry (span : Nat × Nat) :
    (Region.entry listing ⟨span.1, span.2, symbolIn? listing.lines span.1 span.2⟩).diagnostic? =
      if ¬Named listing.lines span then some (unnamed listing span) else none := by
  have named := named_iff listing.lines span
  cases found : symbolIn? listing.lines span.1 span.2 with
  | none =>
    have nameless : ¬Named listing.lines span := by simp [named, found]
    rw [if_pos nameless]
    rfl
  | some entry =>
    have present : Named listing.lines span := named.mpr ⟨entry.1, entry.2, found⟩
    rw [if_neg (not_not_intro present)]
    rfl

theorem forall₂_candidates :
    List.Forall₂ (fun (span : Nat × Nat) (kernel : Kernel) =>
        kernel = ⟨kernel.symbol, span.1, span.2, listing, table⟩ ∧
          ∃ position, Names listing.lines span position kernel.symbol)
      ((candidates listing.lines).filter fun span => Named listing.lines span)
      ((regions listing.lines).filterMap (Region.kernel? listing table)) := by
  rw [regions, List.filterMap_map]
  apply forall₂_filter_filterMap
  · intro span _ kernel made
    obtain ⟨symbol, position, found, rfl⟩ := (Region.kernel?_eq_some_iff _ _ _ _).mp made
    have names := (symbolIn?_eq_some_iff _ _ _ _ _).mp found
    exact ⟨decide_eq_true ((named_iff _ span).mpr ⟨symbol, position, found⟩), rfl, position, names⟩
  · intro span _ missing
    have nameless : symbolIn? listing.lines span.1 span.2 = none := Option.map_eq_none_iff.mp missing
    apply decide_eq_false
    intro named
    obtain ⟨symbol, position, found⟩ := (named_iff _ span).mp named
    rw [nameless] at found
    cases found

theorem diagnostics_kernels :
    (listing.kernels table).diagnostics =
      ((candidates listing.lines).filter fun span => ¬Named listing.lines span).map (unnamed listing) := by
  -- The note that the listing has no text sections is not a diagnostic.
  have quiet : (if textSections listing.lines = [] then [Journal.Entry.progress .noTextSections] else []).filterMap
      Journal.Entry.diagnostic? = [] := by
    split <;> rfl
  simp only [Recorded.diagnostics, Journal.diagnostics, kernels, List.filterMap_append, quiet, List.nil_append, regions,
    List.map_map, List.filterMap_map]
  rw [← List.filterMap_eq_map, List.filterMap_filter]
  apply List.filterMap_congr
  intro span _
  simp [diagnostic?_entry]

variable {listing}

theorem regionStarts_eq_exportedSymbols
    (plain : ∀ line ∈ listing.lines, Directive.opensTextSection line.toList = false) :
    regionStarts listing.lines = exportedSymbols listing.lines := by
  have none : textSections listing.lines = [] := by
    apply List.eq_nil_iff_forall_not_mem.mpr
    intro position member
    obtain ⟨line, there, opens⟩ := (mem_positions_iff _ _ _).mp member
    have refused := plain line (List.mem_of_getElem? there)
    simp only [refused, Bool.false_eq_true] at opens
  rw [regionStarts, none]

theorem exported?_of_mem_candidates
    (plain : ∀ line ∈ listing.lines, Directive.opensTextSection line.toList = false) {span : Nat × Nat}
    (member : span ∈ candidates listing.lines) : (exported? listing.lines span.1).isSome = true := by
  have start : span.1 ∈ regionStarts listing.lines := by
    rw [← map_fst_spans listing.lines.length (regionStarts listing.lines)]
    exact List.mem_map_of_mem member
  rw [regionStarts_eq_exportedSymbols plain] at start
  obtain ⟨line, there, given⟩ := (mem_positions_iff _ _ _).mp start
  rw [exported?, there]
  exact given

theorem InWindow.start {lines : List String} {span : Nat × Nat} (member : span ∈ candidates lines) :
    InWindow span span.1 :=
  ⟨Nat.le_refl _, (tiled lines).filled span member, Nat.le_add_right _ _⟩

theorem Names.exported?_start {lines : List String} {span : Nat × Nat} (member : span ∈ candidates lines)
    (exports : (exported? lines span.1).isSome = true) {position : Nat} {symbol : String}
    (names : Names lines span position symbol) : exported? lines span.1 = some symbol := by
  rcases Nat.eq_or_lt_of_le names.window.1 with same | later
  · rw [same]
    exact names.exports
  · rw [names.first span.1 (.start member) later] at exports
    cases exports

theorem extracted (listing : Listing) (table : SourceTable) :
    Extracted listing table ((regions listing.lines).filterMap (Region.kernel? listing table))
      (listing.kernels table).diagnostics := by
  have named := forall₂_candidates listing table
  have reported := diagnostics_kernels listing table
  refine ⟨named, reported, ?_, ?_⟩
  · intro plain
    have all : ∀ span ∈ candidates listing.lines, Named listing.lines span := by
      intro span member
      exact ⟨span.1, (tiled listing.lines).filled span member, .start member, exported?_of_mem_candidates plain member⟩
    constructor
    · rw [reported, List.map_eq_nil_iff, List.filter_eq_nil_iff]
      intro span member
      simpa using all span member
    · have every : (candidates listing.lines).filter (fun span => Named listing.lines span) = candidates listing.lines :=
        List.filter_eq_self.mpr fun span member => decide_eq_true (all span member)
      rw [every] at named
      rw [← map_fst_spans listing.lines.length (regionStarts listing.lines), List.forall₂_map_left_iff]
      have both := (List.forall₂_and_left _ _).mpr ⟨fun (span : Nat × Nat) member => member, named⟩
      refine both.imp ?_
      rintro span kernel ⟨member, shape, position, names⟩
      rw [shape]
      exact ⟨rfl, names.exported?_start member (exported?_of_mem_candidates plain member)⟩
  · refine (pairwise_kernel? listing table).imp ?_
    intro left right before
    rw [Kernel.last]
    omega

end

/-- The regions of a listing tile it, in order. Those whose window exports a symbol are its kernels, under the first
such symbol, and each of the others is reported once. -/
theorem kernels_tile_listing (listing : Listing) (table : SourceTable) :
    Tiled listing.lines ∧ ∃ kernels, (listing.kernels table).result = .ok kernels ∧
      Extracted listing table kernels (listing.kernels table).diagnostics :=
  ⟨tiled listing.lines, _, rfl, extracted listing table⟩

def exportedAt (offset : Nat) : List String :=
  ".section .text.k" :: (List.replicate (offset - 1) "s_nop 0" ++ [".globl kernel_one", "s_endpgm"])

-- The twentieth line behind the start is the last one that names a region.
example : regions (exportedAt 20) = [⟨0, 22, some ("kernel_one", 20)⟩] ∧ regions (exportedAt 21) = [⟨0, 23, none⟩] := by
  decide +kernel

end Listing

end KernelAtlas
