import KernelAtlas.Path
import KernelAtlas.Text.Lines

/-! The normal form of paths.

A path taken apart is reduced if its components are names and `..` stands only in front of them, and only
without a root. Normalising reduces every path and leaves a reduced one as it is. -/

set_option autoImplicit false

namespace KernelAtlas.Path

def above : List Char := ['.', '.']

structure IsName (name : List Char) : Prop where
  filled : name ≠ []
  moves : name ≠ ['.']
  whole : '/' ∉ name

/-- Components as they are kept while a path is reduced, the latest first. -/
structure Kept (slashes : Nat) (kept : List (List Char)) : Prop where
  names : ∀ name ∈ kept, IsName name
  climb : ∃ down up, kept = down ++ List.replicate up above ∧ above ∉ down ∧ (slashes ≠ 0 → up = 0)

theorem kept_nil (slashes : Nat) : Kept slashes [] :=
  ⟨by simp, [], 0, by simp⟩

theorem Kept.tail {slashes : Nat} {last : List Char} {rest : List (List Char)} (kept : Kept slashes (last :: rest))
    (named : last ≠ above) : Kept slashes rest := by
  obtain ⟨down, up, split, absent, rooted⟩ := kept.climb
  refine ⟨fun name member => kept.names name (List.mem_cons_of_mem last member), ?_⟩
  cases down with
  | nil =>
    cases up with
    | zero => simp at split
    | succ up =>
      rw [List.nil_append, List.replicate_succ, List.cons.injEq] at split
      exact absurd split.1 named
  | cons first down =>
    rw [List.cons_append, List.cons.injEq] at split
    exact ⟨down, up, split.2, fun member => absent (List.mem_cons_of_mem first member), rooted⟩

/-- Below a `..` that was kept there is nothing else. -/
theorem Kept.eq_replicate {slashes : Nat} {rest : List (List Char)} (kept : Kept slashes (above :: rest)) :
    slashes = 0 ∧ ∃ up, above :: rest = List.replicate up above := by
  obtain ⟨down, up, split, absent, rooted⟩ := kept.climb
  cases down with
  | nil =>
    refine ⟨?_, up, split⟩
    by_cases root : slashes = 0
    · exact root
    · rw [rooted root] at split
      simp at split
  | cons first down =>
    rw [List.cons_append, List.cons.injEq] at split
    exact absurd (split.1 ▸ List.mem_cons_self) absent

-- A name is kept; `..` drops the name before it, and is itself kept only where there is none to drop and no root.
theorem Kept.push {slashes : Nat} {kept : List (List Char)} (valid : Kept slashes kept) {name : List Char}
    (whole : '/' ∉ name) : Kept slashes (push slashes kept name) := by
  unfold Path.push
  split
  · exact valid
  · rename_i moving
    obtain ⟨filled, moves⟩ := not_or.mp moving
    have named : IsName name := ⟨filled, moves, whole⟩
    split
    · rename_i climbing
      change name = above at climbing
      subst climbing
      cases kept with
      | nil =>
        by_cases root : slashes = 0
        · simp only [root, if_true]
          exact ⟨by simpa using named, [], 1, by simp⟩
        · simp only [root, if_false]
          exact kept_nil slashes
      | cons last rest =>
        by_cases climbed : last = above
        · subst climbed
          obtain ⟨root, up, same⟩ := valid.eq_replicate
          simp only [above, if_true]
          have names : ∀ name ∈ above :: above :: rest, IsName name := by
            intro name member
            rcases List.mem_cons.mp member with same | later
            · exact same ▸ named
            · exact valid.names name later
          refine ⟨names, [], up + 1, ?_, by simp, fun rooted => absurd root rooted⟩
          rw [List.replicate_succ, ← same]
          rfl
        · have down : last ≠ ['.', '.'] := climbed
          simp only [down, if_false]
          exact valid.tail climbed
    · rename_i down
      obtain ⟨below, up, split, absent, rooted⟩ := valid.climb
      refine ⟨by simpa using ⟨named, valid.names⟩, name :: below, up, by simp [split], ?_, rooted⟩
      intro member
      rcases List.mem_cons.mp member with same | later
      · exact down same.symm
      · exact absent later

theorem Kept.foldl {slashes : Nat} {kept : List (List Char)} (valid : Kept slashes kept)
    {names : List (List Char)} (whole : ∀ name ∈ names, '/' ∉ name) :
    Kept slashes (names.foldl (Path.push slashes) kept) := by
  induction names generalizing kept with
  | nil => exact valid
  | cons name rest ih =>
    exact ih (valid.push (whole name List.mem_cons_self)) fun other member => whole other (List.mem_cons_of_mem name member)

theorem slash_notMem_of_mem_components {path name : List Char} (member : name ∈ components path) : '/' ∉ name :=
  Text.separator_notMem_of_mem_splitOn member

/-- A path taken apart that is in normal form. -/
structure Parts.Reduced (parts : Parts) : Prop where
  slashes : parts.slashes ≤ 2
  kept : Kept parts.slashes parts.names.reverse

theorem rootSlashes_le (path : List Char) : rootSlashes path ≤ 2 := by
  unfold rootSlashes
  split <;> omega

theorem reduced_reduce (path : List Char) : (reduce path).Reduced := by
  refine ⟨rootSlashes_le path, ?_⟩
  simp only [reduce, List.reverse_reverse]
  exact (kept_nil _).foldl fun name member => slash_notMem_of_mem_components member

theorem push_of_empty (slashes : Nat) (kept : List (List Char)) : push slashes kept [] = kept := by simp [push]

theorem push_of_name (slashes : Nat) (kept : List (List Char)) {name : List Char} (named : IsName name)
    (down : name ≠ above) : push slashes kept name = name :: kept := by
  have skipped : ¬(name = [] ∨ name = ['.']) := not_or.mpr ⟨named.filled, named.moves⟩
  have climbs : ¬name = ['.', '.'] := down
  simp only [push, skipped, climbs, if_false]

theorem foldl_push_empty (slashes count : Nat) (kept : List (List Char)) :
    (List.replicate count []).foldl (push slashes) kept = kept := by
  induction count with
  | zero => rfl
  | succ count ih => rw [List.replicate_succ, List.foldl_cons, push_of_empty, ih]

theorem foldl_push_names (slashes : Nat) (kept : List (List Char)) {names : List (List Char)}
    (named : ∀ name ∈ names, IsName name) (down : above ∉ names) :
    names.foldl (push slashes) kept = names.reverse ++ kept := by
  induction names generalizing kept with
  | nil => rfl
  | cons name rest ih =>
    have first : name ≠ above := fun same => down (same ▸ List.mem_cons_self)
    rw [List.foldl_cons, push_of_name slashes kept (named name List.mem_cons_self) first,
      ih (name :: kept) (fun other member => named other (List.mem_cons_of_mem name member))
        fun member => down (List.mem_cons_of_mem name member)]
    simp

theorem foldl_push_above (earlier count : Nat) :
    (List.replicate count above).foldl (push 0) (List.replicate earlier above) =
      List.replicate (earlier + count) above := by
  induction count generalizing earlier with
  | zero => rfl
  | succ count ih =>
    have climbed : push 0 (List.replicate earlier above) above = List.replicate (earlier + 1) above := by
      cases earlier <;> simp [push, above, List.replicate_succ]
    rw [List.replicate_succ, List.foldl_cons, climbed, ih]
    congr 1
    omega

theorem foldl_push_of_kept {slashes : Nat} {names : List (List Char)} (kept : Kept slashes names.reverse) :
    names.foldl (push slashes) [] = names.reverse := by
  obtain ⟨down, up, split, absent, rooted⟩ := kept.climb
  -- Read from the front, the components that climb come first, and nothing is there for them to drop.
  have order : names = List.replicate up above ++ down.reverse := by
    rw [← List.reverse_reverse names, split, List.reverse_append, List.reverse_replicate]
  have named : ∀ name ∈ down.reverse, IsName name := by
    intro name member
    refine kept.names name ?_
    rw [split]
    exact List.mem_append_left _ (List.mem_reverse.mp member)
  have climbed : (List.replicate up above).foldl (push slashes) [] = List.replicate up above := by
    by_cases root : slashes = 0
    · subst root
      simpa using foldl_push_above 0 up
    · rw [rooted root]
      rfl
  rw [split, order, List.foldl_append, climbed, foldl_push_names slashes _ named (by simpa using absent)]
  simp

theorem components_replicate_append (count : Nat) (path : List Char) :
    components (List.replicate count '/' ++ path) = List.replicate count [] ++ components path := by
  induction count with
  | zero => rfl
  | succ count ih =>
    simp only [components] at ih ⊢
    rw [List.replicate_succ, List.cons_append, List.splitOn_cons_eq_if_modifyHead, if_pos (beq_self_eq_true '/'), ih]
    rfl

theorem rootSlashes_replicate_append {count : Nat} (few : count ≤ 2) {path : List Char}
    (relative : path.head? ≠ some '/') : rootSlashes (List.replicate count '/' ++ path) = count := by
  have counted : count = 0 ∨ count = 1 ∨ count = 2 := by omega
  cases path with
  | nil => rcases counted with rfl | rfl | rfl <;> rfl
  | cons c path =>
    have first : c ≠ '/' := by simpa using relative
    rcases counted with rfl | rfl | rfl <;> simp [rootSlashes, first, List.replicate_succ]

theorem head?_intercalate {first : List Char} (filled : first ≠ []) (rest : List (List Char)) :
    (['/'].intercalate (first :: rest)).head? = first.head? := by
  obtain ⟨c, tail, rfl⟩ := List.exists_cons_of_ne_nil filled
  cases rest <;> simp [List.intercalate_cons_cons]

namespace Parts.Reduced

variable {parts : Parts} (reduced : parts.Reduced)
include reduced

theorem isName {name : List Char} (member : name ∈ parts.names) : IsName name :=
  reduced.kept.names name (List.mem_reverse.mpr member)

theorem render_eq (filled : parts.slashes ≠ 0 ∨ parts.names ≠ []) :
    parts.render = List.replicate parts.slashes '/' ++ ['/'].intercalate parts.names := by
  unfold render
  split
  · rename_i empty
    obtain ⟨unrooted, unnamed⟩ := List.append_eq_nil_iff.mp empty
    rcases filled with root | named
    · exact absurd (by simpa using unrooted) root
    · obtain ⟨first, rest, split⟩ := List.exists_cons_of_ne_nil named
      have firstFilled := (reduced.isName (split ▸ List.mem_cons_self)).filled
      have begun := head?_intercalate firstFilled rest
      rw [← split, unnamed, List.head?_nil, eq_comm, List.head?_eq_none_iff] at begun
      exact absurd begun firstFilled
  · rfl

theorem components_render (filled : parts.names ≠ []) :
    components parts.render = List.replicate parts.slashes [] ++ parts.names := by
  have pieces : components (['/'].intercalate parts.names) = parts.names :=
    List.splitOn_intercalate '/' (fun name member => (reduced.isName member).whole) filled
  rw [reduced.render_eq (.inr filled), components_replicate_append, pieces]

-- The first name begins with no slash, so the slashes in front of it are those of the root.
theorem rootSlashes_render (filled : parts.names ≠ []) : rootSlashes parts.render = parts.slashes := by
  obtain ⟨first, rest, split⟩ := List.exists_cons_of_ne_nil filled
  have named := reduced.isName (split ▸ List.mem_cons_self : first ∈ parts.names)
  rw [reduced.render_eq (.inr filled)]
  apply rootSlashes_replicate_append reduced.slashes
  rw [split, head?_intercalate named.filled]
  exact fun slash => named.whole (List.mem_of_head? slash)

/-- The text of reduced parts is taken apart into them again. -/
theorem reduce_render : reduce parts.render = parts := by
  by_cases empty : parts.names = []
  · obtain ⟨slashes, names⟩ := parts
    have few : slashes ≤ 2 := reduced.slashes
    have counted : slashes = 0 ∨ slashes = 1 ∨ slashes = 2 := by omega
    simp only at empty
    subst empty
    rcases counted with rfl | rfl | rfl <;> rfl
  · rw [reduce, reduced.rootSlashes_render empty, reduced.components_render empty, List.foldl_append,
      foldl_push_empty, foldl_push_of_kept reduced.kept, List.reverse_reverse]

end Parts.Reduced

theorem normalizeChars_idem (path : List Char) : normalizeChars (normalizeChars path) = normalizeChars path := by
  simp only [normalizeChars]
  rw [(reduced_reduce path).reduce_render]

theorem Parts.render_ne_nil (parts : Parts) : parts.render ≠ [] := by
  unfold render
  split
  · simp
  · assumption

@[simp] theorem normalize_idem (path : String) : normalize (normalize path) = normalize path := by
  simp only [normalize, String.toList_ofList, normalizeChars_idem]

theorem normalize_ne_empty (path : String) : normalize path ≠ "" := by
  intro empty
  have chars := congrArg String.toList empty
  rw [normalize, String.toList_ofList] at chars
  exact Parts.render_ne_nil _ chars

end KernelAtlas.Path
