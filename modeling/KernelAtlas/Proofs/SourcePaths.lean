import KernelAtlas.Proofs.DeclaredSources

/-! The paths of declared source files.

Normalised paths have a simple form, and every path of that form is left alone. What a directory adds to a name depends
only on what its own path reduces to, so it may as well be normalised first; and the name of a file stays its name. -/

set_option autoImplicit false

namespace KernelAtlas

namespace Path

/-- A path in normal form: `.`, or the slashes of a root and components with single slashes between them. Only a path
without a root climbs, and it does so first. -/
inductive IsNormal : List Char → Prop where
  | here : IsNormal ['.']
  | parts (slashes up : Nat) (names : List (List Char)) (few : slashes ≤ 2) (rooted : slashes ≠ 0 → up = 0)
      (named : ∀ name ∈ names, IsName name ∧ name ≠ above) (filled : slashes ≠ 0 ∨ up ≠ 0 ∨ names ≠ []) :
      IsNormal (List.replicate slashes '/' ++ ['/'].intercalate (List.replicate up above ++ names))

theorem isName_above : IsName above := ⟨by decide, by decide, by decide⟩

theorem Parts.Reduced.isNormal {parts : Parts} (reduced : parts.Reduced) : IsNormal parts.render := by
  by_cases filled : parts.slashes ≠ 0 ∨ parts.names ≠ []
  · obtain ⟨down, up, split, absent, rooted⟩ := reduced.kept.climb
    have order : parts.names = List.replicate up above ++ down.reverse := by
      rw [← List.reverse_reverse parts.names, split, List.reverse_append, List.reverse_replicate]
    rw [reduced.render_eq filled, order]
    refine .parts parts.slashes up down.reverse reduced.slashes rooted ?_ ?_
    · intro name member
      have named : name ∈ parts.names := order ▸ List.mem_append_right _ member
      exact ⟨reduced.isName named, fun same => absent (same ▸ List.mem_reverse.mp member)⟩
    · rcases filled with root | named
      · exact .inl root
      · right
        by_contra none
        obtain ⟨level, empty⟩ := not_or.mp none
        rw [order, not_not.mp level, not_not.mp empty] at named
        exact named rfl
  · obtain ⟨slashes, names⟩ := parts
    obtain ⟨unrooted, empty⟩ := not_or.mp filled
    cases not_not.mp unrooted
    cases not_not.mp empty
    exact .here

theorem IsNormal.exists_reduced {path : List Char} (normal : IsNormal path) :
    ∃ parts : Parts, parts.Reduced ∧ parts.render = path := by
  cases normal with
  | here => exact ⟨⟨0, []⟩, ⟨by decide, kept_nil 0⟩, rfl⟩
  | parts slashes up names few rooted named filled =>
    have kept : Kept slashes (List.replicate up above ++ names).reverse := by
      refine ⟨?_, names.reverse, up, by simp, ?_, rooted⟩
      · intro name member
        rcases List.mem_append.mp (List.mem_reverse.mp member) with climbs | below
        · rw [List.eq_of_mem_replicate climbs]
          exact isName_above
        · exact (named name below).1
      · intro member
        exact (named above (List.mem_reverse.mp member)).2 rfl
    have reduced : Parts.Reduced ⟨slashes, List.replicate up above ++ names⟩ := ⟨few, kept⟩
    refine ⟨_, reduced, reduced.render_eq (filled.imp_right fun parts empty => ?_)⟩
    obtain ⟨level, unnamed⟩ := List.append_eq_nil_iff.mp empty
    exact parts.elim (fun climbs => climbs (by simpa using level)) fun named => named unnamed

theorem isNormal_iff (path : List Char) : IsNormal path ↔ normalizeChars path = path := by
  constructor
  · intro normal
    obtain ⟨parts, reduced, rfl⟩ := normal.exists_reduced
    rw [normalizeChars, reduced.reduce_render]
  · intro fixed
    rw [← fixed]
    exact (reduced_reduce path).isNormal

/-- A name joined to a directory adds its components to those of the directory, but for an empty one between them,
which counts for nothing. -/
theorem exists_components_joinChars (directory : List Char) {name : List Char} (relative : name.head? ≠ some '/') :
    ∃ front, components (joinChars directory name) = front ++ components name ∧
      ∀ slashes kept, front.foldl (push slashes) kept = (components directory).foldl (push slashes) kept := by
  have empty : components [] = [[]] := List.splitOn_nil '/'
  rw [joinChars, if_neg relative]
  split
  · rename_i closed
    rcases closed with rfl | closed
    · exact ⟨[], rfl, fun slashes kept => by rw [empty, List.foldl_nil, List.foldl_cons, push_of_empty, List.foldl_nil]⟩
    · obtain ⟨before, rfl⟩ := List.getLast?_eq_some_iff.mp closed
      have whole : components (before ++ ['/']) = components before ++ [[]] := by
        rw [components, List.splitOn_append_cons_self, List.splitOn_nil, components]
      refine ⟨components before, ?_, fun slashes kept => ?_⟩
      · rw [List.append_assoc, List.singleton_append, components, List.splitOn_append_cons_self, components, components]
      · rw [whole, List.foldl_append, List.foldl_cons, push_of_empty, List.foldl_nil]
  · refine ⟨components directory, ?_, fun slashes kept => rfl⟩
    rw [components, List.splitOn_append_cons_self, components, components]

-- The first three characters decide, and a slash that a join adds is never among those that root the path.
theorem rootSlashes_joinChars {directory : List Char} (filled : directory ≠ []) {name : List Char}
    (relative : name.head? ≠ some '/') : rootSlashes (joinChars directory name) = rootSlashes directory := by
  have first : ∀ c rest, name = c :: rest → c ≠ '/' := by
    rintro c rest rfl same
    exact relative (congrArg some same)
  rcases directory with _ | ⟨a, _ | ⟨b, _ | ⟨c, rest⟩⟩⟩
  · exact absurd rfl filled
  · cases name <;> by_cases root : a = '/' <;> simp_all [joinChars, rootSlashes]
  · cases name <;> by_cases root : a = '/' <;> by_cases second : b = '/' <;> simp_all [joinChars, rootSlashes]
  · rw [joinChars, if_neg relative]
    split <;> by_cases root : a = '/' <;> by_cases second : b = '/' <;> by_cases third : c = '/' <;>
      simp [rootSlashes, root, second, third]

/-- What a name below a directory reduces to depends on the directory only through what it reduces to itself. -/
theorem reduce_joinChars {directory : List Char} (filled : directory ≠ []) {name : List Char}
    (relative : name.head? ≠ some '/') :
    reduce (joinChars directory name) = ⟨(reduce directory).slashes,
      ((components name).foldl (push (reduce directory).slashes) (reduce directory).names.reverse).reverse⟩ := by
  obtain ⟨front, split, same⟩ := exists_components_joinChars directory relative
  simp only [reduce, rootSlashes_joinChars filled relative, split, List.foldl_append, same, List.reverse_reverse]

theorem normalizeChars_joinChars_normalizeChars {directory : List Char} (filled : directory ≠ []) {name : List Char}
    (relative : name.head? ≠ some '/') :
    normalizeChars (joinChars (normalizeChars directory) name) = normalizeChars (joinChars directory name) := by
  have again : reduce (normalizeChars directory) = reduce directory := (reduced_reduce directory).reduce_render
  have kept : normalizeChars directory ≠ [] := Parts.render_ne_nil _
  unfold normalizeChars at again kept ⊢
  rw [reduce_joinChars kept relative, reduce_joinChars filled relative, again]

theorem getLast?_components (path : List Char) : (components path).getLast? = some (baseNameChars path) := by
  have whole : components (baseNameChars path) = [baseNameChars path] :=
    List.splitOn_eq_singleton (slash_notMem_baseNameChars path)
  have split : path = (path.reverse.dropWhile (· ≠ '/')).reverse ++ baseNameChars path := by
    rw [baseNameChars, ← List.reverse_append, List.takeWhile_append_dropWhile, List.reverse_reverse]
  have stopped := List.head?_dropWhile_not (· ≠ '/') path.reverse
  cases rest : path.reverse.dropWhile (· ≠ '/') with
  | nil =>
    rw [rest, List.reverse_nil, List.nil_append] at split
    rw [← split] at whole ⊢
    rw [whole, List.getLast?_singleton]
  | cons c before =>
    have slash : c = '/' := by
      rw [rest] at stopped
      simpa using stopped
    rw [rest, slash, List.reverse_cons, List.append_assoc, List.singleton_append] at split
    have pieces : components path = components before.reverse ++ components (baseNameChars path) := by
      conv_lhs => rw [split]
      exact List.splitOn_append_cons_self _ _
    rw [pieces, whole, List.getLast?_append, List.getLast?_singleton, Option.some_or]

theorem baseNameChars_joinChars (directory name : List Char) : baseNameChars (joinChars directory name) = baseNameChars name := by
  by_cases absolute : name.head? = some '/'
  · rw [joinChars, if_pos absolute]
  · obtain ⟨front, split, -⟩ := exists_components_joinChars directory absolute
    have last := getLast?_components (joinChars directory name)
    rw [split, List.getLast?_append, getLast?_components, Option.some_or] at last
    exact (Option.some.inj last).symm

theorem baseNameChars_normalizeChars {path : List Char} (named : IsName (baseNameChars path))
    (down : baseNameChars path ≠ above) : baseNameChars (normalizeChars path) = baseNameChars path := by
  obtain ⟨front, split⟩ := List.getLast?_eq_some_iff.mp (getLast?_components path)
  have kept : (reduce path).names.getLast? = some (baseNameChars path) := by
    simp only [reduce, split, List.foldl_append, List.foldl_cons, List.foldl_nil, push_of_name _ _ named down,
      List.getLast?_reverse, List.head?_cons]
  have filled : (reduce path).names ≠ [] := by
    intro empty
    rw [empty] at kept
    cases kept
  have last := getLast?_components (normalizeChars path)
  rw [normalizeChars, (reduced_reduce path).components_render filled, List.getLast?_append, kept, Option.some_or] at last
  exact (Option.some.inj last).symm

end Path

structure SourcePathLaws (directory : Option String) (name : String) : Prop where
  fixed : Path.normalize (sourcePath directory name) = sourcePath directory name
  normal : Path.IsNormal (sourcePath directory name).toList
  directory_normalized : ∀ given, directory = some given → given ≠ "" →
    sourcePath (some (Path.normalize given)) name = sourcePath directory name
  absolute : Path.isAbsolute name = true → sourcePath directory name = Path.normalize name
  named : Path.baseName name ≠ "" → Path.baseName name ≠ "." → Path.baseName name ≠ ".." →
    Path.baseName (sourcePath directory name) = Path.baseName name

section
variable (directory : Option String) (name : String)

theorem sourcePath_of_isAbsolute (absolute : Path.isAbsolute name = true) :
    sourcePath directory name = Path.normalize name := by
  cases directory with
  | none => rfl
  | some given => exact if_pos (.inr absolute)

theorem sourcePath_of_relative {given : String} (filled : given ≠ "") (relative : Path.isAbsolute name = false) :
    sourcePath (some given) name = Path.normalize (Path.join given name) := by
  simp [sourcePath, filled, relative]

theorem exists_sourcePath_eq : ∃ path, sourcePath directory name = Path.normalize path ∧
    Path.baseName path = Path.baseName name := by
  have joined (given : String) : Path.baseName (Path.join given name) = Path.baseName name := by
    rw [Path.baseName, Path.join, String.toList_ofList, Path.baseNameChars_joinChars, Path.baseName]
  unfold sourcePath
  split
  · exact ⟨name, rfl, rfl⟩
  · rename_i given
    split
    · exact ⟨name, rfl, rfl⟩
    · exact ⟨Path.join given name, rfl, joined given⟩

theorem sourcePath_normalize {given : String} (filled : given ≠ "") :
    sourcePath (some (Path.normalize given)) name = sourcePath (some given) name := by
  cases absolute : Path.isAbsolute name with
  | true => rw [sourcePath_of_isAbsolute _ _ absolute, sourcePath_of_isAbsolute _ _ absolute]
  | false =>
    rw [sourcePath_of_relative _ (Path.normalize_ne_empty given) absolute, sourcePath_of_relative _ filled absolute]
    have relative : name.toList.head? ≠ some '/' := by simpa [Path.isAbsolute] using absolute
    have chars : given.toList ≠ [] := by simpa using filled
    simp only [Path.normalize, Path.join, String.toList_ofList, Path.normalizeChars_joinChars_normalizeChars chars relative]

theorem baseName_sourcePath (filled : Path.baseName name ≠ "") (moves : Path.baseName name ≠ ".")
    (down : Path.baseName name ≠ "..") : Path.baseName (sourcePath directory name) = Path.baseName name := by
  obtain ⟨path, same, kept⟩ := exists_sourcePath_eq directory name
  rw [← kept] at filled moves down
  have named : Path.IsName (Path.baseNameChars path.toList) :=
    ⟨fun chars => filled (congrArg String.ofList chars), fun chars => moves (congrArg String.ofList chars),
      Path.slash_notMem_baseNameChars _⟩
  have below : Path.baseNameChars path.toList ≠ Path.above := fun chars => down (congrArg String.ofList chars)
  rw [← kept, same, Path.baseName, Path.normalize, String.toList_ofList, Path.baseNameChars_normalizeChars named below,
    Path.baseName]

/-- Declared paths are in normal form, do not tell whether their directory was, and end in the name that was declared. -/
theorem sourcePath_lawful : SourcePathLaws directory name where
  fixed := normalize_sourcePath directory name
  normal := by
    have fixed := congrArg String.toList (normalize_sourcePath directory name)
    rw [Path.normalize, String.toList_ofList] at fixed
    exact (Path.isNormal_iff _).mpr fixed
  directory_normalized := by
    rintro given rfl filled
    exact sourcePath_normalize name filled
  absolute := sourcePath_of_isAbsolute directory name
  named := baseName_sourcePath directory name

end

/-- A directory that climbs out of itself, and a name that climbs further. -/
theorem sourcePath_lawful_climbing :
    sourcePath (some "p/./k//../..") "../q//a.hip" = "../q/a.hip" ∧
      sourcePath (some (Path.normalize "p/./k//../..")) "../q//a.hip" = "../q/a.hip" ∧
        Path.baseName (sourcePath (some "p/./k//../..") "../q//a.hip") = "a.hip" := by
  have path : sourcePath (some "p/./k//../..") "../q//a.hip" = "../q/a.hip" := by decide +kernel
  have laws := sourcePath_lawful (some "p/./k//../..") "../q//a.hip"
  refine ⟨path, (laws.directory_normalized _ rfl (by decide)).trans path, ?_⟩
  rw [laws.named (by decide +kernel) (by decide +kernel) (by decide +kernel)]
  decide +kernel

end KernelAtlas
