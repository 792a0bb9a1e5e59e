import KernelAtlas.Proofs.Gathering
import KernelAtlas.Proofs.NormalPath
import KernelAtlas.Proofs.Outcome
import KernelAtlas.SourceTable

/-! The tables of source files that are read from listings.

No number stands twice in such a table, and all its paths are normalised; so a path of the table is also
found when it is normalised again. -/

set_option autoImplicit false

namespace KernelAtlas

open Numeral (Oversize)

theorem normalize_sourcePath (directory : Option String) (name : String) :
    Path.normalize (sourcePath directory name) = sourcePath directory name := by
  unfold sourcePath
  cases directory with
  | none => exact Path.normalize_idem name
  | some directory =>
    simp only
    split
    · exact Path.normalize_idem name
    · exact Path.normalize_idem _

theorem sourcePath_ne_empty (directory : Option String) (name : String) : sourcePath directory name ≠ "" := by
  rw [← normalize_sourcePath]
  exact Path.normalize_ne_empty _

theorem Directive.File.exists_path_eq (file : Directive.File) : ∃ directory name, file.path = sourcePath directory name := by
  unfold path
  split
  · exact ⟨_, _, rfl⟩
  · exact ⟨_, _, rfl⟩

namespace SourceTable

/-- What every table read from a listing satisfies. -/
structure WellFormed (table : SourceTable) : Prop where
  distinct : table.keys.Nodup
  normal : ∀ entry ∈ table.entries, Path.normalize entry.2 = entry.2
  filled : ∀ entry ∈ table.entries, entry.2 ≠ ""

theorem wellFormed_empty : WellFormed .empty := ⟨List.nodup_nil, by simp [OrderedMap.empty], by simp [OrderedMap.empty]⟩

theorem WellFormed.insert {table : SourceTable} (valid : table.WellFormed) (id : Int) (directory : Option String)
    (name : String) : WellFormed (OrderedMap.insert table id (sourcePath directory name)) := by
  refine ⟨OrderedMap.nodup_keys_alter valid.distinct _ _, ?_, ?_⟩
  · intro entry member
    rcases OrderedMap.mem_entries_insert member with old | written
    · exact valid.normal entry old
    · rw [written]
      exact normalize_sourcePath directory name
  · intro entry member
    rcases OrderedMap.mem_entries_insert member with old | written
    · exact valid.filled entry old
    · rw [written]
      exact sourcePath_ne_empty directory name

theorem WellFormed.declare {table next : SourceTable} (valid : table.WellFormed) {line : String}
    (read : table.declare line = .ok next) : next.WellFormed := by
  unfold SourceTable.declare at read
  split at read
  · cases read
    exact valid
  · rename_i file _
    -- With or without a directory, what is written is a normalised path.
    obtain ⟨directory, name, path⟩ := file.exists_path_eq
    cases id : Numeral.read file.id with
    | error refused => simp [id, Except.map] at read
    | ok id' =>
      simp only [id, Except.map, path] at read
      cases read
      exact valid.insert id' directory name

theorem WellFormed.foldlM {table last : SourceTable} (valid : table.WellFormed) {lines : List String}
    (read : lines.foldlM SourceTable.declare table = .ok last) : last.WellFormed := by
  induction lines generalizing table with
  | nil =>
    cases read
    exact valid
  | cons line rest ih =>
    rw [List.foldlM_cons, bind_eq_ok_iff] at read
    obtain ⟨next, first, later⟩ := read
    exact ih (valid.declare first) later

theorem wellFormed_of_ofLines {lines : List String} {table : SourceTable} (read : ofLines lines = .ok table) :
    table.WellFormed := by
  unfold ofLines at read
  exact wellFormed_empty.foldlM read

theorem WellFormed.normalize_of_get? {table : SourceTable} (valid : table.WellFormed) {id : Int} {path : String}
    (found : table.get? id = some path) : Path.normalize path = path ∧ path ≠ "" := by
  have member := OrderedMap.mem_entries_of_get? found
  exact ⟨valid.normal (id, path) member, valid.filled (id, path) member⟩

/-- The file found by its name is the first of that name, and its number stands for its path. -/
theorem WellFormed.findBaseName? {table : SourceTable} (valid : table.WellFormed) {name : String} {id : Int}
    {path : String} (found : table.findBaseName? name = some (id, path)) :
    table.get? id = some path ∧ Path.baseName path = name ∧
      ∃ before after, table.entries = before ++ (id, path) :: after ∧ ∀ entry ∈ before, Path.baseName entry.2 ≠ name := by
  obtain ⟨named, before, after, split, earlier⟩ := List.find?_eq_some_iff_append.mp found
  refine ⟨?_, by simpa using named, before, after, split, fun entry member => by simpa using earlier entry member⟩
  rw [OrderedMap.get?_eq_some_iff valid.distinct, split]
  exact List.mem_append_right before List.mem_cons_self

end SourceTable

end KernelAtlas
