import KernelAtlas.Proofs.FileIsolation

/-! Tables of source files against the declarations that they are read from.

A table is what is left of its declarations when they are written to a map in order: the first declaration of a
number decides its place, and the last one its path. No other line has a part in it. -/

set_option autoImplicit false

namespace KernelAtlas

open Numeral (Oversize)

/-- Numerals that stand for one number declare the same file. -/
def Directive.File.number (file : Directive.File) : Int := Numeral.value file.id

namespace Listing

def fileOn? (line : String) : Option Directive.File := Directive.file? line.toList

def declaresFile (line : String) : Bool := (fileOn? line).isSome

def files (lines : List String) : List Directive.File := lines.filterMap fileOn?

theorem files_append (lines later : List String) : files (lines ++ later) = files lines ++ files later :=
  List.filterMap_append

theorem files_filter_declaresFile (lines : List String) : files (lines.filter declaresFile) = files lines := by
  induction lines with
  | nil => rfl
  | cons line rest ih =>
    unfold files at ih ⊢
    cases found : fileOn? line with
    | none => simp [declaresFile, found, ih]
    | some file => simp [declaresFile, found, ih]

/-- The last declaration of a number. -/
def LastDeclares (lines : List String) (id : Int) (file : Directive.File) : Prop :=
  ∃ before line after, lines = before ++ line :: after ∧ fileOn? line = some file ∧ file.number = id ∧
    ∀ later ∈ after, ∀ other ∈ fileOn? later, other.number ≠ id

theorem lastDeclares_cons_iff (line : String) (rest : List String) (id : Int) (file : Directive.File) :
    LastDeclares (line :: rest) id file ↔
      LastDeclares rest id file ∨
        (fileOn? line = some file ∧ file.number = id ∧ ∀ later ∈ rest, ∀ other ∈ fileOn? later, other.number ≠ id) := by
  constructor
  · intro ⟨before, last, after, split, found, numbered, silent⟩
    cases before with
    | nil =>
      cases split
      exact Or.inr ⟨found, numbered, silent⟩
    | cons first before =>
      cases split
      exact Or.inl ⟨before, last, after, rfl, found, numbered, silent⟩
  · intro declared
    cases declared with
    | inl later =>
      obtain ⟨before, last, after, rfl, found, numbered, silent⟩ := later
      exact ⟨line :: before, last, after, rfl, found, numbered, silent⟩
    | inr first => exact ⟨[], line, rest, rfl, first⟩

theorem findRev?_files_eq_none_iff (lines : List String) (id : Int) :
    (files lines).findRev? (fun file => file.number = id) = none ↔
      ∀ line ∈ lines, ∀ file ∈ fileOn? line, file.number ≠ id := by
  simp only [List.findRev?_eq_find?_reverse, List.find?_eq_none, List.mem_reverse, files, List.mem_filterMap,
    decide_eq_true_eq, Option.mem_def]
  constructor
  · intro silent line member file found
    exact silent file ⟨line, member, found⟩
  · intro silent file declared
    obtain ⟨line, member, found⟩ := declared
    exact silent line member file found

/-- Looking for a number from the end of a listing comes upon its last declaration. -/
theorem findRev?_files_eq_some_iff (lines : List String) (id : Int) (file : Directive.File) :
    (files lines).findRev? (fun file => file.number = id) = some file ↔ LastDeclares lines id file := by
  induction lines with
  | nil => simp [files, LastDeclares]
  | cons line rest ih =>
    rw [lastDeclares_cons_iff, ← findRev?_files_eq_none_iff, ← ih]
    cases found : fileOn? line with
    | none =>
      have skipped : files (line :: rest) = files rest := List.filterMap_cons_none found
      simp [skipped]
    | some first =>
      have taken : files (line :: rest) = first :: files rest := List.filterMap_cons_some found
      rw [taken, List.findRev?]
      cases later : (files rest).findRev? fun file => file.number = id with
      | some last => simp
      | none =>
        by_cases same : first.number = id
        · simp only [same, decide_true, if_true, Option.some.injEq, reduceCtorEq, false_or, and_true]
          exact ⟨fun equal => ⟨equal, equal ▸ same⟩, fun ⟨equal, _⟩ => equal⟩
        · simp only [same, decide_false, Bool.false_eq_true, if_false, Option.some.injEq, reduceCtorEq, false_or, and_true,
            false_iff, not_and]
          exact fun equal numbered => same (equal ▸ numbered)

end Listing

namespace SourceTable

open Listing

def written (file : Directive.File) : Int × String := (file.number, file.path)

def declareFile (table : SourceTable) (file : Directive.File) : Except Oversize SourceTable :=
  (Numeral.read file.id).map fun (id : Nat) => table.insert id file.path

theorem ofLines_eq_foldlM_files (lines : List String) : ofLines lines = (files lines).foldlM declareFile .empty := by
  rw [files, List.foldlM_filterMap, ofLines]
  congr 1
  funext table line
  unfold declare fileOn?
  cases Directive.file? line.toList <;> rfl

theorem declareFile_of_legible (table : SourceTable) {file : Directive.File} (legible : file.Legible) :
    table.declareFile file = .ok (table.insert file.number file.path) := by
  have short : file.id.length ≤ Numeral.digitLimit := legible
  simp [declareFile, Numeral.read, short, Except.map, Directive.File.number]

theorem foldlM_declareFile (table : SourceTable) {declared : List Directive.File}
    (legible : ∀ file ∈ declared, file.Legible) :
    declared.foldlM declareFile table = .ok (table.write (declared.map written)) := by
  induction declared generalizing table with
  | nil => rfl
  | cons file rest ih =>
    rw [List.foldlM_cons, declareFile_of_legible table (legible file List.mem_cons_self)]
    exact ih _ fun other member => legible other (List.mem_cons_of_mem file member)

theorem legible_files_iff (lines : List String) : (∀ file ∈ files lines, file.Legible) ↔ FilesLegible lines := by
  simp only [files, List.mem_filterMap, FilesLegible, fileOn?, Option.mem_def]
  constructor
  · intro each line member file found
    exact each file ⟨line, member, found⟩
  · intro each file declared
    obtain ⟨line, member, found⟩ := declared
    exact each line member file found

theorem ofLines_eq_ok_iff (lines : List String) (table : SourceTable) :
    ofLines lines = .ok table ↔ FilesLegible lines ∧ table = .ofList ((files lines).map written) := by
  by_cases legible : FilesLegible lines
  · rw [ofLines_eq_foldlM_files, foldlM_declareFile _ ((legible_files_iff lines).mpr legible)]
    simp only [legible, true_and, Except.ok.injEq]
    exact eq_comm
  · simp only [legible, false_and, iff_false]
    exact fun read => legible ((exists_ofLines_iff lines).mp ⟨table, read⟩)

theorem exists_error_iff (lines : List String) :
    (∃ refused, ofLines lines = .error refused) ↔
      ∃ line ∈ lines, ∃ file, fileOn? line = some file ∧ Numeral.digitLimit < file.id.length := by
  have failed : (∃ refused, ofLines lines = .error refused) ↔ ¬∃ table, ofLines lines = .ok table := by
    cases ofLines lines <;> simp
  rw [failed, exists_ofLines_iff, FilesLegible]
  simp only [not_forall, Directive.File.Legible, Nat.not_le, exists_prop]
  rfl

/-- What a table has of the declarations that it was read from. -/
structure Declared (lines : List String) (table : SourceTable) : Prop where
  /-- The numbers in the order of their first declarations. -/
  keys : table.keys = ((files lines).map Directive.File.number).eraseDups
  last : ∀ id path, table.get? id = some path ↔ ∃ file, LastDeclares lines id file ∧
    path = match file.second with
      | some name => sourcePath (some (String.ofList file.first)) (String.ofList name)
      | none => Path.normalize (String.ofList file.first)
  normal : ∀ entry ∈ table.entries, entry.2 ≠ "" ∧ Path.normalize entry.2 = entry.2

theorem declared_of_ofLines {lines : List String} {table : SourceTable} (read : ofLines lines = .ok table) :
    Declared lines table := by
  have wellFormed := wellFormed_of_ofLines read
  obtain ⟨-, rfl⟩ := (ofLines_eq_ok_iff lines table).mp read
  constructor
  · rw [OrderedMap.keys_ofList, List.map_map]
    rfl
  · intro id path
    have found := OrderedMap.get?_write (.empty : SourceTable) ((files lines).map written) id
    have moved : ((files lines).map written).findRev? (fun pair => pair.1 = id) =
        ((files lines).findRev? fun file => file.number = id).map written := by
      simp only [List.findRev?_eq_find?_reverse, ← List.map_reverse, List.find?_map]
      rfl
    rw [OrderedMap.ofList, ← OrderedMap.write, found, moved]
    simp only [OrderedMap.get?_empty, Option.or_none, Option.map_map, Option.map_eq_some_iff,
      findRev?_files_eq_some_iff]
    refine exists_congr fun file => and_congr_right fun _ => ?_
    rw [eq_comm, Function.comp_apply, written, Directive.File.path]
    cases file.second <;> rfl
  · intro entry member
    exact ⟨wellFormed.filled entry member, wellFormed.normal entry member⟩

/-- A listing that goes on is read into the table of what came before. -/
theorem ofLines_append_eq_ok_iff (lines later : List String) (whole : SourceTable) :
    ofLines (lines ++ later) = .ok whole ↔
      ∃ table rest, ofLines lines = .ok table ∧ ofLines later = .ok rest ∧ whole = table.update rest := by
  have parts : OrderedMap.ofList ((files (lines ++ later)).map written) =
      (OrderedMap.ofList ((files lines).map written)).update (.ofList ((files later).map written)) := by
    rw [OrderedMap.update_ofList (OrderedMap.nodup_keys_ofList _), files_append, List.map_append]
    simp only [OrderedMap.ofList, OrderedMap.write, List.foldl_append]
  have legible : FilesLegible (lines ++ later) ↔ FilesLegible lines ∧ FilesLegible later := List.forall_mem_append
  simp only [ofLines_eq_ok_iff, legible, parts]
  constructor
  · intro both
    exact ⟨_, _, ⟨both.1.1, rfl⟩, ⟨both.1.2, rfl⟩, both.2⟩
  · intro parts
    obtain ⟨table, rest, ⟨first, rfl⟩, ⟨second, rfl⟩, same⟩ := parts
    exact ⟨⟨first, second⟩, same⟩

/-- A table has the numbers of a listing in the order of their first declarations and the paths of their last ones;
other lines do not count, and a listing that goes on overwrites. It is refused exactly for a numeral that is too long. -/
theorem ofLines_last_declaration_wins (lines : List String) :
    (∀ table, ofLines lines = .ok table → Declared lines table) ∧
      (∀ other : List String, other.filter declaresFile = lines.filter declaresFile → ofLines other = ofLines lines) ∧
      (∀ later whole, ofLines (lines ++ later) = .ok whole ↔
        ∃ table rest, ofLines lines = .ok table ∧ ofLines later = .ok rest ∧
          whole.keys = table.keys ++ rest.keys.filter (· ∉ table.keys) ∧
            ∀ id, whole.get? id = (rest.get? id).or (table.get? id)) ∧
      ((∃ refused, ofLines lines = .error refused) ↔
        ∃ line ∈ lines, ∃ file, fileOn? line = some file ∧ 4300 < file.id.length) := by
  refine ⟨fun table => declared_of_ofLines, ?_, ?_, exists_error_iff lines⟩
  · intro other same
    rw [ofLines_eq_foldlM_files, ofLines_eq_foldlM_files, ← files_filter_declaresFile other, same,
      files_filter_declaresFile]
  · intro later whole
    rw [ofLines_append_eq_ok_iff]
    refine exists_congr fun table => exists_congr fun rest => and_congr_right fun read => and_congr_right fun readLater => ?_
    exact OrderedMap.eq_update_iff (wellFormed_of_ofLines read).distinct (wellFormed_of_ofLines readLater).distinct whole

def redeclaring : List String :=
  [".file 1 \"/p\" \"a.hip\"", "s_nop 0", ".file 2 \"b/../c.h\"", ".file 01 \"/q\" \"/r//a.hip\" junk", ".file x \"d.h\""]

theorem ofLines_last_declaration_wins_redeclaring :
    ofLines redeclaring = .ok ⟨[(1, "/r/a.hip"), (2, "c.h")]⟩ ∧
      Declared redeclaring ⟨[(1, "/r/a.hip"), (2, "c.h")]⟩ ∧
      ofLines (redeclaring.filter declaresFile) = ofLines redeclaring ∧
      ∃ whole table rest : SourceTable, whole.entries = [(1, "/r/a.hip"), (2, "/p/f.h"), (3, "e.h")] ∧
        ofLines (redeclaring ++ [".file 3 \"e.h\"", ".file 2 \"/p\" \"f.h\""]) = .ok whole ∧
          ofLines redeclaring = .ok table ∧ whole.keys = table.keys ++ rest.keys.filter (· ∉ table.keys) := by
  obtain ⟨declared, skipped, appended, -⟩ := ofLines_last_declaration_wins redeclaring
  have read : ofLines redeclaring = .ok ⟨[(1, "/r/a.hip"), (2, "c.h")]⟩ := by decide +kernel
  have readWhole : ofLines (redeclaring ++ [".file 3 \"e.h\"", ".file 2 \"/p\" \"f.h\""]) =
      .ok ⟨[(1, "/r/a.hip"), (2, "/p/f.h"), (3, "e.h")]⟩ := by decide +kernel
  obtain ⟨table, rest, first, -, keys, -⟩ := (appended _ _).mp readWhole
  exact ⟨read, declared _ read, skipped _ (by simp), _, table, rest, rfl, readWhole, first, keys⟩

end SourceTable

end KernelAtlas
