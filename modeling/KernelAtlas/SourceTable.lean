import KernelAtlas.Directive
import KernelAtlas.Number.Numeral
import KernelAtlas.OrderedMap
import KernelAtlas.Path

/-! The source files that an assembly listing declares, by their numbers. -/

set_option autoImplicit false

namespace KernelAtlas

open Numeral (Oversize)

abbrev SourceTable := OrderedMap Int String

def sourcePath (directory : Option String) (name : String) : String :=
  match directory with
  | none => Path.normalize name
  | some directory =>
    if directory = "" ∨ Path.isAbsolute name = true then Path.normalize name
    else Path.normalize (Path.join directory name)

namespace Directive.File

def path (file : Directive.File) : String :=
  match file.second with
  | some name => sourcePath (some (String.ofList file.first)) (String.ofList name)
  | none => sourcePath none (String.ofList file.first)

end Directive.File

namespace SourceTable

/-- One line read into the table; a later declaration of a number overwrites the earlier path. -/
def declare (table : SourceTable) (line : String) : Except Oversize SourceTable :=
  match Directive.file? line.toList with
  | none => .ok table
  | some file => (Numeral.read file.id).map fun (id : Nat) => table.insert id file.path

def ofLines (lines : List String) : Except Oversize SourceTable := lines.foldlM declare .empty

def findBaseName? (table : SourceTable) (name : String) : Option (Int × String) :=
  table.entries.find? fun entry => Path.baseName entry.2 = name

end SourceTable

end KernelAtlas
