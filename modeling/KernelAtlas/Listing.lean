import KernelAtlas.Number.Binary64
import KernelAtlas.Path
import KernelAtlas.Text.Lines
import KernelAtlas.Text.Utf8

/-! Assembly listings: the text of one assembly file, as lines, with what is known of the file. -/

set_option autoImplicit false

namespace KernelAtlas

structure Listing where
  path : String
  /-- The build directory, as configured, under which the file was found. -/
  buildTag : String
  /-- The time of modification in seconds. -/
  modified : Binary64
  lines : List String
  deriving DecidableEq

namespace Listing

def name (listing : Listing) : String := Path.baseName listing.path

def linesOf (content : List Char) : List String := (Text.splitLines content).map String.ofList

/-- The lines of a file's bytes: bytes that are no character become U+FFFD, and every kind of line end
counts. -/
def linesOfBytes (bytes : List UInt8) : List String :=
  linesOf (Text.unifyNewlines (Text.Utf8.decodeLossy bytes))

end Listing

end KernelAtlas
