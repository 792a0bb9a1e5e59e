/-! Line ends. A file may end its lines with a carriage return, a line feed or the two together;
inside the library a line ends with a line feed. -/

set_option autoImplicit false

namespace KernelAtlas.Text

def unifyNewlines : List Char → List Char
  | [] => []
  | '\r' :: '\n' :: rest => '\n' :: unifyNewlines rest
  | c :: rest => (if c = '\r' then '\n' else c) :: unifyNewlines rest

theorem carriageReturn_notMem_unifyNewlines (text : List Char) : '\r' ∉ unifyNewlines text := by
  fun_induction unifyNewlines text with
  | case1 => simp
  | case2 rest ih => simpa using ih
  | case3 c rest _ ih =>
    by_cases same : c = '\r'
    · simpa [same] using ih
    · simpa [same, Ne.symm same] using ih

/-- The lines of a text, without their line feeds. A text with no line feed is one line. -/
def splitLines (text : List Char) : List (List Char) := text.splitOn '\n'

theorem separator_notMem_of_mem_splitOn {separator : Char} {text piece : List Char}
    (member : piece ∈ text.splitOn separator) : separator ∉ piece := by
  induction text generalizing piece with
  | nil =>
    simp only [List.splitOn_nil, List.mem_singleton] at member
    simp [member]
  | cons c text ih =>
    rw [List.splitOn_cons_eq_if_modifyHead] at member
    split at member
    · rcases List.mem_cons.mp member with same | later
      · simp [same]
      · exact ih later
    · rename_i other
      cases pieces : text.splitOn separator with
      | nil => simp [pieces] at member
      | cons first rest =>
        rw [pieces, List.modifyHead_cons] at member
        rcases List.mem_cons.mp member with same | later
        · rw [same, List.mem_cons, not_or]
          exact ⟨fun found => other (beq_iff_eq.mpr found.symm), ih (pieces ▸ List.mem_cons_self)⟩
        · exact ih (pieces ▸ List.mem_cons_of_mem first later)

end KernelAtlas.Text
