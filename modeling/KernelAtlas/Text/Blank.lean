import KernelAtlas.Text.Class

/-! Blank characters, and the trimming that removes them from the ends of a text.

The class takes in the control separators U+001C to U+001F and the no-break spaces, and leaves out
the zero-width characters, so a text that only holds a U+200B is not blank. -/

set_option autoImplicit false

namespace KernelAtlas.Text

def blanks : CharClass where
  ranges := [(0x09, 0x0D), (0x1C, 0x20), (0x85, 0x85), (0xA0, 0xA0), (0x1680, 0x1680), (0x2000, 0x200A),
    (0x2028, 0x2029), (0x202F, 0x202F), (0x205F, 0x205F), (0x3000, 0x3000)]

def isBlank (c : Char) : Bool := blanks.contains c

/-- The class extends the ASCII blanks that the language itself knows. -/
theorem isBlank_of_isWhitespace {c : Char} (ascii : c.isWhitespace = true) : isBlank c = true := by
  simp only [Char.isWhitespace, Bool.or_eq_true, decide_eq_true_eq] at ascii
  rcases ascii with ((rfl | rfl) | rfl) | rfl <;> decide

def trimStart (text : List Char) : List Char := text.dropWhile isBlank

def trimEnd (text : List Char) : List Char := (text.reverse.dropWhile isBlank).reverse

def trim (text : List Char) : List Char := trimEnd (trimStart text)

theorem trimStart_cons (c : Char) (text : List Char) :
    trimStart (c :: text) = if isBlank c then trimStart text else c :: text := by
  simp [trimStart, List.dropWhile_cons]

theorem trim_cons_of_isBlank {c : Char} (blank : isBlank c = true) (text : List Char) :
    trim (c :: text) = trim text := by
  simp [trim, trimStart_cons, blank]

theorem trimStart_append {front : List Char} (kept : trimStart front ≠ []) (text : List Char) :
    trimStart (front ++ text) = trimStart front ++ text := by
  rw [trimStart, List.dropWhile_append, ← trimStart, if_neg (by simpa using kept)]

theorem trimStart_append_of_blank {front : List Char} (blank : ∀ c ∈ front, isBlank c = true) (text : List Char) :
    trimStart (front ++ text) = trimStart text :=
  List.dropWhile_append_of_pos blank

theorem trimEnd_append (front : List Char) {text : List Char} (kept : trimEnd text ≠ []) :
    trimEnd (front ++ text) = front ++ trimEnd text := by
  have turned : trimStart text.reverse ≠ [] := fun empty => kept (by rw [trimEnd, ← trimStart, empty, List.reverse_nil])
  rw [trimEnd, List.reverse_append, ← trimStart, trimStart_append turned, List.reverse_append, List.reverse_reverse,
    trimStart, trimEnd]

theorem trimEnd_append_of_blank (text : List Char) {back : List Char} (blank : ∀ c ∈ back, isBlank c = true) :
    trimEnd (text ++ back) = trimEnd text := by
  rw [trimEnd, List.reverse_append, ← trimStart, trimStart_append_of_blank (by simpa using blank), trimStart, trimEnd]

/-- Nothing but blanks is cut off at the end. -/
theorem exists_trimEnd_append (text : List Char) :
    ∃ back, text = trimEnd text ++ back ∧ ∀ c ∈ back, isBlank c = true := by
  refine ⟨(text.reverse.takeWhile isBlank).reverse, ?_, ?_⟩
  · rw [trimEnd, ← List.reverse_append, List.takeWhile_append_dropWhile, List.reverse_reverse]
  · intro c member
    exact List.all_eq_true.mp List.all_takeWhile c (List.mem_reverse.mp member)

/-- Blanks around a text are not seen by its trimmed form. -/
theorem trim_append_of_blank {front back : List Char} (blankFront : ∀ c ∈ front, isBlank c = true) (text : List Char)
    (blankBack : ∀ c ∈ back, isBlank c = true) : trim (front ++ text ++ back) = trim text := by
  rw [trim, List.append_assoc, trimStart_append_of_blank blankFront]
  by_cases blank : trimStart text = []
  · have empty : trimStart back = [] := by
      rw [← List.append_nil back, trimStart_append_of_blank blankBack]
      rfl
    have rest : trimStart (text ++ back) = trimStart back := by
      rw [trimStart, List.dropWhile_append, ← trimStart, blank]
      rfl
    rw [rest, empty, trim, blank]
  · rw [trimStart_append blank, trimEnd_append_of_blank _ blankBack, trim]

def stripped (text : String) : String := String.ofList (trim text.toList)

end KernelAtlas.Text
