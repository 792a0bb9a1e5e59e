import KernelAtlas.Text.Blank

/-! Decimal digits of every script. Each script writes its ten digits on consecutive code points, so
the class is given by the code points of its zeros. -/

set_option autoImplicit false

namespace KernelAtlas.Text

def zeros : List Nat :=
  [
    0x30, 0x660, 0x6F0, 0x7C0, 0x966, 0x9E6, 0xA66, 0xAE6, 0xB66, 0xBE6, 0xC66, 0xCE6, 0xD66,
    0xDE6, 0xE50, 0xED0, 0xF20, 0x1040, 0x1090, 0x17E0, 0x1810, 0x1946, 0x19D0, 0x1A80, 0x1A90,
    0x1B50, 0x1BB0, 0x1C40, 0x1C50, 0xA620, 0xA8D0, 0xA900, 0xA9D0, 0xA9F0, 0xAA50, 0xABF0,
    0xFF10, 0x104A0, 0x10D30, 0x11066, 0x110F0, 0x11136, 0x111D0, 0x112F0, 0x11450, 0x114D0,
    0x11650, 0x116C0, 0x11730, 0x118E0, 0x11950, 0x11C50, 0x11D50, 0x11DA0, 0x16A60, 0x16AC0,
    0x16B50, 0x1D7CE, 0x1D7D8, 0x1D7E2, 0x1D7EC, 0x1D7F6, 0x1E140, 0x1E2F0, 0x1E950, 0x1FBF0
  ]

def digits : CharClass where
  ranges := zeros.map fun base => (base, base + 9)

def isDigit (c : Char) : Bool := digits.contains c

/-- The value of a digit; a character that is no digit counts as zero. -/
def digitValue (c : Char) : Nat :=
  match zeros.find? fun base => base ≤ c.toNat && c.toNat ≤ base + 9 with
  | some base => c.toNat - base
  | none => 0

theorem digitValue_lt (c : Char) : digitValue c < 10 := by
  unfold digitValue
  split
  next base found =>
    have inside := List.find?_some found
    simp only [Bool.and_eq_true, decide_eq_true_eq] at inside
    omega
  next => decide

theorem isDigit_of_ascii {c : Char} (ascii : c.isDigit = true) : isDigit c = true := by
  simp only [Char.isDigit, Bool.and_eq_true, decide_eq_true_eq, ge_iff_le, UInt32.le_iff_toNat_le] at ascii
  exact (CharClass.contains_iff _ _).mpr ⟨(48, 57), by decide, ascii.1, ascii.2⟩

theorem isBlank_of_isDigit {c : Char} (digit : isDigit c = true) : isBlank c = false :=
  CharClass.not_contains_of_apart (by decide) digit

end KernelAtlas.Text
