import KernelAtlas.Discovery
import KernelAtlas.Proofs.Utf8Decoding
import Mathlib.Data.List.Forall2

/-! The lines of a listing are the lines of its file.

A file is decoded as a whole and then cut at its line ends; the same lines result if its bytes are cut first and each
line is decoded on its own. So what is wrong with the bytes of one line stays in that line. -/

set_option autoImplicit false

namespace KernelAtlas

namespace Text

namespace Utf8

theorem utf8EncodeChar_ascii {c : Char} (ascii : c.toNat < 0x80) : String.utf8EncodeChar c = [UInt8.ofNat c.toNat] := by
  have byte : (UInt8.ofNat c.toNat).toNat = c.toNat := by
    rw [UInt8.toNat_ofNat']
    omega
  have written := utf8EncodeChar_of_ascii (byte.symm ▸ ascii)
  rwa [byte, Char.ofNat_toNat] at written

theorem mem_of_mem_decodeLossy {bytes : List UInt8} {c : Char} (ascii : c.toNat < 0x80)
    (member : c ∈ decodeLossy bytes) : UInt8.ofNat c.toNat ∈ bytes := by
  have parted := (parted_iff bytes _).mpr rfl
  rw [decodeLossy] at member
  generalize pieces bytes = found at parted member
  induction parted with
  | nil => cases member
  | scalar first later ih =>
    rcases List.mem_cons.mp member with same | inLater
    · rw [Piece.char] at same
      rw [← same, utf8EncodeChar_ascii ascii]
      exact List.mem_cons_self
    · exact List.mem_append_right _ (ih inLater)
  | flawed found later ih =>
    rcases List.mem_cons.mp member with same | inLater
    · rw [same, Piece.char] at ascii
      exact absurd ascii (by decide)
    · exact List.mem_append_right _ (ih inLater)

theorem head?_of_head?_decodeLossy {bytes : List UInt8} {c : Char} (ascii : c.toNat < 0x80)
    (first : (decodeLossy bytes).head? = some c) : bytes.head? = some (UInt8.ofNat c.toNat) := by
  have parted := (parted_iff bytes _).mpr rfl
  rw [decodeLossy] at first
  generalize pieces bytes = found at parted first
  cases parted with
  | nil => cases first
  | scalar other later =>
    cases first
    rw [Piece.char] at ascii ⊢
    rw [utf8EncodeChar_ascii ascii]
    rfl
  | flawed found later =>
    cases first
    rw [Piece.char] at ascii
    exact absurd ascii (by decide)

theorem map_char_interrupt (state : State) : (interrupt state).map Piece.char = (finish state).map Piece.char := by
  cases state <;> rfl

/-- An ASCII byte parts what is before it from what is behind it. -/
theorem decodeLossy_append (front rest : List UInt8) {byte : UInt8} (ascii : byte.toNat < 0x80) :
    decodeLossy (front ++ byte :: rest) = decodeLossy front ++ Char.ofNat byte.toNat :: decodeLossy rest := by
  have from_state (state : State) : (piecesFrom state (front ++ byte :: rest)).map Piece.char =
      (piecesFrom state front).map Piece.char ++ Char.ofNat byte.toNat :: (pieces rest).map Piece.char := by
    induction front generalizing state with
    | nil =>
      simp only [List.nil_append, piecesFrom, step_ascii ascii, List.map_append, List.map_cons, List.map_nil,
        Piece.char, map_char_interrupt, List.append_assoc, pieces]
      rfl
    | cons first front ih => simp only [List.cons_append, piecesFrom, List.map_append, ih, List.append_assoc]
  exact from_state .between

theorem decodeLossy_cons (rest : List UInt8) {byte : UInt8} (ascii : byte.toNat < 0x80) :
    decodeLossy (byte :: rest) = Char.ofNat byte.toNat :: decodeLossy rest :=
  decodeLossy_append [] rest ascii

theorem decodeLossy_of_ascii {bytes : List UInt8} (ascii : ∀ byte ∈ bytes, byte.toNat < 0x80) :
    decodeLossy bytes = bytes.map fun byte => Char.ofNat byte.toNat := by
  induction bytes with
  | nil => rfl
  | cons byte rest ih =>
    rw [decodeLossy_cons rest (ascii byte List.mem_cons_self), List.map_cons,
      ih fun other member => ascii other (List.mem_cons_of_mem byte member)]

end Utf8

theorem unifyNewlines_cons {c : Char} {rest : List Char} (whole : c = '\r' → rest.head? ≠ some '\n') :
    unifyNewlines (c :: rest) = (if c = '\r' then '\n' else c) :: unifyNewlines rest := by
  rw [unifyNewlines]
  rintro after same rfl
  exact whole same rfl

/-- Texts between which no line end is cut can be taken one by one. -/
theorem unifyNewlines_append {front rest : List Char} (whole : front.getLast? = some '\r' → rest.head? ≠ some '\n') :
    unifyNewlines (front ++ rest) = unifyNewlines front ++ unifyNewlines rest := by
  fun_induction unifyNewlines front with
  | case1 => rfl
  | case2 front ih =>
    rw [List.cons_append, List.cons_append, unifyNewlines, ih fun last => whole (by simp [List.getLast?_cons, last])]
    rfl
  | case3 c front lone ih =>
    have first : c = '\r' → (front ++ rest).head? ≠ some '\n' := by
      rintro rfl next
      cases front with
      | nil => exact whole rfl next
      | cons d front =>
        cases next
        exact lone front rfl rfl
    rw [List.cons_append, unifyNewlines_cons first, ih fun last => whole (by simp [List.getLast?_cons, last])]
    rfl

theorem unifyNewlines_of_notMem {text : List Char} (plain : '\r' ∉ text) : unifyNewlines text = text := by
  induction text with
  | nil => rfl
  | cons c text ih =>
    rw [List.mem_cons, not_or] at plain
    rw [unifyNewlines_cons fun same => absurd same.symm plain.1, if_neg (Ne.symm plain.1), ih plain.2]

end Text

namespace Listing

open Text (splitLines unifyNewlines)
open Text.Utf8 (Parted Piece decodeLossy)

inductive LineEnd where
  | crlf
  | cr
  | lf
  deriving DecidableEq, Repr

def LineEnd.bytes : LineEnd → List UInt8
  | crlf => [0x0D, 0x0A]
  | cr => [0x0D]
  | lf => [0x0A]

structure Unbroken (line : List UInt8) : Prop where
  cr : 0x0D ∉ line
  lf : 0x0A ∉ line

/-- A file as its lines: each of them ends with one of the line ends, and a carriage return that a line feed follows
does not end a line by itself. -/
inductive Physical : List UInt8 → List (List UInt8) → Prop where
  | last {line : List UInt8} (unbroken : Unbroken line) : Physical line [line]
  | line {line rest : List UInt8} {lines : List (List UInt8)} (unbroken : Unbroken line) (ending : LineEnd)
      (whole : ending = .cr → rest.head? ≠ some 0x0A) (later : Physical rest lines) :
    Physical (line ++ (ending.bytes ++ rest)) (line :: lines)

def physicalLines : List UInt8 → List (List UInt8)
  | [] => [[]]
  | 0x0D :: 0x0A :: rest => [] :: physicalLines rest
  | byte :: rest =>
    if byte = 0x0D ∨ byte = 0x0A then [] :: physicalLines rest else (physicalLines rest).modifyHead (byte :: ·)

theorem Physical.cons {bytes first : List UInt8} {lines : List (List UInt8)} (physical : Physical bytes (first :: lines))
    {byte : UInt8} (other : byte ≠ 0x0D ∧ byte ≠ 0x0A) : Physical (byte :: bytes) ((byte :: first) :: lines) := by
  have longer {line : List UInt8} (unbroken : Unbroken line) : Unbroken (byte :: line) :=
    ⟨by simp [unbroken.cr, Ne.symm other.1], by simp [unbroken.lf, Ne.symm other.2]⟩
  cases physical with
  | last unbroken => exact .last (longer unbroken)
  | line unbroken ending whole later => exact .line (longer unbroken) ending whole later

theorem physical_physicalLines (bytes : List UInt8) : Physical bytes (physicalLines bytes) := by
  have empty : Unbroken [] := ⟨List.not_mem_nil, List.not_mem_nil⟩
  fun_induction physicalLines bytes with
  | case1 => exact .last empty
  | case2 rest ih => exact .line empty .crlf (fun same => by cases same) ih
  | case3 byte rest lone ends ih =>
    rcases ends with rfl | rfl
    · refine .line empty .cr (fun _ next => ?_) ih
      obtain ⟨after, rfl⟩ := List.head?_eq_some_iff.mp next
      exact lone after rfl rfl
    · exact .line empty .lf (fun same => by cases same) ih
  | case4 byte rest lone plain ih =>
    rw [not_or] at plain
    cases lines : physicalLines rest with
    | nil =>
      rw [lines] at ih
      cases ih
    | cons first others =>
      rw [lines] at ih
      exact ih.cons plain

theorem physicalLines_cons {byte : UInt8} (other : byte ≠ 0x0D ∧ byte ≠ 0x0A) (rest : List UInt8) :
    physicalLines (byte :: rest) = (physicalLines rest).modifyHead (byte :: ·) := by
  rw [physicalLines, if_neg (not_or.mpr other)]
  rintro after same -
  exact other.1 same

theorem physicalLines_lineEnd {ending : LineEnd} {rest : List UInt8} (whole : ending = .cr → rest.head? ≠ some 0x0A) :
    physicalLines (ending.bytes ++ rest) = [] :: physicalLines rest := by
  cases ending with
  | crlf => rfl
  | cr =>
    change physicalLines (0x0D :: rest) = _
    rw [physicalLines, if_pos (.inl rfl)]
    rintro after - rfl
    exact whole rfl rfl
  | lf =>
    change physicalLines (0x0A :: rest) = _
    rw [physicalLines, if_pos (.inr rfl)]
    rintro after same -
    exact absurd same (by decide)

theorem physicalLines_append {line : List UInt8} (unbroken : Unbroken line) {rest first : List UInt8}
    {others : List (List UInt8)} (cut : physicalLines rest = first :: others) :
    physicalLines (line ++ rest) = (line ++ first) :: others := by
  induction line with
  | nil => exact cut
  | cons byte line ih =>
    obtain ⟨cr, lf⟩ := unbroken
    rw [List.mem_cons, not_or] at cr lf
    rw [List.cons_append, physicalLines_cons ⟨Ne.symm cr.1, Ne.symm lf.1⟩, ih ⟨cr.2, lf.2⟩]
    rfl

/-- A file has its physical lines in one way. -/
theorem physical_iff (bytes : List UInt8) (lines : List (List UInt8)) :
    Physical bytes lines ↔ lines = physicalLines bytes := by
  constructor
  · intro physical
    induction physical with
    | @last line unbroken =>
      have none : physicalLines [] = [[]] := rfl
      have whole := physicalLines_append unbroken none
      rw [List.append_nil] at whole
      exact whole.symm
    | @line line rest lines unbroken ending whole later ih =>
      rw [physicalLines_append unbroken (physicalLines_lineEnd whole), List.append_nil, ih]
  · rintro rfl
    exact physical_physicalLines bytes

def lineText (line : List UInt8) : String := String.ofList (decodeLossy line)

section
variable {line : List UInt8} (unbroken : Unbroken line)
include unbroken

theorem carriageReturn_notMem_decodeLossy : '\r' ∉ decodeLossy line := fun member =>
  unbroken.cr (Text.Utf8.mem_of_mem_decodeLossy (by decide) member)

theorem lineFeed_notMem_decodeLossy : '\n' ∉ decodeLossy line := fun member =>
  unbroken.lf (Text.Utf8.mem_of_mem_decodeLossy (by decide) member)

theorem linesOfBytes_of_unbroken : linesOfBytes line = [lineText line] := by
  rw [linesOfBytes, Text.unifyNewlines_of_notMem (carriageReturn_notMem_decodeLossy unbroken), linesOf, splitLines,
    List.splitOn_eq_singleton (lineFeed_notMem_decodeLossy unbroken)]
  rfl

theorem unifyNewlines_decodeLossy {ending : LineEnd} {rest : List UInt8}
    (whole : ending = .cr → rest.head? ≠ some 0x0A) :
    unifyNewlines (decodeLossy (line ++ (ending.bytes ++ rest))) =
      decodeLossy line ++ '\n' :: unifyNewlines (decodeLossy rest) := by
  have plain := carriageReturn_notMem_decodeLossy unbroken
  have front (after : List Char) : unifyNewlines (decodeLossy line ++ after) = decodeLossy line ++ unifyNewlines after := by
    rw [Text.unifyNewlines_append fun last => absurd (List.mem_of_getLast? last) plain, Text.unifyNewlines_of_notMem plain]
  have cr (after : List UInt8) : decodeLossy (line ++ 0x0D :: after) = decodeLossy line ++ '\r' :: decodeLossy after :=
    Text.Utf8.decodeLossy_append line after (by decide)
  have lf (before after : List UInt8) :
      decodeLossy (before ++ 0x0A :: after) = decodeLossy before ++ '\n' :: decodeLossy after :=
    Text.Utf8.decodeLossy_append before after (by decide)
  cases ending with
  | crlf =>
    change unifyNewlines (decodeLossy (line ++ 0x0D :: ([] ++ 0x0A :: rest))) = _
    rw [cr, lf, front]
    rfl
  | cr =>
    change unifyNewlines (decodeLossy (line ++ 0x0D :: rest)) = _
    have lone : (decodeLossy rest).head? ≠ some '\n' := fun first =>
      whole rfl (Text.Utf8.head?_of_head?_decodeLossy (by decide) first)
    rw [cr, front, Text.unifyNewlines_cons fun _ => lone]
    rfl
  | lf =>
    change unifyNewlines (decodeLossy (line ++ 0x0A :: rest)) = _
    rw [lf, front, Text.unifyNewlines_cons fun same => absurd same (by decide)]
    rfl

theorem linesOfBytes_append {ending : LineEnd} {rest : List UInt8} (whole : ending = .cr → rest.head? ≠ some 0x0A) :
    linesOfBytes (line ++ (ending.bytes ++ rest)) = lineText line :: linesOfBytes rest := by
  rw [linesOfBytes, unifyNewlines_decodeLossy unbroken whole, linesOf, splitLines, List.splitOn_append_cons_self,
    List.splitOn_eq_singleton (lineFeed_notMem_decodeLossy unbroken)]
  rfl

end

/-- Decoding and cutting into lines can be done in either order. -/
theorem linesOfBytes_eq_map (bytes : List UInt8) : linesOfBytes bytes = (physicalLines bytes).map lineText := by
  have physical := physical_physicalLines bytes
  generalize physicalLines bytes = lines at physical
  induction physical with
  | last unbroken => exact linesOfBytes_of_unbroken unbroken
  | line unbroken ending whole later ih => rw [linesOfBytes_append unbroken whole, ih, List.map_cons]

/-- The lines of a listing as they are read from the bytes of its file. -/
structure LineByLine (bytes : List UInt8) (texts : List String) : Prop where
  cut : ∀ lines, Physical bytes lines ↔ lines = physicalLines bytes
  /-- Each line is read on its own: its characters, and U+FFFD for each flawed part. -/
  decoded : List.Forall₂ (fun line text => ∃ parts, Parted line parts ∧ text.toList = parts.map Piece.char)
    (physicalLines bytes) texts
  /-- Nothing outside a line has an effect on it. -/
  confined : ∀ (other : List UInt8) (place : Nat), (physicalLines other)[place]? = (physicalLines bytes)[place]? →
    (linesOfBytes other)[place]? = texts[place]?
  ascii : ∀ (place : Nat) line, (physicalLines bytes)[place]? = some line → (∀ byte ∈ line, byte.toNat < 0x80) →
    texts[place]? = some (String.ofList (line.map fun byte => Char.ofNat byte.toNat))

theorem lineByLine (bytes : List UInt8) : LineByLine bytes (linesOfBytes bytes) := by
  refine ⟨physical_iff bytes, ?_, ?_, ?_⟩
  · rw [linesOfBytes_eq_map, List.forall₂_map_right_iff, List.forall₂_same]
    intro line _
    exact ⟨_, (Text.Utf8.parted_iff line _).mpr rfl, String.toList_ofList⟩
  · intro other place same
    rw [linesOfBytes_eq_map, linesOfBytes_eq_map, List.getElem?_map, List.getElem?_map, same]
  · intro place line there ascii
    rw [linesOfBytes_eq_map, List.getElem?_map, there, Option.map_some, lineText, Text.Utf8.decodeLossy_of_ascii ascii]

/-- An assembly file that can be read makes a listing of its physical lines. -/
theorem read_line_by_line {tree : FileTree} {path : String} {bytes : List UInt8} {modified : Binary64}
    (stored : tree.read path = .ok (bytes, modified)) (buildTag : String) :
    ∃ listing, Discovery.fileFinding tree buildTag path = .listing listing ∧ LineByLine bytes listing.lines := by
  refine ⟨⟨path, buildTag, modified, linesOfBytes bytes⟩, ?_, lineByLine bytes⟩
  rw [Discovery.fileFinding, stored]

def damaged : List UInt8 := [0x61, 0xE2, 0x82, 0x0D, 0x0A, 0xFF, 0x0D, 0x6F, 0x6B]

theorem read_line_by_line_damaged :
    let tree : FileTree := ⟨[("k.s", .file damaged ⟨0⟩)], []⟩
    tree.read "k.s" = .ok (damaged, .finite false 0) ∧ physicalLines damaged = [[0x61, 0xE2, 0x82], [0xFF], [0x6F, 0x6B]] ∧
      ∃ listing, Discovery.fileFinding tree "build" "k.s" = .listing listing ∧
        listing.lines = ["a\uFFFD", "\uFFFD", "ok"] ∧ LineByLine damaged listing.lines := by
  intro tree
  have stored : tree.read "k.s" = .ok (damaged, .finite false 0) := by decide +kernel
  obtain ⟨listing, found, lines⟩ := read_line_by_line stored "build"
  refine ⟨stored, by decide +kernel, listing, found, ?_, lines⟩
  have made : Discovery.fileFinding tree "build" "k.s" =
      .listing ⟨"k.s", "build", .finite false 0, ["a\uFFFD", "\uFFFD", "ok"]⟩ := by
    rw [Discovery.fileFinding, stored]
    exact congrArg (fun lines => Discovery.Finding.listing ⟨"k.s", "build", .finite false 0, lines⟩) (by decide +kernel)
  rw [made] at found
  cases found
  rfl

end Listing

end KernelAtlas
