import KernelAtlas.Proofs.IndexLaws
import KernelAtlas.Proofs.MnemonicCounts

/-! Lines with a comment behind their text.

Behind a directive or another comment, a comment changes nothing. Behind other text it counts as a part of it: a label is
an instruction as soon as a space stands in front of the comment, and a comment that ends in a colon can make a label of
an instruction. -/

set_option autoImplicit false

namespace KernelAtlas

namespace Text

theorem trimEnd_ne_nil {text : List Char} {c : Char} (member : c ∈ text) (visible : isBlank c = false) :
    trimEnd text ≠ [] := by
  intro empty
  obtain ⟨back, split, blank⟩ := exists_trimEnd_append text
  rw [empty, List.nil_append] at split
  rw [blank c (split ▸ member)] at visible
  cases visible

theorem isWord_of_isBlank {c : Char} (blank : isBlank c = true) : isWord c = false := by
  by_cases ascii : c.toNat < 0x80
  · have low : c.toNat < 0x21 := by
      rw [isBlank, CharClass.contains_iff] at blank
      simp only [blanks, List.mem_cons, List.not_mem_nil, or_false, exists_eq_or_imp, exists_eq_left] at blank
      omega
    have control : ∀ code < 0x21, isWord (Char.ofNat code) = false := by decide
    rw [← Char.ofNat_toNat c]
    exact control _ low
  · rw [isWord, if_neg ascii]
    exact CharClass.not_contains_of_apart (by decide +kernel : blanks.apart wideAlphanumerics = true) blank

theorem takeWhile_isWord_append (text : List Char) {gap : List Char} (gapped : gap ≠ [])
    (blank : ∀ c ∈ gap, isBlank c = true) (rest : List Char) :
    (text ++ gap ++ rest).takeWhile isWord = text.takeWhile isWord := by
  obtain ⟨c, gap, rfl⟩ := List.exists_cons_of_ne_nil gapped
  have stops : isWord c = false := isWord_of_isBlank (blank c List.mem_cons_self)
  induction text with
  | nil => simp [stops]
  | cons d text ih =>
    by_cases word : isWord d = true
    · simpa [word] using ih
    · simp [word]

end Text

namespace Line

open Text

/-- A comment behind the text of a line: a gap of spaces and tabs, a mark, and any text. -/
structure TrailingComment where
  gap : List Char
  mark : List Char
  text : List Char
  gapped : gap ≠ []
  blank : ∀ c ∈ gap, c = ' ' ∨ c = '\t'
  marked : mark = [';'] ∨ mark = ['/', '/']

namespace TrailingComment

variable (comment : TrailingComment)

def chars : List Char := comment.gap ++ (comment.mark ++ comment.text)

theorem isBlank_of_mem_gap {c : Char} (member : c ∈ comment.gap) : isBlank c = true := by
  rcases comment.blank c member with rfl | rfl <;> decide

theorem trimEnd_mark_append : trimEnd (comment.mark ++ comment.text) ≠ [] := by
  rcases comment.marked with same | same <;> rw [same]
  · exact trimEnd_ne_nil List.mem_cons_self (by decide)
  · exact trimEnd_ne_nil List.mem_cons_self (by decide)

theorem trimEnd_chars : trimEnd comment.chars = comment.gap ++ trimEnd (comment.mark ++ comment.text) :=
  trimEnd_append _ comment.trimEnd_mark_append

theorem trimEnd_chars_ne_nil : trimEnd comment.chars ≠ [] := by
  rw [trimEnd_chars]
  exact List.append_ne_nil_of_left_ne_nil comment.gapped _

end TrailingComment

def commented (line : String) (comment : TrailingComment) : String := line ++ String.ofList comment.chars

/-- A line and a comment that read as one label: neither holds a space, and the comment ends in a colon. -/
def ReadsAsLabel (line : String) (comment : TrailingComment) : Prop :=
  ' ' ∉ trimStart line.toList ∧ isLabel (trimEnd comment.chars) = true

theorem isLabel_iff (text : List Char) : isLabel text = true ↔ text.getLast? = some ':' ∧ ' ' ∉ text := by
  simp [isLabel]

theorem isLabel_append (front : List Char) {text : List Char} (filled : text ≠ []) :
    isLabel (front ++ text) = true ↔ ' ' ∉ front ∧ isLabel text = true := by
  rw [isLabel_iff, isLabel_iff, List.getLast?_append_of_ne_nil _ filled, List.mem_append, not_or]
  exact and_left_comm

theorem opensComment_append {text gap : List Char} (filled : text ≠ []) (gapped : gap ≠ [])
    (blank : ∀ c ∈ gap, isBlank c = true) (rest : List Char) :
    opensComment (text ++ gap ++ rest) = opensComment text := by
  obtain ⟨b, gap, rfl⟩ := List.exists_cons_of_ne_nil gapped
  have apart : b ≠ '/' := by
    rintro rfl
    exact absurd (blank '/' List.mem_cons_self) (by decide)
  rcases text with _ | ⟨c, _ | ⟨d, text⟩⟩
  · exact absurd rfl filled
  · unfold opensComment
    split <;> simp_all
  · unfold opensComment
    split <;> simp_all

/-- What is put behind a text and a gap decides at most whether it is a label. -/
theorem kindOf_append {text gap : List Char} (filled : text ≠ []) (gapped : gap ≠ [])
    (blank : ∀ c ∈ gap, isBlank c = true) (rest : List Char) :
    kindOf (text ++ gap ++ rest) =
      match kindOf text with
      | .label | .instruction => if isLabel (text ++ gap ++ rest) then .label else .instruction
      | kind => kind := by
  have whole : text ++ gap ++ rest ≠ [] := by simp [filled]
  have first : (text ++ gap ++ rest).head? = text.head? := by
    rw [List.append_assoc, List.head?_append_of_ne_nil _ filled]
  rw [kindOf, if_neg whole, first, opensComment_append filled gapped blank, kindOf, if_neg filled]
  by_cases dot : text.head? = some '.'
  · rw [if_pos dot, if_pos dot]
  · rw [if_neg dot, if_neg dot]
    by_cases opens : opensComment text = true
    · rw [if_pos opens, if_pos opens]
    · rw [if_neg opens, if_neg opens]
      by_cases label : isLabel text = true
      · rw [if_pos label]
      · rw [if_neg label]

def openingWord? (line : String) : Option String :=
  match (trim line.toList).takeWhile isWord with
  | [] => none
  | word => some (String.ofList (lower word))

theorem mnemonic?_of_instruction {line : String} (kind : classify line = .instruction) :
    mnemonic? line = openingWord? line :=
  if_pos (by simp [isInstruction, kind])

section
variable {line : String} (filled : trim line.toList ≠ []) (comment : TrailingComment)
include filled

theorem trim_commented : trim (commented line comment).toList = trimStart line.toList ++ trimEnd comment.chars := by
  have kept : trimStart line.toList ≠ [] := fun empty => filled (by rw [trim, empty]; rfl)
  rw [commented, String.toList_append, String.toList_ofList, trim, trimStart_append kept,
    trimEnd_append _ comment.trimEnd_chars_ne_nil]

theorem exists_trim_commented : ∃ gap : List Char, gap ≠ [] ∧ (∀ c ∈ gap, isBlank c = true) ∧
    trim (commented line comment).toList = trim line.toList ++ gap ++ trimEnd (comment.mark ++ comment.text) := by
  obtain ⟨back, split, blank⟩ := exists_trimEnd_append (trimStart line.toList)
  refine ⟨back ++ comment.gap, List.append_ne_nil_of_right_ne_nil _ comment.gapped, ?_, ?_⟩
  · intro c member
    rcases List.mem_append.mp member with inBack | inGap
    · exact blank c inBack
    · exact comment.isBlank_of_mem_gap inGap
  · rw [trim_commented filled, comment.trimEnd_chars]
    conv_lhs => rw [split]
    simp only [trim, List.append_assoc]

theorem classify_commented :
    classify (commented line comment) =
      match classify line with
      | .label | .instruction => if isLabel (trim (commented line comment).toList) then .label else .instruction
      | kind => kind := by
  obtain ⟨gap, gapped, blank, whole⟩ := exists_trim_commented filled comment
  rw [classify, whole, kindOf_append filled gapped blank, classify]

theorem isLabel_commented :
    isLabel (trim (commented line comment).toList) = true ↔ ReadsAsLabel line comment := by
  rw [trim_commented filled, isLabel_append _ comment.trimEnd_chars_ne_nil, ReadsAsLabel]

theorem openingWord?_commented : openingWord? (commented line comment) = openingWord? line := by
  obtain ⟨gap, gapped, blank, whole⟩ := exists_trim_commented filled comment
  rw [openingWord?, openingWord?, whole, takeWhile_isWord_append _ gapped blank]

end

structure PassedOver (line : String) : Prop where
  unselected : ∀ {lines : List String} {table : SourceTable} {wanted : Int → Bool} {index : LineIndex} {place : Nat},
    LineIndex.buildWanted lines table wanted = .ok index → lines[place]? = some line →
      ∀ (file : String) (number : Int), place ∉ index.forward file number
  uncounted : ∀ front back : List String, histogram (front ++ line :: back) = histogram (front ++ back)

/-- A line that is selected for its location and counted under the word that it starts with. -/
structure Selected (line : String) : Prop where
  selected : ∀ {lines : List String} {table : SourceTable} {wanted : Int → Bool} {index : LineIndex} {place : Nat},
    LineIndex.buildWanted lines table wanted = .ok index → lines[place]? = some line →
      ∀ (file : String) (number : Nat), index.reverse? place = some ⟨Path.normalize file, number⟩ →
        place ∈ index.forward file number
  counted : ∀ (word : String) (front back : List String), openingWord? line = some word →
    countIn (histogram (front ++ line :: back)) word = countIn (histogram (front ++ back)) word + 1

theorem passedOver_of_kind {line : String} (other : classify line ≠ .instruction) : PassedOver line where
  unselected := by
    intro lines table wanted index place built there file number member
    obtain ⟨text, here, instruction⟩ :=
      (Listing.instructionAt_iff lines place).mp ((LineIndex.mem_forward_iff built _ _ _).mp member).1
    rw [there] at here
    cases here
    exact other (by simpa [isInstruction] using instruction)
  uncounted := by
    intro front back
    have skipped : mnemonics (front ++ line :: back) = mnemonics (front ++ back) := by
      rw [mnemonics, List.filterMap_append, List.filterMap_cons_none (mnemonic?_of_kind other), ← List.filterMap_append,
        mnemonics]
    rw [histogram, mnemonicCounts_eq, skipped, ← mnemonicCounts_eq, ← histogram]

theorem selected_of_kind {line : String} (kind : classify line = .instruction) : Selected line where
  selected := by
    intro lines table wanted index place built there file number found
    refine (LineIndex.mem_forward_iff built _ _ _).mpr ⟨?_, number, rfl, found⟩
    exact (Listing.instructionAt_iff lines place).mpr ⟨line, there, by simp [isInstruction, kind]⟩
  counted := by
    intro word front back opening
    have tag : tagged word line = true := (tagged_iff word line).mpr ((mnemonic?_of_instruction kind).trans opening)
    rw [countIn_histogram, countIn_histogram, List.countP_append, List.countP_append, List.countP_cons_of_pos tag]
    exact (Nat.add_assoc _ _ _).symm

/-- What a comment behind a line does to it. -/
structure CommentEffect (line : String) (comment : TrailingComment) : Prop where
  unchanged : classify line = .directive ∨ classify line = .comment →
    classify (commented line comment) = classify line
  labelled : classify line = .label ∨ classify line = .instruction → ReadsAsLabel line comment →
    classify (commented line comment) = .label
  executed : classify line = .label ∨ classify line = .instruction → ¬ReadsAsLabel line comment →
    classify (commented line comment) = .instruction
  passedOver : classify (commented line comment) ≠ .instruction → PassedOver (commented line comment)
  selected : classify (commented line comment) = .instruction → Selected (commented line comment)
  word : openingWord? (commented line comment) = openingWord? line

/-- A comment never changes a directive or a comment. Behind a label or an instruction it leaves an instruction, unless
the two read as one label; in particular a label with a space in front of its comment is an instruction, with all that
this brings. -/
theorem commented_kind {line : String} (filled : trim line.toList ≠ []) (comment : TrailingComment) :
    CommentEffect line comment ∧
      (classify line = .label → ' ' ∈ comment.gap →
        classify (commented line comment) = .instruction ∧ Selected (commented line comment)) := by
  have kind := classify_commented filled comment
  have reads := isLabel_commented filled comment
  have executed (named : classify line = .label ∨ classify line = .instruction) (apart : ¬ReadsAsLabel line comment) :
      classify (commented line comment) = .instruction := by
    rw [← reads] at apart
    rcases named with same | same <;> rw [same] at kind <;> rw [kind, if_neg apart]
  refine ⟨⟨?_, ?_, executed, passedOver_of_kind, selected_of_kind, openingWord?_commented filled comment⟩, ?_⟩
  · rintro (same | same) <;> rw [same] at kind <;> rw [kind, same]
  · intro named together
    rw [← reads] at together
    rcases named with same | same <;> rw [same] at kind <;> rw [kind, if_pos together]
  · intro label space
    have apart : ¬ReadsAsLabel line comment := by
      rintro ⟨-, closes⟩
      refine ((isLabel_iff _).mp closes).2 ?_
      rw [comment.trimEnd_chars]
      exact List.mem_append_left _ space
    have instruction := executed (.inl label) apart
    exact ⟨instruction, selected_of_kind instruction⟩

def nameComment : TrailingComment :=
  ⟨[' ', ' ', ' '], [';'], " @kernel_one".toList, by simp, by simp, by simp⟩

def colonComment : TrailingComment := ⟨['\t'], [';'], "end:".toList, by simp, by simp, by simp⟩

theorem commented_kind_printed :
    classify "kernel_one:" = .label ∧ classify (commented "kernel_one:" nameComment) = .instruction ∧
      countIn (histogram [commented "kernel_one:" nameComment]) "kernel_one" = 1 := by
  have filled : trim "kernel_one:".toList ≠ [] := by decide
  obtain ⟨-, spaced⟩ := commented_kind filled nameComment
  have label : classify "kernel_one:" = .label := by decide
  obtain ⟨instruction, selected⟩ := spaced label (by decide)
  have uncounted : countIn (histogram []) "kernel_one" = 0 := by decide +kernel
  refine ⟨label, instruction, ?_⟩
  exact (selected.counted "kernel_one" [] [] (by decide +kernel)).trans (congrArg (· + 1) uncounted)

/-- Listings in which a label with a comment is selected and counted, and a comment makes a label of an instruction. -/
theorem commented_kind_differs :
    let lines := [".file 1 \"a.hip\"", ".loc 1 7 0", commented "kernel_one:" nameComment]
    (classify "kernel_one:" = .label ∧ classify (commented "kernel_one:" nameComment) = .instruction ∧
      (LineIndex.build lines ⟨[(1, "a.hip")]⟩).map (·.forward "a.hip" 6) = .ok [2] ∧
        countIn (histogram lines) "kernel_one" = 1) ∧
      (classify "s_endpgm" = .instruction ∧ classify (commented "s_endpgm" colonComment) = .label) := by
  decide +kernel

end Line

end KernelAtlas
