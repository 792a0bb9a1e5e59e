import KernelAtlas.Line
import KernelAtlas.Proofs.Gathering

/-! The histogram of mnemonics against the tags by which a viewer filters lines.

A mnemonic is counted once for each line that has its tag. The histogram is the table of these counts, in which a
mnemonic stands where its first line put it, sorted by count; the sort keeps that order where counts are the same. -/

set_option autoImplicit false

namespace KernelAtlas.Line

open Text

def instructionTag (word : String) : String := "instr-" ++ word

theorem instructionTag_injective {left right : String} (same : instructionTag left = instructionTag right) :
    left = right := by
  have chars := congrArg String.toList same
  simp only [instructionTag, String.toList_append, List.append_cancel_left_eq] at chars
  exact String.toList_inj.mp chars

theorem ne_instructionTag {tag : String} (begins : tag.toList.head? = some 'f') (word : String) :
    tag ≠ instructionTag word := by
  rintro rfl
  rw [instructionTag, String.toList_append] at begins
  cases begins

def tagged (word line : String) : Bool := filterTags line = [instructionTag word]

theorem mnemonic?_of_kind {line : String} (other : classify line ≠ .instruction) : mnemonic? line = none :=
  if_neg (by simpa [isInstruction] using other)

theorem tagged_iff (word line : String) : tagged word line = true ↔ mnemonic? line = some word := by
  have named (tags : filterTags line = ((mnemonic? line).map instructionTag).toList) :
      tagged word line = true ↔ mnemonic? line = some word := by
    rw [tagged, decide_eq_true_eq, tags]
    cases mnemonic? line with
    | none => simp
    | some found =>
      simp only [Option.map_some, Option.toList_some, List.cons.injEq, and_true, Option.some.injEq]
      exact ⟨instructionTag_injective, congrArg instructionTag⟩
  have unnamed {tag : String} (tags : filterTags line = [tag]) (begins : tag.toList.head? = some 'f')
      (other : classify line ≠ .instruction) : tagged word line = true ↔ mnemonic? line = some word := by
    rw [tagged, decide_eq_true_eq, tags, mnemonic?_of_kind other]
    simp [ne_instructionTag begins word]
  cases kind : classify line with
  | empty => exact unnamed (by rw [filterTags, kind]) rfl (by simp [kind])
  | directive => exact unnamed (by rw [filterTags, kind]) rfl (by simp [kind])
  | comment => exact unnamed (by rw [filterTags, kind]) rfl (by simp [kind])
  | label => exact named (by rw [filterTags, kind]; rfl)
  | instruction => exact named (by rw [filterTags, kind]; rfl)

def opensWithWord (line : String) : Bool := isInstruction line && (trim line.toList).head?.any isWord

theorem isSome_mnemonic? (line : String) : (mnemonic? line).isSome = opensWithWord line := by
  unfold mnemonic? opensWithWord
  cases isInstruction line with
  | false => rfl
  | true =>
    rw [if_pos rfl, Bool.true_and]
    cases trim line.toList with
    | nil => rfl
    | cons c rest =>
      by_cases word : isWord c = true
      · simp [word]
      · simp [word]

def mnemonics (lines : List String) : List String := lines.filterMap mnemonic?

theorem count_mnemonics (lines : List String) (word : String) :
    (mnemonics lines).count word = lines.countP (tagged word) := by
  rw [mnemonics, List.count, List.countP_filterMap]
  congr 1
  funext line
  rw [Bool.eq_iff_iff, tagged_iff]
  cases mnemonic? line <;> simp

theorem length_mnemonics (lines : List String) : (mnemonics lines).length = lines.countP opensWithWord := by
  rw [mnemonics, List.length_filterMap_eq_countP]
  congr 1
  funext line
  exact isSome_mnemonic? line

def firstLine (lines : List String) (word : String) : Nat := lines.findIdx (tagged word)

theorem firstLine_cons_self {line word : String} (found : mnemonic? line = some word) (rest : List String) :
    firstLine (line :: rest) word = 0 := by
  rw [firstLine, List.findIdx_cons, (tagged_iff word line).mpr found, cond_true]

theorem firstLine_cons_of_ne {line word : String} (other : mnemonic? line ≠ some word) (rest : List String) :
    firstLine (line :: rest) word = firstLine rest word + 1 := by
  have untagged : tagged word line = false := by
    rw [Bool.eq_false_iff, ne_eq, tagged_iff]
    exact other
  rw [firstLine, List.findIdx_cons, untagged, cond_false, firstLine]

/-- Without repetitions, mnemonics stand in the order of their first lines. -/
theorem pairwise_eraseDups_mnemonics (lines : List String) :
    (mnemonics lines).eraseDups.Pairwise fun left right => firstLine lines left < firstLine lines right := by
  induction lines with
  | nil => exact List.Pairwise.nil
  | cons line rest ih =>
    cases found : mnemonic? line with
    | none =>
      have later (word : String) : firstLine (line :: rest) word = firstLine rest word + 1 :=
        firstLine_cons_of_ne (by simp [found]) rest
      rw [mnemonics, List.filterMap_cons_none found, ← mnemonics]
      refine ih.imp fun before => ?_
      rw [later, later]
      exact Nat.succ_lt_succ before
    | some first =>
      have later {word : String} (other : word ≠ first) : firstLine (line :: rest) word = firstLine rest word + 1 :=
        firstLine_cons_of_ne (by simpa [found] using Ne.symm other) rest
      rw [mnemonics, List.filterMap_cons_some found, ← mnemonics, eraseDups_moveToFront, List.pairwise_cons]
      constructor
      · intro word member
        have other : word ≠ first := by simpa using (List.mem_filter.mp member).2
        rw [firstLine_cons_self found, later other]
        exact Nat.succ_pos _
      · refine (ih.filter _).imp_of_mem fun {left right} inLeft inRight before => ?_
        have leftOther : left ≠ first := by simpa using (List.mem_filter.mp inLeft).2
        have rightOther : right ≠ first := by simpa using (List.mem_filter.mp inRight).2
        rw [later leftOther, later rightOther]
        exact Nat.succ_lt_succ before

section
variable (lines : List String)

theorem mnemonicCounts_eq : mnemonicCounts lines = OrderedMap.tally .empty (mnemonics lines) := rfl

theorem keys_mnemonicCounts : (mnemonicCounts lines).keys = (mnemonics lines).eraseDups := by
  rw [mnemonicCounts_eq, OrderedMap.keys_tally]
  simp [OrderedMap.keys, OrderedMap.empty]

theorem nodup_keys_mnemonicCounts : (mnemonicCounts lines).keys.Nodup := by
  rw [keys_mnemonicCounts]
  exact nodup_eraseDups _

theorem getD_get?_mnemonicCounts (word : String) :
    ((mnemonicCounts lines).get? word).getD 0 = lines.countP (tagged word) := by
  rw [mnemonicCounts_eq, OrderedMap.getD_get?_tally, OrderedMap.get?_empty, Option.getD_none, Nat.zero_add,
    count_mnemonics]

theorem mem_entries_mnemonicCounts_iff (word : String) (count : Nat) :
    (word, count) ∈ (mnemonicCounts lines).entries ↔ count = lines.countP (tagged word) ∧ 0 < count := by
  have counted := getD_get?_mnemonicCounts lines word
  have present : ((mnemonicCounts lines).get? word).isSome ↔ 0 < lines.countP (tagged word) := by
    rw [OrderedMap.isSome_get?_iff, keys_mnemonicCounts, List.mem_eraseDups, ← count_mnemonics, List.count_pos_iff]
  rw [← OrderedMap.get?_eq_some_iff (nodup_keys_mnemonicCounts lines)]
  cases found : (mnemonicCounts lines).get? word with
  | none =>
    rw [found, Option.getD_none] at counted
    constructor
    · intro impossible
      cases impossible
    · rintro ⟨rfl, positive⟩
      omega
  | some number =>
    rw [found, Option.getD_some] at counted
    rw [found] at present
    have positive := present.mp rfl
    rw [Option.some.injEq]
    constructor
    · rintro rfl
      exact ⟨counted, by omega⟩
    · rintro ⟨rfl, -⟩
      exact counted

theorem perm_histogram : (histogram lines).Perm (mnemonicCounts lines).entries := List.mergeSort_perm _ _

theorem nodup_histogram : ((histogram lines).map Prod.fst).Nodup :=
  ((perm_histogram lines).map Prod.fst).nodup_iff.mpr (nodup_keys_mnemonicCounts lines)

theorem histogram_sorted : (histogram lines).Pairwise fun left right => right.2 ≤ left.2 :=
  pairwise_mergeSort_of_key Prod.snd _

/-- The more frequent mnemonic comes first, and of two that are equally frequent the one that stands first. -/
theorem histogram_ordered :
    (histogram lines).Pairwise fun left right =>
      right.2 < left.2 ∨ right.2 = left.2 ∧ firstLine lines left.1 < firstLine lines right.1 := by
  have appearing : (mnemonicCounts lines).entries.Pairwise fun left right =>
      firstLine lines left.1 < firstLine lines right.1 := by
    have keys := pairwise_eraseDups_mnemonics lines
    rwa [← keys_mnemonicCounts, OrderedMap.keys, List.pairwise_map] at keys
  rw [List.pairwise_iff_forall_sublist]
  intro left right within
  rcases Nat.lt_or_eq_of_le (List.pairwise_iff_forall_sublist.mp (histogram_sorted lines) within) with fewer | same
  · exact .inl fewer
  · -- Entries of one count are those of the table, in its order.
    have kept : [left, right].Sublist ((mnemonicCounts lines).entries.filter fun entry => entry.2 = left.2) := by
      rw [← filter_mergeSort_of_key Prod.snd, ← histogram]
      simpa [same] using within.filter fun entry => decide (entry.2 = left.2)
    exact .inr ⟨same, List.pairwise_iff_forall_sublist.mp appearing (kept.trans List.filter_sublist)⟩

theorem sum_histogram : ((histogram lines).map Prod.snd).sum = lines.countP opensWithWord := by
  have table : (mnemonicCounts lines).values.sum = (mnemonics lines).length := by
    rw [mnemonicCounts_eq, OrderedMap.sum_values_tally]
    simp [OrderedMap.values, OrderedMap.empty]
  rw [((perm_histogram lines).map Prod.snd).sum_nat, ← OrderedMap.values, table, length_mnemonics]

def countIn (counts : List (String × Nat)) (word : String) : Nat := ((OrderedMap.mk counts).get? word).getD 0

theorem countIn_histogram (word : String) : countIn (histogram lines) word = lines.countP (tagged word) := by
  have distinct : (OrderedMap.mk (histogram lines)).keys.Nodup := nodup_histogram lines
  have same : (OrderedMap.mk (histogram lines)).get? word = (mnemonicCounts lines).get? word := by
    rw [Option.ext_iff]
    intro count
    rw [OrderedMap.get?_eq_some_iff distinct, OrderedMap.get?_eq_some_iff (nodup_keys_mnemonicCounts lines)]
    exact (perm_histogram lines).mem_iff
  rw [countIn, same, getD_get?_mnemonicCounts]

end

/-- A line with blanks in front of it and behind it. -/
structure Padded (line other : String) : Prop where
  around : ∃ front back : String, (∀ c ∈ front.toList, isBlank c = true) ∧ (∀ c ∈ back.toList, isBlank c = true) ∧
    other = front ++ line ++ back

section
variable {line other : String} (padded : Padded line other)
include padded

theorem Padded.trim_eq : trim other.toList = trim line.toList := by
  obtain ⟨front, back, blankFront, blankBack, rfl⟩ := padded.around
  rw [String.toList_append, String.toList_append, trim_append_of_blank blankFront _ blankBack]

theorem Padded.classify_eq : classify other = classify line := by rw [classify, padded.trim_eq, classify]

theorem Padded.mnemonic?_eq : mnemonic? other = mnemonic? line := by
  rw [mnemonic?, mnemonic?, isInstruction, isInstruction, padded.classify_eq, padded.trim_eq]

theorem Padded.filterTags_eq : filterTags other = filterTags line := by
  rw [filterTags, filterTags, padded.classify_eq, padded.mnemonic?_eq]

end

theorem mnemonics_of_padded {lines others : List String} (padded : List.Forall₂ Padded lines others) :
    mnemonics others = mnemonics lines := by
  induction padded with
  | nil => rfl
  | cons first _ ih =>
    rw [mnemonics, List.filterMap_cons, first.mnemonic?_eq, ← mnemonics, ih, mnemonics, mnemonics, List.filterMap_cons]

/-- What a histogram says of the lines that it was made from. -/
structure Tallies (lines : List String) (counts : List (String × Nat)) : Prop where
  distinct : (counts.map Prod.fst).Nodup
  counted : ∀ word count, (word, count) ∈ counts ↔ count = lines.countP (tagged word) ∧ 0 < count
  ordered : counts.Pairwise fun left right =>
    right.2 < left.2 ∨ right.2 = left.2 ∧ firstLine lines left.1 < firstLine lines right.1
  total : (counts.map Prod.snd).sum = lines.countP opensWithWord

/-- A histogram counts the lines of each tag, blanks around the lines make no difference to it, and the counts of lines
that are put together add up. -/
theorem histogram_tallies :
    (∀ lines, Tallies lines (histogram lines)) ∧
      (∀ lines others, List.Forall₂ Padded lines others →
        others.map filterTags = lines.map filterTags ∧ histogram others = histogram lines) ∧
        ∀ front back word, countIn (histogram (front ++ back)) word =
          countIn (histogram front) word + countIn (histogram back) word := by
  refine ⟨fun lines => ?_, fun lines others padded => ⟨?_, ?_⟩, fun front back word => ?_⟩
  · refine ⟨nodup_histogram lines, fun word count => ?_, histogram_ordered lines, sum_histogram lines⟩
    rw [(perm_histogram lines).mem_iff, mem_entries_mnemonicCounts_iff]
  · induction padded with
    | nil => rfl
    | cons first _ ih => rw [List.map_cons, List.map_cons, first.filterTags_eq, ih]
  · rw [histogram, histogram, mnemonicCounts_eq, mnemonicCounts_eq, mnemonics_of_padded padded]
  · rw [countIn_histogram, countIn_histogram, countIn_histogram, List.countP_append]

/-- Two spellings of a mnemonic, a tie, an instruction without a word, a label, and blanks of several kinds. -/
theorem histogram_tallies_mixed :
    let lines := ["kernel_one:", "v_mov v1", "v_add v0", "s_nop 0", "S_NOP 1", "[0x1]", "V_ADD v2"]
    let others := ["\tkernel_one:", "v_mov v1 ", "v_add v0", "s_nop 0", "\u3000S_NOP 1\u00a0", "[0x1]", "V_ADD v2"]
    List.Forall₂ Padded lines others ∧ Tallies lines [("v_add", 2), ("s_nop", 2), ("v_mov", 1)] ∧
      histogram others = [("v_add", 2), ("s_nop", 2), ("v_mov", 1)] := by
  intro lines others
  have table : (mnemonicCounts lines).entries = [("v_mov", 1), ("v_add", 2), ("s_nop", 2)] := by decide +kernel
  have sorted : histogram lines = [("v_add", 2), ("s_nop", 2), ("v_mov", 1)] := by
    rw [histogram, table]
    simp [List.mergeSort]
  have between (front line back : String) (first : front.toList.all isBlank = true)
      (last : back.toList.all isBlank = true) : Padded line (front ++ line ++ back) :=
    ⟨front, back, List.all_eq_true.mp first, List.all_eq_true.mp last, rfl⟩
  have bare (line : String) : Padded line line := ⟨"", "", by simp, by simp, by simp⟩
  have padded : List.Forall₂ Padded lines others :=
    .cons (between "\t" "kernel_one:" "" (by decide) (by decide))
      (.cons (between "" "v_mov v1" " " (by decide) (by decide))
        (.cons (bare _) (.cons (bare _)
          (.cons (between "\u3000" "S_NOP 1" "\u00a0" (by decide) (by decide))
            (.cons (bare _) (.cons (bare _) .nil))))))
  obtain ⟨tallies, unseen, -⟩ := histogram_tallies
  exact ⟨padded, sorted ▸ tallies lines, (unseen lines others padded).2.trans sorted⟩

end KernelAtlas.Line
