import KernelAtlas.OrderedMap
import Mathlib.Algebra.GroupWithZero.Nat
import Mathlib.Data.List.Nodup

/-! Ordered maps as finite functions: maps that are written to pair by pair, and maps that gather or count items by
a key.

Where a key stands is decided by the first write to it, and what it holds by the last. A sort leaves entries that it
does not tell apart in their order. -/

set_option autoImplicit false

namespace KernelAtlas

section
variable {α : Type} [DecidableEq α]

theorem eraseDups_filter (keep : α → Bool) (items : List α) :
    (items.filter keep).eraseDups = items.eraseDups.filter keep := by
  -- What is left of a list once its first item has been taken out of it is shorter, but no tail of it.
  induction length : items.length using Nat.strongRecOn generalizing items with
  | _ count ih =>
    cases items with
    | nil => rfl
    | cons item rest =>
      have shorter : (rest.filter fun other => !other == item).length < count := by
        rw [← length]
        exact Nat.lt_succ_of_le (List.length_filter_le _ _)
      have later := ih _ shorter (rest.filter fun other => !other == item) rfl
      rw [List.filter_filter] at later
      rw [List.eraseDups_cons]
      cases passes : keep item with
      | true =>
        rw [List.filter_cons_of_pos passes, List.filter_cons_of_pos passes, List.eraseDups_cons, ← later,
          List.filter_filter]
        simp only [Bool.and_comm]
      | false =>
        have fails : ¬keep item = true := by simp [passes]
        rw [List.filter_cons_of_neg fails, List.filter_cons_of_neg fails, ← later]
        congr 1
        refine List.filter_congr fun other _ => ?_
        cases keeps : keep other with
        | false => rfl
        | true =>
          have apart : other ≠ item := fun same => fails (same ▸ keeps)
          simp [apart]

/-- An item that comes to the front leaves its old place. -/
theorem eraseDups_moveToFront (item : α) (items : List α) :
    (item :: items).eraseDups = item :: items.eraseDups.filter (· ≠ item) := by
  rw [List.eraseDups_cons, eraseDups_filter]
  congr 2
  funext other
  rw [Bool.eq_iff_iff]
  simp

theorem nodup_eraseDups (items : List α) : items.eraseDups.Nodup := by
  induction items with
  | nil => exact List.nodup_nil
  | cons item rest ih =>
    rw [eraseDups_moveToFront, List.nodup_cons]
    exact ⟨by simp, ih.filter _⟩

theorem eraseDups_of_nodup {items : List α} (distinct : items.Nodup) : items.eraseDups = items := by
  induction items with
  | nil => rfl
  | cons item rest ih =>
    have absent : ∀ other ∈ rest, other ≠ item := fun other member same => (List.nodup_cons.mp distinct).1 (same ▸ member)
    rw [eraseDups_moveToFront, ih (List.nodup_cons.mp distinct).2, List.filter_eq_self.mpr (by simpa using absent)]

end

section
variable {α β : Type} [LE β] [DecidableLE β] [Std.IsLinearPreorder β] (key : α → β)

theorem descends_trans (first second third : α) (before : decide (key second ≤ key first) = true)
    (after : decide (key third ≤ key second) = true) : decide (key third ≤ key first) = true :=
  decide_eq_true (Std.le_trans (of_decide_eq_true after) (of_decide_eq_true before))

theorem descends_total (left right : α) : (decide (key right ≤ key left) || decide (key left ≤ key right)) = true := by
  rw [Bool.or_eq_true, decide_eq_true_eq, decide_eq_true_eq]
  exact Std.le_total

theorem pairwise_mergeSort_of_key (items : List α) :
    (items.mergeSort fun left right => key right ≤ key left).Pairwise fun left right => key right ≤ key left :=
  (List.pairwise_mergeSort (descends_trans key) (descends_total key) items).imp of_decide_eq_true

/-- A sort by a key keeps the order of the items that have one key. -/
theorem filter_mergeSort_of_key [DecidableEq β] (items : List α) (value : β) :
    (items.mergeSort fun left right => key right ≤ key left).filter (fun item => key item = value) =
      items.filter fun item => key item = value := by
  have sorted : (items.filter fun item => key item = value).Pairwise fun left right =>
      decide (key right ≤ key left) = true := by
    refine List.pairwise_of_forall_mem_list ?_
    intro left inLeft right inRight
    simp only [List.mem_filter, decide_eq_true_eq] at inLeft inRight
    simp only [inLeft.2, inRight.2, Std.le_refl, decide_true]
  -- The items of one key are sorted already, and the sort keeps sorted sublists.
  have within := (List.sublist_mergeSort (descends_trans key) (descends_total key) sorted List.filter_sublist).filter
    fun item => decide (key item = value)
  simp only [List.filter_filter, Bool.and_self] at within
  refine (within.eq_of_length ?_).symm
  exact ((List.mergeSort_perm items _).filter _).length_eq.symm

end

namespace OrderedMap

variable {κ ν α : Type} [DecidableEq κ]

theorem mem_entries_of_get? {map : OrderedMap κ ν} {key : κ} {value : ν} (found : map.get? key = some value) :
    (key, value) ∈ map.entries := by
  obtain ⟨entry, hit, same⟩ := Option.map_eq_some_iff.mp found
  have member := List.mem_of_find?_eq_some hit
  have keyed := List.find?_some hit
  simp only [decide_eq_true_eq] at keyed
  rwa [← keyed, ← same]

theorem get?_eq_some_iff {map : OrderedMap κ ν} (distinct : map.keys.Nodup) (key : κ) (value : ν) :
    map.get? key = some value ↔ (key, value) ∈ map.entries := by
  refine ⟨mem_entries_of_get?, fun member => ?_⟩
  obtain ⟨entries⟩ := map
  simp only [keys] at distinct
  induction entries with
  | nil => cases member
  | cons entry rest ih =>
    rw [List.map_cons, List.nodup_cons] at distinct
    rcases List.mem_cons.mp member with same | later
    · simp [get?, ← same]
    · have other : entry.1 ≠ key := fun same => distinct.1 (same ▸ List.mem_map_of_mem later)
      have found := ih distinct.2 later
      simpa [get?, other] using found

theorem mem_entries_insert {map : OrderedMap κ ν} {key : κ} {value : ν} {entry : κ × ν}
    (member : entry ∈ (map.insert key value).entries) : entry ∈ map.entries ∨ entry = (key, value) := by
  obtain ⟨entries⟩ := map
  simp only [insert, alter] at member ⊢
  induction entries with
  | nil => exact Or.inr (List.mem_singleton.mp member)
  | cons first rest ih =>
    by_cases same : first.1 = key
    · rw [alterEntries, if_pos same] at member
      rcases List.mem_cons.mp member with written | later
      · exact Or.inr written
      · exact Or.inl (List.mem_cons_of_mem first later)
    · rw [alterEntries, if_neg same] at member
      rcases List.mem_cons.mp member with kept | later
      · exact Or.inl (kept ▸ List.mem_cons_self)
      · exact (ih later).imp (List.mem_cons_of_mem first) id

section
variable (key : α → κ) (change : α → Option ν → ν)

/-- Keys that are not there yet come to the end, in the order in which they are first written. -/
theorem keys_foldl_alter (map : OrderedMap κ ν) (items : List α) :
    (items.foldl (fun map item => map.alter (key item) (change item)) map).keys =
      map.keys ++ ((items.map key).filter (· ∉ map.keys)).eraseDups := by
  induction items generalizing map with
  | nil => simp
  | cons item rest ih =>
    rw [List.foldl_cons, ih, keys_alter, List.map_cons]
    by_cases present : key item ∈ map.keys
    · simp [present]
    · simp only [present, if_false, List.append_assoc, List.singleton_append, not_false_eq_true, decide_true,
        List.filter_cons_of_pos, List.eraseDups_cons, List.filter_filter]
      congr 4
      funext key
      rw [Bool.eq_iff_iff]
      simp [and_comm]

theorem nodup_keys_foldl_alter {map : OrderedMap κ ν} (distinct : map.keys.Nodup) (items : List α) :
    (items.foldl (fun map item => map.alter (key item) (change item)) map).keys.Nodup := by
  induction items generalizing map with
  | nil => exact distinct
  | cons item rest ih => exact ih (nodup_keys_alter distinct _ _)

end

def write (map : OrderedMap κ ν) (pairs : List (κ × ν)) : OrderedMap κ ν :=
  pairs.foldl (fun map pair => map.insert pair.1 pair.2) map

def update (map later : OrderedMap κ ν) : OrderedMap κ ν := map.write later.entries

section
variable (map : OrderedMap κ ν)

theorem write_cons (pair : κ × ν) (pairs : List (κ × ν)) :
    map.write (pair :: pairs) = (map.insert pair.1 pair.2).write pairs := rfl

/-- The last pair that is written to a key counts. -/
theorem get?_write (pairs : List (κ × ν)) (key : κ) :
    (map.write pairs).get? key = ((pairs.findRev? fun pair => pair.1 = key).map Prod.snd).or (map.get? key) := by
  induction pairs generalizing map with
  | nil => rfl
  | cons pair rest ih =>
    rw [write_cons, ih, List.findRev?]
    cases List.findRev? (fun pair => pair.1 = key) rest with
    | some later => rfl
    | none =>
      by_cases same : pair.1 = key
      · simp [same, get?_insert_self]
      · simp [same, map.get?_insert_of_ne (Ne.symm same)]

theorem keys_write (pairs : List (κ × ν)) :
    (map.write pairs).keys = map.keys ++ ((pairs.map Prod.fst).filter (· ∉ map.keys)).eraseDups :=
  keys_foldl_alter Prod.fst (fun pair _ => pair.2) map pairs

theorem nodup_keys_write {map : OrderedMap κ ν} (distinct : map.keys.Nodup) (pairs : List (κ × ν)) :
    (map.write pairs).keys.Nodup :=
  nodup_keys_foldl_alter Prod.fst (fun pair _ => pair.2) distinct pairs

end

/-- A map is known by the order of its keys and by their values. -/
theorem eq_of_keys_eq {left right : OrderedMap κ ν} (distinct : left.keys.Nodup) (keys : left.keys = right.keys)
    (values : ∀ key, left.get? key = right.get? key) : left = right := by
  obtain ⟨entries⟩ := left
  obtain ⟨others⟩ := right
  simp only [OrderedMap.keys] at distinct keys
  congr 1
  induction entries generalizing others with
  | nil => simpa using keys.symm
  | cons entry rest ih =>
    cases others with
    | nil => simp at keys
    | cons other later =>
      rw [List.map_cons, List.map_cons, List.cons.injEq] at keys
      rw [List.map_cons, List.nodup_cons] at distinct
      have value : entry.2 = other.2 := by simpa [get?, keys.1] using values other.1
      have tails : ∀ key, get? ⟨rest⟩ key = get? ⟨later⟩ key := by
        intro key
        by_cases same : entry.1 = key
        · -- The key of the first entry is not among the others.
          have absent : key ∉ rest.map Prod.fst := same ▸ distinct.1
          have absentToo : key ∉ later.map Prod.fst := keys.2 ▸ absent
          have missing := (isSome_get?_iff (⟨rest⟩ : OrderedMap κ ν) key).not.mpr absent
          have missingToo := (isSome_get?_iff (⟨later⟩ : OrderedMap κ ν) key).not.mpr absentToo
          rw [Option.not_isSome_iff_eq_none] at missing missingToo
          rw [missing, missingToo]
        · have different : ¬other.1 = key := keys.1 ▸ same
          simpa [get?, same, different] using values key
      rw [Prod.ext keys.1 value, ih distinct.2 later keys.2 tails]

theorem findRev?_entries {map : OrderedMap κ ν} (distinct : map.keys.Nodup) (key : κ) :
    (map.entries.findRev? fun entry => entry.1 = key).map Prod.snd = map.get? key := by
  rw [List.findRev?_eq_find?_reverse]
  cases found : map.entries.reverse.find? fun entry => entry.1 = key with
  | none =>
    have absent : key ∉ map.keys := by
      intro present
      obtain ⟨entry, member, same⟩ := List.mem_map.mp present
      have refused := List.find?_eq_none.mp found entry (List.mem_reverse.mpr member)
      simp [same] at refused
    rw [← isSome_get?_iff, Option.not_isSome_iff_eq_none] at absent
    rw [absent, Option.map_none]
  | some entry =>
    have member := List.mem_reverse.mp (List.mem_of_find?_eq_some found)
    have same : entry.1 = key := by simpa using List.find?_some found
    rw [Option.map_some, eq_comm, get?_eq_some_iff distinct, ← same]
    exact member

theorem get?_update (map : OrderedMap κ ν) {later : OrderedMap κ ν} (distinct : later.keys.Nodup) (key : κ) :
    (map.update later).get? key = (later.get? key).or (map.get? key) := by
  rw [update, get?_write, findRev?_entries distinct]

theorem keys_update (map : OrderedMap κ ν) {later : OrderedMap κ ν} (distinct : later.keys.Nodup) :
    (map.update later).keys = map.keys ++ later.keys.filter (· ∉ map.keys) := by
  rw [update, keys_write, ← keys, eraseDups_of_nodup (distinct.filter _)]

theorem eq_update_iff {map later : OrderedMap κ ν} (distinct : map.keys.Nodup) (distinctLater : later.keys.Nodup)
    (whole : OrderedMap κ ν) :
    whole = map.update later ↔
      whole.keys = map.keys ++ later.keys.filter (· ∉ map.keys) ∧
        ∀ key, whole.get? key = (later.get? key).or (map.get? key) := by
  constructor
  · intro same
    rw [same]
    exact ⟨keys_update map distinctLater, get?_update map distinctLater⟩
  · intro ⟨keys, values⟩
    rw [← keys_update map distinctLater] at keys
    refine eq_of_keys_eq ?_ keys fun key => (values key).trans (get?_update map distinctLater key).symm
    rw [keys]
    exact nodup_keys_write distinct _

theorem nodup_keys_ofList (pairs : List (κ × ν)) : (ofList pairs).keys.Nodup :=
  nodup_keys_write (show (empty : OrderedMap κ ν).keys.Nodup from List.nodup_nil) pairs

theorem keys_ofList (pairs : List (κ × ν)) : (ofList pairs).keys = (pairs.map Prod.fst).eraseDups := by
  have written := keys_write empty pairs
  simpa [keys, empty, write, ofList] using written

/-- To write pairs is to write what is left of them in a map of their own. -/
theorem update_ofList {map : OrderedMap κ ν} (distinct : map.keys.Nodup) (pairs : List (κ × ν)) :
    map.update (ofList pairs) = map.write pairs := by
  have single := nodup_keys_ofList pairs
  refine eq_of_keys_eq (nodup_keys_write distinct _) ?_ fun key => ?_
  · rw [keys_update map single, keys_write, keys_ofList, eraseDups_filter]
  · have written := get?_write empty pairs key
    rw [get?_update map single, get?_write, ofList, ← write, written, get?_empty, Option.or_none]
/-- Puts the value of each item behind the values that its key has already. -/
def gather (key : α → κ) (value : α → ν) (map : OrderedMap κ (List ν)) (items : List α) : OrderedMap κ (List ν) :=
  items.foldl (fun map item => map.alter (key item) fun old => old.getD [] ++ [value item]) map

section
variable (key : α → κ) (value : α → ν)

theorem getD_get?_gather (map : OrderedMap κ (List ν)) (items : List α) (sought : κ) :
    ((gather key value map items).get? sought).getD [] =
      (map.get? sought).getD [] ++ (items.filter fun item => key item = sought).map value := by
  induction items generalizing map with
  | nil => simp [gather]
  | cons item rest ih =>
    rw [gather, List.foldl_cons, ← gather, ih]
    by_cases same : key item = sought
    · subst same
      simp [get?_alter_self]
    · simp [get?_alter_of_ne map (Ne.symm same), same]

theorem mem_keys_gather_iff (map : OrderedMap κ (List ν)) (items : List α) (sought : κ) :
    sought ∈ (gather key value map items).keys ↔ sought ∈ map.keys ∨ ∃ item ∈ items, key item = sought := by
  rw [gather, keys_foldl_alter key fun item old => old.getD [] ++ [value item], List.mem_append, List.mem_eraseDups]
  by_cases present : sought ∈ map.keys <;> simp [present]

theorem nodup_keys_gather {map : OrderedMap κ (List ν)} (distinct : map.keys.Nodup) (items : List α) :
    (gather key value map items).keys.Nodup :=
  nodup_keys_foldl_alter key (fun item old => old.getD [] ++ [value item]) distinct items

theorem eq_of_mem_entries_gather {items : List α} {sought : κ} {values : List ν}
    (member : (sought, values) ∈ (gather key value .empty items).entries) :
    values = (items.filter fun item => key item = sought).map value := by
  have distinct : (gather key value .empty items).keys.Nodup :=
    nodup_keys_gather key value (by simp [keys, empty]) items
  have gathered := getD_get?_gather key value .empty items sought
  rwa [(get?_eq_some_iff distinct sought values).mpr member, Option.getD_some, get?_empty, Option.getD_none,
    List.nil_append] at gathered

end

def tally (map : OrderedMap κ Nat) (items : List κ) : OrderedMap κ Nat :=
  items.foldl (fun map item => map.alter item fun old => old.getD 0 + 1) map

section
variable (map : OrderedMap κ Nat)

theorem getD_get?_tally (items : List κ) (sought : κ) :
    ((tally map items).get? sought).getD 0 = (map.get? sought).getD 0 + items.count sought := by
  induction items generalizing map with
  | nil => rfl
  | cons item rest ih =>
    rw [tally, List.foldl_cons, ← tally, ih]
    by_cases same : item = sought
    · subst same
      rw [get?_alter_self, Option.getD_some, List.count_cons_self]
      omega
    · rw [get?_alter_of_ne map (Ne.symm same), List.count_cons_of_ne same]

theorem sum_values_alter (key : κ) : (map.alter key fun old => old.getD 0 + 1).values.sum = map.values.sum + 1 := by
  obtain ⟨entries⟩ := map
  simp only [alter, values]
  induction entries with
  | nil => rfl
  | cons entry rest ih =>
    rw [alterEntries]
    split
    · simp only [List.map_cons, List.sum_cons, Option.getD_some]
      omega
    · simp only [List.map_cons, List.sum_cons, ih]
      omega

theorem sum_values_tally (items : List κ) : (tally map items).values.sum = map.values.sum + items.length := by
  induction items generalizing map with
  | nil => rfl
  | cons item rest ih =>
    rw [tally, List.foldl_cons, ← tally, ih, sum_values_alter, List.length_cons]
    omega

theorem keys_tally (items : List κ) : (tally map items).keys = map.keys ++ (items.filter (· ∉ map.keys)).eraseDups := by
  have written := keys_foldl_alter id (fun _ old => old.getD 0 + 1) map items
  rwa [List.map_id] at written

end

end OrderedMap

end KernelAtlas
