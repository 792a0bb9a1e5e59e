/-! Finite maps that remember the order in which their keys came.

Writing to a key that is present replaces its value and leaves the key in its place; a new key goes
to the end. -/

set_option autoImplicit false

namespace KernelAtlas

structure OrderedMap (κ ν : Type) where
  entries : List (κ × ν)
  deriving DecidableEq, Repr

namespace OrderedMap

variable {κ ν : Type}

def empty : OrderedMap κ ν := ⟨[]⟩

instance : Inhabited (OrderedMap κ ν) := ⟨empty⟩

def keys (map : OrderedMap κ ν) : List κ := map.entries.map Prod.fst

def values (map : OrderedMap κ ν) : List ν := map.entries.map Prod.snd

def size (map : OrderedMap κ ν) : Nat := map.entries.length

variable [DecidableEq κ]

def get? (map : OrderedMap κ ν) (key : κ) : Option ν :=
  (map.entries.find? fun entry => entry.1 = key).map Prod.snd

/-- Changes the value of a key in a list of entries; the change is told whether the key was there. -/
def alterEntries (key : κ) (change : Option ν → ν) : List (κ × ν) → List (κ × ν)
  | [] => [(key, change none)]
  | entry :: rest =>
    if entry.1 = key then (key, change (some entry.2)) :: rest else entry :: alterEntries key change rest

def alter (map : OrderedMap κ ν) (key : κ) (change : Option ν → ν) : OrderedMap κ ν :=
  ⟨alterEntries key change map.entries⟩

def insert (map : OrderedMap κ ν) (key : κ) (value : ν) : OrderedMap κ ν :=
  map.alter key fun _ => value

/-- Later pairs overwrite earlier ones. -/
def ofList (pairs : List (κ × ν)) : OrderedMap κ ν :=
  pairs.foldl (fun map pair => map.insert pair.1 pair.2) empty

@[simp] theorem get?_empty (key : κ) : (empty : OrderedMap κ ν).get? key = none := rfl

theorem get?_alter_self (map : OrderedMap κ ν) (key : κ) (change : Option ν → ν) :
    (map.alter key change).get? key = some (change (map.get? key)) := by
  obtain ⟨entries⟩ := map
  simp only [alter, get?]
  induction entries with
  | nil => simp [alterEntries]
  | cons entry rest ih =>
    by_cases same : entry.1 = key
    · simp [alterEntries, same]
    · simpa [alterEntries, same] using ih

theorem get?_alter_of_ne (map : OrderedMap κ ν) {key other : κ} (different : other ≠ key)
    (change : Option ν → ν) : (map.alter key change).get? other = map.get? other := by
  obtain ⟨entries⟩ := map
  simp only [alter, get?]
  induction entries with
  | nil => simp [alterEntries, Ne.symm different]
  | cons entry rest ih =>
    by_cases same : entry.1 = key
    · have apart : entry.1 ≠ other := fun equal => different (equal.symm.trans same)
      simp [alterEntries, same, Ne.symm different]
    · by_cases hit : entry.1 = other
      · simp [alterEntries, hit, different]
      · simpa [alterEntries, same, hit] using ih

/-- A write keeps the order of the keys that are there. -/
theorem keys_alter (map : OrderedMap κ ν) (key : κ) (change : Option ν → ν) :
    (map.alter key change).keys = if key ∈ map.keys then map.keys else map.keys ++ [key] := by
  obtain ⟨entries⟩ := map
  simp only [alter, keys]
  induction entries with
  | nil => simp [alterEntries]
  | cons entry rest ih =>
    by_cases same : entry.1 = key
    · simp [alterEntries, same]
    · have apart : ¬key = entry.1 := fun equal => same equal.symm
      by_cases present : key ∈ rest.map Prod.fst <;>
        simp only [present, if_true, if_false] at ih <;> simp [alterEntries, same, apart, present, ih]

theorem get?_insert_self (map : OrderedMap κ ν) (key : κ) (value : ν) : (map.insert key value).get? key = some value :=
  map.get?_alter_self key _

theorem get?_insert_of_ne (map : OrderedMap κ ν) {key other : κ} (different : other ≠ key) (value : ν) :
    (map.insert key value).get? other = map.get? other :=
  map.get?_alter_of_ne different _

theorem isSome_get?_iff (map : OrderedMap κ ν) (key : κ) : (map.get? key).isSome ↔ key ∈ map.keys := by
  simp only [get?, keys, Option.isSome_map, List.find?_isSome, decide_eq_true_eq, List.mem_map]

theorem nodup_keys_alter {map : OrderedMap κ ν} (distinct : map.keys.Nodup) (key : κ) (change : Option ν → ν) :
    (map.alter key change).keys.Nodup := by
  rw [keys_alter]
  split
  · exact distinct
  · rename_i absent
    refine List.nodup_append.mpr ⟨distinct, by simp, ?_⟩
    intro old present new added
    rw [List.mem_singleton.mp added]
    intro same
    exact absent (same ▸ present)

end OrderedMap

end KernelAtlas
