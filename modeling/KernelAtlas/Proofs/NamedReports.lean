import KernelAtlas.Command

/-! Reports look at names only to show them.

A report is made from items and their names side by side. Whatever the names are, its structured form is the same but
for the fields that hold them, and its text can be made or fails in the same way. -/

set_option autoImplicit false

namespace KernelAtlas

namespace Json

mutual

/-- A value without the fields of a name, at whatever depth they stand. -/
def without (name : String) : Json → Json
  | .array items => .array (itemsWithout name items)
  | .object fields => .object (fieldsWithout name fields)
  | .null => .null
  | .bool value => .bool value
  | .number literal => .number literal
  | .string value => .string value
  | .ragged points => .ragged points

def itemsWithout (name : String) : List Json → List Json
  | [] => []
  | item :: rest => item.without name :: itemsWithout name rest

def fieldsWithout (name : String) : List (String × Json) → List (String × Json)
  | [] => []
  | (key, value) :: rest =>
    if key = name then fieldsWithout name rest else (key, value.without name) :: fieldsWithout name rest

end

theorem itemsWithout_map {α : Type} (name : String) (toJson : α → Json) (items : List α) :
    itemsWithout name (items.map toJson) = items.map fun item => (toJson item).without name := by
  induction items with
  | nil => rfl
  | cons item rest ih => simp [itemsWithout, ih]

theorem fieldsWithout_append (name : String) (fields others : List (String × Json)) :
    fieldsWithout name (fields ++ others) = fieldsWithout name fields ++ fieldsWithout name others := by
  induction fields with
  | nil => rfl
  | cons field rest ih =>
    obtain ⟨key, value⟩ := field
    by_cases same : key = name <;> simp [fieldsWithout, same, ih]

end Json

/-- Whether a computation succeeds, and if not, why. -/
def ending {ε α : Type} (result : Except ε α) : Except ε Unit := result >>= fun _ => pure ()

section
variable {ε α β : Type}

@[simp] theorem ending_bind (first : Except ε α) (next : α → Except ε β) :
    ending (first >>= next) = first >>= fun value => ending (next value) := by
  cases first <;> rfl

@[simp] theorem ending_pure (value : α) : ending (pure value : Except ε α) = pure () := rfl

/-- How the steps end decides how all of them end. -/
theorem ending_mapM (step : α → Except ε β) (items : List α) :
    ending (items.mapM step) = ending (items.mapM fun item => ending (step item)) := by
  induction items with
  | nil => rfl
  | cons item rest ih =>
    simp only [List.mapM_cons, ending_bind, ending_pure]
    cases step item with
    | error failure => rfl
    | ok value => exact ih

end

namespace Report

theorem fieldsWithout_summary (name other : String) (kernel : Kernel) :
    Json.fieldsWithout "name" (Summary.ofKernel name kernel).fields =
      Json.fieldsWithout "name" (Summary.ofKernel other kernel).fields := by
  simp [Summary.fields, Summary.ofKernel, Json.fieldsWithout]

section
variable {ε α β : Type} {names other : List String} {items : List α}

/-- What is made from names and items side by side without a look at the names is made from the items. -/
theorem map_zip_eq {make : String × α → β} {plain : α → β} (blind : ∀ entry, make entry = plain entry.2)
    (length : names.length = items.length) : (names.zip items).map make = items.map plain :=
  calc
    (names.zip items).map make = (names.zip items).map (plain ∘ Prod.snd) := List.map_congr_left fun entry _ => blind entry
    _ = ((names.zip items).map Prod.snd).map plain := by rw [List.map_map]
    _ = items.map plain := by rw [List.map_snd_zip (Nat.le_of_eq length.symm)]

theorem isEmpty_map_zip (make : String × α → β) (length : names.length = items.length) :
    ((names.zip items).map make).isEmpty = items.isEmpty := by
  rw [Bool.eq_iff_iff, List.isEmpty_iff_length_eq_zero, List.isEmpty_iff_length_eq_zero]
  simp [length]

theorem ending_mapM_zip {step : String × α → Except ε β} {plain : α → Except ε Unit}
    (blind : ∀ entry, ending (step entry) = plain entry.2) (length : names.length = items.length) :
    ending ((names.zip items).mapM step) = ending (items.mapM plain) :=
  calc
    ending ((names.zip items).mapM step) = ending ((names.zip items).mapM (plain ∘ Prod.snd)) := by
      rw [ending_mapM, funext blind]
      rfl
    _ = ending (((names.zip items).map Prod.snd).mapM plain) := by rw [List.mapM_map]
    _ = ending (items.mapM plain) := by rw [List.map_snd_zip (Nat.le_of_eq length.symm)]

end

section
variable {kernels : List Kernel} {names other : List String} (length : names.length = kernels.length)
  (lengthToo : other.length = kernels.length)
include length lengthToo

theorem Kernels.toJson_blind :
    (ofNames kernels names).toJson.without "name" = (ofNames kernels other).toJson.without "name" := by
  have entries {names : List String} (length : names.length = kernels.length) :
      Json.itemsWithout "name" ((ofNames kernels names).kernels.map fun summary => .object summary.fields) =
        kernels.map fun kernel => .object (Json.fieldsWithout "name" (Summary.ofKernel "" kernel).fields) := by
    rw [ofNames, List.map_map, Json.itemsWithout_map]
    refine map_zip_eq (fun entry => ?_) length
    rw [Function.comp_apply, Json.without, fieldsWithout_summary entry.1 ""]
  simp only [toJson, Json.without, Json.fieldsWithout, entries length, entries lengthToo]
  rfl

theorem Kernels.ending_text_blind : ending (ofNames kernels names).text = ending (ofNames kernels other).text := by
  have empty {names : List String} (length : names.length = kernels.length) :
      (ofNames kernels names).kernels.isEmpty = kernels.isEmpty := isEmpty_map_zip _ length
  have entries {names : List String} (length : names.length = kernels.length) :
      ending ((ofNames kernels names).kernels.mapM kernelText) =
        ending (kernels.mapM fun kernel => ending (Summary.ofKernel "" kernel).span) := by
    rw [ofNames, List.mapM_map]
    refine ending_mapM_zip (fun entry => ?_) length
    simp only [Function.comp_apply, kernelText, ending_bind, ending_pure]
    rfl
  simp only [text, empty length, empty lengthToo]
  split
  · rfl
  · simp only [ending_bind, ending_pure]
    exact (entries length).trans (entries lengthToo).symm

end

theorem MatchEntry.toJson_blind (items : List Placed) (name other : String) (item : Placed) :
    (ofPlaced items name item).toJson.without "name" = (ofPlaced items other item).toJson.without "name" := by
  simp only [toJson, Json.without, Json.fieldsWithout_append]
  rw [ofPlaced, ofPlaced, fieldsWithout_summary name other]

theorem MatchEntry.ending_text_blind (items : List Placed) (name other : String) (item : Placed) (line : Int) :
    ending ((ofPlaced items name item).text line) = ending ((ofPlaced items other item).text line) := by
  simp only [text, ending_bind, ending_pure]
  rfl

section
variable (query : Query) {found : List Match} {names other : List String} (length : names.length = found.length)
  (lengthToo : other.length = found.length)
include length lengthToo

theorem Matches.found_ofNames : (ofNames query found names).found = (ofNames query found other).found := by
  have empty {names : List String} (length : names.length = found.length) :
      (ofNames query found names).entries.isEmpty = (Placed.list found).isEmpty :=
    isEmpty_map_zip _ (by rw [length, Placed.length_list])
  exact congrArg not ((empty length).trans (empty lengthToo).symm)

theorem Matches.toJson_blind :
    (ofNames query found names).toJson.without "name" = (ofNames query found other).toJson.without "name" := by
  have entries {names : List String} (length : names.length = found.length) :
      Json.itemsWithout "name" ((ofNames query found names).entries.map MatchEntry.toJson) =
        (Placed.list found).map fun item => (MatchEntry.ofPlaced (Placed.list found) "" item).toJson.without "name" := by
    rw [ofNames, List.map_map, Json.itemsWithout_map]
    refine map_zip_eq (fun entry => ?_) (by rw [length, Placed.length_list])
    exact MatchEntry.toJson_blind _ _ _ _
  simp only [toJson, Json.without, Json.fieldsWithout, entries length, entries lengthToo,
    found_ofNames query length lengthToo]
  rfl

theorem Matches.ending_text_blind :
    ending (ofNames query found names).text = ending (ofNames query found other).text := by
  have entries {names : List String} (length : names.length = found.length) :
      ending ((ofNames query found names).entries.mapM fun entry => entry.text query.line) =
        ending ((Placed.list found).mapM fun item =>
          ending ((MatchEntry.ofPlaced (Placed.list found) "" item).text query.line)) := by
    rw [ofNames, List.mapM_map]
    refine ending_mapM_zip (fun entry => ?_) (by rw [length, Placed.length_list])
    exact MatchEntry.ending_text_blind _ _ _ _ _
  simp only [text, found_ofNames query length lengthToo]
  split
  · simp only [ending_bind, ending_pure]
    exact congrArg _ (funext fun _ => (entries length).trans (entries lengthToo).symm)
  · rfl

end

end Report

namespace Command

section
variable (alignment : Alignment) (width : Int) (left right otherLeft otherRight : String)
  (leftOutdated rightOutdated : Bool) (room : Nat)

theorem DiffReport.toJson_blind :
    (DiffReport.mk (.ofNames alignment width left right) leftOutdated rightOutdated).toJson.without "name" =
      (DiffReport.mk (.ofNames alignment width otherLeft otherRight) leftOutdated rightOutdated).toJson.without "name" := by
  simp only [toJson, Report.Diff.toJsonWith, Json.without, Json.fieldsWithout, Json.fieldsWithout_append,
    Report.Diff.ofNames, Report.fieldsWithout_summary left otherLeft, Report.fieldsWithout_summary right otherRight]

theorem DiffReport.ending_text_blind :
    ending ((DiffReport.mk (.ofNames alignment width left right) leftOutdated rightOutdated).report.text room) =
      ending ((DiffReport.mk (.ofNames alignment width otherLeft otherRight) leftOutdated rightOutdated).report.text room) := by
  simp only [Report.Diff.text, ending_bind, ending_pure]
  rfl

end

end Command

end KernelAtlas
