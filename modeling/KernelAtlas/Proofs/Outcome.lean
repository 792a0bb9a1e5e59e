import KernelAtlas.Journal
import Mathlib.Data.List.Forall2

/-! When computations succeed, and with which values. -/

set_option autoImplicit false

namespace KernelAtlas

variable {ε ε' α β : Type}

theorem bind_eq_ok_iff (first : Except ε α) (next : α → Except ε β) (value : β) :
    (first >>= next) = .ok value ↔ ∃ middle, first = .ok middle ∧ next middle = .ok value := by
  cases first <;> simp [Bind.bind, Except.bind]

theorem mapM_eq_ok_iff (step : α → Except ε β) (items : List α) (values : List β) :
    items.mapM step = .ok values ↔ List.Forall₂ (fun item value => step item = .ok value) items values := by
  induction items generalizing values with
  | nil => simp [Pure.pure, Except.pure, eq_comm]
  | cons item rest ih =>
    simp only [List.mapM_cons, bind_eq_ok_iff, List.forall₂_cons_left_iff]
    constructor
    · rintro ⟨value, done, later, restDone, whole⟩
      cases whole
      exact ⟨value, later, done, (ih later).mp restDone, rfl⟩
    · rintro ⟨value, later, done, restDone, rfl⟩
      exact ⟨value, done, later, (ih later).mpr restDone, rfl⟩

theorem exists_of_mem_of_forall₂ {related : α → β → Prop} {items : List α} {others : List β}
    (each : List.Forall₂ related items others) {other : β} (member : other ∈ others) :
    ∃ item ∈ items, related item other := by
  induction each with
  | nil => cases member
  | @cons item _ _ _ first _ ih =>
    rcases List.mem_cons.mp member with same | later
    · exact ⟨item, List.mem_cons_self, same ▸ first⟩
    · obtain ⟨found, present, holds⟩ := ih later
      exact ⟨found, List.mem_cons_of_mem item present, holds⟩

theorem exists_ok_of_mem {step : α → Except ε β} {items : List α} {values : List β}
    (done : items.mapM step = .ok values) {item : α} (member : item ∈ items) : ∃ value, step item = .ok value := by
  obtain ⟨value, -, made⟩ := exists_of_mem_of_forall₂ ((mapM_eq_ok_iff step items values).mp done).flip member
  exact ⟨value, made⟩

/-- A step can be taken for all items if it can be taken for each. -/
theorem exists_mapM_iff (step : α → Except ε β) (items : List α) :
    (∃ values, items.mapM step = .ok values) ↔ ∀ item ∈ items, ∃ value, step item = .ok value := by
  constructor
  · intro ⟨values, done⟩ item member
    exact exists_ok_of_mem done member
  · intro each
    induction items with
    | nil => exact ⟨[], rfl⟩
    | cons item rest ih =>
      obtain ⟨value, done⟩ := each item List.mem_cons_self
      obtain ⟨values, restDone⟩ := ih fun other member => each other (List.mem_cons_of_mem item member)
      exact ⟨value :: values, (mapM_eq_ok_iff _ _ _).mpr (.cons done ((mapM_eq_ok_iff _ _ _).mp restDone))⟩

namespace Recorded

@[simp] theorem result_pure (value : α) : (Pure.pure value : Recorded ε α).result = .ok value := rfl

@[simp] theorem result_ofExcept (result : Except ε α) : (ofExcept result).result = result := rfl

theorem result_bind_eq_ok_iff (first : Recorded ε α) (next : α → Recorded ε β) (value : β) :
    (first >>= next).result = .ok value ↔ ∃ middle, first.result = .ok middle ∧ (next middle).result = .ok value := by
  rw [result_bind, bind_eq_ok_iff]

theorem result_bind_of_ok {first : Recorded ε α} {next : α → Recorded ε β} {middle : α} {value : β}
    (done : first.result = .ok middle) (rest : (next middle).result = .ok value) :
    (first >>= next).result = .ok value :=
  (result_bind_eq_ok_iff first next value).mpr ⟨middle, done, rest⟩

/-- What is written to the journal does not decide the result. -/
@[simp] theorem result_record_bind (entry : Journal.Entry) (next : Unit → Recorded ε β) :
    (record entry >>= next).result = (next ()).result := rfl

theorem result_mapM (step : α → Recorded ε β) (items : List α) :
    (items.mapM step).result = items.mapM fun item => (step item).result := by
  induction items with
  | nil => rfl
  | cons item rest ih =>
    simp only [List.mapM_cons, result_bind, ih]
    rfl

theorem result_mapM_eq_ok_iff (step : α → Recorded ε β) (items : List α) (values : List β) :
    (items.mapM step).result = .ok values ↔
      List.Forall₂ (fun item value => (step item).result = .ok value) items values := by
  rw [result_mapM, mapM_eq_ok_iff]

theorem exists_of_mem_result_mapM {step : α → Recorded ε β} {items : List α} {values : List β}
    (done : (items.mapM step).result = .ok values) {value : β} (member : value ∈ values) :
    ∃ item ∈ items, (step item).result = .ok value :=
  exists_of_mem_of_forall₂ ((result_mapM_eq_ok_iff step items values).mp done) member

theorem result_mapError_eq_ok_iff (convert : ε → ε') (computation : Recorded ε α) (value : α) :
    (computation.mapError convert).result = .ok value ↔ computation.result = .ok value := by
  obtain ⟨entries, result⟩ := computation
  cases result <;> simp [mapError, Except.mapError]

theorem result_mapError_of_ok {convert : ε → ε'} {computation : Recorded ε α} {value : α}
    (done : computation.result = .ok value) : (computation.mapError convert).result = .ok value :=
  (result_mapError_eq_ok_iff convert computation value).mpr done

end Recorded

end KernelAtlas
