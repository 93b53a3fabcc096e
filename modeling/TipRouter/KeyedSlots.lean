import TipRouter.Runs
import TipRouter.Slots

/-! Tables of slots with a key in each entry, one key of which marks an empty
slot. An entry is changed where its key is found, and created in the first
empty slot otherwise; as long as every key in use has an owner and the owners
fit the table, there is always room. -/
namespace TipRouter.Slots
open Runs

universe u v

section Upsert
variable {ε α : Type u} {κ : Type v} {n : ℕ} [DecidableEq κ]

/-- Change the entry of a key, or create one in the first empty slot. -/
def upsert (key : α → κ) (empty target : κ) (change : α → Except ε α) (create : Except ε α)
    (full : ε) (slots : Vector α n) : Except ε (Vector α n) :=
  match first (fun entry => key entry == target) slots with
  | some i => do
    let entry ← change slots[i]
    return slots.put i entry
  | none =>
    match first (fun entry => key entry == empty) slots with
    | some i => do
      let entry ← create
      return slots.put i entry
    | none => .error full

variable {key : α → κ} {empty target : κ} {change : α → Except ε α} {create : Except ε α} {full : ε}
variable {slots next : Vector α n}

/-- One slot is written: the one of the key, or an empty one if there is none. -/
theorem upsert_eq_ok (written : upsert key empty target change create full slots = .ok next) :
    ∃ (i : Fin n) (entry : α), next = slots.put i entry ∧
      ((key slots[i] = target ∧ change slots[i] = .ok entry) ∨
        (key slots[i] = empty ∧ (∀ j : Fin n, key slots[j] ≠ target) ∧ create = .ok entry)) := by
  unfold upsert at written
  cases found : first (fun entry => key entry == target) slots with
  | some i =>
    simp only [found, bind_eq_ok, pure_eq_ok_iff] at written
    obtain ⟨entry, changed, rfl⟩ := written
    obtain ⟨here, -⟩ := first_eq_some_iff.mp found
    exact ⟨i, entry, rfl, .inl ⟨beq_iff_eq.mp here, changed⟩⟩
  | none =>
    have absent : ∀ j : Fin n, key slots[j] ≠ target :=
      fun j => by simpa using first_eq_none_iff.mp found j
    cases room : first (fun entry => key entry == empty) slots with
    | none => simp [found, room] at written
    | some i =>
      simp only [found, room, bind_eq_ok, pure_eq_ok_iff] at written
      obtain ⟨entry, created, rfl⟩ := written
      obtain ⟨here, -⟩ := first_eq_some_iff.mp room
      exact ⟨i, entry, rfl, .inr ⟨beq_iff_eq.mp here, absent, created⟩⟩

/-- When the keys in use are distinct and owned, and no more owners than slots
exist, a missing owner still finds an empty slot. -/
theorem exists_empty {owners : Finset κ} (fits : owners.card ≤ n)
    (distinct : ∀ i j : Fin n, key slots[i] ≠ empty → key slots[j] ≠ empty →
      key slots[i] = key slots[j] → i = j)
    (owned : ∀ i : Fin n, key slots[i] ≠ empty → key slots[i] ∈ owners)
    (owner : target ∈ owners) (absent : ∀ i : Fin n, key slots[i] ≠ target) :
    ∃ i : Fin n, key slots[i] = empty := by
  by_contra none
  have used : ∀ i : Fin n, key slots[i] ≠ empty := fun i blank => none ⟨i, blank⟩
  have injected : (Finset.univ : Finset (Fin n)).card ≤ (owners.erase target).card := by
    refine Finset.card_le_card_of_injOn (fun i : Fin n => key slots[i]) (fun i _ => ?_)
      fun i _ j _ same => distinct i j (used i) (used j) same
    exact Finset.mem_coe.mpr (Finset.mem_erase.mpr ⟨absent i, owned i (used i)⟩)
  rw [Finset.card_univ, Fintype.card_fin, Finset.card_erase_of_mem owner] at injected
  have occupied := Finset.card_pos.mpr ⟨target, owner⟩
  omega

/-- A write succeeds when both ways to make the entry do and there is room. -/
theorem upsert_ok
    (changes : ∀ i : Fin n, key slots[i] = target → ∃ entry, change slots[i] = .ok entry)
    (creates : ∃ entry, create = .ok entry)
    (room : (∀ i : Fin n, key slots[i] ≠ target) → ∃ i : Fin n, key slots[i] = empty) :
    ∃ next, upsert key empty target change create full slots = .ok next := by
  unfold upsert
  cases found : first (fun entry => key entry == target) slots with
  | some i =>
    obtain ⟨here, -⟩ := first_eq_some_iff.mp found
    obtain ⟨entry, changed⟩ := changes i (beq_iff_eq.mp here)
    exact ⟨slots.put i entry, by simp only [changed]; rfl⟩
  | none =>
    obtain ⟨j, blank⟩ := room fun i => by simpa using first_eq_none_iff.mp found i
    obtain ⟨entry, created⟩ := creates
    cases vacant : first (fun entry => key entry == empty) slots with
    | none =>
      have used := first_eq_none_iff.mp vacant j
      rw [blank, beq_self_eq_true] at used
      cases used
    | some i => exact ⟨slots.put i entry, by simp only [created]; rfl⟩

end Upsert

/-! ## Tables filled from the front -/

variable {α : Type u} {κ : Type v} {n : ℕ} {key : α → κ} {slots : Vector α n}

/-- The first slots hold entries with distinct keys, all others are blank. -/
structure Filled (key : α → κ) (blank : α) (filled : ℕ) (slots : Vector α n) : Prop where
  within : filled ≤ n
  used : ∀ i : Fin n, i < filled → key slots[i] ≠ key blank
  unused : ∀ i : Fin n, filled ≤ i → slots[i] = blank
  distinct : ∀ i j : Fin n, i < filled → j < filled → key slots[i] = key slots[j] → i = j

variable {blank entry : α} {filled : ℕ} {i : Fin n}

theorem Filled.replicate : Filled key blank 0 (Vector.replicate n blank) where
  within := Nat.zero_le n
  used := fun i before => absurd before (Nat.not_lt_zero _)
  unused := fun i _ => by simp
  distinct := fun i _ before => absurd before (Nat.not_lt_zero _)

theorem Filled.used_iff (table : Filled key blank filled slots) :
    key slots[i] ≠ key blank ↔ i < filled := by
  constructor
  · intro used
    by_contra after
    exact used (by rw [table.unused i (Nat.le_of_not_lt after)])
  · exact table.used i

/-- A test that the blank entry alone passes finds the end of the entries. -/
theorem Filled.first_eq {test : α → Bool} (table : Filled key blank filled slots)
    (free : test blank = true) (taken : ∀ i : Fin n, i < filled → test slots[i] = false)
    (found : first test slots = some i) : i = filled := by
  obtain ⟨here, before⟩ := first_eq_some_iff.mp found
  rcases Nat.lt_trichotomy i filled with early | same | late
  · rw [taken i early] at here
    cases here
  · exact same
  · have earlier := before ⟨filled, late.trans i.isLt⟩ late
    rw [table.unused _ le_rfl, free] at earlier
    cases earlier

/-- A new key goes to the end. -/
theorem Filled.push (table : Filled key blank filled slots) (last : i = filled)
    (proper : key entry ≠ key blank) (fresh : ∀ j : Fin n, key slots[j] ≠ key entry) :
    Filled key blank (filled + 1) (slots.put i entry) where
  within := last ▸ i.isLt
  used := by
    intro j before
    by_cases same : i = j
    · rwa [← same, getElem_put_self]
    · rw [getElem_put_ne _ _ same]
      exact table.used j (by have := Fin.val_ne_of_ne same; omega)
  unused := by
    intro j after
    rw [getElem_put_ne _ _ fun same => by subst same; omega]
    exact table.unused j (by omega)
  distinct := by
    intro j k beforeJ beforeK same
    by_cases atJ : i = j <;> by_cases atK : i = k
    · exact atJ.symm.trans atK
    · rw [← atJ, getElem_put_self, getElem_put_ne _ _ atK] at same
      exact absurd same.symm (fresh k)
    · rw [← atK, getElem_put_self, getElem_put_ne _ _ atJ] at same
      exact absurd same (fresh j)
    · rw [getElem_put_ne _ _ atJ, getElem_put_ne _ _ atK] at same
      have apartJ := Fin.val_ne_of_ne atJ
      have apartK := Fin.val_ne_of_ne atK
      exact table.distinct j k (by omega) (by omega) same

/-- A change that keeps the key keeps the table. -/
theorem Filled.rewrite (table : Filled key blank filled slots) (same : key entry = key slots[i])
    (before : i < filled) : Filled key blank filled (slots.put i entry) := by
  have keys : ∀ j : Fin n, key (slots.put i entry)[j] = key slots[j] := by
    intro j
    by_cases here : i = j
    · rw [← here, getElem_put_self, same]
    · rw [getElem_put_ne _ _ here]
  refine ⟨table.within, fun j inside => ?_, fun j after => ?_, fun j k beforeJ beforeK equal => ?_⟩
  · rw [keys]
    exact table.used j inside
  · rw [getElem_put_ne _ _ fun here => by subst here; omega]
    exact table.unused j after
  · rw [keys, keys] at equal
    exact table.distinct j k beforeJ beforeK equal

/-- Entries counted by a test that agrees with the front. -/
theorem Filled.count_eq {test : α → Bool} (table : Filled key blank filled slots)
    (front : ∀ i : Fin n, test slots[i] = true ↔ i < filled) : count test slots = filled := by
  have within := table.within
  unfold count total
  rw [Finset.sum_boole, Nat.cast_id]
  have same : (Finset.univ.filter fun i : Fin n => test slots[i] = true) =
      Finset.univ.filter fun i : Fin n => i.val < filled := by
    ext i
    simp only [Finset.mem_filter, Finset.mem_univ, true_and, front]
  rw [same, Fin.card_filter_val_lt, min_eq_right within]

end TipRouter.Slots
