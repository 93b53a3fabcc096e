import Mathlib.Algebra.BigOperators.Fin
import Mathlib.Algebra.Order.BigOperators.Group.Finset

/-! Fixed-size tables of slots: the first slot that satisfies a test, and the
total of a measure over all slots. A write to one slot changes a total by the
difference of the two entries, which is what every counter kept beside such a
table relies on. -/
namespace Vector

/-- Writes the slot of a `Fin` index, which needs no proof that it is in bounds. -/
def put {α : Type u} {n : ℕ} (slots : Vector α n) (i : Fin n) (entry : α) : Vector α n :=
  slots.set i entry i.isLt

end Vector

namespace TipRouter.Slots

universe u v

variable {α : Type u} {n : ℕ}

/-- Reads the slot of a `Fin` index; there is no bound to prove here either. -/
instance readSlot : GetElem (Vector α n) (Fin n) α fun _ _ => True where
  getElem slots i _ := slots.get i

@[simp]
theorem getElem_fin (slots : Vector α n) (i : Fin n) : slots[i] = slots[i.val] := rfl

/-- The first index whose entry passes the test. -/
def first (test : α → Bool) (slots : Vector α n) : Option (Fin n) :=
  (slots.toList.findFinIdx? test).map (Fin.cast slots.length_toList)

theorem first_eq_some_iff {test : α → Bool} {slots : Vector α n} {i : Fin n} :
    first test slots = some i ↔ test slots[i] = true ∧ ∀ j < i, test slots[j] = false := by
  rw [first, Option.map_eq_some_iff]
  constructor
  · rintro ⟨index, found, rfl⟩
    obtain ⟨here, earlier⟩ := List.findFinIdx?_eq_some_iff.mp found
    refine ⟨by simpa using here, fun j before => ?_⟩
    simpa using earlier (j.cast slots.length_toList.symm) before
  · rintro ⟨here, earlier⟩
    refine ⟨i.cast slots.length_toList.symm, List.findFinIdx?_eq_some_iff.mpr ?_, rfl⟩
    refine ⟨by simpa using here, fun j before => ?_⟩
    simpa using earlier (j.cast slots.length_toList) before

theorem first_eq_none_iff {test : α → Bool} {slots : Vector α n} :
    first test slots = none ↔ ∀ i : Fin n, test slots[i] = false := by
  rw [first, Option.map_eq_none_iff, List.findFinIdx?_eq_none_iff]
  constructor
  · intro absent i
    simpa using absent slots[i] (by simp)
  · intro absent entry member
    obtain ⟨i, bound, rfl⟩ := Vector.mem_iff_getElem.mp (Vector.mem_toList_iff.mp member)
    simpa using absent ⟨i, bound⟩

theorem getElem_put_self (slots : Vector α n) (i : Fin n) (entry : α) :
    (slots.put i entry)[i] = entry := by
  simp [Vector.put]

theorem getElem_put_ne (slots : Vector α n) {i j : Fin n} (entry : α) (different : i ≠ j) :
    (slots.put i entry)[j] = slots[j] := by
  simp only [getElem_fin, Vector.put, Vector.getElem_set, if_neg (Fin.val_ne_of_ne different)]

theorem getElem_put_fin (slots : Vector α n) (i j : Fin n) (entry : α) :
    (slots.put i entry)[j] = if i = j then entry else slots[j] := by
  simp only [getElem_fin, Vector.put, Vector.getElem_set, Fin.ext_iff]

@[simp]
theorem put_getElem (slots : Vector α n) (i : Fin n) : slots.put i slots[i.val] = slots := by
  simp [Vector.put]

@[simp]
theorem put_put (slots : Vector α n) (i : Fin n) (first second : α) :
    (slots.put i first).put i second = slots.put i second := by
  simp [Vector.put]

theorem put_replicate (i : Fin n) (entry : α) :
    (Vector.replicate n entry).put i entry = Vector.replicate n entry := by
  simp [Vector.put]

/-- What holds of the new entry here and of the old entries elsewhere holds of
every slot after a write. -/
theorem forall_put {P : Fin n → α → Prop} {slots : Vector α n} {i : Fin n} {entry : α}
    (here : P i entry) (elsewhere : ∀ j ≠ i, P j slots[j]) (j : Fin n) :
    P j (slots.put i entry)[j] := by
  by_cases same : j = i
  · rw [same, getElem_put_self]
    exact here
  · rw [getElem_put_ne slots entry (Ne.symm same)]
    exact elsewhere j same

/-- Keys stay pairwise distinct when the written entry takes nobody's key. -/
theorem distinct_put {κ : Type v} (member : α → Prop) (key : α → κ) {slots : Vector α n} {i : Fin n}
    {entry : α}
    (distinct : ∀ j k : Fin n, member slots[j] → member slots[k] →
      key slots[j] = key slots[k] → j = k)
    (fresh : member entry → ∀ j ≠ i, member slots[j] → key slots[j] ≠ key entry) (j k : Fin n)
    (memberJ : member (slots.put i entry)[j]) (memberK : member (slots.put i entry)[k])
    (same : key (slots.put i entry)[j] = key (slots.put i entry)[k]) : j = k := by
  by_cases atJ : j = i <;> by_cases atK : k = i
  · rw [atJ, atK]
  · rw [atJ, getElem_put_self] at memberJ same
    rw [getElem_put_ne slots entry (Ne.symm atK)] at memberK same
    exact absurd same.symm (fresh memberJ k atK memberK)
  · rw [atK, getElem_put_self] at memberK same
    rw [getElem_put_ne slots entry (Ne.symm atJ)] at memberJ same
    exact absurd same (fresh memberK j atJ memberJ)
  · rw [getElem_put_ne slots entry (Ne.symm atJ)] at memberJ same
    rw [getElem_put_ne slots entry (Ne.symm atK)] at memberK same
    exact distinct j k memberJ memberK same

theorem ext_fin {left right : Vector α n} (same : ∀ i : Fin n, left[i] = right[i]) :
    left = right :=
  Vector.ext fun i bound => same ⟨i, bound⟩

/-- The entry with the greatest key, the last one when several tie:
`iter().max_by_key(..)` on a non-empty array. -/
def maxByKey [NeZero n] (key : α → ℕ) (slots : Vector α n) : α :=
  slots.toList.foldl (fun best entry => if key best ≤ key entry then entry else best)
    slots[(0 : Fin n)]

private theorem foldl_max (key : α → ℕ) (rest : List α) (best : α) :
    let result := rest.foldl (fun best entry => if key best ≤ key entry then entry else best) best
    (result = best ∨ result ∈ rest) ∧ key best ≤ key result ∧
      ∀ entry ∈ rest, key entry ≤ key result := by
  induction rest generalizing best with
  | nil => simp
  | cons entry rest ih =>
    simp only [List.foldl_cons, List.mem_cons, forall_eq_or_imp]
    obtain ⟨origin, above, others⟩ := ih (if key best ≤ key entry then entry else best)
    split at origin <;> rename_i order <;> simp only [order, if_true, if_false] at above others ⊢
    · exact ⟨.inr origin, order.trans above, above, others⟩
    · exact ⟨origin.imp_right .inr, above, (Nat.le_of_not_le order).trans above, others⟩

theorem maxByKey_spec [NeZero n] (key : α → ℕ) (slots : Vector α n) :
    ∃ heaviest : Fin n, slots[heaviest] = maxByKey key slots ∧
      ∀ i : Fin n, key slots[i] ≤ key slots[heaviest] := by
  obtain ⟨origin, -, others⟩ := foldl_max key slots.toList slots[(0 : Fin n)]
  have bound : ∀ i : Fin n, key slots[i] ≤ key (maxByKey key slots) :=
    fun i => others slots[i] (by simp)
  have found : ∃ heaviest : Fin n, slots[heaviest] = maxByKey key slots := by
    rcases origin with first | member
    · exact ⟨0, first.symm⟩
    · obtain ⟨i, inside, same⟩ := Vector.mem_iff_getElem.mp (Vector.mem_toList_iff.mp member)
      exact ⟨⟨i, inside⟩, same⟩
  obtain ⟨heaviest, same⟩ := found
  exact ⟨heaviest, same, fun i => same ▸ bound i⟩

/-- The sum of a measure over all slots. -/
def total (measure : α → ℕ) (slots : Vector α n) : ℕ := ∑ i : Fin n, measure slots[i]

variable {measure : α → ℕ} {slots : Vector α n}

/-- Writing a slot trades the old entry's measure for the new one's. -/
theorem total_put (i : Fin n) (entry : α) :
    total measure (slots.put i entry) + measure slots[i] = total measure slots + measure entry := by
  have updated : (fun j : Fin n => measure (slots.put i entry)[j]) =
      Function.update (fun j : Fin n => measure slots[j]) i (measure entry) := by
    funext j
    rw [getElem_put_fin, Function.update_apply]
    by_cases same : i = j
    · simp [same]
    · simp [same, Ne.symm same]
  have split := Finset.sum_eq_add_sum_sdiff_singleton_of_mem (Finset.mem_univ i)
    (fun j : Fin n => measure slots[j])
  simp only [total, updated, Finset.sum_update_of_mem (Finset.mem_univ i), split]
  omega

/-- A slot that measures nothing is filled. -/
theorem total_put_of_zero (measure : α → ℕ) (slots : Vector α n) (i : Fin n) (entry : α)
    (empty : measure slots[i] = 0) :
    total measure (slots.put i entry) = total measure slots + measure entry := by
  rw [← total_put i entry, empty, Nat.add_zero]

theorem total_replicate_zero {entry : α} (empty : measure entry = 0) :
    total measure (Vector.replicate n entry) = 0 := by
  simp [total, empty]

theorem le_total (i : Fin n) : measure slots[i] ≤ total measure slots :=
  Finset.single_le_sum (f := fun j : Fin n => measure slots[j])
    (fun _ _ => Nat.zero_le _) (Finset.mem_univ i)

theorem total_congr {other : α → ℕ} (same : ∀ i : Fin n, measure slots[i] = other slots[i]) :
    total measure slots = total other slots :=
  Finset.sum_congr rfl fun i _ => same i

theorem total_eq_sum (measure : α → ℕ) (slots : Vector α n) :
    total measure slots = (slots.toList.map measure).sum := by
  have length := slots.length_toList
  rw [← Fin.sum_univ_fun_getElem, total]
  refine Fintype.sum_equiv (finCongr length.symm) _ _ fun i => ?_
  simp

/-- What the entries that pass a test measure together. -/
theorem sum_filter_toList (measure : α → ℕ) (test : α → Bool) (slots : Vector α n) :
    ((slots.toList.filter test).map measure).sum =
      total (fun entry => if test entry then measure entry else 0) slots := by
  rw [total_eq_sum]
  induction slots.toList with
  | nil => rfl
  | cons entry rest ih =>
    by_cases passes : test entry = true
    · rw [List.filter_cons_of_pos passes, List.map_cons, List.map_cons, List.sum_cons,
        List.sum_cons, if_pos passes, ih]
    · rw [List.filter_cons_of_neg passes, List.map_cons, List.sum_cons, if_neg passes,
        Nat.zero_add, ih]

theorem total_eq_zero_iff : total measure slots = 0 ↔ ∀ i : Fin n, measure slots[i] = 0 := by
  simp [total]

theorem total_pos_iff : 0 < total measure slots ↔ ∃ i : Fin n, 0 < measure slots[i] := by
  rw [Nat.pos_iff_ne_zero, ne_eq, total_eq_zero_iff]
  simp [Nat.pos_iff_ne_zero]

theorem total_add {other : α → ℕ} :
    total (fun entry => measure entry + other entry) slots =
      total measure slots + total other slots :=
  Finset.sum_add_distrib

/-- The number of slots whose entry passes the test: `iter().filter(..).count()`. -/
def count (test : α → Bool) (slots : Vector α n) : ℕ :=
  total (fun entry => if test entry then 1 else 0) slots

theorem count_put (test : α → Bool) (slots : Vector α n) (i : Fin n) (entry : α) :
    count test (slots.put i entry) + (if test slots[i] then 1 else 0) =
      count test slots + (if test entry then 1 else 0) :=
  total_put i entry

theorem count_replicate {test : α → Bool} {entry : α} (fails : test entry = false) :
    count test (Vector.replicate n entry) = 0 :=
  total_replicate_zero (by rw [fails]; rfl)

theorem count_congr {test other : α → Bool} (same : ∀ i : Fin n, test slots[i] = other slots[i]) :
    count test slots = count other slots :=
  total_congr fun i => by rw [same i]

theorem count_map {β : Type v} {test : β → Bool} (f : α → β) :
    count test (slots.map f) = count (fun entry => test (f entry)) slots := by
  have mapped : ∀ i : Fin n, (slots.map f)[i] = f slots[i] := fun i => Vector.getElem_map f i.isLt
  simp only [count, total, mapped]

theorem count_pos_iff {test : α → Bool} :
    0 < count test slots ↔ ∃ i : Fin n, test slots[i] = true := by
  rw [count, total_pos_iff]
  refine exists_congr fun i => ?_
  cases test slots[i] <;> simp

theorem total_le_length (small : ∀ i : Fin n, measure slots[i] ≤ 1) : total measure slots ≤ n := by
  calc total measure slots ≤ ∑ _i : Fin n, 1 := Finset.sum_le_sum fun i _ => small i
    _ = n := by simp

theorem count_le_length {test : α → Bool} : count test slots ≤ n := by
  refine total_le_length fun i => ?_
  split <;> omega

section Implication
variable {test other : α → Bool}
variable (implies : ∀ i : Fin n, test slots[i] = true → other slots[i] = true)
include implies

private theorem indicator_le (i : Fin n) :
    (if test slots[i] then 1 else 0) ≤ (if other slots[i] then 1 else 0) := by
  by_cases tested : test slots[i] = true
  · rw [if_pos tested, if_pos (implies i tested)]
  · rw [if_neg tested]
    exact Nat.zero_le _

theorem count_le_of_imp : count test slots ≤ count other slots := by
  unfold count total
  exact Finset.sum_le_sum fun i _ => indicator_le implies i

/-- A test that implies another is passed as often exactly when they agree. -/
theorem count_eq_iff_of_imp :
    count test slots = count other slots ↔
      ∀ i : Fin n, other slots[i] = true → test slots[i] = true := by
  constructor
  · unfold count total
    intro same i passes
    have agree := (Finset.sum_eq_sum_iff_of_le fun j _ => indicator_le implies j).mp same i
      (Finset.mem_univ i)
    by_contra fails
    rw [if_neg fails, if_pos passes] at agree
    cases agree
  · intro converse
    refine count_congr fun i => ?_
    rw [Bool.eq_iff_iff]
    exact ⟨implies i, converse i⟩

end Implication

/-- Every entry passes a test that is passed as often as there are entries. -/
theorem count_eq_length_iff {test : α → Bool} :
    count test slots = n ↔ ∀ i : Fin n, test slots[i] = true := by
  have everywhere : count (fun _ => true) slots = n := by simp [count, total]
  have same : count test slots = count (fun _ => true) slots ↔ _ :=
    count_eq_iff_of_imp fun _ _ => rfl
  rw [everywhere] at same
  rw [same]
  exact forall_congr' fun i => ⟨fun passes => passes rfl, fun passes _ => passes⟩

/-- Entries with distinct owners together measure no more than the owners do. -/
theorem total_le_sum {κ : Type v} [DecidableEq κ] (member : α → Prop) [DecidablePred member]
    (key : α → κ) {owners : Finset κ} {worth : κ → ℕ}
    (distinct : ∀ i j : Fin n, member slots[i] → member slots[j] →
      key slots[i] = key slots[j] → i = j)
    (owned : ∀ i : Fin n, member slots[i] →
      key slots[i] ∈ owners ∧ measure slots[i] ≤ worth (key slots[i]))
    (others : ∀ i : Fin n, ¬ member slots[i] → measure slots[i] = 0) :
    total measure slots ≤ ∑ owner ∈ owners, worth owner := by
  have members : total measure slots =
      ∑ i ∈ Finset.univ.filter fun i : Fin n => member slots[i], measure slots[i] := by
    refine (Finset.sum_subset (Finset.filter_subset _ _) fun i _ absent => others i ?_).symm
    simpa using absent
  have injective : Set.InjOn (fun i : Fin n => key slots[i])
      (Finset.univ.filter fun i : Fin n => member slots[i]) := by
    intro i memberI j memberJ same
    exact distinct i j (Finset.mem_filter.mp memberI).2 (Finset.mem_filter.mp memberJ).2 same
  calc total measure slots
      ≤ ∑ i ∈ Finset.univ.filter fun i : Fin n => member slots[i], worth (key slots[i]) := by
        rw [members]
        exact Finset.sum_le_sum fun i inside => (owned i (Finset.mem_filter.mp inside).2).2
    _ = ∑ owner ∈ (Finset.univ.filter fun i : Fin n => member slots[i]).image
          fun i => key slots[i], worth owner := (Finset.sum_image injective).symm
    _ ≤ ∑ owner ∈ owners, worth owner := by
        refine Finset.sum_le_sum_of_subset fun owner image => ?_
        obtain ⟨i, inside, rfl⟩ := Finset.mem_image.mp image
        exact (owned i (Finset.mem_filter.mp inside).2).1

end TipRouter.Slots
