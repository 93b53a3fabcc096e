import Mathlib.Data.List.Nodup
import Mathlib.Data.List.Sort

/-! Sorting forgets the order it is given. Two enumerations of the same items are
sorted to the same list when the comparison tells different items apart, and to
lists with the same keys when the items are compared by a key. -/
namespace TipRouter.CanonicalSort

universe u v

variable {α : Type u} {β : Type v}

section Comparison
variable {le : α → α → Bool} (trans : ∀ a b c, le a b → le b c → le a c)
variable (total : ∀ a b, (le a b || le b a) = true)
include trans total

/-- Sorting is canonical where the comparison is antisymmetric. -/
theorem mergeSort_eq_of_perm {items others : List α}
    (antisymm : ∀ a ∈ items, ∀ b ∈ items, le a b → le b a → a = b) (perm : items.Perm others) :
    items.mergeSort le = others.mergeSort le := by
  have sorted := List.pairwise_mergeSort trans total items
  have sorted' := List.pairwise_mergeSort trans total others
  have same : (items.mergeSort le).Perm (others.mergeSort le) :=
    (List.mergeSort_perm items le).trans (perm.trans (List.mergeSort_perm others le).symm)
  refine List.Perm.eq_of_pairwise ?_ sorted sorted' same
  intro a b memberA memberB
  have inItems := List.mem_mergeSort.mp memberA
  have inItems' := perm.mem_iff.mpr (List.mem_mergeSort.mp memberB)
  exact antisymm a inItems b inItems'

end Comparison

/-- `sort_by_key`: equal keys may come in any order, but the keys do not. -/
theorem map_mergeSort_eq_of_perm (le : β → β → Bool) (key : α → β)
    (trans : ∀ a b c, le a b → le b c → le a c) (total : ∀ a b, (le a b || le b a) = true)
    (antisymm : ∀ a b, le a b → le b a → a = b) {items others : List α}
    (perm : items.Perm others) :
    (items.mergeSort fun a b => le (key a) (key b)).map key =
      (others.mergeSort fun a b => le (key a) (key b)).map key := by
  have sorted : ∀ list : List α,
      ((list.mergeSort fun a b => le (key a) (key b)).map key).Pairwise (le · ·) := by
    intro list
    rw [List.pairwise_map]
    exact List.pairwise_mergeSort (fun a b c => trans (key a) (key b) (key c))
      (fun a b => total (key a) (key b)) list
  have same : ((items.mergeSort fun a b => le (key a) (key b)).map key).Perm
      ((others.mergeSort fun a b => le (key a) (key b)).map key) :=
    ((List.mergeSort_perm items _).trans (perm.trans (List.mergeSort_perm others _).symm)).map key
  exact List.Perm.eq_of_pairwise (fun a b _ _ => antisymm a b) (sorted items) (sorted others) same

/-- `sort` by an `Ord` that calls no two different items equal. -/
theorem mergeSort_cmp_eq_of_perm {cmp : α → α → Ordering} [ordered : Std.TransCmp cmp]
    {items others : List α} (separates : ∀ a ∈ items, ∀ b ∈ items, cmp a b = .eq → a = b)
    (perm : items.Perm others) :
    items.mergeSort (fun a b => (cmp a b).isLE) = others.mergeSort fun a b => (cmp a b).isLE := by
  apply mergeSort_eq_of_perm
  · intro a b c
    exact Std.TransCmp.isLE_trans
  · intro a b
    have swapped : cmp b a = (cmp a b).swap := Std.OrientedCmp.eq_swap
    rw [swapped]
    cases cmp a b <;> rfl
  · intro a memberA b memberB le ge
    exact separates a memberA b memberB (Std.OrientedCmp.isLE_antisymm le ge)
  · exact perm

/-- Items with distinct keys are told apart by their keys. -/
theorem separates_of_nodup {cmp : α → α → Ordering} (key : α → β)
    (byKey : ∀ a b, cmp a b = .eq → key a = key b) {items : List α}
    (distinct : (items.map key).Nodup) : ∀ a ∈ items, ∀ b ∈ items, cmp a b = .eq → a = b := by
  intro a memberA b memberB same
  exact List.inj_on_of_nodup_map distinct memberA memberB (byKey a b same)

end TipRouter.CanonicalSort
