import Mathlib.Algebra.BigOperators.Group.Finset.Piecewise
import Mathlib.Algebra.Order.BigOperators.Group.Finset

/-! Balances of which only finitely many are not zero, and their total. What one
balance gains or loses the total gains or loses as well, so that a conservation law
over a whole book is a matter of the balances a posting touches. -/
namespace TipRouter.Ledgers

variable {ι : Type} {balances : ι → ℕ} {total other : ℕ}

/-- The balances add up to `total`. -/
def HasTotal (balances : ι → ℕ) (total : ℕ) : Prop :=
  ∃ holders : Finset ι, (∀ holder ∉ holders, balances holder = 0) ∧
    ∑ holder ∈ holders, balances holder = total

namespace HasTotal

theorem zero : HasTotal (fun _ : ι => 0) 0 := ⟨∅, fun _ _ => rfl, Finset.sum_empty⟩

/-- Holders without a balance may be added. -/
theorem of_subset {holders larger : Finset ι} (included : holders ⊆ larger)
    (others : ∀ holder ∉ holders, balances holder = 0) :
    ∑ holder ∈ larger, balances holder = ∑ holder ∈ holders, balances holder :=
  (Finset.sum_subset included fun holder _ outside => others holder outside).symm

theorem unique (has : HasTotal balances total) (also : HasTotal balances other) :
    total = other := by
  classical
  obtain ⟨holders, outside, rfl⟩ := has
  obtain ⟨others, outside', rfl⟩ := also
  have left : holders ⊆ holders ∪ others := Finset.subset_union_left
  have right : others ⊆ holders ∪ others := Finset.subset_union_right
  rw [← of_subset left outside, ← of_subset right outside']

theorem le (has : HasTotal balances total) (holder : ι) : balances holder ≤ total := by
  obtain ⟨holders, outside, rfl⟩ := has
  by_cases member : holder ∈ holders
  · exact Finset.single_le_sum (f := balances) (fun _ _ => Nat.zero_le _) member
  · rw [outside holder member]
    exact Nat.zero_le _

variable [DecidableEq ι]

/-- Writing one balance changes the total by as much. -/
theorem update (has : HasTotal balances total) (holder : ι) (balance : ℕ) :
    ∃ changed, HasTotal (Function.update balances holder balance) changed ∧
      changed + balances holder = total + balance := by
  obtain ⟨holders, outside, rfl⟩ := has
  refine ⟨_, ⟨insert holder holders, ?_, rfl⟩, ?_⟩
  · intro other absent
    rw [Finset.mem_insert, not_or] at absent
    rw [Function.update_of_ne absent.1]
    exact outside other absent.2
  · have wider := of_subset (Finset.subset_insert holder holders) outside
    have member := Finset.mem_insert_self holder holders
    rw [← wider, Finset.sum_update_of_mem member, ← Finset.add_sum_erase _ balances member,
      Finset.sdiff_singleton_eq_erase]
    omega

/-- The same, given what the balance gains. -/
theorem credit (has : HasTotal balances total) (holder : ι) (amount : ℕ) :
    HasTotal (Function.update balances holder (balances holder + amount)) (total + amount) := by
  obtain ⟨changed, hasChanged, balanced⟩ := has.update holder (balances holder + amount)
  have same : changed = total + amount := by omega
  exact same ▸ hasChanged

end HasTotal

end TipRouter.Ledgers
