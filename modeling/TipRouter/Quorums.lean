import Mathlib.Algebra.BigOperators.Group.Finset.Basic
import Mathlib.Algebra.Order.BigOperators.Group.Finset
import Mathlib.Algebra.Order.Ring.Nat
import Mathlib.Tactic.Linarith

/-! Weighted quorums. Members carry weights, and voters are a quorum when they weigh
at least a given part of all members. A quorum is more than half, so two quorums
share a voter; members too heavy for the others to be a quorum without them have a
part in every quorum, and what they agree on is the only thing that can win. -/
namespace TipRouter.Quorums

universe u v
variable {ι : Type u}

/-- A part of the whole that is more than half of it. -/
structure Threshold where
  part : ℕ
  whole : ℕ
  part_le : part ≤ whole
  majority : whole < 2 * part

variable {threshold : Threshold} {weight : ι → ℕ} {members voters others honest : Finset ι}

def IsQuorum (threshold : Threshold) (weight : ι → ℕ) (members voters : Finset ι) : Prop :=
  threshold.part * ∑ member ∈ members, weight member ≤
    threshold.whole * ∑ voter ∈ voters, weight voter

/-- Without these voters there is no quorum. -/
def Blocks (threshold : Threshold) (weight : ι → ℕ) (members honest : Finset ι) : Prop :=
  (threshold.whole - threshold.part) * ∑ member ∈ members, weight member <
    threshold.whole * ∑ voter ∈ honest, weight voter

theorem IsQuorum.mono (quorum : IsQuorum threshold weight members voters)
    (more : voters ⊆ others) : IsQuorum threshold weight members others :=
  quorum.trans (Nat.mul_le_mul_left _ (Finset.sum_le_sum_of_subset more))

/-- Voters inside the members who have nobody in common weigh no more than all. -/
theorem sum_add_sum_le (inside : voters ⊆ members) (insideToo : others ⊆ members)
    (apart : Disjoint voters others) :
    ∑ voter ∈ voters, weight voter + ∑ other ∈ others, weight other ≤
      ∑ member ∈ members, weight member := by
  classical
  rw [← Finset.sum_union apart]
  exact Finset.sum_le_sum_of_subset (Finset.union_subset inside insideToo)

/-- A quorum cannot leave blocking members out. -/
theorem Blocks.meets (blocks : Blocks threshold weight members honest)
    (quorum : IsQuorum threshold weight members voters) (inside : voters ⊆ members)
    (insideToo : honest ⊆ members) : ∃ voter ∈ voters, voter ∈ honest := by
  by_contra none
  have apart : Disjoint voters honest := by
    rw [Finset.disjoint_left]
    intro voter voted trusted
    exact none ⟨voter, voted, trusted⟩
  have both : ∑ voter ∈ voters, weight voter + ∑ voter ∈ honest, weight voter ≤
      ∑ member ∈ members, weight member := sum_add_sum_le inside insideToo apart
  have together := Nat.mul_le_mul_left threshold.whole both
  have split : (threshold.whole - threshold.part) * ∑ member ∈ members, weight member +
      threshold.part * ∑ member ∈ members, weight member =
        threshold.whole * ∑ member ∈ members, weight member := by
    rw [← Nat.add_mul, Nat.sub_add_cancel threshold.part_le]
  unfold Blocks at blocks
  unfold IsQuorum at quorum
  rw [Nat.mul_add] at together
  omega

/-- What is left out of a quorum is too light to be one. -/
theorem IsQuorum.blocks (quorum : IsQuorum threshold weight members voters)
    (positive : 0 < ∑ member ∈ members, weight member) :
    Blocks threshold weight members voters := by
  have more := threshold.majority
  refine lt_of_lt_of_le (Nat.mul_lt_mul_of_pos_right ?_ positive) quorum
  omega

/-- Two quorums share a voter. -/
theorem IsQuorum.meets (quorum : IsQuorum threshold weight members voters)
    (other : IsQuorum threshold weight members others)
    (positive : 0 < ∑ member ∈ members, weight member) (inside : voters ⊆ members)
    (insideToo : others ⊆ members) : ∃ voter ∈ voters, voter ∈ others :=
  (other.blocks positive).meets quorum inside insideToo

/-! ## Choices -/

section Choices
variable {κ : Type v} [DecidableEq κ] {choice : ι → Option κ} {winner chosen : κ}

/-- The members whose choice it is. -/
def supporters (members : Finset ι) (choice : ι → Option κ) (chosen : κ) : Finset ι :=
  members.filter fun member => choice member = some chosen

theorem mem_supporters {member : ι} :
    member ∈ supporters members choice chosen ↔ member ∈ members ∧ choice member = some chosen :=
  Finset.mem_filter

theorem supporters_subset : supporters members choice chosen ⊆ members := Finset.filter_subset _ _

/-- Two things cannot both be the choice of a quorum. -/
theorem winner_unique (positive : 0 < ∑ member ∈ members, weight member)
    (won : IsQuorum threshold weight members (supporters members choice winner))
    (wonToo : IsQuorum threshold weight members (supporters members choice chosen)) :
    winner = chosen := by
  obtain ⟨voter, first, second⟩ := won.meets wonToo positive supporters_subset supporters_subset
  have voted := (mem_supporters.mp first).2
  rw [(mem_supporters.mp second).2] at voted
  exact (Option.some.inj voted).symm

/-- Where blocking members choose one thing or nothing, no other thing wins. -/
theorem Blocks.winner_eq (blocks : Blocks threshold weight members honest)
    (inside : honest ⊆ members)
    (loyal : ∀ member ∈ honest, ∀ other, choice member = some other → other = chosen)
    (won : IsQuorum threshold weight members (supporters members choice winner)) :
    winner = chosen := by
  obtain ⟨voter, voted, trusted⟩ := blocks.meets won supporters_subset inside
  exact loyal voter trusted winner (mem_supporters.mp voted).2

/-- What a quorum chooses has the support of a quorum, whatever the others choose. -/
theorem IsQuorum.supporters (quorum : IsQuorum threshold weight members honest)
    (inside : honest ⊆ members) (unanimous : ∀ member ∈ honest, choice member = some chosen) :
    IsQuorum threshold weight members (supporters members choice chosen) :=
  quorum.mono fun member trusted => mem_supporters.mpr ⟨inside trusted, unanimous member trusted⟩

end Choices

end TipRouter.Quorums
