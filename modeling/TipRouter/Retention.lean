import Mathlib.Data.Finset.Card

/-! Keeping the best of what comes and goes. A store may drop its oldest items as long
as it keeps one: for every item that was ever there, one that is at least as new stays. -/
namespace TipRouter.Retention

variable {α : Type} {key : α → ℕ}

/-- `Iterator::max_by_key`, which takes the last one of equal items. -/
def maxByKey (key : α → ℕ) : List α → Option α
  | [] => none
  | first :: rest =>
    some (rest.foldl (fun best next => if key next < key best then best else next) first)

theorem foldl_max_mem (key : α → ℕ) (items : List α) (first : α) :
    items.foldl (fun best next => if key next < key best then best else next) first ∈
        first :: items ∧
      ∀ item ∈ first :: items, key item ≤ key
        (items.foldl (fun best next => if key next < key best then best else next) first) := by
  induction items generalizing first with
  | nil => simp
  | cons next rest ih =>
    rw [List.foldl_cons]
    by_cases smaller : key next < key first
    · rw [if_pos smaller]
      obtain ⟨member, greatest⟩ := ih first
      refine ⟨?_, ?_⟩
      · rcases List.mem_cons.mp member with same | inside
        · rw [same]
          exact List.mem_cons_self
        · exact List.mem_cons_of_mem _ (List.mem_cons_of_mem _ inside)
      · intro item listed
        have reached := greatest first List.mem_cons_self
        simp only [List.mem_cons] at listed
        rcases listed with rfl | rfl | listed
        · exact reached
        · exact smaller.le.trans reached
        · exact greatest item (List.mem_cons_of_mem _ listed)
    · rw [if_neg smaller]
      obtain ⟨member, greatest⟩ := ih next
      refine ⟨List.mem_cons_of_mem _ member, ?_⟩
      intro item listed
      rcases List.mem_cons.mp listed with rfl | listed
      · exact (not_lt.mp smaller).trans (greatest next List.mem_cons_self)
      · exact greatest item listed

/-- What is chosen is one of the items, and no other has a greater key. -/
theorem maxByKey_eq_some {items : List α} {best : α} (chosen : maxByKey key items = some best) :
    best ∈ items ∧ ∀ item ∈ items, key item ≤ key best := by
  cases items with
  | nil => cases chosen
  | cons first rest =>
    cases chosen
    exact foldl_max_mem key rest first

theorem exists_maxByKey (key : α → ℕ) {items : List α} {item : α} (member : item ∈ items) :
    ∃ best, maxByKey key items = some best ∧ best ∈ items ∧ key item ≤ key best := by
  cases items with
  | nil => cases member
  | cons first rest =>
    obtain ⟨inside, greatest⟩ := foldl_max_mem key rest first
    exact ⟨_, rfl, inside, greatest item member⟩

/-- In a list from the oldest to the newest, what is left after dropping the first ones
is at least as new as everything before. -/
theorem exists_newer_of_sorted {dropped kept : List α}
    (sorted : (dropped ++ kept).Pairwise (key · ≤ key ·)) (some : kept ≠ []) {item : α}
    (member : item ∈ dropped) : ∃ newer ∈ kept, key item ≤ key newer := by
  obtain ⟨newer, inside⟩ := List.exists_mem_of_ne_nil kept some
  exact ⟨newer, inside, (List.pairwise_append.mp sorted).2.2 item member newer inside⟩

end TipRouter.Retention
