import Mathlib.Data.List.Induction
import Mathlib.Data.List.Basic

/-! Hash trees built level by level. Neighbours are paired, and the last entry
of an odd level is paired with itself, until one entry is left. With a
symmetric combination the siblings along the way up rebuild the root, and for a
hash with distinguishable inputs nothing else does, short of a collision. -/
namespace TipRouter.HashTree

universe u v w

variable {α : Type u} {β : Type v}

/-! ## Levels -/

/-- Pair neighbours, the last one of an odd list with itself. -/
def pairUp (f : α → α → β) : List α → List β
  | [] => []
  | [last] => [f last last]
  | left :: right :: rest => f left right :: pairUp f rest

@[simp] theorem length_pairUp (f : α → α → β) (level : List α) :
    (pairUp f level).length = (level.length + 1) / 2 := by
  induction level using pairUp.induct with
  | case1 => simp [pairUp]
  | case2 last => simp [pairUp]
  | case3 left right rest ih =>
    simp only [pairUp, List.length_cons, ih]
    omega

theorem getElem?_pairUp (f : α → α → β) (level : List α) (i : ℕ) :
    (pairUp f level)[i]? = level[2 * i]?.map fun left => f left (level[2 * i + 1]?.getD left) := by
  induction level using pairUp.induct generalizing i with
  | case1 => simp [pairUp]
  | case2 last => cases i <;> simp [pairUp, Nat.mul_add]
  | case3 left right rest ih =>
    cases i with
    | zero => rfl
    | succ i => simp only [pairUp, List.getElem?_cons_succ, ih, Nat.mul_add, Nat.mul_one]

section Levels
variable (combine : α → α → α)

/-- All levels, from the leaves to the root. -/
def levels (level : List α) : List (List α) :=
  if level.length ≤ 1 then [level] else level :: levels (pairUp combine level)
  termination_by level.length
  decreasing_by
    rw [length_pairUp]
    omega

/-- The one entry of the last level. -/
def root (level : List α) : Option α :=
  if level.length ≤ 1 then level.head? else root (pairUp combine level)
  termination_by level.length
  decreasing_by
    rw [length_pairUp]
    omega

/-- The entry an entry is paired with. -/
def sibling (level : List α) (i : ℕ) : Option α :=
  if i % 2 = 0 then level[i + 1]?.or level[i]? else level[i - 1]?

/-- The siblings on the way from an entry up to the root. -/
def path (level : List α) (i : ℕ) : Option (List α) :=
  if level.length ≤ 1 then level[i]?.map fun _ => []
  else (sibling level i).bind fun next =>
    (path (pairUp combine level) (i / 2)).map fun rest => next :: rest
  termination_by level.length
  decreasing_by
    rw [length_pairUp]
    omega

variable {combine} {level : List α} {i : ℕ} {own : α}

theorem levels_of_le (short : level.length ≤ 1) : levels combine level = [level] := by
  rw [levels, if_pos short]

theorem levels_of_lt (long : 1 < level.length) :
    levels combine level = level :: levels combine (pairUp combine level) := by
  rw [levels, if_neg (by omega)]

theorem root_of_le (short : level.length ≤ 1) : root combine level = level.head? := by
  rw [root, if_pos short]

theorem root_of_lt (long : 1 < level.length) :
    root combine level = root combine (pairUp combine level) := by
  rw [root, if_neg (by omega)]

theorem path_of_le (short : level.length ≤ 1) :
    path combine level i = level[i]?.map fun _ => [] := by
  rw [path, if_pos short]

theorem path_of_lt (long : 1 < level.length) :
    path combine level i = (sibling level i).bind fun next =>
      (path combine (pairUp combine level) (i / 2)).map fun rest => next :: rest := by
  rw [path, if_neg (by omega)]

/-- What holds of every level of at most one entry, and of a longer level once
it holds of the next one, holds of every level. -/
theorem level_induction (combine : α → α → α) {motive : List α → Prop}
    (short : ∀ level, level.length ≤ 1 → motive level)
    (long : ∀ level, 1 < level.length → motive (pairUp combine level) → motive level)
    (level : List α) : motive level := by
  by_cases single : level.length ≤ 1
  · exact short level single
  · exact long level (by omega) (level_induction combine short long (pairUp combine level))
  termination_by level.length
  decreasing_by
    rw [length_pairUp]
    omega

theorem root_isSome (combine : α → α → α) (level : List α) (occupied : level ≠ []) :
    ∃ top, root combine level = some top := by
  induction level using level_induction combine with
  | short level single =>
    obtain ⟨top, rest, rfl⟩ := List.exists_cons_of_ne_nil occupied
    exact ⟨top, root_of_le single⟩
  | long level several ih =>
    rw [root_of_lt several]
    refine ih fun empty => ?_
    have length := length_pairUp combine level
    rw [empty, List.length_nil] at length
    omega

/-- The root is the last entry of all levels in a row. -/
theorem getLast?_flatten_levels (level : List α) :
    (levels combine level).flatten.getLast? = root combine level := by
  induction level using level_induction combine with
  | short level single =>
    rw [levels_of_le single, root_of_le single]
    match level, single with
    | [], _ => rfl
    | [top], _ => rfl
  | long level several ih =>
    have occupied : pairUp combine level ≠ [] := fun empty => by
      have length := length_pairUp combine level
      rw [empty, List.length_nil] at length
      omega
    obtain ⟨top, isTop⟩ := root_isSome combine _ occupied
    rw [levels_of_lt several, root_of_lt several, List.flatten_cons, List.getLast?_append, ih, isTop]
    rfl

/-! ## The way up -/

/-- An entry combined with its sibling is the entry above. -/
theorem pairUp_sibling (comm : ∀ left right, combine left right = combine right left)
    (here : level[i]? = some own) :
    ∃ next, sibling level i = some next ∧
      (pairUp combine level)[i / 2]? = some (combine own next) := by
  have inside : i < level.length := (List.getElem?_eq_some_iff.mp here).1
  rw [getElem?_pairUp]
  unfold sibling
  rcases Nat.mod_two_eq_zero_or_one i with even | odd
  · have half : 2 * (i / 2) = i := by omega
    rw [if_pos even, half, here]
    cases beside : level[i + 1]? with
    | none => exact ⟨own, rfl, rfl⟩
    | some next => exact ⟨next, rfl, rfl⟩
  · have half : 2 * (i / 2) = i - 1 := by omega
    have back : i - 1 + 1 = i := by omega
    have before : level[i - 1]? = some level[i - 1] := List.getElem?_eq_getElem (by omega)
    rw [if_neg (by omega), half, back, here, before]
    exact ⟨level[i - 1], rfl, by rw [Option.map_some, Option.getD_some, comm]⟩

/-- Every entry has a path, and its siblings rebuild the root. -/
theorem exists_path (comm : ∀ left right, combine left right = combine right left)
    (here : level[i]? = some own) :
    ∃ siblings, path combine level i = some siblings ∧
      root combine level = some (siblings.foldl combine own) := by
  induction level using level_induction combine generalizing i own with
  | short level single =>
    have inside : i < level.length := (List.getElem?_eq_some_iff.mp here).1
    refine ⟨[], by rw [path_of_le single, here, Option.map_some], ?_⟩
    have first : i = 0 := by omega
    rw [root_of_le single, List.head?_eq_getElem?, ← first, here]
    rfl
  | long level several ih =>
    obtain ⟨next, beside, above⟩ := pairUp_sibling comm here
    obtain ⟨siblings, rest, rebuilt⟩ := ih above
    refine ⟨next :: siblings, ?_, ?_⟩
    · rw [path_of_lt several, beside, Option.bind_some, rest, Option.map_some]
    · rw [root_of_lt several, rebuilt, List.foldl_cons]

end Levels

/-! ## Forged paths -/

/-- A hash with its two kinds of inputs, which can be told apart and read back;
the order of the two digests of an inner input does not matter. -/
structure Hashing (Item : Type u) (Digest : Type v) (Bytes : Type w) where
  hash : Bytes → Digest
  leafInput : Item → Bytes
  innerInput : Digest → Digest → Bytes
  leafInput_injective : Function.Injective leafInput
  leafInput_ne_innerInput : ∀ item left right, leafInput item ≠ innerInput left right
  mem_of_innerInput_eq : ∀ {left right left' right'},
    innerInput left right = innerInput left' right' → left = left' ∨ left = right'

namespace Hashing
variable {Item : Type u} {Digest : Type v} {Bytes : Type w} (H : Hashing Item Digest Bytes)

def leaf (item : Item) : Digest := H.hash (H.leafInput item)

def combine (left right : Digest) : Digest := H.hash (H.innerInput left right)

/-- What is hashed above a level. -/
def innerInputs (level : List Digest) : List Bytes :=
  if level.length ≤ 1 then []
  else pairUp H.innerInput level ++ innerInputs (pairUp H.combine level)
  termination_by level.length
  decreasing_by
    rw [length_pairUp]
    omega

/-- Everything that is hashed to build the tree of some items. -/
def treeInputs (items : List Item) : List Bytes :=
  items.map H.leafInput ++ H.innerInputs (items.map H.leaf)

/-- Everything that is hashed to fold a path. -/
def pathInputs (start : Digest) : List Digest → List Bytes
  | [] => []
  | next :: rest => H.innerInput start next :: pathInputs (H.combine start next) rest

/-- Two different inputs, one from each list, with the same hash. -/
def Collision (left right : List Bytes) : Prop :=
  ∃ a ∈ left, ∃ b ∈ right, a ≠ b ∧ H.hash a = H.hash b

/-- A digest that was computed from the items, together with all its inputs. -/
inductive Covered (items : List Item) (inputs : List Bytes) : Digest → Prop
  | leaf {item : Item} (member : item ∈ items) (hashed : H.leafInput item ∈ inputs) :
      Covered items inputs (H.leaf item)
  | inner {left right : Digest} (coveredLeft : Covered items inputs left)
      (coveredRight : Covered items inputs right) (hashed : H.innerInput left right ∈ inputs) :
      Covered items inputs (H.combine left right)

variable {H} {items : List Item} {inputs : List Bytes} {start top : Digest}
variable {siblings : List Digest}

theorem Collision.mono {left right right' : List Bytes} (collision : H.Collision left right)
    (more : right ⊆ right') : H.Collision left right' := by
  obtain ⟨a, memberA, b, memberB, different, same⟩ := collision
  exact ⟨a, memberA, b, more memberB, different, same⟩

private theorem mem_pairUp_combine {level : List Digest} {entry : Digest}
    (member : entry ∈ pairUp H.combine level) :
    ∃ left ∈ level, ∃ right ∈ level, entry = H.combine left right ∧
      H.innerInput left right ∈ pairUp H.innerInput level := by
  induction level using pairUp.induct with
  | case1 => cases member
  | case2 last =>
    rw [pairUp, List.mem_singleton] at member
    exact ⟨last, by simp, last, by simp, member, by simp [pairUp]⟩
  | case3 left right rest ih =>
    rcases List.mem_cons.mp member with rfl | member
    · exact ⟨left, by simp, right, by simp, rfl, by simp [pairUp]⟩
    · obtain ⟨left', memberLeft, right', memberRight, same, hashed⟩ := ih member
      exact ⟨left', by simp [memberLeft], right', by simp [memberRight], same,
        by simp [pairUp, hashed]⟩

/-- Every level above covered entries is covered, the root in particular. -/
theorem covered_root_of_level {level : List Digest}
    (covered : ∀ entry ∈ level, H.Covered items inputs entry)
    (hashed : H.innerInputs level ⊆ inputs) (isTop : root H.combine level = some top) :
    H.Covered items inputs top := by
  induction level using level_induction H.combine with
  | short level single =>
    rw [root_of_le single] at isTop
    exact covered top (List.mem_of_mem_head? isTop)
  | long level several ih =>
    rw [root_of_lt several] at isTop
    rw [innerInputs, if_neg (by omega)] at hashed
    refine ih (fun entry member => ?_) (fun input inside => hashed (by simp [inside])) isTop
    obtain ⟨left, memberLeft, right, memberRight, rfl, paired⟩ := mem_pairUp_combine member
    exact .inner (covered left memberLeft) (covered right memberRight) (hashed (by simp [paired]))

theorem covered_root (isTop : root H.combine (items.map H.leaf) = some top) :
    H.Covered items (H.treeInputs items) top := by
  refine covered_root_of_level (fun entry member => ?_) (fun input inside => ?_) isTop
  · obtain ⟨item, inItems, rfl⟩ := List.mem_map.mp member
    exact .leaf inItems (List.mem_append_left _ (List.mem_map_of_mem inItems))
  · exact List.mem_append_right _ inside

/-- A path that ends in a covered digest starts in one, or it holds a collision. -/
theorem covered_of_path (ends : H.Covered items inputs (siblings.foldl H.combine start)) :
    H.Covered items inputs start ∨ H.Collision inputs (H.pathInputs start siblings) := by
  induction siblings generalizing start with
  | nil => exact .inl ends
  | cons next rest ih =>
    rw [List.foldl_cons] at ends
    rcases ih ends with covered | collision
    · generalize reached : H.combine start next = digest at covered
      cases covered with
      | @leaf item member hashed =>
        exact .inr ⟨_, hashed, _, List.mem_cons_self,
          H.leafInput_ne_innerInput item start next, reached.symm⟩
      | @inner left right coveredLeft coveredRight hashed =>
        by_cases same : H.innerInput start next = H.innerInput left right
        · rcases H.mem_of_innerInput_eq same with rfl | rfl
          · exact .inl coveredLeft
          · exact .inl coveredRight
        · exact .inr ⟨_, hashed, _, List.mem_cons_self, Ne.symm same, reached.symm⟩
    · exact .inr (collision.mono (List.subset_cons_self _ _))

/-- Whatever the siblings, an item whose path ends in the root is one of the
items, or the tree and the path hold a collision. -/
theorem mem_of_path {item : Item} (isTop : root H.combine (items.map H.leaf) = some top)
    (ends : siblings.foldl H.combine (H.leaf item) = top) :
    item ∈ items ∨ H.Collision (H.treeInputs items)
      (H.leafInput item :: H.pathInputs (H.leaf item) siblings) := by
  have covered := covered_root isTop
  rw [← ends] at covered
  rcases covered_of_path covered with covered | collision
  · generalize reached : H.leaf item = digest at covered
    cases covered with
    | @leaf item' member hashed =>
      by_cases same : H.leafInput item' = H.leafInput item
      · exact .inl (H.leafInput_injective same ▸ member)
      · exact .inr ⟨_, hashed, _, List.mem_cons_self, same, reached.symm⟩
    | @inner left right _ _ hashed =>
      exact .inr ⟨_, hashed, _, List.mem_cons_self,
        (H.leafInput_ne_innerInput item left right).symm, reached.symm⟩
  · exact .inr (collision.mono (List.subset_cons_self _ _))

end Hashing

end TipRouter.HashTree
