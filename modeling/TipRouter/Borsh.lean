import Mathlib.Data.Vector.Basic
import Mathlib.Logic.Equiv.Fin.Basic

/-! Formats of values as bytes, the way Borsh writes them: every value is written in one
way only, and what is written can be read off the front of any buffer. A format is a
writer with its reader and the two laws that say so, and every format below is put
together from smaller ones. -/
namespace TipRouter.Borsh

/-- How the values of a type are written and read. -/
structure Format (α : Type) where
  serialize : α → List UInt8
  deserialize : List UInt8 → Option (α × List UInt8)
  /-- What was written is read back, and nothing that follows it. -/
  deserialize_serialize : ∀ value rest, deserialize (serialize value ++ rest) = some (value, rest)
  /-- What is read is what is written for the value. -/
  eq_serialize : ∀ {buffer value rest}, deserialize buffer = some (value, rest) →
    buffer = serialize value ++ rest

namespace Format

variable {α β : Type}

/-! ## Reading -/

/-- Reads the arguments of a constructor. -/
def read (format : Format α) (make : α → β) (buffer : List UInt8) : Option (β × List UInt8) :=
  (format.deserialize buffer).map fun result => (make result.1, result.2)

theorem read_serialize (format : Format α) (make : α → β) (value : α) (rest : List UInt8) :
    format.read make (format.serialize value ++ rest) = some (make value, rest) := by
  rw [read, format.deserialize_serialize, Option.map_some]

theorem read_eq_some {format : Format α} {make : α → β} {buffer rest : List UInt8} {result : β}
    (found : format.read make buffer = some (result, rest)) :
    ∃ value, buffer = format.serialize value ++ rest ∧ make value = result := by
  obtain ⟨⟨value, remaining⟩, deserialized, same⟩ := Option.map_eq_some_iff.mp found
  cases same
  exact ⟨value, format.eq_serialize deserialized, rfl⟩

/-- `try_from_slice`, which refuses a buffer that it has not read to its end. -/
def tryFromSlice (format : Format α) (buffer : List UInt8) : Option α :=
  match format.deserialize buffer with
  | some (value, []) => some value
  | _ => none

theorem tryFromSlice_eq_some_iff (format : Format α) {buffer : List UInt8} {value : α} :
    format.tryFromSlice buffer = some value ↔ buffer = format.serialize value := by
  constructor
  · intro accepted
    unfold tryFromSlice at accepted
    split at accepted
    · rename_i deserialized
      cases accepted
      rw [format.eq_serialize deserialized, List.append_nil]
    · cases accepted
  · rintro rfl
    have back := format.deserialize_serialize value []
    rw [List.append_nil] at back
    rw [tryFromSlice, back]

/-! ## Putting formats together -/

/-- A type whose values are those of another. -/
def map (format : Format α) (equiv : α ≃ β) : Format β where
  serialize value := format.serialize (equiv.symm value)
  deserialize := format.read equiv
  deserialize_serialize value rest := by
    rw [read_serialize, Equiv.apply_symm_apply]
  eq_serialize found := by
    obtain ⟨value, same, rfl⟩ := read_eq_some found
    rw [same, Equiv.symm_apply_apply]

/-- Nothing. -/
def unit : Format Unit where
  serialize _ := []
  deserialize buffer := some ((), buffer)
  deserialize_serialize _ _ := rfl
  eq_serialize found := by
    cases found
    rfl

def u8 : Format UInt8 where
  serialize value := [value]
  deserialize
    | [] => none
    | value :: rest => some (value, rest)
  deserialize_serialize _ _ := rfl
  eq_serialize {buffer _ _} found := by
    cases buffer with
    | nil => cases found
    | cons value rest =>
      cases found
      rfl

/-- One value after the other. -/
def prod (first : Format α) (second : Format β) : Format (α × β) where
  serialize value := first.serialize value.1 ++ second.serialize value.2
  deserialize buffer := do
    let (left, buffer) ← first.deserialize buffer
    let (right, rest) ← second.deserialize buffer
    return ((left, right), rest)
  deserialize_serialize value rest := by
    rw [List.append_assoc, first.deserialize_serialize]
    refine Option.bind_eq_some_iff.mpr ⟨_, rfl, ?_⟩
    dsimp only
    rw [second.deserialize_serialize]
    rfl
  eq_serialize found := by
    obtain ⟨⟨left, buffer⟩, readLeft, found⟩ := Option.bind_eq_some_iff.mp found
    obtain ⟨⟨right, rest⟩, readRight, same⟩ := Option.bind_eq_some_iff.mp found
    cases same
    rw [first.eq_serialize readLeft, second.eq_serialize readRight, List.append_assoc]

/-- Behind a first value that was written the second is read from the rest. -/
theorem prod_deserialize (first : Format α) (second : Format β) (value : α) (rest : List UInt8) :
    (first.prod second).deserialize (first.serialize value ++ rest) =
      (second.deserialize rest).map fun result => ((value, result.1), result.2) := by
  change (first.deserialize (first.serialize value ++ rest) >>= fun left =>
    second.deserialize left.2 >>= fun right => some ((left.1, right.1), right.2)) = _
  rw [first.deserialize_serialize]
  change (second.deserialize rest >>= fun right => some ((value, right.1), right.2)) = _
  cases second.deserialize rest <;> rfl

/-- An unsigned integer of so many bytes, the lowest first. -/
def uint : (bytes : ℕ) → Format (Fin (256 ^ bytes))
  | 0 => unit.map (Equiv.ofUnique Unit (Fin 1))
  | bytes + 1 =>
    ((u8.map ⟨UInt8.toFin, UInt8.ofFin, fun _ => rfl, fun _ => rfl⟩).prod (uint bytes)).map
      ((Equiv.prodComm (Fin 256) (Fin (256 ^ bytes))).trans finProdFinEquiv)

/-- A fixed number of values. -/
def items (format : Format α) : (count : ℕ) → Format { values : List α // values.length = count }
  | 0 => unit.map ⟨fun _ => ⟨[], rfl⟩, fun _ => (), fun _ => rfl, fun values =>
      Subtype.ext (List.length_eq_zero_iff.mp values.2).symm⟩
  | count + 1 => (format.prod (items format count)).map
      ⟨fun values => ⟨values.1 :: values.2.1, congrArg (· + 1) values.2.2⟩,
        fun values => match values with
          | ⟨first :: rest, length⟩ => (first, ⟨rest, Nat.succ.inj length⟩),
        fun _ => rfl,
        fun values => match values with
          | ⟨_ :: _, _⟩ => rfl⟩

/-- An array, without its length. -/
def array (format : Format α) (count : ℕ) : Format (Vector α count) :=
  (format.items count).map
    ⟨fun values => ⟨values.1.toArray, values.2⟩, fun values => ⟨values.toList, values.length_toList⟩,
      fun _ => rfl, fun _ => rfl⟩

/-- The values that are written with their number before them, which has four bytes. -/
def Vec (α : Type) : Type := { values : List α // values.length < 256 ^ 4 }

def vec (format : Format α) : Format (Vec α) where
  serialize values :=
    (uint 4).serialize ⟨values.1.length, values.2⟩ ++
      (format.items values.1.length).serialize ⟨values.1, rfl⟩
  deserialize buffer := do
    let (count, buffer) ← (uint 4).deserialize buffer
    (format.items count.val).read (fun values => ⟨values.1, values.2.trans_lt count.2⟩) buffer
  deserialize_serialize values rest := by
    rw [List.append_assoc, (uint 4).deserialize_serialize]
    exact Option.bind_eq_some_iff.mpr ⟨_, rfl, (format.items _).read_serialize _ ⟨values.1, rfl⟩ rest⟩
  eq_serialize found := by
    obtain ⟨⟨⟨count, below⟩, buffer⟩, counted, found⟩ := Option.bind_eq_some_iff.mp found
    obtain ⟨⟨values, length⟩, written, rfl⟩ := read_eq_some found
    obtain rfl : values.length = count := length
    rw [(uint 4).eq_serialize counted, written, List.append_assoc]

/-- A value that may be missing, after a byte that says whether it is. -/
def option (format : Format α) : Format (Option α) where
  serialize
    | none => [0]
    | some value => 1 :: format.serialize value
  deserialize
    | 0 :: buffer => some (none, buffer)
    | 1 :: buffer => format.read some buffer
    | _ => none
  deserialize_serialize value rest := by
    cases value with
    | none => rfl
    | some value => exact format.read_serialize some value rest
  eq_serialize found := by
    split at found
    · cases found
      rfl
    · obtain ⟨value, rfl, rfl⟩ := read_eq_some found
      rfl
    · cases found

/-- One of so many cases without arguments. -/
def tag (count : ℕ) (fits : count ≤ 256) : Format (Fin count) where
  serialize value := [UInt8.ofNat value]
  deserialize
    | [] => none
    | byte :: rest =>
      if inside : byte.toNat < count then some (⟨byte.toNat, inside⟩, rest) else none
  deserialize_serialize value rest := by
    have same : (UInt8.ofNat value).toNat = value := UInt8.toNat_ofNat_of_lt' (value.2.trans_le fits)
    simp only [List.cons_append, List.nil_append, same, value.2, ↓reduceDIte]
  eq_serialize found := by
    split at found
    · cases found
    · split at found
      · cases found
        simp only [UInt8.ofNat_toNat, List.cons_append, List.nil_append]
      · cases found

end Format

end TipRouter.Borsh
