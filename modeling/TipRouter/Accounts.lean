import TipRouter.Core
import TipRouter.Runs

/-! The life of an account at a program-derived address. An instruction creates
it with at most `MAX_REALLOC_BYTES`, further instructions grow it by as much
again until it has its full size, and only then is its discriminator written.
Closing gives it back to the system program. -/
namespace TipRouter
open Runs

/-- `MAX_REALLOC_BYTES`, what one instruction may add to an account. -/
def maxReallocBytes : ℕ := 10240

/-- `allocated` belongs to the program but has no discriminator yet. -/
inductive Account (α : Type) where
  | missing
  | allocated (dataLen : ℕ)
  | ready (data : α)
  deriving DecidableEq

/-- `get_new_size`. -/
def getNewSize (currentSize targetSize : ℕ) : Except InstructionError ℕ :=
  match checkedAdd 64 currentSize maxReallocBytes with
  | some grown => .ok (min grown targetSize)
  | none => .error .arithmeticOverflow

/-- How far a realloc instruction comes. -/
inductive Resized where
  | short (dataLen : ℕ)
  | fullSize
  | initialized
  deriving DecidableEq

namespace Account

variable {α : Type}

/-- `check_load`: the owner is checked before the discriminator. -/
def load : Account α → Except InstructionError α
  | .missing => .error .invalidAccountOwner
  | .allocated _ => .error .invalidAccountData
  | .ready data => .ok data

/-- `load_system_account`, which every instruction runs before it creates one. -/
def loadSystemAccount : Account α → Except InstructionError Unit
  | .missing => .ok ()
  | .allocated _ => .error .invalidAccountOwner
  | .ready _ => .error .invalidAccountOwner

def dataIsEmpty : Account α → Bool
  | .missing => true
  | .allocated dataLen => dataLen == 0
  | .ready _ => false

/-- The part every realloc instruction shares. The runtime lets a program resize
its own accounts only. -/
def resize (size : ℕ) : Account α → Except InstructionError Resized
  | .missing => .error .accountDataSizeChanged
  | .allocated dataLen =>
    if dataLen < size then do
      let newSize ← getNewSize dataLen size
      return if newSize < size then .short newSize else .fullSize
    else .ok .fullSize
  | .ready _ => .ok .initialized

@[simp] theorem load_eq_ok_iff {account : Account α} {data : α} :
    account.load = .ok data ↔ account = .ready data := by
  cases account <;> simp [load]

@[simp] theorem loadSystemAccount_eq_ok_iff {account : Account α} :
    account.loadSystemAccount = .ok () ↔ account = .missing := by
  cases account <;> simp [loadSystemAccount]

/-- A realloc instruction leaves an initialised account alone, or goes on with one that
an earlier instruction created and makes it larger or fills it. -/
theorem resize_eq_ok {size : ℕ} {account : Account α} {resized : Resized}
    (grown : account.resize size = .ok resized) :
    (∃ data, account = .ready data ∧ resized = .initialized) ∨
      (∃ dataLen newSize, account = .allocated dataLen ∧ resized = .short newSize) ∨
      ∃ dataLen, account = .allocated dataLen ∧ resized = .fullSize := by
  cases account with
  | missing => cases grown
  | ready data =>
    cases grown
    exact .inl ⟨data, rfl, rfl⟩
  | allocated dataLen =>
    refine .inr ?_
    rw [resize] at grown
    split at grown
    · obtain ⟨newSize, -, same⟩ := bind_eq_ok.mp grown
      cases same
      split
      · exact .inl ⟨dataLen, newSize, rfl, rfl⟩
      · exact .inr ⟨dataLen, rfl, rfl⟩
    · cases grown
      exact .inr ⟨dataLen, rfl, rfl⟩

/-- An account in another state than the one just written is another one. -/
theorem of_update_eq {ι : Type} [DecidableEq ι] {accounts : ι → Account α} {place other : ι}
    {written account : Account α} (found : Function.update accounts place written other = account)
    (different : written ≠ account) : accounts other = account := by
  by_cases here : other = place
  · rw [here, Function.update_self] at found
    exact absurd found different
  · rw [Function.update_of_ne here] at found
    exact found

/-- What holds of the accounts that are initialised, of the one just written as well. -/
theorem forall_ready_update {ι : Type} [DecidableEq ι] {accounts : ι → Account α} {place : ι}
    {written : Account α} {P : ι → α → Prop} (here : ∀ data, written = .ready data → P place data)
    (others : ∀ other ≠ place, ∀ data, accounts other = .ready data → P other data) (other : ι)
    (data : α) (ready : Function.update accounts place written other = .ready data) :
    P other data := by
  by_cases same : other = place
  · rw [same, Function.update_self] at ready
    rw [same]
    exact here data ready
  · rw [Function.update_of_ne same] at ready
    exact others other same data ready

end Account

end TipRouter
