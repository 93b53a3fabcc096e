import Mathlib.Data.Nat.Notation

/-! Programs of a client that works on a state it does not own. It reads the state and
changes it by transactions; a failure ends what it is doing, unless it takes note of the
failure and goes on. What has been changed by then stays changed. The rules say what holds
after a program, whether it returns or gives up, and that it does the one or the other. -/
namespace TipRouter.Clients

/-- How a program fails. Nobody takes note of `aborted`, a panic or a loop that does not end. -/
inductive Failure (ε : Type) where
  | gaveUp (error : ε)
  | aborted

/-- What a program returns, and the state it leaves. -/
def Client (σ ε α : Type) : Type := σ → Except (Failure ε) α × σ

variable {σ ε α β ι : Type}

namespace Client

instance : Monad (Client σ ε) where
  pure result := fun state => (.ok result, state)
  bind first next := fun state =>
    match first state with
    | (.ok result, later) => next result later
    | (.error failure, later) => (.error failure, later)

def get : Client σ ε σ := fun state => (.ok state, state)

def ofExcept (result : Except ε α) : Client σ ε α := fun state =>
  match result with
  | .ok value => (.ok value, state)
  | .error error => (.error (.gaveUp error), state)

def abort : Client σ ε α := fun state => (.error .aborted, state)

def modify (change : σ → σ) : Client σ ε Unit := fun state => (.ok (), change state)

/-- A program that works on a part of the state. -/
def onPart {τ : Type} (part : σ → τ) (put : τ → σ → σ) (program : Client τ ε α) : Client σ ε α :=
  fun state => ((program (part state)).1, put (program (part state)).2 state)

/-- Takes note of a failure and goes on. -/
def attempt (program : Client σ ε α) : Client σ ε (Option α) := fun state =>
  match program state with
  | (.ok result, later) => (.ok (some result), later)
  | (.error (.gaveUp _), later) => (.ok none, later)
  | (.error .aborted, later) => (.error .aborted, later)

/-- Goes on with the result, and ends without one. -/
def orSkip (program : Client σ ε α) (next : α → Client σ ε Unit) : Client σ ε Unit := do
  match ← attempt program with
  | some result => next result
  | none => pure ()

/-- Takes note of a failure and nothing more. -/
def logged (program : Client σ ε Unit) : Client σ ε Unit :=
  orSkip program pure

def forEach (body : ι → Client σ ε Unit) : List ι → Client σ ε Unit
  | [] => pure ()
  | item :: rest => do
    body item
    forEach body rest

/-- A loop that goes on while its body says so, for as long as there is fuel. -/
def repeatWhile (body : Client σ ε Bool) : ℕ → Client σ ε Unit
  | 0 => abort
  | fuel + 1 => do
    if ← body then repeatWhile body fuel else pure ()

theorem forEach_append (body : ι → Client σ ε Unit) (items others : List ι) :
    forEach body (items ++ others) = (forEach body items >>= fun _ => forEach body others) := by
  induction items with
  | nil => rfl
  | cons item rest ih =>
    rw [List.cons_append, forEach, ih, forEach]
    funext state
    simp only [bind]
    rcases body item state with ⟨failure | result, later⟩ <;> rfl

end Client

open Client

/-- What is to hold where a program returns and where it gives up; it may not be aborted. -/
def Outcome (post : α → σ → Prop) (failed : σ → Prop) : Except (Failure ε) α × σ → Prop
  | (.ok result, later) => post result later
  | (.error (.gaveUp _), later) => failed later
  | (.error .aborted, _) => False

/-- Started where `pre` holds the program ends, with `post` or by giving up with `failed`. -/
def Triple (pre : σ → Prop) (program : Client σ ε α) (post : α → σ → Prop) (failed : σ → Prop) :
    Prop :=
  ∀ state, pre state → Outcome post failed (program state)

variable {pre failed holds : σ → Prop} {program : Client σ ε α} {post : α → σ → Prop}

theorem Outcome.mono {outcome : Except (Failure ε) α × σ} {post' : α → σ → Prop}
    {failed' : σ → Prop} (reached : Outcome post failed outcome)
    (returns : ∀ result state, post result state → post' result state)
    (fails : ∀ state, failed state → failed' state) : Outcome post' failed' outcome := by
  obtain ⟨result | failure, later⟩ := outcome
  · cases result with
    | gaveUp error => exact fails later reached
    | aborted => exact reached
  · exact returns failure later reached

theorem Outcome.of_ok {outcome : Except (Failure ε) α × σ} {result : α}
    (reached : Outcome post failed outcome) (ok : outcome.1 = .ok result) :
    post result outcome.2 := by
  obtain ⟨_, later⟩ := outcome
  cases ok
  exact reached

theorem Outcome.ends {outcome : Except (Failure ε) α × σ}
    (reached : Outcome (fun _ => holds) holds outcome) :
    outcome.1 ≠ .error .aborted ∧ holds outcome.2 := by
  obtain ⟨failure | result, later⟩ := outcome
  · cases failure with
    | gaveUp error => exact ⟨(by rintro ⟨⟩), reached⟩
    | aborted => exact reached.elim
  · exact ⟨(by rintro ⟨⟩), reached⟩

namespace Triple

theorem starting {pre' : σ → Prop} (triple : Triple pre program post failed)
    (starts : ∀ state, pre' state → pre state) : Triple pre' program post failed :=
  fun state start => triple state (starts state start)

theorem ending {failed' : σ → Prop} {post' : α → σ → Prop} (triple : Triple pre program post failed)
    (returns : ∀ result state, post result state → post' result state)
    (fails : ∀ state, failed state → failed' state) : Triple pre program post' failed' :=
  fun state start => (triple state start).mono returns fails

theorem pure {result : α} (returns : ∀ state, pre state → post result state) :
    Triple pre (pure result : Client σ ε α) post failed := returns

theorem bind {next : α → Client σ ε β} {final : β → σ → Prop}
    (first : Triple pre program post failed)
    (rest : ∀ result, Triple (post result) (next result) final failed) :
    Triple pre (program >>= next) final failed := by
  intro state start
  have middle := first state start
  change Outcome final failed (match program state with
    | (.ok result, later) => next result later
    | (.error failure, later) => (.error failure, later))
  generalize program state = outcome at middle ⊢
  obtain ⟨failure | result, later⟩ := outcome
  · cases failure with
    | gaveUp error => exact middle
    | aborted => exact middle
  · exact rest result later middle

/-- What is read is the state. -/
theorem get_bind {next : σ → Client σ ε β} {final : β → σ → Prop}
    (rest : ∀ state, pre state → Outcome final failed (next state state)) :
    Triple pre (get >>= next) final failed := rest

theorem ofExcept {result : Except ε α} (returns : ∀ value, result = .ok value →
    ∀ state, pre state → post value state) (fails : ∀ state, pre state → failed state) :
    Triple pre (ofExcept result) post failed := by
  intro state start
  unfold Client.ofExcept
  cases result with
  | error error => exact fails state start
  | ok value => exact returns value rfl state start

theorem modify {change : σ → σ} {final : σ → Prop}
    (changes : ∀ state, pre state → final (change state)) :
    Triple pre (modify change : Client σ ε Unit) (fun _ => final) failed := changes

theorem onPart {τ : Type} {part : σ → τ} {put : τ → σ → σ} {program : Client τ ε α}
    (reaches : ∀ state, pre state →
      Outcome (fun result inner => post result (put inner state))
        (fun inner => failed (put inner state)) (program (part state))) :
    Triple pre (onPart part put program) post failed := by
  intro state start
  have reached := reaches state start
  unfold Client.onPart
  generalize program (part state) = outcome at reached ⊢
  obtain ⟨failure | result, later⟩ := outcome
  · cases failure with
    | gaveUp error => exact reached
    | aborted => exact reached
  · exact reached

/-- A failure taken note of is a result like others. -/
theorem attempt {noted : Option α → σ → Prop}
    (triple : Triple pre program (fun result => noted (some result)) (noted none)) :
    Triple pre (attempt program) noted failed := by
  intro state start
  have reached := triple state start
  unfold Client.attempt
  generalize program state = outcome at reached ⊢
  obtain ⟨failure | result, later⟩ := outcome
  · cases failure with
    | gaveUp error => exact reached
    | aborted => exact reached
  · exact reached

/-- Skipped or done to its end. -/
theorem orSkip {next : α → Client σ ε Unit} {done : σ → Prop} (first : Triple pre program post done)
    (rest : ∀ result, Triple (post result) (next result) (fun _ => done) failed) :
    Triple pre (orSkip program next) (fun _ => done) failed := by
  have noted : Triple pre (Client.attempt program) (fun result state =>
      result.elim (done state) fun value => post value state) failed := attempt first
  refine noted.bind fun result => ?_
  cases result with
  | none => exact pure fun _ here => here
  | some value => exact rest value

theorem logged {program : Client σ ε Unit} {done : σ → Prop}
    (triple : Triple pre program (fun _ => done) done) :
    Triple pre (logged program) (fun _ => done) failed :=
  triple.orSkip fun _ => pure fun _ here => here

theorem forEach_append {body : ι → Client σ ε Unit} {items others : List ι} {middle : σ → Prop}
    {final : Unit → σ → Prop} (first : Triple pre (forEach body items) (fun _ => middle) failed)
    (rest : Triple middle (forEach body others) final failed) :
    Triple pre (forEach body (items ++ others)) final failed := by
  rw [Client.forEach_append]
  exact first.bind fun _ => rest

/-- `holds` speaks of the items that are done. -/
theorem forEach {body : ι → Client σ ε Unit} {holds : List ι → σ → Prop} {items : List ι}
    (each : ∀ done, ∀ item ∈ items,
      Triple (holds done) (body item) (fun _ => holds (done ++ [item])) failed) (done : List ι) :
    Triple (holds done) (forEach body items) (fun _ => holds (done ++ items)) failed := by
  induction items generalizing done with
  | nil =>
    rw [List.append_nil]
    exact pure fun _ here => here
  | cons item rest ih =>
    refine (each done item List.mem_cons_self).bind fun _ => ?_
    have remaining := ih (fun done other member => each done other (List.mem_cons_of_mem _ member))
      (done ++ [item])
    rwa [List.append_assoc, List.singleton_append] at remaining

/-- A loop ends if whenever it goes on there is less left to do, and the fuel was enough. -/
theorem repeatWhile {body : Client σ ε Bool} {left : σ → ℕ} {fuel : ℕ}
    (each : ∀ bound, Triple (fun state => holds state ∧ left state ≤ bound) body
      (fun again state => holds state ∧ (again = true → left state < bound)) failed) :
    Triple (fun state => holds state ∧ left state < fuel) (repeatWhile body fuel)
      (fun _ => holds) failed := by
  induction fuel with
  | zero =>
    intro state start
    cases start.2
  | succ fuel ih =>
    refine bind ((each fuel).starting ?_) fun again => ?_
    · rintro state ⟨here, less⟩
      exact ⟨here, Nat.lt_succ_iff.mp less⟩
    · cases again with
      | false => exact pure fun _ here => here.1
      | true => exact ih.starting fun _ here => ⟨here.1, here.2 rfl⟩

/-- A program that cannot give up returns. -/
theorem returns {state : σ} (triple : Triple pre program post fun _ => False) (start : pre state) :
    ∃ result later, program state = (.ok result, later) ∧ post result later := by
  have reached := triple state start
  generalize program state = outcome at reached ⊢
  obtain ⟨failure | result, later⟩ := outcome
  · cases failure with
    | gaveUp error => exact reached.elim
    | aborted => exact reached.elim
  · exact ⟨result, later, rfl, reached⟩

end Triple

/-- What a program keeps, also where it gives up. -/
def Keeps (holds : σ → Prop) (program : Client σ ε α) : Prop :=
  Triple holds program (fun _ => holds) holds

namespace Keeps

theorem pure (result : α) : Keeps holds (pure result : Client σ ε α) :=
  Triple.pure fun _ here => here

theorem bind {next : α → Client σ ε β} (first : Keeps holds program)
    (rest : ∀ result, Keeps holds (next result)) : Keeps holds (program >>= next) :=
  Triple.bind first rest

/-- More is kept on the way. -/
theorem within (inner : σ → Prop) (starts : ∀ state, pre state → inner state)
    (ends : ∀ state, inner state → holds state) (keeps : Keeps inner program) :
    Triple pre program (fun _ => holds) holds :=
  (keeps.starting starts).ending (fun _ => ends) ends

theorem ofExcept (result : Except ε α) : Keeps holds (ofExcept result) :=
  Triple.ofExcept (fun _ _ _ here => here) fun _ here => here

theorem orSkip {next : α → Client σ ε Unit} (first : Keeps holds program)
    (rest : ∀ result, Keeps holds (next result)) : Keeps holds (orSkip program next) :=
  Triple.orSkip first rest

theorem forEach {body : ι → Client σ ε Unit} {items : List ι}
    (each : ∀ item ∈ items, Keeps holds (body item)) : Keeps holds (forEach body items) :=
  @Triple.forEach σ ε ι holds body (fun _ => holds) items (fun _ => each) []

end Keeps

/-- What a program does not touch, however it ends. -/
def Leaves {τ : Type} (view : σ → τ) (program : Client σ ε α) : Prop :=
  ∀ state, view (program state).2 = view state

namespace Leaves

variable {τ : Type} {view : σ → τ}

theorem bind {next : α → Client σ ε β} (first : Leaves view program)
    (rest : ∀ result, Leaves view (next result)) : Leaves view (program >>= next) := by
  intro state
  have middle := first state
  change view (match program state with
    | (.ok result, later) => next result later
    | (.error failure, later) => (.error failure, later)).2 = view state
  generalize program state = outcome at middle ⊢
  obtain ⟨failure | result, later⟩ := outcome
  · exact middle
  · exact (rest result later).trans middle

theorem get_bind {next : σ → Client σ ε β} (rest : ∀ state, Leaves view (next state)) :
    Leaves view (get >>= next) := fun state => rest state state

theorem ofExcept (result : Except ε α) : Leaves view (ofExcept result) := by
  intro state
  cases result <;> rfl

end Leaves

end TipRouter.Clients
