import Mathlib.Data.List.Induction
import Mathlib.Data.List.Perm.Basic

/-! Runs of a fallible step function. A step that fails changes nothing, the
way a failed transaction is rolled back, so a history is the list of the steps
that succeeded. Every invariant of a history comes from one induction, stated
here once for any state, any instruction type and any error type. -/
namespace TipRouter.Runs

universe u

variable {ε α β σ ι : Type u}

/-- A sequence of two fallible computations succeeds exactly when both do. -/
theorem bind_eq_ok {first : Except ε α} {next : α → Except ε β} {result : β} :
    first >>= next = .ok result ↔ ∃ middle, first = .ok middle ∧ next middle = .ok result := by
  cases first with
  | error failure => simp [bind, Except.bind]
  | ok middle => simp [bind, Except.bind]

@[simp] theorem ok_bind {middle : α} {next : α → Except ε β} :
    (Except.ok middle : Except ε α) >>= next = next middle := rfl

@[simp] theorem error_bind {failure : ε} {next : α → Except ε β} :
    (Except.error failure : Except ε α) >>= next = .error failure := rfl

@[simp] theorem pure_eq_ok_iff {value result : α} :
    (pure value : Except ε α) = .ok result ↔ value = result := by
  simp [pure, Except.pure]

theorem map_eq_ok {first : Except ε α} {f : α → β} {result : β} :
    f <$> first = .ok result ↔ ∃ middle, first = .ok middle ∧ f middle = result := by
  cases first <;> simp [Functor.map, Except.map]

/-- A sequence fails where its first failing part does. -/
theorem bind_eq_error {first : Except ε α} {next : α → Except ε β} {failure : ε} :
    first >>= next = .error failure ↔
      first = .error failure ∨ ∃ middle, first = .ok middle ∧ next middle = .error failure := by
  cases first with
  | error failure => simp [bind, Except.bind]
  | ok middle => simp [bind, Except.bind]

theorem mapError_eq_error {ε' : Type u} {first : Except ε α} {f : ε → ε'} {failure : ε'} :
    first.mapError f = .error failure ↔ ∃ cause, first = .error cause ∧ f cause = failure := by
  cases first <;> simp [Except.mapError]

theorem mapError_eq_ok {ε' : Type u} {first : Except ε α} {f : ε → ε'} {result : α} :
    first.mapError f = .ok result ↔ first = .ok result := by
  cases first <;> simp [Except.mapError]

/-- Computations that succeed alike have the same results. -/
theorem toOption_eq_of_ok_iff {ε' : Type u} {first : Except ε α} {second : Except ε' α}
    (same : ∀ result, first = .ok result ↔ second = .ok result) :
    first.toOption = second.toOption := by
  cases first with
  | ok result =>
    rw [(same result).mp rfl]
    rfl
  | error failure =>
    cases second with
    | ok result => cases (same result).mpr rfl
    | error failure' => rfl

/-- What a successful computation returns, from a test that can be evaluated. -/
theorem exists_of_any {computation : Except ε α} {test : α → Bool}
    (passes : computation.toOption.any test = true) :
    ∃ result, computation = .ok result ∧ test result = true := by
  cases computation with
  | error failure => cases passes
  | ok result => exact ⟨result, rfl, passes⟩

/-- A traversal succeeds when it succeeds on every item. -/
theorem exists_mapM_ok {f : α → Except ε β} {items : List α}
    (succeeds : ∀ item ∈ items, ∃ result, f item = .ok result) :
    ∃ results, items.mapM f = .ok results := by
  induction items with
  | nil => exact ⟨[], rfl⟩
  | cons item rest ih =>
    obtain ⟨result, first⟩ := succeeds item List.mem_cons_self
    obtain ⟨results, remaining⟩ := ih fun other member =>
      succeeds other (List.mem_cons_of_mem _ member)
    refine ⟨result :: results, ?_⟩
    rw [List.mapM_cons, first, ok_bind, remaining]
    rfl

/-- A traversal relates each item to its result. -/
theorem forall₂_of_mapM {f : α → Except ε β} {items : List α} {results : List β}
    (mapped : items.mapM f = .ok results) :
    List.Forall₂ (fun item result => f item = .ok result) items results := by
  induction items generalizing results with
  | nil =>
    cases mapped
    exact .nil
  | cons item rest ih =>
    rw [List.mapM_cons, bind_eq_ok] at mapped
    obtain ⟨result, first, remaining⟩ := mapped
    obtain ⟨others, mapped', same⟩ := bind_eq_ok.mp remaining
    cases same
    exact .cons first (ih mapped')

theorem mapM_eq_ok_iff {f : α → Except ε β} {items : List α} {results : List β} :
    items.mapM f = .ok results ↔
      List.Forall₂ (fun item result => f item = .ok result) items results := by
  refine ⟨forall₂_of_mapM, fun related => ?_⟩
  induction related with
  | nil => rfl
  | cons first _ ih =>
    rw [List.mapM_cons, first, ok_bind, ih]
    rfl

theorem exists_left_of_forall₂ {related : α → β → Prop} {items : List α} {results : List β}
    (pairs : List.Forall₂ related items results) {result : β} (member : result ∈ results) :
    ∃ item ∈ items, related item result := by
  induction pairs with
  | nil => cases member
  | cons first _ ih =>
    rcases List.mem_cons.mp member with rfl | member
    · exact ⟨_, List.mem_cons_self, first⟩
    · obtain ⟨item, inside, isRelated⟩ := ih member
      exact ⟨item, List.mem_cons_of_mem _ inside, isRelated⟩

theorem exists_right_of_forall₂ {related : α → β → Prop} {items : List α} {results : List β}
    (pairs : List.Forall₂ related items results) {item : α} (member : item ∈ items) :
    ∃ result ∈ results, related item result :=
  exists_left_of_forall₂ pairs.flip member

/-- A traversal in another order succeeds as well, with the same results in
another order. -/
theorem mapM_perm {f : α → Except ε β} {items others : List α} {results : List β}
    (perm : items.Perm others) (mapped : items.mapM f = .ok results) :
    ∃ results', others.mapM f = .ok results' ∧ results.Perm results' := by
  have related := mapM_eq_ok_iff.mp mapped
  obtain ⟨results', related', perm'⟩ := List.perm_comp_forall₂ perm.symm related
  exact ⟨results', mapM_eq_ok_iff.mpr related', perm'.symm⟩

/-- Items keep their positions when earlier ones are dropped. -/
theorem drop_zipIdx (items : List α) (dropped start : ℕ) :
    (items.zipIdx start).drop dropped = (items.drop dropped).zipIdx (start + dropped) := by
  induction dropped generalizing items start with
  | zero => rfl
  | succ dropped ih =>
    cases items with
    | nil => rfl
    | cons item rest =>
      rw [List.zipIdx_cons, List.drop_succ_cons, List.drop_succ_cons, ih, Nat.add_right_comm,
        Nat.add_assoc]

/-- The instructions of a history, all of which succeed, in order. -/
def run (step : σ → ι → Except ε σ) (history : List ι) (start : σ) : Except ε σ :=
  history.foldlM step start

variable {step : σ → ι → Except ε σ} {start finish : σ} {history later : List ι}

@[simp] theorem run_nil : run step [] start = .ok start := rfl

@[simp] theorem run_cons {instruction : ι} :
    run step (instruction :: history) start = step start instruction >>= run step history := rfl

theorem run_append :
    run step (history ++ later) start = run step history start >>= run step later := by
  induction history generalizing start with
  | nil => rfl
  | cons instruction rest ih =>
    simp only [List.cons_append, run_cons]
    cases step start instruction with
    | error failure => rfl
    | ok middle => exact ih

theorem run_singleton {instruction : ι} : run step [instruction] start = step start instruction := by
  rw [run_cons]
  cases step start instruction <;> rfl

/-- What holds at the start and survives one more successful step holds, of the
history and the state together, after every history. -/
theorem run_induction {motive : List ι → σ → Prop} (initial : motive [] start)
    (advance : ∀ past middle instruction next, run step past start = .ok middle →
      motive past middle → step middle instruction = .ok next →
      motive (past ++ [instruction]) next)
    (ran : run step history start = .ok finish) : motive history finish := by
  induction history using List.reverseRecOn generalizing finish with
  | nil =>
    cases ran
    exact initial
  | append_singleton past instruction ih =>
    rw [run_append, bind_eq_ok] at ran
    obtain ⟨middle, before, last⟩ := ran
    rw [run_singleton] at last
    exact advance past middle instruction finish before (ih before) last

/-- The same for every prefix of a given history, whose next instruction is known. -/
theorem run_prefix_induction {motive : List ι → σ → Prop} (initial : motive [] start)
    (advance : ∀ past middle instruction rest next, history = past ++ instruction :: rest →
      run step past start = .ok middle → motive past middle → step middle instruction = .ok next →
      motive (past ++ [instruction]) next)
    {past rest : List ι} (split : history = past ++ rest) (ran : run step past start = .ok finish) :
    motive past finish := by
  refine run_induction
    (motive := fun past state => (∃ rest, history = past ++ rest) → motive past state)
    (fun _ => initial) ?_ ran ⟨rest, split⟩
  rintro past middle instruction next before holds stepped ⟨rest, split⟩
  rw [List.append_assoc, List.singleton_append] at split
  exact advance past middle instruction rest next split before (holds ⟨_, split⟩) stepped

/-- The same for the given history as a whole. -/
theorem run_split_induction {motive : List ι → σ → Prop} (initial : motive [] start)
    (advance : ∀ past middle instruction rest next, history = past ++ instruction :: rest →
      run step past start = .ok middle → motive past middle → step middle instruction = .ok next →
      motive (past ++ [instruction]) next)
    (ran : run step history start = .ok finish) : motive history finish :=
  run_prefix_induction initial advance (List.append_nil history).symm ran

/-- An invariant of single steps is an invariant of whole histories. -/
theorem run_invariant {motive : σ → Prop}
    (preserved : ∀ state instruction next, motive state →
      step state instruction = .ok next → motive next)
    (initial : motive start) (ran : run step history start = .ok finish) : motive finish :=
  run_induction (motive := fun _ state => motive state) initial
    (fun _ middle instruction next _ holds stepped => preserved middle instruction next holds stepped)
    ran

/-- A condition that the state and the instruction meet before every step of a
history, as far as the history runs. -/
def Along (step : σ → ι → Except ε σ) (condition : σ → ι → Prop) : List ι → σ → Prop
  | [], _ => True
  | instruction :: rest, state => condition state instruction ∧
      ∀ next, step state instruction = .ok next → Along step condition rest next

/-- An invariant of the steps that meet a condition is one of the histories that
meet it all along. -/
theorem run_invariant_along {motive : σ → Prop} {condition : σ → ι → Prop}
    (preserved : ∀ instruction ∈ history, ∀ state next, motive state →
      condition state instruction → step state instruction = .ok next → motive next)
    (initial : motive start) (along : Along step condition history start)
    (ran : run step history start = .ok finish) : motive finish := by
  induction history generalizing start with
  | nil =>
    cases ran
    exact initial
  | cons instruction rest ih =>
    obtain ⟨here, later⟩ := along
    obtain ⟨middle, stepped, remaining⟩ := bind_eq_ok.mp ran
    exact ih (fun other member => preserved other (List.mem_cons_of_mem _ member))
      (preserved instruction List.mem_cons_self start middle initial here stepped)
      (later middle stepped) remaining

/-- A fallible fold whose every step keeps a property keeps it to the end. -/
theorem foldlM_invariant {motive : σ → Prop}
    (preserved : ∀ item ∈ history, ∀ state next, motive state →
      step state item = .ok next → motive next)
    (initial : motive start) (ran : history.foldlM step start = .ok finish) :
    motive finish := by
  induction history generalizing start with
  | nil =>
    cases ran
    exact initial
  | cons item rest ih =>
    rw [List.foldlM_cons, bind_eq_ok] at ran
    obtain ⟨middle, stepped, remaining⟩ := ran
    exact ih (fun other member => preserved other (List.mem_cons_of_mem _ member))
      (preserved item List.mem_cons_self start middle initial stepped) remaining

end TipRouter.Runs
