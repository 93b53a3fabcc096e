import TipRouter.Runs

/-! A computation spread over several calls, each with a budget of its own. A call
goes on where the call before it stopped and either reaches the final state or
leaves less to do. Whatever the budgets are, the calls then end in the one final
state, after no more of them than there was to do. -/
namespace TipRouter.Runs

universe u

variable {ε σ β : Type u} {call : σ → β → Except ε σ} {pending : σ → Prop} {work : σ → ℕ}
variable {start final : σ} {bound : ℕ}

/-- Any call brings the state to the end, or to a pending one with less than
`bound` to do. -/
def Advances (call : σ → β → Except ε σ) (pending : σ → Prop) (work : σ → ℕ) (final state : σ)
    (bound : ℕ) : Prop :=
  ∀ budget, ∃ next, call state budget = .ok next ∧
    (next = final ∨ (pending next ∧ work next < bound))

/-- Pending states lead to `final`, where further calls change nothing. -/
structure Resumable (call : σ → β → Except ε σ) (pending : σ → Prop) (work : σ → ℕ) (final : σ) :
    Prop where
  resumes : ∀ state, pending state → Advances call pending work final state (work state)
  stays : ∀ budget, call final budget = .ok final

theorem Resumable.run_final (resumable : Resumable call pending work final) (budgets : List β) :
    run call budgets final = .ok final := by
  induction budgets with
  | nil => rfl
  | cons budget rest ih => rw [run_cons, resumable.stays, ok_bind, ih]

theorem Resumable.run_pending (resumable : Resumable call pending work final)
    (interrupted : pending start) (budgets : List β) :
    ∃ finish, run call budgets start = .ok finish ∧
      (finish = final ∨ (pending finish ∧ work finish + budgets.length ≤ work start)) := by
  induction budgets generalizing start with
  | nil => exact ⟨start, rfl, .inr ⟨interrupted, Nat.le_refl _⟩⟩
  | cons budget rest ih =>
    obtain ⟨next, called, rfl | ⟨stillPending, less⟩⟩ := resumable.resumes start interrupted budget
    · refine ⟨next, ?_, .inl rfl⟩
      rw [run_cons, called, ok_bind, resumable.run_final]
    · obtain ⟨finish, ran, outcome⟩ := ih stillPending
      refine ⟨finish, ?_, outcome.imp_right fun ⟨pendingFinish, left⟩ => ⟨pendingFinish, ?_⟩⟩
      · rw [run_cons, called, ok_bind, ran]
      · rw [List.length_cons]
        omega

/-- After at least one call the computation is done or pending, and in the second
case every call has done a part of the work. -/
theorem Resumable.run_advances (resumable : Resumable call pending work final)
    (advances : Advances call pending work final start bound) {budgets : List β}
    (some : budgets ≠ []) :
    ∃ finish, run call budgets start = .ok finish ∧
      (finish = final ∨ (pending finish ∧ work finish + budgets.length ≤ bound)) := by
  cases budgets with
  | nil => exact absurd rfl some
  | cons budget rest =>
    obtain ⟨next, called, rfl | ⟨interrupted, less⟩⟩ := advances budget
    · refine ⟨next, ?_, .inl rfl⟩
      rw [run_cons, called, ok_bind, resumable.run_final]
    · obtain ⟨finish, ran, outcome⟩ := resumable.run_pending interrupted rest
      refine ⟨finish, ?_, outcome.imp_right fun ⟨pendingFinish, left⟩ => ⟨pendingFinish, ?_⟩⟩
      · rw [run_cons, called, ok_bind, ran]
      · rw [List.length_cons]
        omega

/-- With as many calls as there was to do the computation has ended, and wherever it
has ended it is in the final state. That it has not ended shows in the state. -/
theorem Resumable.run_ends {active : σ → Bool} (resumable : Resumable call pending work final)
    (shows : ∀ state, pending state → active state = true)
    (unfinished : ∀ state, pending state → 0 < work state) (ended : active final = false)
    (advances : Advances call pending work final start bound) (idle : active start = false)
    (budgets : List β) :
    ∃ finish, run call budgets start = .ok finish ∧
      (bound ≤ budgets.length → active finish = false) ∧
      (budgets ≠ [] → active finish = false → finish = final) := by
  rcases eq_or_ne budgets [] with rfl | some
  · exact ⟨start, rfl, fun _ => idle, fun empty => absurd rfl empty⟩
  · obtain ⟨finish, ran, outcome⟩ := resumable.run_advances advances some
    refine ⟨finish, ran, fun enough => ?_, fun _ rested => ?_⟩
    · rcases outcome with rfl | ⟨interrupted, work⟩
      · exact ended
      · have left := unfinished finish interrupted
        omega
    · rcases outcome with same | ⟨interrupted, -⟩
      · exact same
      · cases (shows finish interrupted).symm.trans rested

end TipRouter.Runs
