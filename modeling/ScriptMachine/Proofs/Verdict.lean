import Mathlib.Logic.Function.Iterate
import ScriptMachine.Proofs.Control
import ScriptMachine.Proofs.Serve

/-!
# The report a script calls for

What a script does when it is stepped on its own, and the report that this calls for. Slices cut the
steps of a script into pieces and change nothing: a script that is served is where the same number of
single steps would have brought it (`OnTrack`), and when it leaves, its report is the one that its own
steps and the budget decide (`OnTrack.verdict`).
-/

namespace ScriptMachine

namespace Machine

variable {m v : Machine}

theorem iterate_of_isFinished (h : m.isFinished = true) (k : Nat) : step^[k] m = m :=
  Function.iterate_fixed (step_of_isFinished h) k

/-- Running is stepping: a script that has ended is not moved by the steps that are left. -/
theorem run_eq_iterate (n : Nat) (m : Machine) : m.run n = step^[n] m := by
  induction n generalizing m with
  | zero => rfl
  | succ n ih =>
    unfold run
    split
    next h => rw [iterate_of_isFinished h]
    next => rw [ih, Function.iterate_succ_apply]

theorem steps_step (h : m.isFinished = false) : m.step.steps = m.steps + 1 := by
  rcases m.step_cases with ⟨hnone, -⟩ | ⟨i, a, s, -, -, hstep⟩ | ⟨i, e, s, -, -, hstep⟩
  · rw [m.next?_eq_none_iff.1 hnone] at h
    cases h
  · rw [hstep]
    cases a <;> rfl
  · rw [hstep]
    rfl

theorem steps_iterate {k : Nat} (h : ∀ j < k, (step^[j] v).isFinished = false) :
    (step^[k] v).steps = v.steps + k := by
  induction k with
  | zero => rfl
  | succ k ih =>
    rw [Function.iterate_succ_apply', steps_step (h k (by omega)), ih fun j hj => h j (by omega)]
    omega

/-- The script ends after exactly this many steps. -/
def EndsAt (v : Machine) (k : Nat) : Prop :=
  (step^[k] v).isFinished = true ∧ ∀ j < k, (step^[j] v).isFinished = false

theorem EndsAt.unique {k k' : Nat} (h : v.EndsAt k) (h' : v.EndsAt k') : k = k' := by
  rcases Nat.lt_trichotomy k k' with hlt | heq | hlt
  · exact absurd h.1 (by rw [h'.2 k hlt]; simp)
  · exact heq
  · exact absurd h'.1 (by rw [h.2 k' hlt]; simp)

/-- After any number of steps, a script has ended before or is still running. -/
theorem iterate_cases (v : Machine) (n : Nat) :
    (∃ k ≤ n, v.EndsAt k ∧ step^[n] v = step^[k] v) ∨
      ∀ j ≤ n, (step^[j] v).isFinished = false := by
  induction n with
  | zero =>
    cases h : v.isFinished with
    | true => exact .inl ⟨0, Nat.le_refl 0, ⟨h, by simp⟩, rfl⟩
    | false =>
      refine .inr fun j hj => ?_
      rw [Nat.le_zero.1 hj]
      exact h
  | succ n ih =>
    rcases ih with ⟨k, hk, hends, heq⟩ | hrun
    · refine .inl ⟨k, by omega, hends, ?_⟩
      rw [Function.iterate_succ_apply', heq, step_of_isFinished hends.1]
    · cases h : (step^[n + 1] v).isFinished with
      | true => exact .inl ⟨n + 1, Nat.le_refl _, ⟨h, fun j hj => hrun j (by omega)⟩, rfl⟩
      | false =>
        refine .inr fun j hj => ?_
        rcases Nat.lt_or_ge n j with hlt | hle
        · rw [show j = n + 1 by omega]
          exact h
        · exact hrun j hle

theorem InControl.iterate {p : Program} (h : InControl p v) (k : Nat) :
    InControl p (Machine.step^[k] v) := by
  induction k with
  | zero => exact h
  | succ k ih =>
    rw [Function.iterate_succ_apply']
    exact ih.step

/-- How a script that has ended did so. -/
def ending (m : Machine) : Outcome :=
  match m.fault with
  | some fault => .faulted fault
  | none => .finished

/-- The report on a script that has ended. -/
def finalReport (m : Machine) : Report := ⟨m.ending, m.steps, m.symbols⟩

end Machine

open Machine

namespace Config

variable {config : Config} {v m : Machine}

/-- The report that a script calls for by its own steps: how it ended, if it does so within its budget,
and else that the budget is used up. -/
def Verdict (config : Config) (v : Machine) (report : Report) : Prop :=
  match config.budget with
  | none => ∃ k, v.EndsAt k ∧ report = (step^[k] v).finalReport
  | some budget =>
    (∃ k ≤ budget - v.steps, v.EndsAt k ∧ report = (step^[k] v).finalReport) ∨
      (∀ k ≤ budget - v.steps, (step^[k] v).isFinished = false) ∧
      (step^[budget - v.steps] v).state = .running ∧
      report = ⟨.budgetExhausted, max budget v.steps, (step^[budget - v.steps] v).symbols⟩

theorem Verdict.unique {report report' : Report} (h : config.Verdict v report)
    (h' : config.Verdict v report') : report = report' := by
  unfold Verdict at h h'
  cases hb : config.budget with
  | none =>
    rw [hb] at h h'
    obtain ⟨k, hends, rfl⟩ := h
    obtain ⟨k', hends', rfl⟩ := h'
    rw [hends.unique hends']
  | some budget =>
    rw [hb] at h h'
    rcases h with ⟨k, hk, hends, rfl⟩ | ⟨hrun, -, rfl⟩ <;>
      rcases h' with ⟨k', hk', hends', rfl⟩ | ⟨hrun', -, rfl⟩
    · rw [hends.unique hends']
    · exact absurd hends.1 (by rw [hrun' k hk]; simp)
    · exact absurd hends'.1 (by rw [hrun k' hk']; simp)
    · rfl

/-- A script that has been served so far: it is `k` of its own steps further, none of them past its end
or its budget. -/
def OnTrack (config : Config) (v m : Machine) : Prop :=
  ∃ k, m = step^[k] v ∧ (∀ j < k, (step^[j] v).isFinished = false) ∧
    ∀ budget, config.budget = some budget → k ≤ budget - v.steps

namespace OnTrack

theorem start (config : Config) (v : Machine) : config.OnTrack v v :=
  ⟨0, rfl, by simp, fun _ _ => Nat.zero_le _⟩

/-- The budget bounds the steps of a script that did not start beyond it. -/
theorem steps_le (h : config.OnTrack v m) {budget : Nat} (hb : config.budget = some budget) :
    m.steps ≤ max budget v.steps := by
  obtain ⟨k, rfl, hrun, hbudget⟩ := h
  have hk := hbudget budget hb
  rw [steps_iterate hrun]
  omega

/-- A slice keeps a script on its track: it stops at the end of the script or within the budget. -/
theorem served (h : config.OnTrack v m) : config.OnTrack v (config.served m) := by
  obtain ⟨k, rfl, hrun, hbudget⟩ := h
  have hserved : config.served (step^[k] v) = step^[config.slice (step^[k] v) + k] v := by
    unfold Config.served
    rw [run_eq_iterate, Function.iterate_add_apply]
  have hslice : ∀ budget, config.budget = some budget →
      config.slice (step^[k] v) + k ≤ budget - v.steps := by
    intro budget hb
    have hk := hbudget budget hb
    unfold slice
    rw [hb, steps_iterate hrun]
    dsimp only
    omega
  rw [hserved]
  rcases v.iterate_cases (config.slice (step^[k] v) + k) with ⟨k', hk', hends, heq⟩ | hall
  · exact ⟨k', heq, hends.2, fun budget hb => Nat.le_trans hk' (hslice budget hb)⟩
  · exact ⟨_, rfl, fun j hj => hall j (Nat.le_of_lt hj), hslice⟩

end OnTrack

theorem outcome?_of_isFinished (h : m.isFinished = true) : config.outcome? m = some m.ending := by
  unfold outcome? state ending
  cases m.fault with
  | none => simp [h]
  | some fault => rfl

theorem outcome?_of_running (h : m.state = .running) {outcome : Outcome}
    (houtcome : config.outcome? m = some outcome) :
    ∃ budget, config.budget = some budget ∧ budget ≤ m.steps ∧ outcome = .budgetExhausted := by
  unfold outcome? isExhausted at houtcome
  rw [h] at houtcome
  cases hb : config.budget with
  | none =>
    rw [hb] at houtcome
    cases houtcome
  | some budget =>
    rw [hb] at houtcome
    by_cases hle : budget ≤ m.steps
    · simp only [hle, decide_true, if_true, Option.some.injEq] at houtcome
      exact ⟨budget, rfl, hle, houtcome.symm⟩
    · simp [hle] at houtcome

/-- **A script leaves with the report that its own steps call for.** -/
theorem OnTrack.verdict {p : Program} (hv : InControl p v) (h : config.OnTrack v m)
    {outcome : Outcome} (houtcome : config.outcome? m = some outcome) :
    config.Verdict v ⟨outcome, m.steps, m.symbols⟩ := by
  obtain ⟨k, rfl, hrun, hbudget⟩ := h
  cases hfin : (step^[k] v).isFinished with
  | true =>
    rw [outcome?_of_isFinished hfin] at houtcome
    cases houtcome
    unfold Verdict
    split
    next => exact ⟨k, ⟨hfin, hrun⟩, rfl⟩
    next budget hb => exact .inl ⟨k, hbudget budget hb, ⟨hfin, hrun⟩, rfl⟩
  | false =>
    have hcontrol := hv.iterate k
    have hstate : (step^[k] v).state = .running :=
      hcontrol.state_running_iff.2 (hcontrol.isFinished_eq_false_iff.1 hfin)
    have hsteps := steps_iterate hrun
    obtain ⟨budget, hb, hle, rfl⟩ := outcome?_of_running hstate houtcome
    have hk := hbudget budget hb
    rw [hsteps] at hle
    -- the budget is used up and was not passed
    have heq : budget - v.steps = k := by omega
    have hmax : max budget v.steps = v.steps + k := by omega
    unfold Verdict
    rw [hsteps, hb]
    dsimp only
    rw [heq, hmax]
    refine .inr ⟨?_, hstate, rfl⟩
    intro j hj
    rcases Nat.lt_or_eq_of_le hj with hlt | rfl
    · exact hrun j hlt
    · exact hfin

end Config

end ScriptMachine
