import ScriptMachine.Proofs.Verdict

/-!
# Runs in pieces

A host may step a script, run it for a while, look at it and run it again: what comes out depends on the
number of instructions alone, never on how they were divided. A run executes as many instructions as it
was allowed or as the script has left, whichever is less, and a script that has ended cannot be moved
any more.
-/

namespace ScriptMachine.Machine

/-- What a host does to a script to make it go on. -/
inductive Drive where
  | step
  | run (n : Nat)

def Drive.apply (m : Machine) : Drive → Machine
  | .step => m.step
  | .run n => m.run n

variable {m : Machine}

theorem run_run (m : Machine) (a b : Nat) : (m.run a).run b = m.run (a + b) := by
  rw [run_eq_iterate, run_eq_iterate, run_eq_iterate, ← Function.iterate_add_apply, Nat.add_comm]

/-! ## The number of instructions -/

theorem steps_run_of_endsAt {k : Nat} (h : m.EndsAt k) (n : Nat) :
    (m.run n).steps = m.steps + min n k := by
  rw [run_eq_iterate]
  rcases Nat.le_total n k with hle | hle
  · rw [steps_iterate fun j hj => h.2 j (by omega), Nat.min_eq_left hle]
  · -- the steps after the end do nothing
    have hrest : step^[n] m = step^[k] m := by
      rw [show n = n - k + k by omega, Function.iterate_add_apply, iterate_of_isFinished h.1]
    rw [hrest, steps_iterate h.2, Nat.min_eq_right hle]

/-- A run after which the script is not finished has executed all its instructions. -/
theorem steps_run_of_isFinished_eq_false {n : Nat} (h : (m.run n).isFinished = false) :
    (m.run n).steps = m.steps + n := by
  rw [run_eq_iterate] at h ⊢
  rcases m.iterate_cases n with ⟨k, -, hends, heq⟩ | hrun
  · rw [heq, hends.1] at h
    cases h
  · exact steps_iterate fun j hj => hrun j (Nat.le_of_lt hj)

theorem run_isFinished_eq_false (h : ∀ k, ¬ m.EndsAt k) (n : Nat) :
    (m.run n).isFinished = false := by
  rw [run_eq_iterate]
  rcases m.iterate_cases n with ⟨k, -, hends, -⟩ | hrun
  · exact absurd hends (h k)
  · exact hrun n (Nat.le_refl n)

/-! ## The end -/

theorem isFinished_of_state_ne {p : Program} (h : InControl p m) (hstate : m.state ≠ .running) :
    m.isFinished = true := by
  cases hfin : m.isFinished with
  | true => rfl
  | false => exact absurd (h.state_running_iff.2 (h.isFinished_eq_false_iff.1 hfin)) hstate

theorem foldl_drive_of_isFinished (h : m.isFinished = true) (drives : List Drive) :
    drives.foldl Drive.apply m = m := by
  induction drives with
  | nil => rfl
  | cons drive rest ih =>
    have hdrive : Drive.apply m drive = m := by
      cases drive with
      | step => exact step_of_isFinished h
      | run n => exact (run_eq_iterate n m).trans (iterate_of_isFinished h n)
    rw [List.foldl_cons, hdrive, ih]

/-- **Runs compose, and a script that has ended stays as it is.** From every reachable machine: two runs
in succession are one run of both lengths, and a run is as many single steps; it adds to the count of
instructions its own length or what is left of the script, whichever is less, so a script that is still
running has used up the whole run; and a script that is not running any more, however it ended, is not
changed by anything that a host does to it. -/
theorem runs_compose {p : Program} {functions : Option Registry} (h : Reachable p functions m) :
    (∀ a b, (m.run a).run b = m.run (a + b) ∧
      ((m.run a).run b).state = (m.run (a + b)).state) ∧
    (∀ n, m.run n = step^[n] m) ∧
    (∀ n k, m.EndsAt k → (m.run n).steps = m.steps + min n k) ∧
    (∀ n, (∀ k, ¬ m.EndsAt k) → (m.run n).steps = m.steps + n) ∧
    (∀ n, (m.run n).state = .running → (m.run n).steps = m.steps + n) ∧
    (m.state ≠ .running → ∀ drives : List Drive, drives.foldl Drive.apply m = m) := by
  refine ⟨?_, fun n => run_eq_iterate n m, fun n k hends => steps_run_of_endsAt hends n, ?_, ?_, ?_⟩
  · intro a b
    rw [run_run]
    exact ⟨rfl, rfl⟩
  · intro n hendless
    exact steps_run_of_isFinished_eq_false (run_isFinished_eq_false hendless n)
  · intro n hrunning
    have hcontrol := (Reachable.run n h).inControl
    have hunfinished := hcontrol.isFinished_eq_false_iff.2 (hcontrol.state_running_iff.1 hrunning)
    exact steps_run_of_isFinished_eq_false hunfinished
  · intro hstate drives
    exact foldl_drive_of_isFinished (isFinished_of_state_ne h.inControl hstate) drives

/-- A script that jumps over a loop to its end: it has two instructions left, so of a run of six in two
pieces it executes two. Afterwards nothing moves it. -/
theorem runs_compose_past_end :
    let p : Program := {
      instructions := [{ opcode := .nop }, .jump .always 3, .jump .always 1, { opcode := .halt }] }
    let m := (load p).step
    m.EndsAt 2 ∧ ((m.run 1).run 5).steps = 3 ∧ (m.run 6).state = .finished ∧
      [Drive.step, .run 9, .step].foldl Drive.apply (m.run 6) = m.run 6 := by
  intro p m
  have hends : m.EndsAt 2 := ⟨by decide +kernel, by decide +kernel⟩
  have hreach : Reachable p none m := .step .load
  obtain ⟨hsplit, -, hcount, -, -, -⟩ := runs_compose hreach
  have hfinished : (m.run 6).state = .finished := by decide +kernel
  have hrest := (runs_compose (.run 6 hreach)).2.2.2.2.2 (by rw [hfinished]; simp)
  refine ⟨hends, ?_, hfinished, hrest _⟩
  rw [(hsplit 1 5).1, hcount 6 2 hends]
  decide +kernel

end ScriptMachine.Machine

namespace ScriptMachine.Config

variable {config : Config} {m : Machine}

/-- A script that stays has used up a whole slice: one that the budget cuts short uses the budget up. -/
theorem steps_served_of_outcome?_eq_none (h : config.outcome? (config.served m) = none) :
    (config.served m).steps = m.steps + config.perTick ∧
      ∀ budget ∈ config.budget, (config.served m).steps < budget := by
  have hfin : (config.served m).isFinished = false := by
    by_contra hfin
    rw [Bool.not_eq_false] at hfin
    rw [outcome?_of_isFinished hfin] at h
    cases h
  have hsteps : (config.served m).steps = m.steps + config.slice m :=
    Machine.steps_run_of_isFinished_eq_false hfin
  have hbelow : ∀ budget ∈ config.budget, (config.served m).steps < budget := by
    intro budget hb
    by_contra hle
    have hexhausted : config.isExhausted (config.served m) = true := by
      simpa [isExhausted, Option.mem_def.1 hb] using hle
    unfold outcome? at h
    split at h
    · cases h
    · cases h
    · simp [hexhausted] at h
  refine ⟨?_, hbelow⟩
  unfold slice at hsteps
  split at hsteps
  next budget hb =>
    have hlt := hbelow budget hb
    omega
  next => exact hsteps

end ScriptMachine.Config
