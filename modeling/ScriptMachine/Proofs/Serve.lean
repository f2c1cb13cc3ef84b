import ScriptMachine.Scheduler

/-!
# What one slice does

A script that was served has run its slice, and the journal has the notices of that run. Either it
leaves with the report of how it ended, or it goes to the back of the queue and nothing is reported.
-/

namespace ScriptMachine

namespace Machine

/-- What a run notices does not depend on what was noticed before. -/
theorem record_snd (n : Nat) (m : Machine) (journal : Journal) :
    (m.record n journal).2 = journal ++ (m.record n #[]).2 := by
  induction n generalizing m journal with
  | zero => simp [record]
  | succ n ih =>
    by_cases h : m.isFinished = true
    · simp [record, h]
    · simp only [record, h, Bool.false_eq_true, if_false]
      rw [ih m.turn.machine (journal ++ m.notices m.turn),
        ih m.turn.machine (#[] ++ m.notices m.turn)]
      apply Array.toList_inj.1
      simp

end Machine

namespace ExecState

/-- How a run within a budget is reported. -/
def outcome : ExecState → Outcome
  | running => .budgetExhausted
  | finished => .finished
  | faulted fault => .faulted fault

variable {s t : ExecState}

theorem outcome_eq_iff : s.outcome = t.outcome ↔ s = t := by
  cases s <;> cases t <;> simp [outcome]

theorem outcome_ne_abandoned (s : ExecState) : s.outcome ≠ .abandoned := by
  cases s <;> simp [outcome]

end ExecState

namespace Config

open Machine

/-- The machine of a script after its next slice. -/
def served (config : Config) (m : Machine) : Machine := m.run (config.slice m)

/-- What a slice does, with the journal that it leaves. -/
theorem serve_eq (config : Config) (job : Job) (rest : List Job) (ledger : Ledger) :
    config.serve job rest ledger =
      match config.outcome? (config.served job.machine) with
      | some outcome =>
        (rest, Job.retire ⟨job.id, config.served job.machine⟩ outcome
          ⟨ledger.reports, (job.machine.record (config.slice job.machine) ledger.journal).2⟩)
      | none =>
        (rest ++ [⟨job.id, config.served job.machine⟩],
          ⟨ledger.reports, (job.machine.record (config.slice job.machine) ledger.journal).2⟩) := by
  have hserved : (job.machine.record (config.slice job.machine) ledger.journal).1 =
      config.served job.machine :=
    record_fst _ _ _
  cases houtcome : config.outcome? (config.served job.machine) with
  | some outcome => simp only [serve, hserved, houtcome]
  | none => simp only [serve, hserved, houtcome]

/-- **A slice retires its script or keeps it.** -/
theorem serve_cases (config : Config) (job : Job) (rest : List Job) (ledger : Ledger) :
    (∃ outcome, config.outcome? (config.served job.machine) = some outcome ∧
      (config.serve job rest ledger).1 = rest ∧
      (config.serve job rest ledger).2.reports =
        ledger.reports ++ [(job.id, Job.report ⟨job.id, config.served job.machine⟩ outcome)]) ∨
    (config.outcome? (config.served job.machine) = none ∧
      (config.serve job rest ledger).1 = rest ++ [⟨job.id, config.served job.machine⟩] ∧
      (config.serve job rest ledger).2.reports = ledger.reports) := by
  rw [serve_eq]
  cases config.outcome? (config.served job.machine) with
  | some outcome => exact .inl ⟨outcome, rfl, rfl, rfl⟩
  | none => exact .inr ⟨rfl, rfl, rfl⟩

end Config

end ScriptMachine
