import ScriptMachine.Machine.Step
import ScriptMachine.Notice

/-!
# Recorded execution

Running a machine while keeping the notices of its steps. The machine that results is the one that
`Machine.run` gives.
-/

namespace ScriptMachine.Machine

/-- The notices of a step from a machine. -/
def notices (m : Machine) (t : Turn) : List Notice :=
  match m.next? with
  | none => []
  | some i =>
    .executing m.pc i :: (t.call.map Notice.called).toList ++
      (t.machine.fault.map (Notice.faulted i)).toList

/-- Steps as `run` does and appends the notices of every step to a journal. -/
def record : Nat → Machine → Journal → Machine × Journal
  | 0, m, journal => (m, journal)
  | n + 1, m, journal =>
    if m.isFinished then (m, journal)
    else
      let t := m.turn
      record n t.machine (journal ++ m.notices t)

theorem record_fst (n : Nat) (m : Machine) (journal : Journal) :
    (m.record n journal).1 = m.run n := by
  induction n generalizing m journal with
  | zero => rfl
  | succ n ih =>
    simp only [record, run]
    split
    · rfl
    · exact ih _ _

end ScriptMachine.Machine
