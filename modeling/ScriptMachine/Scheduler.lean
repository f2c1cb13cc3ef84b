import ScriptMachine.Machine.Record

/-!
# Round-robin scheduling

Active scripts wait in a queue. In one tick each of them gets a slice of instructions in turn: the one
at the front runs its slice and then leaves with a report, or joins the queue again at the back.
-/

namespace ScriptMachine

/-- How a runner shares its time. -/
structure Config where
  /-- The instructions of a slice. -/
  perTick : Nat := 1000
  /-- The instructions that a script may run in all. -/
  budget : Option Nat := none
  deriving Repr, DecidableEq

/-- What is told of a script that has left the runner. -/
structure Report where
  outcome : Outcome
  steps : Nat
  symbols : SymbolTable
  deriving DecidableEq

/-- A submitted script. -/
structure Job where
  id : Nat
  machine : Machine

/-- What leaves the worker: the reports it sends, in order, and the journal. -/
structure Ledger where
  reports : List (Nat × Report) := []
  journal : Journal := #[]

namespace Job

def report (job : Job) (outcome : Outcome) : Report :=
  ⟨outcome, job.machine.steps, job.machine.symbols⟩

/-- Sends the report of a script that leaves. -/
def retire (job : Job) (outcome : Outcome) (ledger : Ledger) : Ledger :=
  { reports := ledger.reports ++ [(job.id, job.report outcome)]
    journal := ledger.journal.push (.retired job.id job.machine.steps outcome) }

end Job

namespace Config

/-- The instructions that a script may run in its next slice. -/
def slice (config : Config) (m : Machine) : Nat :=
  match config.budget with
  | some budget => min config.perTick (budget - m.steps)
  | none => config.perTick

/-- The script has used up its budget. -/
def isExhausted (config : Config) (m : Machine) : Bool :=
  match config.budget with
  | some budget => budget ≤ m.steps
  | none => false

/-- How a script has ended after its slice, if it has. -/
def outcome? (config : Config) (m : Machine) : Option Outcome :=
  match m.state with
  | .finished => some .finished
  | .faulted fault => some (.faulted fault)
  | .running => if config.isExhausted m then some .budgetExhausted else none

/-- Runs the slice of the script at the front of a queue. -/
def serve (config : Config) (job : Job) (rest : List Job) (ledger : Ledger) : List Job × Ledger :=
  let (machine, journal) := job.machine.record (config.slice job.machine) ledger.journal
  let job := { job with machine }
  let ledger := { ledger with journal }
  match config.outcome? machine with
  | some outcome => (rest, job.retire outcome ledger)
  | none => (rest ++ [job], ledger)

/-- Serves the front of the queue `n` times. -/
def rotate (config : Config) : Nat → List Job → Ledger → List Job × Ledger
  | 0, queue, ledger => (queue, ledger)
  | _ + 1, [], ledger => ([], ledger)
  | n + 1, job :: rest, ledger =>
    let (queue, ledger) := config.serve job rest ledger
    config.rotate n queue ledger

/-- Gives every script in the queue one slice. -/
def tick (config : Config) (queue : List Job) (ledger : Ledger) : List Job × Ledger :=
  config.rotate queue.length queue ledger

end Config

end ScriptMachine
