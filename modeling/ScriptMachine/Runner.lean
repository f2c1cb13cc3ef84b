import ScriptMachine.Scheduler

/-!
# The runner

A host submits scripts to a worker over a channel of commands. Between ticks the worker takes commands
that have arrived, and it blocks only while it has no script. Told to shut down, it abandons the
scripts that it still has and returns.
-/

namespace ScriptMachine

inductive Command where
  | run (job : Job)
  | shutdown

namespace Command

def job? : Command → Option Job
  | run job => some job
  | shutdown => none

def isShutdown : Command → Bool
  | run _ => false
  | shutdown => true

end Command

inductive RunnerError where
  /-- The runner takes no scripts any more, or has no report to give. -/
  | stopped
  /-- A slice would hold no instruction. -/
  | emptySlice
  deriving Repr, DecidableEq

def RunnerError.message : RunnerError → String
  | stopped => "script runner has stopped"
  | emptySlice => "invalid runner config: instructions_per_tick must be at least 1"

/-- A runner: the host's side, the channel, and the worker's side. -/
structure Runner where
  config : Config
  /-- The host has not shut the runner down. -/
  accepting : Bool := true
  nextId : Nat := 0
  /-- Commands that were sent and not yet taken, oldest first. -/
  channel : List Command := []
  /-- The worker's queue of scripts. -/
  active : List Job := []
  /-- The worker has ended. -/
  returned : Bool := false
  ledger : Ledger := {}
  /-- The scripts whose report the host has taken. -/
  collected : List Nat := []

namespace Runner

/-- Starts a runner. A slice must hold at least one instruction. -/
def start (config : Config) (journal : Journal := #[]) : Except RunnerError Runner :=
  if config.perTick = 0 then .error .emptySlice
  else .ok { config, ledger := { journal := journal.push .started } }

/-- Sends a script to the worker. Scripts are numbered in the order in which they are accepted. -/
def submit (r : Runner) (m : Machine) : Except RunnerError (Runner × Nat) :=
  if r.accepting then
    .ok ({ r with nextId := r.nextId + 1, channel := r.channel ++ [.run ⟨r.nextId, m⟩] }, r.nextId)
  else .error .stopped

/-! ## The worker -/

/-- Reports every active script as abandoned and ends the worker. -/
def abandon (r : Runner) : Runner :=
  { r with
    active := []
    returned := true
    ledger := r.active.foldl (fun ledger job => job.retire .abandoned ledger) r.ledger }

/-- The worker takes `n` commands, or all there are, and gives its scripts a tick or shuts down. An idle
worker that takes none waits, or ends if no command can come any more. -/
def round (n : Nat) (r : Runner) : Runner :=
  let taken := r.channel.take n
  if r.returned then r
  else if r.active.isEmpty && taken.isEmpty then
    { r with returned := r.channel.isEmpty && !r.accepting }
  else
    let r :=
      { r with
        channel := r.channel.drop n
        active := r.active ++ taken.filterMap Command.job? }
    if taken.any Command.isShutdown then r.abandon
    else
      let (active, ledger) := r.config.tick r.active r.ledger
      { r with active, ledger }

/-- A round in which the worker takes every command. -/
def fullRound (r : Runner) : Runner := r.round r.channel.length

/-! ## The host -/

/-- Adds a notice to the journal. -/
def note (r : Runner) (notice : Notice) : Runner :=
  { r with ledger := { r.ledger with journal := r.ledger.journal.push notice } }

/-- Tells the worker to shut down, unless it was told before. -/
def close (r : Runner) : Runner :=
  if r.accepting then { r with accepting := false, channel := r.channel ++ [.shutdown] } else r

/-- Tells the worker to shut down and waits for its end. A second time this does nothing. -/
def shutdown (r : Runner) : Runner :=
  if r.accepting then r.close.fullRound.note .stopped else r

/-- Takes the report of a script if it has been sent and not been taken before. -/
def collect (r : Runner) (id : Nat) : Option (Report × Runner) :=
  if id ∈ r.collected then none
  else (r.ledger.reports.lookup id).map fun report =>
    (report, { r with collected := id :: r.collected })

/-- Lets the worker go on until the report of a script is there, for at most `n` rounds. -/
def await (id : Nat) : Nat → Runner → Runner
  | 0, r => r
  | n + 1, r =>
    if r.returned || (r.ledger.reports.lookup id).isSome then r else await id n r.fullRound

/-- Takes the report of a script after at most `n` more rounds. -/
def wait (r : Runner) (id n : Nat) : Except RunnerError Report × Runner :=
  let r := r.await id n
  match r.collect id with
  | some (report, r) => (.ok report, r)
  | none => (.error .stopped, r)

end Runner

end ScriptMachine
