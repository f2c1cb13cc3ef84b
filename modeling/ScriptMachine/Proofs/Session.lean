import ScriptMachine.Runner

/-!
# Host and worker side by side

A session is a runner together with the place of its worker in its loop. The host submits, closes and
collects at any moment: while the worker takes commands one by one, between two slices of a tick, or
while it reports the scripts that it abandons. Every order of these events is a list of events, and an
event that is not possible at its moment changes nothing. Left alone, the worker does in one pass of its
loop what `Runner.round` does in one go (`round_of_events`).
-/

namespace ScriptMachine

/-- Where a worker is in its loop. -/
inductive Phase where
  /-- It takes commands, and has these since the last tick. -/
  | gathering (batch : List Command)
  /-- It is in a tick, with this many slices still to give. -/
  | ticking (left : Nat)
  /-- It was told to shut down and reports the scripts that it still has. -/
  | abandoning

/-- The commands that a worker holds in its hands. -/
def Phase.batch : Phase → List Command
  | gathering batch => batch
  | _ => []

/-- A runner at a moment of its life, with what has happened to it so far. -/
structure Session where
  runner : Runner
  phase : Phase := .gathering []
  /-- The scripts that were accepted, in order. -/
  accepted : List Machine := []
  /-- The commands that the worker has taken, in order. -/
  taken : List Command := []

inductive Event where
  /-- The host submits a script. -/
  | submit (m : Machine)
  /-- The host shuts the runner down, or drops it. -/
  | close
  /-- The host asks for the report of a script. -/
  | collect (id : Nat)
  /-- The worker takes the oldest command. -/
  | take
  /-- The worker goes on in its loop. -/
  | work

/-- The event belongs to the worker. -/
def Event.isWorker : Event → Bool
  | take | work => true
  | _ => false

/-- The script that the event submits. -/
def Event.machine? : Event → Option Machine
  | submit m => some m
  | _ => none

/-- A runner that was started has done nothing yet. -/
theorem Runner.start_eq {config : Config} {r : Runner} (h : Runner.start config = .ok r) :
    r = { config, ledger := { journal := #[.started] } } := by
  unfold Runner.start at h
  split at h
  next => cases h
  next =>
    cases h
    rfl

theorem Runner.perTick_pos {config : Config} {r : Runner} (h : Runner.start config = .ok r) :
    0 < config.perTick := by
  unfold Runner.start at h
  split at h
  next => cases h
  next hne => exact Nat.pos_of_ne_zero hne

namespace Session

/-! ## Events -/

def submit (s : Session) (m : Machine) : Session :=
  match s.runner.submit m with
  | .ok (runner, _) => { s with runner, accepted := s.accepted ++ [m] }
  | .error _ => s

def close (s : Session) : Session := { s with runner := s.runner.close }

def collect (s : Session) (id : Nat) : Session :=
  match s.runner.collect id with
  | some (_, runner) => { s with runner }
  | none => s

def take (s : Session) : Session :=
  match s.phase, s.runner.channel with
  | .gathering batch, command :: rest =>
    if s.runner.returned then s
    else
      { s with
        runner := { s.runner with channel := rest }
        phase := .gathering (batch ++ [command])
        taken := s.taken ++ [command] }
  | _, _ => s

/-- The scripts of a batch join the queue; a shutdown among its commands is obeyed, or a tick begins. -/
def sort (s : Session) (batch : List Command) : Session :=
  let active := s.runner.active ++ batch.filterMap Command.job?
  { s with
    runner := { s.runner with active }
    phase := if batch.any Command.isShutdown then .abandoning else .ticking active.length }

/-- One slice of a tick, or its end. -/
def serve (s : Session) (left : Nat) : Session :=
  match left, s.runner.active with
  | left + 1, job :: rest =>
    let (active, ledger) := s.runner.config.serve job rest s.runner.ledger
    { s with runner := { s.runner with active, ledger }, phase := .ticking left }
  | _, _ => { s with phase := .gathering [] }

/-- One report on a script that is given up, or the end of the worker. -/
def abandon (s : Session) : Session :=
  match s.runner.active with
  | job :: rest =>
    { s with
      runner := { s.runner with active := rest, ledger := job.retire .abandoned s.runner.ledger } }
  | [] => { s with runner := { s.runner with returned := true } }

def work (s : Session) : Session :=
  if s.runner.returned then s
  else
    match s.phase with
    | .gathering batch =>
      if s.runner.active.isEmpty && batch.isEmpty then
        -- an idle worker blocks until there is a command, or ends if none can come any more
        { s with
          runner := { s.runner with returned := s.runner.channel.isEmpty && !s.runner.accepting } }
      else s.sort batch
    | .ticking left => s.serve left
    | .abandoning => s.abandon

/-- The scripts that were accepted and not yet reported, wherever they are: in the queue, in the
worker's hands, or in the channel. -/
def jobs (s : Session) : List Job :=
  s.runner.active ++ (s.phase.batch ++ s.runner.channel).filterMap Command.job?

def step (s : Session) : Event → Session
  | .submit m => s.submit m
  | .close => s.close
  | .collect id => s.collect id
  | .take => s.take
  | .work => s.work

def run (s : Session) (events : List Event) : Session := events.foldl step s

@[simp] theorem run_nil (s : Session) : s.run [] = s := rfl

@[simp] theorem run_cons (s : Session) (e : Event) (events : List Event) :
    s.run (e :: events) = (s.step e).run events := rfl

theorem run_append (s : Session) (before after : List Event) :
    s.run (before ++ after) = (s.run before).run after :=
  List.foldl_append

/-! ## What an event can do -/

/-- The effects of an event, each with the conditions under which it happens. -/
inductive Moves (s : Session) : Session → Prop
  /-- The event is not possible now, or the worker blocks. -/
  | rest : Moves s s
  | submit (m : Machine) (haccepting : s.runner.accepting = true) :
    Moves s { s with
      runner := { s.runner with
        nextId := s.runner.nextId + 1
        channel := s.runner.channel ++ [.run ⟨s.runner.nextId, m⟩] }
      accepted := s.accepted ++ [m] }
  | close (haccepting : s.runner.accepting = true) :
    Moves s { s with
      runner := { s.runner with accepting := false, channel := s.runner.channel ++ [.shutdown] } }
  | collect (collected : List Nat) : Moves s { s with runner := { s.runner with collected } }
  | take {batch rest : List Command} {command : Command} (hphase : s.phase = .gathering batch)
    (hchannel : s.runner.channel = command :: rest) (hrun : s.runner.returned = false) :
    Moves s { s with
      runner := { s.runner with channel := rest }
      phase := .gathering (batch ++ [command])
      taken := s.taken ++ [command] }
  /-- No command can come any more. -/
  | leave (hphase : s.phase = .gathering []) (hactive : s.runner.active = [])
    (hchannel : s.runner.channel = []) (haccepting : s.runner.accepting = false) :
    Moves s { s with runner := { s.runner with returned := true } }
  | sort {batch : List Command} (hphase : s.phase = .gathering batch)
    (hrun : s.runner.returned = false) : Moves s (s.sort batch)
  | serve {left : Nat} {job : Job} {rest : List Job} (hphase : s.phase = .ticking (left + 1))
    (hactive : s.runner.active = job :: rest) (hrun : s.runner.returned = false) :
    Moves s { s with
      runner := { s.runner with
        active := (s.runner.config.serve job rest s.runner.ledger).1
        ledger := (s.runner.config.serve job rest s.runner.ledger).2 }
      phase := .ticking left }
  | tickEnd {left : Nat} (hphase : s.phase = .ticking left) (hrun : s.runner.returned = false)
    (hlast : s.runner.active.take left = []) : Moves s { s with phase := .gathering [] }
  | abandon {job : Job} {rest : List Job} (hphase : s.phase = .abandoning)
    (hactive : s.runner.active = job :: rest) (hrun : s.runner.returned = false) :
    Moves s { s with
      runner := { s.runner with active := rest, ledger := job.retire .abandoned s.runner.ledger } }
  | finish (hphase : s.phase = .abandoning) (hactive : s.runner.active = []) :
    Moves s { s with runner := { s.runner with returned := true } }

theorem submit_moves (s : Session) (m : Machine) : Moves s (s.submit m) := by
  unfold submit Runner.submit
  by_cases h : s.runner.accepting = true
  · rw [if_pos h]
    exact .submit m h
  · rw [if_neg h]
    exact .rest

theorem close_moves (s : Session) : Moves s s.close := by
  unfold close Runner.close
  split
  next h => exact .close h
  next => exact .rest

theorem collect_moves (s : Session) (id : Nat) : Moves s (s.collect id) := by
  unfold collect Runner.collect
  split
  next report runner h =>
    split at h
    next => cases h
    next =>
      obtain ⟨report, -, heq⟩ := Option.map_eq_some_iff.1 h
      cases heq
      exact .collect _
  next => exact .rest

theorem take_moves (s : Session) : Moves s s.take := by
  unfold take
  split
  next batch command rest hphase hchannel =>
    split
    next => exact .rest
    next hrun => exact .take hphase hchannel (Bool.eq_false_iff.2 hrun)
  next => exact .rest

theorem work_moves (s : Session) : Moves s s.work := by
  unfold work
  split
  next => exact .rest
  next hreturned =>
    have hrun : s.runner.returned = false := Bool.eq_false_iff.2 hreturned
    split
    next batch hphase =>
      split
      next hidle =>
        rw [Bool.and_eq_true, List.isEmpty_iff, List.isEmpty_iff] at hidle
        obtain ⟨hactive, rfl⟩ := hidle
        cases hend : s.runner.channel.isEmpty && !s.runner.accepting with
        | true =>
          rw [Bool.and_eq_true, List.isEmpty_iff, Bool.not_eq_true'] at hend
          exact .leave hphase hactive hend.1 hend.2
        | false =>
          rw [← hrun]
          exact .rest
      next => exact .sort hphase hrun
    next left hphase =>
      unfold serve
      cases left with
      | zero => exact .tickEnd hphase hrun List.take_zero
      | succ left =>
        cases hactive : s.runner.active with
        | nil => exact .tickEnd hphase hrun (by rw [hactive, List.take_nil])
        | cons job rest => exact .serve hphase hactive hrun
    next hphase =>
      unfold abandon
      split
      next job rest hactive => exact .abandon hphase hactive hrun
      next hactive => exact .finish hphase hactive

/-- **Every event has one of these effects.** -/
theorem step_moves (s : Session) (e : Event) : Moves s (s.step e) := by
  cases e with
  | submit m => exact s.submit_moves m
  | close => exact s.close_moves
  | collect id => exact s.collect_moves id
  | take => exact s.take_moves
  | work => exact s.work_moves

/-- What every effect keeps holds in every session. -/
theorem run_keeps {P : Session → Prop} (hmoves : ∀ s t, Moves s t → P s → P t) {s : Session}
    (h : P s) (events : List Event) : P (s.run events) := by
  induction events generalizing s with
  | nil => exact h
  | cons e events ih => exact ih (hmoves s _ (s.step_moves e) h)

/-! ## A worker left alone -/

theorem take_of_returned {s : Session} (h : s.runner.returned = true) : s.take = s := by
  unfold take
  split
  · rw [if_pos h]
  · rfl

theorem run_take {s : Session} {batch : List Command} (hphase : s.phase = .gathering batch)
    (hrun : s.runner.returned = false) (n : Nat) :
    s.run (List.replicate n .take) =
      { s with
        runner := { s.runner with channel := s.runner.channel.drop n }
        phase := .gathering (batch ++ s.runner.channel.take n)
        taken := s.taken ++ s.runner.channel.take n } := by
  induction n generalizing s batch with
  | zero => simp [← hphase]
  | succ n ih =>
    rw [List.replicate_succ, run_cons]
    cases hchannel : s.runner.channel with
    | nil =>
      have htake : s.step .take = s := by simp [step, take, hphase, hchannel]
      rw [htake, ih hphase hrun, hchannel]
      simp
    | cons command rest =>
      have htake : s.step .take =
          { s with
            runner := { s.runner with channel := rest }
            phase := .gathering (batch ++ [command])
            taken := s.taken ++ [command] } := by
        simp [step, take, hphase, hchannel, hrun]
      rw [htake]
      refine Eq.trans (ih rfl hrun) ?_
      simp

theorem serve_length_le (config : Config) (job : Job) (rest : List Job) (ledger : Ledger) :
    rest.length ≤ (config.serve job rest ledger).1.length := by
  unfold Config.serve
  dsimp only
  split
  · exact Nat.le_refl _
  · simp

theorem run_ticking {s : Session} {n : Nat} (hphase : s.phase = .ticking n)
    (hrun : s.runner.returned = false) (hn : n ≤ s.runner.active.length) :
    s.run (List.replicate (n + 1) .work) =
      { s with
        runner := { s.runner with
          active := (s.runner.config.rotate n s.runner.active s.runner.ledger).1
          ledger := (s.runner.config.rotate n s.runner.active s.runner.ledger).2 }
        phase := .gathering [] } := by
  induction n generalizing s with
  | zero =>
    have hwork : s.step .work = { s with phase := .gathering [] } := by
      simp [step, work, serve, hphase, hrun]
    rw [List.replicate_one, run_cons, hwork]
    rfl
  | succ n ih =>
    rw [List.replicate_succ, run_cons]
    cases hactive : s.runner.active with
    | nil =>
      rw [hactive] at hn
      simp at hn
    | cons job rest =>
      rw [hactive] at hn
      have hwork : s.step .work =
          { s with
            runner := { s.runner with
              active := (s.runner.config.serve job rest s.runner.ledger).1
              ledger := (s.runner.config.serve job rest s.runner.ledger).2 }
            phase := .ticking n } := by
        simp [step, work, serve, hphase, hrun, hactive]
      have hle := serve_length_le s.runner.config job rest s.runner.ledger
      rw [List.length_cons] at hn
      rw [hwork]
      exact ih rfl hrun (show n ≤ (s.runner.config.serve job rest s.runner.ledger).1.length by omega)

theorem run_abandoning {s : Session} (hphase : s.phase = .abandoning)
    (hrun : s.runner.returned = false) :
    s.run (List.replicate (s.runner.active.length + 1) .work) =
      { s with runner := s.runner.abandon } := by
  induction hactive : s.runner.active generalizing s with
  | nil => simp [step, work, abandon, hphase, hrun, hactive, Runner.abandon]
  | cons job rest ih =>
    have hwork : s.step .work =
        { s with
          runner := { s.runner with
            active := rest, ledger := job.retire .abandoned s.runner.ledger } } := by
      simp [step, work, abandon, hphase, hrun, hactive]
    rw [List.length_cons, List.replicate_succ, run_cons, hwork]
    refine Eq.trans (ih hphase hrun rfl) ?_
    simp [Runner.abandon, hactive]

/-- From the sorting of a batch to the end of the tick, or to the end of the worker. -/
theorem run_pass {s : Session} {batch : List Command} (hphase : s.phase = .gathering batch)
    (hrun : s.runner.returned = false)
    (hbusy : (s.runner.active.isEmpty && batch.isEmpty) = false) :
    let r := { s.runner with active := s.runner.active ++ batch.filterMap Command.job? }
    ∃ k, s.run (List.replicate k .work) =
      if batch.any Command.isShutdown then { s with runner := r.abandon, phase := .abandoning }
      else
        { s with
          runner := { r with
            active := (r.config.tick r.active r.ledger).1
            ledger := (r.config.tick r.active r.ledger).2 }
          phase := .gathering [] } := by
  intro r
  have hsort : s.step .work = s.sort batch := by simp [step, work, hphase, hrun, hbusy]
  by_cases hstop : batch.any Command.isShutdown = true
  · have hphase' : (s.sort batch).phase = .abandoning := by simp [sort, hstop]
    refine ⟨r.active.length + 1 + 1, ?_⟩
    rw [List.replicate_succ, run_cons, hsort, if_pos hstop]
    refine Eq.trans (run_abandoning hphase' hrun) ?_
    rw [hphase']
    rfl
  · have hphase' : (s.sort batch).phase = .ticking r.active.length := by simp [sort, hstop, r]
    refine ⟨r.active.length + 1 + 1, ?_⟩
    rw [List.replicate_succ, run_cons, hsort, if_neg hstop]
    exact run_ticking hphase' hrun (Nat.le_refl r.active.length)

theorem run_take_of_returned {s : Session} (h : s.runner.returned = true) (n : Nat) :
    s.run (List.replicate n .take) = s := by
  induction n with
  | zero => rfl
  | succ n ih =>
    rw [List.replicate_succ, run_cons, show s.step .take = s from take_of_returned h, ih]

/-- **A round is a pass of the worker through its loop,** with no event of the host in between. -/
theorem round_of_events {s : Session} (hphase : s.phase = .gathering []) (n : Nat) :
    ∃ k, let t := s.run (List.replicate n .take ++ List.replicate k .work)
      t.runner = s.runner.round n ∧ (t.phase = .gathering [] ∨ t.runner.returned = true) := by
  simp only [run_append]
  cases hrun : s.runner.returned with
  | true =>
    refine ⟨0, ?_⟩
    rw [run_take_of_returned hrun, List.replicate_zero, run_nil]
    simp [Runner.round, hrun]
  | false =>
    rw [run_take hphase hrun n, List.nil_append]
    cases hidle : s.runner.active.isEmpty && (s.runner.channel.take n).isEmpty with
    | true =>
      -- an idle worker that took nothing
      rw [Bool.and_eq_true] at hidle
      have htake := List.isEmpty_iff.1 hidle.2
      have hdrop : s.runner.channel.drop n = s.runner.channel := by
        have happend := List.take_append_drop n s.runner.channel
        rwa [htake, List.nil_append] at happend
      refine ⟨1, ?_⟩
      rw [htake, hdrop]
      simp [step, work, hrun, Runner.round, htake, hidle.1]
    | false =>
      obtain ⟨k, hk⟩ := run_pass (s := { s with
        runner := { s.runner with channel := s.runner.channel.drop n }
        phase := .gathering (s.runner.channel.take n)
        taken := s.taken ++ s.runner.channel.take n }) rfl hrun hidle
      refine ⟨k, ?_⟩
      rw [hk]
      unfold Runner.round
      simp only [hrun, hidle, Bool.false_eq_true, if_false]
      split
      · exact ⟨rfl, .inr rfl⟩
      · exact ⟨rfl, .inl rfl⟩

end Session

end ScriptMachine
