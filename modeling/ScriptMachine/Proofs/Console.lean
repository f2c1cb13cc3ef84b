import ScriptMachine.Console
import ScriptMachine.Proofs.HostCalls
import ScriptMachine.Proofs.Runs

/-!
# The two runs of the command line

The command line runs a program step by step, and then once more on a runner that cuts the run into slices
and computes before each of them what is left of the budget. Recording composes (`record_record`), and a slice
is the beginning of the rest of the run (`record_slice`), so after the last slice the machine and everything
that was noticed are those of a single run over the whole budget. A runner with one script and enough rounds
therefore ends with a ledger that one run determines (`await_alone`). For the command line this gives the
journal of the second run as that of the first between three notices of the runner's own (`reported_eq`). The
lines that a run has the host write are those of its calls, step after step (`hostLines_record`), and so
every line that is shown comes from one run of the machine (`runs_agree`).
-/

namespace ScriptMachine

/-! ## Recorded runs in pieces -/

namespace Machine

variable {m : Machine}

theorem record_of_isFinished (h : m.isFinished = true) (n : Nat) (journal : Journal) :
    m.record n journal = (m, journal) := by
  cases n with
  | zero => rfl
  | succ n => simp [record, h]

theorem record_record (m : Machine) (a b : Nat) (journal : Journal) :
    (m.record a journal).1.record b (m.record a journal).2 = m.record (a + b) journal := by
  induction a generalizing m journal with
  | zero => simp [record]
  | succ a ih =>
    rw [Nat.succ_add]
    by_cases h : m.isFinished = true
    · rw [record_of_isFinished h, record_of_isFinished h, record_of_isFinished h]
    · simp only [record, h, Bool.false_eq_true, if_false]
      exact ih m.turn.machine _

end Machine

namespace Config

open Machine

variable {config : Config} {m : Machine} {budget : Nat}

theorem slice_eq (hb : config.budget = some budget) (m : Machine) :
    config.slice m = min config.perTick (budget - m.steps) := by
  simp only [slice, hb]

/-- **A slice is the beginning of the rest of the run,** whether or not the script ends in it. -/
theorem record_slice (hb : config.budget = some budget) (m : Machine) (journal : Journal) :
    (config.served m).record (budget - (config.served m).steps)
        (m.record (config.slice m) journal).2 =
      m.record (budget - m.steps) journal := by
  have hslice := slice_eq hb m
  have hserved : config.served m = (m.record (config.slice m) journal).1 :=
    (record_fst _ _ _).symm
  cases hfin : (config.served m).isFinished with
  | true =>
    have hsplit : budget - m.steps = config.slice m + (budget - m.steps - config.slice m) := by
      omega
    rw [record_of_isFinished hfin, hsplit, ← record_record, ← hserved, record_of_isFinished hfin]
  | false =>
    have hsteps : (config.served m).steps = m.steps + config.slice m :=
      steps_run_of_isFinished_eq_false hfin
    have hsplit : budget - m.steps = config.slice m + (budget - (config.served m).steps) := by
      omega
    rw [hsplit, ← record_record, ← hserved]

/-- A script that leaves has nothing left to do within its budget. -/
theorem record_of_outcome? {p : Program} (hm : InControl p m) (hb : config.budget = some budget)
    {outcome : Outcome} (h : config.outcome? m = some outcome) (journal : Journal) :
    outcome = m.state.outcome ∧ m.record (budget - m.steps) journal = (m, journal) := by
  cases hstate : m.state with
  | running =>
    obtain ⟨budget', hb', hle, rfl⟩ := outcome?_of_running hstate h
    rw [hb] at hb'
    cases hb'
    have hzero : budget - m.steps = 0 := by omega
    rw [hzero]
    exact ⟨rfl, rfl⟩
  | finished =>
    have hfin := isFinished_of_state_ne hm (by simp [hstate])
    simp only [outcome?, hstate, Option.some.injEq] at h
    exact ⟨h.symm, record_of_isFinished hfin _ _⟩
  | faulted fault =>
    have hfin := isFinished_of_state_ne hm (by simp [hstate])
    simp only [outcome?, hstate, Option.some.injEq] at h
    exact ⟨h.symm, record_of_isFinished hfin _ _⟩

end Config

/-! ## A runner with one script -/

namespace Runner

open Machine

variable {r : Runner} {job : Job} {budget : Nat}

/-- A runner that has this one script, in its queue or still on the channel, and nothing else to do. -/
structure Alone (r : Runner) (job : Job) : Prop where
  returned_eq : r.returned = false
  reports_eq : r.ledger.reports = []
  channel_run : r.channel.any Command.isShutdown = false
  jobs_eq : r.active ++ r.channel.filterMap Command.job? = [job]

theorem fullRound_alone (h : r.Alone job) :
    r.fullRound = { r with
      channel := []
      active := (r.config.serve job [] r.ledger).1
      ledger := (r.config.serve job [] r.ledger).2 } := by
  have hbusy : (r.active.isEmpty && r.channel.isEmpty) = false := by
    have hjobs := h.jobs_eq
    cases hactive : r.active with
    | nil =>
      cases hchannel : r.channel with
      | nil => simp [hactive, hchannel] at hjobs
      | cons command rest => rfl
    | cons job rest => rfl
  simp [fullRound, round, h.returned_eq, hbusy, h.channel_run, h.jobs_eq, Config.tick,
    Config.rotate]

theorem await_of_reported {id : Nat} (h : (r.ledger.reports.lookup id).isSome = true) (n : Nat) :
    r.await id n = r := by
  cases n with
  | zero => rfl
  | succ n => simp [await, h]

/-- **One script on a runner.** Given enough rounds, the runner reports the script, and the script has run as
if it were run in one piece. -/
theorem await_alone {p : Program} (n : Nat) (h : r.Alone job) (hm : InControl p job.machine)
    (hb : r.config.budget = some budget)
    (hn : budget - job.machine.steps < r.config.perTick * n) :
    let final := job.machine.record (budget - job.machine.steps) r.ledger.journal
    r.await job.id n = { r with
      channel := []
      active := []
      ledger := Job.retire ⟨job.id, final.1⟩ final.1.state.outcome ⟨[], final.2⟩ } := by
  intro final
  -- by induction on the rounds: a round retires the script, or leaves it alone with fewer steps to go
  induction n generalizing r job with
  | zero => omega
  | succ n ih =>
    have hround := fullRound_alone h
    have hrest := Config.record_slice hb job.machine r.ledger.journal
    rw [Config.serve_eq, h.reports_eq] at hround
    have hwait : (r.returned || (r.ledger.reports.lookup job.id).isSome) = false := by
      simp [h.returned_eq, h.reports_eq]
    have hawait : r.await job.id (n + 1) = r.fullRound.await job.id n := by
      simp only [await, hwait, Bool.false_eq_true, if_false]
    have hserved : InControl p (r.config.served job.machine) :=
      run_keeps (P := InControl p) (fun _ h => h.step) _ hm
    rw [hawait, hround]
    cases houtcome : r.config.outcome? (r.config.served job.machine) with
    | some outcome =>
      obtain ⟨rfl, hdone⟩ := Config.record_of_outcome? hserved hb houtcome
        (job.machine.record (r.config.slice job.machine) r.ledger.journal).2
      rw [hdone] at hrest
      simp only [final, ← hrest]
      exact await_of_reported (by simp [Job.retire]) n
    | none =>
      obtain ⟨hsteps, hbelow⟩ := Config.steps_served_of_outcome?_eq_none houtcome
      have hlt := hbelow budget hb
      have hleft : budget - (r.config.served job.machine).steps < r.config.perTick * n := by
        rw [Nat.mul_succ] at hn
        omega
      have halone : Alone { r with
          channel := []
          active := [⟨job.id, r.config.served job.machine⟩]
          ledger := ⟨[], (job.machine.record (r.config.slice job.machine) r.ledger.journal).2⟩ }
          ⟨job.id, r.config.served job.machine⟩ :=
        ⟨h.returned_eq, rfl, rfl, rfl⟩
      simp only [final, ← hrest]
      exact ih halone hserved hb hleft

/-- The report can be taken then. -/
theorem wait_alone {p : Program} (n : Nat) (h : r.Alone job) (hm : InControl p job.machine)
    (hb : r.config.budget = some budget)
    (hn : budget - job.machine.steps < r.config.perTick * n) (hid : job.id ∉ r.collected) :
    let final := job.machine.record (budget - job.machine.steps) r.ledger.journal
    r.wait job.id n = (.ok ⟨final.1.state.outcome, final.1.steps, final.1.symbols⟩, { r with
      channel := []
      active := []
      ledger := Job.retire ⟨job.id, final.1⟩ final.1.state.outcome ⟨[], final.2⟩
      collected := job.id :: r.collected }) := by
  intro final
  simp [wait, await_alone n h hm hb hn, collect, hid, Job.retire, Job.report, final]

/-- A runner that has nothing to do notices nothing but its own end when it is shut down. -/
theorem shutdown_idle (haccepting : r.accepting = true) (hreturned : r.returned = false)
    (hactive : r.active = []) (hchannel : r.channel = []) :
    r.shutdown.ledger.journal = r.ledger.journal.push .stopped := by
  have hjobs : [Command.shutdown].filterMap Command.job? = [] := rfl
  simp [shutdown, close, fullRound, round, note, abandon, haccepting, hreturned, hactive, hchannel,
    Command.isShutdown, hjobs]

end Runner

/-! ## What is written -/

theorem Journal.hostLines_append (a b : Journal) : hostLines (a ++ b) = a.hostLines ++ b.hostLines := by
  simp [hostLines]

namespace Machine

theorem hostLines_notices (m : Machine) :
    (m.notices m.turn).flatMap Notice.hostLines =
      m.turn.call.toList.flatMap fun call => call.reply.lines := by
  unfold notices
  cases hi : m.next? with
  | none => simp [turn, hi]
  | some i => cases m.turn.call <;> cases m.turn.machine.fault <;> rfl

theorem steps_le_run (m : Machine) (n : Nat) : m.steps ≤ (m.run n).steps := by
  refine run_keeps (P := fun t => m.steps ≤ t.steps) ?_ n (Nat.le_refl _)
  intro t hle
  cases hfin : t.isFinished with
  | true => rwa [step_of_isFinished hfin]
  | false =>
    rw [steps_step hfin]
    omega

/-- **A run writes the lines of its calls,** step after step. -/
theorem hostLines_record (m : Machine) (n : Nat) :
    Journal.hostLines (m.record n #[]).2 =
      (List.range ((m.run n).steps - m.steps)).flatMap fun k =>
        (m.run k).turn.call.toList.flatMap fun call => call.reply.lines := by
  induction n generalizing m with
  | zero => simp [record, run, Journal.hostLines]
  | succ n ih =>
    cases hfin : m.isFinished with
    | true => simp [record_of_isFinished hfin, run, hfin, Journal.hostLines]
    | false =>
      have hrecord : m.record (n + 1) #[] = m.step.record n (m.notices m.turn).toArray := by
        simp only [record, hfin, Bool.false_eq_true, if_false, step]
        simp
      have hrun : ∀ k, m.run (k + 1) = m.step.run k := by
        intro k
        simp only [run, hfin, Bool.false_eq_true, if_false]
      have hsteps := steps_step hfin
      have hle := m.step.steps_le_run n
      -- the first step, and then those of the rest of the run
      have hcount : (m.step.run n).steps - m.steps = ((m.step.run n).steps - m.step.steps) + 1 := by
        omega
      have hfirst : Journal.hostLines (m.notices m.turn).toArray =
          m.turn.call.toList.flatMap fun call => call.reply.lines := by
        rw [← hostLines_notices]
        simp [Journal.hostLines]
      rw [hrecord, record_snd, Journal.hostLines_append, hfirst, ih m.step, hrun, hcount,
        List.range_succ_eq_map, List.flatMap_cons, List.flatMap_map]
      simp only [hrun]
      rfl

end Machine

namespace Console

theorem lookup_functions {s : Signature} {f : HostFunction} (h : functions.lookup s = some f) :
    s = printSignature ∧ f = print := by
  have hvalues : functions.functions.values = SortedMap.empty.insert printSignature print := rfl
  rw [Registry.lookup, GroupedMap.get?, hvalues, SortedMap.get?_insert] at h
  split at h
  next hs => exact ⟨hs.symm, (Option.some.inj h).symm⟩
  next => simp at h

/-- The values that a script shows in its next step after `k` others. -/
def printed (p : Program) (k : Nat) : List Value :=
  ((Machine.load p (some functions)).run k).turn.call.toList.flatMap HostCall.arguments

/-- Every line that a step of a script has the host write is one of `print`. -/
theorem lines_of_turn {m : Machine} (hm : m.functions = some functions) :
    (m.turn.call.toList.flatMap fun call => call.reply.lines) =
      (m.turn.call.toList.flatMap HostCall.arguments).map fun v => "  [script] " ++ v.text := by
  cases hc : m.turn.call with
  | none => rfl
  | some c =>
    obtain ⟨f, hlookup, -, hreply⟩ := Machine.called_of_turn hm hc
    obtain ⟨-, rfl⟩ := lookup_functions hlookup
    simp [hreply, print]

/-- The lines of the first run are the values that its steps have shown, in this order. -/
theorem hostLines_stepped (p : Program) :
    (stepped p).2.hostLines = ((List.range (stepped p).1.steps).flatMap (printed p)).map
      fun v => "  [script] " ++ v.text := by
  have hload : (Machine.load p (some functions)).steps = 0 := rfl
  have hlines := Machine.hostLines_record (Machine.load p (some functions)) stepLimit
  rw [hload, Nat.sub_zero, ← Machine.record_fst stepLimit _ #[]] at hlines
  rw [List.map_flatMap]
  refine hlines.trans (List.flatMap_congr fun k _ => ?_)
  exact lines_of_turn (Machine.run_keeps (P := fun m => m.functions = some functions)
    (fun m hm => m.step_functions.trans hm) k rfl)

/-! ## Agreement -/

/-- **The second run in terms of the first.** The runner reports how the first run ended, and has noticed
the same things, between its own start, the end of the script and its own end. -/
theorem reported_eq (p : Program) :
    let m := (stepped p).1
    reported p = .ok (⟨m.state.outcome, m.steps, m.symbols⟩,
      ((#[Notice.started] ++ (stepped p).2).push (.retired 0 m.steps m.state.outcome)).push
        .stopped) := by
  intro m
  let v := Machine.load p (some functions)
  let r : Runner :=
    { config, nextId := 1, channel := [.run ⟨0, v⟩], ledger := { journal := #[.started] } }
  have hstart : Runner.start config = .ok { config, ledger := { journal := #[.started] } } := rfl
  have hsubmit : Runner.submit { config, ledger := { journal := #[.started] } }
      (Machine.load p (some functions)) = .ok (r, 0) := rfl
  have halone : r.Alone ⟨0, v⟩ := ⟨rfl, rfl, rfl, rfl⟩
  have hrounds : stepLimit - v.steps < r.config.perTick * patience := by
    show 1000000 - 0 < 1000 * (1000000 / 1000 + 1)
    decide
  have hfinal : v.record (stepLimit - v.steps) r.ledger.journal =
      (m, #[.started] ++ (stepped p).2) := by
    ext1
    · simp only [m, stepped, Machine.record_fst]
      rfl
    · exact Machine.record_snd stepLimit v #[.started]
  have hwait := Runner.wait_alone patience halone (Machine.load_inControl p _) rfl hrounds (by simp [r])
  simp only [hfinal] at hwait
  simp only [reported, hstart, hsubmit, hwait, bind, Except.bind, pure, Except.pure]
  rw [Runner.shutdown_idle rfl rfl rfl rfl]
  rfl

theorem unlines_append (before after : List String) :
    unlines (before ++ after) = unlines before ++ unlines after := by
  simp [unlines]

theorem stateText_eq (m : Machine) : stateText m = match m.state with
    | .finished => "finished"
    | .faulted fault => "faulted (" ++ fault.text ++ ")"
    | .running => "still running after 1000000 steps" := by
  have hlimit : toString stepLimit = "1000000" := by decide +kernel
  unfold stateText
  rw [hlimit]
  cases m.state <;> simp

/-- What is shown of both runs, and how the session ends. -/
theorem runProgram_of_reported {p : Program} {m : Machine} {report : Report} {first second : Journal}
    (hstepped : stepped p = (m, first)) (hreported : reported p = .ok (report, second)) :
    (runProgram p).output =
      unlines ["Plume Script Engine v0.1.0", "==========================", "", "Program:"] ++
      p.text ++
      unlines ([""] ++ first.hostLines ++ [
          "Stepped run:",
          "  PC:           " ++ toString m.pc,
          "  Instructions: " ++ toString m.steps,
          "  Stack depth:  " ++ toString m.stack.size,
          "  State:        " ++ stateText m,
          ""] ++
        second.hostLines ++ [
          "Runner report:",
          "  Outcome:      " ++ report.outcome.inspect,
          "  Instructions: " ++ toString report.steps,
          "Variables:"] ++
        report.symbols.entries.map (fun e => "  " ++ column e.1 ++ " " ++ e.2.text) ++
        [""] ++ if report.outcome = .finished then ["✓ Script finished successfully!"] else []) ∧
    (runProgram p).errors =
      (if report.outcome = .finished then ""
        else "Error: script did not finish: " ++ report.outcome.inspect ++ "\n") ∧
    ((runProgram p).exitCode = 0 ↔ report.outcome = .finished) := by
  have hhead : unlines ["Plume Script Engine v0.1.0", "==========================", "", "Program:"] =
      banner ++ "Program:\n" := by
    simp [banner, unlines]
  have hblank : unlines [""] = "\n" := by simp [unlines]
  have hlast : unlines ["✓ Script finished successfully!"] = "✓ Script finished successfully!\n" := by
    simp [unlines]
  have hnone : unlines [] = "" := rfl
  unfold runProgram steppedText reportText
  simp only [hreported, hstepped]
  simp only [hhead, unlines_append, hblank]
  by_cases hfinished : report.outcome = .finished
  · simp only [hfinished, if_true, hlast, String.append_assoc, and_self]
  · simp only [hfinished, if_false, failed, hnone, String.append_empty]
    refine ⟨?_, ?_, by simp⟩
    · simp only [String.append_assoc]
    · rw [← String.append_assoc]
      simp

/-- **Both runs of a program agree.** The first run is one of a million steps at most. The runner reports the
program: as many steps and the same variables as that run has, that it finished, stopped or used up its budget
exactly if that run finished, stopped with the same fault or is still running, and never that it was abandoned.
In both runs the script has the host write the same lines, one for each value that `print` was called with, in
the order of the calls. These lines are shown, then how the first run ended, then the lines of the second run,
and then how that ended and its variables, which are those of the first. The session succeeds exactly if the
first run finished, and else says how it ended. -/
theorem runs_agree (p : Program) :
    let m := (stepped p).1
    let script := ((List.range m.steps).flatMap (printed p)).map fun v => "  [script] " ++ v.text
    let written (lines : List String) : String := String.join (lines.map (· ++ "\n"))
    m = (Machine.load p (some functions)).run 1000000 ∧
    ∃ report journal, reported p = .ok (report, journal) ∧
      report.steps = m.steps ∧
      report.symbols = m.symbols ∧
      (m.state = .finished ↔ report.outcome = .finished) ∧
      (∀ fault, m.state = .faulted fault ↔ report.outcome = .faulted fault) ∧
      (m.state = .running ↔ report.outcome = .budgetExhausted) ∧
      report.outcome ≠ .abandoned ∧
      (stepped p).2.hostLines = script ∧
      journal.hostLines = script ∧
      (runProgram p).output =
        written ["Plume Script Engine v0.1.0", "==========================", "", "Program:"] ++
        p.text ++
        written ([""] ++ script ++ [
            "Stepped run:",
            "  PC:           " ++ toString m.pc,
            "  Instructions: " ++ toString m.steps,
            "  Stack depth:  " ++ toString m.stack.size,
            "  State:        " ++ (match m.state with
              | .finished => "finished"
              | .faulted fault => "faulted (" ++ fault.text ++ ")"
              | .running => "still running after 1000000 steps"),
            ""] ++
          script ++ [
            "Runner report:",
            "  Outcome:      " ++ report.outcome.inspect,
            "  Instructions: " ++ toString m.steps,
            "Variables:"] ++
          m.symbols.entries.map (fun e =>
            "  " ++ e.1 ++ String.ofList (List.replicate (12 - e.1.length) ' ') ++ " " ++ e.2.text) ++
          [""] ++ if m.state = .finished then ["✓ Script finished successfully!"] else []) ∧
      (runProgram p).errors =
        (if m.state = .finished then ""
          else "Error: script did not finish: " ++ report.outcome.inspect ++ "\n") ∧
      ((runProgram p).exitCode = 0 ↔ m.state = .finished) := by
  intro m script written
  have hrun : m = (Machine.load p (some functions)).run 1000000 := Machine.record_fst _ _ _
  have hstepped : stepped p = (m, (stepped p).2) := rfl
  let journal : Journal :=
    ((#[Notice.started] ++ (stepped p).2).push (.retired 0 m.steps m.state.outcome)).push .stopped
  have hreported : reported p = .ok (⟨m.state.outcome, m.steps, m.symbols⟩, journal) := reported_eq p
  have hfirst : (stepped p).2.hostLines = script := hostLines_stepped p
  have hsecond : journal.hostLines = script := by
    rw [← hfirst]
    simp [journal, Journal.hostLines, Notice.hostLines]
  have hwritten : written = unlines := rfl
  -- nothing below looks into the runs any more
  clear_value written script journal m
  have hfinished : m.state = .finished ↔ m.state.outcome = .finished :=
    (ExecState.outcome_eq_iff (t := .finished)).symm
  obtain ⟨houtput, herrors, hexit⟩ := runProgram_of_reported hstepped hreported
  refine ⟨hrun, _, _, hreported, rfl, rfl, hfinished, ?_, ?_, ?_, hfirst, hsecond, ?_, ?_, ?_⟩
  · intro fault
    exact (ExecState.outcome_eq_iff (t := .faulted fault)).symm
  · exact (ExecState.outcome_eq_iff (t := .running)).symm
  · exact m.state.outcome_ne_abandoned
  · simp only [hfirst, hsecond, stateText_eq, column, ← hfinished, ← String.append_assoc] at houtput
    rw [hwritten]
    exact houtput
  · simpa only [← hfinished] using herrors
  · rw [hexit, hfinished]

end Console

end ScriptMachine
