import ScriptMachine.Proofs.Serve
import ScriptMachine.Proofs.Session

/-!
# Every script is reported once

The commands that were ever sent are the accepted scripts in order, numbered from zero, and then at most
one shutdown. At every moment the scripts already reported and those still on their way are the accepted
ones, each of them once (`Orderly.tracked`); a worker that has returned has none left on its way. A shutdown
that waits for the worker is one pass of the worker through its loop, so it ends in such a state
(`close_reaches_shutdown`).
-/

namespace ScriptMachine

/-- The worker has seen a shutdown. -/
def Phase.Stopping : Phase → Prop
  | gathering batch => .shutdown ∈ batch
  | ticking _ => False
  | abandoning => True

/-- Everything that was ever sent as the report of a script. -/
def Runner.replies (r : Runner) (id : Nat) : List Report :=
  (r.ledger.reports.filter fun e => e.1 = id).map Prod.snd

/-- Each of the first `count` scripts has one report, which waiting gives unless it was taken before. -/
def Runner.Settled (r : Runner) (count : Nat) : Prop :=
  ∀ id < count, ∃ report, r.replies id = [report] ∧
    (id ∉ r.collected → ∀ n, (r.wait id n).1 = .ok report)

namespace Session

/-- The command that carries an accepted script. -/
def submission (id : Nat) (m : Machine) : Command := .run ⟨id, m⟩

/-- The commands that were ever sent: the accepted scripts, numbered in order, and the shutdown once
the host has closed the runner. -/
structure Sent (s : Session) : Prop where
  accepted_length : s.accepted.length = s.runner.nextId
  commands : s.taken ++ s.runner.channel =
    s.accepted.mapIdx submission ++ if s.runner.accepting then [] else [.shutdown]

/-- The scripts that were reported and those on their way are the accepted ones, each once. -/
def Tracked (s : Session) : Prop :=
  (s.runner.ledger.reports.map Prod.fst ++ s.jobs.map Job.id).Perm (List.range s.runner.nextId)

/-- The worker obeys a shutdown that it has taken, and returns only then. -/
structure Obeying (s : Session) : Prop where
  stopping : .shutdown ∈ s.taken ↔ s.phase.Stopping
  ticking_le : ∀ left, s.phase = .ticking left → left ≤ s.runner.active.length
  returned : s.runner.returned = true → s.phase = .abandoning ∧ s.runner.active = []

/-- The bookkeeping of a session. -/
structure Orderly (s : Session) : Prop where
  sent : Sent s
  tracked : Tracked s
  obeying : Obeying s

theorem orderly_start {config : Config} {r : Runner} (h : Runner.start config = .ok r) :
    Orderly { runner := r } := by
  obtain rfl := Runner.start_eq h
  refine ⟨⟨rfl, rfl⟩, .refl _, ?_, ?_, ?_⟩
  · simp [Phase.Stopping]
  · intro left hleft
    cases hleft
  · intro hreturned
    cases hreturned

variable {s t : Session}

/-! ## Commands -/

theorem shutdown_not_mem_submissions (accepted : List Machine) :
    Command.shutdown ∉ accepted.mapIdx submission := by
  intro h
  obtain ⟨i, hi, heq⟩ := List.mem_mapIdx.1 h
  cases heq

theorem shutdown_mem_iff_any (commands : List Command) :
    .shutdown ∈ commands ↔ commands.any Command.isShutdown = true := by
  rw [List.any_eq_true]
  constructor
  · intro h
    exact ⟨_, h, rfl⟩
  · rintro ⟨command, hmem, hstop⟩
    cases command with
    | run job => cases hstop
    | shutdown => exact hmem

theorem Sent.of_accepting (h : Sent s) (haccepting : s.runner.accepting = true) :
    s.taken ++ s.runner.channel = s.accepted.mapIdx submission := by
  rw [h.commands, if_pos haccepting, List.append_nil]

theorem Sent.of_closed (h : Sent s) (haccepting : s.runner.accepting = false) :
    s.taken ++ s.runner.channel = s.accepted.mapIdx submission ++ [.shutdown] := by
  rw [h.commands, if_neg (by rw [haccepting]; simp)]

theorem Sent.closed_of_shutdown (h : Sent s) (hstop : .shutdown ∈ s.taken) :
    s.runner.accepting = false := by
  cases haccepting : s.runner.accepting with
  | false => rfl
  | true =>
    have hmem := List.mem_append_left s.runner.channel hstop
    rw [h.of_accepting haccepting] at hmem
    exact absurd hmem (shutdown_not_mem_submissions _)

/-- The shutdown is the last command that is ever sent. -/
theorem Sent.channel_eq_nil (h : Sent s) (hstop : .shutdown ∈ s.taken) : s.runner.channel = [] := by
  have hcommands := h.of_closed (h.closed_of_shutdown hstop)
  have hnot := shutdown_not_mem_submissions s.accepted
  rcases List.append_eq_append_iff.1 hcommands with ⟨between, hruns, -⟩ | ⟨between, htaken, hlast⟩
  · rw [hruns] at hnot
    exact absurd (List.mem_append_left _ hstop) hnot
  · cases between with
    | nil =>
      rw [htaken, List.append_nil] at hstop
      exact absurd hstop hnot
    | cons command between =>
      have htail := congrArg List.tail hlast
      exact (List.append_eq_nil_iff.1 htail.symm).2

theorem Sent.moves (hm : Moves s t) (h : Sent s) : Sent t := by
  cases hm with
  | submit m haccepting =>
    refine ⟨?_, ?_⟩
    · rw [List.length_append, h.accepted_length]
      rfl
    · dsimp only
      rw [if_pos haccepting, List.append_nil, List.mapIdx_concat, h.accepted_length,
        ← List.append_assoc, h.of_accepting haccepting]
      rfl
  | close haccepting =>
    refine ⟨h.accepted_length, ?_⟩
    dsimp only
    rw [if_neg (by simp), ← List.append_assoc, h.of_accepting haccepting]
  | take hphase hchannel hrun =>
    refine ⟨h.accepted_length, ?_⟩
    dsimp only
    rw [← h.commands, hchannel, List.append_assoc]
    rfl
  | rest | collect | leave | sort | serve | tickEnd | abandon | finish =>
    exact ⟨h.accepted_length, h.commands⟩

/-! ## Scripts -/

/-- A slice moves the number of its script to the reports, or keeps it in the queue. -/
theorem tracked_serve (config : Config) (job : Job) (rest : List Job) (ledger : Ledger) :
    ((config.serve job rest ledger).2.reports.map Prod.fst ++
      (config.serve job rest ledger).1.map Job.id).Perm
    (ledger.reports.map Prod.fst ++ (job :: rest).map Job.id) := by
  rcases config.serve_cases job rest ledger with ⟨outcome, -, hrest, hreports⟩ | ⟨-, hrest, hreports⟩
  · rw [hrest, hreports]
    simp
  · rw [hrest, hreports, List.map_append]
    exact List.Perm.append_left _ (List.perm_append_singleton job.id (rest.map Job.id))

theorem sort_batch (s : Session) (batch : List Command) : (s.sort batch).phase.batch = [] := by
  unfold sort
  dsimp only
  split <;> rfl

theorem Tracked.moves (hm : Moves s t) (h : Tracked s) : Tracked t := by
  unfold Tracked jobs at h ⊢
  cases hm with
  | rest | collect | leave | finish => exact h
  | submit m haccepting =>
    have hnew := h.append_right [s.runner.nextId]
    rw [← List.range_succ] at hnew
    simpa [Command.job?] using hnew
  | close haccepting => simpa [List.filterMap_cons, Command.job?] using h
  | take hphase hchannel hrun =>
    rw [hphase, hchannel] at h
    simpa [Phase.batch] using h
  | sort hphase hrun =>
    rw [hphase] at h
    rw [sort_batch]
    simpa [sort, Phase.batch] using h
  | @serve left job rest hphase hactive hrun =>
    rw [hphase, hactive, List.map_append, ← List.append_assoc] at h
    rw [List.map_append, ← List.append_assoc]
    exact ((tracked_serve _ _ _ _).append_right _).trans h
  | tickEnd hphase hrun =>
    rw [hphase] at h
    exact h
  | abandon hphase hactive hrun =>
    rw [hactive] at h
    simpa [Job.retire] using h

/-! ## The worker -/

theorem sort_stopping_iff (s : Session) (batch : List Command) :
    (s.sort batch).phase.Stopping ↔ .shutdown ∈ batch := by
  rw [shutdown_mem_iff_any]
  unfold sort
  dsimp only
  split <;> simp_all [Phase.Stopping]

theorem sort_ticking {batch : List Command} {left : Nat} (h : (s.sort batch).phase = .ticking left) :
    left = (s.sort batch).runner.active.length := by
  unfold sort at h ⊢
  dsimp only at h
  split at h
  · cases h
  · cases h
    rfl

theorem Obeying.moves (hsent : Sent s) (hm : Moves s t) (h : Obeying s) : Obeying t := by
  cases hm with
  | rest | submit | close | collect => exact ⟨h.stopping, h.ticking_le, h.returned⟩
  | take hphase hchannel hrun =>
    have hstopping := h.stopping
    rw [hphase] at hstopping
    refine ⟨?_, nofun, fun hr => absurd (hrun.symm.trans hr) (by simp)⟩
    simp only [List.mem_append, hstopping, Phase.Stopping]
  | leave hphase hactive hchannel haccepting =>
    -- it would have taken the shutdown, and then it is past gathering
    have hcommands := hsent.of_closed haccepting
    rw [hchannel, List.append_nil] at hcommands
    have hstop : .shutdown ∈ s.taken := by
      rw [hcommands]
      exact List.mem_append_right _ List.mem_cons_self
    have hempty := h.stopping.1 hstop
    rw [hphase] at hempty
    cases hempty
  | @sort batch hphase hrun =>
    have hstopping := h.stopping
    rw [hphase] at hstopping
    exact ⟨hstopping.trans (s.sort_stopping_iff batch).symm, fun _ hl => Nat.le_of_eq (sort_ticking hl),
      fun hr => absurd (hrun.symm.trans hr) (by simp)⟩
  | @serve left job rest hphase hactive hrun =>
    have hstopping := h.stopping
    have hle := h.ticking_le _ hphase
    rw [hphase] at hstopping
    rw [hactive, List.length_cons] at hle
    refine ⟨hstopping, ?_, fun hr => absurd (hrun.symm.trans hr) (by simp)⟩
    intro left' hleft
    cases hleft
    have hlength := serve_length_le s.runner.config job rest s.runner.ledger
    dsimp only
    omega
  | tickEnd hphase hrun =>
    have hstopping := h.stopping
    rw [hphase] at hstopping
    refine ⟨hstopping.trans ?_, nofun, fun hr => absurd (hrun.symm.trans hr) (by simp)⟩
    simp [Phase.Stopping]
  | abandon hphase hactive hrun =>
    refine ⟨h.stopping, ?_, fun hr => absurd (hrun.symm.trans hr) (by simp)⟩
    intro left hleft
    rw [hphase] at hleft
    cases hleft
  | finish hphase hactive => exact ⟨h.stopping, h.ticking_le, fun _ => ⟨hphase, hactive⟩⟩

theorem Orderly.moves (hm : Moves s t) (h : Orderly s) : Orderly t :=
  ⟨h.sent.moves hm, h.tracked.moves hm, h.obeying.moves h.sent hm⟩

theorem orderly_run {config : Config} {r : Runner} (h : Runner.start config = .ok r)
    (events : List Event) : Orderly (Session.run { runner := r } events) :=
  run_keeps (fun _ _ => Orderly.moves) (orderly_start h) events

/-! ## Reports -/

theorem mem_replies {r : Runner} {id : Nat} {report : Report} :
    report ∈ r.replies id ↔ (id, report) ∈ r.ledger.reports := by
  simp [Runner.replies]

theorem length_replies (r : Runner) (id : Nat) :
    (r.replies id).length = (r.ledger.reports.map Prod.fst).count id := by
  unfold Runner.replies
  rw [List.length_map, ← List.countP_eq_length_filter, List.count, List.countP_map]
  rfl

theorem lookup_reports (r : Runner) (id : Nat) :
    r.ledger.reports.lookup id = (r.replies id).head? := by
  unfold Runner.replies
  induction r.ledger.reports with
  | nil => rfl
  | cons e reports ih =>
    rw [List.lookup_cons, List.filter_cons]
    by_cases h : e.1 = id
    · simp [h]
    · have hne : (id == e.1) = false := beq_eq_false_iff_ne.2 (Ne.symm h)
      simp [h, hne, ih]

/-- A script that was accepted is reported once or on its way once; any other is neither. -/
theorem Tracked.count (h : Tracked s) (id : Nat) :
    (s.runner.replies id).length + (s.jobs.map Job.id).count id =
      if id < s.runner.nextId then 1 else 0 := by
  rw [length_replies, ← List.count_append, h.count_eq id, List.count_range]

/-- A worker that has returned leaves no script behind. -/
theorem Orderly.jobs_eq_nil (h : Orderly s) (hreturned : s.runner.returned = true) : s.jobs = [] := by
  obtain ⟨hphase, hactive⟩ := h.obeying.returned hreturned
  have hstop : .shutdown ∈ s.taken := h.obeying.stopping.2 (by rw [hphase]; trivial)
  have hchannel := h.sent.channel_eq_nil hstop
  unfold jobs
  rw [hphase, hactive, hchannel]
  rfl

theorem Orderly.exists_reply (h : Orderly s) (hreturned : s.runner.returned = true) {id : Nat}
    (hid : id < s.accepted.length) : ∃ report, s.runner.replies id = [report] := by
  have hcount := h.tracked.count id
  rw [h.jobs_eq_nil hreturned, ← h.sent.accepted_length, if_pos hid] at hcount
  exact List.length_eq_one_iff.1 hcount

theorem await_of_returned {r : Runner} (h : r.returned = true) (id n : Nat) : r.await id n = r := by
  cases n with
  | zero => rfl
  | succ n => simp [Runner.await, h]

/-- After the end of the worker, waiting gives the report at once, unless it was taken before. -/
theorem wait_of_reply {r : Runner} {id : Nat} {report : Report} (hreturned : r.returned = true)
    (hreply : r.replies id = [report]) (hid : id ∉ r.collected) (n : Nat) :
    (r.wait id n).1 = .ok report := by
  have hlookup : r.ledger.reports.lookup id = some report := by
    rw [lookup_reports, hreply]
    rfl
  simp [Runner.wait, await_of_returned hreturned, Runner.collect, hid, hlookup]

theorem settled_of_replies {r : Runner} {count : Nat} (hreturned : r.returned = true)
    (hreplies : ∀ id < count, ∃ report, r.replies id = [report]) : r.Settled count := by
  intro id hid
  obtain ⟨report, hreply⟩ := hreplies id hid
  exact ⟨report, hreply, fun hnot n => wait_of_reply hreturned hreply hnot n⟩

theorem Orderly.settled (h : Orderly s) (hreturned : s.runner.returned = true) :
    s.runner.Settled s.accepted.length :=
  settled_of_replies hreturned fun _ hid => h.exists_reply hreturned hid

theorem Orderly.replies_eq_nil (h : Orderly s) {id : Nat} (hid : s.accepted.length ≤ id) :
    s.runner.replies id = [] := by
  have hcount := h.tracked.count id
  rw [← h.sent.accepted_length, if_neg (by omega)] at hcount
  exact List.length_eq_zero_iff.1 (by omega)

/-! ## Closing -/

theorem Moves.closed (hm : Moves s t) (h : s.runner.accepting = false) :
    t.runner.accepting = false := by
  cases hm with
  | close => rfl
  | rest | submit | collect | take | leave | sort | serve | tickEnd | abandon | finish => exact h

theorem close_closed (s : Session) : s.close.runner.accepting = false := by
  unfold close Runner.close
  split
  next => rfl
  next h => exact Bool.eq_false_iff.2 h

theorem Moves.accepted_of_closed (hm : Moves s t) (h : s.runner.accepting = false) :
    t.accepted = s.accepted := by
  cases hm with
  | submit m haccepting => simp [h] at haccepting
  | rest | close | collect | take | leave | sort | serve | tickEnd | abandon | finish => rfl

/-- After a shutdown no script is accepted, whatever happens. -/
theorem run_closed (s : Session) (later : List Event) :
    (s.close.run later).runner.accepting = false ∧ (s.close.run later).accepted = s.accepted := by
  refine run_keeps (P := fun t => t.runner.accepting = false ∧ t.accepted = s.accepted) ?_
    ⟨s.close_closed, rfl⟩ later
  rintro t u hm ⟨hclosed, haccepted⟩
  exact ⟨hm.closed hclosed, (hm.accepted_of_closed hclosed).trans haccepted⟩

theorem Orderly.run_close (h : Orderly s) (later : List Event) : Orderly (s.close.run later) :=
  run_keeps (fun _ _ => Orderly.moves) (h.moves s.close_moves) later

theorem submit_of_closed {r : Runner} (h : r.accepting = false) (m : Machine) :
    r.submit m = .error .stopped := by
  simp [Runner.submit, h]

theorem shutdown_of_closed {r : Runner} (h : r.accepting = false) : r.shutdown = r := by
  simp [Runner.shutdown, h]

/-- A runner that was shut down takes nothing any more. -/
theorem refuses_of_closed (h : s.runner.accepting = false) :
    (∀ m, s.runner.submit m = .error .stopped ∧ s.step (.submit m) = s) ∧
      s.step .close = s ∧ s.runner.shutdown = s.runner := by
  refine ⟨fun m => ⟨submit_of_closed h m, ?_⟩, ?_, shutdown_of_closed h⟩
  · simp only [step, submit, submit_of_closed h m]
  · simp [step, close, Runner.close, h]

/-- Without a shutdown, an event leaves the runner open and accepts what it submits. -/
theorem step_open (h : s.runner.accepting = true) {e : Event} (he : e ≠ .close) :
    (s.step e).runner.accepting = true ∧ (s.step e).accepted = s.accepted ++ e.machine?.toList := by
  cases e with
  | submit m => simp [step, submit, Runner.submit, h, Event.machine?]
  | close => exact absurd rfl he
  | collect id =>
    simp only [step, collect, Runner.collect]
    split
    next hr =>
      split at hr
      · cases hr
      · obtain ⟨report, -, heq⟩ := Option.map_eq_some_iff.1 hr
        cases heq
        simp [h, Event.machine?]
    next => simp [h, Event.machine?]
  | take =>
    simp only [step, take]
    split
    · split <;> simp [h, Event.machine?]
    · simp [h, Event.machine?]
  | work =>
    simp only [step, work]
    split
    · simp [h, Event.machine?]
    · split
      · split <;> simp [sort, h, Event.machine?]
      · unfold serve
        split <;> simp [h, Event.machine?]
      · unfold abandon
        split <;> simp [h, Event.machine?]

/-- A runner that was not shut down is open and has accepted what was submitted, in that order. -/
theorem run_open {events : List Event} (hopen : .close ∉ events) (h : s.runner.accepting = true) :
    (s.run events).runner.accepting = true ∧
      (s.run events).accepted = s.accepted ++ events.filterMap Event.machine? := by
  induction events generalizing s with
  | nil => simp [h]
  | cons e events ih =>
    rw [List.mem_cons, not_or] at hopen
    obtain ⟨haccepting, haccepted⟩ := step_open h (Ne.symm hopen.1)
    obtain ⟨hlast, hall⟩ := ih hopen.2 haccepting
    refine ⟨hlast, ?_⟩
    rw [run_cons, hall, haccepted, List.append_assoc]
    cases hm : e.machine? <;> simp [hm]

/-! ## A worker left alone -/

theorem isWorker_of_replicate {n : Nat} {e e' : Event} (he : e.isWorker = true)
    (h : e' ∈ List.replicate n e) : e'.isWorker = true := by
  rw [(List.mem_replicate.1 h).2]
  exact he

/-- The worker on its own can bring a session there. -/
def Reaches (s : Session) (P : Session → Prop) : Prop :=
  ∃ work : List Event, (∀ e ∈ work, e.isWorker = true) ∧ P (s.run work)

variable {P Q : Session → Prop}

theorem Reaches.here (h : P s) : s.Reaches P := ⟨[], by simp, h⟩

theorem Reaches.after {n : Nat} {e : Event} (he : e.isWorker = true)
    (h : (s.run (List.replicate n e)).Reaches P) : s.Reaches P := by
  obtain ⟨work, hwork, hlast⟩ := h
  refine ⟨List.replicate n e ++ work, ?_, by rwa [run_append]⟩
  intro e' he'
  rcases List.mem_append.1 he' with hmem | hmem
  · exact isWorker_of_replicate he hmem
  · exact hwork e' hmem

theorem Reaches.mono (h : s.Reaches P) (hmono : ∀ t, P t → Q t) : s.Reaches Q := by
  obtain ⟨work, hwork, hlast⟩ := h
  exact ⟨work, hwork, hmono _ hlast⟩

/-- What a worker that gathers commands can reach, every worker can: it first ends its tick, or returns. -/
theorem reaches_of_gathering (hmoves : ∀ s t, Moves s t → Q s → Q t) (horderly : ∀ s, Q s → Orderly s)
    (hgathering : ∀ t batch, Q t → t.runner.returned = false → t.phase = .gathering batch →
      t.Reaches P)
    (hreturned : ∀ t, Q t → t.runner.returned = true → P t) (h : Q s) : s.Reaches P := by
  cases hrun : s.runner.returned with
  | true => exact .here (hreturned s h hrun)
  | false =>
    cases hphase : s.phase with
    | gathering batch => exact hgathering s batch h hrun hphase
    | ticking left =>
      have hle := (horderly s h).obeying.ticking_le left hphase
      have hkeeps := run_keeps hmoves h (List.replicate (left + 1) .work)
      have htick := run_ticking hphase hrun hle
      rw [htick] at hkeeps
      refine .after (n := left + 1) (e := .work) rfl ?_
      rw [htick]
      exact hgathering _ [] hkeeps hrun rfl
    | abandoning =>
      have hkeeps := run_keeps hmoves h (List.replicate (s.runner.active.length + 1) .work)
      have habandon := run_abandoning hphase hrun
      refine .after (n := s.runner.active.length + 1) (e := .work) rfl (.here ?_)
      rw [habandon] at hkeeps ⊢
      exact hreturned _ hkeeps rfl

/-- A worker that gathers commands takes them all, and with them the shutdown. -/
theorem Orderly.return_of_gathering (h : Orderly s) (hclosed : s.runner.accepting = false)
    (hrun : s.runner.returned = false) {batch : List Command} (hphase : s.phase = .gathering batch) :
    s.Reaches fun t => t.runner.returned = true := by
  have htake := run_take hphase hrun s.runner.channel.length
  rw [List.take_length, List.drop_length] at htake
  have hstop : .shutdown ∈ batch ++ s.runner.channel := by
    have hmem : .shutdown ∈ s.taken ++ s.runner.channel := by
      rw [h.sent.of_closed hclosed]
      exact List.mem_append_right _ List.mem_cons_self
    rw [List.mem_append, h.obeying.stopping, hphase] at hmem
    exact List.mem_append.2 hmem
  have hbusy : (s.runner.active.isEmpty && (batch ++ s.runner.channel).isEmpty) = false := by
    rw [Bool.and_eq_false_iff]
    exact .inr (List.isEmpty_eq_false_iff_exists_mem.2 ⟨_, hstop⟩)
  obtain ⟨k, hk⟩ := run_pass (s := { s with
    runner := { s.runner with channel := [] }
    phase := .gathering (batch ++ s.runner.channel)
    taken := s.taken ++ s.runner.channel }) rfl hrun hbusy
  rw [if_pos ((shutdown_mem_iff_any _).1 hstop)] at hk
  refine .after (n := s.runner.channel.length) (e := .take) rfl ?_
  rw [htake]
  refine .after (n := k) (e := .work) rfl (.here ?_)
  rw [hk]
  rfl

/-- A worker that takes the shutdown is at its end after the same pass. -/
theorem close_fullRound_returned {r : Runner} (h : r.accepting = true) :
    r.close.fullRound.returned = true := by
  have hchannel : r.close.channel = r.channel ++ [.shutdown] := by simp [Runner.close, h]
  have hstop : r.close.channel.any Command.isShutdown = true := by
    rw [hchannel, ← shutdown_mem_iff_any]
    exact List.mem_append_right _ List.mem_cons_self
  have hsome : r.close.channel.isEmpty = false := by simp [hchannel]
  unfold Runner.fullRound Runner.round
  simp only [List.take_length, hstop, hsome, Bool.and_false, if_true]
  split
  next hreturned => exact hreturned
  next => rfl

/-- Taking reports is up to the host. -/
theorem fullRound_collected (r : Runner) : r.fullRound.collected = r.collected := by
  unfold Runner.fullRound Runner.round
  dsimp only
  split
  · rfl
  split
  · rfl
  split <;> rfl

/-- **A shutdown of a runner between two rounds** is the shutdown of a session, followed by a pass of its
worker. -/
theorem close_reaches_shutdown (hphase : s.phase = .gathering [])
    (haccepting : s.runner.accepting = true) :
    s.close.Reaches fun t => t.runner.returned = true ∧
      t.runner.collected = s.runner.collected ∧ s.runner.shutdown = t.runner.note .stopped := by
  have hclose : s.close.phase = .gathering [] := hphase
  obtain ⟨k, hround, -⟩ := round_of_events hclose s.close.runner.channel.length
  refine .after (n := s.close.runner.channel.length) (e := .take) rfl ?_
  refine .after (n := k) (e := .work) rfl (.here ?_)
  rw [← run_append, hround]
  refine ⟨close_fullRound_returned haccepting, ?_, ?_⟩
  · refine (fullRound_collected s.runner.close).trans ?_
    simp [Runner.close, haccepting]
  · simp only [Runner.shutdown, if_pos haccepting]
    rfl

/-- **The worker of a closed runner can come to its end,** whatever it is doing. -/
theorem Orderly.exists_return (h : Orderly s) (hclosed : s.runner.accepting = false) :
    s.Reaches fun t => t.runner.returned = true :=
  reaches_of_gathering (Q := fun t => Orderly t ∧ t.runner.accepting = false)
    (fun _ _ hm hs => ⟨hs.1.moves hm, hm.closed hs.2⟩) (fun _ hs => hs.1)
    (fun _ _ hs hrun hphase => hs.1.return_of_gathering hs.2 hrun hphase) (fun _ _ hr => hr)
    ⟨h, hclosed⟩

end Session

/-- **Every accepted script is reported exactly once.** In every order of the events of host and worker:

* the commands sent are the accepted scripts, the first with number 0, and at most one shutdown at the
  end;
* while the runner is not shut down, the accepted scripts are those that were submitted, in that order,
  and the next one is accepted under the next number;
* no script is ever reported twice, and a number that was not given out is not reported;
* a worker that has returned has taken the shutdown and reported every accepted script, and waiting for
  a report that was not taken before gives it;
* once the runner was shut down, whatever happens then, a submission is refused and changes nothing, a
  second shutdown changes nothing, and the worker can still come to its end, where it has reported the
  scripts that were accepted before the shutdown;
* a shutdown between two rounds of the worker leaves the runner closed and the worker at its end, every
  accepted script with one report and no other number with any, and the reports taken so far as they
  were. It is what the worker comes to by itself once it is told. -/
theorem reported_once {config : Config} {r : Runner} (h : Runner.start config = .ok r)
    (events : List Event) :
    let s := Session.run { runner := r } events
    (s.taken ++ s.runner.channel = s.accepted.mapIdx (fun id m => .run ⟨id, m⟩) ++
        if s.runner.accepting then [] else [.shutdown]) ∧
    (.close ∉ events → s.accepted = events.filterMap Event.machine? ∧
      ∀ m, ∃ r', s.runner.submit m = .ok (r', s.accepted.length)) ∧
    (∀ id, (s.runner.replies id).length ≤ 1 ∧
      (s.accepted.length ≤ id → s.runner.replies id = [])) ∧
    (s.runner.returned = true → .shutdown ∈ s.taken ∧ s.runner.Settled s.accepted.length) ∧
    (∀ later, let t := s.close.run later
      (∀ m, t.runner.submit m = .error .stopped ∧ t.step (.submit m) = t) ∧
      t.step .close = t ∧ t.runner.shutdown = t.runner ∧
      (∃ work : List Event, (∀ e ∈ work, e.isWorker = true) ∧
        (t.run work).runner.returned = true) ∧
      (t.runner.returned = true → t.accepted = s.accepted ∧ t.runner.Settled s.accepted.length)) ∧
    (s.phase = .gathering [] → s.runner.accepting = true →
      let t := s.runner.shutdown
      t.accepting = false ∧ t.returned = true ∧ t.collected = s.runner.collected ∧
      t.Settled s.accepted.length ∧ (∀ id, s.accepted.length ≤ id → t.replies id = []) ∧
      (∀ m, t.submit m = .error .stopped) ∧ t.shutdown = t ∧
      ∃ work : List Event, (∀ e ∈ work, e.isWorker = true) ∧
        t = (s.close.run work).runner.note .stopped) := by
  intro s
  have hs : s.Orderly := Session.orderly_run h events
  refine ⟨hs.sent.commands, ?_, ?_, ?_, ?_, ?_⟩
  · intro hopen
    have hstart : r.accepting = true := by rw [Runner.start_eq h]
    obtain ⟨haccepting, haccepted⟩ := Session.run_open (s := { runner := r }) hopen hstart
    refine ⟨haccepted, ?_⟩
    intro m
    change s.runner.accepting = true at haccepting
    simp [Runner.submit, haccepting, hs.sent.accepted_length]
  · intro id
    refine ⟨?_, fun hid => hs.replies_eq_nil hid⟩
    have hcount := hs.tracked.count id
    split at hcount <;> omega
  · intro hreturned
    refine ⟨hs.obeying.stopping.2 ?_, hs.settled hreturned⟩
    rw [(hs.obeying.returned hreturned).1]
    trivial
  · intro later t
    obtain ⟨hclosed, haccepted⟩ := s.run_closed later
    have ht : t.Orderly := hs.run_close later
    obtain ⟨hsubmit, hclose, hshutdown⟩ := Session.refuses_of_closed hclosed
    refine ⟨hsubmit, hclose, hshutdown, ht.exists_return hclosed, fun hreturned => ⟨haccepted, ?_⟩⟩
    rw [← haccepted]
    exact ht.settled hreturned
  · intro hphase haccepting t
    obtain ⟨work, hwork, hreturned, hcollected, hshutdown⟩ :=
      Session.close_reaches_shutdown hphase haccepting
    obtain ⟨hclosed, haccepted⟩ := s.run_closed work
    have hu : (s.close.run work).Orderly := hs.run_close work
    -- the last notice leaves everything but the journal as it is
    have hlast : t = (s.close.run work).runner.note .stopped := hshutdown
    have htclosed : t.accepting = false := by rw [hlast]; exact hclosed
    have htreturned : t.returned = true := by rw [hlast]; exact hreturned
    have hreplies : ∀ id, t.replies id = (s.close.run work).runner.replies id := by
      intro id
      rw [hlast]
      rfl
    refine ⟨htclosed, htreturned, by rw [hlast]; exact hcollected, ?_, ?_,
      Session.submit_of_closed htclosed, Session.shutdown_of_closed htclosed, work, hwork, hlast⟩
    · refine Session.settled_of_replies htreturned fun id hid => ?_
      rw [hreplies]
      exact hu.exists_reply hreturned (haccepted ▸ hid)
    · intro id hid
      rw [hreplies]
      exact hu.replies_eq_nil (haccepted ▸ hid)

/-- A shutdown that is sent while the first of two scripts is in its slice, and taken together with the
second script; and one that finds both scripts still on their way. -/
theorem reported_once_of_late_script :
    let spin : Program := { instructions := [.jump .always 0] }
    let events : List Event := [.submit (.load {}), .take, .work, .submit (.load spin), .close, .work,
      .collect 0, .work, .take, .take, .work, .work, .work, .submit (.load {})]
    let r : Runner := { config := { perTick := 2 }, ledger := { journal := #[.started] } }
    let s := Session.run { runner := r } events
    let t := (Session.run { runner := r } [.submit (.load {}), .submit (.load spin)]).runner.shutdown
    Runner.start { perTick := 2 } = .ok r ∧ s.runner.returned = true ∧ s.accepted.length = 2 ∧
      (s.runner.replies 0).length = 1 ∧
      (∃ report, s.runner.replies 1 = [report] ∧ (s.runner.wait 1 0).1 = .ok report) ∧
      t.returned = true ∧ ∃ report, t.replies 1 = [report] ∧ (t.wait 1 0).1 = .ok report := by
  intro spin events r
  have hstart : Runner.start { perTick := 2 } = .ok r := rfl
  have honce := reported_once hstart events
  have hreturned : (Session.run { runner := r } events).runner.returned = true := by decide +kernel
  have hlength : (Session.run { runner := r } events).accepted.length = 2 := by decide +kernel
  have hkept : 1 ∉ (Session.run { runner := r } events).runner.collected := by decide +kernel
  obtain ⟨-, -, -, -, -, hshutdown⟩ :=
    reported_once hstart [.submit (.load {}), .submit (.load spin)]
  obtain ⟨-, htreturned, -, htsettled, -⟩ := hshutdown rfl rfl
  obtain ⟨last, hlast, htwait⟩ := htsettled 1 (by decide)
  -- nothing below looks into the run any more
  generalize Session.run { runner := r } events = s at honce hreturned hlength hkept ⊢
  obtain ⟨-, hsettled⟩ := honce.2.2.2.1 hreturned
  obtain ⟨first, hfirst, -⟩ := hsettled 0 (by omega)
  obtain ⟨second, hsecond, hwait⟩ := hsettled 1 (by omega)
  exact ⟨hstart, hreturned, hlength, congrArg List.length hfirst, ⟨second, hsecond, hwait hkept 0⟩,
    htreturned, last, hlast, htwait (by decide +kernel) 0⟩

end ScriptMachine
