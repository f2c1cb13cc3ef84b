import ScriptMachine.Proofs.Pace

/-!
# Who is abandoned

A worker that was told to shut down reports every script of its queue as abandoned and does not look at
the scripts. One that had a slice is in the queue only because it can go on (`Keeps.stays`). One that had
none is there as it was submitted, and may have ended before that: it is reported as abandoned all the
same. No other report is wrong about the state of its script (`Tells.faithful`, `Tells.abandoned_iff`).
-/

namespace ScriptMachine

namespace Machine

variable {m : Machine}

/-- A script that has ended does not come back to life. -/
theorem step_state_ne_running (h : m.state ≠ .running) : m.step.state ≠ .running := by
  intro hrunning
  have hfault := no_fault_of_running hrunning
  rcases m.step_cases with ⟨-, hstep⟩ | ⟨i, a, s, hi, -, hstep⟩ | ⟨i, e, s, -, -, hstep⟩
  · rw [hstep] at hrunning
    exact h hrunning
  · -- it would have been running before, since no action clears a fault
    rw [hstep, perform_fault] at hfault
    have hnext : ¬ m.next? = none := by rw [hi]; simp
    rw [next?_eq_none_iff, Bool.not_eq_true] at hnext
    exact h (by simp [state, hfault, hnext])
  · rw [hstep] at hfault
    cases hfault

end Machine

namespace Config

variable {config : Config} {first job : Job} {v : Machine} {n : Nat}

theorem iterate_served_state_ne_running (h : v.state ≠ .running) (n : Nat) :
    (config.served^[n] v).state ≠ .running := by
  induction n with
  | zero => exact h
  | succ n ih =>
    rw [Function.iterate_succ_apply']
    exact Machine.run_keeps (P := fun m => m.state ≠ .running)
      (fun _ => Machine.step_state_ne_running) _ ih

theorem Keeps.machine_eq (h : config.Keeps first n job) :
    job.machine = config.served^[n] first.machine := by
  have hsemiconj : Function.Semiconj Job.machine config.sliced config.served := fun _ => rfl
  rw [h.eq_sliced]
  exact hsemiconj.iterate_right n first

/-- The report on a script that was accepted as `v` and had `n` slices. -/
structure Tells (config : Config) (v : Machine) (n : Nat) (report : Report) : Prop where
  steps_eq : report.steps = (config.served^[n] v).steps
  symbols_eq : report.symbols = (config.served^[n] v).symbols
  of_abandoned : report.outcome = .abandoned → 0 < n → (config.served^[n] v).state = .running
  of_ended : report.outcome ≠ .abandoned →
    0 < n ∧ report.outcome = (config.served^[n] v).state.outcome

/-- A script that leaves after its slice. -/
theorem Keeps.tells (h : config.Keeps first n job) :
    config.Tells first.machine (n + 1) (config.sliced job).lastReport.2 := by
  have hserved : config.served^[n + 1] first.machine = (config.sliced job).machine := by
    rw [Function.iterate_succ_apply', ← h.machine_eq]
    rfl
  refine ⟨by rw [hserved]; rfl, by rw [hserved]; rfl, ?_, ?_⟩
  · intro habandoned
    exact absurd habandoned (ExecState.outcome_ne_abandoned _)
  · intro _
    rw [hserved]
    exact ⟨Nat.succ_pos n, rfl⟩

/-- A script that is given up. -/
theorem Keeps.tells_abandoned (h : config.Keeps first n job) :
    config.Tells first.machine n (job.report .abandoned) := by
  refine ⟨by rw [← h.machine_eq]; rfl, by rw [← h.machine_eq]; rfl, ?_, ?_⟩
  · intro _ hn
    rw [← h.machine_eq]
    exact (h.stays hn).1
  · intro hne
    exact absurd rfl hne

end Config

/-! ## Scripts and their slices -/

/-- The scripts in a queue and the reports that were sent, against what was accepted under their numbers
and the turns that were taken so far. -/
structure Accounts (config : Config) (accepted : List Machine) (turns : List Nat) (queue : List Job)
    (reports : List (Nat × Report)) : Prop where
  keeps : ∀ job ∈ queue, ∃ v, accepted[job.id]? = some v ∧
    config.Keeps ⟨job.id, v⟩ (turns.count job.id) job
  tells : ∀ e ∈ reports, ∃ v, accepted[e.1]? = some v ∧ config.Tells v (turns.count e.1) e.2

namespace Accounts

variable {config : Config} {accepted later : List Machine} {turns : List Nat} {queue rest : List Job}
  {job : Job} {reports : List (Nat × Report)}

theorem accept (h : Accounts config accepted turns queue reports) (hlater : accepted <+: later) :
    Accounts config later turns queue reports := by
  refine ⟨?_, ?_⟩
  · intro job hjob
    obtain ⟨v, hv, hkeeps⟩ := h.keeps job hjob
    exact ⟨v, Session.getElem?_of_prefix hlater hv, hkeeps⟩
  · intro e he
    obtain ⟨v, hv, htells⟩ := h.tells e he
    exact ⟨v, Session.getElem?_of_prefix hlater hv, htells⟩

/-- Those who join the queue are as they were accepted, and had no turn. -/
theorem join (h : Accounts config accepted turns queue reports) {new : List Job}
    (hnew : ∀ job ∈ new, accepted[job.id]? = some job.machine ∧ job.id ∉ turns) :
    Accounts config accepted turns (queue ++ new) reports := by
  refine ⟨?_, h.tells⟩
  intro job hjob
  rcases List.mem_append.1 hjob with hjob | hjob
  · exact h.keeps job hjob
  · obtain ⟨hv, hturn⟩ := hnew job hjob
    rw [List.count_eq_zero.2 hturn]
    exact ⟨job.machine, hv, .start config job⟩

/-- The one at the front is given up. -/
theorem abandon (h : Accounts config accepted turns (job :: rest) reports) :
    Accounts config accepted turns rest (reports ++ [(job.id, job.report .abandoned)]) := by
  refine ⟨fun other hother => h.keeps other (List.mem_cons_of_mem _ hother), ?_⟩
  intro e he
  rcases List.mem_append.1 he with he | he
  · exact h.tells e he
  · rw [List.mem_singleton.1 he]
    obtain ⟨v, hv, hkeeps⟩ := h.keeps job List.mem_cons_self
    exact ⟨v, hv, hkeeps.tells_abandoned⟩

/-- A turn of one leaves what is known of the others. -/
theorem turn (h : Accounts config accepted turns queue reports) {id : Nat}
    (hqueue : id ∉ queue.map Job.id) (hreports : id ∉ reports.map Prod.fst) :
    Accounts config accepted (turns ++ [id]) queue reports := by
  have hcount : ∀ other, other ≠ id → (turns ++ [id]).count other = turns.count other := by
    intro other hne
    rw [List.count_append, List.count_singleton, if_neg (by simpa using hne.symm), Nat.add_zero]
  refine ⟨?_, ?_⟩
  · intro job hjob
    rw [hcount job.id fun heq => hqueue (heq ▸ List.mem_map_of_mem hjob)]
    exact h.keeps job hjob
  · intro e he
    rw [hcount e.1 fun heq => hreports (heq ▸ List.mem_map_of_mem he)]
    exact h.tells e he

/-- The one at the front has its turn, and goes to the back of the queue or leaves. -/
theorem serve (h : Accounts config accepted turns (job :: rest) reports)
    (hdistinct : (reports.map Prod.fst ++ (job :: rest).map Job.id).Nodup) (journal : Journal) :
    Accounts config accepted (turns ++ [job.id]) (config.serve job rest ⟨reports, journal⟩).1
      (config.serve job rest ⟨reports, journal⟩).2.reports := by
  obtain ⟨v, hv, hkeeps⟩ := h.keeps job List.mem_cons_self
  obtain ⟨-, hids, hapart⟩ := List.nodup_append.1 hdistinct
  have hreports : job.id ∉ reports.map Prod.fst := fun hmem =>
    hapart _ hmem _ (List.mem_map_of_mem List.mem_cons_self) rfl
  have hcount : (turns ++ [job.id]).count job.id = turns.count job.id + 1 := by simp
  have hrest : Accounts config accepted turns rest reports :=
    ⟨fun other hother => h.keeps other (List.mem_cons_of_mem _ hother), h.tells⟩
  obtain ⟨hothers, hreported⟩ := hrest.turn (List.nodup_cons.1 hids).1 hreports
  by_cases hstays : config.Stays (config.sliced job)
  · rw [Config.serve_of_stays hstays]
    refine ⟨?_, hreported⟩
    intro other hother
    rcases List.mem_append.1 hother with hother | hother
    · exact hothers other hother
    · rw [List.mem_singleton.1 hother]
      exact ⟨v, hv, hcount ▸ hkeeps.slice hstays⟩
  · rw [Config.serve_of_not_stays hstays]
    refine ⟨hothers, ?_⟩
    intro e he
    rcases List.mem_append.1 he with he | he
    · exact hreported e he
    · rw [List.mem_singleton.1 he]
      exact ⟨v, hv, hcount ▸ hkeeps.tells⟩

end Accounts

namespace Session

variable {s t : Session} {config : Config} {turns : List Nat}

theorem Sent.accepted_of_mem (h : Sent s) {job : Job} (hjob : .run job ∈ s.taken ++ s.runner.channel) :
    s.accepted[job.id]? = some job.machine := by
  have hmem : .run job ∈ s.accepted.mapIdx submission := by
    rw [h.commands, List.mem_append] at hjob
    refine hjob.resolve_right ?_
    split <;> simp
  obtain ⟨id, hid, heq⟩ := List.mem_mapIdx.1 hmem
  cases heq
  exact List.getElem?_eq_getElem hid

/-- The commands in the worker's hands are among those that it has taken. -/
theorem Moves.batch_subset (hm : Moves s t) (h : s.phase.batch ⊆ s.taken) :
    t.phase.batch ⊆ t.taken := by
  cases hm with
  | rest | submit | close | collect | leave | finish | abandon => exact h
  | take hphase hchannel hrun =>
    rw [hphase] at h
    exact List.append_subset.2
      ⟨List.Subset.trans h (List.subset_append_left _ _), List.subset_append_right _ _⟩
  | sort hphase hrun =>
    rw [sort_batch]
    exact List.nil_subset _
  | serve | tickEnd => exact List.nil_subset _

theorem run_mem_batch {job : Job} (h : job ∈ s.phase.batch.filterMap Command.job?) :
    .run job ∈ s.phase.batch := by
  obtain ⟨command, hcommand, hsome⟩ := List.mem_filterMap.1 h
  cases command with
  | run other =>
    cases hsome
    exact hcommand
  | shutdown => cases hsome

/-- A session with the slices that were given so far. -/
structure Attended (config : Config) (s : Session) (turns : List Nat) : Prop where
  config_eq : s.runner.config = config
  sent : Sent s
  batch_subset : s.phase.batch ⊆ s.taken
  rotates : Rotates s turns
  accounts : Accounts config s.accepted turns s.runner.active s.runner.ledger.reports

theorem attended_start {r : Runner} (h : Runner.start config = .ok r) :
    Attended config { runner := r } [] := by
  have horderly := orderly_start h
  obtain rfl := Runner.start_eq h
  exact ⟨rfl, horderly.sent, List.nil_subset _, ⟨horderly.tracked, by simp, .start _⟩,
    by simp, by simp⟩

theorem Attended.moves {id? : Option Nat} (hm : Moves s t) (hs : Shifts s t id?)
    (h : Attended config s turns) : Attended config t (turns ++ id?.toList) := by
  refine ⟨hm.config_eq.trans h.config_eq, h.sent.moves hm, hm.batch_subset h.batch_subset,
    h.rotates.shifts hs (h.rotates.tracked.moves hm), ?_⟩
  refine Accounts.accept ?_ hm.accepted_prefix
  have haccounts := h.accounts
  cases hs with
  | @join new hnew hactive hledger =>
    rw [hactive, hledger, Option.toList_none, List.append_nil]
    refine haccounts.join ?_
    intro job hjob
    have hbatch := hnew job hjob
    refine ⟨h.sent.accepted_of_mem (List.mem_append_left _ (h.batch_subset (run_mem_batch hbatch))), ?_⟩
    intro hturn
    exact h.rotates.tracked.unseen hbatch (h.rotates.seen _ hturn)
  | @serve job rest hactive hrest hledger =>
    have hdistinct := h.rotates.tracked.nodup_seen
    rw [reported, queued, hactive] at hdistinct
    rw [hactive] at haccounts
    rw [hrest, hledger, h.config_eq]
    exact haccounts.serve hdistinct s.runner.ledger.journal
  | @abandon job rest hactive hrest hledger =>
    rw [hactive] at haccounts
    rw [hrest, hledger, Option.toList_none, List.append_nil]
    exact haccounts.abandon

theorem Attended.run (h : Attended config s turns) (events : List Event) :
    Attended config (s.run events) (turns ++ s.slices events) := by
  induction events generalizing s turns with
  | nil => simpa [slices] using h
  | cons e events ih =>
    rw [run_cons, slices, ← List.append_assoc]
    exact ih (h.moves (s.step_moves e) (s.step_shifts e))

end Session

namespace Config.Tells

variable {config : Config} {v : Machine} {n : Nat} {report : Report}

/-- The report on a script that was running when it came, or that had a slice, is right about it. -/
theorem faithful (h : config.Tells v n report) (hserved : v.state = .running ∨ 0 < n) :
    (report.outcome = .abandoned → (config.served^[n] v).state = .running) ∧
      ((config.served^[n] v).state ≠ .running →
        report.outcome = (config.served^[n] v).state.outcome) := by
  have hrunning : report.outcome = .abandoned → (config.served^[n] v).state = .running := by
    intro habandoned
    rcases Nat.eq_zero_or_pos n with rfl | hn
    · exact hserved.resolve_right (Nat.lt_irrefl 0)
    · exact h.of_abandoned habandoned hn
  refine ⟨hrunning, ?_⟩
  intro hended
  exact (h.of_ended fun habandoned => hended (hrunning habandoned)).2

/-- Of the scripts that had ended when they came, those that had no slice are abandoned. -/
theorem abandoned_iff (h : config.Tells v n report) (hended : v.state ≠ .running) :
    report.outcome = .abandoned ↔ n = 0 := by
  constructor
  · intro habandoned
    by_contra hn
    exact iterate_served_state_ne_running hended n (h.of_abandoned habandoned (Nat.pos_of_ne_zero hn))
  · intro hn
    by_contra hne
    have hpos := (h.of_ended hne).1
    omega

end Config.Tells

/-- **Who is reported as abandoned.** In every order of the events of host and worker, let a script have
been accepted as `v` and had `n` slices by now.

* While it is in the queue, it is what `n` slices have made of `v`, and its report speaks of that machine.
* Any other report than that it was abandoned gives the outcome of its state.
* If it was running when it was accepted, or had a slice, then it is reported as abandoned only if it is
  still running, and with the outcome of its state if it has finished or faulted.
* If it had finished or faulted before, then it is reported as abandoned exactly if it had no slice. -/
theorem abandoned_running {config : Config} {r : Runner} (h : Runner.start config = .ok r)
    (events : List Event) :
    let s := Session.run { runner := r } events
    let turns := Session.slices { runner := r } events
    (∀ job ∈ s.runner.active, ∃ v, s.accepted[job.id]? = some v ∧
      job.machine = config.served^[turns.count job.id] v) ∧
    ∀ id, ∀ report ∈ s.runner.replies id, ∃ v, s.accepted[id]? = some v ∧
      let n := turns.count id
      let m := config.served^[n] v
      (report.steps = m.steps ∧ report.symbols = m.symbols) ∧
      (report.outcome ≠ .abandoned → report.outcome = m.state.outcome) ∧
      (v.state = .running ∨ 0 < n →
        (report.outcome = .abandoned → m.state = .running) ∧
        (m.state ≠ .running → report.outcome = m.state.outcome)) ∧
      (v.state ≠ .running → (report.outcome = .abandoned ↔ n = 0)) := by
  intro s turns
  have hs : s.Attended config turns := (Session.attended_start h).run events
  refine ⟨?_, ?_⟩
  · intro job hjob
    obtain ⟨v, hv, hkeeps⟩ := hs.accounts.keeps job hjob
    exact ⟨v, hv, hkeeps.machine_eq⟩
  · intro id report hreply
    obtain ⟨v, hv, htells⟩ := hs.accounts.tells _ (Session.mem_replies.1 hreply)
    exact ⟨v, hv, ⟨htells.steps_eq, htells.symbols_eq⟩, fun hne => (htells.of_ended hne).2,
      htells.faithful, htells.abandoned_iff⟩

/-- Of two scripts that spin and an empty one, all of which had a slice, a shutdown abandons those that
spin. The empty one was reported before. -/
theorem abandoned_running_of_loops :
    let spin : Machine := .load { instructions := [.jump .always 0] }
    let events : List Event := [.submit spin, .submit (.load {}), .submit spin, .take, .take, .take, .work,
      .work, .work, .close, .work, .work, .take, .work, .work, .work]
    let r : Runner := { config := { perTick := 2 }, ledger := { journal := #[.started] } }
    let s := Session.run { runner := r } events
    Runner.start { perTick := 2 } = .ok r ∧ Session.slices { runner := r } events = [0, 1, 2] ∧
      [0, 1, 2].map (fun id => (s.runner.replies id).map (·.outcome)) =
        [[.abandoned], [.finished], [.abandoned]] ∧
      ∀ report ∈ s.runner.replies 0, ∃ v, s.accepted[0]? = some v ∧
        (Config.served { perTick := 2 } v).state = .running := by
  intro spin events r s
  have hstart : Runner.start { perTick := 2 } = .ok r := rfl
  have hslices : Session.slices { runner := r } events = [0, 1, 2] := by decide +kernel
  have hreplies : [0, 1, 2].map (fun id => (s.runner.replies id).map (·.outcome)) =
      [[.abandoned], [.finished], [.abandoned]] := by
    decide +kernel
  refine ⟨hstart, hslices, hreplies, ?_⟩
  intro report hreply
  have hfirst : (s.runner.replies 0).map (·.outcome) = [.abandoned] := (List.cons.inj hreplies).1
  have habandoned : report.outcome = .abandoned := by
    have hmem := List.mem_map_of_mem (f := (·.outcome)) hreply
    rw [hfirst] at hmem
    exact List.mem_singleton.1 hmem
  obtain ⟨v, hv, -, -, hfaithful, -⟩ := (abandoned_running hstart events).2 0 report hreply
  rw [hslices] at hfaithful
  exact ⟨v, hv, (hfaithful (.inr (by decide))).1 habandoned⟩

/-- **A script that has ended is abandoned.** A finished and a faulted script that are taken together with
the shutdown are reported as abandoned. -/
theorem abandoned_of_finished :
    let stray : Machine := .load { instructions := [.jump .always (-1)] }
    let events : List Event := [.submit (.load {}), .submit stray.step, .close, .take, .take, .take,
      .work, .work, .work]
    let r : Runner := { config := {}, ledger := { journal := #[.started] } }
    let s := Session.run { runner := r } events
    Runner.start {} = .ok r ∧
      s.accepted.map Machine.state =
        [.finished, .faulted ⟨0, .jump .always, .invalidJumpTarget (-1) 1⟩] ∧
      Session.slices { runner := r } events = [] ∧
      (s.runner.replies 0).map (·.outcome) = [.abandoned] ∧
      (s.runner.replies 1).map (·.outcome) = [.abandoned] := by
  intro stray events r s
  refine ⟨rfl, ?_, ?_, ?_, ?_⟩ <;> decide +kernel

end ScriptMachine
