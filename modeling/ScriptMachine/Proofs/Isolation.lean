import ScriptMachine.Proofs.Reporting
import ScriptMachine.Proofs.Verdict

/-!
# Scripts do not see each other

In every session, a script that was accepted is on the track of its own steps wherever it is, and its
report is taken from there (`Isolated`). What the neighbours of a script do, how commands are batched
and how slices are interleaved decide when the report is sent, never what it says.
-/

namespace ScriptMachine

open Machine

namespace Session

variable {s t : Session}

/-! ## What an event does to one script -/

theorem Moves.config_eq (hm : Moves s t) : t.runner.config = s.runner.config := by
  cases hm <;> rfl

theorem Moves.accepted_prefix (hm : Moves s t) : s.accepted <+: t.accepted := by
  cases hm with
  | submit m => exact List.prefix_append s.accepted [m]
  | rest | close | collect | take | leave | sort | serve | tickEnd | abandon | finish =>
    exact List.prefix_refl _

theorem Moves.taken_prefix (hm : Moves s t) : s.taken <+: t.taken := by
  cases hm with
  | take => exact List.prefix_append _ _
  | rest | submit | close | collect | leave | sort | serve | tickEnd | abandon | finish =>
    exact List.prefix_refl _

theorem front_mem_jobs {job : Job} {rest : List Job} (h : s.runner.active = job :: rest) :
    job ∈ s.jobs := by
  unfold jobs
  rw [h]
  exact List.mem_append_left _ List.mem_cons_self

/-- A script on its way was there before, has just been accepted, or has just been served. -/
theorem Moves.mem_jobs (hm : Moves s t) {job : Job} (h : job ∈ t.jobs) :
    job ∈ s.jobs ∨
      (job.id = s.runner.nextId ∧ t.accepted = s.accepted ++ [job.machine]) ∨
      ∃ before ∈ s.jobs, job = ⟨before.id, s.runner.config.served before.machine⟩ := by
  cases hm with
  | rest | collect | leave | finish => exact .inl h
  | submit m haccepting =>
    simp only [jobs, List.filterMap_append, List.mem_append] at h ⊢
    rcases h with h | h | h | h
    · exact .inl (.inl h)
    · exact .inl (.inr (.inl h))
    · exact .inl (.inr (.inr h))
    · rw [List.mem_singleton.1 h]
      exact .inr (.inl ⟨rfl, rfl⟩)
  | close haccepting => exact .inl (by simpa [jobs, Command.job?] using h)
  | take hphase hchannel hrun =>
    refine .inl ?_
    unfold jobs at h ⊢
    rw [hphase, hchannel]
    simpa [Phase.batch] using h
  | sort hphase hrun =>
    refine .inl ?_
    unfold jobs at h ⊢
    rw [sort_batch] at h
    rw [hphase]
    simpa [Session.sort, Phase.batch] using h
  | @serve left first rest hphase hactive hrun =>
    have hfirst := front_mem_jobs hactive
    unfold jobs at h hfirst ⊢
    rw [hactive, hphase] at hfirst ⊢
    rcases List.mem_append.1 h with hmem | hmem
    · rcases s.runner.config.serve_cases first rest s.runner.ledger with
        ⟨outcome, -, hrest, -⟩ | ⟨-, hrest, -⟩
      · rw [hrest] at hmem
        exact .inl (List.mem_append_left _ (List.mem_cons_of_mem _ hmem))
      · rw [hrest, List.mem_append, List.mem_singleton] at hmem
        rcases hmem with hmem | rfl
        · exact .inl (List.mem_append_left _ (List.mem_cons_of_mem _ hmem))
        · exact .inr (.inr ⟨first, hfirst, rfl⟩)
    · exact .inl (List.mem_append_right _ hmem)
  | tickEnd hphase hrun =>
    refine .inl ?_
    unfold jobs at h ⊢
    rw [hphase]
    exact h
  | abandon hphase hactive hrun =>
    refine .inl ?_
    unfold jobs at h ⊢
    rw [hactive]
    exact List.mem_cons_of_mem _ h

/-- A report was there before, or is that of a script which has just been served or given up. -/
theorem Moves.mem_reports (hm : Moves s t) {e : Nat × Report} (h : e ∈ t.runner.ledger.reports) :
    e ∈ s.runner.ledger.reports ∨
      ∃ job ∈ s.jobs, e.1 = job.id ∧
        ((∃ outcome, s.runner.config.outcome? (s.runner.config.served job.machine) = some outcome ∧
          e.2 = Job.report ⟨job.id, s.runner.config.served job.machine⟩ outcome) ∨
        s.phase = .abandoning ∧ e.2 = job.report .abandoned) := by
  cases hm with
  | rest | submit | close | collect | take | leave | sort | tickEnd | finish => exact .inl h
  | @serve left job rest hphase hactive hrun =>
    rcases s.runner.config.serve_cases job rest s.runner.ledger with
      ⟨outcome, houtcome, -, hreports⟩ | ⟨-, -, hreports⟩
    · rw [hreports, List.mem_append, List.mem_singleton] at h
      rcases h with h | rfl
      · exact .inl h
      · exact .inr ⟨job, front_mem_jobs hactive, rfl, .inl ⟨outcome, houtcome, rfl⟩⟩
    · rw [hreports] at h
      exact .inl h
  | @abandon job rest hphase hactive hrun =>
    rcases List.mem_append.1 h with h | h
    · exact .inl h
    · rw [List.mem_singleton.1 h]
      exact .inr ⟨job, front_mem_jobs hactive, rfl, .inr ⟨hphase, rfl⟩⟩

/-! ## The invariant -/

/-- Every script is on the track of the machine that was accepted under its number, and so was every
script that was reported; its report is abandoned only after a shutdown. -/
structure Isolated (config : Config) (s : Session) : Prop where
  config_eq : s.runner.config = config
  jobs_onTrack : ∀ job ∈ s.jobs, ∃ v, s.accepted[job.id]? = some v ∧ config.OnTrack v job.machine
  reports_onTrack : ∀ e ∈ s.runner.ledger.reports, ∃ v m outcome, s.accepted[e.1]? = some v ∧
    config.OnTrack v m ∧ e.2 = ⟨outcome, m.steps, m.symbols⟩ ∧
    (config.outcome? m = some outcome ∨ .shutdown ∈ s.taken ∧ outcome = .abandoned)

theorem isolated_start {config : Config} {r : Runner} (h : Runner.start config = .ok r) :
    Isolated config { runner := r } := by
  obtain rfl := Runner.start_eq h
  exact ⟨rfl, by simp [jobs, Phase.batch], by simp⟩

theorem getElem?_of_prefix {before after : List Machine} (h : before <+: after) {id : Nat}
    {v : Machine} (hv : before[id]? = some v) : after[id]? = some v := by
  obtain ⟨later, rfl⟩ := h
  obtain ⟨hlt, -⟩ := List.getElem?_eq_some_iff.1 hv
  rw [List.getElem?_append_left hlt]
  exact hv

theorem Isolated.moves {config : Config} (horderly : Orderly s) (hm : Moves s t)
    (h : Isolated config s) : Isolated config t := by
  have haccepted := hm.accepted_prefix
  refine ⟨hm.config_eq.trans h.config_eq, ?_, ?_⟩
  · intro job hjob
    rcases hm.mem_jobs hjob with hold | ⟨hid, hnew⟩ | ⟨before, hbefore, rfl⟩
    · obtain ⟨v, hv, htrack⟩ := h.jobs_onTrack job hold
      exact ⟨v, getElem?_of_prefix haccepted hv, htrack⟩
    · refine ⟨job.machine, ?_, .start config _⟩
      rw [hnew, hid, ← horderly.sent.accepted_length, List.getElem?_concat_length]
    · obtain ⟨v, hv, htrack⟩ := h.jobs_onTrack before hbefore
      rw [h.config_eq]
      exact ⟨v, getElem?_of_prefix haccepted hv, htrack.served⟩
  · intro e he
    rcases hm.mem_reports he with hold | ⟨job, hjob, hid, hnew⟩
    · obtain ⟨v, m, outcome, hv, htrack, hreport, hcause⟩ := h.reports_onTrack e hold
      refine ⟨v, m, outcome, getElem?_of_prefix haccepted hv, htrack, hreport, hcause.imp_right ?_⟩
      exact fun hstop => ⟨hm.taken_prefix.subset hstop.1, hstop.2⟩
    · obtain ⟨v, hv, htrack⟩ := h.jobs_onTrack job hjob
      rw [h.config_eq, ← hid] at hnew
      rw [← hid] at hv
      rcases hnew with ⟨outcome, houtcome, hreport⟩ | ⟨hphase, hreport⟩
      · exact ⟨v, _, outcome, getElem?_of_prefix haccepted hv, htrack.served, hreport, .inl houtcome⟩
      · -- the worker gives up scripts only when it has taken the shutdown
        have hstop : .shutdown ∈ s.taken := horderly.obeying.stopping.2 (by rw [hphase]; trivial)
        exact ⟨v, _, .abandoned, getElem?_of_prefix haccepted hv, htrack, hreport,
          .inr ⟨hm.taken_prefix.subset hstop, rfl⟩⟩

theorem isolated_run {config : Config} {r : Runner} (h : Runner.start config = .ok r)
    (events : List Event) : Isolated config (Session.run { runner := r } events) := by
  have hboth := run_keeps (P := fun s => Orderly s ∧ Isolated config s)
    (fun _ _ hm hs => ⟨hs.1.moves hm, hs.2.moves hs.1 hm⟩)
    ⟨orderly_start h, isolated_start h⟩ events
  exact hboth.2

theorem Isolated.job_onTrack {config : Config} (h : Isolated config s) {id : Nat} {v : Machine}
    (hv : s.accepted[id]? = some v) {job : Job} (hjob : job ∈ s.jobs) (hid : job.id = id) :
    config.OnTrack v job.machine := by
  obtain ⟨v', hv', htrack⟩ := h.jobs_onTrack job hjob
  rw [hid, hv] at hv'
  cases hv'
  exact htrack

theorem Isolated.reply_onTrack {config : Config} (h : Isolated config s) {id : Nat} {v : Machine}
    (hv : s.accepted[id]? = some v) {report : Report} (hreply : report ∈ s.runner.replies id) :
    ∃ m outcome, config.OnTrack v m ∧ report = ⟨outcome, m.steps, m.symbols⟩ ∧
      (config.outcome? m = some outcome ∨ .shutdown ∈ s.taken ∧ outcome = .abandoned) := by
  obtain ⟨v', m, outcome, hv', hrest⟩ := h.reports_onTrack _ (mem_replies.1 hreply)
  rw [hv] at hv'
  cases hv'
  exact ⟨m, outcome, hrest⟩

end Session

/-- **Scheduling is invisible to every script.** Take any order of the events of host and worker, and a
machine `v` that was accepted in it, however far a host had stepped it before:

* while it is on its way, it is where some number of its own steps brings it, and so is what its report
  says of it;
* a report that was sent before the worker took a shutdown, or any report that does not say that the
  script was abandoned, is the one report that the steps of `v` alone call for;
* a budget bounds its steps, unless it had more when it was submitted. -/
theorem report_isolated {config : Config} {r : Runner} (h : Runner.start config = .ok r)
    (events : List Event) {id : Nat} {v : Machine} {p : Program} {functions : Option Registry}
    (hv : (Session.run { runner := r } events).accepted[id]? = some v)
    (hreach : Reachable p functions v) :
    let s := Session.run { runner := r } events
    (∀ job ∈ s.jobs, job.id = id → ∃ k, job.machine = step^[k] v) ∧
    (∀ report ∈ s.runner.replies id,
      (∃ k, report.symbols = (step^[k] v).symbols ∧ report.steps = (step^[k] v).steps) ∧
      (.shutdown ∉ s.taken ∨ report.outcome ≠ .abandoned →
        config.Verdict v report ∧ ∀ other, config.Verdict v other → other = report)) ∧
    (∀ budget, config.budget = some budget →
      (∀ job ∈ s.jobs, job.id = id → job.machine.steps ≤ max budget v.steps) ∧
      ∀ report ∈ s.runner.replies id, report.steps ≤ max budget v.steps) := by
  intro s
  have hs : s.Isolated config := Session.isolated_run h events
  refine ⟨?_, ?_, ?_⟩
  · intro job hjob hid
    obtain ⟨k, hk, -⟩ := hs.job_onTrack hv hjob hid
    exact ⟨k, hk⟩
  · intro report hreply
    obtain ⟨m, outcome, htrack, rfl, hcause⟩ := hs.reply_onTrack hv hreply
    refine ⟨?_, ?_⟩
    · obtain ⟨k, rfl, -⟩ := htrack
      exact ⟨k, rfl, rfl⟩
    · intro hkept
      have houtcome : config.outcome? m = some outcome := by
        rcases hcause with houtcome | ⟨hstop, rfl⟩
        · exact houtcome
        · rcases hkept with hnot | hne
          · exact absurd hstop hnot
          · exact absurd rfl hne
      have hverdict := htrack.verdict hreach.inControl houtcome
      exact ⟨hverdict, fun _ hother => hother.unique hverdict⟩
  · intro budget hb
    refine ⟨fun job hjob hid => (hs.job_onTrack hv hjob hid).steps_le hb, ?_⟩
    intro report hreply
    obtain ⟨m, outcome, htrack, rfl, -⟩ := hs.reply_onTrack hv hreply
    exact htrack.steps_le hb

/-- Beside a script that never ends: one that ends with the last step of its budget, in the middle of a
slice, and one that was past the budget when it was submitted. -/
theorem report_isolated_beside_loop :
    let hops : Program := { instructions := [1, 2, 3, 4, 5].map (.jump .always) }
    let spin : Program := { instructions := [.jump .always 0] }
    let late := (Machine.load spin).run 7
    let config : Config := { perTick := 2, budget := some 5 }
    let events : List Event := [.submit (.load spin), .submit (.load hops), .take, .take, .work, .work,
      .submit late, .work, .work, .take] ++ List.replicate 12 .work
    let r : Runner := { config, ledger := { journal := #[.started] } }
    let s := Session.run { runner := r } events
    Runner.start config = .ok r ∧ s.accepted = [.load spin, .load hops, late] ∧
      (s.runner.replies 1).length = 1 ∧ (s.runner.replies 2).length = 1 ∧
      (∀ report ∈ s.runner.replies 1, report = ⟨.finished, 5, hops.symbols⟩) ∧
      ∀ report ∈ s.runner.replies 2, report = ⟨.budgetExhausted, 7, spin.symbols⟩ := by
  intro hops spin late config events r
  have hstart : Runner.start config = .ok r := rfl
  have haccepted : (Session.run { runner := r } events).accepted = [.load spin, .load hops, late] :=
    (Session.run_open (by simp [events]) rfl).2
  have hhops : (Session.run { runner := r } events).accepted[1]? = some (.load hops) := by
    rw [haccepted]
    rfl
  have hlate : (Session.run { runner := r } events).accepted[2]? = some late := by
    rw [haccepted]
    rfl
  have hverdict : config.Verdict (.load hops) ⟨.finished, 5, hops.symbols⟩ :=
    .inl ⟨5, by decide, ⟨by decide +kernel, by decide +kernel⟩, by decide +kernel⟩
  have hlateVerdict : config.Verdict late ⟨.budgetExhausted, 7, spin.symbols⟩ :=
    .inr ⟨by decide +kernel, by decide +kernel, by decide +kernel⟩
  have hfirst := report_isolated hstart events hhops (.load : Reachable hops none _)
  have hsecond := report_isolated hstart events hlate (.run 7 (.load : Reachable spin none _))
  have hlength : ((Session.run { runner := r } events).runner.replies 1).length = 1 := by
    decide +kernel
  have hlateLength : ((Session.run { runner := r } events).runner.replies 2).length = 1 := by
    decide +kernel
  have hany : (Session.run { runner := r } events).taken.any Command.isShutdown = false := by
    decide +kernel
  -- nothing below looks into the run any more
  generalize Session.run { runner := r } events = s at *
  have hopen : .shutdown ∉ s.taken := by
    rw [Session.shutdown_mem_iff_any, hany]
    simp
  refine ⟨hstart, haccepted, hlength, hlateLength, ?_, ?_⟩
  · intro report hreply
    have honly := ((hfirst.2.1 report hreply).2 (.inl hopen)).2
    exact (honly _ hverdict).symm
  · intro report hreply
    have honly := ((hsecond.2.1 report hreply).2 (.inl hopen)).2
    exact (honly _ hlateVerdict).symm

end ScriptMachine
