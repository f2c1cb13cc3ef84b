import Mathlib.Data.List.Nodup
import ScriptMachine.Proofs.Reporting

/-!
# Everyone in turn

A tick gives each script of the queue one slice. Those that can go on stand in the queue again, in the
order they had, and the others are reported in that order (`rotate_append`). New scripts join at the
back, so that between two slices of one script every other gets at most one, however ticks and arrivals
follow each other (`Rotation`).
-/

namespace ScriptMachine

/-! ## Notices -/

theorem Journal.append_append (journal : Journal) (before after : List Notice) :
    journal ++ before ++ after = journal ++ (before ++ after) :=
  Array.toList_inj.1 (by simp)

/-- The notices of a run. -/
def Machine.runNotices (m : Machine) (n : Nat) : List Notice := (m.record n #[]).2.toList

theorem Machine.record_eq_runNotices (m : Machine) (n : Nat) (journal : Journal) :
    (m.record n journal).2 = journal ++ m.runNotices n := by
  rw [record_snd]
  apply Array.toList_inj.1
  simp [runNotices]

/-- The report of a script that has come to its end, with the number it is sent under. -/
def Job.lastReport (job : Job) : Nat × Report := (job.id, job.report job.machine.state.outcome)

namespace Config

/-! ## One slice -/

/-- A script after its next slice. -/
def sliced (config : Config) (job : Job) : Job := { job with machine := config.served job.machine }

/-- A script goes on: it has not ended and is below the budget. -/
def Stays (config : Config) (job : Job) : Prop :=
  job.machine.state = .running ∧ ∀ budget ∈ config.budget, job.machine.steps < budget

instance (config : Config) (job : Job) : Decidable (config.Stays job) :=
  inferInstanceAs (Decidable (_ ∧ _))

/-- The notices of a script's next slice: those of one run, and then the end of a script that leaves. -/
def sliceNotices (config : Config) (job : Job) : List Notice :=
  job.machine.runNotices (config.slice job.machine) ++
    if config.Stays (config.sliced job) then []
    else [.retired job.id (config.sliced job).machine.steps
      (config.sliced job).machine.state.outcome]

theorem isExhausted_eq_false_iff (config : Config) (m : Machine) :
    config.isExhausted m = false ↔ ∀ budget ∈ config.budget, m.steps < budget := by
  unfold isExhausted
  cases config.budget with
  | none => simp
  | some budget => simp

theorem outcome?_of_stays {config : Config} {job : Job} (h : config.Stays job) :
    config.outcome? job.machine = none := by
  have hexhausted := (config.isExhausted_eq_false_iff job.machine).2 h.2
  simp [outcome?, h.1, hexhausted]

theorem outcome?_of_not_stays {config : Config} {job : Job} (h : ¬ config.Stays job) :
    config.outcome? job.machine = some job.machine.state.outcome := by
  unfold outcome?
  cases hstate : job.machine.state with
  | finished => rfl
  | faulted fault => rfl
  | running =>
    have hexhausted : config.isExhausted job.machine = true := by
      rw [← Bool.not_eq_false, isExhausted_eq_false_iff]
      exact fun hbelow => h ⟨hstate, hbelow⟩
    simp [hexhausted, ExecState.outcome]

theorem serve_of_stays {config : Config} {job : Job} (h : config.Stays (config.sliced job))
    (rest : List Job) (ledger : Ledger) :
    config.serve job rest ledger =
      (rest ++ [config.sliced job], ⟨ledger.reports, ledger.journal ++ config.sliceNotices job⟩) := by
  have houtcome : config.outcome? (config.served job.machine) = none := outcome?_of_stays h
  rw [serve_eq, houtcome, Machine.record_eq_runNotices, sliceNotices, if_pos h, List.append_nil]
  rfl

theorem serve_of_not_stays {config : Config} {job : Job} (h : ¬ config.Stays (config.sliced job))
    (rest : List Job) (ledger : Ledger) :
    config.serve job rest ledger =
      (rest, ⟨ledger.reports ++ [(config.sliced job).lastReport],
        ledger.journal ++ config.sliceNotices job⟩) := by
  have houtcome : config.outcome? (config.served job.machine) =
      some (config.sliced job).machine.state.outcome := outcome?_of_not_stays h
  rw [serve_eq, houtcome, Machine.record_eq_runNotices, sliceNotices, if_neg h,
    ← Journal.append_append]
  rfl

/-! ## A tick -/

/-- The scripts that go on, after a slice of each. -/
def kept (config : Config) (queue : List Job) : List Job :=
  (queue.map config.sliced).filter (config.Stays ·)

/-- The scripts that leave, after a slice of each. -/
def gone (config : Config) (queue : List Job) : List Job :=
  (queue.map config.sliced).filter (¬ config.Stays ·)

/-- **Serving a queue to its end.** Those that were served before wait behind it. -/
theorem rotate_append (config : Config) (queue waiting : List Job) (ledger : Ledger) :
    config.rotate queue.length (queue ++ waiting) ledger =
      (waiting ++ config.kept queue,
        { reports := ledger.reports ++ (config.gone queue).map Job.lastReport
          journal := ledger.journal ++ queue.flatMap config.sliceNotices }) := by
  induction queue generalizing waiting ledger with
  | nil => simp [rotate, kept, gone]
  | cons job queue ih =>
    rw [List.length_cons, List.cons_append, rotate]
    by_cases h : config.Stays (config.sliced job)
    · rw [serve_of_stays h]
      simp only [List.append_assoc, ih]
      simp [kept, gone, h, Journal.append_append]
    · rw [serve_of_not_stays h]
      simp only [ih]
      simp [kept, gone, h, Journal.append_append]

theorem tick_eq (config : Config) (queue : List Job) (ledger : Ledger) :
    config.tick queue ledger =
      (config.kept queue,
        { reports := ledger.reports ++ (config.gone queue).map Job.lastReport
          journal := ledger.journal ++ queue.flatMap config.sliceNotices }) := by
  have hrotate := config.rotate_append queue [] ledger
  rwa [List.append_nil, List.nil_append] at hrotate

end Config

/-! ## Turns -/

/-- A queue together with the turns that were taken so far. -/
structure Rotation (queue turns : List Nat) : Prop where
  /-- Between two turns of one nobody has two. -/
  fair : ∀ {before id between after}, turns = before ++ id :: (between ++ id :: after) →
    id ∉ between → between.Nodup
  /-- Since the last turn of one who waits nobody had two, and those ahead in the queue had none. -/
  behind : ∀ {before id between front back}, turns = before ++ id :: between → id ∉ between →
    queue = front ++ id :: back → between.Nodup ∧ ∀ other ∈ front, other ∉ between

namespace Rotation

variable {queue turns : List Nat} {id : Nat}

theorem start (queue : List Nat) : Rotation queue [] := by
  refine ⟨?_, ?_⟩
  · intro before id between after hturns
    simp at hturns
  · intro before id between front back hturns
    simp at hturns

/-- The one at the front goes. -/
theorem leave (h : Rotation (id :: queue) turns) : Rotation queue turns := by
  refine ⟨h.fair, ?_⟩
  intro before other between front back hturns hother hqueue
  have hcons : id :: queue = (id :: front) ++ other :: back := by rw [hqueue, List.cons_append]
  obtain ⟨hnodup, hfront⟩ := h.behind hturns hother hcons
  exact ⟨hnodup, fun another hmem => hfront another (List.mem_cons_of_mem _ hmem)⟩

theorem fair_concat (h : Rotation (id :: queue) turns) {before between after : List Nat} {other : Nat}
    (hturns : turns ++ [id] = before ++ other :: (between ++ other :: after))
    (hother : other ∉ between) : between.Nodup := by
  rcases List.eq_nil_or_concat after with rfl | ⟨after, last, rfl⟩
  · -- the turn just taken is the second of the two
    have hsplit : turns ++ [id] = (before ++ other :: between) ++ [other] := by
      rw [hturns, List.append_assoc, List.cons_append]
    obtain ⟨hbefore, hlast⟩ := List.append_inj' hsplit rfl
    cases hlast
    exact (h.behind hbefore hother (List.nil_append _).symm).1
  · have hsplit : turns ++ [id] = (before ++ other :: (between ++ other :: after)) ++ [last] := by
      simp [hturns]
    exact h.fair (List.append_inj_left' hsplit rfl) hother

theorem behind_concat (h : Rotation (id :: queue) turns) (hid : id ∉ queue)
    {before between front back : List Nat} {other : Nat}
    (hturns : turns ++ [id] = before ++ other :: between) (hother : other ∉ between)
    (hqueue : queue = front ++ other :: back) :
    between.Nodup ∧ ∀ another ∈ front, another ∉ between := by
  rcases List.eq_nil_or_concat between with rfl | ⟨between, last, rfl⟩
  · simp
  · have hsplit : turns ++ [id] = (before ++ other :: between) ++ [last] := by simp [hturns]
    obtain ⟨hbefore, hlast⟩ := List.append_inj' hsplit rfl
    cases hlast
    rw [List.concat_eq_append, List.mem_append, not_or] at hother
    have hcons : id :: queue = (id :: front) ++ other :: back := by rw [hqueue, List.cons_append]
    -- the one that has its turn now stood ahead of all the others
    obtain ⟨hnodup, hfront⟩ := h.behind hbefore hother.1 hcons
    have hfirst : id ∉ between := hfront id List.mem_cons_self
    have hnot : id ∉ front := by
      intro hmem
      exact hid (by simp [hqueue, hmem])
    rw [List.concat_eq_append]
    refine ⟨List.nodup_append.2 ⟨hnodup, List.nodup_singleton id, ?_⟩, ?_⟩
    · rintro another hmem _ hlast rfl
      exact hfirst (List.mem_singleton.1 hlast ▸ hmem)
    · intro another hmem hlater
      rcases List.mem_append.1 hlater with hlater | hlater
      · exact hfront another (List.mem_cons_of_mem _ hmem) hlater
      · exact hnot (List.mem_singleton.1 hlater ▸ hmem)

/-- The one at the front has its turn and goes. -/
theorem serve (h : Rotation (id :: queue) turns) (hid : id ∉ queue) :
    Rotation queue (turns ++ [id]) :=
  ⟨h.fair_concat, h.behind_concat hid⟩

/-- Those who join at the back had no turn, or had the last one. -/
theorem join (h : Rotation queue turns) {new : List Nat}
    (hnew : ∀ id ∈ new, id ∈ turns → ∃ before, turns = before ++ [id]) :
    Rotation (queue ++ new) turns := by
  refine ⟨h.fair, ?_⟩
  intro before id between front back hturns hid hqueue
  by_cases hjoins : id ∈ new
  · obtain ⟨sooner, hlast⟩ := hnew id hjoins (by simp [hturns])
    rcases List.eq_nil_or_concat between with rfl | ⟨between, last, rfl⟩
    · simp
    · have hsplit : sooner ++ [id] = (before ++ id :: between) ++ [last] := by
        rw [← hlast, hturns]
        simp
      cases List.append_inj_right' hsplit rfl
      simp at hid
  · rcases List.append_eq_append_iff.1 hqueue with ⟨ahead, -, hahead⟩ | ⟨rest, hfront, hrest⟩
    · exact absurd (by simp [hahead]) hjoins
    · cases rest with
      | nil =>
        rw [List.nil_append] at hrest
        exact absurd (by simp [← hrest]) hjoins
      | cons first rest =>
        obtain ⟨rfl, -⟩ := List.cons.inj hrest
        exact h.behind hturns hid hfront

end Rotation

namespace Session

variable {s t : Session}

/-! ## Slices of a session -/

/-- The script to which an event gives a slice: in a tick the worker serves the front of its queue. -/
def slice? (s : Session) : Event → Option Nat
  | .work =>
    match s.phase, s.runner.active with
    | .ticking (_ + 1), job :: _ => if s.runner.returned then none else some job.id
    | _, _ => none
  | _ => none

/-- The scripts that get a slice, one after the other. -/
def slices (s : Session) : List Event → List Nat
  | [] => []
  | e :: events => (s.slice? e).toList ++ (s.step e).slices events

/-- What becomes of the queue and the ledger when this script, or none, gets a slice. -/
inductive Shifts (s t : Session) : Option Nat → Prop
  /-- Scripts in the worker's hands join the queue, if there are any. -/
  | join {new : List Job} (hnew : ∀ job ∈ new, job ∈ s.phase.batch.filterMap Command.job?)
    (hactive : t.runner.active = s.runner.active ++ new)
    (hledger : t.runner.ledger = s.runner.ledger) : Shifts s t none
  | serve {job : Job} {rest : List Job} (hactive : s.runner.active = job :: rest)
    (hrest : t.runner.active = (s.runner.config.serve job rest s.runner.ledger).1)
    (hledger : t.runner.ledger = (s.runner.config.serve job rest s.runner.ledger).2) :
    Shifts s t (some job.id)
  | abandon {job : Job} {rest : List Job} (hactive : s.runner.active = job :: rest)
    (hrest : t.runner.active = rest)
    (hledger : t.runner.ledger = job.retire .abandoned s.runner.ledger) : Shifts s t none

theorem Shifts.rest (hactive : t.runner.active = s.runner.active)
    (hledger : t.runner.ledger = s.runner.ledger) : Shifts s t none := by
  have hnone : ∀ job ∈ ([] : List Job), job ∈ s.phase.batch.filterMap Command.job? := by simp
  exact .join hnone (by rw [hactive, List.append_nil]) hledger

/-- A slice is given by a worker that goes on in a tick. -/
theorem slice?_eq_some_iff {e : Event} {id : Nat} :
    s.slice? e = some id ↔ e = .work ∧ s.runner.returned = false ∧
      ∃ left job rest, s.phase = .ticking (left + 1) ∧ s.runner.active = job :: rest ∧ job.id = id := by
  constructor
  · intro h
    unfold slice? at h
    split at h
    · split at h
      next left job rest hphase hactive =>
        split at h
        next => cases h
        next hrun =>
          exact ⟨rfl, Bool.eq_false_iff.2 hrun, left, job, rest, hphase, hactive, Option.some.inj h⟩
      next => cases h
    · cases h
  · rintro ⟨rfl, hrun, left, job, rest, hphase, hactive, rfl⟩
    simp [slice?, hphase, hactive, hrun]

theorem step_work {left : Nat} {job : Job} {rest : List Job} (hphase : s.phase = .ticking (left + 1))
    (hactive : s.runner.active = job :: rest) (hrun : s.runner.returned = false) :
    s.step .work = { s with
      runner := { s.runner with
        active := (s.runner.config.serve job rest s.runner.ledger).1
        ledger := (s.runner.config.serve job rest s.runner.ledger).2 }
      phase := .ticking left } := by
  simp [step, work, serve, hphase, hrun, hactive]

theorem step_ticking {left : Nat} (hphase : s.phase = .ticking left) {e : Event} (he : e ≠ .work) :
    (s.step e).phase = .ticking left := by
  cases e with
  | submit m =>
    simp only [step, submit]
    split <;> exact hphase
  | close => exact hphase
  | collect id =>
    simp only [step, collect]
    split <;> exact hphase
  | take => simp [step, take, hphase]
  | work => exact absurd rfl he

theorem step_shifts (s : Session) (e : Event) : Shifts s (s.step e) (s.slice? e) := by
  cases hslice : s.slice? e with
  | some id =>
    obtain ⟨rfl, hrun, left, job, rest, hphase, hactive, rfl⟩ := slice?_eq_some_iff.1 hslice
    rw [step_work hphase hactive hrun]
    exact .serve hactive rfl rfl
  | none =>
    have hmoves := s.step_moves e
    generalize hstep : s.step e = t at hmoves ⊢
    cases hmoves with
    | rest | submit | close | collect | take | leave | tickEnd | finish => exact .rest rfl rfl
    | sort hphase hrun =>
      refine .join ?_ rfl rfl
      simp [hphase, Phase.batch]
    | @serve left job rest hphase hactive hrun =>
      by_cases he : e = .work
      · have hsome := slice?_eq_some_iff.2 ⟨he, hrun, left, job, rest, hphase, hactive, rfl⟩
        rw [hslice] at hsome
        cases hsome
      · have hticking := step_ticking hphase he
        rw [hstep] at hticking
        cases hticking
    | abandon hphase hactive hrun => exact .abandon hactive rfl rfl

/-- The numbers of the scripts in the queue. -/
def queued (s : Session) : List Nat := s.runner.active.map Job.id

/-- The numbers of the scripts that were reported. -/
def reported (s : Session) : List Nat := s.runner.ledger.reports.map Prod.fst

/-- The queue of a session against the slices that were given so far. -/
structure Rotates (s : Session) (turns : List Nat) : Prop where
  tracked : Tracked s
  /-- A script that had a slice has been in the queue. -/
  seen : ∀ id ∈ turns, id ∈ s.reported ++ s.queued
  rotation : Rotation s.queued turns

theorem Tracked.nodup (h : Tracked s) :
    (s.reported ++ s.queued ++
      ((s.phase.batch ++ s.runner.channel).filterMap Command.job?).map Job.id).Nodup := by
  have hnodup := h.nodup_iff.2 List.nodup_range
  rwa [jobs, List.map_append, ← List.append_assoc] at hnodup

/-- No number is twice among the reports and the queue. -/
theorem Tracked.nodup_seen (h : Tracked s) : (s.reported ++ s.queued).Nodup :=
  (List.nodup_append.1 h.nodup).1

theorem Tracked.nodup_queued (h : Tracked s) : s.queued.Nodup :=
  (List.nodup_append.1 h.nodup_seen).2.1

/-- A script in the worker's hands has never been in the queue. -/
theorem Tracked.unseen (h : Tracked s) {job : Job}
    (hjob : job ∈ s.phase.batch.filterMap Command.job?) : job.id ∉ s.reported ++ s.queued := by
  intro hseen
  have hpending : job ∈ (s.phase.batch ++ s.runner.channel).filterMap Command.job? := by
    rw [List.filterMap_append]
    exact List.mem_append_left _ hjob
  exact (List.nodup_append.1 h.nodup).2.2 _ hseen _ (List.mem_map_of_mem hpending) rfl

theorem Shifts.seen {id? : Option Nat} (hs : Shifts s t id?) {id : Nat}
    (h : id ∈ s.reported ++ s.queued) : id ∈ t.reported ++ t.queued := by
  unfold reported queued at h ⊢
  cases hs with
  | join hnew hactive hledger =>
    rw [hactive, hledger, List.map_append, ← List.append_assoc]
    exact List.mem_append_left _ h
  | serve hactive hrest hledger =>
    rw [hactive] at h
    rw [hrest, hledger]
    exact (tracked_serve _ _ _ _).mem_iff.2 h
  | abandon hactive hrest hledger =>
    rw [hactive] at h
    rw [hrest, hledger]
    simpa [Job.retire] using h

theorem Rotates.shifts {id? : Option Nat} {turns : List Nat} (hs : Shifts s t id?)
    (ht : Tracked t) (h : Rotates s turns) : Rotates t (turns ++ id?.toList) := by
  have hrotation := h.rotation
  have hqueued := h.tracked.nodup_queued
  have hseen : ∀ id ∈ turns, id ∈ t.reported ++ t.queued := fun id hid => hs.seen (h.seen id hid)
  have hactive_seen : ∀ job ∈ s.runner.active, job.id ∈ t.reported ++ t.queued := fun job hjob =>
    hs.seen (List.mem_append_right _ (List.mem_map_of_mem hjob))
  unfold queued at hrotation hqueued
  cases hs with
  | @join new hnew hactive hledger =>
    rw [Option.toList_none, List.append_nil]
    refine ⟨ht, hseen, ?_⟩
    rw [queued, hactive, List.map_append]
    refine hrotation.join ?_
    intro id hid hturn
    obtain ⟨job, hjob, rfl⟩ := List.mem_map.1 hid
    exact absurd (h.seen job.id hturn) (h.tracked.unseen (hnew job hjob))
  | @serve job rest hactive hrest hledger =>
    rw [hactive, List.map_cons] at hrotation hqueued
    have hserved := hrotation.serve (List.nodup_cons.1 hqueued).1
    refine ⟨ht, ?_, ?_⟩
    · intro id hid
      rcases List.mem_append.1 hid with hid | hid
      · exact hseen id hid
      · cases List.mem_singleton.1 hid
        exact hactive_seen job (hactive ▸ List.mem_cons_self)
    · rw [queued, hrest]
      rcases s.runner.config.serve_cases job rest s.runner.ledger with
        ⟨outcome, -, hleaves, -⟩ | ⟨-, hstays, -⟩
      · rw [hleaves]
        exact hserved
      · rw [hstays, List.map_append]
        refine hserved.join ?_
        intro id hid hturn
        cases List.mem_singleton.1 hid
        exact ⟨turns, rfl⟩
  | @abandon job rest hactive hrest hledger =>
    rw [hactive, List.map_cons] at hrotation
    rw [Option.toList_none, List.append_nil]
    refine ⟨ht, hseen, ?_⟩
    rw [queued, hrest]
    exact hrotation.leave

theorem Rotates.run {turns : List Nat} (h : Rotates s turns) (events : List Event) :
    Rotates (s.run events) (turns ++ s.slices events) := by
  induction events generalizing s turns with
  | nil => simpa [slices] using h
  | cons e events ih =>
    rw [run_cons, slices, ← List.append_assoc]
    exact ih (h.shifts (s.step_shifts e) (h.tracked.moves (s.step_moves e)))

end Session

end ScriptMachine
