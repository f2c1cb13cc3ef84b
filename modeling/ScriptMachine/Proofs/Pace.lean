import Mathlib.Algebra.Order.Floor.Div
import ScriptMachine.Proofs.Isolation
import ScriptMachine.Proofs.RoundRobin
import ScriptMachine.Proofs.Runs

/-!
# The pace of a script

A script that is still in the queue after a slice has used all of the slice: one that was cut short by
the budget leaves (`Keeps.slice`). Every tick gives everyone in the queue one slice, so the scripts in
the queue advance at the same pace, whatever the others do and whoever arrives (`Session.Paces`), and
under a budget the number of ticks that a script can stay is known when it comes.
-/

namespace ScriptMachine

namespace Config

variable {config : Config} {first job : Job} {n : Nat}

/-! ## Slices that let a script go on -/

/-- A script that came as `first` and is in the queue as `job`, `n` slices later. -/
structure Keeps (config : Config) (first : Job) (n : Nat) (job : Job) : Prop where
  eq_sliced : job = config.sliced^[n] first
  steps_eq : job.machine.steps = first.machine.steps + n * config.perTick
  /-- A script that has not been served may have come with any state and any number of steps. -/
  stays : 0 < n → config.Stays job

theorem Keeps.start (config : Config) (first : Job) : config.Keeps first 0 first where
  eq_sliced := rfl
  steps_eq := by rw [Nat.zero_mul, Nat.add_zero]
  stays h := absurd h (Nat.lt_irrefl 0)

theorem Keeps.slice (h : config.Keeps first n job) (hstays : config.Stays (config.sliced job)) :
    config.Keeps first (n + 1) (config.sliced job) where
  eq_sliced := by rw [Function.iterate_succ_apply', ← h.eq_sliced]
  steps_eq := by
    have hsteps := (steps_served_of_outcome?_eq_none (outcome?_of_stays hstays)).1
    rw [Nat.succ_mul, ← Nat.add_assoc, ← h.steps_eq]
    exact hsteps
  stays _ := hstays

/-- A script stays for fewer slices than its budget has room for, and one that has no room left gets one
slice all the same. -/
theorem Keeps.lt_of_budget (hslice : 0 < config.perTick) (h : config.Keeps first n job) {budget : Nat}
    (hb : budget ∈ config.budget) :
    n < max 1 ((budget - first.machine.steps) ⌈/⌉ config.perTick) := by
  rcases Nat.eq_zero_or_pos n with rfl | hn
  · exact lt_max_of_lt_left Nat.one_pos
  · refine lt_max_of_lt_right (Nat.lt_of_not_le ?_)
    intro hle
    rw [ceilDiv_le_iff_le_mul hslice, Nat.mul_comm] at hle
    have hbelow := (h.stays hn).2 budget hb
    rw [h.steps_eq] at hbelow
    omega

/-- However many steps a script comes with, they do not let it stay for longer. -/
theorem max_ceilDiv_sub_le (hslice : 0 < config.perTick) (budget steps : Nat) :
    max 1 ((budget - steps) ⌈/⌉ config.perTick) ≤ max 1 (budget ⌈/⌉ config.perTick) :=
  max_le_max_left 1 ((gc_mul_ceilDiv hslice).monotone_l (Nat.sub_le budget steps))

/-! ## Tick after tick -/

theorem mem_kept {queue : List Job} :
    job ∈ config.kept queue ↔ ∃ before ∈ queue, config.sliced before = job ∧ config.Stays job := by
  simp only [kept, List.mem_filter, List.mem_map, decide_eq_true_eq]
  constructor
  · rintro ⟨⟨before, hbefore, hjob⟩, hstays⟩
    exact ⟨before, hbefore, hjob, hstays⟩
  · rintro ⟨before, hbefore, hjob, hstays⟩
    exact ⟨⟨before, hbefore, hjob⟩, hstays⟩

theorem keeps_of_mem_kept {queue : List Job} (h : job ∈ config.kept^[n] queue) :
    ∃ first ∈ queue, config.Keeps first n job := by
  induction n generalizing job with
  | zero => exact ⟨job, h, .start config job⟩
  | succ n ih =>
    rw [Function.iterate_succ_apply'] at h
    obtain ⟨before, hbefore, rfl, hstays⟩ := mem_kept.1 h
    obtain ⟨first, hfirst, hkeeps⟩ := ih hbefore
    exact ⟨first, hfirst, hkeeps.slice hstays⟩

/-- Ticks without arrivals empty the queue, and how many it takes does not depend on the queue. -/
theorem kept_iterate_eq_nil (hslice : 0 < config.perTick) {budget : Nat}
    (hb : budget ∈ config.budget) (queue : List Job) :
    config.kept^[max 1 (budget ⌈/⌉ config.perTick)] queue = [] := by
  rw [List.eq_nil_iff_forall_not_mem]
  intro job hjob
  obtain ⟨first, -, hkeeps⟩ := keeps_of_mem_kept hjob
  have hlt := hkeeps.lt_of_budget hslice hb
  have hle := max_ceilDiv_sub_le hslice budget first.machine.steps
  omega

end Config

namespace Session

variable {s t : Session} {config : Config} {first : Job} {k : Nat}

/-! ## Ticks of a session -/

/-- The scripts in the queue that wait for the next slice: in a tick, those that it has not served
yet. -/
def waiting (s : Session) : List Job :=
  match s.phase with
  | .ticking left => s.runner.active.take left
  | _ => s.runner.active

/-- The scripts in the queue that were served in the tick that is under way. -/
def served (s : Session) : List Job :=
  match s.phase with
  | .ticking left => s.runner.active.drop left
  | _ => []

/-- The worker was in a tick and has come to its end. -/
def endsTick (s t : Session) : Bool :=
  match s.phase, t.phase with
  | .ticking _, .gathering _ => true
  | _, _ => false

/-- The number of ticks that come to their end. -/
def ticks (s : Session) : List Event → Nat
  | [] => 0
  | e :: events => (s.endsTick (s.step e)).toNat + (s.step e).ticks events

theorem waiting_append_served (s : Session) : s.waiting ++ s.served = s.runner.active := by
  unfold waiting served
  split
  · exact List.take_append_drop _ _
  · exact List.append_nil _

theorem waiting_sort (s : Session) (batch : List Command) :
    (s.sort batch).waiting = s.runner.active ++ batch.filterMap Command.job? := by
  unfold sort waiting
  dsimp only
  split
  next h =>
    split at h
    · cases h
    · cases h
      exact List.take_length
  next => rfl

theorem served_sort (s : Session) (batch : List Command) : (s.sort batch).served = [] := by
  have happend := (s.sort batch).waiting_append_served
  rw [waiting_sort] at happend
  exact List.append_right_eq_self.1 happend

theorem endsTick_of_phase_eq (h : t.phase = s.phase) : s.endsTick t = false := by
  unfold endsTick
  rw [h]
  cases s.phase <;> rfl

/-! ## Everyone at the same pace -/

/-- A script that came as `first`, in a session that has ended `k` ticks since then. -/
structure Paces (config : Config) (first : Job) (k : Nat) (s : Session) : Prop where
  config_eq : s.runner.config = config
  orderly : Orderly s
  /-- No script that joins the queue from now on has its number. -/
  seen : first.id ∈ s.reported ++ s.queued
  of_waiting : ∀ job ∈ s.waiting, job.id = first.id → config.Keeps first k job
  of_served : ∀ job ∈ s.served, job.id = first.id → config.Keeps first (k + 1) job

theorem Paces.start (hs : Orderly s) (hfirst : first ∈ s.waiting) :
    Paces s.runner.config first 0 s := by
  have hnodup := hs.tracked.nodup_queued
  rw [queued, ← waiting_append_served, List.map_append, List.nodup_append] at hnodup
  obtain ⟨hwaiting, -, hapart⟩ := hnodup
  refine ⟨rfl, hs, ?_, ?_, ?_⟩
  · rw [queued, ← waiting_append_served, List.map_append]
    exact List.mem_append_right _ (List.mem_append_left _ (List.mem_map_of_mem hfirst))
  · intro job hjob hid
    rw [List.inj_on_of_nodup_map hwaiting hjob hfirst hid]
    exact .start _ first
  · intro job hjob hid
    exact absurd hid.symm (hapart _ (List.mem_map_of_mem hfirst) _ (List.mem_map_of_mem hjob))

section Moves

variable (h : Paces config first k s)
include h

/-- Where nobody of the queue has a slice and no tick ends, everyone keeps their place. -/
theorem Paces.rest (ht : Orderly t) (hconfig : t.runner.config = s.runner.config)
    (hseen : first.id ∈ t.reported ++ t.queued) (hends : s.endsTick t = false)
    (hwaiting : ∀ job ∈ t.waiting, job ∈ s.waiting ∨ job.id ≠ first.id)
    (hserved : ∀ job ∈ t.served, job ∈ s.served) :
    Paces config first (k + (s.endsTick t).toNat) t := by
  rw [hends, Bool.toNat_false, Nat.add_zero]
  refine ⟨hconfig.trans h.config_eq, ht, hseen, ?_, ?_⟩
  · intro job hjob hid
    exact h.of_waiting job ((hwaiting job hjob).resolve_right fun hne => hne hid) hid
  · intro job hjob hid
    exact h.of_served job (hserved job hjob) hid

/-- The script at the front goes behind those that this tick has still to serve, or leaves. -/
theorem Paces.serve {left : Nat} {job : Job} {rest : List Job}
    (hphase : s.phase = .ticking (left + 1)) (hactive : s.runner.active = job :: rest)
    {other : Job} (hid : other.id = first.id) :
    (other ∈ (s.runner.config.serve job rest s.runner.ledger).1.take left →
      config.Keeps first k other) ∧
    (other ∈ (s.runner.config.serve job rest s.runner.ledger).1.drop left →
      config.Keeps first (k + 1) other) := by
  have hle := h.orderly.obeying.ticking_le _ hphase
  have hwaiting := h.of_waiting
  have hserved := h.of_served
  simp only [waiting, served, hphase, hactive, List.length_cons, List.take_succ_cons,
    List.drop_succ_cons, h.config_eq] at hle hwaiting hserved ⊢
  have hfront : other ∈ rest.take left → config.Keeps first k other := fun hmem =>
    hwaiting other (List.mem_cons_of_mem _ hmem) hid
  have hback : other ∈ rest.drop left → config.Keeps first (k + 1) other := fun hmem =>
    hserved other hmem hid
  by_cases hstays : config.Stays (config.sliced job)
  · rw [Config.serve_of_stays hstays]
    dsimp only
    rw [List.take_append_of_le_length (by omega), List.drop_append_of_le_length (by omega)]
    refine ⟨hfront, ?_⟩
    intro hmem
    rcases List.mem_append.1 hmem with hmem | hmem
    · exact hback hmem
    · cases List.mem_singleton.1 hmem
      exact (hwaiting job List.mem_cons_self hid).slice hstays
  · rw [Config.serve_of_not_stays hstays]
    exact ⟨hfront, hback⟩

theorem Paces.moves (hm : Moves s t) (hseen : first.id ∈ t.reported ++ t.queued) :
    Paces config first (k + (s.endsTick t).toNat) t := by
  have hconfig := hm.config_eq
  have ht := h.orderly.moves hm
  cases hm with
  | rest | submit | close | collect | leave | finish =>
    exact h.rest ht hconfig hseen (endsTick_of_phase_eq rfl) (fun _ hjob => .inl hjob)
      fun _ hjob => hjob
  | take hphase hchannel hrun =>
    refine h.rest ht hconfig hseen ?_ ?_ ?_
    · simp [endsTick, hphase]
    · intro job hjob
      exact .inl (by simpa [waiting, hphase] using hjob)
    · simp [served]
  | @sort batch hphase hrun =>
    refine h.rest ht hconfig hseen ?_ ?_ ?_
    · simp [endsTick, hphase]
    · intro job hjob
      rw [waiting_sort] at hjob
      rcases List.mem_append.1 hjob with hold | hnew
      · exact .inl (by simpa [waiting, hphase] using hold)
      · refine .inr fun hid => ?_
        have hunseen := h.orderly.tracked.unseen (by rw [hphase]; exact hnew)
        exact hunseen (hid ▸ h.seen)
    · rw [served_sort]
      simp
  | @serve left job rest hphase hactive hrun =>
    simp only [endsTick, hphase, Bool.toNat_false, Nat.add_zero]
    refine ⟨hconfig.trans h.config_eq, ht, hseen, ?_, ?_⟩
    · intro other hother hid
      exact (h.serve hphase hactive hid).1 hother
    · intro other hother hid
      exact (h.serve hphase hactive hid).2 hother
  | @tickEnd left hphase hrun hlast =>
    simp only [endsTick, hphase, Bool.toNat_true]
    refine ⟨hconfig.trans h.config_eq, ht, hseen, ?_, by simp [served]⟩
    -- the tick has served everyone who is still in the queue
    intro job hjob hid
    refine h.of_served job ?_ hid
    have hall := s.waiting_append_served
    simp only [waiting, served, hphase, hlast, List.nil_append] at hall ⊢
    rwa [hall]
  | @abandon job rest hphase hactive hrun =>
    refine h.rest ht hconfig hseen (endsTick_of_phase_eq rfl) ?_ ?_
    · intro other hother
      refine .inl ?_
      simp only [waiting, hphase, hactive] at hother ⊢
      exact List.mem_cons_of_mem _ hother
    · simp [served, hphase]

theorem Paces.run (events : List Event) :
    Paces config first (k + s.ticks events) (s.run events) := by
  induction events generalizing s k with
  | nil => exact h
  | cons e events ih =>
    have hstep := h.moves (s.step_moves e) ((s.step_shifts e).seen h.seen)
    rw [run_cons, ticks, ← Nat.add_assoc]
    exact ih hstep

/-- Its budget does not let a script stay for longer than it has room for. -/
theorem Paces.not_queued (hslice : 0 < config.perTick) {budget : Nat} (hb : budget ∈ config.budget)
    (hk : max 1 ((budget - first.machine.steps) ⌈/⌉ config.perTick) ≤ k) : first.id ∉ s.queued := by
  intro hqueued
  obtain ⟨job, hjob, hid⟩ := List.mem_map.1 hqueued
  rw [← waiting_append_served, List.mem_append] at hjob
  rcases hjob with hjob | hjob
  · have hlt := (h.of_waiting job hjob hid).lt_of_budget hslice hb
    omega
  · have hlt := (h.of_served job hjob hid).lt_of_budget hslice hb
    omega

end Moves

/-! ## Draining -/

/-- Without arrivals the queue goes through its ticks. -/
theorem reaches_kept (n : Nat) (hphase : s.phase = .gathering []) (hrun : s.runner.returned = false)
    (hchannel : s.runner.channel = []) :
    s.Reaches fun t => t.phase = .gathering [] ∧ t.runner.channel = [] ∧
      t.runner.active = s.runner.config.kept^[n] s.runner.active := by
  induction n generalizing s with
  | zero => exact .here ⟨hphase, hchannel, rfl⟩
  | succ n ih =>
    cases hidle : s.runner.active.isEmpty with
    | true =>
      have hactive := List.isEmpty_iff.1 hidle
      have hnil : s.runner.config.kept [] = [] := rfl
      refine .here ⟨hphase, hchannel, ?_⟩
      rw [hactive, Function.iterate_fixed hnil]
    | false =>
      obtain ⟨k, hpass⟩ := run_pass hphase hrun (by rw [hidle]; rfl)
      simp only [List.filterMap_nil, List.append_nil, List.any_nil, Bool.false_eq_true, if_false,
        Config.tick_eq] at hpass
      refine .after (n := k) (e := .work) rfl ?_
      rw [hpass]
      exact ih rfl hrun hchannel

/-- A worker that has taken all commands can come to the end of its scripts. -/
theorem reaches_drained_of_taken (hs : Orderly s) (hslice : 0 < s.runner.config.perTick) {budget : Nat}
    (hb : budget ∈ s.runner.config.budget) {batch : List Command} (hphase : s.phase = .gathering batch)
    (hrun : s.runner.returned = false) (hchannel : s.runner.channel = []) :
    s.Reaches fun t => t.jobs = [] := by
  cases hidle : s.runner.active.isEmpty && batch.isEmpty with
  | true =>
    rw [Bool.and_eq_true, List.isEmpty_iff, List.isEmpty_iff] at hidle
    exact .here (by simp [jobs, hphase, hchannel, hidle, Phase.batch])
  | false =>
    obtain ⟨k, hpass⟩ := run_pass hphase hrun hidle
    have hkeeps := run_keeps (fun _ _ => Orderly.moves) hs (List.replicate k .work)
    refine .after (n := k) (e := .work) rfl ?_
    rw [hpass] at hkeeps ⊢
    by_cases hstop : batch.any Command.isShutdown = true
    · rw [if_pos hstop] at hkeeps ⊢
      exact .here (hkeeps.jobs_eq_nil rfl)
    · rw [if_neg hstop]
      have hticks := reaches_kept (s := { s with
        runner := { s.runner with
          active := (s.runner.config.tick (s.runner.active ++ batch.filterMap Command.job?)
            s.runner.ledger).1
          ledger := (s.runner.config.tick (s.runner.active ++ batch.filterMap Command.job?)
            s.runner.ledger).2 }
        phase := .gathering [] }) (max 1 (budget ⌈/⌉ s.runner.config.perTick)) rfl hrun hchannel
      refine hticks.mono ?_
      rintro t ⟨hphase', hchannel', hactive⟩
      rw [Config.kept_iterate_eq_nil hslice hb] at hactive
      simp [jobs, hphase', hchannel', hactive, Phase.batch]

/-- **Under a budget, a worker that is left alone comes to the end of all its scripts.** -/
theorem reaches_drained (hs : Orderly s) (hslice : 0 < s.runner.config.perTick) {budget : Nat}
    (hb : budget ∈ s.runner.config.budget) : s.Reaches fun t => t.jobs = [] := by
  refine reaches_of_gathering (Q := fun t => Orderly t ∧ t.runner.config = s.runner.config)
    (fun _ _ hm h => ⟨h.1.moves hm, hm.config_eq.trans h.2⟩) (fun _ h => h.1) ?_
    (fun _ h hreturned => h.1.jobs_eq_nil hreturned) ⟨hs, rfl⟩
  rintro t batch ⟨ht, hconfig⟩ hrun hphase
  have htaken := run_keeps (fun _ _ => Orderly.moves) ht
    (List.replicate t.runner.channel.length .take)
  refine .after (n := t.runner.channel.length) (e := .take) rfl ?_
  rw [run_take hphase hrun, List.drop_length] at htaken ⊢
  rw [← hconfig] at hslice hb
  exact reaches_drained_of_taken htaken hslice hb rfl hrun rfl

end Session

/-- **Exact progress, and no script waits for ever.** Whatever host and worker have done so far and
whatever they do then, and however many other scripts there are: let `k` ticks come to their end.

* A script that waited for its slice and is in the queue after that has run `k` whole slices, and one
  more if it was served in the tick that is under way.
* Under a budget, it is not in the queue any more and has been reported once `k` is the number of
  slices that the budget leaves room for, and at least one.
* So a number of ticks that depends on the budget alone is enough for all scripts that wait, and a worker
  that is left alone comes to the end of all scripts that were accepted. -/
theorem exact_progress {config : Config} {r : Runner} (h : Runner.start config = .ok r)
    (before events : List Event) :
    let s := Session.run { runner := r } before
    let t := s.run events
    let k := s.ticks events
    (∀ job ∈ s.waiting,
      (∀ later ∈ t.waiting, later.id = job.id →
        later.machine.steps = job.machine.steps + k * config.perTick) ∧
      (∀ later ∈ t.served, later.id = job.id →
        later.machine.steps = job.machine.steps + (k + 1) * config.perTick) ∧
      ∀ budget ∈ config.budget,
        max 1 ((budget - job.machine.steps) ⌈/⌉ config.perTick) ≤ k →
          job.id ∉ t.queued ∧ job.id ∈ t.reported) ∧
    ∀ budget ∈ config.budget,
      (max 1 (budget ⌈/⌉ config.perTick) ≤ k → ∀ job ∈ s.waiting, job.id ∉ t.queued) ∧
      ∃ work : List Event, (∀ e ∈ work, e.isWorker = true) ∧ (s.run work).jobs = [] := by
  intro s t k
  have hs : s.Orderly := Session.orderly_run h before
  have hslice : 0 < config.perTick := Runner.perTick_pos h
  have hconfig : s.runner.config = config := (Session.isolated_run h before).config_eq
  have hpaces : ∀ job ∈ s.waiting, t.Paces config job k := by
    intro job hjob
    have hrun := (Session.Paces.start hs hjob).run events
    rwa [Nat.zero_add, hconfig] at hrun
  refine ⟨?_, ?_⟩
  · intro job hjob
    have hjobPaces := hpaces job hjob
    refine ⟨?_, ?_, ?_⟩
    · intro later hlater hid
      exact (hjobPaces.of_waiting later hlater hid).steps_eq
    · intro later hlater hid
      exact (hjobPaces.of_served later hlater hid).steps_eq
    · intro budget hb hk
      have hnot := hjobPaces.not_queued hslice hb hk
      exact ⟨hnot, (List.mem_append.1 hjobPaces.seen).resolve_right hnot⟩
  · intro budget hb
    refine ⟨?_, ?_⟩
    · intro hk job hjob
      have hle := Config.max_ceilDiv_sub_le hslice budget job.machine.steps
      exact (hpaces job hjob).not_queued hslice hb (by omega)
    · rw [← hconfig] at hslice hb
      exact Session.reaches_drained hs hslice hb

/-- Of three scripts that spin, one comes during the first tick and one with seven steps behind it. With
slices of three and a budget of ten, the first has run nine instructions after three ticks and is gone
after four, and the one that came late in its life is gone after one. -/
theorem exact_progress_with_arrival :
    let spin : Machine := .load { instructions := [.jump .always 0] }
    let config : Config := { perTick := 3, budget := some 10 }
    let r : Runner := { config, ledger := { journal := #[.started] } }
    let s := Session.run { runner := r } [.submit spin, .submit (spin.run 7), .take, .take, .work]
    let one : List Event := [.work, .submit spin, .work, .work]
    let three := one ++ .take :: List.replicate 8 .work
    let four := three ++ List.replicate 4 .work
    Runner.start config = .ok r ∧
      s.waiting.map (fun job => (job.id, job.machine.steps)) = [(0, 0), (1, 7)] ∧
      (s.ticks one = 1 ∧ 1 ∉ (s.run one).queued) ∧
      (s.ticks three = 3 ∧ (s.run three).waiting.map Job.id = [0, 2] ∧
        ∀ later ∈ (s.run three).waiting, later.id = 0 → later.machine.steps = 9) ∧
      s.ticks four = 4 ∧ 0 ∉ (s.run four).queued := by
  intro spin config r s one three four
  have hstart : Runner.start config = .ok r := rfl
  have hwaiting : s.waiting.map (fun job => (job.id, job.machine.steps)) = [(0, 0), (1, 7)] := by
    decide +kernel
  have hone : s.ticks one = 1 := by decide +kernel
  have hthree : s.ticks three = 3 := by decide +kernel
  have hfour : s.ticks four = 4 := by decide +kernel
  have hqueue : (s.run three).waiting.map Job.id = [0, 2] := by decide +kernel
  have hmem : ∀ e ∈ [(0, 0), (1, 7)], ∃ job ∈ s.waiting, (job.id, job.machine.steps) = e := by
    intro e he
    exact List.mem_map.1 (hwaiting ▸ he)
  obtain ⟨first, hfirst, heq⟩ := hmem (0, 0) (by decide)
  obtain ⟨late, hlate, hlateEq⟩ := hmem (1, 7) (by decide)
  obtain ⟨hid, hsteps⟩ := Prod.mk.inj heq
  obtain ⟨hlateId, hlateSteps⟩ := Prod.mk.inj hlateEq
  refine ⟨hstart, hwaiting, ⟨hone, ?_⟩, ⟨hthree, hqueue, ?_⟩, hfour, ?_⟩
  · have hgone := ((exact_progress hstart _ one).1 late hlate).2.2 10 rfl
    rw [hlateId, hlateSteps] at hgone
    exact (hgone (by rw [hone]; decide)).1
  · intro later hlater hlaterId
    have hexact := ((exact_progress hstart _ three).1 first hfirst).1 later hlater
    rw [hid, hsteps, hthree] at hexact
    exact hexact hlaterId
  · have hgone := ((exact_progress hstart _ four).1 first hfirst).2.2 10 rfl
    rw [hid, hsteps] at hgone
    exact (hgone (by rw [hfour]; decide)).1

end ScriptMachine
