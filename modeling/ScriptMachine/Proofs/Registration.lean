import Mathlib.Data.List.Induction
import ScriptMachine.Host.Registry
import ScriptMachine.Proofs.Grouping

/-!
# The registry and its history

Plugins come and go: they register functions under the name of a group and withdraw the whole group, in
any order and as often as they like. What a registry holds is decided by that history alone. A
registration stands if it was accepted and its group was not withdrawn afterwards (`Stands`); at any time
the standing registrations are what both tables of the registry represent, so a function is found, counted
and withdrawn exactly while its registration stands (`after_history`).
-/

namespace ScriptMachine.Registry

/-! ## Histories -/

/-- What plugins do to a registry. -/
inductive Event where
  | register (group : String) (signature : Signature) (function : HostFunction)
  | unregister (group : String)

/-- A registration that is refused leaves the registry as it is. -/
def apply (r : Registry) : Event → Registry
  | .register group s f =>
    match r.register group s f with
    | .ok registered => registered
    | .error _ => r
  | .unregister group => (r.unregister group).1

/-- The registry after a history, which begins with nothing registered. -/
def after (history : List Event) : Registry := history.foldl apply empty

theorem after_append (history : List Event) (e : Event) :
    after (history ++ [e]) = (after history).apply e := by
  simp [after]

/-- The event with this number registered the function with success, and its group has not been
withdrawn since. -/
structure Stands (history : List Event) (i : Nat) (group : String) (s : Signature)
    (f : HostFunction) : Prop where
  registered : history[i]? = some (.register group s f)
  accepted : ∃ r, (after (history.take i)).register group s f = .ok r
  kept : .unregister group ∉ history.drop (i + 1)

/-- What one more event does to standing registrations: it may end them, or add itself. -/
theorem stands_append {history : List Event} {e : Event} {i : Nat} {group : String} {s : Signature}
    {f : HostFunction} :
    Stands (history ++ [e]) i group s f ↔
      Stands history i group s f ∧ e ≠ .unregister group ∨
      i = history.length ∧ e = .register group s f ∧
        ∃ r, (after history).register group s f = .ok r := by
  rcases Nat.lt_trichotomy i history.length with hlt | rfl | hgt
  · have hget : (history ++ [e])[i]? = history[i]? := List.getElem?_append_left hlt
    have htake : (history ++ [e]).take i = history.take i :=
      List.take_append_of_le_length (Nat.le_of_lt hlt)
    have hdrop : (history ++ [e]).drop (i + 1) = history.drop (i + 1) ++ [e] :=
      List.drop_append_of_le_length hlt
    constructor
    · rintro ⟨hregistered, haccepted, hkept⟩
      rw [hget] at hregistered
      rw [htake] at haccepted
      rw [hdrop, List.mem_append, not_or] at hkept
      exact .inl ⟨⟨hregistered, haccepted, hkept.1⟩, fun he => hkept.2 (by simp [he])⟩
    · rintro (⟨⟨hregistered, haccepted, hkept⟩, he⟩ | ⟨hi, -⟩)
      · refine ⟨hget ▸ hregistered, htake ▸ haccepted, ?_⟩
        rw [hdrop, List.mem_append, List.mem_singleton]
        rintro (hmem | rfl)
        · exact hkept hmem
        · exact he rfl
      · omega
  · have hget : (history ++ [e])[history.length]? = some e := by simp
    have htake : (history ++ [e]).take history.length = history := List.take_left
    constructor
    · rintro ⟨hregistered, haccepted, -⟩
      rw [hget] at hregistered
      rw [htake] at haccepted
      exact .inr ⟨rfl, Option.some.inj hregistered, haccepted⟩
    · rintro (⟨⟨hregistered, -, -⟩, -⟩ | ⟨-, he, haccepted⟩)
      · simp at hregistered
      · refine ⟨by rw [hget, he], by rwa [htake], ?_⟩
        simp
  · constructor
    · rintro ⟨hregistered, -, -⟩
      rw [List.getElem?_eq_none (by simp; omega)] at hregistered
      cases hregistered
    · rintro (⟨⟨hregistered, -, -⟩, -⟩ | ⟨hi, -⟩)
      · rw [List.getElem?_eq_none (Nat.le_of_lt hgt)] at hregistered
        cases hregistered
      · omega

/-! ## The standing registrations -/

/-- What an event does to a list of registrations. -/
def note (l : List (Signature × Grouped HostFunction)) :
    Event → List (Signature × Grouped HostFunction)
  | .register group s f => if s ∈ l.map Prod.fst then l else l ++ [(s, ⟨group, f⟩)]
  | .unregister group => l.filter fun e => e.2.group ≠ group

/-- The registrations that stand after a history, in order. -/
def standing (history : List Event) : List (Signature × Grouped HostFunction) :=
  history.foldl note []

theorem standing_append (history : List Event) (e : Event) :
    standing (history ++ [e]) = note (standing history) e := by
  simp [standing]

variable {r : Registry} {l : List (Signature × Grouped HostFunction)}

theorem register_of_mem (h : r.functions.Represents l) {s : Signature} (hs : s ∈ l.map Prod.fst)
    (group : String) (f : HostFunction) : r.register group s f = .error (.duplicate s) := by
  have hcontains : r.contains s = true :=
    Option.isSome_iff_ne_none.2 fun hnone => h.get?_eq_none_iff.1 hnone hs
  rw [register, if_pos hcontains]

theorem register_of_not_mem (h : r.functions.Represents l) {s : Signature}
    (hs : s ∉ l.map Prod.fst) (group : String) (f : HostFunction) :
    r.register group s f = .ok ⟨r.functions.add group s f⟩ := by
  have hcontains : r.contains s = false := by
    unfold contains
    rw [show r.lookup s = none from h.get?_eq_none_iff.2 hs]
    rfl
  rw [register, if_neg (by simp [hcontains])]

theorem register_ok_iff (h : r.functions.Represents l) {s : Signature} {group : String}
    {f : HostFunction} : (∃ r', r.register group s f = .ok r') ↔ s ∉ l.map Prod.fst := by
  constructor
  · rintro ⟨r', hok⟩ hs
    rw [register_of_mem h hs] at hok
    cases hok
  · intro hs
    exact ⟨_, register_of_not_mem h hs group f⟩

/-- One event keeps the registry and the list of registrations in step. -/
theorem represents_apply (h : r.functions.Represents l) (e : Event) :
    (r.apply e).functions.Represents (note l e) := by
  cases e with
  | register group s f =>
    unfold note apply
    by_cases hs : s ∈ l.map Prod.fst
    · simp only [if_pos hs, register_of_mem h hs]
      exact h
    · simp only [if_neg hs, register_of_not_mem h hs]
      exact h.add hs group f
  | unregister group => exact (h.drop group).1

theorem represents_after (history : List Event) :
    (after history).functions.Represents (standing history) := by
  induction history using List.reverseRecOn with
  | nil => exact GroupedMap.represents_empty
  | append_singleton history e ih =>
    rw [after_append, standing_append]
    exact represents_apply ih e

theorem mem_note {e : Event} {group : String} {s : Signature} {f : HostFunction} :
    (s, ⟨group, f⟩) ∈ note l e ↔
      (s, ⟨group, f⟩) ∈ l ∧ e ≠ .unregister group ∨
      e = .register group s f ∧ s ∉ l.map Prod.fst := by
  cases e with
  | register group' s' f' =>
    by_cases hs : s' ∈ l.map Prod.fst
    · simp only [note, if_pos hs]
      constructor
      · intro hmem
        exact .inl ⟨hmem, by simp⟩
      · rintro (⟨hmem, -⟩ | ⟨heq, hfresh⟩)
        · exact hmem
        · cases heq
          exact absurd hs hfresh
    · simp only [note, if_neg hs, List.mem_append, List.mem_singleton]
      constructor
      · rintro (hmem | heq)
        · exact .inl ⟨hmem, by simp⟩
        · cases heq
          exact .inr ⟨rfl, hs⟩
      · rintro (⟨hmem, -⟩ | ⟨heq, -⟩)
        · exact .inl hmem
        · cases heq
          exact .inr rfl
  | unregister group' =>
    have hgroup : group ≠ group' ↔ Event.unregister group' ≠ .unregister group := by
      simp [eq_comm]
    simp [note, ← hgroup]

/-- The list holds the registrations that stand. -/
theorem mem_standing {history : List Event} {group : String} {s : Signature} {f : HostFunction} :
    (s, ⟨group, f⟩) ∈ standing history ↔ ∃ i, Stands history i group s f := by
  induction history using List.reverseRecOn with
  | nil =>
    constructor
    · intro hmem
      cases hmem
    · rintro ⟨i, hregistered, -, -⟩
      simp at hregistered
  | append_singleton history e ih =>
    simp only [standing_append, mem_note, ih, stands_append, exists_or, exists_and_right, exists_eq,
      true_and, register_ok_iff (represents_after history)]

/-- A signature has one standing registration. -/
theorem Stands.unique {history : List Event} {i j : Nat} {group group' : String} {s : Signature}
    {f f' : HostFunction} (h : Stands history i group s f) (h' : Stands history j group' s f') :
    i = j := by
  induction history using List.reverseRecOn generalizing i j group group' f f' with
  | nil => simpa using h.registered
  | append_singleton history e ih =>
    -- a signature that stands is not accepted again
    have hrefused : ∀ {i group f group' f'}, Stands history i group s f →
        ¬ ∃ r, (after history).register group' s f' = .ok r := by
      intro i group f group' f' hold hok
      have hmem : (s, ⟨group, f⟩) ∈ standing history := mem_standing.2 ⟨i, hold⟩
      exact (register_ok_iff (represents_after history)).1 hok (List.mem_map_of_mem hmem)
    rcases stands_append.1 h with ⟨hold, -⟩ | ⟨hi, -, hnew⟩ <;>
      rcases stands_append.1 h' with ⟨hold', -⟩ | ⟨hj, -, hnew'⟩
    · exact ih hold hold'
    · exact absurd hnew' (hrefused hold)
    · exact absurd hnew (hrefused hold')
    · rw [hi, hj]

/-! ## What the tables say -/

/-- The two tables agree: the groups list every signature that has a function, none of them twice, and no
group is listed without a function. -/
structure Consistent (r : Registry) : Prop where
  nodup : (r.groups.flatMap r.members).Nodup
  mem_iff (s : Signature) : s ∈ r.groups.flatMap r.members ↔ s ∈ r.signatures
  members_ne_nil : ∀ group ∈ r.groups, r.members group ≠ []

theorem mem_signatures (h : r.functions.Represents l) {s : Signature} :
    s ∈ r.signatures ↔ ∃ group, s ∈ r.members group :=
  h.mem_values_keys

theorem mem_groups (h : r.functions.Represents l) {group : String} :
    group ∈ r.groups ↔ ∃ s, s ∈ r.members group :=
  h.mem_listing_keys

theorem mem_members (h : r.functions.Represents l) {group : String} {s : Signature} :
    s ∈ r.members group ↔ ∃ f, (s, ⟨group, f⟩) ∈ l :=
  h.mem_keysOf

theorem mem_map_fst_iff (h : r.functions.Represents l) {s : Signature} :
    s ∈ l.map Prod.fst ↔ ∃ group, s ∈ r.members group := by
  simp only [mem_members h, List.mem_map]
  constructor
  · rintro ⟨⟨_, group, f⟩, hmem, rfl⟩
    exact ⟨group, f, hmem⟩
  · rintro ⟨group, f, hmem⟩
    exact ⟨_, hmem, rfl⟩

theorem consistent (h : r.functions.Represents l) : Consistent r where
  nodup := h.nodup_listed
  mem_iff s := by
    rw [List.mem_flatMap, mem_signatures h]
    constructor
    · rintro ⟨group, -, hs⟩
      exact ⟨group, hs⟩
    · rintro ⟨group, hs⟩
      exact ⟨group, (mem_groups h).2 ⟨s, hs⟩, hs⟩
  members_ne_nil group hgroup := by
    obtain ⟨s, hs⟩ := (mem_groups h).1 hgroup
    exact List.ne_nil_of_mem hs

theorem lookup_eq_none_iff (h : r.functions.Represents l) {s : Signature} :
    r.lookup s = none ↔ ∀ group, s ∉ r.members group := by
  rw [show r.lookup s = none ↔ s ∉ l.map Prod.fst from h.get?_eq_none_iff, mem_map_fst_iff h,
    not_exists]

/-- A registration is refused for one reason. -/
theorem register_error_iff (h : r.functions.Represents l) {group : String} {s : Signature}
    {f : HostFunction} {e : RegistryError} :
    r.register group s f = .error e ↔ e = .duplicate s ∧ ∃ other, s ∈ r.members other := by
  rw [← mem_map_fst_iff h]
  by_cases hs : s ∈ l.map Prod.fst
  · rw [register_of_mem h hs, Except.error.injEq]
    exact ⟨fun he => ⟨he.symm, hs⟩, fun he => he.1.symm⟩
  · rw [register_of_not_mem h hs]
    constructor
    · intro he
      cases he
    · rintro ⟨-, hmem⟩
      exact absurd hmem hs

/-! ### Withdrawal -/

theorem represents_unregister (h : r.functions.Represents l) (group : String) :
    (r.unregister group).1.functions.Represents (l.filter fun e => e.2.group ≠ group) :=
  (h.drop group).1

theorem size_unregister (h : r.functions.Represents l) (group : String) :
    (r.unregister group).1.size + (r.unregister group).2 = r.size := by
  have hcount : (r.unregister group).2 = (GroupedMap.keysIn l group).length := (h.drop group).2
  have hleft : (r.unregister group).1.size = (l.filter fun e => e.2.group ≠ group).length :=
    (represents_unregister h group).size_values
  rw [hcount, hleft, GroupedMap.length_keysIn]
  exact h.size_values.symm

theorem members_unregister (h : r.functions.Represents l) (group other : String) :
    (r.unregister group).1.members other = if group = other then [] else r.members other := by
  unfold members
  rw [(represents_unregister h group).keysOf_eq, GroupedMap.keysIn_filter_ne, h.keysOf_eq]

theorem lookup_unregister (h : r.functions.Represents l) (group : String) (s : Signature) :
    (r.unregister group).1.lookup s = if s ∈ r.members group then none else r.lookup s := by
  have hrest := represents_unregister h group
  by_cases hs : s ∈ r.members group
  · rw [if_pos hs, lookup_eq_none_iff hrest]
    intro other hother
    rw [members_unregister h] at hother
    split at hother
    next => cases hother
    next hne =>
      -- the signature would have been in two groups
      obtain ⟨f, hf⟩ := (mem_members h).1 hs
      obtain ⟨f', hf'⟩ := (mem_members h).1 hother
      exact hne (congrArg Grouped.group (h.entry_unique hf hf'))
  · rw [if_neg hs]
    refine Option.ext fun f => ?_
    refine (hrest.get?_iff s f).trans (Iff.trans ?_ (h.get?_iff s f).symm)
    refine exists_congr fun other => ?_
    rw [List.mem_filter]
    refine ⟨And.left, fun hmem => ⟨hmem, ?_⟩⟩
    have hne : other ≠ group := by
      rintro rfl
      exact hs ((mem_members h).2 ⟨f, hmem⟩)
    simpa using hne

/-- A signature that is free can be registered, and then it is found. -/
theorem register_of_free (h : r.functions.Represents l) {s : Signature} (hfree : r.lookup s = none)
    (group : String) (f : HostFunction) :
    ∃ r', r.register group s f = .ok r' ∧ r'.lookup s = some f ∧ s ∈ r'.members group := by
  have hs : s ∉ l.map Prod.fst := h.get?_eq_none_iff.1 hfree
  have hadded := h.add hs group f
  refine ⟨_, register_of_not_mem h hs group f, ?_, ?_⟩
  · exact (hadded.get?_iff s f).2 ⟨group, by simp⟩
  · exact hadded.mem_keysOf.2 ⟨f, by simp⟩

/-- **A registry is what its history makes it.** Whatever was registered and withdrawn before: the two
tables agree; a signature has at most one standing registration, and its function is the one that is
found; a registration is refused exactly if its signature is in some group, and then nothing changes;
withdrawing a group takes out its functions and nothing else, tells how many they were, and frees their
signatures for every group; and the listings hold what stands, in ascending order. -/
theorem after_history (history : List Event) :
    let r := after history
    Consistent r ∧
    (∀ s i j group group' f f', Stands history i group s f → Stands history j group' s f' →
      i = j) ∧
    (∀ s f, r.lookup s = some f ↔ ∃ i group, Stands history i group s f) ∧
    (∀ s, r.lookup s = none ↔ ¬ ∃ i group f, Stands history i group s f) ∧
    (∀ group s f,
      (r.register group s f = .error (.duplicate s) ↔ ∃ other, s ∈ r.members other) ∧
      (∀ e, r.register group s f = .error e →
        e = .duplicate s ∧ r.apply (.register group s f) = r)) ∧
    (∀ group,
      let rest := (r.unregister group).1
      rest.size + (r.unregister group).2 = r.size ∧
      (∀ s, rest.lookup s = if s ∈ r.members group then none else r.lookup s) ∧
      (∀ other, rest.members other = if group = other then [] else r.members other) ∧
      (∀ s ∈ r.members group, ∀ other f, ∃ again,
        rest.register other s f = .ok again ∧ again.lookup s = some f ∧
          s ∈ again.members other)) ∧
    (∀ group s, s ∈ r.members group ↔ ∃ i f, Stands history i group s f) ∧
    r.groups.Pairwise (· < ·) ∧
    (∀ group, group ∈ r.groups ↔ ∃ i s f, Stands history i group s f) ∧
    r.signatures.Pairwise (· < ·) ∧
    (∀ s, s ∈ r.signatures ↔ ∃ i group f, Stands history i group s f) := by
  intro r
  have h := represents_after history
  have hmembers : ∀ group s,
      s ∈ (after history).members group ↔ ∃ i f, Stands history i group s f := by
    intro group s
    rw [mem_members h]
    simp only [mem_standing]
    exact exists_comm
  have hlookup : ∀ s f, r.lookup s = some f ↔ ∃ i group, Stands history i group s f := by
    intro s f
    refine (h.get?_iff s f).trans ?_
    simp only [mem_standing]
    exact exists_comm
  refine ⟨consistent h, fun s i j group group' f f' => Stands.unique, hlookup, ?_, ?_, ?_, hmembers,
    r.functions.listing.keys_ascending, ?_, r.functions.values.keys_ascending, ?_⟩
  · intro s
    rw [lookup_eq_none_iff h]
    simp only [hmembers]
    constructor
    · rintro hnone ⟨i, group, f, hstands⟩
      exact hnone group ⟨i, f, hstands⟩
    · rintro hnone group ⟨i, f, hstands⟩
      exact hnone ⟨i, group, f, hstands⟩
  · intro group s f
    refine ⟨(register_error_iff h).trans ⟨And.right, fun hmem => ⟨rfl, hmem⟩⟩, fun e he => ?_⟩
    exact ⟨((register_error_iff h).1 he).1, by simp only [apply, he]⟩
  · intro group rest
    refine ⟨size_unregister h group, lookup_unregister h group, members_unregister h group, ?_⟩
    intro s hs other f
    refine register_of_free (represents_unregister h group) ?_ other f
    rw [lookup_unregister h, if_pos hs]
  · intro group
    rw [mem_groups h]
    simp only [hmembers]
    exact exists_comm
  · intro s
    rw [mem_signatures h]
    simp only [hmembers]
    exact exists_comm

/-- A plugin asks for a signature that another one holds and is refused; when the other has withdrawn, it
gets the signature, and the withdrawal of the other has nothing left to take away. -/
theorem after_history_of_takeover :
    let answer (n : Int32) : HostFunction := fun _ => { result := .ok (.int n) }
    let history : List Event := [
      .register "old" ⟨"log", 1⟩ (answer 1), .register "new" ⟨"log", 1⟩ (answer 2),
      .register "new" ⟨"beep", 0⟩ (answer 3), .unregister "old",
      .register "new" ⟨"log", 1⟩ (answer 2)]
    Stands history 4 "new" ⟨"log", 1⟩ (answer 2) ∧
      (after history).lookup ⟨"log", 1⟩ = some (answer 2) ∧
      (after history).members "new" = [⟨"beep", 0⟩, ⟨"log", 1⟩] ∧
      ((after history).unregister "old").2 = 0 ∧
      ((after history).unregister "old").1.lookup ⟨"log", 1⟩ = some (answer 2) := by
  intro answer history
  have hstands : Stands history 4 "new" ⟨"log", 1⟩ (answer 2) :=
    ⟨rfl, ⟨_, rfl⟩, by simp [history]⟩
  obtain ⟨-, -, hlookup, -, -, hunregister, -⟩ := after_history history
  have hfound := (hlookup ⟨"log", 1⟩ (answer 2)).2 ⟨4, "new", hstands⟩
  refine ⟨hstands, hfound, by decide +kernel, by decide +kernel, ?_⟩
  rw [(hunregister "old").2.1, if_neg (by decide +kernel), hfound]

end ScriptMachine.Registry
