import Mathlib.Data.List.TakeWhile
import ScriptMachine.Proofs.Expressible

/-!
# Names in any letter case

Opcodes, types and areas are named by ASCII capitals, and a text names one of them if it differs in the
case of its letters at most (`CaseVariant`); around a mnemonic there may be blanks. A reader turns the text
into capitals and searches a list for it. On ASCII texts that finds exactly what is named: every name is in
the list, in capitals, and no two are alike (`FindsNamed.of_find?`).
-/

namespace ScriptMachine

/-! ## Texts -/

namespace Text

def IsAscii (cs : List Char) : Prop := ∀ c ∈ cs, c.toNat < 0x80

/-- Two texts that differ in the case of their letters at most. -/
def CaseVariant (cs ds : List Char) : Prop := cs.map Char.toLower = ds.map Char.toLower

instance (cs ds : List Char) : Decidable (CaseVariant cs ds) :=
  inferInstanceAs (Decidable (cs.map Char.toLower = ds.map Char.toLower))

/-- A text of ASCII characters without lowercase letters. -/
def IsCapital (ds : List Char) : Prop := ∀ d ∈ ds, d.toNat < 0x80 ∧ d.toUpper = d

instance (ds : List Char) : Decidable (IsCapital ds) :=
  List.decidableBAll (fun d : Char => d.toNat < 0x80 ∧ d.toUpper = d) ds

instance (cs : List Char) : Decidable (IsAscii cs) :=
  List.decidableBAll (fun c : Char => c.toNat < 0x80) cs

/-- The blanks of ASCII: tabulators, line and page breaks, and the space. -/
def asciiBlanks : List Char := ['\t', '\n', '\x0b', '\x0c', '\r', ' ']

/-- A text is another one between blanks, which has no blank at either end itself. -/
def Trimmed (text core : List Char) : Prop :=
  ∃ before after, text = before ++ core ++ after ∧ (∀ c ∈ before ++ after, c ∈ asciiBlanks) ∧
    (∀ c ∈ core.head?, c ∉ asciiBlanks) ∧ ∀ c ∈ core.getLast?, c ∉ asciiBlanks

/-- A property of every ASCII character, checked for one after the other. -/
theorem forall_ascii {P : Char → Prop} (h : ∀ n < 0x80, P (Char.ofNat n)) {c : Char}
    (hc : c.toNat < 0x80) : P c := by
  have hp := h c.toNat hc
  rwa [Char.ofNat_toNat] at hp

/-! ### Letter case -/

theorem toLower_toUpper {c : Char} (h : c.toNat < 0x80) : c.toUpper.toLower = c.toLower :=
  forall_ascii (P := fun c => c.toUpper.toLower = c.toLower) (by decide +kernel) h

theorem toUpper_toLower {c : Char} (h : c.toNat < 0x80) : c.toLower.toUpper = c.toUpper :=
  forall_ascii (P := fun c => c.toLower.toUpper = c.toUpper) (by decide +kernel) h

theorem uppercaseChar_of_ascii {c : Char} (h : c.toNat < 0x80) : uppercaseChar c = [c.toUpper] :=
  forall_ascii (P := fun c => uppercaseChar c = [c.toUpper]) (by decide +kernel) h

theorem uppercase_of_ascii {cs : List Char} (h : IsAscii cs) : uppercase cs = cs.map Char.toUpper := by
  induction cs with
  | nil => rfl
  | cons c rest ih =>
    rw [uppercase, List.flatMap_cons, uppercaseChar_of_ascii (h c List.mem_cons_self),
      List.map_cons, List.singleton_append]
    exact congrArg _ (ih fun d hd => h d (List.mem_cons_of_mem _ hd))

/-- A text in capitals is what a text becomes in capitals if the two differ in letter case at most. -/
theorem uppercase_eq_iff {cs ds : List Char} (hcs : IsAscii cs) (hds : IsCapital ds) :
    uppercase cs = ds ↔ CaseVariant cs ds := by
  have hlower : ∀ {l : List Char}, IsAscii l → (l.map Char.toUpper).map Char.toLower =
      l.map Char.toLower := by
    intro l hl
    rw [List.map_map]
    exact List.map_congr_left fun c hc => toLower_toUpper (hl c hc)
  have hupper : ∀ {l : List Char}, IsAscii l → (l.map Char.toLower).map Char.toUpper =
      l.map Char.toUpper := by
    intro l hl
    rw [List.map_map]
    exact List.map_congr_left fun c hc => toUpper_toLower (hl c hc)
  have hcapital : ds.map Char.toUpper = ds :=
    (List.map_congr_left fun d hd => (hds d hd).2).trans (List.map_id ds)
  rw [uppercase_of_ascii hcs]
  constructor
  · intro h
    rw [CaseVariant, ← h, hlower hcs]
  · intro h
    rw [← hupper hcs, h, hupper fun d hd => (hds d hd).1, hcapital]

/-! ### Blanks -/

theorem isBlank_iff {c : Char} (h : c.toNat < 0x80) : isBlank c = true ↔ c ∈ asciiBlanks :=
  forall_ascii (P := fun c => isBlank c = true ↔ c ∈ asciiBlanks) (by decide +kernel) h

theorem dropWhile_append_of_head {p : Char → Bool} {before core : List Char}
    (hbefore : ∀ c ∈ before, p c = true) (hcore : ∀ c ∈ core.head?, p c = false) :
    (before ++ core).dropWhile p = core := by
  rw [List.dropWhile_append_of_pos hbefore]
  cases core with
  | nil => rfl
  | cons c rest => exact List.dropWhile_cons_of_neg (by simp [hcore c rfl])

theorem head?_dropWhile_eq_false {p : Char → Bool} (cs : List Char) {c : Char}
    (h : c ∈ (cs.dropWhile p).head?) : p c = false := by
  have hnot := List.head?_dropWhile_not p cs
  rw [Option.mem_def.1 h] at hnot
  exact hnot

theorem Trimmed.trimBlanks_eq {text core : List Char} (hascii : IsAscii text)
    (h : Trimmed text core) : trimBlanks text = core := by
  obtain ⟨before, after, rfl, hblanks, hhead, hlast⟩ := h
  have hends : ∀ c ∈ before ++ after, isBlank c = true := fun c hc =>
    (isBlank_iff (hascii c (by grind))).2 (hblanks c hc)
  have hcore : ∀ c ∈ core, c ∉ asciiBlanks → isBlank c = false := fun c hc hnot =>
    Bool.eq_false_iff.2 fun hblank => hnot ((isBlank_iff (hascii c (by simp [hc]))).1 hblank)
  have hright : (core ++ after).reverse.dropWhile isBlank = core.reverse := by
    rw [List.reverse_append]
    refine dropWhile_append_of_head (fun c hc => hends c ?_) fun c hc => ?_
    · exact List.mem_append_right _ (List.mem_reverse.1 hc)
    · rw [List.head?_reverse] at hc
      exact hcore c (List.mem_of_getLast? hc) (hlast c hc)
  unfold trimBlanks
  rw [List.append_assoc]
  cases core with
  | nil =>
    rw [List.nil_append, List.dropWhile_eq_nil_iff.2 hends]
    rfl
  | cons c rest =>
    have hleft : (before ++ (c :: rest ++ after)).dropWhile isBlank = c :: rest ++ after := by
      refine dropWhile_append_of_head (fun d hd => hends d (List.mem_append_left _ hd)) fun d hd => ?_
      cases hd
      exact hcore c List.mem_cons_self (hhead c rfl)
    rw [hleft, hright, List.reverse_reverse]

theorem trimmed_trimBlanks {text : List Char} (hascii : IsAscii text) :
    Trimmed text (trimBlanks text) := by
  let rest := text.dropWhile isBlank
  let before := text.takeWhile isBlank
  let after := (rest.reverse.takeWhile isBlank).reverse
  have hrest : trimBlanks text ++ after = rest := by
    rw [trimBlanks, ← List.reverse_append, List.takeWhile_append_dropWhile, List.reverse_reverse]
  have htext : text = before ++ trimBlanks text ++ after := by
    rw [List.append_assoc, hrest]
    exact List.takeWhile_append_dropWhile.symm
  have hnot : ∀ c ∈ text, isBlank c = false → c ∉ asciiBlanks := fun c hc hblank hmem => by
    rw [(isBlank_iff (hascii c hc)).2 hmem] at hblank
    cases hblank
  have hcore : ∀ c ∈ trimBlanks text, c ∈ text := fun c hc => by
    rw [htext]
    simp [hc]
  refine ⟨before, after, htext, fun c hc => ?_, fun c hc => ?_, fun c hc => ?_⟩
  · have hmem : c ∈ text := by
      rw [htext]
      grind
    refine (isBlank_iff (hascii c hmem)).1 ?_
    rcases List.mem_append.1 hc with hc | hc
    · exact List.mem_takeWhile_imp hc
    · exact List.mem_takeWhile_imp (List.mem_reverse.1 hc)
  · -- the first character of the core is the first that was not dropped
    refine hnot c (hcore c (List.mem_of_mem_head? hc)) (head?_dropWhile_eq_false text ?_)
    change c ∈ rest.head?
    rw [← hrest, List.head?_append, Option.mem_def.1 hc]
    rfl
  · refine hnot c (hcore c (List.mem_of_getLast? hc))
      (head?_dropWhile_eq_false rest.reverse ?_)
    rw [trimBlanks, List.getLast?_reverse] at hc
    exact hc

theorem trimmed_iff {text core : List Char} (hascii : IsAscii text) :
    Trimmed text core ↔ trimBlanks text = core :=
  ⟨Trimmed.trimBlanks_eq hascii, fun h => h ▸ trimmed_trimBlanks hascii⟩

theorem isAscii_trimBlanks {cs : List Char} (h : IsAscii cs) : IsAscii (trimBlanks cs) := by
  obtain ⟨before, after, htext, -⟩ := trimmed_trimBlanks h
  intro c hc
  refine h c ?_
  rw [htext]
  simp [hc]

end Text

open Text

/-! ## Searching a list of names -/

/-- An answer is the one thing that is named, or a refusal if nothing is. -/
structure FindsNamed {ε α : Type} (answer : Except ε α) (named : α → Prop) (refusal : ε) : Prop where
  ok_iff (a : α) : answer = .ok a ↔ named a
  error_iff (e : ε) : answer = .error e ↔ e = refusal ∧ ∀ a, ¬ named a
  unique {a b : α} (ha : named a) (hb : named b) : a = b

namespace FindsNamed

variable {ε α : Type} {named : α → Prop} {refusal : ε}

theorem of_ok {a : α} (h : ∀ b, named b ↔ b = a) :
    FindsNamed (.ok a : Except ε α) named refusal where
  ok_iff b := by simp [h, eq_comm]
  error_iff e := by simp [h]
  unique ha hb := ((h _).1 ha).trans ((h _).1 hb).symm

theorem of_error (h : ∀ a, ¬ named a) : FindsNamed (.error refusal : Except ε α) named refusal where
  ok_iff a := by simp [h]
  error_iff e := by simp [h, eq_comm]
  unique ha _ := absurd ha (h _)

/-- A list in which everything is, each under a name of its own, is searched to good effect. -/
theorem of_find? {l : List α} {name : α → List Char} {key : List Char} {answer : Except ε α}
    (hall : ∀ a, a ∈ l) (hinj : ∀ a b, name a = name b → a = b)
    (hsome : ∀ a, (l.find? fun a => name a = key) = some a → answer = .ok a)
    (hnone : (l.find? fun a => name a = key) = none → answer = .error refusal)
    (hnamed : ∀ a, named a ↔ name a = key) : FindsNamed answer named refusal := by
  cases hfind : l.find? fun a => name a = key with
  | none =>
    rw [hnone hfind]
    refine of_error fun a ha => ?_
    exact List.find?_eq_none.1 hfind a (hall a) (decide_eq_true ((hnamed a).1 ha))
  | some a =>
    have ha := List.find?_some hfind
    rw [decide_eq_true_iff] at ha
    rw [hsome a hfind]
    refine of_ok fun b => (hnamed b).trans ⟨fun hb => hinj b a (hb.trans ha.symm), ?_⟩
    rintro rfl
    exact ha

end FindsNamed

/-! ## The readers -/

/-- A text names an opcode by its mnemonic in any letter case, between blanks. -/
def Opcode.IsNamedBy (opcode : Opcode) (text : String) : Prop :=
  ∃ core, Trimmed text.toList core ∧ CaseVariant core opcode.mnemonic.toList

/-- A text names a type by its name in any letter case, and BOOLEAN also by a short name. -/
def ValueType.IsNamedBy (type : ValueType) (text : String) : Prop :=
  CaseVariant text.toList type.name.toList ∨
    type = .boolean ∧ CaseVariant text.toList "BOOL".toList

/-- A text names an area by its name in any letter case. -/
def MemoryArea.IsNamedBy (area : MemoryArea) (text : String) : Prop :=
  CaseVariant text.toList area.name.toList

theorem Opcode.mnemonic_isCapital (opcode : Opcode) : IsCapital opcode.mnemonic.toList := by
  have hall : ∀ opcode ∈ all, IsCapital opcode.mnemonic.toList := by decide +kernel
  exact hall opcode opcode.mem_all

theorem ValueType.mem_all (type : ValueType) : type ∈ all := by
  cases type <;> decide

theorem ValueType.name_isCapital (type : ValueType) : IsCapital type.name.toList := by
  cases type <;> decide +kernel

theorem MemoryArea.mem_all (area : MemoryArea) : area ∈ all := by
  cases area <;> decide

theorem MemoryArea.name_isCapital (area : MemoryArea) : IsCapital area.name.toList := by
  cases area <;> decide +kernel

/-- What reading gives back has different names. -/
theorem eq_of_toList_eq {ε α : Type} {name : α → String} {parse : String → Except ε α}
    (hparse : ∀ a, parse (name a) = .ok a) (a b : α) (h : (name a).toList = (name b).toList) :
    a = b := by
  have hname : name a = name b := String.toList_inj.1 h
  have hok : (.ok a : Except ε α) = .ok b := by rw [← hparse a, ← hparse b, hname]
  exact Except.ok.inj hok

variable {text : String}

theorem Opcode.isNamedBy_iff (h : IsAscii text.toList) (opcode : Opcode) :
    opcode.IsNamedBy text ↔ opcode.mnemonic.toList = uppercase (trimBlanks text.toList) := by
  rw [eq_comm, uppercase_eq_iff (isAscii_trimBlanks h) opcode.mnemonic_isCapital]
  unfold IsNamedBy
  simp only [trimmed_iff h, exists_eq_left']

theorem Opcode.parse_findsNamed (h : IsAscii text.toList) :
    FindsNamed (parse text) (IsNamedBy · text) (.unknownInstruction text) := by
  refine .of_find? mem_all (eq_of_toList_eq parse_mnemonic) (fun opcode hfind => ?_) (fun hfind => ?_)
    (isNamedBy_iff h)
  · simp only [parse, hfind]
  · simp only [parse, hfind]

theorem MemoryArea.parse_findsNamed (h : IsAscii text.toList) :
    FindsNamed (parse text) (IsNamedBy · text) (.unknownMemoryArea text) := by
  refine .of_find? mem_all (eq_of_toList_eq parse_name) (fun area hfind => ?_) (fun hfind => ?_)
    fun area => (uppercase_eq_iff h area.name_isCapital).symm.trans eq_comm
  · simp only [parse, hfind]
  · simp only [parse, hfind]

theorem ValueType.parse_findsNamed (h : IsAscii text.toList) :
    FindsNamed (parse text) (IsNamedBy · text) text := by
  have hname : ∀ type : ValueType,
      CaseVariant text.toList type.name.toList ↔ type.name.toList = uppercase text.toList :=
    fun type => (uppercase_eq_iff h type.name_isCapital).symm.trans eq_comm
  have hshort : CaseVariant text.toList "BOOL".toList ↔ uppercase text.toList = "BOOL".toList :=
    (uppercase_eq_iff h (by decide +kernel)).symm
  by_cases hbool : uppercase text.toList = "BOOL".toList
  · have hok : parse text = .ok .boolean := if_pos hbool
    rw [hok]
    refine .of_ok fun type => ?_
    unfold IsNamedBy
    rw [hname, hshort, hbool]
    cases type <;> decide +kernel
  · have hnamed : ∀ type : ValueType,
        type.IsNamedBy text ↔ type.name.toList = uppercase text.toList := by
      intro type
      unfold IsNamedBy
      simp only [hname, hshort, hbool, and_false, or_false]
    refine .of_find? mem_all (eq_of_toList_eq parse_name) (fun type hfind => ?_) (fun hfind => ?_)
      hnamed
    · simp only [parse, if_neg hbool, hfind]
    · simp only [parse, if_neg hbool, hfind]

/-- **Texts are read as the names that they are.** An ASCII text is read as an opcode exactly if, without
the blanks around it, it is the opcode's mnemonic in some letter case; as a type or an area exactly if it
is its name in some letter case, blanks and all, or `BOOL` for BOOLEAN. Any other text is refused, and the
error holds it as it was. No text names two things of a kind, and every name is read as what it names. -/
theorem names_in_any_case (text : String) (h : IsAscii text.toList) :
    FindsNamed (Opcode.parse text) (Opcode.IsNamedBy · text) (.unknownInstruction text) ∧
    FindsNamed (ValueType.parse text) (ValueType.IsNamedBy · text) text ∧
    FindsNamed (MemoryArea.parse text) (MemoryArea.IsNamedBy · text) (.unknownMemoryArea text) ∧
    (∀ opcode : Opcode, Opcode.parse opcode.mnemonic = .ok opcode) ∧
    (∀ type : ValueType, ValueType.parse type.name = .ok type) ∧
    ∀ area : MemoryArea, MemoryArea.parse area.name = .ok area :=
  ⟨Opcode.parse_findsNamed h, ValueType.parse_findsNamed h, MemoryArea.parse_findsNamed h,
    Opcode.parse_mnemonic, ValueType.parse_name, MemoryArea.parse_name⟩

/-- Blanks are taken off around a mnemonic, of every kind and on both sides, but not around the names of
types and areas. -/
theorem names_in_any_case_between_blanks :
    Opcode.parse "\t\x0b jMp\r\n" = .ok (.jump .always) ∧
      ValueType.parse "bOOl" = .ok .boolean ∧
      ValueType.parse " Int" = .error " Int" ∧
      MemoryArea.parse "stacK\n" = .error (.unknownMemoryArea "stacK\n") := by
  refine ⟨?_, ?_, ?_, ?_⟩
  · refine ((names_in_any_case _ (by decide +kernel)).1.ok_iff _).2 ⟨"jMp".toList, ?_, by decide +kernel⟩
    exact ⟨['\t', '\x0b', ' '], ['\r', '\n'], by decide +kernel, by simp [asciiBlanks]⟩
  · exact ((names_in_any_case _ (by decide +kernel)).2.1.ok_iff _).2 (.inr (by decide +kernel))
  · refine ((names_in_any_case _ (by decide +kernel)).2.1.error_iff _).2 ⟨rfl, fun type => ?_⟩
    unfold ValueType.IsNamedBy
    cases type <;> decide +kernel
  · refine ((names_in_any_case _ (by decide +kernel)).2.2.1.error_iff _).2 ⟨rfl, fun area => ?_⟩
    unfold MemoryArea.IsNamedBy
    cases area <;> decide +kernel

end ScriptMachine
