import ScriptMachine.Document.Build
import ScriptMachine.Proofs.Success

/-!
# Everything that is wrong with a document

A document may have many errors at once, in several places. `Document.complaints` lists all of them in the
order of the document: the symbols by name, then the instructions by index, each with its opcode and its
operands from left to right, and of an operand the area before the type before what the area needs.
Building a program reports the first complaint, and succeeds if there is none (`FirstOf`). As the list is
put together from those of the parts, so is the answer: a document can be built if its parts can, each
on its own, and otherwise the error is that of the first part that cannot.
-/

namespace ScriptMachine

/-! ## Complaints -/

/-- The part of a document that an error lies in. -/
def LoadError.component? : LoadError → Option Component
  | decode index _ => some (.instruction index)
  | invalidLiteral component _ => some component
  | _ => none

namespace Component

def typeComplaints (component : Component) (text : String) : List LoadError :=
  match ValueType.parse text with
  | .ok _ => []
  | .error text => [.invalidLiteral component (.unknownType text)]

def literalComplaints (component : Component) (type : ValueType) (literal : Option Literal) :
    List LoadError :=
  match Literal.value? type literal with
  | some _ => []
  | none => [.invalidLiteral component (.mismatch literal type)]

/-- What an operand does not have although it must. -/
def missing (component : Component) (flaw : Flaw) (present : Bool) : List LoadError :=
  if present then [] else [.invalidLiteral component flaw]

end Component

/-- A name that is no name of the instruction set. -/
def nameComplaints (index : Nat) : Except ScriptError α → List LoadError
  | .ok _ => []
  | .error source => [.decode index source]

/-- A literal is judged only if its type is known. -/
def RawSymbol.complaints (name : String) (raw : RawSymbol) : List LoadError :=
  (Component.symbol name).typeComplaints raw.type ++
    match ValueType.parse raw.type with
    | .ok type => (Component.symbol name).literalComplaints type raw.value
    | .error _ => []

namespace RawLocation

/-- The type that a literal is to be read as, if it is known: the one that is named, or else its own. -/
def literalType? (raw : RawLocation) : Option ValueType :=
  match raw.type with
  | some text => (ValueType.parse text).toOption
  | none => raw.value.map Literal.naturalType

/-- What an area needs. A literal is judged only if its type is known. -/
def contentComplaints (index : Nat) (raw : RawLocation) : MemoryArea → List LoadError
  | .immediate =>
    (Component.instruction index).missing .untypedImmediate
        (raw.type.isSome || raw.value.isSome) ++
      match raw.literalType? with
      | some type => (Component.instruction index).literalComplaints type raw.value
      | none => []
  | .stack => (Component.instruction index).missing .untypedStack raw.type.isSome
  | .named =>
    (Component.instruction index).missing .untypedVariable raw.type.isSome ++
      (Component.instruction index).missing .unnamedVariable raw.name.isSome

def complaints (index : Nat) (raw : RawLocation) : List LoadError :=
  nameComplaints index (MemoryArea.parse raw.area) ++
    raw.type.toList.flatMap (Component.instruction index).typeComplaints ++
    match MemoryArea.parse raw.area with
    | .ok area => raw.contentComplaints index area
    | .error _ => []

end RawLocation

def RawInstruction.complaints (index : Nat) (raw : RawInstruction) : List LoadError :=
  nameComplaints index (Opcode.parse raw.op) ++
    raw.first.toList.flatMap (RawLocation.complaints index) ++
    raw.second.toList.flatMap (RawLocation.complaints index) ++
    raw.target.toList.flatMap (RawLocation.complaints index)

def Document.complaints (d : Document) : List LoadError :=
  (d.symbols.entries.flatMap fun e => e.2.complaints e.1) ++
    d.instructions.zipIdx.flatMap fun e => e.1.complaints e.2

/-! ## The first complaint -/

/-- A computation reports the first of some complaints, and succeeds if there are none. -/
def FirstOf (x : Except LoadError α) (complaints : List LoadError) : Prop :=
  match complaints with
  | [] => ∃ a, x = .ok a
  | e :: _ => x = .error e

section FirstOf

variable {α β : Type} {x : Except LoadError α} {f : α → Except LoadError β}
  {complaints later : List LoadError}

theorem FirstOf.ok_iff (h : FirstOf x complaints) : (∃ a, x = .ok a) ↔ complaints = [] := by
  cases complaints with
  | nil => exact ⟨fun _ => rfl, fun _ => h⟩
  | cons e rest =>
    have herror : x = .error e := h
    simp [herror]

theorem FirstOf.error_iff (h : FirstOf x complaints) {e : LoadError} :
    x = .error e ↔ complaints.head? = some e := by
  cases complaints with
  | nil =>
    obtain ⟨a, rfl⟩ := h
    simp
  | cons e' rest =>
    have herror : x = .error e' := h
    simp [herror]

theorem firstOf_ok (a : α) : FirstOf (.ok a) [] := ⟨a, rfl⟩

/-- What comes later is complained about later, and only if it comes to that. -/
theorem FirstOf.bind (h : FirstOf x complaints) (hf : ∀ a, x = .ok a → FirstOf (f a) later) :
    FirstOf (x >>= f) (complaints ++ later) := by
  cases complaints with
  | nil =>
    obtain ⟨a, ha⟩ := h
    have hfa := hf a ha
    rw [ha]
    exact hfa
  | cons e rest =>
    have herror : x = .error e := h
    rw [herror]
    exact rfl

theorem FirstOf.map (h : FirstOf x complaints) (g : α → β) : FirstOf (g <$> x) complaints := by
  cases complaints with
  | nil =>
    obtain ⟨a, rfl⟩ := h
    exact ⟨g a, rfl⟩
  | cons e rest =>
    have herror : x = .error e := h
    rw [herror]
    exact rfl

theorem firstOf_optionMapM {g : α → List LoadError} (h : ∀ a, FirstOf (f a) (g a)) (o : Option α) :
    FirstOf (o.mapM f) (o.toList.flatMap g) := by
  cases o with
  | none => exact firstOf_ok none
  | some a =>
    have hcomplaints : (some a).toList.flatMap g = g a := by simp
    rw [hcomplaints]
    exact (h a).map some

theorem firstOf_mapM {g : α → List LoadError} {l : List α} (h : ∀ a ∈ l, FirstOf (f a) (g a)) :
    FirstOf (l.mapM f) (l.flatMap g) := by
  induction l with
  | nil => exact firstOf_ok []
  | cons a rest ih =>
    rw [List.mapM_cons, List.flatMap_cons]
    refine (h a List.mem_cons_self).bind fun b _ => ?_
    exact (ih fun c hc => h c (List.mem_cons_of_mem _ hc)).map (b :: ·)

end FirstOf

/-! ## Parts of a component -/

section Parts

variable {α : Type} {component : Component} {index : Nat}

theorem parse_of_type {text : String} {type : ValueType} (h : component.type text = .ok type) :
    ValueType.parse text = .ok type := by
  unfold Component.type at h
  split at h
  next t ht =>
    cases h
    exact ht
  next => cases h

theorem value?_of_value {type : ValueType} {literal : Option Literal} {v : Value}
    (h : component.value type literal = .ok v) : Literal.value? type literal = some v := by
  unfold Component.value at h
  split at h
  next w hw =>
    cases h
    exact hw
  next => cases h

theorem eq_of_decoded {x : Except ScriptError α} {a : α} (h : decoded index x = .ok a) :
    x = .ok a := by
  cases x with
  | ok b =>
    cases h
    rfl
  | error source => cases h

theorem eq_of_need {flaw : Flaw} {o : Option α} {a : α} (h : component.need flaw o = .ok a) :
    o = some a := by
  cases o with
  | none => cases h
  | some b =>
    cases h
    rfl

theorem firstOf_type (component : Component) (text : String) :
    FirstOf (component.type text) (component.typeComplaints text) := by
  unfold Component.type Component.typeComplaints
  cases ValueType.parse text with
  | ok type => exact firstOf_ok type
  | error text => exact rfl

theorem firstOf_value (component : Component) (type : ValueType) (literal : Option Literal) :
    FirstOf (component.value type literal) (component.literalComplaints type literal) := by
  unfold Component.value Component.literalComplaints
  cases Literal.value? type literal with
  | some value => exact firstOf_ok value
  | none => exact rfl

theorem firstOf_need (component : Component) (flaw : Flaw) (o : Option α) :
    FirstOf (component.need flaw o) (component.missing flaw o.isSome) := by
  cases o with
  | some a => exact firstOf_ok a
  | none => exact rfl

theorem firstOf_decoded (index : Nat) (x : Except ScriptError α) :
    FirstOf (decoded index x) (nameComplaints index x) := by
  cases x with
  | ok a => exact firstOf_ok a
  | error source => exact rfl

end Parts

/-! ## Components -/

theorem RawSymbol.firstOf_build (name : String) (raw : RawSymbol) :
    FirstOf (raw.build name) (raw.complaints name) := by
  refine (firstOf_type _ raw.type).bind fun type htype => ?_
  rw [parse_of_type htype]
  exact firstOf_value _ type raw.value

namespace RawLocation

variable {index : Nat} {raw : RawLocation}

/-- The type that a location has got after its name was read. -/
theorem literalType?_eq {type : Option ValueType}
    (h : raw.type.mapM (Component.instruction index).type = .ok type) :
    raw.literalType? = (type <|> raw.value.map Literal.naturalType) ∧
      type.isSome = raw.type.isSome := by
  unfold literalType?
  rcases optionMapM_eq_ok h with ⟨htext, rfl⟩ | ⟨text, t, htext, rfl, ht⟩
  · rw [htext]
    exact ⟨rfl, rfl⟩
  · rw [htext]
    dsimp only
    rw [parse_of_type ht]
    exact ⟨rfl, rfl⟩

theorem firstOf_build (index : Nat) (raw : RawLocation) :
    FirstOf (raw.build index) (raw.complaints index) := by
  unfold build complaints
  rw [List.append_assoc]
  refine (firstOf_decoded index _).bind fun area harea => ?_
  refine (firstOf_optionMapM (firstOf_type _) raw.type).bind fun type htype => ?_
  obtain ⟨hliteral, hsome⟩ := literalType?_eq htype
  rw [eq_of_decoded harea]
  cases area with
  | immediate =>
    have hpresent : (raw.type.isSome || raw.value.isSome) =
        (type <|> raw.value.map Literal.naturalType).isSome := by
      rw [← hsome]
      cases type <;> cases raw.value <;> rfl
    dsimp only [contentComplaints]
    rw [hpresent, hliteral]
    refine (firstOf_need _ _ _).bind fun t ht => ?_
    rw [eq_of_need ht]
    exact (firstOf_value _ t raw.value).map Location.immediate
  | stack =>
    dsimp only [contentComplaints]
    rw [← hsome]
    exact (firstOf_need _ _ type).map Location.stack
  | named =>
    dsimp only [contentComplaints]
    rw [← hsome]
    refine (firstOf_need _ _ type).bind fun t _ => ?_
    exact (firstOf_need _ _ raw.name).map fun name => Location.named name t

end RawLocation

theorem RawInstruction.firstOf_build (index : Nat) (raw : RawInstruction) :
    FirstOf (raw.build index) (raw.complaints index) := by
  unfold build complaints
  rw [List.append_assoc, List.append_assoc]
  refine (firstOf_decoded index _).bind fun opcode _ => ?_
  refine (firstOf_optionMapM (RawLocation.firstOf_build index) raw.first).bind fun first _ => ?_
  refine (firstOf_optionMapM (RawLocation.firstOf_build index) raw.second).bind fun second _ => ?_
  exact (firstOf_optionMapM (RawLocation.firstOf_build index) raw.target).map
    (Instruction.mk opcode first second)

/-! ## Every complaint names its component -/

/-- The message of an error that lies in a part begins with the text of that part. -/
theorem LoadError.exists_message (e : LoadError) {component : Component}
    (h : e.component? = some component) :
    ∃ complaint, e.message = component.text ++ ": " ++ complaint := by
  cases e with
  | decode index source =>
    cases h
    exact ⟨source.message, rfl⟩
  | invalidLiteral component' flaw =>
    cases h
    exact ⟨flaw.message, rfl⟩
  | unreadable | invalidJson | invalidYaml | unknownFormat => cases h

theorem component?_of_mem_typeComplaints {component : Component} {text : String} {e : LoadError}
    (h : e ∈ component.typeComplaints text) : e.component? = some component := by
  unfold Component.typeComplaints at h
  split at h
  · cases h
  · rw [List.mem_singleton.1 h]
    rfl

theorem component?_of_mem_literalComplaints {component : Component} {type : ValueType}
    {literal : Option Literal} {e : LoadError} (h : e ∈ component.literalComplaints type literal) :
    e.component? = some component := by
  unfold Component.literalComplaints at h
  split at h
  · cases h
  · rw [List.mem_singleton.1 h]
    rfl

theorem component?_of_mem_missing {component : Component} {flaw : Flaw} {present : Bool}
    {e : LoadError} (h : e ∈ component.missing flaw present) : e.component? = some component := by
  unfold Component.missing at h
  split at h
  · cases h
  · rw [List.mem_singleton.1 h]
    rfl

theorem component?_of_mem_nameComplaints {α : Type} {index : Nat} {x : Except ScriptError α}
    {e : LoadError} (h : e ∈ nameComplaints index x) :
    e.component? = some (.instruction index) := by
  cases x with
  | ok a => cases h
  | error source =>
    rw [List.mem_singleton.1 h]
    rfl

theorem RawSymbol.component?_of_mem_complaints {name : String} {raw : RawSymbol} {e : LoadError}
    (h : e ∈ raw.complaints name) : e.component? = some (.symbol name) := by
  rcases List.mem_append.1 h with h | h
  · exact component?_of_mem_typeComplaints h
  · split at h
    · exact component?_of_mem_literalComplaints h
    · cases h

theorem RawLocation.component?_of_mem_contentComplaints {index : Nat} {raw : RawLocation}
    {area : MemoryArea} {e : LoadError} (h : e ∈ raw.contentComplaints index area) :
    e.component? = some (.instruction index) := by
  cases area with
  | immediate =>
    rcases List.mem_append.1 h with h | h
    · exact component?_of_mem_missing h
    · split at h
      · exact component?_of_mem_literalComplaints h
      · cases h
  | stack => exact component?_of_mem_missing h
  | named =>
    rcases List.mem_append.1 h with h | h
    · exact component?_of_mem_missing h
    · exact component?_of_mem_missing h

theorem RawLocation.component?_of_mem_complaints {index : Nat} {raw : RawLocation} {e : LoadError}
    (h : e ∈ raw.complaints index) : e.component? = some (.instruction index) := by
  rcases List.mem_append.1 h with h | h
  · rcases List.mem_append.1 h with h | h
    · exact component?_of_mem_nameComplaints h
    · obtain ⟨text, -, h⟩ := List.mem_flatMap.1 h
      exact component?_of_mem_typeComplaints h
  · split at h
    · exact component?_of_mem_contentComplaints h
    · cases h

theorem RawInstruction.component?_of_mem_complaints {index : Nat} {raw : RawInstruction}
    {e : LoadError} (h : e ∈ raw.complaints index) : e.component? = some (.instruction index) := by
  have hslot : ∀ {slot : Option RawLocation},
      e ∈ slot.toList.flatMap (RawLocation.complaints index) →
        e.component? = some (.instruction index) := by
    intro slot hmem
    obtain ⟨location, -, hmem⟩ := List.mem_flatMap.1 hmem
    exact RawLocation.component?_of_mem_complaints hmem
  simp only [complaints, List.mem_append] at h
  rcases h with ((h | h) | h) | h
  · exact component?_of_mem_nameComplaints h
  · exact hslot h
  · exact hslot h
  · exact hslot h

/-! ## Documents -/

namespace Document

theorem buildSymbols_eq_mapM (l : List (String × RawSymbol)) :
    buildSymbols l = l.mapM fun e => (fun value => (e.1, value)) <$> e.2.build e.1 := by
  induction l with
  | nil => rfl
  | cons e rest ih =>
    obtain ⟨name, raw⟩ := e
    simp only [buildSymbols, List.mapM_cons, bind_map_left, ih]

theorem buildInstructions_eq_mapM (index : Nat) (l : List RawInstruction) :
    buildInstructions index l = (l.zipIdx index).mapM fun e => e.1.build e.2 := by
  induction l generalizing index with
  | nil => rfl
  | cons raw rest ih => simp only [buildInstructions, List.zipIdx_cons, List.mapM_cons, ih]

/-- **Building reports the first complaint.** -/
theorem firstOf_build (d : Document) : FirstOf d.build d.complaints := by
  unfold build complaints
  rw [buildSymbols_eq_mapM]
  refine (firstOf_mapM fun e _ => (e.2.firstOf_build e.1).map _).bind fun symbols _ => ?_
  rw [buildInstructions_eq_mapM]
  have hinstructions : FirstOf (d.instructions.zipIdx.mapM fun e => e.1.build e.2) _ :=
    firstOf_mapM fun e _ => e.1.firstOf_build e.2
  exact hinstructions.map fun instructions => Program.mk instructions (.ofList symbols)

/-- Many errors at once: of the symbols, `a` comes before `b` although it was written later; of the
instruction, the opcode comes before its operands. -/
example :
    let d : Document := {
      symbols := .ofList [("b", ⟨"INT", some (.bool true)⟩), ("a", ⟨"FLOAT", none⟩)]
      instructions := [
        { op := "NOP" },
        { op := "ADD", first := some { area := "STACK" },
          second := some { area := "HEAP", type := some "TEXT" } }] }
    d.complaints = [
      .invalidLiteral (.symbol "a") (.unknownType "FLOAT"),
      .invalidLiteral (.symbol "b") (.mismatch (some (.bool true)) .int),
      .decode 1 (.unknownInstruction "ADD"),
      .invalidLiteral (.instruction 1) .untypedStack,
      .decode 1 (.unknownMemoryArea "HEAP"),
      .invalidLiteral (.instruction 1) (.unknownType "TEXT")] := by
  decide +kernel

end Document

end ScriptMachine
