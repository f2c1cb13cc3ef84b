import Mathlib.Data.List.Nodup
import Mathlib.Data.List.Perm.Basic
import Mathlib.Data.Option.Basic
import ScriptMachine.Loader

/-!
# Documents in another arrangement

A document is read by the names of its members, so two trees that differ in their arrangement only give
the same program or the same error. What may differ depends on what a part of a tree is read as: where a
record stands its members may come in any order, among others that it does not know, while symbols
stand under names of their own and only their order is free. So the parts of a tree are sorted by their
roles, and a rearrangement (`Rearranged`) may happen in every part according to its role.

A part is read from what its members are read as, and what one of them is read as depends on its own
tree only. That carries a rearrangement from the part where it happens to the whole document.
-/

namespace ScriptMachine

/-! ## Lists and maps -/

theorem mapM_eq_filterMap {α β : Type} (f : α → Option β) (l : List α) :
    l.mapM f = if l.all fun a => (f a).isSome then some (l.filterMap f) else none := by
  induction l with
  | nil => rfl
  | cons a rest ih =>
    rw [List.mapM_cons, ih]
    cases hf : f a with
    | none => simp [hf]
    | some b =>
      rw [List.all_cons, hf, List.filterMap_cons_some hf]
      split <;> simp_all

namespace SortedMap

variable {K V : Type} [LT K] [DecidableEq K] [KeyOrder K]

theorem eq_of_get?_eq {m n : SortedMap K V} (h : ∀ key, m.get? key = n.get? key) : m = n := by
  have hperm : m.entries.Perm n.entries := by
    refine (List.perm_ext_iff_of_nodup (.of_map _ m.keys_nodup) (.of_map _ n.keys_nodup)).2 ?_
    rintro ⟨key, value⟩
    rw [mem_entries, mem_entries, h]
  refine ext (hperm.eq_of_pairwise ?_ m.sorted n.sorted)
  intro a b _ _ hab hba
  exact absurd (KeyOrder.trans hab hba) (KeyOrder.irrefl a.1)

variable [DecidableLT K]

theorem insert_comm (m : SortedMap K V) {key key' : K} (h : key ≠ key') (value value' : V) :
    (m.insert key value).insert key' value' = (m.insert key' value').insert key value := by
  refine eq_of_get?_eq fun q => ?_
  simp only [get?_insert]
  by_cases hq : key' = q
  · rw [if_pos hq, if_neg fun hk => h (hk.trans hq.symm), if_pos hq]
  · rw [if_neg hq, if_neg hq]

/-- The order in which different keys are written does not matter. -/
theorem ofList_of_perm {l l' : List (K × V)} (hkeys : (l.map Prod.fst).Nodup) (h : l.Perm l') :
    ofList l = ofList l' := by
  refine h.foldl_eq' (fun x hx y hy m => ?_) empty
  by_cases hxy : x.1 = y.1
  · rw [List.inj_on_of_nodup_map hkeys hx hy hxy]
  · exact m.insert_comm hxy x.2 y.2

/-- The same when a list is first read item by item. -/
theorem map_ofList_mapM_of_perm {α : Type} {f : α → Option (K × V)} {l l' : List α}
    (hkeys : l.Pairwise fun a a' => ∀ e, f a = some e → ∀ e', f a' = some e' → e.1 ≠ e'.1)
    (h : l.Perm l') : (l.mapM f).map ofList = (l'.mapM f).map ofList := by
  have hnodup : ((l.filterMap f).map Prod.fst).Nodup :=
    List.pairwise_map.2 (List.pairwise_filterMap.2 hkeys)
  rw [mapM_eq_filterMap, mapM_eq_filterMap, h.all_eq]
  split
  · rw [Option.map_some, Option.map_some, ofList_of_perm hnodup (h.filterMap f)]
  · rfl

end SortedMap

namespace Json

/-! ## Members -/

section Members

variable {members members' : List (Content × Tree)}

theorem member?_of_perm (h : members.Perm members') (name : String) :
    member? members name = member? members' name := by
  unfold member?
  have hfilter := h.filter fun m => m.1 == some name
  generalize members.filter _ = l at hfilter
  generalize members'.filter _ = l' at hfilter
  match l, hfilter with
  | [], hfilter => rw [List.nil_perm.1 hfilter]
  | [m], hfilter => rw [List.singleton_perm.1 hfilter]
  | _ :: _ :: _, hfilter =>
    have hlength := hfilter.length_eq
    match l', hlength with
    | _ :: _ :: _, _ => rfl

theorem member?_cons_of_ne {name n : String} (h : name ≠ n) (tree : Tree) :
    member? ((some name, tree) :: members) n = member? members n := by
  unfold member?
  rw [List.filter_cons_of_neg (by simpa using h)]

/-- What is read from a member depends on the value of the member with that name only. -/
theorem bind_member?_middle {β : Type} (read? : Option Tree → Option β) {name n : String}
    {a b : Tree} (h : n = name → read? (some a) = read? (some b)) (before after : List (Content × Tree)) :
    (member? (before ++ (some name, a) :: after) n).bind read? =
      (member? (before ++ (some name, b) :: after) n).bind read? := by
  unfold member?
  rw [List.filter_append, List.filter_append]
  by_cases hn : n = name
  · subst hn
    rw [List.filter_cons_of_pos (by simp), List.filter_cons_of_pos (by simp)]
    generalize before.filter _ = l
    generalize after.filter _ = l'
    match l, l' with
    | [], [] => exact h rfl
    | [], _ :: _ => rfl
    | [_], _ => rfl
    | _ :: _ :: _, _ => rfl
  · rw [List.filter_cons_of_neg (by simpa using Ne.symm hn),
      List.filter_cons_of_neg (by simpa using Ne.symm hn)]

/-- So it is for the items of an array. -/
theorem getElem?_middle {β : Type} (read? : Option Tree → β) {i : Nat} {a b : Tree}
    {before : List Tree} (h : i = before.length → read? (some a) = read? (some b)) (after : List Tree) :
    read? (before ++ a :: after)[i]? = read? (before ++ b :: after)[i]? := by
  by_cases hi : i = before.length
  · subst hi
    simpa using h rfl
  · have hitem : (before ++ a :: after)[i]? = (before ++ b :: after)[i]? := by grind
    rw [hitem]

end Members

/-! ## Roles -/

/-- What a part of a document is read as. -/
inductive Role where
  | document
  | symbols
  | symbol
  | instructions
  | instruction
  /-- A location, which may be left out. -/
  | operand
  /-- A text or a literal. -/
  | scalar

namespace Role

/-- The parts that have members by name. -/
def isRecord : Role → Bool
  | document => true
  | symbol => true
  | instruction => true
  | operand => true
  | _ => false

/-- The names of the members that a record has. -/
def names : Role → List String
  | document => ["symbols", "instructions"]
  | symbol => ["type", "value"]
  | instruction => ["op", "first", "second", "target"]
  | operand => ["area", "type", "value", "name"]
  | _ => []

/-- What the member with a name is read as. -/
def member : Role → String → Role
  | document, name =>
    if name = "symbols" then symbols else if name = "instructions" then instructions else scalar
  | symbols, _ => symbol
  | instruction, name => if name ∈ ["first", "second", "target"] then operand else scalar
  | _, _ => scalar

/-- What an item of an array is read as. The array of a record lists its members in order. -/
def item (role : Role) (i : Nat) : Role :=
  match role with
  | instructions => instruction
  | document | instruction => (role.names[i]?).elim scalar role.member
  | _ => scalar

/-- What comes of reading a part. -/
abbrev Result : Role → Type
  | document => Document
  | symbols => SortedMap String RawSymbol
  | symbol => RawSymbol
  | instructions => List RawInstruction
  | instruction => RawInstruction
  | operand => Option RawLocation
  | scalar => Tree

def read? : (role : Role) → Tree → Option role.Result
  | document, tree => tree.document?
  | symbols, tree => tree.symbols?
  | symbol, tree => tree.symbol?
  | instructions, tree => tree.instructions?
  | instruction, tree => tree.instruction?
  | operand, tree => Tree.optional? Tree.location? (some tree)
  | scalar, tree => some tree

end Role

/-- Two trees say the same in different arrangements. The members of a record may be permuted, and
unknown ones may be there or not; symbols with different names may be permuted; and the parts of a tree
may themselves be rearranged. -/
inductive Rearranged : Role → Tree → Tree → Prop
  | refl (role : Role) (tree : Tree) : Rearranged role tree tree
  | symm {role : Role} {a b : Tree} (h : Rearranged role a b) : Rearranged role b a
  | trans {role : Role} {a b c : Tree} (h : Rearranged role a b) (h' : Rearranged role b c) :
    Rearranged role a c
  | permuted {role : Role} {members members' : List (Content × Tree)} (hrole : role.isRecord = true)
    (h : members.Perm members') : Rearranged role (.object members) (.object members')
  | unknown {role : Role} (name : String) (hrole : role.isRecord = true) (h : name ∉ role.names)
    (tree : Tree) (members : List (Content × Tree)) :
    Rearranged role (.object members) (.object ((some name, tree) :: members))
  | permutedSymbols {members members' : List (Content × Tree)}
    (hnames : (members.map Prod.fst).Nodup) (h : members.Perm members') :
    Rearranged .symbols (.object members) (.object members')
  | inMember (role : Role) (name : String) {a b : Tree} (h : Rearranged (role.member name) a b)
    (before after : List (Content × Tree)) :
    Rearranged role (.object (before ++ (some name, a) :: after))
      (.object (before ++ (some name, b) :: after))
  | inItem (role : Role) {a b : Tree} (before : List Tree)
    (h : Rearranged (role.item before.length) a b) (after : List Tree) :
    Rearranged role (.array (before ++ a :: after)) (.array (before ++ b :: after))

/-! ## Reading -/

namespace Tree

variable {members members' : List (Content × Tree)}

theorem record?_congr {names : List String}
    (hnamed : (members.all fun m => m.1.isSome) = members'.all fun m => m.1.isSome)
    (h : ∀ name ∈ names, member? members name = member? members' name) :
    record? names (.object members) = record? names (.object members') := by
  have hmapM : names.mapM (member? members) = names.mapM (member? members') := by
    induction names with
    | nil => rfl
    | cons name rest ih =>
      rw [List.mapM_cons, List.mapM_cons, h name List.mem_cons_self,
        ih fun n hn => h n (List.mem_cons_of_mem _ hn)]
  simp only [record?, hnamed, hmapM]

/-- An instruction is read member by member. -/
theorem instruction?_object (members : List (Content × Tree)) :
    instruction? (.object members) = (do
      guard (members.all fun m => m.1.isSome)
      let op ← (member? members "op").bind fun op => op.bind text?
      let first ← (member? members "first").bind (optional? location?)
      let second ← (member? members "second").bind (optional? location?)
      let target ← (member? members "target").bind (optional? location?)
      return { op, first, second, target }) := by
  simp only [instruction?, record?, List.mapM_cons, List.mapM_nil]
  generalize (guard (members.all fun m => m.1.isSome) : Option Unit) = named
  -- a member that comes twice leaves nothing to read on either side
  rcases member? members "op" with _ | op
  · simp
  rcases member? members "first" with _ | first
  · simp
  rcases member? members "second" with _ | second
  · simp
  rcases member? members "target" with _ | target
  · simp
  cases named <;> cases op <;> rfl

theorem document?_object (members : List (Content × Tree)) :
    document? (.object members) = (do
      guard (members.all fun m => m.1.isSome)
      let symbols ← (member? members "symbols").bind (orEmpty? .empty symbols?)
      let instructions ← (member? members "instructions").bind (orEmpty? [] instructions?)
      return { symbols, instructions }) := by
  simp only [document?, parts?]
  generalize (guard (members.all fun m => m.1.isSome) : Option Unit) = named
  rcases member? members "symbols" with _ | symbols
  · simp
  rcases member? members "instructions" with _ | instructions
  · simp
  cases named <;> rfl

/-- An array gives the members of an instruction in order. -/
theorem instruction?_array (items : List Tree) :
    instruction? (.array items) = (do
      guard (items.length = 4)
      let op ← items[0]?.bind text?
      let first ← optional? location? items[1]?
      let second ← optional? location? items[2]?
      let target ← optional? location? items[3]?
      return { op, first, second, target }) := by
  match items with
  | [] | [_] | [_, _] | [_, _, _] | [_, _, _, _] => rfl
  | _ :: _ :: _ :: _ :: _ :: rest => simp [instruction?, record?, guard, failure]

theorem document?_array (items : List Tree) :
    document? (.array items) = (do
      guard (items.length ≤ 2)
      let symbols ← orEmpty? .empty symbols? items[0]?
      let instructions ← orEmpty? [] instructions? items[1]?
      return { symbols, instructions }) := by
  match items with
  | [] | [_] | [_, _] => rfl
  | _ :: _ :: _ :: rest => simp [document?, parts?, guard, failure]

theorem symbols?_object (members : List (Content × Tree)) :
    symbols? (.object members) =
      (members.mapM fun m : Content × Tree => do return (← m.1, ← symbol? m.2)).map .ofList :=
  Option.map_eq_bind.symm

theorem symbols?_of_perm (hnames : (members.map Prod.fst).Nodup) (h : members.Perm members') :
    symbols? (.object members) = symbols? (.object members') := by
  have hname (m : Content × Tree) (e : String × RawSymbol)
      (he : (do return (← m.1, ← symbol? m.2)) = some e) : m.1 = some e.1 := by
    obtain ⟨name, hm, he⟩ := Option.bind_eq_some_iff.1 he
    obtain ⟨value, -, he⟩ := Option.bind_eq_some_iff.1 he
    rw [hm, ← Option.some.inj he]
  rw [symbols?_object, symbols?_object]
  refine SortedMap.map_ofList_mapM_of_perm ?_ h
  refine (List.pairwise_map.1 hnames).imp fun {m m'} hne e he e' he' heq => hne ?_
  rw [hname m e he, hname m' e' he', heq]

end Tree

namespace Role

variable {role : Role} {members members' : List (Content × Tree)}

theorem read?_congr (hrole : role.isRecord = true)
    (hnamed : (members.all fun m => m.1.isSome) = members'.all fun m => m.1.isSome)
    (h : ∀ name ∈ role.names, member? members name = member? members' name) :
    role.read? (.object members) = role.read? (.object members') := by
  have hrecord := Tree.record?_congr hnamed h
  cases role <;> simp only [names] at hrecord
  case document =>
    simp only [read?, Tree.document?_object, hnamed, h "symbols" (by decide),
      h "instructions" (by decide)]
  case symbol => simp only [read?, Tree.symbol?, hrecord]
  case instruction => simp only [read?, Tree.instruction?, hrecord]
  case operand => simp only [read?, Tree.optional?, Tree.location?, hrecord]
  all_goals exact absurd hrole (by decide)

/-- What a part is read as depends on what its members are read as. -/
theorem read?_inMember {name : String} {a b : Tree}
    (h : (role.member name).read? a = (role.member name).read? b)
    (before after : List (Content × Tree)) :
    role.read? (.object (before ++ (some name, a) :: after)) =
      role.read? (.object (before ++ (some name, b) :: after)) := by
  have hnamed : ((before ++ (some name, a) :: after).all fun m => m.1.isSome) =
      (before ++ (some name, b) :: after).all fun m => m.1.isSome := by
    simp only [List.all_append, List.all_cons]
  have hmember {n : String} (hn : n = name) : (role.member n).read? a = (role.member n).read? b := by
    rw [hn, h]
  cases role with
  | document =>
    have hsymbols := bind_member?_middle (Tree.orEmpty? .empty Tree.symbols?) (n := "symbols") hmember
      before after
    have hinstructions := bind_member?_middle (Tree.orEmpty? [] Tree.instructions?)
      (n := "instructions") hmember before after
    simp only [read?, Tree.document?_object, hnamed, hsymbols, hinstructions]
  | symbols =>
    have hsymbol : a.symbol? = b.symbol? := h
    simp only [read?, Tree.symbols?, List.mapM_append, List.mapM_cons, hsymbol]
  | instruction =>
    have hop := bind_member?_middle (n := "op") (fun op => op.bind Tree.text?)
      (fun hn => congrArg (Option.bind · Tree.text?) (hmember hn)) before after
    have hfirst := bind_member?_middle (Tree.optional? Tree.location?) (n := "first") hmember
      before after
    have hsecond := bind_member?_middle (Tree.optional? Tree.location?) (n := "second") hmember
      before after
    have htarget := bind_member?_middle (Tree.optional? Tree.location?) (n := "target") hmember
      before after
    simp only [read?, Tree.instruction?_object, hnamed, hop, hfirst, hsecond, htarget]
  | symbol | instructions | operand | scalar => rw [Option.some.inj h]

theorem read?_inItem {a b : Tree} {before : List Tree}
    (h : (role.item before.length).read? a = (role.item before.length).read? b) (after : List Tree) :
    role.read? (.array (before ++ a :: after)) = role.read? (.array (before ++ b :: after)) := by
  have hlength : (before ++ a :: after).length = (before ++ b :: after).length := by simp
  have hitem {i : Nat} (hi : i = before.length) : (role.item i).read? a = (role.item i).read? b := by
    rw [hi, h]
  cases role with
  | document =>
    have hsymbols := getElem?_middle (Tree.orEmpty? .empty Tree.symbols?) (i := 0) hitem after
    have hinstructions := getElem?_middle (Tree.orEmpty? [] Tree.instructions?) (i := 1) hitem after
    simp only [read?, Tree.document?_array, hlength, hsymbols, hinstructions]
  | instruction =>
    have hop := getElem?_middle (Option.bind · Tree.text?) (i := 0)
      (fun hi => congrArg (Option.bind · Tree.text?) (hitem hi)) after
    have hfirst := getElem?_middle (Tree.optional? Tree.location?) (i := 1) hitem after
    have hsecond := getElem?_middle (Tree.optional? Tree.location?) (i := 2) hitem after
    have htarget := getElem?_middle (Tree.optional? Tree.location?) (i := 3) hitem after
    simp only [read?, Tree.instruction?_array, hlength, hop, hfirst, hsecond, htarget]
  | instructions =>
    have hinstruction : a.instruction? = b.instruction? := h
    simp only [read?, Tree.instructions?, List.mapM_append, List.mapM_cons, hinstruction]
  | symbols | symbol | operand | scalar => rw [Option.some.inj h]

end Role

/-- A rearranged part is read as before, or again not at all. -/
theorem Rearranged.read?_eq {role : Role} {a b : Tree} (h : Rearranged role a b) :
    role.read? a = role.read? b := by
  induction h with
  | refl => rfl
  | symm _ ih => exact ih.symm
  | trans _ _ ih ih' => exact ih.trans ih'
  | permuted hrole h => exact Role.read?_congr hrole h.all_eq fun name _ => member?_of_perm h name
  | @unknown role name hrole h tree members =>
    refine Role.read?_congr hrole rfl fun n hn => ?_
    have hne : name ≠ n := fun heq => h (heq ▸ hn)
    rw [member?_cons_of_ne hne]
  | permutedSymbols hnames h => exact Tree.symbols?_of_perm hnames h
  | inMember role name _ before after ih => exact Role.read?_inMember ih before after
  | inItem role before _ after ih => exact Role.read?_inItem ih after

/-- **A program does not depend on the arrangement of its document.** -/
theorem ofJson_rearranged {a b : Tree} (h : Rearranged .document a b) :
    Program.ofJsonTree a = Program.ofJsonTree b ∧
      ∀ text text' : String, parse? text = some a → parse? text' = some b →
        Program.ofJson text = Program.ofJson text' := by
  have htree : Program.ofJsonTree a = Program.ofJsonTree b := by
    unfold Program.ofJsonTree
    rw [show a.document? = b.document? from h.read?_eq]
  refine ⟨htree, fun text text' ha hb => ?_⟩
  simp only [Program.ofJson, ha, hb, htree]

/-- Symbols, an instruction, its operand and the document are all rearranged. The unknown members have an
opcode twice, which an instruction must not. -/
theorem ofJson_rearranged_throughout :
    let text (content : String) : Tree := .string (some content)
    let one : Tree := .number ⟨false, 1, none, none⟩
    let count : Content × Tree := (some "count", .object [(some "type", text "INT"), (some "value", one)])
    let unset : Content × Tree := (some "unset", .object [(some "type", text "VOID")])
    let op : Content × Tree := (some "op", text "CMP")
    let area : Content × Tree := (some "area", text "STACK")
    let type : Content × Tree := (some "type", text "INT")
    let note : Content × Tree := (some "note", .array [.null, .object [op, op]])
    let plain : Tree := .object [
      (some "symbols", .object [count, unset]),
      (some "instructions", .array [.object [op, (some "first", .object [area, type])]])]
    let rearranged : Tree := .object [
      (some "instructions", .array [.object [(some "first", .object [note, type, area]), op]]),
      note,
      (some "symbols", .object [unset, count])]
    Rearranged .document plain rearranged ∧
      Program.ofJsonTree plain = Program.ofJsonTree rearranged ∧
      Program.ofJsonTree rearranged = .ok {
        symbols := .ofList [("count", .int 1), ("unset", .void)]
        instructions := [{ opcode := .cmp, first := some (.stack .int) }] } := by
  intro text one count unset op area type note plain rearranged
  have hsymbols : Rearranged .symbols (.object [count, unset]) (.object [unset, count]) :=
    .permutedSymbols (by decide) (.swap ..)
  have hoperand : Rearranged .operand (.object [area, type]) (.object [note, type, area]) :=
    .trans (.permuted rfl (.swap ..)) (.unknown "note" rfl (by decide) _ _)
  have hinstruction : Rearranged .instruction (.object [op, (some "first", .object [area, type])])
      (.object [(some "first", .object [note, type, area]), op]) :=
    .trans (.inMember .instruction "first" hoperand [op] []) (.permuted rfl (.swap ..))
  have hinstructions := Rearranged.inItem .instructions [] hinstruction []
  have h : Rearranged .document plain rearranged := by
    refine .trans (.inMember .document "symbols" hsymbols [] _) ?_
    refine .trans (.inMember .document "instructions" hinstructions [_] []) ?_
    refine .trans (.unknown "note" rfl (by decide) note.2 _) (.permuted rfl ?_)
    exact List.perm_append_singleton _ [_, _]
  exact ⟨h, (ofJson_rearranged h).1, by decide +kernel⟩

end Json

end ScriptMachine
