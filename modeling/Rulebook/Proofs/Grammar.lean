-- The grammar of definitions: what stands beneath a definition, in document
-- order, and what can be wrong with one. A definition is well formed if
-- nothing is wrong anywhere in it.
import Rulebook.Compile
import Rulebook.Proofs.Blueprint

namespace Rulebook

/-! ## Sizes -/

namespace Value

theorem size_pos (v : Value) : 0 < v.size := by
  cases v <;> simp only [size] <;> omega

theorem sizeItems_append (xs ys : List Value) :
    sizeItems (xs ++ ys) = sizeItems xs + sizeItems ys := by
  induction xs with
  | nil => simp [sizeItems]
  | cons x xs ih => simp [sizeItems, ih, Nat.add_assoc]

theorem sizeItems_flatMap_le {f : Value → List Value} {xs : List Value}
    (h : ∀ x ∈ xs, sizeItems (f x) ≤ x.size) : sizeItems (xs.flatMap f) ≤ sizeItems xs := by
  induction xs with
  | nil => exact Nat.le_refl _
  | cons x xs ih =>
    have hfirst := h x List.mem_cons_self
    have hrest := ih fun y hy => h y (List.mem_cons_of_mem _ hy)
    rw [List.flatMap_cons, sizeItems_append, sizeItems]
    omega

theorem sizeFields_eq (fs : Fields) : sizeFields fs = sizeItems (fs.map Prod.snd) := by
  induction fs with
  | nil => rfl
  | cons e fs ih => simp [sizeFields, sizeItems, ih]

theorem size_le_sizeItems {x : Value} {xs : List Value} (h : x ∈ xs) : x.size ≤ sizeItems xs := by
  induction xs with
  | nil => cases h
  | cons y ys ih =>
    simp only [sizeItems]
    rcases List.mem_cons.mp h with rfl | h
    · omega
    · have := ih h
      omega

theorem size_lt_list {x : Value} {xs : List Value} (h : x ∈ xs) : x.size < (Value.list xs).size := by
  have hitems := size_le_sizeItems h
  simp only [size]
  omega

theorem size_lt_object {e : Key × Value} {fs : Fields} (h : e ∈ fs) :
    e.2.size < (Value.object fs).size := by
  have hvalue : e.2 ∈ fs.map Prod.snd := List.mem_map_of_mem h
  have hfields := size_le_sizeItems hvalue
  simp only [size, sizeFields_eq]
  omega

end Value

/-- The expressions in a literal are together no larger than the literal. -/
theorem Blueprint.sizeItems_payloads_le (v : Value) : Value.sizeItems (payloads v) ≤ v.size := by
  induction v with
  | list xs ih =>
    rw [payloads, payloadsOfItems_eq, Value.size]
    have hitems := Value.sizeItems_flatMap_le ih
    omega
  | object fs ih =>
    cases hget : Mapping.get? logicKey fs with
    | some d =>
      obtain ⟨e, he, rfl⟩ := Mapping.mem_of_get? hget
      have hentry := Value.size_lt_object he
      rw [payloads_logic hget, Value.sizeItems, Value.sizeItems]
      omega
    | none =>
      have hvalues : ∀ v ∈ fs.map Prod.snd, Value.sizeItems (payloads v) ≤ v.size :=
        List.forall_mem_map.mpr ih
      have hfields := Value.sizeItems_flatMap_le hvalues
      rw [List.flatMap_map] at hfields
      rw [payloads_fields hget, payloadsOfFields_eq, Value.size, Value.sizeFields_eq]
      omega
  | _ => exact Nat.zero_le _

theorem Blueprint.size_le_of_payload {v c : Value} (h : c ∈ payloads v) : c.size ≤ v.size :=
  Nat.le_trans (Value.size_le_sizeItems h) (sizeItems_payloads_le v)

namespace Template

theorem leadingHole?_length {cs name : List Char} (h : leadingHole? cs = some name) :
    name.length + 3 ≤ cs.length := by
  unfold leadingHole? at h
  split at h
  · rename_i rest
    simp only at h
    split at h
    · cases h
    · rename_i hnot
      obtain rfl := Option.some.inj h
      simp only [Bool.or_eq_true, List.isEmpty_iff, not_or, List.drop_eq_nil_iff, Nat.not_le] at hnot
      simp only [List.length_cons]
      omega
  · cases h

/-- The name of a placeholder. -/
def Piece.name? : Piece → Option String
  | .hole name => some (String.ofList name)
  | .char _ => none

/-- How many characters some placeholders take. -/
def room : List String → Nat
  | [] => 0
  | name :: names => name.length + 3 + room names

theorem piecesFrom_room (skip : Nat) (cs : List Char) :
    room ((piecesFrom skip cs).filterMap Piece.name?) ≤ cs.length - skip := by
  induction cs generalizing skip with
  | nil => exact Nat.zero_le _
  | cons c cs ih =>
    cases skip with
    | succ skip =>
      have hrest := ih skip
      simp only [piecesFrom, List.length_cons]
      omega
    | zero =>
      unfold piecesFrom
      split
      · rename_i name hname
        have hlength := leadingHole?_length hname
        have hrest := ih (name.length + 2)
        simp only [List.filterMap_cons, Piece.name?, room, List.length_cons, String.length_ofList]
          at hlength ⊢
        omega
      · have hrest := ih 0
        simp only [List.filterMap_cons, Piece.name?, List.length_cons]
        omega

/-- The placeholders of a text take no more characters than it has. -/
theorem holes_room (text : String) : room (holes text) ≤ text.length := by
  have hpieces := piecesFrom_room 0 text.toList
  rwa [String.length_toList, Nat.sub_zero] at hpieces

/-- A placeholder takes more characters than its name. -/
theorem holes_length {text name : String} (h : name ∈ holes text) : name.length + 3 ≤ text.length := by
  refine Nat.le_trans ?_ (holes_room text)
  generalize holes text = names at h
  induction names with
  | nil => cases h
  | cons name' names ih =>
    unfold room
    rcases List.mem_cons.mp h with rfl | h
    · exact Nat.le_add_right _ _
    · exact Nat.le_add_left_of_le (ih h)

end Template

/-! ## Shapes of operands -/

/-- What an operation expects for its operand. -/
inductive Shape where
  /-- A dotted path. -/
  | path
  /-- A text with placeholders. -/
  | template
  /-- Any data, with definitions in it. -/
  | quoted
  /-- One definition. -/
  | one
  /-- A list of so many definitions. -/
  | operands (count : OperandCount)
  /-- A list of any definitions. -/
  | items
  /-- A mapping of definitions. -/
  | fields
deriving DecidableEq

/-- The standard operations and their operands. -/
def shapes : List (String × Shape) :=
  [ ("literal", .quoted), ("valueTemplate", .path), ("stringTemplate", .template),
    ("if", .operands (.between 2 3)), ("typeof", .one), ("not", .one),
    ("and", .operands (.atLeast 2)), ("or", .operands (.atLeast 2)), ("eq", .operands (.atLeast 2)),
    ("gt", .operands (.atLeast 2)), ("gte", .operands (.atLeast 2)), ("lt", .operands (.atLeast 2)),
    ("lte", .operands (.atLeast 2)), ("array", .items), ("object", .fields),
    ("object-property", .operands (.atLeast 2)), ("map", .operands (.exactly 2)), ("debug", .one),
    ("capitalize", .one), ("concat", .operands (.atLeast 2)), ("split", .operands (.exactly 2)),
    ("join", .operands (.exactly 2)) ]

/-- The definition that a placeholder stands for. -/
def placeholder (name : String) : Value := .text ("$" ++ name)

/-- The definitions in an operand of a shape, in order, or what is wrong with
the operand. -/
def Shape.parts (operation : String) : Shape → Value → Except Fault (List Value)
  | .path, .text _ => .ok []
  | .path, v => .error (.noMethod v.typeName "split")
  | .template, .text s => .ok ((Template.holes s).map placeholder)
  | .template, v => .error (.templateNotText v.typeName)
  | .quoted, v => .ok (Blueprint.payloads v)
  | .one, v => .ok [v]
  | .operands count, .list xs =>
    if count.admits xs.length then .ok xs
    else .error (.operandCount operation count (.list xs) xs.length)
  | .operands _, v => .error (.operandsNotList operation v)
  | .items, .list xs => .ok xs
  | .items, v => .error (.notArray v)
  | .fields, .object fs => .ok (fs.map Prod.snd)
  | .fields, v => .error (.notObject v)

theorem sizeItems_placeholders_le (names : List String) :
    Value.sizeItems (names.map placeholder) ≤ Template.room names := by
  induction names with
  | nil => exact Nat.le_refl _
  | cons name names ih =>
    have hdollar : "$".length = 1 := rfl
    simp only [List.map_cons, Template.room, Value.sizeItems, placeholder, Value.size,
      String.length_append]
    omega

/-- The parts of an operand are together no larger than it. -/
theorem Shape.sizeItems_parts_le {operation : String} {shape : Shape} {v : Value} {ps : List Value}
    (h : shape.parts operation v = .ok ps) : Value.sizeItems ps ≤ v.size := by
  unfold Shape.parts at h
  split at h
  case h_2 | h_4 | h_8 | h_10 | h_12 => cases h
  case h_1 =>
    obtain rfl := Except.ok.inj h
    exact Nat.zero_le _
  case h_3 s =>
    obtain rfl := Except.ok.inj h
    have hplaceholders := sizeItems_placeholders_le (Template.holes s)
    have hroom := Template.holes_room s
    rw [Value.size]
    omega
  case h_5 =>
    obtain rfl := Except.ok.inj h
    exact Blueprint.sizeItems_payloads_le v
  case h_6 =>
    obtain rfl := Except.ok.inj h
    exact Nat.le_refl _
  case h_7 count xs =>
    split at h
    · obtain rfl := Except.ok.inj h
      rw [Value.size]
      omega
    · cases h
  case h_9 xs =>
    obtain rfl := Except.ok.inj h
    rw [Value.size]
    omega
  case h_11 fs =>
    obtain rfl := Except.ok.inj h
    rw [Value.size, Value.sizeFields_eq]
    omega

/-- No part of an operand is larger than it. -/
theorem Shape.size_le_of_part {operation : String} {shape : Shape} {v c : Value} {ps : List Value}
    (h : shape.parts operation v = .ok ps) (hc : c ∈ ps) : c.size ≤ v.size :=
  Nat.le_trans (Value.size_le_sizeItems hc) (sizeItems_parts_le h)

/-! ## What stands in a definition -/

/-- The shape of the operand of an operation, if there is such an operation. -/
def shapeOf : Key → Option Shape
  | .text name => Mapping.get? name shapes
  | _ => none

/-- A text behind a dollar sign, else without one. -/
def pathOf? (s : String) : Option String :=
  match s.toList with
  | '$' :: cs => some (String.ofList cs)
  | _ => none

/-- A text that is no path and starts with the marker. -/
def LedText (marker s : String) : Prop := pathOf? s = none ∧ marker.toList <+: s.toList

/-- A template without its end. -/
def OpenText (marker s : String) : Prop :=
  LedText marker s ∧ (s.length < 2 ∨ ¬ marker.toList <:+ s.toList)

instance (marker s : String) : Decidable (LedText marker s) := inferInstanceAs (Decidable (_ ∧ _))

instance (marker s : String) : Decidable (OpenText marker s) := inferInstanceAs (Decidable (_ ∧ _))

/-- The definitions right beneath a definition, in order. -/
def children (marker : String) : Value → List Value
  | .text s =>
    if LedText marker s then
      (Template.holes (String.ofList s.toList.tail.dropLast)).map placeholder
    else []
  | .list xs => xs
  | .object ((name, operand) :: _) =>
    match shapeOf name with
    | some shape => (shape.parts name.plain operand).toOption.getD []
    | none => []
  | _ => []

/-- The path that a definition reads itself. -/
def ownPath? : Value → Option (List String)
  | .text s => (pathOf? s).map Text.dotted
  | .object ((name, .text s) :: _) => if shapeOf name = some .path then some (Text.dotted s) else none
  | _ => none

/-- What is wrong with a definition itself. -/
def complaint (marker : String) : Value → Option Fault
  | .text s => if OpenText marker s then some (.openTemplate (.text s) marker) else none
  | .object [] => some (.noOperation (.object []))
  | .object ((name, operand) :: rest) =>
    match shapeOf name with
    | some shape =>
      match shape.parts name.plain operand with
      | .ok _ => none
      | .error e => some e
    | none =>
      some (.unknownOperation name (.object ((name, operand) :: rest)) Registry.standard.sortedNames)
  | _ => none

theorem size_lt_of_child {marker : String} {d c : Value} (h : c ∈ children marker d) :
    c.size < d.size := by
  unfold children at h
  split at h
  · rename_i s
    split at h
    · obtain ⟨name, hname, rfl⟩ := List.mem_map.mp h
      have hlength := Template.holes_length hname
      have hdollar : "$".length = 1 := rfl
      rw [String.length_ofList, List.length_dropLast, List.length_tail, String.length_toList] at hlength
      simp only [placeholder, Value.size, String.length_append]
      omega
    · cases h
  · exact Value.size_lt_list h
  · rename_i name operand rest
    refine Nat.lt_of_le_of_lt ?_ (Value.size_lt_object (List.mem_cons_self (a := (name, operand))))
    cases hshape : shapeOf name with
    | none => rw [hshape] at h; cases h
    | some shape =>
      rw [hshape] at h
      cases hparts : shape.parts name.plain operand with
      | error e => simp [hparts, Except.toOption] at h
      | ok ps => exact Shape.size_le_of_part hparts (by simpa [hparts, Except.toOption] using h)
  · cases h

/-- A definition and all definitions beneath it, in document order. -/
def outline (marker : String) (d : Value) : List Value :=
  d :: (children marker d).attach.flatMap fun c => outline marker c.1
termination_by d.size
decreasing_by exact size_lt_of_child c.2

theorem outline_eq (marker : String) (d : Value) :
    outline marker d = d :: (children marker d).flatMap (outline marker) := by
  have hattach : ((children marker d).attach.map Subtype.val) = children marker d :=
    List.attach_map_subtype_val _
  have hflat : (children marker d).attach.flatMap (fun c => outline marker c.1)
      = ((children marker d).attach.map Subtype.val).flatMap (outline marker) :=
    (List.flatMap_map ..).symm
  rw [outline, hflat, hattach]

/-! ## Well-formed definitions -/

/-- Neither a text nor a collection. -/
def Value.isScalar : Value → Bool
  | .text _ | .list _ | .object _ => false
  | _ => true

/-- Definitions that follow the grammar. -/
inductive WellFormed (marker : String) : Value → Prop
  | scalar {v : Value} (h : v.isScalar = true) : WellFormed marker v
  | text {s : String} (h : ¬ OpenText marker s) : WellFormed marker (.text s)
  | list {xs : List Value} (h : ∀ x ∈ xs, WellFormed marker x) : WellFormed marker (.list xs)
  | operation {name : String} {operand : Value} {rest : Fields} {shape : Shape} {ps : List Value}
      (hshape : Mapping.get? name shapes = some shape) (hparts : shape.parts name operand = .ok ps)
      (h : ∀ c ∈ ps, WellFormed marker c) : WellFormed marker (.object ((.text name, operand) :: rest))

theorem pathOf?_placeholder (name : String) : pathOf? ("$" ++ name) = some name := by
  have hlist : ("$" ++ name).toList = '$' :: name.toList := by
    rw [String.toList_append]
    rfl
  simp [pathOf?, hlist]

theorem outline_placeholder (marker name : String) :
    outline marker (placeholder name) = [placeholder name] := by
  rw [outline_eq]
  simp [placeholder, children, LedText, pathOf?_placeholder]

theorem complaint_placeholder (marker name : String) :
    complaint marker (placeholder name) = none := by
  simp [placeholder, complaint, OpenText, LedText, pathOf?_placeholder]

section Operations

variable {marker : String} {name : Key} {operand : Value} {rest : Fields} {shape : Shape}
  {ps : List Value}

theorem complaint_operation (hshape : shapeOf name = some shape)
    (hparts : shape.parts name.plain operand = .ok ps) :
    complaint marker (.object ((name, operand) :: rest)) = none := by
  simp [complaint, hshape, hparts]

theorem children_operation (hshape : shapeOf name = some shape)
    (hparts : shape.parts name.plain operand = .ok ps) :
    children marker (.object ((name, operand) :: rest)) = ps := by
  simp [children, hshape, hparts, Except.toOption]

/-- An operation that nothing is wrong with has an operand of its shape. -/
theorem parts_of_no_complaint (h : complaint marker (.object ((name, operand) :: rest)) = none) :
    ∃ operation shape ps, name = .text operation ∧ Mapping.get? operation shapes = some shape
      ∧ shape.parts operation operand = .ok ps := by
  cases hshape : shapeOf name with
  | none => simp [complaint, hshape] at h
  | some shape =>
    cases hparts : shape.parts name.plain operand with
    | error e => simp [complaint, hshape, hparts] at h
    | ok ps =>
      cases name with
      | text operation => exact ⟨operation, shape, ps, rfl, hshape, hparts⟩
      | _ => cases hshape

end Operations

theorem outline_forall (marker : String) (d : Value) :
    (∀ q ∈ outline marker d, complaint marker q = none) ↔
      complaint marker d = none
        ∧ ∀ c ∈ children marker d, ∀ q ∈ outline marker c, complaint marker q = none := by
  rw [outline_eq]
  simp only [List.forall_mem_cons, List.mem_flatMap, forall_exists_index, and_imp]
  exact and_congr_right fun _ =>
    ⟨fun h c hc q hq => h q c hc hq, fun h q c hc hq => h c hc q hq⟩

theorem WellFormed.no_complaint {marker : String} {d : Value} (h : WellFormed marker d) :
    ∀ q ∈ outline marker d, complaint marker q = none := by
  induction h with
  | @scalar v h =>
    rw [outline_forall]
    cases v with
    | text | list | object => cases h
    | _ => exact ⟨rfl, by simp [children]⟩
  | @text s h =>
    rw [outline_forall]
    refine ⟨by simp [complaint, h], fun c hc => ?_⟩
    simp only [children] at hc
    split at hc
    · obtain ⟨name, -, rfl⟩ := List.mem_map.mp hc
      simp [outline_placeholder, complaint_placeholder]
    · cases hc
  | list h ih =>
    rw [outline_forall]
    exact ⟨rfl, ih⟩
  | @operation name operand rest shape ps hshape hparts h ih =>
    have hname : shapeOf (.text name) = some shape := hshape
    have hplain : shape.parts (Key.text name).plain operand = .ok ps := hparts
    rw [outline_forall, children_operation hname hplain]
    exact ⟨complaint_operation hname hplain, ih⟩

theorem wellFormed_of_no_complaint {marker : String} {d : Value}
    (h : ∀ q ∈ outline marker d, complaint marker q = none) : WellFormed marker d := by
  induction hd : d.size using Nat.strongRecOn generalizing d with
  | _ size ih =>
    obtain ⟨hself, hbeneath⟩ := (outline_forall marker d).mp h
    have hchild (c : Value) (hc : c ∈ children marker d) : WellFormed marker c :=
      ih c.size (hd ▸ size_lt_of_child hc) (hbeneath c hc) rfl
    cases d with
    | text s => exact .text fun hopen => by simp [complaint, hopen] at hself
    | list xs => exact .list hchild
    | object fs =>
      cases fs with
      | nil => cases hself
      | cons e rest =>
        obtain ⟨operation, shape, ps, hname, hshape, hparts⟩ := parts_of_no_complaint hself
        obtain ⟨name, operand⟩ := e
        obtain rfl : name = .text operation := hname
        have hchildren : children marker (.object ((.text operation, operand) :: rest)) = ps :=
          children_operation hshape hparts
        exact .operation hshape hparts fun c hc => hchild c (hchildren ▸ hc)
    | _ => exact .scalar rfl

/-- A definition is well formed if nothing is wrong anywhere in it. -/
theorem wellFormed_iff (marker : String) (d : Value) :
    WellFormed marker d ↔ ∀ q ∈ outline marker d, complaint marker q = none :=
  ⟨WellFormed.no_complaint, wellFormed_of_no_complaint⟩

end Rulebook
