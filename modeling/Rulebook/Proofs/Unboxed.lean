-- Values without the origins of their numbers. Two values that differ in
-- nothing else are the same data, and nothing that is read from a value, but a
-- method of one of its numbers, tells them apart.
import Rulebook.Operation.Function
import Rulebook.Proofs.Mapping
import Rulebook.Proofs.Tree
import Rulebook.Value.Document

namespace Rulebook

/-! ## Keys -/

def Key.unboxed : Key → Key
  | .int n => .int n.value
  | .float x => .float x.value
  | k => k

namespace Key

theorem unboxed_unboxed (k : Key) : k.unboxed.unboxed = k.unboxed := by cases k <;> rfl

@[simp] theorem identity_unboxed (k : Key) : k.unboxed.identity = k.identity := by cases k <;> rfl

@[simp] theorem display_unboxed (k : Key) : k.unboxed.display = k.display := by cases k <;> rfl

@[simp] theorem writable_unboxed (k : Key) : k.unboxed.writable = k.writable := by cases k <;> rfl

@[simp] theorem keyText_unboxed (k : Key) : Json.keyText k.unboxed = Json.keyText k := by
  cases k <;> rfl

/-- Origins do not matter where keys are compared. -/
@[simp] theorem unboxed_beq (k l : Key) : (k.unboxed == l.unboxed) = (k == l) := by
  simp [BEq.beq]

end Key

namespace Value

/-! ## Values -/

mutual
/-- The value with all its numbers as shared ones. A method stays the method of
its object. -/
def unboxed : Value → Value
  | .int n => .int n.value
  | .float x => .float x.value
  | .list xs => .list (unboxedItems xs)
  | .object fs => .object (unboxedFields fs)
  | v => v
def unboxedItems : List Value → List Value
  | [] => []
  | x :: xs => x.unboxed :: unboxedItems xs
def unboxedFields : List (Key × Value) → List (Key × Value)
  | [] => []
  | (k, v) :: fs => (k.unboxed, v.unboxed) :: unboxedFields fs
end

theorem unboxedItems_eq (xs : List Value) : unboxedItems xs = xs.map unboxed := by
  induction xs with
  | nil => rfl
  | cons x xs ih => simp [unboxedItems, ih]

theorem unboxedFields_eq (fs : Fields) :
    unboxedFields fs = fs.map fun e => (e.1.unboxed, e.2.unboxed) := by
  induction fs with
  | nil => rfl
  | cons e fs ih => simp [unboxedFields, ih]

@[simp] theorem unboxed_list (xs : List Value) : (Value.list xs).unboxed = .list (xs.map unboxed) := by
  rw [unboxed, unboxedItems_eq]

@[simp] theorem unboxed_object (fs : Fields) :
    (Value.object fs).unboxed = .object (fs.map fun e => (e.1.unboxed, e.2.unboxed)) := by
  rw [unboxed, unboxedFields_eq]

mutual
theorem unboxed_unboxed : (v : Value) → v.unboxed.unboxed = v.unboxed
  | .list xs => by rw [unboxed, unboxed, unboxedItems_unboxed xs]
  | .object fs => by rw [unboxed, unboxed, unboxedFields_unboxed fs]
  | .undefined | .null | .bool _ | .int _ | .float _ | .text _ | .foreign _ => rfl
theorem unboxedItems_unboxed : (xs : List Value) → unboxedItems (unboxedItems xs) = unboxedItems xs
  | [] => rfl
  | x :: xs => by rw [unboxedItems, unboxedItems, unboxed_unboxed x, unboxedItems_unboxed xs]
theorem unboxedFields_unboxed : (fs : Fields) → unboxedFields (unboxedFields fs) = unboxedFields fs
  | [] => rfl
  | (k, v) :: fs => by
    rw [unboxedFields, unboxedFields, k.unboxed_unboxed, unboxed_unboxed v, unboxedFields_unboxed fs]
end

section Documents

variable (origin : Nat → Origin)

theorem unboxed_key (o : Origin) (k : Key) : (k.boxed o).1.unboxed = k.unboxed := by
  cases k with
  | float x =>
    rw [Key.boxed]
    split <;> rfl
  | _ => rfl

mutual
theorem unboxed_boxedFrom : (n : Nat) → (v : Value) → (v.boxedFrom origin n).1.unboxed = v.unboxed
  | n, .float x => by
    rw [boxedFrom]
    split <;> rfl
  | n, .list xs => congrArg Value.list (unboxed_boxedItems n xs)
  | n, .object fs => congrArg Value.object (unboxed_boxedFields n fs)
  | _, .undefined | _, .null | _, .bool _ | _, .int _ | _, .text _ | _, .foreign _ => rfl
theorem unboxed_boxedItems : (n : Nat) → (xs : List Value) →
    unboxedItems (boxedItems origin n xs).1 = unboxedItems xs
  | _, [] => rfl
  | n, x :: xs => by
    simp only [boxedItems, unboxedItems]
    rw [unboxed_boxedFrom n x, unboxed_boxedItems _ xs]
theorem unboxed_boxedFields : (n : Nat) → (fs : Fields) →
    unboxedFields (boxedFields origin n fs).1 = unboxedFields fs
  | _, [] => rfl
  | n, (k, v) :: fs => by
    simp only [boxedFields, unboxedFields]
    rw [unboxed_key, unboxed_boxedFrom _ v, unboxed_boxedFields _ fs]
end

/-- A document read as objects is the same data. -/
theorem unboxed_boxed (v : Value) : (v.boxed origin).unboxed = v.unboxed := unboxed_boxedFrom origin 0 v

end Documents

theorem unboxed_toValue (k : Key) : k.toValue.unboxed = k.unboxed.toValue := by cases k <;> rfl

/-! ## What origins do not change -/

section Kinds

variable (v : Value)

@[simp] theorem typeName_unboxed : v.unboxed.typeName = v.typeName := by cases v <;> rfl

@[simp] theorem kind_unboxed : v.unboxed.kind = v.kind := by cases v <;> rfl

@[simp] theorem isUndefined_unboxed : v.unboxed.isUndefined = v.isUndefined := by cases v <;> rfl

@[simp] theorem isAbsent_unboxed : v.unboxed.isAbsent = v.isAbsent := by cases v <;> rfl

@[simp] theorem isBool_unboxed : v.unboxed.isBool = v.isBool := by cases v <;> rfl

@[simp] theorem isNaN_unboxed : v.unboxed.isNaN = v.isNaN := by cases v <;> rfl

@[simp] theorem truthy_unboxed : v.unboxed.truthy = v.truthy := by
  cases v with
  | list xs => cases xs <;> rfl
  | object fs => cases fs <;> rfl
  | _ => rfl

end Kinds

mutual
@[simp] theorem display_unboxed : (v : Value) → v.unboxed.display = v.display
  | .list xs => by rw [unboxed, display, display, displayItems_unboxed xs]
  | .object fs => by rw [unboxed, display, display, displayFields_unboxed fs]
  | .undefined | .null | .bool _ | .int _ | .float _ | .text _ | .foreign _ => rfl
theorem displayItems_unboxed : (xs : List Value) → displayItems (unboxedItems xs) = displayItems xs
  | [] => rfl
  | x :: xs => by
    rw [unboxedItems, displayItems, displayItems, display_unboxed x, displayItems_unboxed xs]
theorem displayFields_unboxed : (fs : Fields) → displayFields (unboxedFields fs) = displayFields fs
  | [] => rfl
  | (k, v) :: fs => by
    rw [unboxedFields, displayFields, displayFields, k.display_unboxed, display_unboxed v,
      displayFields_unboxed fs]
end

mutual
@[simp] theorem writable_unboxed : (v : Value) → v.unboxed.writable = v.writable
  | .list xs => by rw [unboxed, writable, writable, writableItems_unboxed xs]
  | .object fs => by rw [unboxed, writable, writable, writableFields_unboxed fs]
  | .undefined | .null | .bool _ | .int _ | .float _ | .text _ | .foreign _ => rfl
theorem writableItems_unboxed : (xs : List Value) → writableItems (unboxedItems xs) = writableItems xs
  | [] => rfl
  | x :: xs => by
    rw [unboxedItems, writableItems, writableItems, writable_unboxed x, writableItems_unboxed xs]
theorem writableFields_unboxed : (fs : Fields) → writableFields (unboxedFields fs) = writableFields fs
  | [] => rfl
  | (k, v) :: fs => by
    rw [unboxedFields, writableFields, writableFields, k.writable_unboxed, writable_unboxed v,
      writableFields_unboxed fs]
end

/-! ## Texts -/

mutual
theorem toJson_unboxed : (v : Value) → v.unboxed.toJson = v.toJson.unboxed
  | .list xs => by rw [unboxed, toJson, toJson, toJsonItems_unboxed xs, unboxed]
  | .object fs => by rw [unboxed, toJson, toJson, toJsonFields_unboxed fs, unboxed]
  | .undefined | .null | .bool _ | .int _ | .float _ | .text _ | .foreign _ => rfl
theorem toJsonItems_unboxed : (xs : List Value) →
    toJsonItems (unboxedItems xs) = unboxedItems (toJsonItems xs)
  | [] => rfl
  | x :: xs => by
    rw [unboxedItems, toJsonItems, toJsonItems, unboxedItems, toJson_unboxed x, toJsonItems_unboxed xs]
theorem toJsonFields_unboxed : (fs : Fields) →
    toJsonFields (unboxedFields fs) = unboxedFields (toJsonFields fs)
  | [] => rfl
  | (k, v) :: fs => by
    rw [unboxedFields, toJsonFields, toJsonFields, unboxedFields, toJson_unboxed v,
      toJsonFields_unboxed fs]
end

section Json

variable (style : Json.Style)

open Json

mutual
theorem write_unboxed : (v : Value) → write style v.unboxed = write style v
  | .list xs => by rw [unboxed, write, write, writeItems_unboxed xs]
  | .object fs => by rw [unboxed, write, write, writeFields_unboxed fs]
  | .undefined | .null | .bool _ | .int _ | .float _ | .text _ | .foreign _ => rfl
theorem writeItems_unboxed : (xs : List Value) → writeItems style (unboxedItems xs) = writeItems style xs
  | [] => rfl
  | [x] => write_unboxed x
  | x :: y :: ys => by
    show write style x.unboxed ++ style.comma ++ writeItems style (unboxedItems (y :: ys))
      = write style x ++ style.comma ++ writeItems style (y :: ys)
    rw [write_unboxed x, writeItems_unboxed (y :: ys)]
theorem writeFields_unboxed : (fs : Fields) → writeFields style (unboxedFields fs) = writeFields style fs
  | [] => rfl
  | [(k, v)] => by
    rw [unboxedFields, unboxedFields, writeFields, writeFields, k.keyText_unboxed, write_unboxed v]
  | (k, v) :: e :: fs => by
    show stringText style.ascii (keyText k.unboxed) ++ style.colon ++ write style v.unboxed
        ++ style.comma ++ writeFields style (unboxedFields (e :: fs))
      = stringText style.ascii (keyText k) ++ style.colon ++ write style v
        ++ style.comma ++ writeFields style (e :: fs)
    rw [k.keyText_unboxed, write_unboxed v, writeFields_unboxed (e :: fs)]
end

end Json

@[simp] theorem toText_unboxed (v : Value) : v.unboxed.toText = v.toText := by
  cases v with
  | list xs =>
    have hjson := toJson_unboxed (.list xs)
    rw [unboxed] at hjson ⊢
    rw [toText, toText, hjson, Json.text, Json.text, write_unboxed]
  | object fs =>
    have hjson := toJson_unboxed (.object fs)
    rw [unboxed] at hjson ⊢
    rw [toText, toText, hjson, Json.text, Json.text, write_unboxed]
  | _ => rfl

@[simp] theorem written_unboxed (v : Value) : v.unboxed.written = v.written := by
  simp only [written, writable_unboxed, toText_unboxed]

/-! ## Mappings -/

theorem get?_unboxed (k : Key) (fs : Fields) :
    Mapping.get? k.unboxed (unboxedFields fs) = (Mapping.get? k fs).map unboxed := by
  induction fs with
  | nil => rfl
  | cons e fs ih =>
    obtain ⟨l, v⟩ := e
    rw [unboxedFields, Mapping.get?, Mapping.get?, Key.unboxed_beq, ih]
    split <;> rfl

theorem put_unboxed (k : Key) (v : Value) (fs : Fields) :
    unboxedFields (Mapping.put k v fs) = Mapping.put k.unboxed v.unboxed (unboxedFields fs) := by
  induction fs with
  | nil => rfl
  | cons e fs ih =>
    obtain ⟨l, w⟩ := e
    rw [unboxedFields, Mapping.put, Mapping.put, Key.unboxed_beq]
    split
    · rw [unboxedFields]
    · rw [unboxedFields, ih]

/-! ## Comparisons -/

theorem length_unboxedFields (fs : Fields) : (unboxedFields fs).length = fs.length := by
  rw [unboxedFields_eq, List.length_map]

theorem same_unboxed (a b : Value) : same a.unboxed b.unboxed = same a b := by
  induction a generalizing b with
  | list xs ih =>
    cases b with
    | list ys =>
      simp only [unboxed, same]
      induction xs generalizing ys with
      | nil => cases ys <;> rfl
      | cons x xs ihxs =>
        cases ys with
        | nil => rfl
        | cons y ys =>
          rw [unboxedItems, unboxedItems, sameItems, sameItems, ih x (by simp),
            ihxs fun z hz => ih z (List.mem_cons_of_mem _ hz)]
    | _ => rfl
  | object fs ih =>
    cases b with
    | object gs =>
      have hfields : sameFields (unboxedFields fs) (unboxedFields gs) = sameFields fs gs := by
        induction fs with
        | nil => rfl
        | cons e fs ihfs =>
          rw [unboxedFields, sameFields, sameFields, get?_unboxed,
            ihfs fun e' he' => ih e' (List.mem_cons_of_mem _ he')]
          cases Mapping.get? e.1 gs with
          | none => rfl
          | some w => exact congrArg (· && sameFields fs gs) (ih e (by simp) w)
      simp only [unboxed, same, length_unboxedFields, hfields]
    | _ => rfl
  | _ => cases b <;> rfl

theorem strictEquals_unboxed (a b : Value) : a.unboxed.strictEquals b.unboxed = a.strictEquals b := by
  simp only [strictEquals, equals, isBool_unboxed, isNaN_unboxed, same_unboxed]

theorem order_unboxed (a b : Value) : order a.unboxed b.unboxed = order a b := by
  induction a generalizing b with
  | list xs ih =>
    cases b with
    | list ys =>
      simp only [unboxed, order]
      induction xs generalizing ys with
      | nil => cases ys <;> rfl
      | cons x xs ihxs =>
        cases ys with
        | nil => rfl
        | cons y ys =>
          rw [unboxedItems, unboxedItems, orderItems, orderItems, same_unboxed, ih x (by simp),
            ihxs fun z hz => ih z (List.mem_cons_of_mem _ hz)]
    | _ => rfl
  | _ => cases b <;> rfl

end Value
end Rulebook
