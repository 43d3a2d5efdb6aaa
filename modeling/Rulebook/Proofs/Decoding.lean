-- JSON text of collections. What is written of data is read back as the data with null
-- for each missing value; it is ASCII, and no white space stands in it but in strings.
import Rulebook.Proofs.Blame
import Rulebook.Proofs.Tokens
import Rulebook.Proofs.Unboxed

namespace Rulebook

namespace Value

/-- Values that JSON text can say exactly, but for what is missing in them: there are
no fractions among them, and the keys of a mapping are names that differ. -/
inductive Exact : Value → Prop
  | undefined : Exact .undefined
  | null : Exact .null
  | bool (b : Bool) : Exact (.bool b)
  | int (n : Boxed Int) : Exact (.int n)
  | text (s : String) : Exact (.text s)
  | list {xs : List Value} (h : ∀ x ∈ xs, Exact x) : Exact (.list xs)
  | object {fs : Fields} (hnames : ∀ e ∈ fs, ∃ s, e.1 = .text s) (hdistinct : Mapping.Distinct fs)
      (h : ∀ e ∈ fs, Exact e.2) : Exact (.object fs)

/-- The second value is the first one with null in the places of what is missing. -/
inductive Filled : Value → Value → Prop
  | missing : Filled .undefined .null
  | scalar {v : Value} (hv : v ≠ .undefined) (hlist : ∀ xs, v ≠ .list xs) (hobject : ∀ fs, v ≠ .object fs) :
      Filled v v
  | list {xs ys : List Value} (h : List.Forall₂ Filled xs ys) : Filled (.list xs) (.list ys)
  | object {fs gs : Fields} (hkeys : Mapping.keys fs = Mapping.keys gs)
      (h : List.Forall₂ (fun e f => Filled e.2 f.2) fs gs) : Filled (.object fs) (.object gs)

theorem toJsonItems_eq (xs : List Value) : toJsonItems xs = xs.map toJson := by
  induction xs with
  | nil => rfl
  | cons x xs ih => simp [toJsonItems, ih]

theorem toJsonFields_eq (fs : Fields) : toJsonFields fs = fs.map fun e => (e.1, e.2.toJson) := by
  induction fs with
  | nil => rfl
  | cons e fs ih => simp [toJsonFields, ih]

theorem filled_toJson (v : Value) : Filled v v.toJson := by
  induction v with
  | undefined => exact .missing
  | list xs ih =>
    rw [toJson, toJsonItems_eq]
    refine .list ?_
    rw [List.forall₂_map_right_iff]
    exact List.forall₂_same.mpr ih
  | object fs ih =>
    rw [toJson, toJsonFields_eq]
    refine .object (by simp [Mapping.keys]) ?_
    rw [List.forall₂_map_right_iff]
    exact List.forall₂_same.mpr ih
  | _ => exact .scalar (by simp) (by simp) (by simp)

end Value

namespace Json

open Value

/-! ## What is written -/

theorem write_toJson (style : Style) (v : Value) : write style v.toJson = write style v := by
  induction v with
  | list xs ih =>
    have hitems : writeItems style (xs.map toJson) = writeItems style xs := by
      induction xs with
      | nil => rfl
      | cons x xs ihxs =>
        have hrest := ihxs fun y hy => ih y (List.mem_cons_of_mem _ hy)
        cases xs with
        | nil => exact ih x (by simp)
        | cons y ys =>
          simp only [List.map_cons, writeItems] at hrest ⊢
          rw [ih x (by simp), hrest]
    rw [toJson, toJsonItems_eq, write, write, hitems]
  | object fs ih =>
    have hfields : writeFields style (fs.map fun e => (e.1, e.2.toJson)) = writeFields style fs := by
      induction fs with
      | nil => rfl
      | cons e fs ihfs =>
        have hrest := ihfs fun f hf => ih f (List.mem_cons_of_mem _ hf)
        have he := ih e (by simp)
        cases fs with
        | nil => simp only [List.map_cons, List.map_nil, writeFields, he]
        | cons f fs =>
          simp only [List.map_cons, writeFields] at hrest ⊢
          rw [he, hrest]
    rw [toJson, toJsonFields_eq, write, write, hfields]
  | _ => rfl

/-- What a value can start with: no space, no closing bracket or brace, and no mark at
the start of a document. -/
def Opens (c : Char) : Prop := c ∉ [' ', '\t', '\n', '\r', ']', '\x7d', '\ufeff']

instance (c : Char) : Decidable (Opens c) := inferInstanceAs (Decidable (c ∉ _))

theorem opens_of_isDigit {c : Char} (h : isDigit c = true) : Opens c := by
  intro hmem
  simp only [List.mem_cons, List.not_mem_nil, or_false] at hmem
  rcases hmem with rfl | rfl | rfl | rfl | rfl | rfl | rfl <;> cases h

theorem Opens.skipSpace {c : Char} (h : Opens c) (cs : List Char) : skipSpace (c :: cs) = c :: cs := by
  have hspace : isSpace c = false := by
    simp only [Opens, List.mem_cons, not_or] at h
    simp [isSpace, h]
  rw [Json.skipSpace, List.dropWhile_cons_of_neg (by simp [hspace])]

theorem toString_cons (n : Int) : ∃ c cs, (toString n).toList = c :: cs
    ∧ (isDigit c = true ∨ c = '-' ∧ ∃ d ds, cs = d :: ds ∧ isDigit d = true) := by
  cases n with
  | ofNat m =>
    obtain ⟨d, ds, hds, hd⟩ := toDigits_cons m
    exact ⟨d, ds, (toList_ofNat m).trans hds, .inl hd⟩
  | negSucc m =>
    obtain ⟨d, ds, hds, hd⟩ := toDigits_cons (m + 1)
    exact ⟨'-', _, toList_negSucc m, .inr ⟨rfl, d, ds, hds, hd⟩⟩

theorem write_opens {v : Value} (hv : v.Exact) : ∃ c cs, write compact v = c :: cs ∧ Opens c := by
  cases hv with
  | int n =>
    obtain ⟨c, cs, hcs, hc⟩ := toString_cons n
    refine ⟨c, cs, hcs, ?_⟩
    rcases hc with hc | ⟨rfl, -⟩
    · exact opens_of_isDigit hc
    · decide
  | bool b => cases b <;> exact ⟨_, _, rfl, by decide⟩
  | _ => exact ⟨_, _, rfl, by decide⟩

theorem skipSpace_write {v : Value} (hv : v.Exact) (cs : List Char) :
    skipSpace (write compact v ++ cs) = write compact v ++ cs := by
  obtain ⟨c, ds, hds, hc⟩ := write_opens hv
  rw [hds, List.cons_append, hc.skipSpace]

theorem writeItems_cons (x y : Value) (ys : List Value) :
    writeItems compact (x :: y :: ys) = write compact x ++ ',' :: writeItems compact (y :: ys) := by
  rw [writeItems, List.append_assoc]
  · rfl
  · simp

theorem writeFields_singleton (s : String) (v : Value) :
    writeFields compact [(.text s, v)] = stringText true s ++ ':' :: write compact v := by
  rw [writeFields, List.append_assoc]
  rfl

theorem writeFields_cons (s : String) (v : Value) (e : Key × Value) (fs : Fields) :
    writeFields compact ((.text s, v) :: e :: fs)
      = stringText true s ++ ':' :: (write compact v ++ ',' :: writeFields compact (e :: fs)) := by
  rw [writeFields]
  · simp [compact, keyText]
  · simp

theorem writeFields_quote (e : Key × Value) (fs : Fields) :
    ∃ cs, writeFields compact (e :: fs) = '"' :: cs := by
  cases fs <;> exact ⟨_, rfl⟩

/-- What is written first is the first item. -/
theorem writeItems_first (x : Value) (xs : List Value) :
    ∃ cs, writeItems compact (x :: xs) = write compact x ++ cs := by
  cases xs with
  | nil => exact ⟨[], (List.append_nil _).symm⟩
  | cons y ys => exact ⟨_, writeItems_cons x y ys⟩

/-! ## What is read back -/

theorem named?_int (n : Int) (rest : List Char) : named? ((toString n).toList ++ rest) = none := by
  have hletter {c : Char} (h : isDigit c = true) : c ∉ ['n', 't', 'f', 'N', 'I', '-'] := by
    intro hmem
    simp only [List.mem_cons, List.not_mem_nil, or_false] at hmem
    rcases hmem with rfl | rfl | rfl | rfl | rfl | rfl <;> cases h
  obtain ⟨c, cs, hcs, hc⟩ := toString_cons n
  rw [hcs, List.cons_append]
  rcases hc with hc | ⟨rfl, d, ds, rfl, hd⟩
  · have := hletter hc
    unfold named?
    split <;> simp_all
  · have := hletter hd
    unfold named?
    split <;> simp_all

section Reading

variable {fuel : Nat} {rest : List Char}

theorem value_int {n : Int} (hn : Number.isWritable n = true) (h : Ends rest) :
    value (fuel + 1) ((toString n).toList ++ rest) = .ok (.int n, rest) := by
  have hnamed := named?_int n rest
  have hnumber := number_int hn h
  obtain ⟨c, cs, hcs, hc⟩ := toString_cons n
  rw [hcs, List.cons_append] at hnamed hnumber ⊢
  have hother : c ≠ '"' ∧ c ≠ '[' ∧ c ≠ '\x7b' := by
    rcases hc with hc | ⟨rfl, -⟩
    · refine ⟨?_, ?_, ?_⟩ <;> rintro rfl <;> cases hc
    · decide
  rw [value]
  · rw [hnamed]
    exact hnumber
  all_goals simp_all

theorem value_text (s : String) : value (fuel + 1) (stringText true s ++ rest) = .ok (.text s, rest) := by
  rw [stringText, List.cons_append, List.cons_append, List.append_assoc, value, List.singleton_append,
    stringBody_flatMap, Except.map, String.ofList_toList]

/-- What is written of a value is read as the data of the value with null for what
is missing. -/
def Reads (v : Value) : Prop :=
  ∀ fuel rest, (write compact v).length ≤ fuel → Ends rest →
    value fuel (write compact v ++ rest) = .ok (v.toJson.unboxed, rest)

theorem items_last {x : Value} (hx : Reads x) (hfuel : (write compact x).length ≤ fuel) :
    items (fuel + 1) (write compact x ++ ']' :: rest) = .ok ([x.toJson.unboxed], rest) := by
  rw [items, hx fuel _ hfuel (by simp [Ends])]
  rfl

theorem items_more {x : Value} (hx : Reads x) (hfuel : (write compact x).length ≤ fuel) :
    items (fuel + 1) (write compact x ++ ',' :: rest)
      = (items fuel (skipSpace rest)).map fun r => (x.toJson.unboxed :: r.1, r.2) := by
  rw [items, hx fuel _ hfuel (by simp [Ends])]
  rfl

/-- Items one after the other, each with one unit of fuel less. -/
theorem items_read {x : Value} {xs : List Value} (hexact : ∀ y ∈ x :: xs, y.Exact)
    (h : ∀ y ∈ x :: xs, Reads y) (hfuel : (writeItems compact (x :: xs)).length < fuel) :
    items fuel (writeItems compact (x :: xs) ++ ']' :: rest) = .ok ((x :: xs).map fun y => y.toJson.unboxed, rest) := by
  induction xs generalizing x fuel with
  | nil =>
    obtain ⟨fuel, rfl⟩ := Nat.exists_eq_add_one.mpr (Nat.zero_lt_of_lt hfuel)
    exact items_last (h x (by simp)) (Nat.lt_succ_iff.mp hfuel)
  | cons y ys ih =>
    obtain ⟨fuel, rfl⟩ := Nat.exists_eq_add_one.mpr (Nat.zero_lt_of_lt hfuel)
    obtain ⟨-, hrest⟩ := List.forall_mem_cons.mp hexact
    obtain ⟨hx, hreads⟩ := List.forall_mem_cons.mp h
    have hskip : skipSpace (writeItems compact (y :: ys) ++ ']' :: rest)
        = writeItems compact (y :: ys) ++ ']' :: rest := by
      obtain ⟨cs, hcs⟩ := writeItems_first y ys
      rw [hcs, List.append_assoc, skipSpace_write (hrest y (by simp))]
    rw [writeItems_cons, List.length_append, List.length_cons] at hfuel
    rw [writeItems_cons, List.append_assoc, List.cons_append, items_more hx (by omega), hskip,
      ih hrest hreads (by omega)]
    rfl

theorem stringText_append (s : String) (cs : List Char) :
    stringText true s ++ cs = '"' :: (s.toList.flatMap (charText true) ++ '"' :: cs) := by
  simp [stringText]

section Members

variable {s : String} {v : Value} (hv : v.Exact) (h : Reads v) (hfuel : (write compact v).length ≤ fuel)
include hv h hfuel

/-- A name and its value are read, and what follows them decides. -/
theorem members_entry (hends : Ends rest) :
    members (fuel + 1) (stringText true s ++ ':' :: (write compact v ++ rest))
      = match skipSpace rest with
        | '\x7d' :: rest => .ok ([(.text s, v.toJson.unboxed)], rest)
        | ',' :: rest => (members fuel (skipSpace rest)).map fun r => ((.text s, v.toJson.unboxed) :: r.1, r.2)
        | rest => stop .noComma rest := by
  have hcolon (cs : List Char) : skipSpace (':' :: cs) = ':' :: cs := rfl
  rw [stringText_append, members, stringBody_flatMap, ok_bind]
  simp only [hcolon, skipSpace_write hv, h fuel _ hfuel hends, ok_bind, String.ofList_toList]
  generalize skipSpace rest = cs
  split
  · rfl
  · rfl
  · simp_all

theorem members_last : members (fuel + 1) (stringText true s ++ ':' :: (write compact v ++ '\x7d' :: rest))
    = .ok ([(.text s, v.toJson.unboxed)], rest) := by
  rw [members_entry hv h hfuel (by simp [Ends])]
  rfl

theorem members_more : members (fuel + 1) (stringText true s ++ ':' :: (write compact v ++ ',' :: rest))
    = (members fuel (skipSpace rest)).map fun r => ((.text s, v.toJson.unboxed) :: r.1, r.2) := by
  rw [members_entry hv h hfuel (by simp [Ends])]
  rfl

end Members

/-- Members one after the other. -/
theorem members_read {e : Key × Value} {fs : Fields} (hnames : ∀ f ∈ e :: fs, ∃ s, f.1 = .text s)
    (hexact : ∀ f ∈ e :: fs, f.2.Exact) (h : ∀ f ∈ e :: fs, Reads f.2)
    (hfuel : (writeFields compact (e :: fs)).length < fuel) :
    members fuel (writeFields compact (e :: fs) ++ '\x7d' :: rest)
      = .ok ((e :: fs).map fun f => (f.1, f.2.toJson.unboxed), rest) := by
  induction fs generalizing e fuel with
  | nil =>
    obtain ⟨fuel, rfl⟩ := Nat.exists_eq_add_one.mpr (Nat.zero_lt_of_lt hfuel)
    obtain ⟨k, v⟩ := e
    obtain ⟨s, rfl⟩ : ∃ s, k = .text s := hnames (k, v) (by simp)
    rw [writeFields_singleton, List.length_append, List.length_cons] at hfuel
    rw [writeFields_singleton, List.append_assoc, List.cons_append]
    exact members_last (hexact (.text s, v) (by simp)) (h (.text s, v) (by simp)) (by omega)
  | cons f fs ih =>
    obtain ⟨fuel, rfl⟩ := Nat.exists_eq_add_one.mpr (Nat.zero_lt_of_lt hfuel)
    obtain ⟨k, v⟩ := e
    obtain ⟨s, rfl⟩ : ∃ s, k = .text s := hnames (k, v) (by simp)
    have hv : v.Exact := hexact (.text s, v) (by simp)
    have hreads : Reads v := h (.text s, v) (by simp)
    have hskip : skipSpace (writeFields compact (f :: fs) ++ '\x7d' :: rest)
        = writeFields compact (f :: fs) ++ '\x7d' :: rest := by
      obtain ⟨cs, hcs⟩ := writeFields_quote f fs
      rw [hcs]
      rfl
    rw [writeFields_cons, List.length_append, List.length_cons, List.length_append, List.length_cons] at hfuel
    have hlength : (writeFields compact (f :: fs)).length < fuel := by omega
    have hrest := ih (fun g hg => hnames g (List.mem_cons_of_mem _ hg))
      (fun g hg => hexact g (List.mem_cons_of_mem _ hg)) (fun g hg => h g (List.mem_cons_of_mem _ hg)) hlength
    rw [writeFields_cons, List.append_assoc, List.cons_append, List.append_assoc, List.cons_append,
      members_more hv hreads (by omega), hskip, hrest]
    rfl

theorem value_bracket {c : Char} (hc : Opens c) (cs : List Char) :
    value (fuel + 1) ('[' :: c :: cs) = (items fuel (c :: cs)).map fun r => (.list r.1, r.2) := by
  have hnotClosing : c ≠ ']' := by
    rintro rfl
    exact absurd hc (by decide)
  rw [value, hc.skipSpace]
  split
  · simp_all
  · rfl

theorem value_brace (cs : List Char) : value (fuel + 1) ('\x7b' :: '"' :: cs)
    = (members fuel ('"' :: cs)).map fun r => (.object (Mapping.ofEntries r.1), r.2) := rfl

/-- Some fuel is left for a value, whose text is not empty. -/
theorem Reads.of_step {v : Value} (hv : v.Exact)
    (h : ∀ fuel rest, (write compact v).length ≤ fuel + 1 → Ends rest →
      value (fuel + 1) (write compact v ++ rest) = .ok (v.toJson.unboxed, rest)) : Reads v := by
  intro fuel rest hfuel hends
  obtain ⟨c, cs, hcs, -⟩ := write_opens hv
  have hlength : (write compact v).length = cs.length + 1 := congrArg List.length hcs
  obtain ⟨fuel, rfl⟩ : ∃ n, fuel = n + 1 := Nat.exists_eq_add_one.mpr (by omega)
  exact h fuel rest hfuel hends

theorem reads_list {xs : List Value} (hexact : ∀ x ∈ xs, x.Exact) (h : ∀ x ∈ xs, Reads x) :
    Reads (.list xs) := by
  refine .of_step (.list hexact) fun fuel rest hfuel _ => ?_
  cases xs with
  | nil => rfl
  | cons x xs =>
    have hlength : (writeItems compact (x :: xs)).length < fuel := by
      simp only [write, List.length_cons, List.length_append] at hfuel
      omega
    have hitems : items fuel (writeItems compact (x :: xs) ++ ']' :: rest) = _ := items_read hexact h hlength
    obtain ⟨c, cs, hcs, hc⟩ := write_opens (hexact x (by simp))
    obtain ⟨ds, hds⟩ := writeItems_first x xs
    have htext : write compact (.list (x :: xs)) ++ rest = '[' :: (writeItems compact (x :: xs) ++ ']' :: rest) := by
      simp [write]
    rw [hds, hcs, List.cons_append, List.cons_append] at htext hitems
    rw [htext, value_bracket hc, hitems, toJson, toJsonItems_eq, unboxed_list, List.map_map]
    rfl

theorem reads_object {fs : Fields} (hnames : ∀ e ∈ fs, ∃ s, e.1 = .text s) (hdistinct : Mapping.Distinct fs)
    (hexact : ∀ e ∈ fs, e.2.Exact) (h : ∀ e ∈ fs, Reads e.2) : Reads (.object fs) := by
  refine .of_step (.object hnames hdistinct hexact) fun fuel rest hfuel _ => ?_
  cases fs with
  | nil => rfl
  | cons e fs =>
    have hlength : (writeFields compact (e :: fs)).length < fuel := by
      simp only [write, List.length_cons, List.length_append] at hfuel
      omega
    have hmembers : members fuel (writeFields compact (e :: fs) ++ '\x7d' :: rest) = _ :=
      members_read hnames hexact h hlength
    obtain ⟨cs, hcs⟩ := writeFields_quote e fs
    have htext : write compact (.object (e :: fs)) ++ rest
        = '\x7b' :: (writeFields compact (e :: fs) ++ '\x7d' :: rest) := by
      simp [write]
    have hentries : Mapping.Distinct ((e :: fs).map fun f => (f.1, f.2.toJson.unboxed)) :=
      List.pairwise_map.mpr hdistinct
    have hkeys : ((e :: fs).map fun f => (f.1, f.2.toJson)).map (fun f => (f.1.unboxed, f.2.unboxed))
        = (e :: fs).map fun f => (f.1, f.2.toJson.unboxed) := by
      rw [List.map_map]
      refine List.map_congr_left fun f hf => ?_
      obtain ⟨s, hs⟩ := hnames f hf
      simp [Function.comp, hs, Key.unboxed]
    rw [hcs, List.cons_append] at htext hmembers
    rw [htext, value_brace, hmembers, Except.map, Mapping.ofEntries_of_distinct hentries, toJson,
      toJsonFields_eq, unboxed_object, hkeys]

theorem reads {v : Value} (hv : v.Exact) (hw : v.writable = true) : Reads v := by
  induction v with
  | undefined | null => exact .of_step hv fun _ _ _ _ => rfl
  | bool b => cases b <;> exact .of_step hv fun _ _ _ _ => rfl
  | int n => exact .of_step hv fun _ _ _ hends => value_int hw hends
  | text s => exact .of_step hv fun _ _ _ _ => value_text s
  | list xs ih =>
    cases hv with
    | list hexact => exact reads_list hexact fun x hx => ih x hx (hexact x hx) (writable_item hw hx)
  | object fs ih =>
    cases hv with
    | object hnames hdistinct hexact =>
      exact reads_object hnames hdistinct hexact fun e he => ih e he (hexact e he) (writable_entry hw he).2
  | _ => cases hv

/-- A whole document holds no more than the value. -/
theorem document_write {v : Value} (hv : v.Exact) (hw : v.writable = true) :
    document (write compact v) = .ok v.toJson.unboxed := by
  have hvalue : value (2 * (write compact v).length + 2) (write compact v ++ []) = .ok (v.toJson.unboxed, []) :=
    reads hv hw _ _ (by omega) (by simp [Ends])
  have hskip := skipSpace_write hv []
  obtain ⟨c, cs, hcs, hc⟩ := write_opens hv
  rw [List.append_nil] at hvalue hskip
  unfold document
  split
  · rename_i cs' heq
    rw [hcs] at heq
    obtain ⟨rfl, -⟩ := List.cons.inj heq
    exact absurd hc (by decide)
  · rw [hskip, hvalue]
    rfl

end Reading

/-! ## What stands in a written text -/

/-- Visible in ASCII, and no quote. -/
def Plain (c : Char) : Prop := 0x20 < c.toNat ∧ c.toNat < 0x7f ∧ c ≠ '"'

instance (c : Char) : Decidable (Plain c) := inferInstanceAs (Decidable (_ ∧ _ ∧ _))

theorem plain_of_isDigit {c : Char} (h : isDigit c = true) : Plain c := by
  have hrange : '0'.toNat ≤ c.toNat ∧ c.toNat ≤ '9'.toNat := by
    simpa [isDigit, Char.le_def, UInt32.le_iff_toNat_le] using h
  have hzero : '0'.toNat = 0x30 := rfl
  have hnine : '9'.toNat = 0x39 := rfl
  refine ⟨by omega, by omega, ?_⟩
  rintro rfl
  cases h

/-- What holds of a text because it holds of its pieces. -/
structure OfPieces (P : List Char → Prop) : Prop where
  nil : P []
  append {as bs : List Char} (ha : P as) (hb : P bs) : P (as ++ bs)
  plain {c : Char} (hc : Plain c) : P [c]
  string (s : String) : P (stringText true s)

namespace OfPieces

variable {P : List Char → Prop} (hP : OfPieces P)
include hP

theorem word {cs : List Char} (h : (cs.all fun c => Plain c) = true) : P cs := by
  induction cs with
  | nil => exact hP.nil
  | cons c cs ih =>
    rw [List.all_cons, Bool.and_eq_true, decide_eq_true_iff] at h
    exact hP.append (hP.plain h.1) (ih h.2)

theorem items {xs : List Value} (h : ∀ x ∈ xs, P (write compact x)) : P (writeItems compact xs) := by
  induction xs with
  | nil => exact hP.nil
  | cons x xs ih =>
    obtain ⟨hx, hxs⟩ := List.forall_mem_cons.mp h
    cases xs with
    | nil => exact hx
    | cons y ys =>
      rw [writeItems_cons]
      exact hP.append hx (hP.append (hP.plain (by decide)) (ih hxs))

theorem fields {fs : Fields} (hnames : ∀ e ∈ fs, ∃ s, e.1 = .text s)
    (h : ∀ e ∈ fs, P (write compact e.2)) : P (writeFields compact fs) := by
  induction fs with
  | nil => exact hP.nil
  | cons e fs ih =>
    obtain ⟨k, v⟩ := e
    obtain ⟨s, rfl⟩ : ∃ s, k = .text s := hnames (k, v) (by simp)
    have hv : P (write compact v) := h (.text s, v) (by simp)
    have hcolon : P [':'] := hP.plain (by decide)
    cases fs with
    | nil =>
      rw [writeFields_singleton]
      exact hP.append (hP.string s) (hP.append hcolon hv)
    | cons f fs =>
      have hrest := ih (fun g hg => hnames g (List.mem_cons_of_mem _ hg))
        fun g hg => h g (List.mem_cons_of_mem _ hg)
      rw [writeFields_cons]
      exact hP.append (hP.string s) (hP.append hcolon (hP.append hv (hP.append (hP.plain (by decide)) hrest)))

theorem write {v : Value} (hv : v.Exact) : P (Json.write compact v) := by
  induction v with
  | undefined | null => exact hP.word rfl
  | bool b => cases b <;> exact hP.word rfl
  | int n =>
    have hdigits (m : Nat) : ((Nat.toDigits 10 m).all fun c => Plain c) = true :=
      List.all_eq_true.mpr fun c hc => decide_eq_true (plain_of_isDigit (isDigit_of_mem_toDigits hc))
    have htext : Json.write compact (.int n) = (toString n.value).toList := rfl
    rw [htext]
    cases n.value with
    | ofNat m =>
      rw [toList_ofNat]
      exact hP.word (hdigits m)
    | negSucc m =>
      rw [toList_negSucc]
      exact hP.append (hP.plain (by decide)) (hP.word (hdigits (m + 1)))
  | text s => exact hP.string s
  | list xs ih =>
    cases hv with
    | list hexact =>
      have hitems := hP.items fun x hx => ih x hx (hexact x hx)
      have hopen : P ['['] := hP.plain (by decide)
      rw [Json.write]
      exact hP.append (hP.append hopen hitems) (hP.plain (by decide))
  | object fs ih =>
    cases hv with
    | object hnames hdistinct hexact =>
      have hfields := hP.fields hnames fun e he => ih e he (hexact e he)
      have hopen : P ['\x7b'] := hP.plain (by decide)
      rw [Json.write]
      exact hP.append (hP.append hopen hfields) (hP.plain (by decide))
  | _ => cases hv

end OfPieces

theorem write_ascii {v : Value} (hv : v.Exact) : ∀ c ∈ write compact v, c.toNat < 128 := by
  have hpieces : OfPieces fun cs => ∀ c ∈ cs, c.toNat < 128 := {
    nil := by simp
    append := fun ha hb c hc => (List.mem_append.mp hc).elim (ha c) (hb c)
    plain := fun {c} hc d hd => by
      obtain rfl := List.mem_singleton.mp hd
      exact Nat.lt_trans hc.2.1 (by decide)
    string := fun s => by
      have hbody := (flatMap_quotable s.toList).ascii
      simp only [stringText, List.cons_append, List.forall_mem_cons, List.forall_mem_append]
      exact ⟨by decide, hbody, by decide, by simp⟩ }
  exact hpieces.write hv

/-- A text that starts and ends outside strings, where no white space stands in
it. -/
def Tight (cs : List Char) : Prop :=
  ∃ bs, (∀ rest, unquoted .outside (cs ++ rest) = bs ++ unquoted .outside rest)
    ∧ ∀ c ∈ bs, Text.isBlank c = false

theorem isBlank_of_plain {c : Char} (h : Plain c) : Text.isBlank c = false := by
  obtain ⟨hlow, hhigh, -⟩ := h
  simp [Text.isBlank, Text.inRanges, Text.blankRanges]
  omega

theorem write_tight {v : Value} (hv : v.Exact) : Tight (write compact v) := by
  have hpieces : OfPieces Tight := {
    nil := ⟨[], fun _ => rfl, by simp⟩
    append := by
      rintro as bs ⟨cs, hcs, hclear⟩ ⟨ds, hds, hclear'⟩
      refine ⟨cs ++ ds, fun rest => ?_, List.forall_mem_append.mpr ⟨hclear, hclear'⟩⟩
      rw [List.append_assoc, hcs, hds, List.append_assoc]
    plain := fun {c} hc => by
      refine ⟨[c], fun rest => ?_, List.forall_mem_singleton.mpr (isBlank_of_plain hc)⟩
      rw [List.singleton_append, unquoted, if_neg hc.2.2]
      rfl
    string := fun s => by
      refine ⟨[], fun rest => ?_, by simp⟩
      rw [stringText_append, unquoted, if_pos rfl, (flatMap_quotable s.toList).unquoted_inside]
      rfl }
  exact hpieces.write hv

end Json

namespace Value

/-- Such a value has a text unless an integer in it is too long. -/
theorem Exact.writable_iff {v : Value} (hv : v.Exact) :
    v.writable = true ↔ ∀ n, (Value.int n).Inside v → Number.places n ≤ Number.digitLimit := by
  induction v with
  | int n =>
    rw [writable, Number.isWritable_iff]
    constructor
    · intro h m hm
      cases hm
      exact h
    · exact fun h => h n .here
  | list xs ih =>
    cases hv with
    | list hexact =>
      rw [writable, writableItems_eq, List.all_eq_true]
      constructor
      · intro h n hn
        cases hn with
        | item hx hn => exact (ih _ hx (hexact _ hx)).mp (h _ hx) n hn
      · exact fun h x hx => (ih x hx (hexact x hx)).mpr fun n hn => h n (.item hx hn)
  | object fs ih =>
    cases hv with
    | object hnames hdistinct hexact =>
      rw [writable, writableFields_eq, List.all_eq_true]
      constructor
      · intro h n hn
        cases hn with
        | entry he hn =>
          have hboth := h _ he
          rw [Bool.and_eq_true] at hboth
          exact (ih _ he (hexact _ he)).mp hboth.2 n hn
      · intro h e he
        obtain ⟨s, hs⟩ := hnames e he
        rw [hs, Bool.and_eq_true]
        exact ⟨rfl, (ih e he (hexact e he)).mpr fun n hn => h n (.entry he hn)⟩
  | float _ | foreign _ => cases hv
  | _ =>
    refine ⟨fun _ n hn => ?_, fun _ => rfl⟩
    cases hn

theorem toText_collection {v : Value} (h : (∃ xs, v = .list xs) ∨ ∃ fs, v = .object fs) :
    v.toText = String.ofList (Json.write Json.compact v) := by
  rcases h with ⟨xs, rfl⟩ | ⟨fs, rfl⟩
  · rw [toText, Json.text, Json.write_toJson]
  · rw [toText, Json.text, Json.write_toJson]

end Value

/-- The text of a collection is read back as the data of the collection with null in
the places of what is missing, in the same order. It is ASCII, and white space stands in
strings only. There is such a text unless an integer has too many digits to be
written. -/
theorem texts_of_collections_are_read_back (v : Value) (hv : v.Exact)
    (hcollection : (∃ xs, v = .list xs) ∨ ∃ fs, v = .object fs) :
    ((∀ n, (Value.int n).Inside v → Number.places n ≤ Number.digitLimit) →
        ∃ t, v.written = .ok t ∧ Json.read t = .ok v.toJson.unboxed ∧ v.Filled v.toJson
          ∧ (∀ c ∈ t.toList, c.toNat < 128)
          ∧ ∀ c ∈ Json.unquoted .outside t.toList, Text.isBlank c = false)
      ∧ ((∃ n, (Value.int n).Inside v ∧ Number.digitLimit < Number.places n) →
        v.written = .error .unwritable) := by
  have hwritable := hv.writable_iff
  constructor
  · intro hshort
    have hw := hwritable.mpr hshort
    have hwritten : v.written = .ok (String.ofList (Json.write Json.compact v)) := by
      rw [Value.written, if_pos hw, Value.toText_collection hcollection]
    refine ⟨_, hwritten, ?_, v.filled_toJson, ?_, ?_⟩
    · rw [Json.read, String.toList_ofList, Json.document_write hv hw]
      rfl
    · rw [String.toList_ofList]
      exact Json.write_ascii hv
    · rw [String.toList_ofList]
      obtain ⟨bs, hbs, hclear⟩ := Json.write_tight hv
      have hwhole := hbs []
      rw [List.append_nil, Json.unquoted, List.append_nil] at hwhole
      rw [hwhole]
      exact hclear
  · rintro ⟨n, hn, hlong⟩
    have hunwritable : ¬ v.writable = true := fun hw => Nat.not_le.mpr hlong (hwritable.mp hw n hn)
    rw [Value.written, if_neg hunwritable]

/-- A missing value, a character beyond the first 2^16, and spaces in a string, in
nested collections; and an integer of one digit more than the limit. -/
theorem nested_collection_is_read_back :
    (∃ t, (Value.object [(.text "a", .list [.undefined, .text "😀 \"\n"]),
          (.text "b", .object [(.text "c", .int (-12 : Int)), (.text "", .bool true)])]).written = .ok t
        ∧ Json.read t = .ok (.object [(.text "a", .list [.null, .text "😀 \"\n"]),
          (.text "b", .object [(.text "c", .int (-12 : Int)), (.text "", .bool true)])])
        ∧ (∀ c ∈ t.toList, c.toNat < 128)
        ∧ ∀ c ∈ Json.unquoted .outside t.toList, Text.isBlank c = false)
      ∧ (Value.object [(.text "n", .int (Nat.pow 10 Number.digitLimit : Nat))]).written
        = .error .unwritable := by
  constructor
  · have hlist : (Value.list [.undefined, .text "😀 \"\n"]).Exact := by
      refine .list ?_
      simp only [List.forall_mem_cons]
      exact ⟨.undefined, .text _, by simp⟩
    have hobject : (Value.object [(.text "c", .int (-12 : Int)), (.text "", .bool true)]).Exact := by
      refine .object (by simp) (by decide) ?_
      simp only [List.forall_mem_cons]
      exact ⟨.int _, .bool _, by simp⟩
    have hwhole : (Value.object [(.text "a", .list [.undefined, .text "😀 \"\n"]),
        (.text "b", .object [(.text "c", .int (-12 : Int)), (.text "", .bool true)])]).Exact := by
      refine .object (by simp) (by decide) ?_
      simp only [List.forall_mem_cons]
      exact ⟨hlist, hobject, by simp⟩
    obtain ⟨t, hwritten, hread, -, hascii, hclear⟩ := (texts_of_collections_are_read_back _ hwhole
      (.inr ⟨_, rfl⟩)).1 (hwhole.writable_iff.mp (by decide +kernel))
    exact ⟨t, hwritten, hread, hascii, hclear⟩
  · have hexact : (Value.object [(.text "n", .int (Nat.pow 10 Number.digitLimit : Nat))]).Exact :=
      .object (List.forall_mem_singleton.mpr ⟨_, rfl⟩) (List.pairwise_singleton _ _)
        (List.forall_mem_singleton.mpr (.int _))
    exact (texts_of_collections_are_read_back _ hexact (.inr ⟨_, rfl⟩)).2
      ⟨_, .entry List.mem_cons_self .here, Number.digitLimit_lt_places⟩

/-- An integer of one digit more than the limit stands in a list without a text. -/
theorem long_integer_in_a_list :
    (Value.list [.int (Nat.pow 10 Number.digitLimit : Nat)]).Exact
      ∧ (Value.list [.int (Nat.pow 10 Number.digitLimit : Nat)]).written = .error .unwritable := by
  have hexact : (Value.list [.int (Nat.pow 10 Number.digitLimit : Nat)]).Exact :=
    .list (List.forall_mem_singleton.mpr (.int _))
  refine ⟨hexact, ?_⟩
  rw [Value.written, if_neg]
  intro hw
  have hshort := hexact.writable_iff.mp hw _ (.item List.mem_cons_self .here)
  exact Nat.not_le.mpr Number.digitLimit_lt_places hshort

end Rulebook
