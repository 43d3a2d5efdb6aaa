-- Texts with placeholders. A text comes apart in one way into its placeholders
-- and what stands between them, and nothing but the placeholders is replaced.
import Mathlib.Data.List.TakeWhile
import Rulebook.Proofs.Acceptance
import Rulebook.Proofs.Rephrasing

namespace Rulebook

namespace Template

/-! ## Where placeholders are -/

/-- The names that a placeholder can have. -/
def IsName (name : List Char) : Prop := name ≠ [] ∧ '}' ∉ name

/-- A placeholder stands in a text, with something before it and a rest. -/
structure Occurs (cs before name rest : List Char) : Prop where
  text : cs = before ++ (holeText name ++ rest)
  name : IsName name

/-- No placeholder starts further to the left. -/
structure Leftmost (cs before name rest : List Char) : Prop extends Occurs cs before name rest where
  first : ∀ {before' name' rest'}, Occurs cs before' name' rest' → before.length ≤ before'.length

/-- A text taken apart from the left: each placeholder with what stands before
it, and what is left behind the last one. -/
inductive Factored : List Char → List (List Char × List Char) → List Char → Prop
  | done {cs : List Char} (h : ∀ before name rest, ¬ Occurs cs before name rest) : Factored cs [] cs
  | next {cs before name rest last : List Char} {parts : List (List Char × List Char)}
      (h : Leftmost cs before name rest) (hrest : Factored rest parts last) :
      Factored cs ((before, name) :: parts) last

section Scan

variable {cs before name rest last : List Char} {c : Char}

theorem takeWhile_name (h : '}' ∉ name) (rest : List Char) :
    (name ++ '}' :: rest).takeWhile (· != '}') = name := by
  rw [List.takeWhile_append_of_pos]
  · simp
  · intro c hc
    have hne : c ≠ '}' := fun heq => h (heq ▸ hc)
    simpa using hne

/-- What stands before the first closing brace, if there is one. -/
theorem split_at_brace (h : (cs.drop (cs.takeWhile (· != '}')).length) ≠ []) :
    ∃ rest, cs = cs.takeWhile (· != '}') ++ '}' :: rest := by
  induction cs with
  | nil => exact absurd rfl h
  | cons c cs ih =>
    by_cases hc : c = '}'
    · subst hc
      exact ⟨cs, by simp⟩
    · have htake : (c :: cs).takeWhile (· != '}') = c :: cs.takeWhile (· != '}') := by simp [hc]
      rw [htake] at h ⊢
      obtain ⟨rest, hrest⟩ := ih (by simpa using h)
      exact ⟨rest, congrArg (c :: ·) hrest⟩

/-- The scanner sees a placeholder where a text starts with one. -/
theorem leadingHole?_iff : leadingHole? cs = some name ↔ ∃ rest, Occurs cs [] name rest := by
  constructor
  · intro h
    unfold leadingHole? at h
    split at h
    · rename_i cs
      simp only at h
      split at h
      · cases h
      · rename_i hnot
        obtain rfl := Option.some.inj h
        simp only [Bool.or_eq_true, List.isEmpty_iff, not_or] at hnot
        obtain ⟨rest, hrest⟩ := split_at_brace hnot.2
        refine ⟨rest, ?_, hnot.1, fun hmem => ?_⟩
        · simpa [holeText] using hrest
        · simpa using List.mem_takeWhile_imp hmem
    · cases h
  · rintro ⟨rest, rfl, hne, hname⟩
    have htext : [] ++ (holeText name ++ rest) = '$' :: '{' :: (name ++ '}' :: rest) := by
      simp [holeText]
    have hdrop : (name ++ '}' :: rest).drop name.length = '}' :: rest := List.drop_left
    rw [htext]
    unfold leadingHole?
    simp [takeWhile_name hname, hdrop, hne]

theorem leadingHole?_none (h : ∀ name rest, ¬ Occurs cs [] name rest) : leadingHole? cs = none := by
  rw [Option.eq_none_iff_forall_ne_some]
  intro name hname
  obtain ⟨rest, hoccurs⟩ := leadingHole?_iff.mp hname
  exact h name rest hoccurs

theorem Occurs.cons (h : Occurs cs before name rest) (c : Char) :
    Occurs (c :: cs) (c :: before) name rest := ⟨congrArg (c :: ·) h.text, h.name⟩

theorem Occurs.tail (h : Occurs (c :: cs) (c' :: before) name rest) :
    c' = c ∧ Occurs cs before name rest := by
  obtain ⟨hc, htext⟩ := List.cons.inj h.text
  exact ⟨hc.symm, htext, h.name⟩

/-- Where a placeholder starts says what it is. -/
theorem Occurs.unique {before' name' rest' : List Char} (h : Occurs cs before name rest)
    (h' : Occurs cs before' name' rest') (hlength : before.length = before'.length) :
    before = before' ∧ name = name' ∧ rest = rest' := by
  obtain ⟨hbefore, hhole⟩ := List.append_inj (h.text.symm.trans h'.text) hlength
  have hname : name = name' := by
    have hleading : leadingHole? (holeText name ++ rest) = some name :=
      leadingHole?_iff.mpr ⟨rest, rfl, h.name⟩
    have hleading' : leadingHole? (holeText name ++ rest) = some name' :=
      leadingHole?_iff.mpr ⟨rest', hhole, h'.name⟩
    exact Option.some.inj (hleading.symm.trans hleading')
  subst hname
  exact ⟨hbefore, rfl, List.append_cancel_left hhole⟩

theorem Leftmost.unique {before' name' rest' : List Char} (h : Leftmost cs before name rest)
    (h' : Leftmost cs before' name' rest') : before = before' ∧ name = name' ∧ rest = rest' :=
  h.toOccurs.unique h'.toOccurs (Nat.le_antisymm (h.first h'.toOccurs) (h'.first h.toOccurs))

theorem Leftmost.tail (h : Leftmost (c :: cs) (c' :: before) name rest) :
    c' = c ∧ Leftmost cs before name rest := by
  obtain ⟨rfl, hoccurs⟩ := h.toOccurs.tail
  refine ⟨rfl, hoccurs, fun hother => ?_⟩
  have hfirst := h.first (hother.cons c')
  simpa using hfirst

/-- Where a text starts with no placeholder, all stand further on. -/
theorem Occurs.inside (hleading : leadingHole? (c :: cs) = none) (h : Occurs (c :: cs) before name rest) :
    ∃ before', before = c :: before' ∧ Occurs cs before' name rest := by
  cases before with
  | nil =>
    rw [leadingHole?_iff.mpr ⟨rest, h⟩] at hleading
    cases hleading
  | cons c' before =>
    obtain ⟨rfl, htail⟩ := h.tail
    exact ⟨before, rfl, htail⟩

theorem Leftmost.here (h : Occurs cs [] name rest) : Leftmost cs [] name rest := ⟨h, fun _ => Nat.zero_le _⟩

theorem Leftmost.cons (hleading : leadingHole? (c :: cs) = none) (h : Leftmost cs before name rest) :
    Leftmost (c :: cs) (c :: before) name rest := by
  refine ⟨h.toOccurs.cons c, fun hother => ?_⟩
  obtain ⟨before', rfl, htail⟩ := hother.inside hleading
  exact Nat.succ_le_succ (h.first htail)

/-- A text without placeholders, or the leftmost of its placeholders. -/
theorem leftmost_or_none (cs : List Char) :
    (∀ before name rest, ¬ Occurs cs before name rest) ∨ ∃ before name rest, Leftmost cs before name rest := by
  induction cs with
  | nil =>
    left
    intro before name rest h
    have hlength := congrArg List.length h.text
    simp [holeText] at hlength
  | cons c cs ih =>
    -- one that starts here is the leftmost; if there is none, all are in the tail
    cases hleading : leadingHole? (c :: cs) with
    | some name =>
      obtain ⟨rest, hoccurs⟩ := leadingHole?_iff.mp hleading
      exact Or.inr ⟨[], name, rest, .here hoccurs⟩
    | none =>
      rcases ih with hnone | ⟨before, name, rest, hleft⟩
      · left
        intro before name rest h
        obtain ⟨before', -, htail⟩ := h.inside hleading
        exact hnone before' name rest htail
      · exact Or.inr ⟨c :: before, name, rest, hleft.cons hleading⟩

theorem Occurs.shorter (h : Occurs cs before name rest) : rest.length < cs.length := by
  have hlength := congrArg List.length h.text
  simp only [holeText, List.length_append, List.length_cons] at hlength
  omega

end Scan

/-! ## Texts taken apart -/

section Parts

variable {cs last : List Char} {parts : List (List Char × List Char)}

theorem factored_exists (cs : List Char) : ∃ parts last, Factored cs parts last := by
  induction hn : cs.length using Nat.strong_induction_on generalizing cs with
  | _ n ih =>
    rcases leftmost_or_none cs with hnone | ⟨before, name, rest, hleft⟩
    · exact ⟨[], cs, .done hnone⟩
    · have hshorter : rest.length < n := hn ▸ hleft.toOccurs.shorter
      obtain ⟨parts, last, hrest⟩ := ih rest.length hshorter rest rfl
      exact ⟨(before, name) :: parts, last, .next hleft hrest⟩

theorem Factored.unique (h : Factored cs parts last) {parts' : List (List Char × List Char)}
    {last' : List Char} (h' : Factored cs parts' last') : parts' = parts ∧ last' = last := by
  induction h generalizing parts' last' with
  | done hnone =>
    cases h' with
    | done => exact ⟨rfl, rfl⟩
    | next hleft => exact absurd hleft.toOccurs (hnone _ _ _)
  | next hleft _ ih =>
    cases h' with
    | done hnone => exact absurd hleft.toOccurs (hnone _ _ _)
    | next hleft' hrest' =>
      obtain ⟨rfl, rfl, rfl⟩ := hleft.unique hleft'
      obtain ⟨rfl, rfl⟩ := ih hrest'
      exact ⟨rfl, rfl⟩

/-- The parts put together again are the text. -/
theorem Factored.text (h : Factored cs parts last) :
    cs = (parts.flatMap fun e => e.1 ++ holeText e.2) ++ last := by
  induction h with
  | done => rfl
  | next hleft _ ih =>
    rw [hleft.text, List.flatMap_cons]
    simp only [List.append_assoc]
    rw [← ih]

/-! ## What the scanner finds -/

theorem piecesFrom_skip (skipped rest : List Char) :
    piecesFrom skipped.length (skipped ++ rest) = piecesFrom 0 rest := by
  induction skipped with
  | nil => rfl
  | cons c skipped ih => exact ih

theorem piecesFrom_none (h : ∀ before name rest, ¬ Occurs cs before name rest) :
    piecesFrom 0 cs = cs.map .char := by
  induction cs with
  | nil => rfl
  | cons c cs ih =>
    have hleading : leadingHole? (c :: cs) = none := leadingHole?_none (h [])
    rw [piecesFrom, hleading]
    simp only [List.map_cons]
    rw [ih fun before name rest hoccurs => h (c :: before) name rest (hoccurs.cons c)]

theorem piecesFrom_leftmost {before name rest : List Char} (h : Leftmost cs before name rest) :
    piecesFrom 0 cs = before.map .char ++ .hole name :: piecesFrom 0 rest := by
  induction before generalizing cs with
  | nil =>
    have hleading : leadingHole? cs = some name := leadingHole?_iff.mpr ⟨rest, h.toOccurs⟩
    have htext : cs = '$' :: (('{' :: name ++ ['}']) ++ rest) := by
      rw [h.text]
      simp [holeText]
    have hskip : name.length + 2 = ('{' :: name ++ ['}']).length := by simp
    rw [htext] at hleading ⊢
    rw [piecesFrom, hleading]
    simp only
    rw [hskip, piecesFrom_skip]
    rfl
  | cons c before ih =>
    cases cs with
    | nil => exact absurd h.text (by simp)
    | cons c' cs =>
      obtain ⟨rfl, htail⟩ := h.tail
      have hleading : leadingHole? (c :: cs) = none := by
        apply leadingHole?_none
        intro name' rest' hoccurs
        have hfirst := h.first hoccurs
        simp at hfirst
      rw [piecesFrom, hleading]
      simp only [List.map_cons, List.cons_append]
      rw [ih htail]

/-- The pieces of a text taken apart. -/
def piecesOf (parts : List (List Char × List Char)) (last : List Char) : List Piece :=
  (parts.flatMap fun e => e.1.map .char ++ [.hole e.2]) ++ last.map .char

theorem Factored.piecesFrom (h : Factored cs parts last) : piecesFrom 0 cs = piecesOf parts last := by
  induction h with
  | done hnone => exact piecesFrom_none hnone
  | next hleft _ ih =>
    rw [piecesFrom_leftmost hleft, ih]
    simp [piecesOf]

theorem Factored.holes {t : String} (h : Factored t.toList parts last) :
    holes t = parts.map fun e => String.ofList e.2 := by
  unfold Template.holes pieces
  rw [h.piecesFrom, piecesOf]
  clear h
  induction parts with
  | nil => simp
  | cons e parts ih =>
    rw [List.flatMap_cons, List.map_cons, ← ih]
    simp

/-! ## What replaces a placeholder -/

/-- The text of a value in the place of a placeholder, or the placeholder as
written if the value is missing. -/
def replacement (name : List Char) (v : Value) : Except Fault (List Char) :=
  if v.isUndefined then .ok (holeText name) else v.written.map String.toList

/-- A text taken apart with each placeholder replaced; the first one that
cannot be replaced says why. -/
def substituted (reading : List Char → Except Fault Value) (last : List Char) :
    List (List Char × List Char) → Except Fault (List Char)
  | [] => .ok last
  | (before, name) :: parts => do
    let text ← replacement name (← reading name)
    return before ++ text ++ (← substituted reading last parts)

theorem fill_chars (cs : List Char) (ps : List Piece) (ts : List (Option String)) :
    fill (cs.map .char ++ ps) ts = cs ++ fill ps ts := by
  induction cs with
  | nil => rfl
  | cons c cs ih => exact congrArg (c :: ·) ih

/-- A filling as it stands in the text. -/
def instead (name : List Char) : Option String → List Char
  | some t => t.toList
  | none => holeText name

theorem fill_hole (name : List Char) (ps : List Piece) (t : Option String) (ts : List (Option String)) :
    fill (.hole name :: ps) (t :: ts) = instead name t ++ fill ps ts := by
  cases t <;> rfl

theorem replacement_eq (name : List Char) (v : Value) :
    replacement name v = (filling v).map (instead name) := by
  unfold replacement filling
  split
  · rfl
  · cases v.written <;> rfl

/-- Filling the pieces replaces the placeholders and nothing else. -/
theorem fill_substituted (reading : List Char → Except Fault Value)
    (parts : List (List Char × List Char)) (last : List Char) :
    (parts.mapM fun e => reading e.2 >>= filling).map (fill (piecesOf parts last))
      = substituted reading last parts := by
  induction parts with
  | nil =>
    have hlast : fill (last.map .char ++ []) [] = last ++ [] := fill_chars last [] []
    rw [List.append_nil, List.append_nil] at hlast
    exact congrArg Except.ok hlast
  | cons e parts ih =>
    have hpieces : piecesOf (e :: parts) last = e.1.map .char ++ .hole e.2 :: piecesOf parts last := by
      simp [piecesOf]
    rw [List.mapM_cons, hpieces, substituted, ← ih]
    cases reading e.2 with
    | error f => rfl
    | ok v =>
      simp only [ok_bind, replacement_eq]
      cases filling v with
      | error f => rfl
      | ok t =>
        cases parts.mapM fun e => reading e.2 >>= filling with
        | error f => rfl
        | ok ts =>
          refine congrArg Except.ok ?_
          rw [fill_chars, fill_hole, List.append_assoc]

/-- Where all values are missing the text stays as it is. -/
theorem substituted_missing {reading : List Char → Except Fault Value}
    (hmissing : ∀ e ∈ parts, reading e.2 = .ok .undefined) :
    substituted reading last parts = .ok ((parts.flatMap fun e => e.1 ++ holeText e.2) ++ last) := by
  induction parts with
  | nil => rfl
  | cons e parts ih =>
    have hreplacement : replacement e.2 .undefined = .ok (holeText e.2) := rfl
    rw [substituted, hmissing e (by simp), ok_bind, hreplacement, ok_bind,
      ih fun e' he' => hmissing e' (List.mem_cons_of_mem _ he'), ok_bind, List.flatMap_cons]
    simp only [List.append_assoc]
    rfl

end Parts

end Template

/-! ## Templates as definitions -/

namespace Compile

/-- The definitions that stand for a template: its text between two markers,
or as an operand. -/
inductive WritesTemplate (marker t : String) : Value → Prop
  | marked {m : Char} {s : String} (hmarker : marker.toList = [m]) (hm : m ≠ '$')
      (hs : s.toList = m :: (t.toList ++ [m])) : WritesTemplate marker t (.text s)
  | operand (rest : Fields) :
      WritesTemplate marker t (.object ((.text Operation.templateName, .text t) :: rest))

section Templates

variable {marker t : String} {d : Value}

theorem WritesTemplate.select (h : WritesTemplate marker t d) :
    select marker d = .ok (.text Operation.templateName, .text t) := by
  cases h with
  | operand rest => rfl
  | marked hmarker hm hs =>
    rename_i m s
    have hpath : pathOf? s = none := by
      unfold pathOf?
      rw [hs]
      split
      · rename_i heq
        exact absurd (List.cons.inj heq).1 hm
      · rfl
    have hprefix : marker.toList <+: s.toList := by simp [hmarker, hs]
    have hsuffix : marker.toList <:+ s.toList := ⟨m :: t.toList, by simp [hmarker, hs]⟩
    have hlength : ¬ s.length < 2 := by simp [← String.length_toList, hs]
    show selectText marker s = _
    rw [selectText_other hpath, if_pos hprefix, if_neg (by simp [hlength, hsuffix]), hs]
    simp

theorem WritesTemplate.size_le (h : WritesTemplate marker t d) : (Value.text t).size ≤ d.size := by
  cases h with
  | operand rest =>
    exact Nat.le_of_lt (Value.size_lt_object (e := (.text Operation.templateName, .text t)) (by simp))
  | marked hmarker hm hs =>
    have hlength := congrArg List.length hs
    simp only [List.length_cons, List.length_append, String.length_toList] at hlength
    simp only [Value.size]
    omega

/-- A template is compiled to the paths of its placeholders. -/
theorem compile_template (around : Surroundings) {settings : LogicSettings}
    (h : WritesTemplate settings.marker t d) :
    InStep SameCount Eq Eq (compile (Logic.setup around Registry.standard settings) .plain d)
      (pure (.template t ((Template.holes t).map fun name =>
        .path (Text.dotted name) (.inherited settings.parentKey)))) := by
  have hselect : select (Logic.setup around Registry.standard settings).marker d
      = .ok (.text Operation.templateName, .text t) := h.select
  have hfactory : (Logic.setup around Registry.standard settings).registry.factory?
      (.text Operation.templateName) = some (.form Blueprint.template) := rfl
  have hplan : Blueprint.template (.text t) = .ok ⟨[], (Template.holes t).map placeholder,
      fun ns => .template t ns⟩ := rfl
  have hsize : ∀ c ∈ (Template.holes t).map placeholder, c.size < d.size := by
    intro c hc
    obtain ⟨name, hname, rfl⟩ := List.mem_map.mp hc
    have hlength := Template.holes_length hname
    have hle := h.size_le
    have hdollar : "$".length = 1 := rfl
    simp only [placeholder, Value.size, String.length_append] at hle ⊢
    omega
  have hreading (name : String) :
      InStep SameCount Eq Eq
        (compile (Logic.setup around Registry.standard settings) .plain (placeholder name))
        (pure (.path (Text.dotted name) (.inherited settings.parentKey)) : Build Node) := by
    rw [Logic.setup, placeholder, Logic.compile_reading name (by simp)]
    refine InStep.skip (fun s t h => ⟨(), rfl, h⟩) fun _ => ?_
    refine InStep.skip (fun s t h => ⟨(), rfl, h⟩) fun _ => ?_
    exact InStep.pure rfl
  have hparts : InStep SameCount Eq Eq
      (((Template.holes t).map placeholder).mapM
        (compile (Logic.setup around Registry.standard settings) .plain))
      ((Template.holes t).mapM fun name =>
        pure (.path (Text.dotted name) (.inherited settings.parentKey))) := by
    rw [List.mapM_map]
    exact InStep.mapM_eq fun name _ => hreading name
  rw [List.mapM_pure] at hparts
  refine (compile_selected hselect hfactory hplan rfl hsize).trans sameCount_equivalence ?_
  exact hparts.bind_eq fun ns => InStep.pure rfl

end Templates

end Compile

/-! ## Templates as nodes -/

namespace Node

theorem template_paths (t : String) (r : Resolver) (names : List String) :
    (template t (names.map fun name => .path (Text.dotted name) r)).paths = names.map Text.dotted := by
  simp only [paths, sources, sourcesOfItems_eq]
  induction names with
  | nil => rfl
  | cons name names ih =>
    simp only [List.map_cons, List.flatMap_cons, List.filterMap_append, ih]
    rfl

theorem template_value {t : String} {parts : List (List Char × List Char)} {last : List Char}
    (h : Template.Factored t.toList parts last) (r : Resolver) (p : Policy) (c : Fields) :
    (template t ((Template.holes t).map fun name => .path (Text.dotted name) r)).value p c
      = (Template.substituted
          (fun name => r.get (.object c) ((Text.dotted (String.ofList name)).map .text)) last parts).map
          (fun cs => .text (String.ofList cs)) := by
  have hmap (ts : Except Fault (List (Option String))) (ps : List Template.Piece) :
      (do return Value.text (String.ofList (Template.fill ps (← ts))))
        = (ts.map (Template.fill ps)).map fun cs => .text (String.ofList cs) := by
    cases ts <;> rfl
  simp only [value, valueOfHoles_eq, h.holes, List.mapM_map, Function.comp_def]
  rw [hmap, ← Template.fill_substituted, ← h.piecesFrom]
  rfl

end Node

namespace Logic

section Values

variable {around : Surroundings} {base context : Value} {fields c : Fields} {settings : LogicSettings}
  {l : Logic}

/-- A path by itself is looked up in the context. -/
theorem alone_path (hbase : Entries.ofValue base = .ok fields) (hset : around.settings = .ok settings)
    (hl : l.base = fields) (hc : l.contextIn? context = some c) (p : String) (j : Journal) :
    alone around base (placeholder p) j context
      = (Resolver.inherited settings.parentKey).get (.object c) ((Text.dotted p).map .text) := by
  have hdollar : ("$" ++ p).toList = '$' :: p.toList := by simp
  exact alone_eq hbase hset (build_path hbase hset p hdollar ⟨0, [], false⟩) hl hc j

end Values

/-- A text comes apart in one way into placeholders, each the leftmost one in
what is left, and what stands between them. A template of the text reads their
paths in order; its value is the text with the values of these paths in the
places of the placeholders. One without a value stays as written. -/
theorem templates_replace_their_placeholders (t : String) :
    ∃ parts last, Template.Factored t.toList parts last
      ∧ (∀ parts' last', Template.Factored t.toList parts' last' → parts' = parts ∧ last' = last)
      ∧ t.toList = (parts.flatMap fun e => e.1 ++ Template.holeText e.2) ++ last
      ∧ ∀ (around : Surroundings) (settings : LogicSettings) (base : Value) (fields : Fields) (d : Value)
          (draft : Draft), around.settings = .ok settings → Entries.ofValue base = .ok fields →
        Compile.WritesTemplate settings.marker t d →
        ∃ l, outcome (build around [] base d) draft = .ok l ∧ l.base = fields
          ∧ l.lookups = (parts.map fun e => Text.dotted (String.ofList e.2))
          ∧ ∀ context c j, l.contextIn? context = some c →
            outcome (l.eval context) j
                = (Template.substituted
                    (fun name => alone around base (placeholder (String.ofList name)) j context)
                    last parts).map (fun cs => .text (String.ofList cs))
              ∧ ((∀ e ∈ parts,
                    alone around base (placeholder (String.ofList e.2)) j context = .ok .undefined) →
                  outcome (l.eval context) j = .ok (.text t)) := by
  obtain ⟨parts, last, hparts⟩ := Template.factored_exists t.toList
  refine ⟨parts, last, hparts, fun _ _ h => hparts.unique h, hparts.text, ?_⟩
  intro around settings base fields d draft hset hbase hd
  have hbuilt := (build_compiles hbase hset d).trans Compile.sameCount_equivalence
    (Compile.compile_template around hd)
  have hoc := (hbuilt draft draft rfl).1
  cases hl : outcome (build around [] base d) draft with
  | error e => rw [hl] at hoc; exact absurd hoc id
  | ok l =>
    rw [hl] at hoc
    have hholds : l.Holds d fields _ := hoc
    refine ⟨l, rfl, hholds.base, ?_, ?_⟩
    · rw [hholds.lookups, Node.template_paths, hparts.holes, List.map_map]
      rfl
    · intro context c j hc
      have hvalue : outcome (l.eval context) j = (Template.substituted
          (fun name => alone around base (placeholder (String.ofList name)) j context)
          last parts).map (fun cs => .text (String.ofList cs)) := by
        rw [eval_built hl hc, hholds.root, Node.template_value hparts]
        simp only [alone_path hbase hset hholds.base hc]
      refine ⟨hvalue, fun hmissing => ?_⟩
      rw [hvalue, Template.substituted_missing hmissing, ← hparts.text]
      simp [Except.map]

/-- A filling that looks like a placeholder stays as it is, and so does a
placeholder without a value. -/
theorem fillings_are_not_filled :
    ∃ l, outcome (build ordinary [] .null (.text "`$\x7bname\x7d, $\x7ba.b\x7d!`")) ⟨0, [], false⟩ = .ok l
      ∧ l.lookups = [["name"], ["a", "b"]]
      ∧ outcome (l.eval (.object [(.text "name", .text "$\x7ba.b\x7d")])) Journal.empty
        = .ok (.text "$\x7ba.b\x7d, $\x7ba.b\x7d!") := by
  have hset : ordinary.settings = .ok ⟨false, Settings.defaultParentKey, Settings.defaultMarker⟩ := rfl
  have hbase : Entries.ofValue .null = .ok [] := rfl
  have hfirst : Template.Leftmost "$\x7bname\x7d, $\x7ba.b\x7d!".toList [] "name".toList
      ", $\x7ba.b\x7d!".toList := .here ⟨rfl, by decide, by decide⟩
  have hsecond : Template.Leftmost ", $\x7ba.b\x7d!".toList ", ".toList "a.b".toList "!".toList :=
    .cons rfl (.cons rfl (.here ⟨rfl, by decide, by decide⟩))
  have hlast (before name rest : List Char) : ¬ Template.Occurs "!".toList before name rest := by
    intro h
    have hlength := congrArg List.length h.text
    have hone : "!".toList.length = 1 := rfl
    simp only [Template.holeText, List.length_append, List.length_cons] at hlength
    omega
  obtain ⟨parts, last, -, hunique, -, hbuilt⟩ :=
    templates_replace_their_placeholders "$\x7bname\x7d, $\x7ba.b\x7d!"
  obtain ⟨rfl, rfl⟩ := hunique _ _ (.next hfirst (.next hsecond (.done hlast)))
  have hmarked : Compile.WritesTemplate Settings.defaultMarker "$\x7bname\x7d, $\x7ba.b\x7d!"
      (.text "`$\x7bname\x7d, $\x7ba.b\x7d!`") := .marked (m := '\x60') rfl (by decide) rfl
  obtain ⟨l, hl, hfields, hlookups, heval⟩ :=
    hbuilt ordinary _ .null [] _ ⟨0, [], false⟩ hset hbase hmarked
  have hcontext : l.contextIn? (.object [(.text "name", .text "$\x7ba.b\x7d")])
      = some [(.text "name", .text "$\x7ba.b\x7d")] :=
    contextIn?_object hfields _
  refine ⟨l, hl, hlookups, ?_⟩
  rw [(heval _ _ Journal.empty hcontext).1]
  simp only [alone_path hbase hset hfields hcontext]
  rfl

end Logic

end Rulebook
