-- Failures on the way along a path. A step fails in one place only: in a list,
-- at a text that looks like an index and has no value. All else that cannot be
-- followed is the missing value.
import Rulebook.Proofs.LogicMaps

namespace Rulebook

namespace Text

/-- A text of digits of any kind. -/
def AllDigits (t : String) : Prop := t ≠ "" ∧ ∀ c ∈ t.toList, isDigit c = true

instance (t : String) : Decidable (AllDigits t) :=
  decidable_of_iff ((!t.isEmpty && t.toList.all isDigit) = true) (by simp [AllDigits])

/-- How many decimal digits a text starts with. -/
def places (t : String) : Nat := (t.toList.takeWhile fun c => (digitValue? c).isSome).length

/-- Every character is a decimal digit, and there are not too many of them. -/
def Readable (t : String) : Prop :=
  (∀ c ∈ t.toList, (digitValue? c).isSome = true) ∧ t.toList.length ≤ Number.digitLimit

instance (t : String) : Decidable (Readable t) :=
  decidable_of_iff ((t.toList.all fun c => (digitValue? c).isSome) = true
    ∧ t.toList.length ≤ Number.digitLimit) (by simp [Readable])

/-- Texts of digits that have no value, with what is said about them. -/
inductive Misread (t : String) : Fault → Prop
  /-- A digit in it is not decimal. -/
  | notDecimal {c : Char} (hdigits : AllDigits t) (hplaces : places t ≤ Number.digitLimit)
      (hc : c ∈ t.toList) (hvalue : digitValue? c = none) : Misread t (.notDigits t)
  | tooLong (hdigits : AllDigits t) (hplaces : Number.digitLimit < places t) :
      Misread t (.tooManyDigits (places t))

theorem digitsValue?_none_iff (cs : List Char) :
    digitsValue? cs = none ↔ ∃ c ∈ cs, digitValue? c = none := by
  have hfrom (acc : Option Nat) :
      cs.foldl (fun acc c => acc.bind fun n => (digitValue? c).map fun d => 10 * n + d) acc = none
        ↔ acc = none ∨ ∃ c ∈ cs, digitValue? c = none := by
    induction cs generalizing acc with
    | nil => simp
    | cons c cs ih =>
      rw [List.foldl_cons, ih]
      cases acc with
      | none => simp
      | some n => simp
  unfold digitsValue?
  rw [hfrom (some 0)]
  simp

theorem places_le (t : String) : places t ≤ t.toList.length := (List.takeWhile_sublist _).length_le

theorem Misread.allDigits {t : String} {e : Fault} (h : Misread t e) : AllDigits t := by
  cases h <;> assumption

/-- Texts that can be read are no misread ones. -/
theorem Readable.not_misread {t : String} {e : Fault} (h : Readable t) : ¬ Misread t e := by
  intro hm
  cases hm with
  | notDecimal _ _ hc hvalue =>
    have := h.1 _ hc
    rw [hvalue] at this
    cases this
  | tooLong _ hplaces =>
    have := places_le t
    have := h.2
    omega

end Text

namespace Path

open Text

/-- An index is read from digits unless they are misread. -/
theorem digitsIndex_error_iff {t : String} (hdigits : AllDigits t) (e : Fault) :
    digitsIndex t = .error e ↔ Misread t e := by
  have hunfold : digitsIndex t = if Number.digitLimit < places t then .error (.tooManyDigits (places t))
      else (digitsValue? t.toList).elim (.error (.notDigits t)) fun n => .ok n := by
    unfold digitsIndex places
    cases digitsValue? t.toList <;> rfl
  rw [hunfold]
  by_cases hplaces : Number.digitLimit < places t
  · rw [if_pos hplaces]
    constructor
    · intro h
      obtain rfl := Except.error.inj h
      exact .tooLong hdigits hplaces
    · intro h
      cases h with
      | notDecimal _ hshort => omega
      | tooLong => rfl
  · rw [if_neg hplaces]
    have hnone := digitsValue?_none_iff t.toList
    constructor
    · intro h
      cases hvalue : digitsValue? t.toList with
      | some n => rw [hvalue] at h; cases h
      | none =>
        rw [hvalue] at h
        obtain rfl := Except.error.inj h
        obtain ⟨c, hc, hworthless⟩ := hnone.mp hvalue
        exact .notDecimal hdigits (by omega) hc hworthless
    · intro h
      cases h with
      | notDecimal _ _ hc hworthless =>
        rw [hnone.mpr ⟨_, hc, hworthless⟩]
        rfl
      | tooLong _ hlong => exact absurd hlong hplaces

/-- An index is missing or read, but for the texts that are misread. -/
theorem index?_error_iff (segment : Value) (e : Fault) :
    index? segment = .error e ↔ ∃ t, segment = .text t ∧ Misread t e := by
  cases segment with
  | text t =>
    have hlooks : (!t.isEmpty && t.toList.all isDigit) = true ↔ AllDigits t := by
      simp [AllDigits]
    have htext : (∃ t', Value.text t = .text t' ∧ Misread t' e) ↔ Misread t e := by
      simp
    unfold index?
    rw [htext]
    by_cases hdigits : AllDigits t
    · simp only [hlooks.mpr hdigits, if_true]
      rw [← digitsIndex_error_iff hdigits]
      cases digitsIndex t <;> simp [Except.map]
    · simp only [mt hlooks.mp hdigits]
      constructor
      · intro h
        cases h
      · intro h
        cases h <;> contradiction
  | _ => simp [index?]

end Path

/-! ## Steps and walks -/

namespace Resolver

variable {r : Resolver} {root v : Value} {path : List Value} {e : Fault}

/-- Where a path fails: before one of its texts it has come to a list, and the
text is misread. -/
def FailsAt (r : Resolver) (root : Value) (path : List Value) (e : Fault) : Prop :=
  ∃ before t rest xs, path = before ++ .text t :: rest ∧ r.get root before = .ok (.list xs)
    ∧ Text.Misread t e

/-- A step fails in a list only. -/
theorem step_error_iff {segment : Value} (h : Path.hashable segment = .ok ()) :
    r.step v segment = .error e ↔ ∃ xs t, v = .list xs ∧ segment = .text t ∧ Text.Misread t e := by
  have hlist (xs : List Value) : r.step (.list xs) segment = Path.step (.list xs) segment := by
    cases r <;> rfl
  cases v with
  | list xs =>
    rw [hlist]
    unfold Path.step
    have hindex := Path.index?_error_iff segment e
    cases hi : Path.index? segment with
    | error f =>
      rw [hi] at hindex
      simpa [Except.map] using hindex
    | ok i =>
      rw [hi] at hindex
      simpa [Except.map] using hindex
  | object fs => cases r <;> simp [step, Path.step, Path.stepInherited, h, Except.map]
  | _ => cases r <;> simp [step, Path.step, Path.stepInherited]

theorem get_undefined (r : Resolver) (path : List Value) : r.get .undefined path = .ok .undefined := by
  cases path with
  | nil => rfl
  | cons s rest => cases r <;> rfl

/-- A path is followed segment by segment. -/
theorem get_cons (r : Resolver) (v s : Value) (rest : List Value) :
    r.get v (s :: rest) = (do r.get (← r.step v s) rest) := by
  have hunfold : r.get v (s :: rest)
      = (do let w ← r.step v s; if w.isUndefined then .ok .undefined else r.get w rest) := rfl
  rw [hunfold]
  cases r.step v s with
  | error e => rfl
  | ok w =>
    cases w with
    | undefined => exact (get_undefined r rest).symm
    | _ => rfl

theorem get_append (r : Resolver) (v : Value) (before rest : List Value) :
    r.get v (before ++ rest) = (do r.get (← r.get v before) rest) := by
  induction before generalizing v with
  | nil => rfl
  | cons s before ih =>
    rw [List.cons_append, get_cons, get_cons, bind_assoc]
    exact congrArg _ (funext ih)

/-- A path fails where it has come to a misread text. -/
theorem get_error_iff (hpath : ∀ s ∈ path, Path.hashable s = .ok ()) :
    r.get root path = .error e ↔ FailsAt r root path e := by
  induction path generalizing root with
  | nil =>
    constructor
    · intro h
      cases h
    · rintro ⟨before, t, rest, xs, heq, -⟩
      simp at heq
  | cons s path ih =>
    have hs : Path.hashable s = .ok () := hpath s (by simp)
    have hrest : ∀ s ∈ path, Path.hashable s = .ok () := fun s' hs' => hpath s' (by simp [hs'])
    rw [get_cons]
    -- the first step fails only if nothing stands before the text
    constructor
    · intro h
      cases hstep : r.step root s with
      | error f =>
        rw [hstep] at h
        obtain rfl := Except.error.inj h
        obtain ⟨xs, t, rfl, rfl, hmisread⟩ := (step_error_iff hs).mp hstep
        exact ⟨[], t, path, xs, rfl, rfl, hmisread⟩
      | ok w =>
        rw [hstep, ok_bind] at h
        obtain ⟨before, t, rest, xs, rfl, hget, hmisread⟩ := (ih hrest).mp h
        refine ⟨s :: before, t, rest, xs, rfl, ?_, hmisread⟩
        rw [get_cons, hstep, ok_bind, hget]
    · rintro ⟨before, t, rest, xs, heq, hget, hmisread⟩
      cases before with
      | nil =>
        obtain ⟨rfl, rfl⟩ := List.cons.inj heq
        obtain rfl := Except.ok.inj hget
        rw [(step_error_iff hs).mpr ⟨xs, t, rfl, rfl, hmisread⟩]
        rfl
      | cons b before =>
        obtain ⟨rfl, rfl⟩ := List.cons.inj heq
        rw [get_cons] at hget
        obtain ⟨w, hstep, hget⟩ := bind_ok hget
        rw [hstep, ok_bind]
        exact (ih hrest).mpr ⟨before, t, rest, xs, rfl, hget, hmisread⟩

end Resolver

/-- Looking up a path of texts and integers fails exactly where it has come to
a list and goes on with digits that no index can be read from. So no path
without such a text fails, and one that is lost stays so. A path in a definition
is looked up in the context, and fails as it does there. -/
theorem paths_fail_at_misread_indices (r : Resolver) (root : Value) (path : List Value)
    (hpath : ∀ s ∈ path, Path.hashable s = .ok ()) :
    (∀ e, r.get root path = .error e ↔ r.FailsAt root path e)
      ∧ ((∀ t, .text t ∈ path → Text.AllDigits t → Text.Readable t) → ∃ v, r.get root path = .ok v)
      ∧ (∀ before rest, path = before ++ rest → r.get root before = .ok .undefined →
          r.get root path = .ok .undefined)
      ∧ ∀ (around : Surroundings) (settings : LogicSettings) (base : Value) (fields : Fields) (p : String)
          (draft : Draft), around.settings = .ok settings → Entries.ofValue base = .ok fields →
        r = .inherited settings.parentKey → path = (Text.dotted p).map .text →
        ∃ l, outcome (Logic.build around [] base (.text ("$" ++ p))) draft = .ok l ∧ l.base = fields
          ∧ ∀ context c j, l.contextIn? context = some c → root = .object c →
            outcome (l.eval context) j = r.get root path
              ∧ ∀ e, outcome (l.eval context) j = .error e ↔ r.FailsAt root path e := by
  refine ⟨fun e => Resolver.get_error_iff hpath, fun hread => ?_, ?_, ?_⟩
  · cases hget : r.get root path with
    | ok v => exact ⟨v, rfl⟩
    | error e =>
      obtain ⟨before, t, rest, xs, rfl, -, hmisread⟩ := (Resolver.get_error_iff hpath).mp hget
      exact absurd hmisread (hread t (by simp) hmisread.allDigits).not_misread
  · rintro before rest rfl hlost
    rw [Resolver.get_append, hlost, ok_bind, Resolver.get_undefined]
  · rintro around settings base fields p draft hset hbase rfl rfl
    have hdollar : ("$" ++ p).toList = '$' :: p.toList := by simp
    have hl := Logic.build_path hbase hset p hdollar draft
    refine ⟨_, hl, rfl, ?_⟩
    rintro context c j hc rfl
    have hvalue := Logic.eval_built hl hc j
    refine ⟨hvalue, fun e => ?_⟩
    rw [hvalue]
    exact Resolver.get_error_iff hpath

/-- A digit of another script is an index, and a superscript in a definition
fails in a list. -/
theorem other_scripts_have_indices :
    (∃ v, Resolver.plain.get (.list [.int 1, .int 2]) [.text "١"] = .ok v)
      ∧ Resolver.plain.get (.list []) [.text "a", .int 0] = .ok .undefined
      ∧ ∃ l, outcome (Logic.build Logic.ordinary [] .null (.text ("$" ++ "a.²"))) ⟨0, [], false⟩ = .ok l
        ∧ outcome (l.eval (.object [(.text "a", .list [])])) Journal.empty = .error (.notDigits "²") := by
  have hread : Text.Readable "١" := by decide
  have hmisread : Text.Misread "²" (.notDigits "²") :=
    .notDecimal (c := '²') (by decide) (by decide) (by decide) (by decide)
  refine ⟨?_, ?_, ?_⟩
  · refine (paths_fail_at_misread_indices .plain _ _ ?_).2.1 ?_
    · simp [Path.hashable]
    · intro t ht _
      obtain rfl := Value.text.inj (List.mem_singleton.mp ht)
      exact hread
  · refine (paths_fail_at_misread_indices .plain _ _ ?_).2.2.1 [.text "a"] [.int 0] rfl rfl
    simp [Path.hashable]
  · have hpath : ∀ s ∈ [Value.text "a", .text "²"], Path.hashable s = .ok () := by simp [Path.hashable]
    obtain ⟨l, hl, hbase, heval⟩ := (paths_fail_at_misread_indices
      (.inherited Settings.defaultParentKey) (.object [(.text "a", .list [])]) _ hpath).2.2.2
      Logic.ordinary _ .null [] "a.²" ⟨0, [], false⟩ rfl rfl rfl rfl
    have hcontext : l.contextIn? (.object [(.text "a", .list [])]) = some [(.text "a", .list [])] :=
      Logic.contextIn?_object hbase _
    exact ⟨l, hl, ((heval _ _ _ hcontext rfl).2 _).mpr ⟨[.text "a"], "²", [], [], rfl, rfl, hmisread⟩⟩

/-- No index is read from a superscript, with or without ancestors. -/
theorem superscript_is_no_index :
    ∃ (root : Value) (path : List Value), (∀ s ∈ path, Path.hashable s = .ok ())
      ∧ Resolver.plain.get root path = .error (.notDigits "²")
      ∧ ∀ parent, (Resolver.inherited parent).get root path = .error (.notDigits "²") := by
  refine ⟨.list [.int 1], [.text "²"], ?_, rfl, fun parent => rfl⟩
  simp [Path.hashable]

end Rulebook
