-- Strings and integers of JSON text. What is written of them is read back, whatever
-- stands behind it: each escape as its character, two of them as the one beyond the
-- first 2^16 code points, and the digits of an integer as its value.
import Rulebook.Json.Reader
import Rulebook.Json.Writer
import Mathlib.Tactic.SplitIfs

namespace Rulebook

/-- How many decimal digits an integer has. -/
def Number.places (n : Int) : Nat := (Nat.toDigits 10 n.natAbs).length

theorem Number.isWritable_iff (n : Int) : isWritable n = true ↔ places n ≤ digitLimit := by
  have hlimit : 0 < digitLimit := by decide
  unfold isWritable places
  -- so that nothing evaluates the power
  generalize digitLimit = limit at *
  rw [Nat.length_toDigits_le_iff (by decide) hlimit, decide_eq_true_iff, Nat.pow_eq]

theorem Number.digitLimit_lt_places : digitLimit < places (Nat.pow 10 digitLimit : Nat) := by
  have hlong (n : Nat) (h : Nat.pow 10 digitLimit ≤ n) : isWritable n = false :=
    decide_eq_false (Nat.not_lt.mpr h)
  rw [← Nat.not_le, ← isWritable_iff, hlong _ (Nat.le_refl _)]
  exact Bool.false_ne_true

namespace Json

/-! ## Hexadecimal digits -/

theorem hexValue?_digitChar : ∀ d < 16, hexValue? d.digitChar = some d := by decide

/-- The last digit of a number stands behind the digits of the rest. -/
theorem hexDigits_succ (width n : Nat) :
    Text.hexDigits (width + 2) n = Text.hexDigits (width + 1) (n / 16) ++ [(n % 16).digitChar] := by
  unfold Text.hexDigits
  rcases Nat.lt_or_ge n 16 with h | h
  · rw [Nat.div_eq_of_lt h, Nat.mod_eq_of_lt h, Nat.toDigits_of_lt_base h, Nat.toDigits_zero]
    simp [List.replicate_succ']
  · have hpadding (k : Nat) : width + 2 - (k + 1) = width + 1 - k := Nat.add_sub_add_right (width + 1) 1 k
    dsimp only
    rw [Nat.toDigits_of_base_le (by decide) h, List.length_append, List.length_singleton, hpadding,
      List.append_assoc]

theorem hexDigits_four {n : Nat} (h : n < 0x10000) :
    Text.hexDigits 4 n = [(n / 0x1000).digitChar, (n / 0x100 % 16).digitChar, (n / 0x10 % 16).digitChar,
      (n % 16).digitChar] := by
  have hfirst : n / 16 / 16 / 16 < 16 := by omega
  rw [hexDigits_succ, hexDigits_succ, hexDigits_succ, Text.hexDigits, Nat.toDigits_of_lt_base hfirst]
  simp [Nat.div_div_eq_div_mul]

theorem hexFour?_digits {n : Nat} (h : n < 0x10000) :
    hexFour? (n / 0x1000).digitChar (n / 0x100 % 16).digitChar (n / 0x10 % 16).digitChar (n % 16).digitChar
      = some n := by
  have hplaces : (n / 0x1000 * 16 + n / 0x100 % 16) * 256 + n / 0x10 % 16 * 16 + n % 16 = n := by omega
  rw [hexFour?, hexValue?_digitChar _ (by omega), hexValue?_digitChar _ (by omega),
    hexValue?_digitChar _ (by omega), hexValue?_digitChar _ (by omega)]
  exact congrArg some hplaces

/-! ## Strings -/

/-- A character is written as a short escape, as one by its code point, or as it
is. -/
theorem charText_cases (ascii : Bool) (c : Char) :
    (∃ x, charText ascii c = ['\\', x] ∧ simpleEscape? x = some c ∧ x ≠ 'u' ∧ x.toNat < 128)
      ∨ charText ascii c = pointEscape c.toNat
      ∨ charText ascii c = [c] ∧ c ≠ '"' ∧ c ≠ '\\' ∧ 0x20 ≤ c.toNat ∧ (ascii = true → c.toNat < 128) := by
  unfold charText
  split_ifs with hquote hn hr ht hf hb hpoint
  · rcases hquote with rfl | rfl <;> exact .inl ⟨_, rfl, rfl, by decide, by decide⟩
  · exact .inl ⟨_, rfl, hn ▸ rfl, by decide, by decide⟩
  · exact .inl ⟨_, rfl, hr ▸ rfl, by decide, by decide⟩
  · exact .inl ⟨_, rfl, ht ▸ rfl, by decide, by decide⟩
  · exact .inl ⟨_, rfl, hf ▸ rfl, by decide, by decide⟩
  · exact .inl ⟨_, rfl, hb ▸ rfl, by decide, by decide⟩
  · exact .inr (.inl rfl)
  · simp only [not_or, not_and] at hquote hpoint
    refine .inr (.inr ⟨rfl, hquote.1, hquote.2, by omega, fun hascii => ?_⟩)
    have := hpoint.2 hascii
    omega

section Strings

variable (opening : List Char) {e : Char} {rest : List Char}

/-- A unit that is no half of a pair is read as one character. -/
theorem stringBody_unitEscape {n : Nat} (h : n < 0x10000) (hhigh : isHighSurrogate n = false) :
    stringBody opening (unitEscape n ++ e :: rest)
      = (stringBody opening (e :: rest)).map fun r => (unitChar n :: r.1, r.2) := by
  rw [unitEscape, hexDigits_four h]
  simp only [List.cons_append, List.nil_append]
  rw [stringBody, hexFour?_digits h]
  simp [hhigh]

/-- Two halves of a pair are read as one character. -/
theorem stringBody_pairEscape {n m : Nat} (hn : n < 0x10000) (hm : m < 0x10000)
    (hhigh : isHighSurrogate n = true) (hlow : isLowSurrogate m = true) :
    stringBody opening (unitEscape n ++ unitEscape m ++ e :: rest)
      = (stringBody opening (e :: rest)).map fun r => (pairChar n m :: r.1, r.2) := by
  rw [unitEscape, unitEscape, hexDigits_four hn, hexDigits_four hm]
  simp only [List.cons_append, List.nil_append]
  rw [stringBody, hexFour?_digits hn]
  simp [hhigh, hexFour?_digits hm, hlow]

/-- No character is half of a pair. -/
theorem not_surrogate (c : Char) : isHighSurrogate c.toNat = false ∧ isLowSurrogate c.toNat = false := by
  have hvalid : c.toNat < 0xd800 ∨ 0xdfff < c.toNat ∧ c.toNat < 0x110000 := c.valid
  simp only [isHighSurrogate, isLowSurrogate, Bool.and_eq_false_iff, decide_eq_false_iff_not]
  omega

theorem unitChar_toNat (c : Char) : unitChar c.toNat = c := by
  obtain ⟨hhigh, hlow⟩ := not_surrogate c
  simp [unitChar, hhigh, hlow]

/-- An escaped character is read, be it one unit or a pair. -/
theorem stringBody_pointEscape (c : Char) :
    stringBody opening (pointEscape c.toNat ++ e :: rest)
      = (stringBody opening (e :: rest)).map fun r => (c :: r.1, r.2) := by
  have hvalid : c.toNat < 0xd800 ∨ 0xdfff < c.toNat ∧ c.toNat < 0x110000 := c.valid
  unfold pointEscape
  split
  · rename_i hunit
    rw [stringBody_unitEscape opening hunit (not_surrogate c).1, unitChar_toNat]
  · rename_i hpair
    dsimp only
    have hhigh : isHighSurrogate (0xd800 + (c.toNat - 0x10000) / 0x400) = true := by
      simp only [isHighSurrogate, Bool.and_eq_true, decide_eq_true_eq]
      omega
    have hlow : isLowSurrogate (0xdc00 + (c.toNat - 0x10000) % 0x400) = true := by
      simp only [isLowSurrogate, Bool.and_eq_true, decide_eq_true_eq]
      omega
    have hpoint : 0x10000 + (0xd800 + (c.toNat - 0x10000) / 0x400 - 0xd800) * 0x400
        + (0xdc00 + (c.toNat - 0x10000) % 0x400 - 0xdc00) = c.toNat := by omega
    rw [stringBody_pairEscape opening (by omega) (by omega) hhigh hlow, pairChar, hpoint, Char.ofNat_toNat]

/-- A character stands for itself if it is no control, quote or backslash. -/
theorem stringBody_char {c : Char} (hquote : c ≠ '"') (hescape : c ≠ '\\') (hcontrol : 0x20 ≤ c.toNat) :
    stringBody opening (c :: e :: rest)
      = (stringBody opening (e :: rest)).map fun r => (c :: r.1, r.2) := by
  rw [stringBody]
  · rw [if_neg (Nat.not_lt.mpr hcontrol)]
  all_goals simp_all

theorem stringBody_simpleEscape {x c : Char} (h : simpleEscape? x = some c) (hunit : x ≠ 'u') :
    stringBody opening ('\\' :: x :: e :: rest)
      = (stringBody opening (e :: rest)).map fun r => (c :: r.1, r.2) := by
  rw [stringBody]
  · rw [h]
  all_goals simp_all

/-- A character is read as it was written. -/
theorem stringBody_charText (ascii : Bool) (c : Char) :
    stringBody opening (charText ascii c ++ e :: rest)
      = (stringBody opening (e :: rest)).map fun r => (c :: r.1, r.2) := by
  rcases charText_cases ascii c with ⟨x, htext, hx, hunit, -⟩ | htext | ⟨htext, hquote, hescape, hcontrol, -⟩
  · rw [htext]
    exact stringBody_simpleEscape opening hx hunit
  · rw [htext, stringBody_pointEscape]
  · rw [htext]
    exact stringBody_char opening hquote hescape hcontrol

/-- So is a whole string, up to the closing quote. -/
theorem stringBody_flatMap (ascii : Bool) (cs rest : List Char) :
    stringBody opening (cs.flatMap (charText ascii) ++ '"' :: rest) = .ok (cs, rest) := by
  induction cs with
  | nil => simp [stringBody]
  | cons c cs ih =>
    obtain ⟨e, tail, htail⟩ : ∃ e tail, cs.flatMap (charText ascii) ++ '"' :: rest = e :: tail :=
      List.exists_cons_of_ne_nil (by simp)
    rw [List.flatMap_cons, List.append_assoc, htail, stringBody_charText, ← htail, ih]
    rfl

end Strings

/-! ## Text inside strings -/

/-- Where a character of JSON text stands. -/
inductive Place where
  | outside
  | inside
  /-- Inside a string, behind a backslash. -/
  | escaped

/-- The characters of a text that stand in no string. The quotes around one are no
such characters. -/
def unquoted : Place → List Char → List Char
  | _, [] => []
  | .outside, c :: cs => if c = '"' then unquoted .inside cs else c :: unquoted .outside cs
  | .inside, c :: cs =>
    if c = '"' then unquoted .outside cs
    else if c = '\\' then unquoted .escaped cs
    else unquoted .inside cs
  | .escaped, _ :: cs => unquoted .inside cs

/-- Text that can stand inside a string: escapes and other characters, in ASCII. -/
inductive Quotable : List Char → Prop
  | nil : Quotable []
  | char {c : Char} {cs : List Char} (hascii : c.toNat < 128) (hquote : c ≠ '"') (hescape : c ≠ '\\')
      (h : Quotable cs) : Quotable (c :: cs)
  | escape {c : Char} {cs : List Char} (hascii : c.toNat < 128) (h : Quotable cs) :
      Quotable ('\\' :: c :: cs)

namespace Quotable

variable {as bs : List Char}

theorem append (ha : Quotable as) (hb : Quotable bs) : Quotable (as ++ bs) := by
  induction ha with
  | nil => exact hb
  | char hascii hquote hescape _ ih => exact .char hascii hquote hescape ih
  | escape hascii _ ih => exact .escape hascii ih

theorem ascii (h : Quotable as) : ∀ c ∈ as, c.toNat < 128 := by
  induction h with
  | nil => simp
  | char hascii _ _ _ ih => exact List.forall_mem_cons.mpr ⟨hascii, ih⟩
  | escape hascii _ ih =>
    exact List.forall_mem_cons.mpr ⟨by decide, List.forall_mem_cons.mpr ⟨hascii, ih⟩⟩

/-- The string goes on behind such text. -/
theorem unquoted_inside (h : Quotable as) (rest : List Char) :
    unquoted .inside (as ++ rest) = unquoted .inside rest := by
  induction h with
  | nil => rfl
  | char _ hquote hescape _ ih => rw [List.cons_append, unquoted, if_neg hquote, if_neg hescape, ih]
  | escape _ _ ih => exact ih

end Quotable

theorem unitEscape_quotable {n : Nat} (h : n < 0x10000) : Quotable (unitEscape n) := by
  have hdigit : ∀ d < 16, d.digitChar.toNat < 128 ∧ d.digitChar ≠ '"' ∧ d.digitChar ≠ '\\' := by decide
  have hcons {d : Nat} {cs : List Char} (hd : d < 16) (hcs : Quotable cs) : Quotable (d.digitChar :: cs) :=
    .char (hdigit d hd).1 (hdigit d hd).2.1 (hdigit d hd).2.2 hcs
  rw [unitEscape, hexDigits_four h]
  exact .escape (by decide) (hcons (by omega) (hcons (by omega) (hcons (by omega) (hcons (by omega) .nil))))

theorem pointEscape_quotable (c : Char) : Quotable (pointEscape c.toNat) := by
  have hvalid : c.toNat < 0xd800 ∨ 0xdfff < c.toNat ∧ c.toNat < 0x110000 := c.valid
  unfold pointEscape
  split
  · rename_i hunit
    exact unitEscape_quotable hunit
  · exact (unitEscape_quotable (by omega)).append (unitEscape_quotable (by omega))

theorem charText_quotable (c : Char) : Quotable (charText true c) := by
  rcases charText_cases true c with ⟨x, htext, -, -, hx⟩ | htext | ⟨htext, hquote, hescape, -, hascii⟩
  · rw [htext]
    exact .escape hx .nil
  · rw [htext]
    exact pointEscape_quotable c
  · rw [htext]
    exact .char (hascii rfl) hquote hescape .nil

theorem flatMap_quotable (cs : List Char) : Quotable (cs.flatMap (charText true)) := by
  induction cs with
  | nil => exact .nil
  | cons c cs ih => exact (charText_quotable c).append ih

/-! ## Integers -/

/-- Nothing, or what can stand behind a value. -/
def Ends (rest : List Char) : Prop := ∀ c ∈ rest.head?, c = ',' ∨ c = ']' ∨ c = '\x7d'

section Integers

variable {rest : List Char}

theorem digitsValue_toDigits (m : Nat) : digitsValue (Nat.toDigits 10 m) = m :=
  Nat.ofDigitChars_ten_toDigits

theorem isDigit_of_mem_toDigits {m : Nat} {c : Char} (h : c ∈ Nat.toDigits 10 m) : isDigit c = true := by
  have hdigit : c.isDigit = true := Nat.isDigit_of_mem_toDigits (by decide) (by decide) h
  simpa [isDigit, Char.isDigit, Char.le_def] using hdigit

theorem toDigits_cons (m : Nat) : ∃ d ds, Nat.toDigits 10 m = d :: ds ∧ isDigit d = true := by
  obtain ⟨d, ds, hds⟩ := List.exists_cons_of_ne_nil (Nat.toDigits_ne_nil (n := m) (b := 10))
  exact ⟨d, ds, hds, isDigit_of_mem_toDigits (m := m) (by simp [hds])⟩

/-- Only zero starts with a zero. -/
theorem toDigits_head {m : Nat} (h : 0 < m) : ∃ d ds, Nat.toDigits 10 m = d :: ds ∧ d ≠ '0' := by
  induction m using Nat.strongRecOn with
  | _ m ih =>
    rcases Nat.lt_or_ge m 10 with hm | hm
    · refine ⟨m.digitChar, [], Nat.toDigits_of_lt_base hm, ?_⟩
      rw [ne_eq, Nat.digitChar_eq_zero]
      omega
    · obtain ⟨d, ds, hds, hd⟩ := ih (m / 10) (by omega) (by omega)
      refine ⟨d, ds ++ [(m % 10).digitChar], ?_, hd⟩
      rw [Nat.toDigits_of_base_le (by decide) hm, hds]
      rfl

theorem Ends.not_digit (h : Ends rest) : ∀ c ∈ rest.head?, isDigit c = false := by
  intro c hc
  rcases h c hc with rfl | rfl | rfl <;> decide

theorem Ends.takeWhile_isDigit (h : Ends rest) : rest.takeWhile isDigit = [] ∧ rest.dropWhile isDigit = rest := by
  cases rest with
  | nil => exact ⟨rfl, rfl⟩
  | cons c rest => simp [h.not_digit c rfl]

theorem whole?_toDigits (m : Nat) (h : Ends rest) :
    whole? (Nat.toDigits 10 m ++ rest) = some (Nat.toDigits 10 m, rest) := by
  rcases Nat.eq_zero_or_pos m with rfl | hm
  · rfl
  · obtain ⟨d, ds, hds, hd⟩ := toDigits_head hm
    have hdigits : ∀ c ∈ d :: ds, isDigit c = true := fun c hc => isDigit_of_mem_toDigits (hds ▸ hc)
    rw [List.forall_mem_cons] at hdigits
    obtain ⟨htake, hdrop⟩ := h.takeWhile_isDigit
    rw [hds, List.cons_append, whole?]
    · rw [if_pos hdigits.1, List.takeWhile_append_of_pos hdigits.2, List.dropWhile_append_of_pos hdigits.2, htake,
        hdrop, List.append_nil]
    · simpa using hd

theorem fraction?_ends (h : Ends rest) : fraction? rest = (none, rest) := by
  unfold fraction?
  split
  · rcases h _ rfl with hc | hc | hc <;> cases hc
  · rfl

theorem exponent?_ends (h : Ends rest) : exponent? rest = (none, rest) := by
  cases rest with
  | nil => rfl
  | cons c rest => rcases h c rfl with rfl | rfl | rfl <;> rfl

/-- The digits of a natural number are a numeral, and so are they behind a minus
sign. -/
theorem numeral?_toDigits (m : Nat) (h : Ends rest) :
    numeral? (Nat.toDigits 10 m ++ rest) = some (⟨false, Nat.toDigits 10 m, none, none⟩, rest)
      ∧ numeral? ('-' :: Nat.toDigits 10 m ++ rest) = some (⟨true, Nat.toDigits 10 m, none, none⟩, rest) := by
  have hwhole := whole?_toDigits m h
  constructor
  · unfold numeral?
    split
    rename_i negative cs hsign
    split at hsign
    · rename_i rest' hminus
      obtain ⟨d, ds, hds, hdigit⟩ := toDigits_cons m
      rw [hds] at hminus
      obtain ⟨rfl, -⟩ := List.cons.inj hminus
      cases hdigit
    · obtain ⟨rfl, rfl⟩ := Prod.mk.inj hsign
      simp [hwhole, fraction?_ends h, exponent?_ends h]
  · rw [List.cons_append, numeral?]
    simp [hwhole, fraction?_ends h, exponent?_ends h]

theorem toList_ofNat (m : Nat) : (toString (Int.ofNat m)).toList = Nat.toDigits 10 m := Nat.toList_repr

theorem toList_negSucc (m : Nat) : (toString (Int.negSucc m)).toList = '-' :: Nat.toDigits 10 (m + 1) := by
  have htext : toString (Int.negSucc m) = "-" ++ Nat.repr (m + 1) := rfl
  rw [htext, String.toList_append, Nat.toList_repr]
  rfl

theorem value_toDigits {m : Nat} (negative : Bool) (h : (Nat.toDigits 10 m).length ≤ Number.digitLimit) :
    Numeral.value ⟨negative, Nat.toDigits 10 m, none, none⟩ = .ok (.int (if negative then -m else m : Int)) := by
  simp only [Numeral.value]
  rw [if_neg (Nat.not_lt.mpr h), digitsValue_toDigits]

theorem number_of_numeral {cs : List Char} {n : Numeral} {v : Value} (h : numeral? cs = some (n, rest))
    (hv : n.value = .ok v) : number cs = .ok (v, rest) := by
  rw [number, h]
  simp only [hv]

/-- An integer is read as it was written. -/
theorem number_int {n : Int} (hn : Number.isWritable n = true) (h : Ends rest) :
    number ((toString n).toList ++ rest) = .ok (.int n, rest) := by
  rw [Number.isWritable_iff] at hn
  cases n with
  | ofNat m =>
    rw [toList_ofNat]
    exact number_of_numeral (numeral?_toDigits m h).1 (value_toDigits false hn)
  | negSucc m =>
    rw [toList_negSucc]
    exact number_of_numeral (numeral?_toDigits (m + 1) h).2 (value_toDigits true hn)

end Integers

end Json

end Rulebook
