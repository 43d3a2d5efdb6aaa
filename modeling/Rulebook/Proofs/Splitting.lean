-- Texts cut at a separator and joined again. What is cut joins to the text that it
-- was, whatever overlaps; what is joined at a character that stands in none of the
-- pieces is cut into them again; and no piece holds the separator.
import Rulebook.Proofs.Operands

namespace Rulebook

namespace Text

section Pieces

variable {sep : List Char}

theorem splitFrom_ne_nil (sep : List Char) (skip : Nat) (cs : List Char) : splitFrom sep skip cs ≠ [] := by
  have hconsFirst (c : Char) (ps : List (List Char)) : consFirst c ps ≠ [] := by
    cases ps <;> simp [consFirst]
  induction cs generalizing skip with
  | nil => cases skip <;> simp [splitFrom]
  | cons c cs ih =>
    cases skip with
    | zero =>
      unfold splitFrom
      split
      · simp
      · exact hconsFirst c _
    | succ skip => exact ih skip

theorem join_cons (sep p : List Char) {ps : List (List Char)} (h : ps ≠ []) :
    join sep (p :: ps) = p ++ sep ++ join sep ps := by
  cases ps with
  | nil => exact absurd rfl h
  | cons q ps => rfl

theorem join_consFirst (sep : List Char) (c : Char) {ps : List (List Char)} (h : ps ≠ []) :
    join sep (consFirst c ps) = c :: join sep ps := by
  obtain ⟨p, ps, rfl⟩ := List.exists_cons_of_ne_nil h
  cases ps with
  | nil => rfl
  | cons q ps => rw [consFirst, join_cons sep _ (by simp), join_cons sep p (by simp)]; rfl

theorem prefix_of_join (sep p : List Char) (ps : List (List Char)) : p <+: join sep (p :: ps) := by
  cases ps with
  | nil => exact List.prefix_rfl
  | cons q ps =>
    rw [join_cons sep p (by simp), List.append_assoc]
    exact List.prefix_append _ _

/-- The pieces join to the text, but for what still belongs to a separator. -/
theorem join_splitFrom (hsep : sep ≠ []) (skip : Nat) (cs : List Char) :
    join sep (splitFrom sep skip cs) = cs.drop skip := by
  induction cs generalizing skip with
  | nil => cases skip <;> rfl
  | cons c cs ih =>
    cases skip with
    | succ skip => exact ih skip
    | zero =>
      unfold splitFrom
      by_cases hfound : sep.isPrefixOf (c :: cs)
      · obtain ⟨rest, hrest⟩ := List.isPrefixOf_iff_prefix.mp hfound
        obtain ⟨s, sep, rfl⟩ := List.exists_cons_of_ne_nil hsep
        obtain ⟨rfl, rfl⟩ := List.cons.inj hrest
        rw [if_pos hfound, join_cons _ _ (splitFrom_ne_nil _ _ _), ih]
        simp
      · rw [if_neg hfound, join_consFirst _ _ (splitFrom_ne_nil _ _ _), ih]
        rfl

/-- A separator in a piece would have been found there. -/
theorem not_infix_of_mem_splitFrom (hsep : sep ≠ []) (skip : Nat) (cs : List Char) :
    ∀ p ∈ splitFrom sep skip cs, ¬ sep <:+: p := by
  have hempty : ¬ sep <:+: [] := fun h => hsep (List.infix_nil.mp h)
  induction cs generalizing skip with
  | nil => cases skip <;> simpa [splitFrom] using hempty
  | cons c cs ih =>
    cases skip with
    | succ skip => exact ih skip
    | zero =>
      unfold splitFrom
      by_cases hfound : sep.isPrefixOf (c :: cs)
      · rw [if_pos hfound]
        exact List.forall_mem_cons.mpr ⟨hempty, ih _⟩
      · rw [if_neg hfound]
        obtain ⟨p, ps, hps⟩ := List.exists_cons_of_ne_nil (splitFrom_ne_nil sep 0 cs)
        have hrest := ih 0
        have hprefix : p <+: cs := by
          have := prefix_of_join sep p ps
          rwa [← hps, join_splitFrom hsep] at this
        rw [hps] at hrest ⊢
        rw [List.forall_mem_cons] at hrest
        refine List.forall_mem_cons.mpr ⟨fun h => ?_, hrest.2⟩
        rcases List.infix_cons_iff.mp h with h | h
        · have hwhole : sep <+: c :: cs := h.trans (List.cons_prefix_cons.mpr ⟨rfl, hprefix⟩)
          exact hfound (List.isPrefixOf_iff_prefix.mpr hwhole)
        · exact hrest.1 h

end Pieces

/-! ## Whole texts -/

theorem join_splitOn (sep cs : List Char) : join sep (splitOn sep cs) = cs := by
  unfold splitOn
  by_cases hsep : sep = []
  · subst hsep
    rw [if_pos (by simp)]
    induction cs with
    | nil => rfl
    | cons c cs ih =>
      cases cs with
      | nil => rfl
      | cons d cs => rw [List.map_cons, join_cons _ _ (by simp), ih]; rfl
  · rw [if_neg (by simpa using hsep), join_splitFrom hsep]
    rfl

theorem not_infix_of_mem_splitOn {sep : List Char} (hsep : sep ≠ []) (cs : List Char) :
    ∀ p ∈ splitOn sep cs, ¬ sep <:+: p := by
  unfold splitOn
  rw [if_neg (by simpa using hsep)]
  exact not_infix_of_mem_splitFrom hsep 0 cs

section Characters

variable {c : Char}

theorem splitOn_char (cs : List Char) : splitOn [c] cs = splitFrom [c] 0 cs := rfl

theorem splitOn_char_cons (d : Char) (cs : List Char) :
    splitOn [c] (d :: cs) = if d = c then [] :: splitOn [c] cs else consFirst d (splitOn [c] cs) := by
  have hfound : [c].isPrefixOf (d :: cs) = true ↔ d = c := by
    rw [List.isPrefixOf_iff_prefix, List.cons_prefix_cons]
    exact ⟨fun h => h.1.symm, fun h => ⟨h.symm, List.nil_prefix⟩⟩
  rw [splitOn_char, splitFrom]
  by_cases hd : d = c
  · rw [if_pos (hfound.mpr hd), if_pos hd]
    rfl
  · rw [if_neg (mt hfound.mp hd), if_neg hd]
    rfl

theorem splitOn_char_ne_nil (cs : List Char) : splitOn [c] cs ≠ [] := splitFrom_ne_nil [c] 0 cs

theorem consFirst_append (d : Char) {ps : List (List Char)} (h : ps ≠ []) (qs : List (List Char)) :
    consFirst d (ps ++ qs) = consFirst d ps ++ qs := by
  obtain ⟨p, ps, rfl⟩ := List.exists_cons_of_ne_nil h
  rfl

/-- A text that goes on behind a separator has the pieces of both parts. -/
theorem splitOn_char_append (as bs : List Char) :
    splitOn [c] (as ++ c :: bs) = splitOn [c] as ++ splitOn [c] bs := by
  induction as with
  | nil =>
    rw [List.nil_append, splitOn_char_cons, if_pos rfl]
    rfl
  | cons a as ih =>
    rw [List.cons_append, splitOn_char_cons, splitOn_char_cons, ih]
    split
    · rfl
    · exact consFirst_append a (splitOn_char_ne_nil as) _

theorem splitOn_char_of_not_mem {cs : List Char} (h : c ∉ cs) : splitOn [c] cs = [cs] := by
  induction cs with
  | nil => rfl
  | cons d cs ih =>
    rw [List.mem_cons, not_or] at h
    rw [splitOn_char_cons, if_neg (Ne.symm h.1), ih h.2]
    rfl

/-- Pieces without a character are what their join is cut into there. -/
theorem splitOn_join {ps : List (List Char)} (hne : ps ≠ []) (h : ∀ p ∈ ps, c ∉ p) :
    splitOn [c] (join [c] ps) = ps := by
  induction ps with
  | nil => exact absurd rfl hne
  | cons p ps ih =>
    have hp := splitOn_char_of_not_mem (h p (by simp))
    cases ps with
    | nil => exact hp
    | cons q ps =>
      rw [join_cons _ _ (by simp), List.append_assoc, List.singleton_append, splitOn_char_append, hp,
        ih (by simp) fun p' hp' => h p' (List.mem_cons_of_mem _ hp')]
      rfl

end Characters

end Text

/-! ## As functions of values -/

namespace Function

theorem split_text (s sep : String) :
    split (.text s) (.text sep) = .ok (texts (Text.splitOn sep.toList s.toList)) := rfl

/-- Texts are joined as they are. -/
theorem join_texts (ps : List (List Char)) (sep : String) :
    join (texts ps) (.text sep) = .ok (.text (String.ofList (Text.join sep.toList ps))) := by
  have hitems : (ps.map fun p => Value.text (String.ofList p)).mapM itemText = .ok ps := by
    have hitem (p : List Char) : itemText (.text (String.ofList p)) = pure p := by
      have hwritten : (Value.text (String.ofList p)).written = .ok (String.ofList p) := rfl
      rw [itemText, hwritten]
      simp [Value.isAbsent, Except.map]
      rfl
    simp only [List.mapM_map, Function.comp_def, hitem]
    rw [List.mapM_pure, List.map_id']
    rfl
  have hsep : Value.written (.text sep) = .ok sep := rfl
  rw [texts, join, hsep, ok_bind, hitems]
  rfl

/-- Texts as values, and as the pieces that they are. -/
theorem texts_eq (xs : List String) : Value.list (xs.map .text) = texts (xs.map String.toList) := by
  simp [texts, Function.comp_def]

end Function

namespace Logic

/-- A text cut at a separator, as a definition. -/
def splitForm (d e : Value) : Value := Compile.longForm "split" (.list [d, e])

/-- Texts with a separator between them, as a definition. -/
def joinForm (d e : Value) : Value := Compile.longForm "join" (.list [d, e])

section Forms

variable {around : Surroundings} {base d e : Value}
  (hd : ∃ l, outcome (build around [] base d) ⟨0, [], false⟩ = .ok l)
  (he : ∃ l, outcome (build around [] base e) ⟨0, [], false⟩ = .ok l)

theorem split_factory : Registry.standard.factory? (.text "split") = some (.pair "split" Function.split) := rfl

theorem join_factory : Registry.standard.factory? (.text "join") = some (.pair "join" Function.join) := rfl

section Values

variable {context : Value} {j : Journal} {s sep : String}
  (hs : alone around base d j context = .ok (.text s)) (hsep : alone around base e j context = .ok (.text sep))
include hd he

theorem split_builds (draft : Draft) : ∃ l, outcome (build around [] base (splitForm d e)) draft = .ok l :=
  pair_builds split_factory hd he draft

theorem join_builds (draft : Draft) : ∃ l, outcome (build around [] base (joinForm d e)) draft = .ok l :=
  pair_builds join_factory hd he draft

include hs hsep in
theorem alone_split : alone around base (splitForm d e) j context
    = .ok (Function.texts (Text.splitOn sep.toList s.toList)) := by
  rw [splitForm, alone_pair split_factory hd he, hs, hsep]
  rfl

include hsep in
theorem alone_join {ps : List (List Char)} (hps : alone around base d j context = .ok (Function.texts ps)) :
    alone around base (joinForm d e) j context
      = .ok (.text (String.ofList (Text.join sep.toList ps))) := by
  rw [joinForm, alone_pair join_factory hd he, hps, hsep]
  exact Function.join_texts ps sep

end Values

end Forms

/-- A text in a literal is a definition of that text. -/
theorem literal_text {around : Surroundings} {base : Value} (hready : Ready around base) (s : String) :
    ∃ l, outcome (build around [] base (Compile.longForm "literal" (.text s))) ⟨0, [], false⟩ = .ok l
      ∧ ∀ context c j, l.contextIn? context = some c → outcome (l.eval context) j = .ok (.text s) := by
  obtain ⟨l, hl⟩ := literal_builds (v := .text s) hready ⟨0, [], false⟩ (by simp [Blueprint.payloads])
  obtain ⟨ls, -, -, heval⟩ := literal_means hl
  exact ⟨l, hl, fun context c j hc => heval context c j hc⟩

/-- Whatever a text is cut at, its pieces join to it again, and none of them holds
the separator. Texts that are joined at a character which none of them holds are
what the whole is cut into there. So it is for all definitions that come to such
texts, and every text has one. -/
theorem splitting_and_joining_undo_each_other (around : Surroundings) (base : Value) (draft : Draft) :
    (∀ d e, (∃ l, outcome (build around [] base d) ⟨0, [], false⟩ = .ok l) →
        (∃ l, outcome (build around [] base e) ⟨0, [], false⟩ = .ok l) →
      (∃ l, outcome (build around [] base (joinForm (splitForm d e) e)) draft = .ok l
        ∧ ∀ context j s sep, alone around base d j context = .ok (.text s) →
          alone around base e j context = .ok (.text sep) → outcome (l.eval context) j = .ok (.text s))
      ∧ (∃ l, outcome (build around [] base (splitForm (joinForm d e) e)) draft = .ok l
        ∧ ∀ context j (xs : List String) c, xs ≠ [] → (∀ x ∈ xs, c ∉ x.toList) →
          alone around base d j context = .ok (.list (xs.map .text)) →
          alone around base e j context = .ok (.text (String.singleton c)) →
          outcome (l.eval context) j = .ok (.list (xs.map .text)))
      ∧ ∃ l, outcome (build around [] base (splitForm d e)) draft = .ok l
        ∧ ∀ context j s sep, alone around base d j context = .ok (.text s) →
          alone around base e j context = .ok (.text sep) →
          ∃ pieces : List String, outcome (l.eval context) j = .ok (.list (pieces.map .text))
            ∧ (sep ≠ "" → ∀ p ∈ pieces, ¬ sep.toList <:+: p.toList))
    ∧ (Ready around base → ∀ s sep : String,
      ∃ l, outcome (build around [] base
          (joinForm (splitForm (Compile.longForm "literal" (.text s)) (Compile.longForm "literal" (.text sep)))
            (Compile.longForm "literal" (.text sep)))) draft = .ok l
        ∧ ∀ context c j, l.contextIn? context = some c → outcome (l.eval context) j = .ok (.text s)) := by
  have hround : ∀ d e, (∃ l, outcome (build around [] base d) ⟨0, [], false⟩ = .ok l) →
      (∃ l, outcome (build around [] base e) ⟨0, [], false⟩ = .ok l) →
      ∃ l, outcome (build around [] base (joinForm (splitForm d e) e)) draft = .ok l
        ∧ ∀ context j s sep, alone around base d j context = .ok (.text s) →
          alone around base e j context = .ok (.text sep) → outcome (l.eval context) j = .ok (.text s) := by
    intro d e hd he
    obtain ⟨l, hl⟩ := join_builds (split_builds hd he ⟨0, [], false⟩) he draft
    refine ⟨l, hl, fun context j s sep hs hsep => ?_⟩
    rw [pair_means join_factory hl, alone_split hd he hs hsep, hsep, ok_bind, ok_bind,
      Function.join_texts, Text.join_splitOn, String.ofList_toList]
  refine ⟨fun d e hd he => ⟨hround d e hd he, ?_, ?_⟩, fun hready s sep => ?_⟩
  · obtain ⟨l, hl⟩ := split_builds (join_builds hd he ⟨0, [], false⟩) he draft
    refine ⟨l, hl, fun context j xs c hne hfree hxs hsep => ?_⟩
    have hsingle : (String.singleton c).toList = [c] := by simp
    have hpieces : ∀ p ∈ xs.map String.toList, c ∉ p := List.forall_mem_map.mpr hfree
    rw [Function.texts_eq] at hxs ⊢
    rw [pair_means split_factory hl, alone_join hd he hsep hxs, hsep, ok_bind, ok_bind,
      Function.split_text, hsingle, String.toList_ofList,
      Text.splitOn_join (mt List.map_eq_nil_iff.mp hne) hpieces]
  · obtain ⟨l, hl⟩ := split_builds hd he draft
    refine ⟨l, hl, fun context j s sep hs hsep => ?_⟩
    refine ⟨(Text.splitOn sep.toList s.toList).map String.ofList, ?_, fun hne p hp => ?_⟩
    · rw [pair_means split_factory hl, hs, hsep, ok_bind, ok_bind, Function.split_text, Function.texts,
        List.map_map]
      rfl
    · obtain ⟨cs, hcs, rfl⟩ := List.mem_map.mp hp
      have hsome : sep.toList ≠ [] := by simpa using hne
      rw [String.toList_ofList]
      exact Text.not_infix_of_mem_splitOn hsome _ cs hcs
  · obtain ⟨m, hm, hs⟩ := literal_text hready s
    obtain ⟨n, hn, hsep⟩ := literal_text hready sep
    obtain ⟨l, hl, heval⟩ := hround _ _ ⟨m, hm⟩ ⟨n, hn⟩
    obtain ⟨fields, settings, hbase, hset⟩ := hready
    have hfields : ∀ {l : Logic} {d draft}, outcome (build around [] base d) draft = .ok l → l.base = fields :=
      fun h => (build_parts hbase rfl hset h).2.1
    refine ⟨l, hl, fun context c j hc => heval context j s sep ?_ ?_⟩
    · rw [alone, hm, ok_bind]
      exact hs context c j ((contextIn?_congr ((hfields hm).trans (hfields hl).symm) context).trans hc)
    · rw [alone, hn, ok_bind]
      exact hsep context c j ((contextIn?_congr ((hfields hn).trans (hfields hl).symm) context).trans hc)

/-- Separators that overlap, and texts with an empty one among them. -/
theorem texts_cut_and_joined :
    (∃ l, outcome (build ordinary [] .null (joinForm (splitForm (Compile.longForm "literal" (.text "aaa"))
          (Compile.longForm "literal" (.text "aa"))) (Compile.longForm "literal" (.text "aa")))) ⟨0, [], false⟩
        = .ok l
      ∧ outcome (l.eval .null) Journal.empty = .ok (.text "aaa"))
    ∧ (∃ l, outcome (build ordinary [] .null (splitForm (.text "$text") (.text "$mark"))) ⟨0, [], false⟩ = .ok l
      ∧ ∃ pieces : List String,
        outcome (l.eval (.object [(.text "text", .text "aaa"), (.text "mark", .text "aa")])) Journal.empty
            = .ok (.list (pieces.map .text))
          ∧ ∀ p ∈ pieces, ¬ "aa".toList <:+: p.toList)
    ∧ (∃ l, outcome (build ordinary [] .null (joinForm (splitForm (.text "$text") (.text "$mark"))
          (.text "$mark"))) ⟨0, [], false⟩ = .ok l
      ∧ outcome (l.eval (.object [(.text "text", .text "ab"), (.text "mark", .text "")])) Journal.empty
          = .ok (.text "ab"))
    ∧ ∃ l, outcome (build ordinary [] .null (splitForm (joinForm (.text "$text") (.text "$mark"))
          (.text "$mark"))) ⟨0, [], false⟩ = .ok l
      ∧ outcome (l.eval (.object [(.text "text", .list [.text "a", .text ""]), (.text "mark", .text ",")]))
          Journal.empty = .ok (.list [.text "a", .text ""]) := by
  have hset : ordinary.settings = .ok ⟨false, Settings.defaultParentKey, Settings.defaultMarker⟩ := rfl
  have hbase : Entries.ofValue .null = .ok [] := rfl
  have htext := build_path (s := "$text") hbase hset "text" rfl ⟨0, [], false⟩
  have hmark := build_path (s := "$mark") hbase hset "mark" rfl ⟨0, [], false⟩
  obtain ⟨hforms, hliterals⟩ := splitting_and_joining_undo_each_other ordinary .null ⟨0, [], false⟩
  obtain ⟨⟨round, hround, hrounds⟩, ⟨back, hback, hbacks⟩, cut, hcut, hcuts⟩ :=
    hforms (.text "$text") (.text "$mark") ⟨_, htext⟩ ⟨_, hmark⟩
  have hread (text mark : Value) :
      alone ordinary .null (.text "$text") Journal.empty (.object [(.text "text", text), (.text "mark", mark)])
          = (Resolver.inherited Settings.defaultParentKey).get
              (.object [(.text "text", text), (.text "mark", mark)]) [.text "text"]
        ∧ alone ordinary .null (.text "$mark") Journal.empty (.object [(.text "text", text), (.text "mark", mark)])
          = (Resolver.inherited Settings.defaultParentKey).get
              (.object [(.text "text", text), (.text "mark", mark)]) [.text "mark"] := by
    have hfields : cut.base = [] := (build_parts hbase rfl hset hcut).2.1
    have hcontext : cut.contextIn? (.object [(.text "text", text), (.text "mark", mark)])
        = some [(.text "text", text), (.text "mark", mark)] := contextIn?_object hfields _
    exact ⟨alone_eq hbase hset htext hfields hcontext _, alone_eq hbase hset hmark hfields hcontext _⟩
  obtain ⟨l, hl, heval⟩ := hliterals ⟨_, _, hbase, hset⟩ "aaa" "aa"
  refine ⟨⟨l, hl, ?_⟩, ⟨cut, hcut, ?_⟩, ⟨round, hround, ?_⟩, back, hback, ?_⟩
  · exact heval .null l.base Journal.empty rfl
  · obtain ⟨pieces, hpieces, hnone⟩ := hcuts _ Journal.empty "aaa" "aa" (hread (.text "aaa") (.text "aa")).1
      (hread (.text "aaa") (.text "aa")).2
    exact ⟨pieces, hpieces, hnone (by decide)⟩
  · exact hrounds _ Journal.empty "ab" "" (hread (.text "ab") (.text "")).1 (hread (.text "ab") (.text "")).2
  · exact hbacks _ Journal.empty ["a", ""] ',' (by simp) (by simp)
      (hread (.list [.text "a", .text ""]) (.text ",")).1 (hread (.list [.text "a", .text ""]) (.text ",")).2

end Logic

end Rulebook
