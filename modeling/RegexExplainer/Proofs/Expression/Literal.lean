import Mathlib.Data.List.Forall2
import RegexExplainer.Proofs.Expression.Beginning
import RegexExplainer.Proofs.Pattern.Spelling
import RegexExplainer.Regex.Compile

/- What patterns of literal tokens, and those that spell a text, are compiled to. -/
namespace RegexExplainer

namespace Expression

/-- A text, read character by character. -/
def ofText (t : Text) : Expression := .ofParts (t.map fun c => .char .unicode (.singleton c))

theorem ofSet_singleton (c : Char) :
    ofSet .unicode (.singleton c) = .char .unicode (.singleton c) := by
  unfold ofSet
  rw [show (CharSet.singleton c).isEmpty = false from rfl, if_neg Bool.false_ne_true]
  split
  · rfl
  · rfl

theorem ofTexts_eq (texts : List Text) : ofTexts texts = .ofBranches (texts.map ofText) := by
  unfold ofTexts ofText
  simp only [ofSet_singleton]

theorem ofTexts_singleton (t : Text) : ofTexts [t] = ofText t := ofTexts_eq [t]

theorem sequence_chars (t : Text) :
    sequence (t.map fun c => .char .unicode (.singleton c)) = ofText t := by
  refine congrArg ofParts ?_
  induction t with
  | nil => rfl
  | cons c t ih =>
      rw [List.map_cons, List.flatMap_cons, ih]
      rfl

theorem ofSet_singleton_beginnings (c : Char) :
    Beginnings.ofSet (.singleton c) = some [.ofChar c] := by
  simp [Beginnings.ofSet, CharSet.singleton, CharSet.point, CharSet.range, Beginnings.mostChars]

theorem spells_beginningsWith_ofText {s : Beginnings} {before : Text} (h : s.Spells before)
    (t : Text) : ((ofText t).beginningsWith .after s).Spells (before ++ t) := by
  have hchar : ∀ c, (Beginnings.ofSet (.singleton c)).Spells [c] := by
    intro c
    exact ⟨.ofChar c, ofSet_singleton_beginnings c, fun _ => ⟨[c], rfl, by simp [Beginning.ofChar]⟩⟩
  induction t generalizing s before with
  | nil => exact h.follow Beginnings.spells_nothing
  | cons c t ih =>
      cases t with
      | nil => exact h.follow (hchar c)
      | cons d t =>
          have hrest := ih (h.follow (hchar c))
          rw [List.append_assoc] at hrest
          exact hrest

theorem spells_beginnings_ofText (t : Text) : (ofText t).beginnings.Spells t :=
  spells_beginningsWith_ofText Beginnings.spells_nothing t

section AllSets

variable {P : CharSet → Prop}

theorem allSets_ofParts {es : List Expression} (h : ∀ e ∈ es, e.AllSets P) :
    (ofParts es).AllSets P := by
  induction es with
  | nil => trivial
  | cons e es ih =>
      have hrest := ih fun f hf => h f (List.mem_cons_of_mem e hf)
      cases es with
      | nil => exact h e List.mem_cons_self
      | cons f es => exact ⟨h e List.mem_cons_self, hrest⟩

theorem allSets_ofBranches {es : List Expression} (hempty : P .empty)
    (h : ∀ e ∈ es, e.AllSets P) : (ofBranches es).AllSets P := by
  induction es with
  | nil => exact hempty
  | cons e es ih =>
      have hrest := ih fun f hf => h f (List.mem_cons_of_mem e hf)
      cases es with
      | nil => exact h e List.mem_cons_self
      | cons f es => exact ⟨h e List.mem_cons_self, hrest⟩

theorem AllSets.parts {e : Expression} (h : e.AllSets P) : ∀ f ∈ e.parts, f.AllSets P := by
  induction e with
  | empty => exact fun f hf => absurd hf List.not_mem_nil
  | seq e f ihe ihf =>
      intro g hg
      rcases List.mem_cons.mp hg with rfl | hg
      · exact h.1
      · exact ihf h.2 g hg
  | char _ _ | look _ | capture _ _ | alt _ _ | repetition _ _ _ _ =>
      intro f hf
      rw [List.mem_singleton.mp hf]
      exact h

theorem allSets_sequence {es : List Expression} (h : ∀ e ∈ es, e.AllSets P) :
    (sequence es).AllSets P := by
  refine allSets_ofParts fun f hf => ?_
  obtain ⟨e, he, hf⟩ := List.mem_flatMap.mp hf
  exact (h e he).parts f hf

theorem AllSets.repeated {e : Expression} (h : e.AllSets P) (least : Nat) (most : Option Nat)
    (greedy : Bool) : (repeated least most greedy e).AllSets P := by
  unfold Expression.repeated
  dsimp only
  split
  · trivial
  · exact h
  · exact h

theorem allSets_ofText {t : Text} (h : ∀ c ∈ t, P (.singleton c)) : (ofText t).AllSets P := by
  refine allSets_ofParts fun e he => ?_
  obtain ⟨c, hc, rfl⟩ := List.mem_map.mp he
  exact h c hc

end AllSets

end Expression

namespace Pattern

theorem Tree.Names.elaborate {tree : Tree} {c : Char} (h : tree.Names c) :
    tree.elaborate .initial = .ok (.char .unicode (.singleton c), .initial) := by
  obtain ⟨region, rfl⟩ := h
  rw [← Expression.ofSet_singleton]
  rfl

theorem elaborateAll_names {parts : List Tree} {t : Text} (h : List.Forall₂ Tree.Names parts t) :
    Tree.elaborateAll .initial parts =
      .ok (t.map fun c => .char .unicode (.singleton c), .initial) := by
  induction h with
  | nil => rfl
  | cons hname _ ih =>
      rw [Tree.elaborateAll, hname.elaborate]
      change (Tree.elaborateAll .initial _).bind _ = _
      rw [ih]
      rfl

theorem elaborate_ofParts {region : Region} {parts : List Tree} {t : Text}
    (h : List.Forall₂ Tree.Names parts t) :
    (Tree.ofParts region parts).elaborate .initial = .ok (.ofText t, .initial) := by
  cases h with
  | nil => rfl
  | cons hname hrest =>
      cases hrest with
      | nil => exact hname.elaborate
      | cons hname' hrest' =>
          change (Tree.concat region _).elaborate .initial = _
          rw [Tree.elaborate, elaborateAll_names (.cons hname (.cons hname' hrest'))]
          exact congrArg (fun e => Except.ok (e, Flags.initial)) (Expression.sequence_chars _)

section Repeats

variable {P : CharSet → Prop}

theorem Tree.Repeats.elaborate {tree : Tree} (h : tree.Repeats)
    (hP : ∀ c, c ≠ '\x7b' → P (.singleton c)) {e : Expression} {f : Flags}
    (he : tree.elaborate .initial = .ok (e, f)) : e.AllSets P ∧ f = .initial := by
  induction h generalizing e f with
  | @literal region c hc =>
      rw [Tree.Names.elaborate ⟨region, rfl⟩] at he
      cases he
      exact ⟨hP c hc, rfl⟩
  | @repetition region least most greedy sub _ ih =>
      rw [Tree.elaborate] at he
      obtain ⟨⟨inner, after⟩, hinner, hpure⟩ := ok_of_bind_ok he
      cases hpure
      obtain ⟨hsets, rfl⟩ := ih hinner
      exact ⟨hsets.repeated least most _, rfl⟩

theorem elaborateAll_repeats {parts : List Tree} (h : ∀ part ∈ parts, part.Repeats)
    (hP : ∀ c, c ≠ '\x7b' → P (.singleton c)) {es : List Expression} {f : Flags}
    (hes : Tree.elaborateAll .initial parts = .ok (es, f)) :
    (∀ e ∈ es, e.AllSets P) ∧ f = .initial := by
  induction parts generalizing es f with
  | nil =>
      cases hes
      exact ⟨fun e he => absurd he List.not_mem_nil, rfl⟩
  | cons part parts ih =>
      rw [Tree.elaborateAll] at hes
      obtain ⟨⟨e, after⟩, he, hrest⟩ := ok_of_bind_ok hes
      obtain ⟨⟨es', last⟩, hes', hpure⟩ := ok_of_bind_ok hrest
      cases hpure
      obtain ⟨hsets, rfl⟩ := (h part List.mem_cons_self).elaborate hP he
      obtain ⟨hall, rfl⟩ := ih (fun p hp => h p (List.mem_cons_of_mem part hp)) hes'
      refine ⟨fun e' he' => ?_, rfl⟩
      rcases List.mem_cons.mp he' with rfl | he'
      · exact hsets
      · exact hall e' he'

theorem allSets_of_elaborate {region : Region} {parts : List Tree}
    (h : ∀ part ∈ parts, part.Repeats) (hP : ∀ c, c ≠ '\x7b' → P (.singleton c))
    {e : Expression} {f : Flags} (he : (Tree.ofParts region parts).elaborate .initial = .ok (e, f)) :
    e.AllSets P := by
  match parts, he with
  | [], he =>
      cases he
      trivial
  | [part], he => exact ((h part List.mem_cons_self).elaborate hP he).1
  | part :: part' :: parts, he =>
      change (Tree.concat region _).elaborate .initial = _ at he
      rw [Tree.elaborate] at he
      obtain ⟨⟨es, after⟩, hes, hpure⟩ := ok_of_bind_ok he
      cases hpure
      exact Expression.allSets_sequence (elaborateAll_repeats h hP hes).1

end Repeats

end Pattern

open Lexeme (Literals)

theorem ofPattern_ok {p : Text} {e : Expression} (h : Expression.ofPattern p = .ok e) :
    ∃ tree f, Pattern.parse p = .ok tree ∧ tree.elaborate .initial = .ok (e, f) := by
  obtain ⟨tree, htree, h⟩ := Pattern.ok_of_bind_ok h
  obtain ⟨_, -, h⟩ := Pattern.ok_of_bind_ok h
  obtain ⟨⟨e', f⟩, he, hpure⟩ := Pattern.ok_of_bind_ok h
  cases hpure
  exact ⟨tree, f, htree, he⟩

theorem ofPattern_spells {p w : Text} (h : Spells p w) :
    Expression.ofPattern p = .ok (.ofText w) := by
  obtain ⟨region, parts, hnames, hparse⟩ := Pattern.parse_spells h
  unfold Expression.ofPattern
  rw [hparse]
  change (Pattern.checkDepth (.ofParts region parts)).bind _ = _
  rw [Pattern.checkDepth_ofParts hnames]
  change ((Pattern.Tree.ofParts region parts).elaborate .initial).bind _ = _
  rw [Pattern.elaborate_ofParts hnames]
  rfl

/-- A compiled pattern is that of its expression or of the texts looked for in its place. -/
theorem compile_ok {p : Text} {re : Regex} (h : Regex.compile p = .ok re) :
    ∃ e, Expression.ofPattern p = .ok e ∧
      (re = .ofExpression e ∨
        ∃ texts, e.texts? = some texts ∧ re = .ofExpression (.ofTexts texts)) := by
  have hre : Regex.ofPattern p = .ok re := by
    unfold Regex.compile at h
    cases hp : Regex.ofPattern p with
    | error refusal =>
        rw [hp] at h
        cases h
    | ok re' =>
        rw [hp] at h
        cases h
        rfl
  unfold Regex.ofPattern at hre
  split at hre
  · cases hre
  · next e he =>
      refine ⟨e, he, ?_⟩
      split at hre
      · cases hre
        exact .inl rfl
      · split at hre
        · next texts htexts =>
            cases hre
            exact .inr ⟨texts, htexts, rfl⟩
        · cases hre

/-- A pattern that spells a text is compiled as that text. -/
theorem compile_spells {p w : Text} {re : Regex} (hp : Spells p w) (h : Regex.compile p = .ok re) :
    re = .ofExpression (.ofText w) := by
  obtain ⟨e, he, hre⟩ := compile_ok h
  obtain rfl := Except.ok.inj (he.symm.trans (ofPattern_spells hp))
  rcases hre with hre | ⟨texts, htexts, hre⟩
  · exact hre
  · -- a text that is looked for in place of the expression is `w` itself
    rw [Expression.eq_of_texts? htexts (Expression.spells_beginnings_ofText w),
      Expression.ofTexts_singleton] at hre
    exact hre

theorem compile_of_fits {p w : Text} (hp : Spells p w) (h : (Expression.ofText w).fits = true) :
    Regex.compile p = .ok (.ofExpression (.ofText w)) := by
  unfold Regex.compile Regex.ofPattern
  rw [ofPattern_spells hp]
  exact congrArg (Except.mapError _) (if_pos h)

/-- What a pattern of literal tokens with an opening brace is compiled to reads no such brace. -/
theorem compile_repeats {p : Text} {re : Regex} (hliterals : Literals p)
    (h : Regex.compile p = .ok re) :
    ∃ e, e.AllSets (fun s => s.contains '\x7b' = false) ∧ re = .ofExpression e := by
  have hcontains : ∀ c, c ≠ '\x7b' → (CharSet.singleton c).contains '\x7b' = false := by
    intro c hc
    rw [CharSet.contains_singleton, beq_eq_false_iff_ne]
    exact hc
  have hwithin : ∀ c, c ≠ '\x7b' → (Beginnings.ofSet (.singleton c)).Within ('\x7b' ∉ ·) := by
    intro c hc bs hbs b hb _
    rw [Expression.ofSet_singleton_beginnings] at hbs
    cases hbs
    rw [List.mem_singleton.mp hb]
    exact ⟨[c], by simpa using hc.symm, by simp [Beginning.ofChar]⟩
  obtain ⟨e, he, hre⟩ := compile_ok h
  obtain ⟨tree, f, htree, helaborate⟩ := ofPattern_ok he
  obtain ⟨region, parts, rfl, hrepeats⟩ := Pattern.parse_repeats hliterals htree
  rcases hre with hre | ⟨texts, htexts, hre⟩
  · exact ⟨e, Pattern.allSets_of_elaborate hrepeats hcontains helaborate, hre⟩
  · have hsets : e.AllSets fun s => (Beginnings.ofSet s).Within ('\x7b' ∉ ·) :=
      Pattern.allSets_of_elaborate hrepeats hwithin helaborate
    have hbeginnings : e.beginnings.Within ('\x7b' ∉ ·) := by
      refine Expression.within_beginnings hsets List.not_mem_nil ?_
      intro x y hx hy hmem
      exact (List.mem_append.mp hmem).elim hx hy
    refine ⟨.ofTexts texts, ?_, hre⟩
    rw [Expression.ofTexts_eq]
    refine Expression.allSets_ofBranches rfl fun branch hbranch => ?_
    obtain ⟨t, ht, rfl⟩ := List.mem_map.mp hbranch
    have hbrace := Expression.mem_of_texts? htexts hbeginnings t ht
    exact Expression.allSets_ofText fun c hc => hcontains c fun heq => hbrace (heq ▸ hc)

end RegexExplainer
