import Mathlib.Data.List.Forall2
import RegexExplainer.Proofs.Pattern.Literal
import RegexExplainer.Proofs.Token.Quoted

/- How a pattern that spells a text is parsed: without a fault, into the characters of the text. With
a backslash at its end it is malformed. -/
namespace RegexExplainer.Pattern

open Lexeme (isOrdinary)
open Text (isSpecial)

/-- A tree that stands for a character as it is written. -/
def Tree.Names (tree : Tree) (c : Char) : Prop :=
  ∃ region, tree = .atom (.literal ⟨region, c, false⟩)

theorem offset_advance (p : Position) (c : Char) :
    (p.advance c).offset = p.offset + c.utf8Size := by
  unfold Position.advance
  split
  · rfl
  · rfl

theorem bump_cons {r : Reading} {c : Char} {rest : Text} (h : r.rest = c :: rest) :
    r.bump = { r with position := r.position.advance c, rest } := by
  unfold Reading.bump
  rw [h]

namespace Reader

theorem shortEscape_of_special {c : Char} (hc : isSpecial c = true) (start : Position)
    (r : Reading) :
    shortEscape start c r = .ok (.literal ⟨⟨start, r.bump.position⟩, c, false⟩, r.bump) := by
  have hescapable : isEscapable c = true := by
    have hmeta : isMeta c = true := hc
    rw [isEscapable, hmeta]
    rfl
  unfold shortEscape
  rw [bind_of_ok (bump_eq r), bind_of_ok (regionFrom_eq start r.bump), if_pos hescapable]
  rfl

/-- A backslash takes the meaning from such a character, and gives it no other. -/
theorem escape_of_special {c : Char} (hc : isSpecial c = true) {r : Reading} {rest : Text}
    (hrest : r.bump.rest = c :: rest) :
    escape r = .ok (.literal ⟨⟨r.position, r.bump.bump.position⟩, c, false⟩, r.bump.bump) := by
  have hplain : c.isDigit = false ∧ ¬(c = 'x' ∨ c = 'u' ∨ c = 'U') ∧ ¬(c = 'p' ∨ c = 'P') := by
    have hall : "\\.+*?()|[]\x7b\x7d^$#&-~".toList.all (fun d => d.isDigit = false ∧
        ¬(d = 'x' ∨ d = 'u' ∨ d = 'U') ∧ ¬(d = 'p' ∨ d = 'P')) = true := by decide
    exact decide_eq_true_iff.mp (List.all_eq_true.mp hall c (List.contains_iff_mem.mp hc))
  obtain ⟨hdigit, hhex, hproperty⟩ := hplain
  unfold escape
  rw [bind_of_ok (here_eq r), bind_of_ok (bump_eq r), bind_of_ok (peek?_eq r.bump), hrest]
  simp only [List.head?_cons, hdigit, if_neg hhex, if_neg hproperty]
  exact shortEscape_of_special hc r.position r.bump

end Reader

/-- What is ahead is `left`, read with its blanks, and the position tells how much of it there is. -/
structure Ahead (left : Text) (r : Reading) : Prop where
  rest : r.rest = left
  skipping : r.skipping = false
  stop : r.position.offset + left.size = r.stop

theorem ahead_ofText (t : Text) : Ahead t (.ofText t) := ⟨rfl, rfl, Nat.zero_add t.size⟩

/-- Passing a character leaves less to be read. -/
theorem Ahead.bump {c : Char} {rest : Text} {r : Reading} (h : Ahead (c :: rest) r) :
    Ahead rest r.bump ∧ r.bump.remaining < r.remaining := by
  obtain ⟨hrest, hskip, hstop⟩ := h
  have hpos := c.utf8Size_pos
  rw [Text.size_cons] at hstop
  rw [bump_cons hrest]
  refine ⟨⟨rfl, hskip, ?_⟩, ?_⟩
  · simp only [offset_advance]
    omega
  · simp only [Reading.remaining, offset_advance]
    omega

namespace ParseState

theorem step_escaped (s : ParseState) {r : Reading} {c : Char} {rest : Text}
    (hr : Ahead ('\\' :: c :: rest) r) (hc : isSpecial c = true) :
    s.step r =
      .ok (some (s.push (.atom (.literal ⟨⟨r.position, r.bump.bump.position⟩, c, false⟩))),
        r.bump.bump) := by
  have hbump : r.bump.rest = c :: rest := hr.bump.1.rest
  unfold step
  rw [Reader.bind_of_ok (Reader.skip_eq hr.skipping), Reader.bind_of_ok (Reader.peek?_eq r), hr.rest]
  apply Reader.map_of_ok
  exact Reader.bind_of_ok (Reader.escape_of_special hc hbump)

/-- A step that reads something is followed by the steps from where it ends. -/
theorem repeatWhile_of_step {s s' : ParseState} {r r' : Reading}
    (hstep : s.step r = .ok (some s', r')) (hless : r'.remaining < r.remaining) :
    Reader.repeatWhile step s r = Reader.repeatWhile step s' r' := by
  rw [Reader.repeatWhile, hstep]
  exact if_pos hless

/-- The steps over a pattern that spells a text add a part for each character of the text. -/
theorem repeatWhile_step_spells {p w : Text} (h : Spells p w) (s : ParseState) {r : Reading}
    {rest : Text} (hr : Ahead (p ++ rest) r) :
    ∃ parts r', List.Forall₂ Tree.Names parts w ∧ Ahead rest r' ∧
      Reader.repeatWhile step s r = Reader.repeatWhile step
        { s with level := { s.level with parts := parts.reverse ++ s.level.parts } } r' := by
  induction h generalizing s r with
  | nil => exact ⟨[], r, .nil, hr, rfl⟩
  | @ordinary c p w hc _ ih =>
      obtain ⟨hr', hless⟩ := hr.bump
      obtain ⟨parts, r', hnames, hrest, hsteps⟩ :=
        ih (s.push (.atom (.literal ⟨r.ahead, c, false⟩))) hr'
      refine ⟨_ :: parts, r', .cons ⟨r.ahead, rfl⟩ hnames, hrest, ?_⟩
      rw [repeatWhile_of_step (step_ordinary hr.skipping hr.rest hc) hless, hsteps,
        List.reverse_cons, List.append_assoc]
      rfl
  | @escaped c p w hc _ ih =>
      obtain ⟨hr₁, hless₁⟩ := hr.bump
      obtain ⟨hr₂, hless₂⟩ := hr₁.bump
      obtain ⟨parts, r', hnames, hrest, hsteps⟩ :=
        ih (s.push (.atom (.literal ⟨⟨r.position, r.bump.bump.position⟩, c, false⟩))) hr₂
      refine ⟨_ :: parts, r', .cons ⟨⟨r.position, r.bump.bump.position⟩, rfl⟩ hnames, hrest, ?_⟩
      rw [repeatWhile_of_step (s.step_escaped hr hc) (Nat.lt_trans hless₂ hless₁), hsteps,
        List.reverse_cons, List.append_assoc]
      rfl

end ParseState

/-- A pattern that spells a text is well-formed, and its parts name the characters of the text. -/
theorem parse_spells {p w : Text} (h : Spells p w) :
    ∃ region parts, List.Forall₂ Tree.Names parts w ∧ parse p = .ok (.ofParts region parts) := by
  have hahead := ahead_ofText p
  rw [← List.append_nil p] at hahead
  obtain ⟨parts, r', hnames, hr', hsteps⟩ :=
    ParseState.repeatWhile_step_spells h (.start .origin) hahead
  refine ⟨⟨.origin, r'.position⟩, parts, hnames, ?_⟩
  have hparse : parse p = (Reader.repeatWhile ParseState.step (.start .origin)
      (.ofText p)).bind fun read => (read.1.finish read.2).map Prod.fst := rfl
  rw [List.append_nil] at hsteps
  rw [hparse, hsteps, Reader.repeatWhile, ParseState.step_nil hr'.skipping hr'.rest]
  change Except.ok (Tree.ofParts ⟨.origin, r'.position⟩ (parts.reverse ++ []).reverse) = _
  rw [List.append_nil, List.reverse_reverse]

theorem parse_backslash {p w : Text} (h : Spells p w) (tree : Tree) :
    parse (p ++ ['\\']) ≠ .ok tree := by
  intro hparse
  obtain ⟨s, r, _, hsteps, -⟩ := parse_ok hparse
  obtain ⟨parts, r', -, hr', hsteps'⟩ :=
    ParseState.repeatWhile_step_spells h (.start .origin) (ahead_ofText (p ++ ['\\']))
  rw [hsteps', Reader.repeatWhile] at hsteps
  split at hsteps
  · cases hsteps
  · next hstep => exact ParseState.step_backslash hr'.skipping hr'.rest _ hstep
  · next hstep => exact ParseState.step_backslash hr'.skipping hr'.rest _ hstep

theorem Tree.Names.tooDeep? {tree : Tree} {c : Char} (h : tree.Names c) (depth : Nat) :
    tree.tooDeep? depth = none := by
  obtain ⟨region, rfl⟩ := h
  rw [Tree.tooDeep?]
  all_goals exact nofun

/-- Characters side by side are not nested too deep. -/
theorem checkDepth_ofParts {region : Region} {parts : List Tree} {w : Text}
    (h : List.Forall₂ Tree.Names parts w) : checkDepth (.ofParts region parts) = .ok () := by
  have hall : ∀ {parts : List Tree} {w : Text}, List.Forall₂ Tree.Names parts w →
      Tree.anyTooDeep? 1 parts = none := by
    intro parts w h
    induction h with
    | nil => rw [Tree.anyTooDeep?]
    | cons hname _ ih =>
        rw [Tree.anyTooDeep?, hname.tooDeep?, ih]
        rfl
  have hnone : (Tree.ofParts region parts).tooDeep? 0 = none := by
    cases h with
    | nil =>
        change (Tree.empty region).tooDeep? 0 = none
        rw [Tree.tooDeep?]
        all_goals exact nofun
    | cons hname hrest =>
        cases hrest with
        | nil => exact hname.tooDeep? 0
        | cons hname' hrest' =>
            change (Tree.concat region _).tooDeep? 0 = none
            rw [Tree.tooDeep?]
            exact hall (.cons hname (.cons hname' hrest'))
  rw [checkDepth, hnone]

end RegexExplainer.Pattern
