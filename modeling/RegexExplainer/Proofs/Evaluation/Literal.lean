import Mathlib
import RegexExplainer.Proofs.Engine.Literal
import RegexExplainer.Proofs.Evaluation.Matches
import RegexExplainer.Proofs.Regex.Literal

/- What patterns match whose tokens are all explained as literal characters, and what quoted texts
match. -/
namespace RegexExplainer

open Text (isSpecial quote)

section Engine

variable [Engine] {search : Engine.Compiled → Text → Nat → Option Span}
  {admits : Text → Text → Nat → Nat → Prop}

/-- A pattern of literal tokens with an opening brace does not match the pattern's own text. -/
theorem Engine.ReservesSyntax.not_leftmost_self (h : Engine.ReservesSyntax search admits) {p : Text}
    {re : Engine.Compiled} (hliterals : Lexeme.Literals p) (hre : Engine.compile p = .ok re)
    (hbrace : '\x7b' ∈ p) : ¬ Text.Leftmost p p (Engine.find re p) := by
  intro hleftmost
  have hself := hleftmost.unique (Text.leftmost_self (List.ne_nil_of_mem hbrace))
  have hspans := h.iterates re p
  rw [hself] at hspans
  obtain ⟨s, hsearch, hnext⟩ := Option.bind_eq_some_iff.mp hspans.1
  obtain rfl : s = ⟨0, p.size⟩ := Option.some.inj hnext
  have hwhole : p.slice? 0 p.size = some p :=
    Text.slice?_eq_some_iff.mpr ⟨[], [], by simp, rfl, (Nat.zero_add _).symm⟩
  exact h.brace hliterals hre (Text.isCut_zero p) hsearch hwhole hbrace

/-- A pattern that compiles and whose tokens are all literal characters matches just its own
occurrences, in every content, exactly when it has no opening brace. -/
theorem leftmost_iff_of_literal_tokens (h : Engine.ReservesSyntax search admits) {p : Text}
    {re : Engine.Compiled} (hp : p ≠ []) (hre : Engine.compile p = .ok re)
    (hliteral : ∀ t ∈ annotate p, t.kind = .literal) :
    (∀ content, ∃ e, evaluate p content = .ok e ∧ Text.Leftmost p content e.matched) ↔
      '\x7b' ∉ p := by
  have hliterals := literals_of_annotate hliteral
  constructor
  · intro hall hbrace
    obtain ⟨e, he, hleftmost⟩ := hall p
    rw [evaluate_of_compile hre] at he
    cases he
    exact h.not_leftmost_self hliterals hre hbrace hleftmost
  · intro hbrace content
    rcases hliterals.ordinary_or_backslash hbrace with hordinary | ⟨w, hordinary, rfl⟩
    · exact ⟨_, evaluate_of_compile hre content,
        h.leftmost_find hp (spells_self hordinary) hre content⟩
    · exact absurd hre (h.backslash hordinary)

end Engine

/-- The pattern `a}`. -/
def closedBrace : Text := ['a', '\x7d']

/-- The pattern `a` with the count 2 between blanks in braces. -/
def spacedCount : Text := ['a', '\x7b', ' ', '2', ' ', '\x7d']

theorem literal_of_mem_spacedCount : ∀ t ∈ annotate spacedCount, t.kind = .literal := by
  have hall : (annotate spacedCount).all (fun t => t.kind = .literal) = true := by cbv
  simpa only [List.all_eq_true, decide_eq_true_eq] using hall

theorem leftmost_closedBrace_and_not_spacedCount :
    (∀ content, ∃ e, evaluate closedBrace content = .ok e ∧
      Text.Leftmost closedBrace content e.matched) ∧
    ¬ ∀ content, ∃ e, evaluate spacedCount content = .ok e ∧
      Text.Leftmost spacedCount content e.matched := by
  constructor
  · have hcompile : Regex.compile closedBrace = .ok (.ofExpression (.ofText closedBrace)) := by
      cbv
    have hliteral : ∀ t ∈ annotate closedBrace, t.kind = .literal := by
      have hall : (annotate closedBrace).all (fun t => t.kind = .literal) = true := by cbv
      simpa only [List.all_eq_true, decide_eq_true_eq] using hall
    exact (leftmost_iff_of_literal_tokens Regex.reservesSyntax (by decide) hcompile hliteral).mpr
      (by decide)
  · intro hall
    have hcompile : Regex.compile spacedCount =
        .ok (.ofExpression (.repetition 2 (some 2) true (.char .unicode (.singleton 'a')))) := by
      cbv
    have hiff := leftmost_iff_of_literal_tokens Regex.reservesSyntax (by decide) hcompile
      literal_of_mem_spacedCount
    exact absurd (hiff.mp hall) (by decide)

/-- Every token of the pattern is explained as a literal character, and yet it matches `aa`. -/
theorem not_leftmost_spacedCount :
    (∀ t ∈ annotate spacedCount, t.kind = .literal) ∧
      (evaluate spacedCount ['a', 'a']).map Evaluation.matched = .ok [⟨0, 2⟩] ∧
      ¬ Text.Leftmost spacedCount ['a', 'a'] [⟨0, 2⟩] := by
  refine ⟨literal_of_mem_spacedCount, by cbv, ?_⟩
  rintro ⟨⟨-, hat, -⟩, -⟩
  exact absurd (Text.OccursAt.size_le hat) (by decide)

/-- What it means for a pattern to stand for a text: each token is a character of the text, none
opens a group, and once compiled it matches the leftmost occurrences of the text that do not
overlap. -/
structure StandsFor [Engine] (pattern w : Text) : Prop where
  tokens : (annotate pattern).map (fun t => (t.text, t.kind, t.depth)) =
    w.map fun c => if isSpecial c then (['\\', c], .escape, 0) else ([c], .literal, 0)
  opensNone : hasCaptureGroups pattern = false
  leftmost : ∀ re, Engine.compile pattern = .ok re → ∀ content, ∃ e,
    evaluate pattern content = .ok e ∧ e.captures = [] ∧ Text.Leftmost w content e.matched

/-- A quoted text stands for itself. -/
theorem standsFor_quote [Engine] {search : Engine.Compiled → Text → Nat → Option Span}
    {admits : Text → Text → Nat → Nat → Prop} (h : Engine.MatchesLiterally search admits) {w : Text}
    (hw : w ≠ []) : StandsFor (quote w) w := by
  refine ⟨map_annotate_quote w, hasCaptureGroups_quote w, ?_⟩
  intro re hre content
  refine ⟨_, evaluate_of_compile hre content, ?_, h.leftmost_find hw (spells_quote w) hre content⟩
  rw [evaluateCompiled, hasCaptureGroups_quote]
  rfl

/-- The text `(?:é`. Unquoted it would begin a group that captures nothing. -/
def groupOpening : Text := ['(', '?', ':', 'é']

theorem standsFor_quote_groupOpening :
    groupOpening ≠ [] ∧ StandsFor (quote groupOpening) groupOpening ∧
      Regex.compile (quote groupOpening) = .ok (.ofExpression (.ofText groupOpening)) := by
  have hne : groupOpening ≠ [] := List.cons_ne_nil _ _
  refine ⟨hne, standsFor_quote Regex.matchesLiterally hne, ?_⟩
  exact compile_of_fits (spells_quote groupOpening) (by decide +kernel)

end RegexExplainer
