import RegexExplainer.Pattern.Parse
import RegexExplainer.Proofs.Pattern.Reader
import RegexExplainer.Proofs.Token.Literal

/- How a pattern of literal tokens is parsed. A character stands for itself, unless it is an opening
brace: that begins the counts of a repetition, or the pattern is malformed. -/
namespace RegexExplainer.Pattern

open Lexeme (Literals isOrdinary)

namespace ParseState

theorem step_nil {s : ParseState} {r : Reading} (hskip : r.skipping = false) (hrest : r.rest = []) :
    s.step r = .ok (none, r) := by
  unfold step
  rw [Reader.bind_of_ok (Reader.skip_eq hskip), Reader.bind_of_ok (Reader.peek?_eq r), hrest]
  rfl

theorem step_ordinary {s : ParseState} {r : Reading} {c : Char} {rest : Text}
    (hskip : r.skipping = false) (hrest : r.rest = c :: rest) (hc : isOrdinary c = true) :
    s.step r = .ok (some (s.push (.atom (.literal ⟨r.ahead, c, false⟩))), r.bump) := by
  have hatom : s.atom c r = .ok (s.push (.atom (.literal ⟨r.ahead, c, false⟩)), r.bump) := by
    unfold atom
    rw [Reader.bind_of_ok (Reader.ahead_eq r), Reader.bind_of_ok (Reader.bump_eq r)]
    split
    · exact absurd hc (by decide)
    · exact absurd hc (by decide)
    · exact absurd hc (by decide)
    · rfl
  unfold step
  rw [Reader.bind_of_ok (Reader.skip_eq hskip), Reader.bind_of_ok (Reader.peek?_eq r), hrest]
  simp only [List.head?_cons]
  split
  all_goals first
    | exact absurd hc (by decide)
    | exact Reader.map_of_ok hatom

/-- A backslash that ends the pattern is no escape. -/
theorem step_backslash {s : ParseState} {r : Reading} (hskip : r.skipping = false)
    (hrest : r.rest = ['\\']) (result : Option ParseState × Reading) :
    s.step r ≠ .ok result := by
  intro h
  unfold step at h
  rw [Reader.bind_of_ok (Reader.skip_eq hskip), Reader.bind_of_ok (Reader.peek?_eq r), hrest] at h
  obtain ⟨s', hs, -⟩ := Reader.map_ok h
  obtain ⟨a, r', ha, -⟩ := Reader.bind_ok hs
  unfold Reader.escape at ha
  rw [Reader.bind_of_ok (Reader.here_eq r), Reader.bind_of_ok (Reader.bump_eq r),
    Reader.bind_of_ok (Reader.peek?_eq r.bump)] at ha
  have hbump : r.bump.rest = [] := by
    unfold Reading.bump
    rw [hrest]
  rw [hbump] at ha
  obtain ⟨region, r'', -, hfail⟩ := Reader.bind_ok ha
  cases hfail

/-- An opening brace makes a repetition of the last part. -/
theorem step_brace {s s' : ParseState} {r r' : Reading} {rest : Text}
    (hskip : r.skipping = false) (hrest : r.rest = '\x7b' :: rest)
    (h : s.step r = .ok (some s', r')) :
    Reader.Advances r r' ∧ ∃ last before region least most greedy,
      s.level.parts = last :: before ∧
        s' = { s with level := { s.level with
          parts := .repetition region least most greedy last :: before } } := by
  unfold step at h
  rw [Reader.bind_of_ok (Reader.skip_eq hskip), Reader.bind_of_ok (Reader.peek?_eq r), hrest] at h
  obtain ⟨s₁, hs, hsome⟩ := Reader.map_ok h
  cases hsome
  obtain ⟨parts, r₁, hparts, hpure⟩ := Reader.bind_ok hs
  cases hpure
  obtain ⟨hadvances, last, before, region, least, most, greedy, hold, rfl⟩ :=
    Reader.repetition_ok hparts
  exact ⟨hadvances, last, before, region, least, most, greedy, hold, rfl⟩

/-- With no group and one branch open, the tree of a pattern is that of the parts read. -/
theorem finish_ok {s : ParseState} {r r' : Reading} {tree : Tree} (hgroups : s.groups = [])
    (hbranches : s.level.branches = []) (h : s.finish r = .ok (tree, r')) :
    ∃ region, tree = .ofParts region s.level.parts.reverse := by
  unfold finish at h
  rw [hgroups] at h
  obtain ⟨stop, r₁, -, hpure⟩ := Reader.bind_ok h
  cases hpure
  refine ⟨⟨s.level.branchStart, stop⟩, ?_⟩
  rw [Level.finish, hbranches]
  rfl

end ParseState

/-- A parsed pattern is what the steps from its start leave. -/
theorem parse_ok {t : Text} {tree : Tree} (h : parse t = .ok tree) :
    ∃ s r r', Reader.repeatWhile ParseState.step (.start .origin) (.ofText t) = .ok (s, r) ∧
      s.finish r = .ok (tree, r') := by
  obtain ⟨⟨s, r⟩, hsteps, hrest⟩ := ok_of_bind_ok h
  obtain ⟨⟨tree', r'⟩, hfinish, hpure⟩ := ok_of_bind_ok hrest
  cases hpure
  exact ⟨s, r, r', hsteps, hfinish⟩

/-- A tree of literals other than the opening brace, and of repetitions of such trees. -/
inductive Tree.Repeats : Tree → Prop
  | literal {region : Region} {c : Char} : c ≠ '\x7b' → Repeats (.atom (.literal ⟨region, c, false⟩))
  | repetition {region : Region} {least : Nat} {most : Option Nat} {greedy : Bool} {sub : Tree} :
      Repeats sub → Repeats (.repetition region least most greedy sub)

/-- What is read of a pattern of literal tokens: no part is an opening brace. -/
structure Counted (t : Text) (s : ParseState) (r : Reading) : Prop where
  groups : s.groups = []
  branches : s.level.branches = []
  skipping : r.skipping = false
  rest : r.rest <:+ t
  parts : ∀ part ∈ s.level.parts, part.Repeats

theorem counted_start (t : Text) : Counted t (.start .origin) (.ofText t) :=
  ⟨rfl, rfl, rfl, List.suffix_refl t, fun _ h => absurd h List.not_mem_nil⟩

theorem Counted.step {t : Text} {s s' : ParseState} {r r' : Reading} (h : Counted t s r)
    (hliterals : Literals t) (hnext : s.step r = .ok (some s', r')) : Counted t s' r' := by
  obtain ⟨before, ht⟩ := h.rest
  have hrest : Literals r.rest := Literals.of_append (ht.symm ▸ hliterals)
  generalize hr : r.rest = rest at hrest
  cases hrest with
  | nil =>
      rw [ParseState.step_nil h.skipping hr] at hnext
      cases hnext
  | backslash => exact absurd hnext (ParseState.step_backslash h.skipping hr _)
  | @cons c rest hc hrest =>
      rcases hc with hc | rfl
      · rw [ParseState.step_ordinary h.skipping hr hc] at hnext
        cases hnext
        have hadvances := Reader.advances_bump r
        refine ⟨h.groups, h.branches, hadvances.skipping.trans h.skipping,
          hadvances.rest.trans h.rest, ?_⟩
        intro part hpart
        rcases List.mem_cons.mp hpart with rfl | hpart
        · exact .literal fun heq => absurd (heq ▸ hc) (by decide)
        · exact h.parts part hpart
      · obtain ⟨hadvances, last, rest', region, least, most, greedy, hold, rfl⟩ :=
          ParseState.step_brace h.skipping hr hnext
        refine ⟨h.groups, h.branches, hadvances.skipping.trans h.skipping,
          hadvances.rest.trans h.rest, ?_⟩
        have hparts := h.parts
        rw [hold] at hparts
        intro part hpart
        rcases List.mem_cons.mp hpart with rfl | hpart
        · exact .repetition (hparts last List.mem_cons_self)
        · exact hparts part (List.mem_cons_of_mem last hpart)

/-- A pattern of literal tokens is parsed into literals, none an opening brace, and repetitions. -/
theorem parse_repeats {t : Text} {tree : Tree} (hliterals : Literals t) (h : parse t = .ok tree) :
    ∃ region parts, tree = .ofParts region parts ∧ ∀ part ∈ parts, part.Repeats := by
  obtain ⟨s, r, r', hsteps, hfinish⟩ := parse_ok h
  have hcounted : ∃ last, Counted t s last := by
    rcases Reader.repeatWhile_ok (fun hs hnext => Counted.step hs hliterals hnext)
      (counted_start t) hsteps with ⟨last, hcounted, -⟩ | ⟨s₀, last, hcounted, hlast, -⟩
    · exact ⟨last, hcounted⟩
    · exact ⟨r, hcounted.step hliterals hlast⟩
  obtain ⟨last, hcounted⟩ := hcounted
  obtain ⟨region, htree⟩ := ParseState.finish_ok hcounted.groups hcounted.branches hfinish
  refine ⟨region, s.level.parts.reverse, htree, ?_⟩
  intro part hpart
  exact hcounted.parts part (List.mem_reverse.mp hpart)

end RegexExplainer.Pattern
