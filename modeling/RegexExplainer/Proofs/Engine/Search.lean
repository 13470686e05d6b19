import Mathlib.Data.List.Chain
import RegexExplainer.Evaluation
import RegexExplainer.Proofs.Highlight.Runs

/- What is assumed of an engine that finds matches: that its two ways to report them agree, and that
it searches again and again for the match that starts first. From the latter it follows that the
matches come in order, and that each begins and ends later than the one before it. -/
namespace RegexExplainer

section Agreement

variable [Engine]

/-- Both ways to report matches report the same ones, and with each match all groups. -/
structure Engine.Agrees : Prop where
  /-- The matches with what their groups captured lie where those without it do. -/
  span_captures : ∀ (re : Engine.Compiled) (t : Text),
    (Engine.captures re t).map Match.span = Engine.find re t
  /-- The number of groups depends on the compiled pattern alone. -/
  length_groups : ∀ (re : Engine.Compiled) (t : Text), ∀ m ∈ Engine.captures re t,
    m.groups.length = Engine.groupCount re

/-- Besides, the matches come in order, none overlaps the one before, and each lies between
characters. -/
structure Engine.AgreesInOrder : Prop extends Engine.Agrees where
  orderedFrom_find : ∀ (re : Engine.Compiled) (t : Text), Span.OrderedFrom t 0 (Engine.find re t)

end Agreement

namespace Text

/-- The cut one character after another cut. -/
def cutAfter? (t : Text) (n : Nat) : Option Nat :=
  (t.from? n).bind fun rest => rest.head?.map fun c => n + c.utf8Size

theorem cutAfter?_append (before : Text) (c : Char) (rest : Text) :
    cutAfter? (before ++ c :: rest) (size before) = some (size before + c.utf8Size) := by
  rw [cutAfter?, from?_append]
  rfl

theorem cutAfter?_eq_some {t : Text} {n m : Nat} (h : t.cutAfter? n = some m) :
    t.IsCut m ∧ n < m := by
  obtain ⟨rest, hrest, h⟩ := Option.bind_eq_some_iff.mp h
  obtain ⟨c, hc, rfl⟩ := Option.map_eq_some_iff.mp h
  obtain ⟨before, rfl, rfl⟩ := from?_eq_some_iff.mp hrest
  obtain ⟨rest, rfl⟩ := List.head?_eq_some_iff.mp hc
  have hpos := c.utf8Size_pos
  exact ⟨⟨before ++ [c], rest, by simp, by simp⟩, by omega⟩

end Text

/-- A search of a text from an offset on, for the match that starts first. Which match that is
depends on the place where it starts: a search that begins between there and the first offset finds
it again. -/
structure LeftmostFirst (t : Text) (search : Nat → Option Span) : Prop where
  le_start : ∀ {n s}, t.IsCut n → search n = some s → n ≤ s.start
  start_le_stop : ∀ {n s}, t.IsCut n → search n = some s → s.start ≤ s.stop
  isCut : ∀ {n s}, t.IsCut n → search n = some s → t.IsCut s.start ∧ t.IsCut s.stop
  again : ∀ {n n' s}, t.IsCut n → search n = some s → t.IsCut n' → n ≤ n' → n' ≤ s.start →
    search n' = some s

namespace Span

/-- The match after one that ends at `last`, or the first one. An empty match right there does not
count, and the search goes on one character later. -/
def next? (t : Text) (search : Nat → Option Span) (last : Option Nat) : Option Span :=
  (search (last.getD 0)).bind fun s =>
    if last = some s.stop then (t.cutAfter? s.stop).bind search else some s

/-- The spans are what is found after `last`, one after the other, until nothing is. -/
def Iterates (t : Text) (search : Nat → Option Span) : Option Nat → List Span → Prop
  | last, [] => next? t search last = none
  | last, s :: spans => next? t search last = some s ∧ Iterates t search (some s.stop) spans

/-- The second span lies after the first, and neither begins nor ends where the first does. -/
structure Precedes (s s' : Span) : Prop where
  stop_le_start : s.stop ≤ s'.start
  start_lt_start : s.start < s'.start
  stop_lt_stop : s.stop < s'.stop

instance : Trans Precedes Precedes Precedes where
  trans h h' := ⟨Nat.le_trans (Nat.le_of_lt h.stop_lt_stop) h'.stop_le_start,
    Nat.lt_trans h.start_lt_start h'.start_lt_start, Nat.lt_trans h.stop_lt_stop h'.stop_lt_stop⟩

end Span

/-- The engine finds its matches by searching from where the last match ended. -/
structure Engine.Searches [Engine] (search : Engine.Compiled → Text → Nat → Option Span) : Prop where
  leftmostFirst : ∀ re t, LeftmostFirst t (search re t)
  iterates : ∀ re t, Span.Iterates t (search re t) none (Engine.find re t)

namespace LeftmostFirst

variable {t : Text} {search : Nat → Option Span} {s s' : Span}

/-- A search found the span, from wherever it began. -/
def Finds (t : Text) (search : Nat → Option Span) (s : Span) : Prop :=
  ∃ n, t.IsCut n ∧ search n = some s

theorem search_start (h : LeftmostFirst t search) (hs : Finds t search s) :
    search s.start = some s := by
  obtain ⟨n, hn, hsearch⟩ := hs
  exact h.again hn hsearch (h.isCut hn hsearch).1 (h.le_start hn hsearch) (Nat.le_refl _)

/-- The step: what is found next is found by a search, after the last match, and ends later. -/
theorem finds_next? (h : LeftmostFirst t search) {last : Option Nat}
    (hnext : Span.next? t search last = some s) (hlast : t.IsCut (last.getD 0)) :
    Finds t search s ∧ last.getD 0 ≤ s.start ∧ ∀ stop ∈ last, stop < s.stop := by
  obtain ⟨s₀, hs₀, htake⟩ := Option.bind_eq_some_iff.mp hnext
  have hle := h.le_start hlast hs₀
  have hle' := h.start_le_stop hlast hs₀
  split at htake
  · next hempty =>
      subst hempty
      obtain ⟨n, hn, hsearch⟩ := Option.bind_eq_some_iff.mp htake
      obtain ⟨hcut, hlt⟩ := Text.cutAfter?_eq_some hn
      have hstart := h.le_start hcut hsearch
      have hend := h.start_le_stop hcut hsearch
      refine ⟨⟨n, hcut, hsearch⟩, Nat.le_trans (Nat.le_of_lt hlt) hstart, ?_⟩
      rintro stop ⟨⟩
      omega
  · next hne =>
      obtain rfl := Option.some.inj htake
      refine ⟨⟨last.getD 0, hlast, hs₀⟩, hle, ?_⟩
      rintro stop rfl
      have hne' : stop ≠ s₀.stop := fun heq => hne (congrArg some heq)
      have hle'' : stop ≤ s₀.start := hle
      omega

/-- The next match starts later, also after an empty one: that would be found again where it is, so
the search went on from the next character. -/
theorem precedes_next? (h : LeftmostFirst t search) (hs : Finds t search s)
    (hnext : Span.next? t search (some s.stop) = some s') : s.Precedes s' := by
  have hagain := h.search_start hs
  obtain ⟨n, hn, hsearch⟩ := hs
  obtain ⟨-, hle, hlt⟩ := h.finds_next? hnext (h.isCut hn hsearch).2
  refine ⟨hle, ?_, hlt s.stop rfl⟩
  rcases Nat.lt_or_eq_of_le (h.start_le_stop hn hsearch) with hnonempty | hempty
  · exact Nat.lt_of_lt_of_le hnonempty hle
  · rw [hempty] at hagain
    simp only [Span.next?, Option.getD_some, hagain, Option.bind_some, if_true] at hnext
    obtain ⟨m, hm, hsearch'⟩ := Option.bind_eq_some_iff.mp hnext
    obtain ⟨hcut, hafter⟩ := Text.cutAfter?_eq_some hm
    have hstart := h.le_start hcut hsearch'
    omega

theorem orderedFrom_of_iterates (h : LeftmostFirst t search) {last : Option Nat}
    {spans : List Span} (hspans : Span.Iterates t search last spans)
    (hlast : t.IsCut (last.getD 0)) :
    Span.OrderedFrom t (last.getD 0) spans := by
  induction spans generalizing last with
  | nil => exact .nil
  | cons s spans ih =>
      obtain ⟨hnext, hrest⟩ := hspans
      obtain ⟨⟨n, hn, hsearch⟩, hle, -⟩ := h.finds_next? hnext hlast
      obtain ⟨hcut, hcut'⟩ := h.isCut hn hsearch
      exact .cons hle (h.start_le_stop hn hsearch) hcut hcut' (ih hrest hcut')

theorem isChain_of_iterates (h : LeftmostFirst t search) {spans : List Span}
    (hs : Finds t search s) (hspans : Span.Iterates t search (some s.stop) spans) :
    (s :: spans).IsChain Span.Precedes := by
  induction spans generalizing s with
  | nil => exact .singleton s
  | cons s' spans ih =>
      obtain ⟨hnext, hrest⟩ := hspans
      have hprecedes := h.precedes_next? hs hnext
      obtain ⟨n, hn, hsearch⟩ := hs
      obtain ⟨hs', -⟩ := h.finds_next? hnext (h.isCut hn hsearch).2
      exact .cons_cons hprecedes (ih hs' hrest)

end LeftmostFirst

namespace Engine.Searches

variable [Engine] {search : Engine.Compiled → Text → Nat → Option Span}

theorem orderedFrom_find (h : Searches search) (re : Engine.Compiled) (t : Text) :
    Span.OrderedFrom t 0 (Engine.find re t) :=
  (h.leftmostFirst re t).orderedFrom_of_iterates (h.iterates re t) (Text.isCut_zero t)

theorem pairwise_find (h : Searches search) (re : Engine.Compiled) (t : Text) :
    (Engine.find re t).Pairwise Span.Precedes := by
  have hfirst := h.leftmostFirst re t
  have hspans := h.iterates re t
  cases hfind : Engine.find re t with
  | nil => exact .nil
  | cons s spans =>
      rw [hfind] at hspans
      obtain ⟨hnext, hrest⟩ := hspans
      obtain ⟨hfound, -⟩ := hfirst.finds_next? hnext (Text.isCut_zero t)
      exact (hfirst.isChain_of_iterates hfound hrest).pairwise

end Engine.Searches

end RegexExplainer
