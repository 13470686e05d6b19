import Mathlib
import RegexExplainer.Proofs.Evaluation.Matches
import RegexExplainer.Proofs.Regex.Search

/- The matches of an engine that searches on after each match: each begins and ends later than the one
before it, after an empty match as after any other. So a text has no more matches than places
between its characters. -/
namespace RegexExplainer

namespace Text

/-- Offsets that differ and are all cuts of a text are no more than the text has cuts. -/
theorem length_le_of_isCut {t : Text} {offsets : List Nat} (hnodup : offsets.Nodup)
    (hcut : ∀ n ∈ offsets, t.IsCut n) : offsets.length ≤ t.length + 1 := by
  have hsubset : offsets ⊆ t.inits.map size := by
    intro n hn
    obtain ⟨before, after, ht, rfl⟩ := hcut n hn
    exact List.mem_map.mpr ⟨before, (List.mem_inits before t).mpr ⟨after, ht.symm⟩, rfl⟩
  have hle := (hnodup.subperm hsubset).length_le
  simpa only [List.length_map, List.length_inits] using hle

end Text

/-- Spans from one cut of a text to another, each before the next. -/
structure Span.Advancing (content : Text) (spans : List Span) : Prop where
  start_le_stop : ∀ s ∈ spans, s.start ≤ s.stop
  stop_le_size : ∀ s ∈ spans, s.stop ≤ content.size
  isCut : ∀ s ∈ spans, content.IsCut s.start ∧ content.IsCut s.stop
  pairwise : spans.Pairwise Precedes
  length_le : spans.length ≤ content.length + 1

/-- The matches of a pattern that compiles, whatever the content. -/
theorem advancing_evaluate [Engine] {search : Engine.Compiled → Text → Nat → Option Span}
    (h : Engine.Searches search) {pattern : Text} {re : Engine.Compiled}
    (hre : Engine.compile pattern = .ok re) (content : Text) :
    ∃ e, evaluate pattern content = .ok e ∧ Span.Advancing content e.matched := by
  refine ⟨_, evaluate_of_compile hre content, ?_⟩
  have hordered := h.orderedFrom_find re content
  have hpairwise := h.pairwise_find re content
  have hcut := hordered.isCut
  refine ⟨hordered.start_le_stop, fun s hs => (hcut s hs).2.le_size, hcut, hpairwise, ?_⟩
  have hstarts : ((Engine.find re content).map Span.start).Pairwise (· < ·) :=
    List.pairwise_map.mpr (hpairwise.imp Span.Precedes.start_lt_start)
  have hcuts : ∀ n ∈ (Engine.find re content).map Span.start, content.IsCut n := by
    intro n hn
    obtain ⟨s, hs, rfl⟩ := List.mem_map.mp hn
    exact (hcut s hs).1
  have hlength := Text.length_le_of_isCut (hstarts.imp Nat.ne_of_lt) hcuts
  rwa [List.length_map] at hlength

/-- The pattern `a*`. It matches nothing before `é`, then `aa`, and nothing after `b`, but not a
second time between the last `a` and `b`. -/
def anyNumber : Text := ['a', '*']

theorem advancing_evaluate_anyNumber :
    (evaluate anyNumber ['é', 'a', 'a', 'b']).map Evaluation.matched =
        .ok [⟨0, 0⟩, ⟨2, 4⟩, ⟨5, 5⟩] ∧
      ∃ e, evaluate anyNumber ['é', 'a', 'a', 'b'] = .ok e ∧
        Span.Advancing ['é', 'a', 'a', 'b'] e.matched := by
  have hcompile : Regex.compile anyNumber =
      .ok (.ofExpression (.repetition 0 none true (.char .unicode (.singleton 'a')))) := by
    cbv
  exact ⟨by cbv, advancing_evaluate Regex.searches hcompile _⟩

end RegexExplainer
