import RegexExplainer.Proofs.Highlight.Runs

/- Which bytes of a text are highlighted. Each of them lies in a span, and when the spans are in order of
their starts, with no end inside a character, each byte that lies in one is highlighted. -/
namespace RegexExplainer

namespace Span

/-- A byte lies in one of some spans. -/
def Cover (spans : List Span) (i : Nat) : Prop := ∃ s ∈ spans, s.start ≤ i ∧ i < s.stop

instance (spans : List Span) (i : Nat) : Decidable (Cover spans i) :=
  inferInstanceAs (Decidable (∃ s ∈ spans, s.start ≤ i ∧ i < s.stop))

theorem cover_cons_iff {s : Span} {spans : List Span} {i : Nat} :
    Cover (s :: spans) i ↔ (s.start ≤ i ∧ i < s.stop) ∨ Cover spans i :=
  List.exists_mem_cons_iff _ s spans

/-- Spans in order of their starts. They may overlap, be empty or inverted, and go past the end of
the content, but within it each begins and ends between characters. -/
structure Ascending (content : Text) (spans : List Span) : Prop where
  pairwise : spans.Pairwise fun s t => s.start ≤ t.start
  isCut_start : ∀ s ∈ spans, s.start ≤ content.size → content.IsCut s.start
  isCut_stop : ∀ s ∈ spans, s.stop ≤ content.size → content.IsCut s.stop

namespace Ascending

variable {content : Text} {cursor : Nat} {s : Span} {spans : List Span}

theorem tail (h : Ascending content (s :: spans)) : Ascending content spans where
  pairwise := (List.pairwise_cons.mp h.pairwise).2
  isCut_start t ht := h.isCut_start t (List.mem_cons_of_mem s ht)
  isCut_stop t ht := h.isCut_stop t (List.mem_cons_of_mem s ht)

/-- No byte before the first span lies in any. -/
theorem start_le (h : Ascending content (s :: spans)) {i : Nat} (hi : Cover (s :: spans) i) :
    s.start ≤ i := by
  rcases cover_cons_iff.mp hi with ⟨hstart, -⟩ | ⟨t, ht, hstart, -⟩
  · exact hstart
  · exact Nat.le_trans ((List.pairwise_cons.mp h.pairwise).1 t ht) hstart

theorem isCut_max (h : Ascending content (s :: spans)) (hcursor : content.IsCut cursor)
    (hle : max s.start cursor ≤ content.size) : content.IsCut (max s.start cursor) := by
  rcases Nat.le_total s.start cursor with hs | hs
  · rwa [Nat.max_eq_right hs]
  · rw [Nat.max_eq_left hs] at hle ⊢
    exact h.isCut_start s List.mem_cons_self hle

theorem isCut_min (h : Ascending content (s :: spans)) :
    content.IsCut (min s.stop content.size) := by
  rcases Nat.le_total s.stop content.size with hs | hs
  · rw [Nat.min_eq_left hs]
    exact h.isCut_stop s List.mem_cons_self hs
  · rw [Nat.min_eq_right hs]
    exact content.isCut_size

/-- A span is not passed over when something of it is left. -/
theorem markedFrom_cons (h : Ascending content (s :: spans)) (hcursor : content.IsCut cursor)
    (hlt : max s.start cursor < min s.stop content.size) :
    Run.markedFrom cursor (runsFrom content cursor (s :: spans)) =
      ⟨max s.start cursor, min s.stop content.size⟩ ::
        Run.markedFrom (min s.stop content.size)
          (runsFrom content (min s.stop content.size) spans) := by
  have hstart := h.isCut_max hcursor (Nat.le_of_lt (Nat.lt_of_lt_of_le hlt (Nat.min_le_right _ _)))
  obtain ⟨before, hbefore, -⟩ := hcursor.exists_slice? hstart (Nat.le_max_right _ _)
  obtain ⟨hit, hhit, -⟩ := hstart.exists_slice? h.isCut_min (Nat.le_of_lt hlt)
  exact markedFrom_runsFrom_of_slices hlt hbefore hhit

end Ascending

end Span

theorem cover_of_cover_markedFrom {content : Text} {cursor i : Nat} {spans : List Span}
    (h : Span.Cover (Run.markedFrom cursor (runsFrom content cursor spans)) i) :
    Span.Cover spans i := by
  induction spans generalizing cursor with
  | nil =>
      rw [runsFrom, Run.markedFrom_gap] at h
      obtain ⟨_, hmem, -⟩ := h
      cases hmem
  | cons s spans ih =>
      refine Span.cover_cons_iff.mpr ?_
      rcases markedFrom_runsFrom_cons content cursor s spans with hskip | ⟨-, hmarked⟩
      · rw [hskip] at h
        exact .inr (ih h)
      · rw [hmarked] at h
        rcases Span.cover_cons_iff.mp h with ⟨hstart, hstop⟩ | hlater
        · exact .inl ⟨(Nat.max_le.mp hstart).1, (Nat.lt_min.mp hstop).1⟩
        · exact .inr (ih hlater)

/-- From the cursor on, each byte of the content that lies in a span is highlighted. -/
theorem Span.Ascending.cover_markedFrom {content : Text} {cursor i : Nat} {spans : List Span}
    (h : Ascending content spans) (hcursor : content.IsCut cursor) (hle : cursor ≤ i)
    (hi : i < content.size) (hcover : Cover spans i) :
    Cover (Run.markedFrom cursor (runsFrom content cursor spans)) i := by
  induction spans generalizing cursor with
  | nil =>
      obtain ⟨_, hmem, -⟩ := hcover
      cases hmem
  | cons s spans ih =>
      have hfirst := h.start_le hcover
      by_cases hempty : min s.stop content.size ≤ max s.start cursor
      · rw [runsFrom_of_le hempty]
        exact ih h.tail hcursor hle ((cover_cons_iff.mp hcover).resolve_left (by omega))
      · rw [h.markedFrom_cons hcursor (Nat.not_le.mp hempty)]
        refine cover_cons_iff.mpr ?_
        -- no later span begins before this one, so none reaches into the gap that it leaves
        by_cases hpast : min s.stop content.size ≤ i
        · exact .inr (ih h.tail h.isCut_min hpast
            ((cover_cons_iff.mp hcover).resolve_left (by omega)))
        · exact .inl ⟨Nat.max_le.mpr ⟨hfirst, hle⟩, Nat.not_le.mp hpast⟩

/-- No byte is highlighted that lies in no span. When the spans are in order of their starts and have
their ends between characters, no byte of the content that lies in one is left out. -/
theorem cover_markedFrom_highlight (content : Text) (spans : List Span) :
    (∀ i, Span.Cover (Run.markedFrom 0 (highlight content spans)) i → Span.Cover spans i) ∧
      (Span.Ascending content spans → ∀ i < content.size, Span.Cover spans i →
        Span.Cover (Run.markedFrom 0 (highlight content spans)) i) := by
  rw [markedFrom_highlight_eq]
  constructor
  · intro i hi
    exact cover_of_cover_markedFrom hi
  · intro h i hi hcover
    exact h.cover_markedFrom (Text.isCut_zero content) (Nat.zero_le i) hi hcover

/-- The second span lies within the first, the third overlaps it, the fourth ends before it begins, and
the last goes past the end of a text like `éabcd`. -/
def overlapping : List Span :=
  [⟨0, 3⟩, ⟨0, 2⟩, ⟨2, 4⟩, ⟨4, 3⟩, ⟨5, 18446744073709551615⟩]

theorem ascending_overlapping : Span.Ascending ['é', 'a', 'b', 'c', 'd'] overlapping where
  pairwise := by decide
  isCut_start := by decide
  isCut_stop := by decide

theorem cover_markedFrom_highlight_overlapping :
    Span.Ascending ['é', 'a', 'b', 'c', 'd'] overlapping ∧ Span.Cover overlapping 3 ∧
      Span.Cover (Run.markedFrom 0 (highlight ['é', 'a', 'b', 'c', 'd'] overlapping)) 3 := by
  have hcover : Span.Cover overlapping 3 := by decide
  exact ⟨ascending_overlapping, hcover,
    (cover_markedFrom_highlight _ _).2 ascending_overlapping 3 (by decide) hcover⟩

end RegexExplainer
