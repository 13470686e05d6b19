import RegexExplainer.Proofs.Highlight.Normal

/- Highlighting as a normal form of spans. Where the highlighted runs lie are spans that neither
overlap nor cut a character, and highlighting by these gives the same runs. -/

namespace RegexExplainer

namespace Span

/-- Stretches of whole characters of a content, none empty, each after the one before it. -/
structure Disjoint (content : Text) (spans : List Span) : Prop where
  pairwise : spans.Pairwise fun s t => s.stop ≤ t.start
  start_lt_stop : ∀ s ∈ spans, s.start < s.stop
  stop_le_size : ∀ s ∈ spans, s.stop ≤ content.size
  isCut : ∀ s ∈ spans, content.IsCut s.start ∧ content.IsCut s.stop

theorem OrderedFrom.le_start {content : Text} {cursor : Nat} {spans : List Span}
    (h : OrderedFrom content cursor spans) : ∀ s ∈ spans, cursor ≤ s.start := by
  induction h with
  | nil => exact nofun
  | cons hstart hstop hcut hcut' htail ih =>
      refine List.forall_mem_cons.mpr ⟨hstart, ?_⟩
      intro t ht
      exact Nat.le_trans hstart (Nat.le_trans hstop (ih t ht))

theorem OrderedFrom.pairwise {content : Text} {cursor : Nat} {spans : List Span}
    (h : OrderedFrom content cursor spans) : spans.Pairwise fun s t => s.stop ≤ t.start := by
  induction h with
  | nil => exact .nil
  | cons hstart hstop hcut hcut' htail ih => exact .cons htail.le_start ih

theorem OrderedFrom.disjoint {content : Text} {cursor : Nat} {spans : List Span}
    (h : OrderedFrom content cursor spans) (hlt : ∀ s ∈ spans, s.start < s.stop) :
    Disjoint content spans where
  pairwise := h.pairwise
  start_lt_stop := hlt
  stop_le_size s hs := (h.isCut s hs).2.le_size
  isCut := h.isCut

end Span

namespace Run

theorem orderedFrom_markedFrom {content before : Text} {runs : List Run}
    (h : content = before ++ runs.flatMap text) :
    Span.OrderedFrom content before.size (markedFrom before.size runs) := by
  induction runs generalizing before with
  | nil => exact .nil
  | cons r runs ih =>
      rw [List.flatMap_cons] at h
      have htail := ih (h.trans (List.append_assoc _ _ _).symm)
      have hstop : content.IsCut (before.size + r.text.size) :=
        ⟨before ++ r.text, runs.flatMap text, h.trans (List.append_assoc _ _ _).symm,
          (Text.size_append _ _).symm⟩
      rw [Text.size_append] at htail
      rw [markedFrom]
      split
      · exact .cons (Nat.le_refl _) (Nat.le_add_right _ _) ⟨before, _, h, rfl⟩ hstop htail
      · exact htail.mono (Nat.le_add_right _ _)

theorem start_lt_stop_of_mem_markedFrom {runs : List Run} (hne : ∀ r ∈ runs, r.text ≠ [])
    (offset : Nat) : ∀ s ∈ markedFrom offset runs, s.start < s.stop := by
  induction runs generalizing offset with
  | nil => exact nofun
  | cons r runs ih =>
      obtain ⟨hr, hruns⟩ := List.forall_mem_cons.mp hne
      rw [markedFrom]
      split
      · exact List.forall_mem_cons.mpr ⟨Nat.lt_add_of_pos_right (Text.size_pos hr), ih hruns _⟩
      · exact ih hruns _

theorem eq_plain {r : Run} (h : ¬ r.highlighted = true) : r = plain r.text := by
  rw [plain, ← eq_false_of_ne_true h]

theorem eq_marked {r : Run} (h : r.highlighted = true) : r = marked r.text := by
  rw [marked, ← h]

theorem gap_of_ne_nil {t : Text} (h : t ≠ []) : gap t = [plain t] := by
  rw [gap, if_neg (mt List.isEmpty_iff.mp h)]

end Run

/-- A span between characters, not behind the cursor, is highlighted as it is. -/
theorem runsFrom_marked {content before skipped hit rest : Text}
    (h : content = before ++ (skipped ++ (hit ++ rest))) (hne : hit ≠ []) (spans : List Span) :
    runsFrom content before.size
        (⟨before.size + skipped.size, before.size + skipped.size + hit.size⟩ :: spans) =
      Run.gap skipped ++
        .marked hit :: runsFrom content (before.size + skipped.size + hit.size) spans := by
  have hpos := Text.size_pos hne
  have hsize : content.size = before.size + (skipped.size + (hit.size + rest.size)) := by
    simp only [h, Text.size_append]
  have hmax : max (before.size + skipped.size) before.size = before.size + skipped.size :=
    Nat.max_eq_left (Nat.le_add_right _ _)
  have hmin : min (before.size + skipped.size + hit.size) content.size =
      before.size + skipped.size + hit.size := Nat.min_eq_left (by omega)
  have hbefore : content.slice? before.size (before.size + skipped.size) = some skipped := by
    rw [h, Text.slice?_append]
  have hhit : content.slice? (before.size + skipped.size)
      (before.size + skipped.size + hit.size) = some hit := by
    rw [h, ← List.append_assoc, ← Text.size_append, Text.slice?_append]
  have hlt : max (before.size + skipped.size) before.size <
      min (before.size + skipped.size + hit.size) content.size := by omega
  rw [runsFrom_of_slices hlt (by rw [hmax, hbefore]) (by rw [hmax, hmin, hhit]), hmin]

/-- Runs in normal form are cut off again where the highlighted ones lie. A plain run that was passed
is the gap before the next. -/
theorem runsFrom_markedFrom {content before skipped : Text} {runs : List Run}
    (h : content = before ++ (skipped ++ runs.flatMap Run.text)) (hchain : runs.IsChain Run.Apart)
    (hne : ∀ r ∈ runs, r.text ≠ [])
    (hskipped : skipped ≠ [] → ∀ r ∈ runs.head?, r.highlighted = true) :
    runsFrom content before.size (Run.markedFrom (before.size + skipped.size) runs) =
      Run.gap skipped ++ runs := by
  induction runs generalizing before skipped with
  | nil =>
      rw [List.flatMap_nil, List.append_nil] at h
      rw [h, Run.markedFrom, runsFrom, Text.from?_append, List.append_nil]
      rfl
  | cons r runs ih =>
      obtain ⟨hhead, htail⟩ := List.isChain_cons.mp hchain
      obtain ⟨hr, hruns⟩ := List.forall_mem_cons.mp hne
      rw [List.flatMap_cons] at h
      by_cases hmarked : r.highlighted = true
      · have hpast : content = (before ++ skipped ++ r.text) ++ ([] ++ runs.flatMap Run.text) := by
          rw [h, List.nil_append, List.append_assoc, List.append_assoc]
        have hcut := ih hpast htail hruns (fun hnil => absurd rfl hnil)
        simp only [Text.size_append, Text.size_nil, Nat.add_zero] at hcut
        rw [Run.markedFrom, if_pos hmarked, runsFrom_marked h hr, hcut, ← Run.eq_marked hmarked]
        rfl
      · have hnil : skipped = [] := by
          by_contra hs
          exact hmarked (hskipped hs r rfl)
        subst hnil
        have hcut := @ih before r.text h htail hruns fun _ r' hr' =>
          (hhead r' hr').resolve_left hmarked
        rw [Run.markedFrom, if_neg hmarked, Text.size_nil, Nat.add_zero, hcut, Run.gap_of_ne_nil hr,
          ← Run.eq_plain hmarked]
        rfl

theorem disjoint_markedFrom_highlight (content : Text) (spans : List Span) :
    Span.Disjoint content (Run.markedFrom 0 (highlight content spans)) := by
  rw [markedFrom_highlight_eq]
  have htext := flatMap_text_runsFrom (List.nil_append content).symm spans
  exact (@Run.orderedFrom_markedFrom content [] _ htext.symm).disjoint
    (Run.start_lt_stop_of_mem_markedFrom (fun _ => text_ne_nil_of_mem_runsFrom) 0)

/-- Where the highlighted runs lie are disjoint spans, and highlighting by them changes nothing. -/
theorem highlight_markedFrom (content : Text) (spans : List Span) :
    Span.Disjoint content (Run.markedFrom 0 (highlight content spans)) ∧
      highlight content (Run.markedFrom 0 (highlight content spans)) = highlight content spans := by
  refine ⟨disjoint_markedFrom_highlight content spans, ?_⟩
  by_cases hempty : content = []
  · subst hempty
    rw [highlight_of_nil, highlight_of_nil]
  · have htext := flatMap_text_highlight content spans
    rw [highlight_of_ne_nil hempty] at htext ⊢
    rw [highlight_of_ne_nil hempty]
    exact @runsFrom_markedFrom content [] [] _ htext.symm (isChain_runsFrom content 0 spans)
      (fun _ => text_ne_nil_of_mem_runsFrom) (fun hnil => absurd rfl hnil)

/-- The first span is inverted, the third begins inside the second and the last inside `é`. The runs that
are left touch, and stay two. -/
example :
    Run.markedFrom 0 (highlight ['a', 'b', 'c', 'é'] [⟨2, 1⟩, ⟨0, 2⟩, ⟨1, 3⟩, ⟨4, 5⟩]) =
      [⟨0, 2⟩, ⟨2, 3⟩] := by
  decide +kernel

end RegexExplainer
