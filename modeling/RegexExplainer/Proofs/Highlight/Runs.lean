import RegexExplainer.Session
import RegexExplainer.Proofs.Text.Cut

/- Runs make up the text that they were cut from, whatever the spans. For spans in order with ends
between characters, the highlighted runs lie where the spans lie that are not empty. -/
namespace RegexExplainer

namespace Run

/-- Where the highlighted ones among runs lie that stand side by side from byte `offset` on. -/
def markedFrom : Nat → List Run → List Span
  | _, [] => []
  | offset, r :: runs =>
    if r.highlighted then
      ⟨offset, offset + r.text.size⟩ :: markedFrom (offset + r.text.size) runs
    else markedFrom (offset + r.text.size) runs

@[simp] theorem flatMap_text_gap (t : Text) : (gap t).flatMap text = t := by
  unfold gap
  split
  · next h => rw [List.isEmpty_iff.mp h, List.flatMap_nil]
  · exact List.append_nil t

theorem markedFrom_gap (offset : Nat) (t : Text) : markedFrom offset (gap t) = [] := by
  unfold gap
  split
  · rfl
  · rfl

theorem markedFrom_gap_append (offset : Nat) (t : Text) (runs : List Run) :
    markedFrom offset (gap t ++ runs) = markedFrom (offset + t.size) runs := by
  unfold gap
  split
  · next h => rw [List.isEmpty_iff.mp h]; rfl
  · rfl

theorem markedFrom_marked_cons (offset : Nat) (t : Text) (runs : List Run) :
    markedFrom offset (marked t :: runs) =
      ⟨offset, offset + t.size⟩ :: markedFrom (offset + t.size) runs := rfl

theorem countP_highlighted (offset : Nat) (runs : List Run) :
    runs.countP (·.highlighted) = (markedFrom offset runs).length := by
  induction runs generalizing offset with
  | nil => rfl
  | cons r runs ih =>
      rw [markedFrom]
      by_cases hr : r.highlighted = true
      · rw [List.countP_cons_of_pos hr, if_pos hr, ih (offset + r.text.size), List.length_cons]
      · rw [List.countP_cons_of_neg hr, if_neg hr, ih (offset + r.text.size)]

/-- Each highlighted run has the text that lies where it lies. -/
theorem map_text_marked {content before : Text} {runs : List Run}
    (h : content = before ++ runs.flatMap text) :
    (runs.filter (·.highlighted)).map (fun r => some r.text) =
      (markedFrom before.size runs).map fun s => content.slice? s.start s.stop := by
  induction runs generalizing before with
  | nil => rfl
  | cons r runs ih =>
      rw [List.flatMap_cons] at h
      have htail := ih (h.trans (List.append_assoc _ _ _).symm)
      rw [Text.size_append] at htail
      have hslice : content.slice? before.size (before.size + r.text.size) = some r.text := by
        rw [h]
        exact Text.slice?_append before r.text _
      rw [markedFrom]
      by_cases hr : r.highlighted = true
      · rw [List.filter_cons_of_pos hr, List.map_cons, htail, if_pos hr, List.map_cons, hslice]
      · rw [List.filter_cons_of_neg hr, htail, if_neg hr]

end Run

theorem runsFrom_of_le {content : Text} {cursor : Nat} {s : Span} {spans : List Span}
    (h : min s.stop content.size ≤ max s.start cursor) :
    runsFrom content cursor (s :: spans) = runsFrom content cursor spans := by
  rw [runsFrom, if_pos h]

theorem runsFrom_of_slices {content : Text} {cursor : Nat} {s : Span} {spans : List Span}
    {before hit : Text} (h : max s.start cursor < min s.stop content.size)
    (hbefore : content.slice? cursor (max s.start cursor) = some before)
    (hhit : content.slice? (max s.start cursor) (min s.stop content.size) = some hit) :
    runsFrom content cursor (s :: spans) =
      Run.gap before ++ .marked hit :: runsFrom content (min s.stop content.size) spans := by
  rw [runsFrom, if_neg (Nat.not_le.mpr h), hbefore, hhit]

/-- A span is passed over, or it adds a gap and a highlighted run. -/
theorem runsFrom_cons (content : Text) (cursor : Nat) (s : Span) (spans : List Span) :
    runsFrom content cursor (s :: spans) = runsFrom content cursor spans ∨
      ∃ before hit, max s.start cursor < min s.stop content.size ∧
        content.slice? cursor (max s.start cursor) = some before ∧
        content.slice? (max s.start cursor) (min s.stop content.size) = some hit ∧
        runsFrom content cursor (s :: spans) =
          Run.gap before ++ .marked hit :: runsFrom content (min s.stop content.size) spans := by
  by_cases hle : min s.stop content.size ≤ max s.start cursor
  · exact .inl (runsFrom_of_le hle)
  · cases hbefore : content.slice? cursor (max s.start cursor) with
    | none => exact .inl (by rw [runsFrom, if_neg hle, hbefore])
    | some before =>
        cases hhit : content.slice? (max s.start cursor) (min s.stop content.size) with
        | none => exact .inl (by rw [runsFrom, if_neg hle, hbefore, hhit])
        | some hit =>
            have hlt := Nat.not_le.mp hle
            exact .inr ⟨before, hit, hlt, rfl, rfl, runsFrom_of_slices hlt hbefore hhit⟩

theorem markedFrom_runsFrom_of_slices {content : Text} {cursor : Nat} {s : Span}
    {spans : List Span} {before hit : Text} (h : max s.start cursor < min s.stop content.size)
    (hbefore : content.slice? cursor (max s.start cursor) = some before)
    (hhit : content.slice? (max s.start cursor) (min s.stop content.size) = some hit) :
    Run.markedFrom cursor (runsFrom content cursor (s :: spans)) =
      ⟨max s.start cursor, min s.stop content.size⟩ ::
        Run.markedFrom (min s.stop content.size)
          (runsFrom content (min s.stop content.size) spans) := by
  obtain ⟨_, _, -, -, hstart⟩ := Text.slice?_eq_some_iff.mp hbefore
  obtain ⟨_, _, -, -, hstop⟩ := Text.slice?_eq_some_iff.mp hhit
  rw [runsFrom_of_slices h hbefore hhit, Run.markedFrom_gap_append, ← hstart,
    Run.markedFrom_marked_cons, ← hstop]

/-- A span is passed over, or what lies in it from the cursor on is highlighted. -/
theorem markedFrom_runsFrom_cons (content : Text) (cursor : Nat) (s : Span) (spans : List Span) :
    Run.markedFrom cursor (runsFrom content cursor (s :: spans)) =
        Run.markedFrom cursor (runsFrom content cursor spans) ∨
      max s.start cursor < min s.stop content.size ∧
        Run.markedFrom cursor (runsFrom content cursor (s :: spans)) =
          ⟨max s.start cursor, min s.stop content.size⟩ ::
            Run.markedFrom (min s.stop content.size)
              (runsFrom content (min s.stop content.size) spans) := by
  rcases runsFrom_cons content cursor s spans with hskip | ⟨before, hit, hlt, hbefore, hhit, -⟩
  · exact .inl (congrArg _ hskip)
  · exact .inr ⟨hlt, markedFrom_runsFrom_of_slices hlt hbefore hhit⟩

theorem flatMap_text_runsFrom {content before rest : Text} (h : content = before ++ rest)
    (spans : List Span) : (runsFrom content before.size spans).flatMap Run.text = rest := by
  induction spans generalizing before rest with
  | nil =>
      rw [runsFrom, h, Text.from?_append]
      exact Run.flatMap_text_gap rest
  | cons s spans ih =>
      rcases runsFrom_cons content before.size s spans with
        hskip | ⟨gap, hit, -, hgap, hhit, hruns⟩
      · rw [hskip, ih h]
      · obtain ⟨rest, rfl, hstart⟩ := (Text.slice?_after_eq_some_iff h).mp hgap
        have hpast := h.trans (List.append_assoc before gap rest).symm
        rw [hstart, ← Text.size_append] at hhit
        obtain ⟨rest, rfl, hstop⟩ := (Text.slice?_after_eq_some_iff hpast).mp hhit
        have htail := ih (hpast.trans (List.append_assoc (before ++ gap) hit rest).symm)
        rw [Text.size_append _ hit, ← hstop] at htail
        rw [hruns, List.flatMap_append, Run.flatMap_text_gap, List.flatMap_cons, htail]
        rfl

theorem flatMap_text_highlight (content : Text) (spans : List Span) :
    (highlight content spans).flatMap Run.text = content := by
  unfold highlight
  split
  · exact List.append_nil content
  · exact flatMap_text_runsFrom (List.nil_append content).symm spans

theorem highlight_nil (content : Text) : highlight content [] = [.plain content] := by
  rw [highlight, runsFrom]
  cases content with
  | nil => rfl
  | cons c content => rfl

/-- The run that an empty text gets is not highlighted. -/
theorem markedFrom_highlight_eq (content : Text) (spans : List Span) :
    Run.markedFrom 0 (highlight content spans) = Run.markedFrom 0 (runsFrom content 0 spans) := by
  unfold highlight
  split
  · next h => rw [h]; rfl
  · rfl

/-- Spans in order from byte `cursor` on, none overlapping the one before, each from one cut of the
content to another. -/
inductive Span.OrderedFrom (content : Text) : Nat → List Span → Prop
  | nil {cursor : Nat} : OrderedFrom content cursor []
  | cons {cursor : Nat} {s : Span} {spans : List Span} : cursor ≤ s.start → s.start ≤ s.stop →
      content.IsCut s.start → content.IsCut s.stop → OrderedFrom content s.stop spans →
      OrderedFrom content cursor (s :: spans)

namespace Span.OrderedFrom

theorem mono {content : Text} {cursor cursor' : Nat} {spans : List Span}
    (h : OrderedFrom content cursor spans) (hle : cursor' ≤ cursor) :
    OrderedFrom content cursor' spans := by
  cases h with
  | nil => exact .nil
  | cons hstart hstop hcut hcut' htail => exact .cons (Nat.le_trans hle hstart) hstop hcut hcut' htail

theorem start_le_stop {content : Text} {cursor : Nat} {spans : List Span}
    (h : OrderedFrom content cursor spans) : ∀ s ∈ spans, s.start ≤ s.stop := by
  induction h with
  | nil => exact nofun
  | cons hstart hstop hcut hcut' htail ih => exact List.forall_mem_cons.mpr ⟨hstop, ih⟩

theorem isCut {content : Text} {cursor : Nat} {spans : List Span}
    (h : OrderedFrom content cursor spans) :
    ∀ s ∈ spans, content.IsCut s.start ∧ content.IsCut s.stop := by
  induction h with
  | nil => exact nofun
  | cons hstart hstop hcut hcut' htail ih => exact List.forall_mem_cons.mpr ⟨⟨hcut, hcut'⟩, ih⟩

/-- A span is either empty or starts before it ends. -/
theorem length_filter_add_countP {content : Text} {cursor : Nat} {spans : List Span}
    (h : OrderedFrom content cursor spans) :
    (spans.filter fun s => s.start < s.stop).length + spans.countP (fun s => s.start = s.stop) =
      spans.length := by
  have hempty : spans.countP (fun s => s.start = s.stop) =
      spans.countP fun s => ¬ decide (s.start < s.stop) = true := by
    refine List.countP_congr ?_
    intro s hs
    have hle := h.start_le_stop s hs
    simp only [decide_eq_true_eq]
    omega
  rw [hempty, ← List.countP_eq_length_filter]
  exact (List.length_eq_countP_add_countP _).symm

/-- Spans in order are highlighted as they are, the empty ones apart. -/
theorem markedFrom_runsFrom {content : Text} {cursor : Nat} {spans : List Span}
    (h : OrderedFrom content cursor spans) (hcursor : content.IsCut cursor) :
    Run.markedFrom cursor (runsFrom content cursor spans) =
      spans.filter fun s => s.start < s.stop := by
  induction spans generalizing cursor with
  | nil => exact Run.markedFrom_gap _ _
  | cons s spans ih =>
      cases h with
      | cons hstart hstop hcut hcut' htail =>
          have hmax : max s.start cursor = s.start := Nat.max_eq_left hstart
          have hmin : min s.stop content.size = s.stop := Nat.min_eq_left hcut'.le_size
          by_cases hlt : s.start < s.stop
          · obtain ⟨before, hbefore, -⟩ := hcursor.exists_slice? hcut hstart
            obtain ⟨hit, hhit, -⟩ := hcut.exists_slice? hcut' hstop
            rw [markedFrom_runsFrom_of_slices (by omega) (by rw [hmax, hbefore])
              (by rw [hmax, hmin, hhit]), hmax, hmin, ih htail hcut',
              List.filter_cons_of_pos (by simpa using hlt)]
          · -- the cursor stays, and what is in order from the end of the span on is so from there on
            rw [runsFrom_of_le (by omega), List.filter_cons_of_neg (by simpa using hlt)]
            exact ih (htail.mono (Nat.le_trans hstart hstop)) hcursor

theorem markedFrom_highlight {content : Text} {spans : List Span}
    (h : OrderedFrom content 0 spans) :
    Run.markedFrom 0 (highlight content spans) = spans.filter fun s => s.start < s.stop := by
  rw [markedFrom_highlight_eq, h.markedFrom_runsFrom (Text.isCut_zero content)]

/-- The highlighted texts are the slices at the spans that are not empty. -/
theorem map_text_highlight {content : Text} {spans : List Span} (h : OrderedFrom content 0 spans) :
    ((highlight content spans).filter (·.highlighted)).map (fun r => some r.text) =
      (spans.filter fun s => s.start < s.stop).map fun s => content.slice? s.start s.stop := by
  rw [← h.markedFrom_highlight]
  exact @Run.map_text_marked content [] (highlight content spans)
    (flatMap_text_highlight content spans).symm

end Span.OrderedFrom

end RegexExplainer
