import Mathlib.Data.List.Chain
import RegexExplainer.Proofs.Highlight.Runs

/- Cutting a text into runs goes through whatever the spans, and the runs are in normal form: no plain
one could be joined to the next, and none could be left out. -/
namespace RegexExplainer

/-- The runs from byte `cursor` on, if the text after the last of them begins between characters. -/
def runsFrom? (content : Text) (cursor : Nat) : List Span → Option (List Run)
  | [] => (content.from? cursor).map Run.gap
  | s :: spans =>
    let start := max s.start cursor
    let stop := min s.stop content.size
    if stop ≤ start then runsFrom? content cursor spans
    else
      match content.slice? cursor start, content.slice? start stop with
      | some before, some hit =>
        (runsFrom? content stop spans).map fun runs => Run.gap before ++ .marked hit :: runs
      | _, _ => runsFrom? content cursor spans

/-- As `highlight`, but there is none when the text cannot be cut. -/
def highlight? (content : Text) : List Span → Option (List Run)
  | [] => some [.plain content]
  | s :: spans => (runsFrom? content 0 (s :: spans)).map fun runs =>
    if runs.isEmpty then [.plain content] else runs

/-- The cursor stays between characters, so that the rest of the text can be cut off. -/
theorem runsFrom?_eq_some {content : Text} {cursor : Nat} (h : content.IsCut cursor)
    (spans : List Span) :
    runsFrom? content cursor spans = some (runsFrom content cursor spans) := by
  induction spans generalizing cursor with
  | nil =>
      obtain ⟨before, rest, rfl, rfl⟩ := h
      rw [runsFrom?, runsFrom, Text.from?_append]
      rfl
  | cons s spans ih =>
      by_cases hle : min s.stop content.size ≤ max s.start cursor
      · rw [runsFrom?, if_pos hle, runsFrom_of_le hle, ih h]
      · rw [runsFrom?, runsFrom, if_neg hle, if_neg hle]
        cases content.slice? cursor (max s.start cursor) with
        | none => exact ih h
        | some before =>
            cases hhit : content.slice? (max s.start cursor) (min s.stop content.size) with
            | none => exact ih h
            | some hit =>
                dsimp only
                rw [ih (Text.isCut_of_slice? hhit)]
                rfl

/-- A content without spans, and one in which no run is cut off, are one plain run. -/
theorem highlight?_eq_some (content : Text) (spans : List Span) :
    highlight? content spans = some (highlight content spans) := by
  cases spans with
  | nil => rw [highlight?, highlight_nil]
  | cons s spans =>
      rw [highlight?, runsFrom?_eq_some (Text.isCut_zero content), highlight]
      cases runsFrom content 0 (s :: spans) with
      | nil => rfl
      | cons r runs => rfl

namespace Run

/-- That two runs are not both plain. -/
def Apart (r r' : Run) : Prop := r.highlighted = true ∨ r'.highlighted = true

/-- Runs that make up a content. No two plain ones stand side by side, and none is empty but the
one that an empty content has. -/
structure Normal (content : Text) (runs : List Run) : Prop where
  flatMap_text : runs.flatMap text = content
  isChain : runs.IsChain Apart
  text_ne_nil : content ≠ [] → ∀ r ∈ runs, r.text ≠ []
  of_nil : content = [] → runs = [plain []]

theorem mem_gap {r : Run} {t : Text} (h : r ∈ gap t) : r = plain t ∧ t ≠ [] := by
  unfold gap at h
  split at h
  · exact absurd h List.not_mem_nil
  · next ht => exact ⟨List.mem_singleton.mp h, mt List.isEmpty_iff.mpr ht⟩

theorem isChain_marked_cons {runs : List Run} (h : runs.IsChain Apart) (t : Text) :
    (marked t :: runs).IsChain Apart :=
  List.isChain_cons.mpr ⟨fun _ _ => Or.inl rfl, h⟩

/-- A gap before a highlighted run is not joined to what follows. -/
theorem isChain_gap_append {runs : List Run} {t : Text} (h : (marked t :: runs).IsChain Apart)
    (before : Text) : (gap before ++ marked t :: runs).IsChain Apart := by
  unfold gap
  split
  · exact h
  · exact .cons_cons (Or.inr rfl) h

end Run

theorem isChain_runsFrom (content : Text) (cursor : Nat) (spans : List Span) :
    (runsFrom content cursor spans).IsChain Run.Apart := by
  induction spans generalizing cursor with
  | nil =>
      rw [runsFrom, Run.gap]
      split
      · exact .nil
      · exact .singleton _
  | cons s spans ih =>
      rcases runsFrom_cons content cursor s spans with hskip | ⟨before, hit, -, -, -, hruns⟩
      · rw [hskip]
        exact ih cursor
      · rw [hruns]
        exact Run.isChain_gap_append (Run.isChain_marked_cons (ih _) hit) before

theorem text_ne_nil_of_mem_runsFrom {content : Text} {cursor : Nat} {spans : List Span} {r : Run}
    (h : r ∈ runsFrom content cursor spans) : r.text ≠ [] := by
  induction spans generalizing cursor with
  | nil =>
      rw [runsFrom] at h
      obtain ⟨rfl, hne⟩ := Run.mem_gap h
      exact hne
  | cons s spans ih =>
      rcases runsFrom_cons content cursor s spans with hskip | ⟨before, hit, hlt, -, hhit, hruns⟩
      · rw [hskip] at h
        exact ih h
      · rw [hruns, List.mem_append, List.mem_cons] at h
        rcases h with hgap | rfl | hlater
        · obtain ⟨rfl, hne⟩ := Run.mem_gap hgap
          exact hne
        · rintro rfl
          obtain ⟨_, _, -, -, hstop⟩ := Text.slice?_eq_some_iff.mp hhit
          rw [Text.size_nil] at hstop
          omega
        · exact ih hlater

/-- No run is left only where nothing was there to cut. -/
theorem runsFrom_eq_nil_iff {content : Text} {spans : List Span} :
    runsFrom content 0 spans = [] ↔ content = [] := by
  have htext := flatMap_text_runsFrom (List.nil_append content).symm spans
  rw [Text.size_nil] at htext
  constructor
  · intro hnone
    rw [← htext, hnone]
    rfl
  · rintro rfl
    apply List.eq_nil_iff_forall_not_mem.mpr
    intro r hr
    exact text_ne_nil_of_mem_runsFrom hr (List.flatMap_eq_nil_iff.mp htext r hr)

theorem highlight_of_nil (spans : List Span) : highlight [] spans = [.plain []] := by
  rw [highlight, runsFrom_eq_nil_iff.mpr rfl]

theorem highlight_of_ne_nil {content : Text} (h : content ≠ []) (spans : List Span) :
    highlight content spans = runsFrom content 0 spans := by
  unfold highlight
  split
  · next hnone => exact absurd (runsFrom_eq_nil_iff.mp hnone) h
  · rfl

/-- Whatever the spans, the text is cut into runs, and these are in normal form. -/
theorem normal_highlight (content : Text) (spans : List Span) :
    highlight? content spans = some (highlight content spans) ∧
      Run.Normal content (highlight content spans) := by
  refine ⟨highlight?_eq_some content spans, ?_⟩
  have htext := flatMap_text_highlight content spans
  by_cases hempty : content = []
  · subst hempty
    rw [highlight_of_nil] at htext ⊢
    exact ⟨htext, .singleton _, fun hne => absurd rfl hne, fun _ => rfl⟩
  · rw [highlight_of_ne_nil hempty] at htext ⊢
    exact ⟨htext, isChain_runsFrom content 0 spans, fun _ r => text_ne_nil_of_mem_runsFrom,
      fun hcontra => absurd hcontra hempty⟩

/-- The first span begins inside `é`, the second ends before it begins, the last ends past the end. -/
example : highlight ['é', 'a', 'b', 'c'] [⟨1, 3⟩, ⟨4, 2⟩, ⟨3, 18446744073709551615⟩] =
    [.plain ['é', 'a'], .marked ['b', 'c']] := by
  decide

end RegexExplainer
