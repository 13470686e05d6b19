import Mathlib.Data.List.Basic
import Mathlib.Data.List.Induction
import RegexExplainer.Report

/- A report in colour, and what is left of it without the codes for colours. -/
namespace RegexExplainer

/-- All codes that a report may hold. -/
def colorCodes : List Text :=
  colorReset :: matchColor :: errorColor ::
    [Kind.literal, .escape, .metaChar, .groupOpen, .quantifier].map Kind.color

theorem Kind.color_mem (k : Kind) : k.color ∈ colorCodes := by
  cases k <;> decide

/-- The text without its first `pending` characters and then without any code. -/
def withoutCodesFrom : (pending : Nat) → Text → Text
  | _, [] => []
  | pending + 1, _ :: t => withoutCodesFrom pending t
  | 0, c :: t =>
    match colorCodes.find? (·.isPrefixOf (c :: t)) with
    | some code => withoutCodesFrom (code.length - 1) t
    | none => c :: withoutCodesFrom 0 t

def withoutCodes (t : Text) : Text := withoutCodesFrom 0 t

theorem code_eq_cons {code : Text} (h : code ∈ colorCodes) :
    ∃ parameters, code = '\x1b' :: parameters := by
  have hall : ∀ code ∈ colorCodes, code.head? = some '\x1b' := by decide
  exact List.head?_eq_some_iff.mp (hall code h)

/-- No code begins another. -/
theorem code_eq_of_begins {code code' : Text} (h : code ∈ colorCodes) (h' : code' ∈ colorCodes)
    (hle : code <+: code') : code = code' := by
  have hall : ∀ code ∈ colorCodes, ∀ code' ∈ colorCodes, code <+: code' → code = code' := by
    decide
  exact hall code h code' h' hle

theorem find?_code {code : Text} (h : code ∈ colorCodes) (t : Text) :
    colorCodes.find? (·.isPrefixOf (code ++ t)) = some code := by
  cases hfind : colorCodes.find? (·.isPrefixOf (code ++ t)) with
  | none =>
      have hnot := List.find?_eq_none.mp hfind code h
      exact absurd (List.isPrefixOf_iff_prefix.mpr (List.prefix_append code t)) hnot
  | some code' =>
      have hmem := List.mem_of_find?_eq_some hfind
      have htrue : code'.isPrefixOf (code ++ t) = true := by
        simpa only using List.find?_some hfind
      have hle := List.isPrefixOf_iff_prefix.mp htrue
      rcases Nat.le_total code.length code'.length with hlen | hlen
      · rw [code_eq_of_begins h hmem
          (List.prefix_of_prefix_length_le (List.prefix_append code t) hle hlen)]
      · rw [code_eq_of_begins hmem h
          (List.prefix_of_prefix_length_le hle (List.prefix_append code t) hlen)]

theorem find?_code_of_ne {c : Char} (h : c ≠ '\x1b') (t : Text) :
    colorCodes.find? (·.isPrefixOf (c :: t)) = none := by
  rw [List.find?_eq_none]
  intro code hmem hle
  obtain ⟨parameters, rfl⟩ := code_eq_cons hmem
  obtain ⟨rest, hrest⟩ := List.isPrefixOf_iff_prefix.mp hle
  injection hrest with hc _
  exact h hc.symm

theorem withoutCodesFrom_append (s t : Text) :
    withoutCodesFrom s.length (s ++ t) = withoutCodesFrom 0 t := by
  induction s with
  | nil => rfl
  | cons c s ih => exact ih

theorem withoutCodes_code_append {code : Text} (h : code ∈ colorCodes) (t : Text) :
    withoutCodes (code ++ t) = withoutCodes t := by
  have hfind := find?_code h t
  obtain ⟨parameters, rfl⟩ := code_eq_cons h
  rw [List.cons_append] at hfind ⊢
  rw [withoutCodes, withoutCodesFrom, hfind]
  exact withoutCodesFrom_append parameters t

theorem withoutCodes_append {s : Text} (h : '\x1b' ∉ s) (t : Text) :
    withoutCodes (s ++ t) = s ++ withoutCodes t := by
  induction s with
  | nil => rfl
  | cons c s ih =>
      obtain ⟨hc, hs⟩ := not_or.mp (mt List.mem_cons.mpr h)
      rw [List.cons_append, withoutCodes, withoutCodesFrom,
        find?_code_of_ne (fun heq => hc heq.symm)]
      exact congrArg (c :: ·) (ih hs)

/-- Without codes `t` is `u`, whatever comes after it. -/
def Strips (t u : Text) : Prop := ∀ rest, withoutCodes (t ++ rest) = u ++ withoutCodes rest

namespace Strips

theorem withoutCodes_eq {t u : Text} (h : Strips t u) : withoutCodes t = u := by
  have hnil := h []
  rwa [List.append_nil, show withoutCodes [] = [] from rfl, List.append_nil] at hnil

theorem of_notMem {t : Text} (h : '\x1b' ∉ t) : Strips t t := withoutCodes_append h

theorem code {code : Text} (h : code ∈ colorCodes) : Strips code [] := withoutCodes_code_append h

theorem append {t u t' u' : Text} (h : Strips t u) (h' : Strips t' u') :
    Strips (t ++ t') (u ++ u') := by
  intro rest
  rw [List.append_assoc, h, h', List.append_assoc]

theorem line {t u : Text} (h : Strips t u) : Strips (line t) (line u) :=
  h.append (of_notMem (by decide))

theorem flatMap {α : Type} {f g : α → Text} {l : List α} (h : ∀ a ∈ l, Strips (f a) (g a)) :
    Strips (l.flatMap f) (l.flatMap g) := by
  induction l with
  | nil => exact of_notMem List.not_mem_nil
  | cons a l ih =>
      rw [List.flatMap_cons, List.flatMap_cons]
      exact (h a List.mem_cons_self).append (ih fun b hb => h b (List.mem_cons_of_mem a hb))

theorem colorize {color t : Text} (hcolor : color ∈ colorCodes) (ht : '\x1b' ∉ t) :
    Strips (colorize true color t) (colorize false color t) := by
  have hreset : colorReset ∈ colorCodes := by decide
  have hall := ((code hcolor).append (of_notMem ht)).append (code hreset)
  rwa [List.nil_append, List.append_nil] at hall

end Strips

theorem Token.strips_render {t : Token} (htext : '\x1b' ∉ t.text)
    (hexplanation : '\x1b' ∉ t.explanation) : Strips (t.render true) (t.render false) := by
  have hindent : '\x1b' ∉ List.replicate (2 * t.depth) ' ' := by
    intro hmem
    exact absurd (List.eq_of_mem_replicate hmem) (by decide)
  unfold Token.render
  refine Strips.line ((((Strips.of_notMem hindent).append ?_).append ?_).append ?_)
  · exact Strips.colorize t.kind.color_mem htext
  · exact Strips.of_notMem (by decide)
  · exact Strips.of_notMem hexplanation

theorem Run.strips_render {r : Run} (htext : '\x1b' ∉ r.text) :
    Strips (r.render true) (r.render false) := by
  unfold Run.render
  cases r.highlighted with
  | false => exact Strips.of_notMem htext
  | true => exact Strips.colorize (by decide) htext

@[simp] theorem Run.render_false (r : Run) : r.render false = r.text := by
  unfold Run.render
  cases r.highlighted <;> rfl

theorem notMem_decimal {c : Char} (h : c.isDigit = false) (n : Nat) : c ∉ Text.decimal n := by
  intro hmem
  have hdigit := Nat.isDigit_of_mem_toDigits (by decide) (by decide) hmem
  exact Bool.false_ne_true (h.symm.trans hdigit)

/-- Whether a run leaves anything in a report in colour. -/
def Run.isPrinted (r : Run) : Bool := r.highlighted || !r.text.isEmpty

namespace Snapshot

/-- No text that is printed for the snapshot holds the character that begins a code. -/
structure HasNoEscape (s : Snapshot) : Prop where
  tokens : ∀ t ∈ s.tokens, '\x1b' ∉ t.text ∧ '\x1b' ∉ t.explanation
  runs : ∀ r ∈ s.runs, '\x1b' ∉ r.text
  captures : ∀ entry ∈ s.captures, ∀ v ∈ entry.2, '\x1b' ∉ v
  error : ∀ message ∈ s.error, '\x1b' ∉ message

/-- The content, if any, ends with a line, and in colour a code comes after that line. -/
structure HidesLineEnd (s : Snapshot) : Prop where
  marked : ∃ r, (s.runs.filter Run.isPrinted).getLast? = some r ∧ r.highlighted = true
  ended : ∀ c ∈ (s.runs.flatMap Run.text).getLast?, c = '\n'

theorem HasNoEscape.strips_explanationPane {s : Snapshot} (h : s.HasNoEscape) :
    Strips (s.explanationPane true) (s.explanationPane false) := by
  refine (Strips.line (Strips.of_notMem (by decide))).append ?_
  cases herror : s.error with
  | some message =>
      refine Strips.line (Strips.colorize (by decide) ?_)
      intro hmem
      rcases List.mem_append.mp hmem with hmem | hmem
      · exact absurd hmem (by decide)
      · exact h.error message herror hmem
  | none =>
      cases s.tokens.isEmpty with
      | true => exact Strips.line (Strips.of_notMem (by decide))
      | false => exact Strips.flatMap fun t ht => (h.tokens t ht).elim Token.strips_render

theorem HasNoEscape.strips_capturePane {s : Snapshot} (h : s.HasNoEscape) :
    Strips s.capturePane s.capturePane := by
  unfold capturePane
  split
  · refine (Strips.of_notMem (by decide)).append (Strips.flatMap ?_)
    rintro ⟨group, values⟩ hentry
    have hname : Strips "Group ".toList "Group ".toList := Strips.of_notMem (by decide)
    have hnumber := Strips.of_notMem (notMem_decimal (by decide) group)
    refine (Strips.line ((hname.append hnumber).append (Strips.of_notMem (by decide)))).append ?_
    refine Strips.flatMap fun v hv => Strips.line (Strips.of_notMem ?_)
    intro hmem
    rcases List.mem_cons.mp hmem with htab | hmem
    · exact absurd htab (by decide)
    · exact h.captures (group, values) hentry v hv hmem
  · exact Strips.of_notMem List.not_mem_nil

theorem strips_footer (s : Snapshot) : Strips s.footer s.footer := by
  unfold footer
  split
  · have htitle : Strips "\nTotal matches: ".toList "\nTotal matches: ".toList :=
      Strips.of_notMem (by decide)
    have hcount := Strips.of_notMem (notMem_decimal (by decide) s.matchCount)
    exact Strips.line (htitle.append hcount)
  · exact Strips.of_notMem List.not_mem_nil

end Snapshot

namespace Run

theorem not_isPrinted {r : Run} (h : r.isPrinted = false) : r.highlighted = false ∧ r.text = [] := by
  obtain ⟨hplain, htext⟩ := Bool.or_eq_false_iff.mp h
  exact ⟨hplain, by simpa using htext⟩

theorem text_ne_nil {r : Run} (h : r.isPrinted = true) (hplain : r.highlighted = false) :
    r.text ≠ [] := by
  intro htext
  rw [isPrinted, hplain, htext] at h
  exact absurd h (by decide)

theorem render_of_plain {r : Run} (h : r.highlighted = false) (useColor : Bool) :
    r.render useColor = r.text := by
  rw [render, h]
  rfl

theorem getLast?_render_of_highlighted {r : Run} (h : r.highlighted = true) (before : Text) :
    (before ++ r.render true).getLast? = some 'm' := by
  rw [render, h, List.getLast?_append]
  change Option.or (matchColor ++ r.text ++ colorReset).getLast? _ = _
  rw [List.getLast?_append]
  rfl

/-- In colour the runs end with a code when the last run that is printed is highlighted. -/
theorem getLast?_flatMap_of_marked {runs : List Run} {r : Run}
    (h : (runs.filter isPrinted).getLast? = some r) (hr : r.highlighted = true) :
    (runs.flatMap (render true)).getLast? = some 'm' := by
  induction runs using List.reverseRecOn with
  | nil => exact absurd h (by simp)
  | append_singleton runs last ih =>
      rw [List.flatMap_append, List.flatMap_singleton]
      rw [List.filter_append] at h
      cases hlast : last.isPrinted with
      | false =>
          obtain ⟨hplain, htext⟩ := not_isPrinted hlast
          rw [render_of_plain hplain, htext, List.append_nil]
          rw [List.filter_cons_of_neg (by simp [hlast]), List.filter_nil, List.append_nil] at h
          exact ih h
      | true =>
          obtain rfl : last = r := by simpa [hlast] using h
          exact getLast?_render_of_highlighted hr _

/-- Without a highlighted run at the end the runs end with their own text. -/
theorem getLast?_flatMap_of_plain {runs : List Run}
    (h : ¬ ∃ r, (runs.filter isPrinted).getLast? = some r ∧ r.highlighted = true) :
    (runs.flatMap (render true)).getLast? = (runs.flatMap text).getLast? := by
  induction runs using List.reverseRecOn with
  | nil => rfl
  | append_singleton runs last ih =>
      simp only [List.flatMap_append, List.flatMap_singleton]
      rw [List.filter_append] at h
      cases hlast : last.isPrinted with
      | false =>
          obtain ⟨hplain, htext⟩ := not_isPrinted hlast
          rw [render_of_plain hplain, htext, List.append_nil, List.append_nil]
          rw [List.filter_cons_of_neg (by simp [hlast]), List.filter_nil, List.append_nil] at h
          exact ih h
      | true =>
          have hplain : last.highlighted = false := by
            by_contra hmarked
            exact h ⟨last, by simp [hlast], by simpa using hmarked⟩
          rw [render_of_plain hplain, List.getLast?_append_of_ne_nil _ (text_ne_nil hlast hplain),
            List.getLast?_append_of_ne_nil _ (text_ne_nil hlast hplain)]

end Run

namespace Snapshot

/-- What stands before the end of the last line of the content. -/
def unended (s : Snapshot) (useColor : Bool) : Text :=
  s.explanationPane useColor ++ "\ncontent\n".toList ++ s.runs.flatMap (Run.render useColor)

theorem render_eq_unended (s : Snapshot) (useColor : Bool) :
    s.render ⟨useColor, false⟩ = endLine (s.unended useColor) ++ s.capturePane ++ s.footer := rfl

theorem flatMap_render_false (runs : List Run) :
    runs.flatMap (Run.render false) = runs.flatMap Run.text :=
  congrArg runs.flatMap (funext Run.render_false)

theorem getLast?_unended (s : Snapshot) (useColor : Bool) :
    (s.unended useColor).getLast? =
      some ((s.runs.flatMap (Run.render useColor)).getLast?.getD '\n') := by
  rw [unended, List.getLast?_append, List.getLast?_append_of_ne_nil _ (by decide)]
  cases (s.runs.flatMap (Run.render useColor)).getLast? <;> rfl

theorem HasNoEscape.strips_unended {s : Snapshot} (h : s.HasNoEscape) :
    Strips (s.unended true) (s.unended false) := by
  refine (h.strips_explanationPane.append (Strips.of_notMem (by decide))).append ?_
  exact Strips.flatMap fun r hr => Run.strips_render (h.runs r hr)

/-- Unless a line end is hidden, either both ways to print add one or neither does. -/
theorem getLast?_unended_of_not_hidesLineEnd {s : Snapshot} (h : ¬ s.HidesLineEnd) :
    (s.unended true).getLast? = some '\n' ↔ (s.unended false).getLast? = some '\n' := by
  rw [getLast?_unended, getLast?_unended, flatMap_render_false]
  by_cases hmarked :
      ∃ r, (s.runs.filter Run.isPrinted).getLast? = some r ∧ r.highlighted = true
  · obtain ⟨r, hr, hhighlighted⟩ := hmarked
    rw [Run.getLast?_flatMap_of_marked hr hhighlighted]
    refine iff_of_false (by decide) ?_
    intro hplain
    refine h ⟨⟨r, hr, hhighlighted⟩, ?_⟩
    intro c hc
    rw [Option.mem_def.mp hc] at hplain
    exact Option.some.inj hplain
  · rw [Run.getLast?_flatMap_of_plain hmarked]

theorem HidesLineEnd.getLast?_unended {s : Snapshot} (h : s.HidesLineEnd) :
    (s.unended true).getLast? = some 'm' ∧ (s.unended false).getLast? = some '\n' := by
  obtain ⟨⟨r, hr, hhighlighted⟩, hended⟩ := h
  rw [Snapshot.getLast?_unended, Snapshot.getLast?_unended, flatMap_render_false,
    Run.getLast?_flatMap_of_marked hr hhighlighted]
  refine ⟨rfl, ?_⟩
  cases hlast : (s.runs.flatMap Run.text).getLast? with
  | none => rfl
  | some c => exact congrArg some (hended c hlast)

theorem HasNoEscape.strips_endLine {s : Snapshot} (h : s.HasNoEscape) (hends : ¬ s.HidesLineEnd) :
    Strips (endLine (s.unended true)) (endLine (s.unended false)) := by
  unfold endLine
  by_cases hplain : (s.unended false).getLast? = some '\n'
  · rw [if_pos hplain, if_pos ((getLast?_unended_of_not_hidesLineEnd hends).mpr hplain)]
    exact h.strips_unended
  · rw [if_neg hplain, if_neg (mt (getLast?_unended_of_not_hidesLineEnd hends).mp hplain)]
    exact Strips.line h.strips_unended

/-- A hidden line end is printed a second time in colour. -/
theorem HasNoEscape.strips_endLine_of_hidesLineEnd {s : Snapshot} (h : s.HasNoEscape)
    (hends : s.HidesLineEnd) :
    Strips (endLine (s.unended true)) (line (endLine (s.unended false))) := by
  obtain ⟨hcolor, hplain⟩ := hends.getLast?_unended
  unfold endLine
  rw [if_pos hplain, if_neg (by rw [hcolor]; decide)]
  exact Strips.line h.strips_unended

/-- Without its codes a report in colour is the plain one, unless a line end is hidden: then the
content is followed by one more line end than it has in the plain report. -/
theorem withoutCodes_render_iff {s : Snapshot} (h : s.HasNoEscape) (explainOnly : Bool) :
    withoutCodes (s.render ⟨true, explainOnly⟩) = s.render ⟨false, explainOnly⟩ ↔
      explainOnly = true ∨ ¬ s.HidesLineEnd := by
  have hrest := h.strips_capturePane
  cases explainOnly with
  | true =>
      have hall := (h.strips_explanationPane.append hrest).append s.strips_footer
      exact iff_of_true hall.withoutCodes_eq (Or.inl rfl)
  | false =>
      rw [render_eq_unended, render_eq_unended]
      by_cases hends : s.HidesLineEnd
      · refine iff_of_false ?_ (by simp [hends])
        have hall := ((h.strips_endLine_of_hidesLineEnd hends).append hrest).append s.strips_footer
        rw [hall.withoutCodes_eq]
        intro heq
        have hlength := congrArg List.length heq
        simp only [line, List.length_append, List.length_singleton] at hlength
        omega
      · have hall := ((h.strips_endLine hends).append hrest).append s.strips_footer
        exact iff_of_true hall.withoutCodes_eq (Or.inr hends)

/-- A match of the line end that closes the content. -/
def markedLineEnd : Snapshot :=
  ⟨[], [⟨1, 2⟩], [], false, [.plain ['x'], .marked ['\n']], none⟩

theorem withoutCodes_render_markedLineEnd :
    withoutCodes (markedLineEnd.render ⟨true, true⟩) = markedLineEnd.render ⟨false, true⟩ ∧
      withoutCodes (markedLineEnd.render ⟨true, false⟩) ≠ markedLineEnd.render ⟨false, false⟩ := by
  have hruns : ∀ r ∈ markedLineEnd.runs, '\x1b' ∉ r.text := by
    intro r hr
    rcases List.mem_pair.mp hr with rfl | rfl
    · decide
    · decide
  have hescape : markedLineEnd.HasNoEscape :=
    ⟨fun _ h => absurd h List.not_mem_nil, hruns, fun _ h => absurd h List.not_mem_nil, nofun⟩
  have hends : markedLineEnd.HidesLineEnd :=
    ⟨⟨.marked ['\n'], rfl, rfl⟩, fun c hc => (Option.some.inj hc).symm⟩
  refine ⟨(withoutCodes_render_iff hescape true).mpr (Or.inl rfl), ?_⟩
  intro heq
  rcases (withoutCodes_render_iff hescape false).mp heq with hcontra | hcontra
  · exact absurd hcontra (by decide)
  · exact hcontra hends

end Snapshot

end RegexExplainer
