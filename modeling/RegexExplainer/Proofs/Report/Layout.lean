import RegexExplainer.Proofs.Report.Codes
import RegexExplainer.Proofs.Snapshot.Coherent

/- How a report without colour is laid out: the content stands in it as it is, between what explains
the pattern and what tells about the matches. -/
namespace RegexExplainer

theorem Text.decimal_injective {m n : Nat} (h : Text.decimal m = Text.decimal n) : m = n := by
  have hread := congrArg (Nat.ofDigitChars 10 · 0) h
  simpa only [Text.decimal, Nat.ofDigitChars_ten_toDigits] using hread

/-- The line that ends a report, after an empty one. -/
def totalLine (count : Nat) : Text := line ("\nTotal matches: ".toList ++ Text.decimal count)

theorem totalLine_eq_cons (count : Nat) :
    totalLine count = '\n' :: line ("Total matches: ".toList ++ Text.decimal count) := rfl

theorem count_lineEnd_total (count : Nat) :
    (line ("Total matches: ".toList ++ Text.decimal count)).count '\n' = 1 := by
  have hdigits := List.count_eq_zero.mpr (notMem_decimal (c := '\n') (by decide) count)
  rw [line, List.count_append, List.count_append, hdigits]
  rfl

/-- Of two line ends one is the first character, so that no such line ends another. -/
theorem eq_of_totalLine_suffix {m n : Nat} (h : totalLine m <:+ totalLine n) : m = n := by
  rw [totalLine_eq_cons n, List.suffix_cons_iff] at h
  rcases h with heq | hlater
  · rw [totalLine_eq_cons] at heq
    have hlines := (List.cons.inj heq).2
    exact Text.decimal_injective (List.append_cancel_left (List.append_cancel_right hlines))
  · have hle := hlater.sublist.count_le '\n'
    rw [totalLine_eq_cons, List.count_cons_self, count_lineEnd_total, count_lineEnd_total] at hle
    exact absurd hle (by decide)

theorem totalLine_suffix_append_iff {before : Text} {m n : Nat} :
    totalLine m <:+ before ++ totalLine n ↔ m = n := by
  constructor
  · intro hm
    have hn : totalLine n <:+ before ++ totalLine n := List.suffix_append _ _
    rcases Nat.le_total (totalLine m).length (totalLine n).length with hle | hle
    · exact eq_of_totalLine_suffix (List.suffix_of_suffix_length_le hm hn hle)
    · exact (eq_of_totalLine_suffix (List.suffix_of_suffix_length_le hn hm hle)).symm
  · rintro rfl
    exact List.suffix_append _ _

theorem endLine_append {t : Text} (h : t.getLast? = some '\n') (content : Text) :
    endLine (t ++ content) =
      t ++ content ++ if content ≠ [] ∧ content.getLast? ≠ some '\n' then ['\n'] else [] := by
  unfold endLine
  rw [List.getLast?_append, h]
  cases hlast : content.getLast? with
  | none =>
      obtain rfl := List.getLast?_eq_none_iff.mp hlast
      simp
  | some c =>
      have hne : content ≠ [] := by
        rintro rfl
        cases hlast
      by_cases hend : c = '\n'
      · simp [hend]
      · simp [hend, hne, line]

namespace Snapshot

theorem flatMap_text_runs_compute [Engine] (pattern content : Text) :
    (compute pattern content).runs.flatMap Run.text = content := by
  unfold compute
  split
  · exact flatMap_text_highlight content []
  · split
    · exact flatMap_text_highlight content _
    · exact flatMap_text_highlight content []

theorem render_explainOnly (s : Snapshot) :
    s.render ⟨false, true⟩ = s.explanationPane false ++ (s.capturePane ++ s.footer) := by
  rw [← List.append_assoc]
  rfl

/-- The runs without colour are the content, and what stands before them ends with a line. -/
theorem render_of_runs {s : Snapshot} {content : Text} (h : s.runs.flatMap Run.text = content) :
    s.render ⟨false, false⟩ =
      s.explanationPane false ++ "\ncontent\n".toList ++ content ++
        (if content ≠ [] ∧ content.getLast? ≠ some '\n' then ['\n'] else []) ++
        (s.capturePane ++ s.footer) := by
  have htitle : (s.explanationPane false ++ "\ncontent\n".toList).getLast? = some '\n' := by
    rw [List.getLast?_append_of_ne_nil _ (by decide)]
    rfl
  rw [render_eq_unended, unended, flatMap_render_false, h, endLine_append htitle, List.append_assoc]

section Parts

variable [Engine] {pattern : Text} (hp : pattern ≠ []) (content : Text)
include hp

theorem explanationPane_of_error {e : CompileError} (h : Engine.compile pattern = .error e) :
    (compute pattern content).explanationPane false =
      line "pattern explanation".toList ++ line ("Invalid regex: ".toList ++ e.message) := by
  rw [compute_of_error hp h]
  rfl

theorem explanationPane_of_compile {re : Engine.Compiled} (h : Engine.compile pattern = .ok re) :
    (compute pattern content).explanationPane false =
      line "pattern explanation".toList ++ (annotate pattern).flatMap (Token.render false) := by
  rw [compute_of_compile hp h, explanationPane]
  simp only [Token.isEmpty_annotate hp, Bool.false_eq_true, if_false]

theorem tail_of_error {e : CompileError} (h : Engine.compile pattern = .error e) :
    (compute pattern content).capturePane ++ (compute pattern content).footer = [] := by
  rw [compute_of_error hp h]
  rfl

theorem footer_of_compile {re : Engine.Compiled} (h : Engine.compile pattern = .ok re) :
    (compute pattern content).footer = totalLine (Engine.find re content).length := by
  rw [compute_of_compile hp h, footer]
  have hshown : ((none : Option Text).isNone && !(annotate pattern).isEmpty) = true := by
    rw [Token.isEmpty_annotate hp]
    rfl
  exact if_pos hshown

end Parts

/-- After the content comes the number of matches if there is a regex to match with. -/
theorem totalLine_suffix_tail_iff [Engine] (pattern content : Text) (n : Nat) :
    totalLine n <:+ (compute pattern content).capturePane ++ (compute pattern content).footer ↔
      pattern ≠ [] ∧ ∃ e, evaluate pattern content = .ok e ∧ e.matched.length = n := by
  have hnone : ¬ totalLine n <:+ [] := mt List.suffix_nil.mp (List.cons_ne_nil _ _)
  by_cases hp : pattern = []
  · subst hp
    exact iff_of_false hnone fun h => h.1 rfl
  · cases h : Engine.compile pattern with
    | error e =>
        rw [tail_of_error hp content h, evaluate_of_error h]
        exact iff_of_false hnone fun ⟨_, _, he, _⟩ => nomatch he
    | ok re =>
        rw [footer_of_compile hp content h, totalLine_suffix_append_iff, evaluate_of_compile h]
        constructor
        · rintro rfl
          exact ⟨hp, _, rfl, rfl⟩
        · rintro ⟨-, e, he, rfl⟩
          rw [← Except.ok.inj he]
          rfl

/-- The parts of a plain report on a pattern and a content: the head is what comes before the content
and the tail what comes after it. -/
structure LaidOut [Engine] (pattern content head tail : Text) : Prop where
  explained : (compute pattern content).render ⟨false, true⟩ = head ++ tail
  full : (compute pattern content).render ⟨false, false⟩ =
    head ++ "\ncontent\n".toList ++ content ++
      (if content ≠ [] ∧ content.getLast? ≠ some '\n' then ['\n'] else []) ++ tail
  head_of_nil : pattern = [] → head = line "pattern explanation".toList ++ line placeholder
  head_of_error : ∀ e, pattern ≠ [] → Engine.compile pattern = .error e →
    head = line "pattern explanation".toList ++ line ("Invalid regex: ".toList ++ e.message)
  head_of_compile : ∀ re, pattern ≠ [] → Engine.compile pattern = .ok re →
    head = line "pattern explanation".toList ++ (annotate pattern).flatMap (Token.render false)
  tail_of_nil : pattern = [] → tail = []
  tail_of_error : ∀ e, pattern ≠ [] → Engine.compile pattern = .error e → tail = []
  tail_of_compile : ∀ re, pattern ≠ [] → Engine.compile pattern = .ok re →
    tail = (compute pattern content).capturePane ++ totalLine (Engine.find re content).length
  total_iff : ∀ n, totalLine n <:+ tail ↔
    pattern ≠ [] ∧ ∃ e, evaluate pattern content = .ok e ∧ e.matched.length = n

/-- Whatever the pattern and the content, the content stands in the report as it is. -/
theorem laidOut_compute [Engine] (pattern content : Text) :
    ∃ head tail, LaidOut pattern content head tail := by
  refine ⟨(compute pattern content).explanationPane false,
    (compute pattern content).capturePane ++ (compute pattern content).footer, ?_⟩
  constructor
  case explained => exact render_explainOnly _
  case full => exact render_of_runs (flatMap_text_runs_compute pattern content)
  case head_of_nil =>
    rintro rfl
    rfl
  case head_of_error => exact fun e hp h => explanationPane_of_error hp content h
  case head_of_compile => exact fun re hp h => explanationPane_of_compile hp content h
  case tail_of_nil =>
    rintro rfl
    rfl
  case tail_of_error => exact fun e hp h => tail_of_error hp content h
  case tail_of_compile =>
    intro re hp h
    rw [footer_of_compile hp content h]
  case total_iff => exact totalLine_suffix_tail_iff pattern content

end Snapshot

end RegexExplainer
