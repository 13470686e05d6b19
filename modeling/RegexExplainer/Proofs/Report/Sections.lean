import Mathlib.Data.List.Perm.Basic
import RegexExplainer.Proofs.Snapshot.Coherent
import RegexExplainer.Report

/- A report on several patterns is put together from the reports on each of them. What one pattern
leaves in the session is not seen in the section of the next. -/
namespace RegexExplainer

/-- No text, or text whose last line has an end. -/
def IsLines (t : Text) : Prop := ∀ c ∈ t.getLast?, c = '\n'

namespace IsLines

theorem nil : IsLines [] := nofun

theorem line (t : Text) : IsLines (line t) := by
  intro c hc
  rw [RegexExplainer.line, List.getLast?_concat] at hc
  exact (Option.some.inj hc).symm

theorem append {t u : Text} (h : IsLines t) (h' : IsLines u) : IsLines (t ++ u) := by
  intro c hc
  rw [List.getLast?_append, Option.mem_def, Option.or_eq_some_iff] at hc
  rcases hc with hc | ⟨-, hc⟩
  · exact h' c hc
  · exact h c hc

theorem flatMap {α : Type} {f : α → Text} {l : List α} (h : ∀ a ∈ l, IsLines (f a)) :
    IsLines (l.flatMap f) := by
  induction l with
  | nil => exact nil
  | cons a l ih =>
      rw [List.flatMap_cons]
      exact (h a List.mem_cons_self).append (ih fun b hb => h b (List.mem_cons_of_mem a hb))

theorem endLine (t : Text) : IsLines (endLine t) := by
  unfold RegexExplainer.endLine
  split
  · next h =>
      intro c hc
      exact (Option.some.inj (h.symm.trans hc)).symm
  · exact line t

theorem getLast? {t : Text} (h : IsLines t) (hne : t ≠ []) : t.getLast? = some '\n' := by
  cases hlast : t.getLast? with
  | none => exact absurd (List.getLast?_eq_none_iff.mp hlast) hne
  | some c => rw [h c hlast]

end IsLines

namespace Snapshot

theorem isLines_explanationPane (s : Snapshot) (useColor : Bool) :
    IsLines (s.explanationPane useColor) := by
  refine (IsLines.line _).append ?_
  cases s.error with
  | some message => exact .line _
  | none =>
      cases s.tokens.isEmpty with
      | true => exact .line _
      | false => exact .flatMap fun t _ => .line _

theorem isLines_capturePane (s : Snapshot) : IsLines s.capturePane := by
  unfold capturePane
  split
  · refine (IsLines.line "\ncapture".toList).append (.flatMap ?_)
    rintro ⟨group, values⟩ -
    exact (IsLines.line _).append (.flatMap fun v _ => .line _)
  · exact .nil

theorem isLines_footer (s : Snapshot) : IsLines s.footer := by
  unfold footer
  split
  · exact .line _
  · exact .nil

theorem isLines_render (s : Snapshot) (o : RenderOptions) : IsLines (s.render o) := by
  unfold render
  dsimp only
  refine (IsLines.append ?_ s.isLines_capturePane).append s.isLines_footer
  split
  · exact s.isLines_explanationPane o.useColor
  · exact .endLine _

theorem render_ne_nil (s : Snapshot) (o : RenderOptions) : s.render o ≠ [] := by
  have hpane : s.explanationPane o.useColor ≠ [] := by
    simp [explanationPane, line]
  have hend : ∀ t, endLine t ≠ [] := by
    intro t
    unfold endLine
    split
    · next h =>
        rintro rfl
        cases h
    · simp [line]
  unfold render withContentPane
  dsimp only
  split
  · simp [hpane]
  · simp [hend]

end Snapshot

namespace Outcome

/-- An invalid pattern outweighs a match, and a match outweighs none. -/
def join : Outcome → Outcome → Outcome
  | invalid, _ | _, invalid => invalid
  | matched, _ | _, matched => matched
  | unmatched, unmatched => unmatched

instance : Std.Commutative join where
  comm a b := by cases a <;> cases b <;> rfl

instance : Std.Associative join where
  assoc a b c := by cases a <;> cases b <;> cases c <;> rfl

theorem unmatched_join (a : Outcome) : unmatched.join a = a := by
  cases a <;> rfl

theorem join_unmatched (a : Outcome) : a.join unmatched = a := by
  cases a <;> rfl

theorem exitCode_join (a b : Outcome) :
    (a.join b).exitCode =
      if a.exitCode = 2 ∨ b.exitCode = 2 then 2
      else if a.exitCode = 0 ∨ b.exitCode = 0 then 0 else 1 := by
  cases a <;> cases b <;> rfl

/-- What the pattern of a snapshot comes to. -/
def ofSnapshot (s : Snapshot) : Outcome :=
  if s.error.isSome then invalid else if 0 < s.matchCount then matched else unmatched

/-- The exit code of a report on the pattern alone. The empty pattern matches nothing. -/
structure Tells [Engine] (pattern content : Text) (a : Outcome) : Prop where
  invalid_iff : a.exitCode = 2 ↔ pattern ≠ [] ∧ ∃ e, Engine.compile pattern = .error e
  matched_iff : a.exitCode = 0 ↔
    pattern ≠ [] ∧ ∃ e, evaluate pattern content = .ok e ∧ e.matched ≠ []
  unmatched_iff : a.exitCode = 1 ↔
    pattern = [] ∨ ∃ e, evaluate pattern content = .ok e ∧ e.matched = []

section Engine

variable [Engine]

theorem ofSnapshot_compute_nil (content : Text) :
    ofSnapshot (.compute [] content) = .unmatched := rfl

theorem ofSnapshot_compute_of_error {pattern : Text} {e : CompileError} (hp : pattern ≠ [])
    (h : Engine.compile pattern = .error e) (content : Text) :
    ofSnapshot (.compute pattern content) = .invalid := by
  rw [Snapshot.compute_of_error hp h]
  rfl

theorem ofSnapshot_compute_of_compile {pattern : Text} {re : Engine.Compiled} (hp : pattern ≠ [])
    (h : Engine.compile pattern = .ok re) (content : Text) :
    ofSnapshot (.compute pattern content) =
      if Engine.find re content = [] then .unmatched else .matched := by
  rw [Snapshot.compute_of_compile hp h, ofSnapshot, if_neg (by simp)]
  simp only [Snapshot.matchCount, List.length_pos_iff, ite_not]

theorem tells_ofSnapshot_compute (pattern content : Text) :
    (ofSnapshot (.compute pattern content)).Tells pattern content := by
  by_cases hp : pattern = []
  · subst hp
    rw [ofSnapshot_compute_nil]
    exact ⟨iff_of_false (by decide) fun h => h.1 rfl, iff_of_false (by decide) fun h => h.1 rfl,
      iff_of_true rfl (.inl rfl)⟩
  · cases hcompile : Engine.compile pattern with
    | error e =>
        have hevaluate := evaluate_of_error hcompile content
        rw [ofSnapshot_compute_of_error hp hcompile]
        constructor
        · exact iff_of_true rfl ⟨hp, e, hcompile⟩
        · simp [hevaluate, exitCode]
        · simp [hevaluate, hp, exitCode]
    | ok re =>
        have hevaluate := evaluate_of_compile hcompile content
        rw [ofSnapshot_compute_of_compile hp hcompile]
        by_cases hnone : Engine.find re content = []
        · rw [if_pos hnone]
          constructor
          · simp [hcompile, exitCode]
          · simp [hevaluate, evaluateCompiled, hnone, exitCode]
          · exact iff_of_true rfl (.inr ⟨_, hevaluate, hnone⟩)
        · rw [if_neg hnone]
          constructor
          · simp [hcompile, exitCode]
          · exact iff_of_true rfl ⟨hp, _, hevaluate, hnone⟩
          · simp [hevaluate, evaluateCompiled, hp, hnone, exitCode]

end Engine

end Outcome

namespace ReportState

variable (o : RenderOptions) (s : ReportState)

theorem outcome_or (session session' session'' : Session) (m m' i i' : Bool) :
    outcome ⟨session, m || m', i || i'⟩ =
      (outcome ⟨session', m, i⟩).join (outcome ⟨session'', m', i'⟩) := by
  cases i <;> cases i' <;> cases m <;> cases m' <;> rfl

theorem outcome_next [Engine] (pattern : Text) :
    (s.next pattern).outcome =
      s.outcome.join (.ofSnapshot (.compute pattern s.session.content)) := by
  have hflags (snapshot : Snapshot) : Outcome.ofSnapshot snapshot =
      outcome ⟨s.session, 0 < snapshot.matchCount, snapshot.error.isSome⟩ := by
    simp only [Outcome.ofSnapshot, outcome, decide_eq_true_eq]
  rw [hflags]
  exact outcome_or _ _ _ _ _ _ _

/-- The session goes from pattern to pattern with the content alone. -/
theorem output_reportFrom [Engine] (ps : List Text) :
    (s.reportFrom o false ps).output =
      ps.flatMap fun p => '\n' :: (Snapshot.compute p s.session.content).render o := by
  induction ps generalizing s with
  | nil => rfl
  | cons p ps ih =>
      rw [List.flatMap_cons, reportFrom]
      simp only [ih]
      rfl

theorem outcome_reportFrom [Engine] (first : Bool) (ps : List Text) :
    (s.reportFrom o first ps).outcome =
      (ps.map fun p => Outcome.ofSnapshot (.compute p s.session.content)).foldl Outcome.join
        s.outcome := by
  induction ps generalizing s first with
  | nil => rfl
  | cons p ps ih =>
      rw [List.map_cons, List.foldl_cons, ← outcome_next, reportFrom]
      simp only [ih]
      rfl

end ReportState

section Report

variable [Engine] (content : Text) (o : RenderOptions)

theorem output_report_cons (p : Text) (ps : List Text) :
    (report (p :: ps) content o).output =
      (Snapshot.compute p content).render o ++
        ps.flatMap fun p => '\n' :: (Snapshot.compute p content).render o := by
  change ((ReportState.start content).reportFrom o true (p :: ps)).output = _
  rw [ReportState.reportFrom]
  simp only [ReportState.output_reportFrom]
  rfl

theorem outcome_report (ps : List Text) :
    (report ps content o).outcome =
      (ps.map fun p => Outcome.ofSnapshot (.compute p content)).foldl Outcome.join .unmatched := by
  cases ps with
  | nil => rfl
  | cons p ps => exact ReportState.outcome_reportFrom o (.start content) true (p :: ps)

theorem output_report_append {ps qs : List Text} (hp : ps ≠ []) (hq : qs ≠ []) :
    (report (ps ++ qs) content o).output =
      (report ps content o).output ++ '\n' :: (report qs content o).output := by
  obtain ⟨p, ps, rfl⟩ := List.exists_cons_of_ne_nil hp
  obtain ⟨q, qs, rfl⟩ := List.exists_cons_of_ne_nil hq
  simp only [List.cons_append, output_report_cons, List.flatMap_append, List.flatMap_cons,
    List.append_assoc]

theorem outcome_report_append (ps qs : List Text) :
    (report (ps ++ qs) content o).outcome =
      (report ps content o).outcome.join (report qs content o).outcome := by
  simp only [outcome_report, List.map_append, List.foldl_append]
  rw [← @List.foldl_assoc _ Outcome.join, Outcome.join_unmatched]

theorem outcome_report_perm {ps qs : List Text} (h : ps.Perm qs) :
    (report ps content o).outcome = (report qs content o).outcome := by
  rw [outcome_report, outcome_report]
  exact (h.map _).foldl_op_eq

theorem getLast?_output_report (ps : List Text) :
    (report ps content o).output.getLast? = some '\n' := by
  cases ps with
  | nil => exact (Snapshot.isLines_render _ o).getLast? (Snapshot.render_ne_nil _ o)
  | cons p ps =>
      have hsections : IsLines (ps.flatMap fun p =>
          '\n' :: (Snapshot.compute p content).render o) :=
        .flatMap fun p _ => (IsLines.line []).append (Snapshot.isLines_render _ o)
      rw [output_report_cons]
      refine ((Snapshot.isLines_render _ o).append hsections).getLast? ?_
      simp [Snapshot.render_ne_nil]

/-- Without a pattern the report is that on the empty pattern. -/
theorem report_nil : report [] content o = report [[]] content o := by
  have houtput := output_report_cons content o [] []
  rw [List.flatMap_nil, List.append_nil] at houtput
  exact congrArg₂ Report.mk (outcome_report content o [[]]).symm houtput.symm

theorem output_report_singleton (p : Text) :
    (report [p] content o).output = (Snapshot.compute p content).render o := by
  rw [output_report_cons, List.flatMap_nil, List.append_nil]

theorem tells_report_singleton (p : Text) : (report [p] content o).outcome.Tells p content := by
  rw [outcome_report, List.map_singleton, List.foldl_cons, Outcome.unmatched_join]
  exact Outcome.tells_ofSnapshot_compute p content

end Report

/-- How the reports on a content are put together: the sections of the patterns with an empty line
between them, and a code that any malformed pattern decides, or else any match. -/
structure Report.Composes [Engine] (content : Text) (o : RenderOptions) : Prop where
  output_append : ∀ ps qs, ps ≠ [] → qs ≠ [] →
    (report (ps ++ qs) content o).output =
      (report ps content o).output ++ '\n' :: (report qs content o).output
  exitCode_append : ∀ ps qs, (report (ps ++ qs) content o).outcome.exitCode =
    let code := (report ps content o).outcome.exitCode
    let code' := (report qs content o).outcome.exitCode
    if code = 2 ∨ code' = 2 then 2 else if code = 0 ∨ code' = 0 then 0 else 1
  output_singleton : ∀ p, (report [p] content o).output = (Snapshot.compute p content).render o
  exitCode_singleton : ∀ p, (report [p] content o).outcome.Tells p content
  nil : report [] content o = report [[]] content o
  ended : ∀ ps, (report ps content o).output.getLast? = some '\n'
  exitCode_perm : ∀ ps qs, ps.Perm qs →
    (report ps content o).outcome.exitCode = (report qs content o).outcome.exitCode
  sections : ∀ p ps, (report (p :: ps) content o).output =
    (Snapshot.compute p content).render o ++
      ps.flatMap fun p => '\n' :: (Snapshot.compute p content).render o

theorem report_composes [Engine] (content : Text) (o : RenderOptions) :
    Report.Composes content o where
  output_append _ _ hp hq := output_report_append content o hp hq
  exitCode_append ps qs := by rw [outcome_report_append, Outcome.exitCode_join]
  output_singleton := output_report_singleton content o
  exitCode_singleton := tells_report_singleton content o
  nil := report_nil content o
  ended := getLast?_output_report content o
  exitCode_perm ps qs h := by rw [outcome_report_perm content o h]
  sections := output_report_cons content o

end RegexExplainer
