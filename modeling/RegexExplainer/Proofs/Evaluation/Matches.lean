import RegexExplainer.Proofs.Engine.Search

/- The matches in a text, by whatever engine: an evaluation has those of the compiled pattern, and
something is captured exactly when a pattern with groups matches. -/
namespace RegexExplainer

namespace CaptureSet

theorem alter_ne_nil (group : Nat) (f : List Text → List Text) (s : CaptureSet) :
    s.alter group f ≠ [] := by
  unfold alter
  split
  · exact List.cons_ne_nil _ _
  · split_ifs
    all_goals exact List.cons_ne_nil _ _

/-- A fold with steps that leave something leaves something. -/
theorem foldl_ne_nil {α : Type} {f : CaptureSet → α → CaptureSet} {l : List α} (s : CaptureSet)
    (hf : ∀ s, ∀ a ∈ l, f s a ≠ []) (hl : l ≠ []) : l.foldl f s ≠ [] := by
  rcases List.eq_nil_or_concat l with rfl | ⟨l', a, rfl⟩
  · exact absurd rfl hl
  · rw [List.concat_eq_append, List.foldl_append]
    exact hf _ a (by simp)

theorem recordMatch_ne_nil (s : CaptureSet) {m : Match} (h : m.groups ≠ []) :
    recordMatch s m ≠ [] := by
  refine foldl_ne_nil s ?_ ?_
  · intro s a _
    exact alter_ne_nil _ _ s
  · rw [Ne, List.zipIdx_eq_nil_iff]
    exact h

theorem recordMatch_of_groups_nil (s : CaptureSet) {m : Match} (h : m.groups = []) :
    recordMatch s m = s := by
  rw [recordMatch, h]
  rfl

theorem ofMatches_eq_nil {ms : List Match} (h : ∀ m ∈ ms, m.groups = []) : ofMatches ms = [] := by
  rw [ofMatches]
  induction ms with
  | nil => rfl
  | cons m ms ih =>
      rw [List.foldl_cons, recordMatch_of_groups_nil [] (h m List.mem_cons_self)]
      exact ih fun m' hm' => h m' (List.mem_cons_of_mem m hm')

/-- Nothing is captured when nothing matches, or when there is no group. -/
theorem ofMatches_eq_nil_iff {ms : List Match} {groupCount : Nat}
    (h : ∀ m ∈ ms, m.groups.length = groupCount) : ofMatches ms = [] ↔ groupCount = 0 ∨ ms = [] := by
  constructor
  · intro hnil
    by_contra hne
    rw [not_or] at hne
    refine foldl_ne_nil [] ?_ hne.2 hnil
    intro s m hm
    refine recordMatch_ne_nil s ?_
    rw [← List.length_pos_iff, h m hm]
    exact Nat.pos_of_ne_zero hne.1
  · rintro (hzero | rfl)
    · refine ofMatches_eq_nil ?_
      intro m hm
      exact List.length_eq_zero_iff.mp ((h m hm).trans hzero)
    · rfl

end CaptureSet

variable [Engine]

theorem Engine.Agrees.captures_eq_nil_iff (h : Engine.Agrees) (re : Engine.Compiled) (t : Text) :
    Engine.captures re t = [] ↔ Engine.find re t = [] := by
  rw [← h.span_captures, List.map_eq_nil_iff]

theorem evaluate_of_error {p : Text} {e : CompileError} (h : Engine.compile p = .error e)
    (content : Text) : evaluate p content = .error e := by
  unfold evaluate
  rw [h]
  rfl

theorem evaluate_of_compile {p : Text} {re : Engine.Compiled} (h : Engine.compile p = .ok re)
    (content : Text) : evaluate p content = .ok (evaluateCompiled re p content) := by
  unfold evaluate
  rw [h]
  rfl

end RegexExplainer
