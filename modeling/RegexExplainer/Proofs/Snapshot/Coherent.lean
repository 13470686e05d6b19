import RegexExplainer.Proofs.Evaluation.Matches
import RegexExplainer.Proofs.Regex.Search
import RegexExplainer.Proofs.Token.Scan

/- A snapshot agrees with itself: its tokens spell the pattern, its runs spell the content, and its
matches, captures, runs and message all come from one compilation. -/
namespace RegexExplainer

namespace Snapshot

/-- The matches that are not empty. -/
def visible (s : Snapshot) : List Span := s.matched.filter fun m => m.start < m.stop

/-- The pattern is explained and the content stands as it is. -/
structure Unmatched (pattern content : Text) (s : Snapshot) : Prop where
  tokens : s.tokens = annotate pattern
  matched : s.matched = []
  captures : s.captures = []
  hasCaptureGroups : s.hasCaptureGroups = false
  runs : s.runs = [.plain content]

theorem unmatched_plain (pattern content : Text) (error : Option Text) :
    (plain content (annotate pattern) error).Unmatched pattern content where
  tokens := rfl
  matched := rfl
  captures := rfl
  hasCaptureGroups := rfl
  runs := highlight_nil content

section Engine

variable [Engine]

/-- Every match that is not empty has a highlighted run of its own, where it lies. -/
structure Highlights (re : Engine.Compiled) (content : Text) (s : Snapshot) : Prop where
  matched : s.matched = Engine.find re content
  marked : Run.markedFrom 0 s.runs = s.visible
  texts : (s.runs.filter (·.highlighted)).map (fun r => some r.text) =
    s.visible.map fun m => content.slice? m.start m.stop
  count : s.runs.countP (·.highlighted) + s.matched.countP (fun m => m.start = m.stop) =
    s.matchCount

/-- What is shown of a pattern and a content comes from that pattern and that content. -/
structure Coherent (pattern content : Text) (s : Snapshot) : Prop where
  flatMap_tokens : s.tokens.flatMap Token.text = pattern
  flatMap_runs : s.runs.flatMap Run.text = content
  error_iff : ∀ message, s.error = some message ↔
    pattern ≠ [] ∧ ∃ e, Engine.compile pattern = .error e ∧ e.message = message
  of_error : s.error.isSome → s.Unmatched pattern content
  of_compile : ∀ re, pattern ≠ [] → Engine.compile pattern = .ok re → s.Highlights re content
  showsCaptures_iff : s.showsCaptures = true ↔
    RegexExplainer.hasCaptureGroups pattern = true ∧
      (∃ re, Engine.compile pattern = .ok re ∧ 0 < Engine.groupCount re) ∧ 0 < s.matchCount

theorem compute_of_error {pattern : Text} {e : CompileError} (hp : pattern ≠ [])
    (h : Engine.compile pattern = .error e) (content : Text) :
    compute pattern content = plain content (annotate pattern) (some e.message) := by
  unfold compute
  rw [if_neg (mt List.isEmpty_iff.mp hp), evaluate_of_error h]

theorem compute_of_compile {pattern : Text} {re : Engine.Compiled} (hp : pattern ≠ [])
    (h : Engine.compile pattern = .ok re) (content : Text) :
    compute pattern content =
      ⟨annotate pattern, Engine.find re content,
        if RegexExplainer.hasCaptureGroups pattern then .ofMatches (Engine.captures re content)
        else [],
        RegexExplainer.hasCaptureGroups pattern, highlight content (Engine.find re content),
        none⟩ := by
  unfold compute
  rw [if_neg (mt List.isEmpty_iff.mp hp), evaluate_of_compile h]
  rfl

theorem coherent_compute_nil (content : Text) : (compute [] content).Coherent [] content where
  flatMap_tokens := rfl
  flatMap_runs := flatMap_text_highlight content []
  error_iff _ := ⟨nofun, fun h => absurd rfl h.1⟩
  of_error := nofun
  of_compile _ hp := absurd rfl hp
  showsCaptures_iff := ⟨nofun, fun h => nomatch h.1⟩

theorem coherent_compute_of_error {pattern : Text} {e : CompileError} (hp : pattern ≠ [])
    (h : Engine.compile pattern = .error e) (content : Text) :
    (compute pattern content).Coherent pattern content := by
  rw [compute_of_error hp h]
  constructor
  case flatMap_tokens => exact Token.flatMap_text_placeFrom pattern 0 0
  case flatMap_runs => exact flatMap_text_highlight content []
  case error_iff =>
    intro message
    constructor
    · intro hmessage
      exact ⟨hp, e, h, Option.some.inj hmessage⟩
    · rintro ⟨-, e', h', rfl⟩
      rw [Except.error.inj (h.symm.trans h')]
      rfl
  case of_error => exact fun _ => unmatched_plain pattern content _
  case of_compile =>
    intro re _ hre
    exact nomatch h.symm.trans hre
  case showsCaptures_iff =>
    constructor
    · exact nofun
    · rintro ⟨-, ⟨re, hre, -⟩, -⟩
      exact nomatch h.symm.trans hre

theorem highlights_compute (h : Engine.AgreesInOrder) {pattern : Text} {re : Engine.Compiled}
    (hp : pattern ≠ []) (hre : Engine.compile pattern = .ok re) (content : Text) :
    (compute pattern content).Highlights re content := by
  have hordered := h.orderedFrom_find re content
  rw [compute_of_compile hp hre]
  constructor
  case matched => rfl
  case marked => exact hordered.markedFrom_highlight
  case texts => exact hordered.map_text_highlight
  case count =>
    rw [Run.countP_highlighted 0, hordered.markedFrom_highlight]
    exact hordered.length_filter_add_countP

theorem showsCaptures_compute (h : Engine.Agrees) {pattern : Text} {re : Engine.Compiled}
    (hp : pattern ≠ []) (hre : Engine.compile pattern = .ok re) (content : Text) :
    (compute pattern content).showsCaptures = true ↔
      RegexExplainer.hasCaptureGroups pattern = true ∧
        0 < Engine.groupCount re ∧ Engine.find re content ≠ [] := by
  rw [compute_of_compile hp hre, showsCaptures, Bool.and_eq_true]
  refine and_congr_right ?_
  intro hgroups
  rw [if_pos hgroups, Bool.not_eq_true', List.isEmpty_eq_false_iff, Ne,
    CaptureSet.ofMatches_eq_nil_iff (h.length_groups re content), h.captures_eq_nil_iff, not_or,
    Nat.pos_iff_ne_zero]

theorem coherent_compute_of_compile (h : Engine.AgreesInOrder) {pattern : Text}
    {re : Engine.Compiled} (hp : pattern ≠ []) (hre : Engine.compile pattern = .ok re)
    (content : Text) : (compute pattern content).Coherent pattern content := by
  have hcompute := compute_of_compile hp hre content
  have hunique : ∀ {re'}, Engine.compile pattern = .ok re' → re' = re :=
    fun h' => Except.ok.inj (h'.symm.trans hre)
  constructor
  case flatMap_tokens =>
    rw [hcompute]
    exact Token.flatMap_text_placeFrom pattern 0 0
  case flatMap_runs =>
    rw [hcompute]
    exact flatMap_text_highlight content _
  case error_iff =>
    intro message
    rw [hcompute]
    constructor
    · exact nofun
    · rintro ⟨-, e, he, -⟩
      exact nomatch hre.symm.trans he
  case of_error =>
    rw [hcompute]
    exact nofun
  case of_compile =>
    intro re' _ hre'
    rw [hunique hre']
    exact highlights_compute h hp hre content
  case showsCaptures_iff =>
    have hcount : 0 < (compute pattern content).matchCount ↔ Engine.find re content ≠ [] := by
      rw [hcompute, matchCount, List.length_pos_iff]
    rw [showsCaptures_compute h.toAgrees hp hre, hcount]
    refine and_congr_right fun _ => and_congr_left fun _ => ?_
    constructor
    · intro hgroups
      exact ⟨re, hre, hgroups⟩
    · rintro ⟨re', hre', hgroups⟩
      rwa [hunique hre'] at hgroups

/-- The empty pattern, one that does not compile and one that does all give a coherent snapshot. -/
theorem coherent_compute (h : Engine.AgreesInOrder) (pattern content : Text) :
    (compute pattern content).Coherent pattern content := by
  by_cases hp : pattern = []
  · subst hp
    exact coherent_compute_nil content
  · cases hre : Engine.compile pattern with
    | error e => exact coherent_compute_of_error hp hre content
    | ok re => exact coherent_compute_of_compile h hp hre content

end Engine

/-- The pattern `a|b*`. In the content `éab` it matches nothing before `é`, and then `a` and `b` side
by side, which have a run each. -/
def letterOrNone : Text := ['a', '|', 'b', '*']

theorem coherent_compute_letterOrNone :
    (compute letterOrNone ['é', 'a', 'b']).Coherent letterOrNone ['é', 'a', 'b'] ∧
      (compute letterOrNone ['é', 'a', 'b']).matched = [⟨0, 0⟩, ⟨2, 3⟩, ⟨3, 4⟩] ∧
      (compute letterOrNone ['é', 'a', 'b']).runs =
        [.plain ['é'], .marked ['a'], .marked ['b']] :=
  ⟨coherent_compute Regex.agreesInOrder _ _, by decide +kernel, by decide +kernel⟩

end Snapshot

end RegexExplainer
