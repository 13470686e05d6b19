import Mathlib.Data.List.GetD
import Mathlib.Data.List.Induction
import RegexExplainer.Proofs.Snapshot.Coherent

/- A session shows what its pattern and its content give, whatever was set before them, and also when
it goes back to a copy. Nothing is left over from an earlier pattern. -/
namespace RegexExplainer

namespace Session

inductive Change
  | setPattern (pattern : Text)
  | setContent (content : Text)
deriving DecidableEq

def change [Engine] (s : Session) : Change → Session
  | .setPattern pattern => s.setPattern pattern
  | .setContent content => s.setContent content

/-- A copy is kept at any time, and any of those kept is gone back to: number `n` is the one before
the last `n`. -/
inductive Move
  | change (c : Change)
  | keep
  | goBack (n : Nat)
deriving DecidableEq

/-- What changes, with the copies of it, the latest first. -/
structure Copied (α : Type) where
  current : α
  kept : List α

namespace Copied

variable {α β : Type}

def move (f : α → Change → α) (s : Copied α) : Move → Copied α
  | .change c => { s with current := f s.current c }
  | .keep => { s with kept := s.current :: s.kept }
  | .goBack n => { s with current := s.kept.getD n s.current }

def moveAll (f : α → Change → α) (s : Copied α) (moves : List Move) : Copied α :=
  moves.foldl (move f) s

def map (g : α → β) (s : Copied α) : Copied β := ⟨g s.current, s.kept.map g⟩

variable {f : α → Change → α} {f' : β → Change → β} {g : α → β}

theorem map_move (h : ∀ a c, g (f a c) = f' (g a) c) (s : Copied α) (m : Move) :
    (s.move f m).map g = (s.map g).move f' m := by
  cases m with
  | change c => exact congrArg (mk · (s.kept.map g)) (h s.current c)
  | keep => rfl
  | goBack n => exact congrArg (mk · (s.kept.map g)) (List.getD_map _ _ g).symm

/-- What changes alike is copied alike. -/
theorem map_moveAll (h : ∀ a c, g (f a c) = f' (g a) c) (s : Copied α) (moves : List Move) :
    (s.moveAll f moves).map g = (s.map g).moveAll f' moves := by
  induction moves generalizing s with
  | nil => rfl
  | cons m moves ih =>
      change ((s.move f m).moveAll f moves).map g = ((s.map g).move f' m).moveAll f' moves
      rw [ih, map_move h]

end Copied

/-- The changes from the start to the current session, those before a copy was kept included when
it was gone back to. -/
def lineage (moves : List Move) : List Change :=
  (Copied.moveAll (fun changes c => changes ++ [c]) ⟨[], []⟩ moves).current

/-- Without copies the lineage is all that was changed. -/
theorem lineage_map_change (changes : List Change) : lineage (changes.map .change) = changes := by
  have hall (before : List Change) : (Copied.moveAll (fun changes c => changes ++ [c])
      ⟨before, []⟩ (changes.map .change)).current = before ++ changes := by
    induction changes generalizing before with
    | nil => exact (List.append_nil before).symm
    | cons c changes ih => exact (ih (before ++ [c])).trans (List.append_assoc before [c] changes)
  exact hall []

/-- The pattern `b` is set after the copy was kept. -/
example : lineage [.change (.setPattern ['a']), .keep, .change (.setPattern ['b']), .goBack 0,
    .change (.setContent ['c'])] = [.setPattern ['a'], .setContent ['c']] := by
  decide

/-- The last pattern that is set, or else the empty one. -/
def lastPattern (changes : List Change) : Text :=
  (changes.filterMap fun | .setPattern pattern => some pattern | _ => none).getLast?.getD []

/-- The last content that is set, or else the one at the start. -/
def lastContent (content : Text) (changes : List Change) : Text :=
  (changes.filterMap fun | .setContent content => some content | _ => none).getLast?.getD content

section Engine

variable [Engine]

def replay (content : Text) (changes : List Change) : Session := changes.foldl change (start content)

def after (content : Text) (moves : List Move) : Session :=
  (Copied.moveAll change ⟨start content, []⟩ moves).current

theorem replay_concat (content : Text) (changes : List Change) (c : Change) :
    replay content (changes ++ [c]) = (replay content changes).change c := by
  rw [replay, List.foldl_append]
  rfl

/-- The start is no exception: its snapshot is that of the empty pattern. -/
theorem replay_eq (content : Text) (changes : List Change) :
    replay content changes =
      ⟨lastContent content changes, lastPattern changes,
        .compute (lastPattern changes) (lastContent content changes)⟩ := by
  induction changes using List.reverseRecOn with
  | nil => rfl
  | append_singleton changes c ih =>
      rw [replay_concat, ih]
      cases c with
      | setPattern pattern => simp [change, setPattern, lastPattern, lastContent]
      | setContent content' => simp [change, setContent, lastPattern, lastContent]

theorem after_eq_replay (content : Text) (moves : List Move) :
    after content moves = replay content (lineage moves) := by
  have hmap := Copied.map_moveAll (replay_concat content) ⟨[], []⟩ moves
  exact (congrArg Copied.current hmap).symm

/-- A session after some changes: it depends on what was set last alone. -/
structure Current (content : Text) (changes : List Change) (s : Session) : Prop where
  pattern_eq : s.pattern = lastPattern changes
  content_eq : s.content = lastContent content changes
  snapshot_eq : s.snapshot = .compute s.pattern s.content
  eq_of_same : ∀ content' moves, s.pattern = (after content' moves).pattern →
    s.content = (after content' moves).content → s.snapshot = (after content' moves).snapshot
  commutes : ∀ pattern content',
    (s.setPattern pattern).setContent content' = (s.setContent content').setPattern pattern
  of_empty : s.pattern = [] → s.snapshot.Unmatched [] s.content ∧ s.snapshot.error = none
  of_error : ∀ e, s.pattern ≠ [] → Engine.compile s.pattern = .error e →
    s.snapshot.Unmatched s.pattern s.content ∧ s.snapshot.error = some e.message

theorem current_replay (content : Text) (changes : List Change) :
    Current content changes (replay content changes) := by
  have hsnapshot (content : Text) (changes : List Change) : (replay content changes).snapshot =
      .compute (replay content changes).pattern (replay content changes).content := by
    rw [replay_eq]
  constructor
  case pattern_eq => rw [replay_eq]
  case content_eq => rw [replay_eq]
  case snapshot_eq => exact hsnapshot content changes
  case eq_of_same =>
    intro content' moves hpattern hcontent
    rw [after_eq_replay] at hpattern hcontent ⊢
    rw [hsnapshot, hsnapshot, hpattern, hcontent]
  case commutes =>
    intro pattern content'
    rfl
  case of_empty =>
    intro hempty
    have hplain := Snapshot.unmatched_plain [] (replay content changes).content none
    rw [Token.annotate_nil] at hplain
    rw [hsnapshot, hempty]
    exact ⟨hplain, rfl⟩
  case of_error =>
    intro e hne he
    rw [hsnapshot, Snapshot.compute_of_error hne he]
    exact ⟨Snapshot.unmatched_plain _ _ _, rfl⟩

end Engine

end Session

namespace Workspace

/-- The one copy that a workspace keeps is the latest. -/
def move : Step → Session.Move
  | .setPattern pattern => .change (.setPattern pattern)
  | .setContent content => .change (.setContent content)
  | .keep => .keep
  | .goBack => .goBack 0

def ofCopied (s : Session.Copied Session) : Workspace := ⟨s.current, s.kept.head?⟩

theorem perform_ofCopied [Engine] (s : Session.Copied Session) (step : Step) :
    (ofCopied s).perform step = ofCopied (s.move Session.change (move step)) := by
  cases step with
  | setPattern pattern => rfl
  | setContent content => rfl
  | keep => rfl
  | goBack =>
      obtain ⟨current, kept⟩ := s
      cases kept with
      | nil => rfl
      | cons copy kept => rfl

theorem performAll_ofCopied [Engine] (s : Session.Copied Session) (steps : List Step) :
    (ofCopied s).performAll steps = ofCopied (s.moveAll Session.change (steps.map move)) := by
  induction steps generalizing s with
  | nil => rfl
  | cons step steps ih =>
      change ((ofCopied s).perform step).performAll steps = _
      rw [perform_ofCopied, ih]
      rfl

theorem session_performAll [Engine] (content : Text) (steps : List Step) :
    ((start content).performAll steps).session = Session.after content (steps.map move) :=
  congrArg Workspace.session (performAll_ofCopied ⟨.start content, []⟩ steps)

end Workspace

/-- A session is current after changes alone, with any number of copies, and in a workspace. -/
theorem Session.current_after [Engine] (content : Text) :
    (∀ changes, Current content changes (after content (changes.map .change))) ∧
      (∀ moves, Current content (lineage moves) (after content moves)) ∧
      ∀ steps, Current content (lineage (steps.map Workspace.move))
        ((Workspace.start content).performAll steps).session := by
  have hmoves (moves : List Move) : Current content (lineage moves) (after content moves) := by
    rw [after_eq_replay]
    exact current_replay content (lineage moves)
  refine ⟨?_, hmoves, ?_⟩
  · intro changes
    have hchanges := hmoves (changes.map .change)
    rwa [lineage_map_change] at hchanges
  · intro steps
    rw [Workspace.session_performAll]
    exact hmoves (steps.map Workspace.move)

end RegexExplainer
