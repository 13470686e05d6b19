import Mathlib.Data.List.Induction
import RegexExplainer.Proofs.Token.Scan

/- The depth of a pattern against a stack of its open groups. A closer closes the group opened last,
while the depth forgets which kind of group that is. So it is at most the number of capturing groups
that are open, and equal to it where no other groups open. -/
namespace RegexExplainer

inductive OpenGroup
  | capturing | nonCapturing
deriving DecidableEq

/-- A closer without an opener changes nothing. -/
def Kind.stackAfter (stack : List OpenGroup) : Kind → List OpenGroup
  | .groupOpen => .capturing :: stack
  | .groupOpenNonCapturing => .nonCapturing :: stack
  | .groupClose => stack.tail
  | _ => stack

namespace Kind

theorem shownDepth_groupOpen (depth : Nat) : groupOpen.shownDepth depth = depth := rfl

theorem shownDepth_eq_depthAfter {k : Kind} (h : k ≠ .groupOpen) (depth : Nat) :
    k.shownDepth depth = k.depthAfter depth := by
  cases k with
  | groupOpen => exact absurd rfl h
  | _ => rfl

theorem depthAfter_le_count {depth : Nat} {stack : List OpenGroup}
    (h : depth ≤ stack.count .capturing) (k : Kind) :
    k.depthAfter depth ≤ (k.stackAfter stack).count .capturing := by
  cases k with
  | groupOpen =>
      rw [stackAfter, List.count_cons_self]
      exact Nat.succ_le_succ h
  | groupOpenNonCapturing =>
      rw [stackAfter, List.count_cons_of_ne (by decide)]
      exact h
  | groupClose =>
      cases stack with
      | nil => exact Nat.le_trans (Nat.sub_le depth 1) h
      | cons group stack =>
          cases group with
          | capturing =>
              rw [List.count_cons_self] at h
              exact Nat.sub_le_of_le_add h
          | nonCapturing =>
              rw [List.count_cons_of_ne (by decide)] at h
              exact Nat.le_trans (Nat.sub_le depth 1) h
  | _ => exact h

/-- As long as all open groups capture, the stack is its own height. -/
theorem stackAfter_replicate {k : Kind} (h : k ≠ .groupOpenNonCapturing) (depth : Nat) :
    k.stackAfter (List.replicate depth .capturing) =
      List.replicate (k.depthAfter depth) .capturing := by
  cases k with
  | groupOpenNonCapturing => exact absurd rfl h
  | groupOpen => rfl
  | groupClose => exact List.tail_replicate
  | _ => rfl

end Kind

namespace Token

/-- How many capturing groups count as open after some tokens. -/
def depthAfter (tokens : List Token) : Nat :=
  tokens.foldl (fun depth t => t.kind.depthAfter depth) 0

/-- The groups that are open after some tokens, the last one first. -/
def stackAfter (tokens : List Token) : List OpenGroup :=
  tokens.foldl (fun stack t => t.kind.stackAfter stack) []

theorem depthAfter_concat (tokens : List Token) (t : Token) :
    depthAfter (tokens ++ [t]) = t.kind.depthAfter (depthAfter tokens) :=
  List.foldl_concat _ _ _ _

theorem stackAfter_concat (tokens : List Token) (t : Token) :
    stackAfter (tokens ++ [t]) = t.kind.stackAfter (stackAfter tokens) :=
  List.foldl_concat _ _ _ _

theorem depthAfter_le_count (tokens : List Token) :
    depthAfter tokens ≤ (stackAfter tokens).count .capturing := by
  induction tokens using List.reverseRecOn with
  | nil => exact Nat.le_refl 0
  | append_singleton tokens t ih =>
      rw [depthAfter_concat, stackAfter_concat]
      exact Kind.depthAfter_le_count ih t.kind

theorem stackAfter_eq_replicate {tokens : List Token}
    (h : ∀ t ∈ tokens, t.kind ≠ .groupOpenNonCapturing) :
    stackAfter tokens = List.replicate (depthAfter tokens) .capturing := by
  induction tokens using List.reverseRecOn with
  | nil => rfl
  | append_singleton tokens t ih =>
      obtain ⟨htokens, ht⟩ := List.forall_mem_append.mp h
      rw [depthAfter_concat, stackAfter_concat, ih htokens]
      exact Kind.stackAfter_replicate (ht t List.mem_cons_self) _

/-- Tokens show the depth that the tokens before them leave. -/
theorem depth_eq_of_placeFrom {offset depth : Nat} {ls : List Lexeme} {past later : List Token}
    {t : Token} (h : placeFrom offset depth ls = past ++ t :: later) :
    t.depth = t.kind.shownDepth (past.foldl (fun depth t => t.kind.depthAfter depth) depth) := by
  induction ls generalizing offset depth past with
  | nil =>
      rw [placeFrom] at h
      simp at h
  | cons l ls ih =>
      rw [placeFrom] at h
      cases past with
      | nil =>
          obtain ⟨rfl, -⟩ := List.cons.inj h
          rfl
      | cons u past =>
          obtain ⟨rfl, htail⟩ := List.cons.inj h
          exact @ih (offset + l.length) (l.kind.depthAfter depth) past htail

theorem depthAfter_annotate (pattern : Text) : depthAfter (annotate pattern) = finalDepth pattern := by
  have hkinds : (annotate pattern).map kind = (Lexeme.all pattern).map Lexeme.kind :=
    map_placeFrom (fun _ kind => kind) 0 0 (Lexeme.all pattern)
  have hfold := congrArg (List.foldl Kind.depthAfter 0) hkinds
  rwa [List.foldl_map, List.foldl_map] at hfold

end Token

namespace Scan

variable {pattern : Text} {s s' : Scan}

theorem exists_token_of_step? (h : s.step? pattern = some s') :
    ∃ t, s'.tokens = s.tokens ++ [t] ∧ s'.depth = t.kind.depthAfter s.depth := by
  obtain ⟨p, -, hpush⟩ := Option.bind_eq_some_iff.mp h
  obtain ⟨text, -, rfl⟩ := Option.map_eq_some_iff.mp hpush
  exact ⟨_, rfl, rfl⟩

theorem Reached.depth_eq (h : Reached pattern s) : s.depth = Token.depthAfter s.tokens := by
  induction h with
  | start => rfl
  | step hs hlt hstep ih =>
      obtain ⟨t, htokens, hdepth⟩ := exists_token_of_step? hstep
      rw [hdepth, htokens, Token.depthAfter_concat, ih]

theorem Reached.tokens_prefix (h : Reached pattern s) : s.tokens <+: annotate pattern := by
  obtain ⟨before, rest, hf⟩ := h.follows
  exact ⟨_, hf.tokens.symm⟩

/-- The scan stops after each token. -/
theorem exists_reached {past : List Token} (h : past <+: annotate pattern) :
    ∃ s, Reached pattern s ∧ s.tokens = past := by
  induction past using List.reverseRecOn with
  | nil => exact ⟨start, .start, rfl⟩
  | append_singleton past t ih =>
      obtain ⟨s, hs, rfl⟩ := ih ((List.prefix_append _ _).trans h)
      obtain ⟨before, rest, hf⟩ := hs.follows
      have hne : rest ≠ [] := by
        rintro rfl
        have hlen := h.length_le
        rw [hf.tokens, Lexeme.all_nil, Token.placeFrom, List.append_nil, List.length_append] at hlen
        exact absurd hlen (Nat.not_succ_le_self _)
      obtain ⟨s', hstep, -⟩ := hf.step hne
      have hs' := hs.step (hf.offset_lt.mpr hne) hstep
      obtain ⟨t', htokens, -⟩ := exists_token_of_step? hstep
      have hlength : s'.tokens.length = (s.tokens ++ [t]).length := by
        rw [htokens, List.length_append, List.length_append]
        rfl
      have hprefix := List.prefix_of_prefix_length_le hs'.tokens_prefix h (Nat.le_of_eq hlength)
      exact ⟨s', hs', hprefix.eq_of_length hlength⟩

end Scan

/-- After each token, as a scan goes through a pattern, the depth is at most the number of capturing
groups that are open, and equal to it in a pattern without groups of the other kind. It comes back to
zero if all groups are closed. A token shows the depth before it if it opens a capturing group, and
else the depth after it. -/
theorem depth_le_capturing (pattern : Text) :
    (∀ past, past <+: annotate pattern ↔
        ∃ s, Scan.Reached pattern s ∧ s.tokens = past ∧ s.depth = Token.depthAfter past) ∧
      (∀ past, past <+: annotate pattern →
        Token.depthAfter past ≤ (Token.stackAfter past).count .capturing) ∧
      ((∀ t ∈ annotate pattern, t.kind ≠ .groupOpenNonCapturing) →
        ∀ past, past <+: annotate pattern →
          Token.depthAfter past = (Token.stackAfter past).count .capturing) ∧
      (Token.stackAfter (annotate pattern) = [] → finalDepth pattern = 0) ∧
      ∀ past t later, annotate pattern = past ++ t :: later →
        (t.kind = .groupOpen →
          t.depth = Token.depthAfter past ∧
            t.depth ≤ (Token.stackAfter past).count .capturing) ∧
        (t.kind ≠ .groupOpen →
          t.depth = Token.depthAfter (past ++ [t]) ∧
            t.depth ≤ (Token.stackAfter (past ++ [t])).count .capturing) := by
  refine ⟨?_, ?_, ?_, ?_, ?_⟩
  · intro past
    constructor
    · intro h
      obtain ⟨s, hs, rfl⟩ := Scan.exists_reached h
      exact ⟨s, hs, rfl, hs.depth_eq⟩
    · rintro ⟨s, hs, rfl, -⟩
      exact hs.tokens_prefix
  · intro past _
    exact Token.depthAfter_le_count past
  · intro hnone past hpast
    rw [Token.stackAfter_eq_replicate fun t ht => hnone t (hpast.subset ht),
      List.count_replicate_self]
  · intro hclosed
    have hle := Token.depthAfter_le_count (annotate pattern)
    rw [hclosed, Token.depthAfter_annotate] at hle
    exact Nat.le_zero.mp hle
  · intro past t later h
    have hdepth : t.depth = t.kind.shownDepth (Token.depthAfter past) :=
      Token.depth_eq_of_placeFrom h
    constructor
    · intro hopen
      rw [hopen, Kind.shownDepth_groupOpen] at hdepth
      exact ⟨hdepth, hdepth ▸ Token.depthAfter_le_count past⟩
    · intro hopen
      rw [Kind.shownDepth_eq_depthAfter hopen, ← Token.depthAfter_concat] at hdepth
      exact ⟨hdepth, hdepth ▸ Token.depthAfter_le_count (past ++ [t])⟩

/-- A closer of `(())` is met with the other group still open. -/
def nestedGroups : Text := ['(', '(', ')', ')']

theorem depth_le_capturing_nestedGroups :
    (∀ t ∈ annotate nestedGroups, t.kind ≠ .groupOpenNonCapturing) ∧
      (∀ past, past <+: annotate nestedGroups →
        Token.depthAfter past = (Token.stackAfter past).count .capturing) ∧
      Token.stackAfter (annotate nestedGroups) = [] ∧ finalDepth nestedGroups = 0 := by
  have hkinds : ∀ t ∈ annotate nestedGroups, t.kind ≠ .groupOpenNonCapturing := by
    decide +kernel
  have hclosed : Token.stackAfter (annotate nestedGroups) = [] := by
    decide +kernel
  obtain ⟨-, -, hequal, hzero, -⟩ := depth_le_capturing nestedGroups
  exact ⟨hkinds, hequal hkinds, hclosed, hzero hclosed⟩

/-- In `((?:)` the closer takes the depth back though it closes the inner group. -/
example : finalDepth ['(', '(', '?', ':', ')'] = 0 ∧
    Token.stackAfter (annotate ['(', '(', '?', ':', ')']) = [.capturing] := by
  decide +kernel

end RegexExplainer
