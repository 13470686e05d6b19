import RegexExplainer.Evaluation
import RegexExplainer.Proofs.Token.Grammar

/- The guess whether a pattern captures, against its tokens. The guess counts parentheses that no
backslash escapes, and takes off every `(?:`. What it takes off wrongly are the escaped ones. -/
namespace RegexExplainer

/-- An escaped parenthesis with `?:` right after it in the pattern. -/
def Token.isEscapedNonCapturing (pattern : Text) (t : Token) : Bool :=
  t.kind == .escape && t.text == ['\\', '('] &&
    (pattern.from? t.span.stop).any fun rest => ['?', ':'].isPrefixOf rest

theorem OpenCount.foldl_read_of_notMem {s : Text} (hslash : '\\' ∉ s) (hopen : '(' ∉ s) (n : Nat) :
    s.foldl read ⟨n, false⟩ = ⟨n, false⟩ := by
  induction s with
  | nil => rfl
  | cons c s ih =>
      rw [List.mem_cons, not_or] at hslash hopen
      have hread : read ⟨n, false⟩ c = ⟨n, false⟩ := by
        simp [read, Ne.symm hslash.1, Ne.symm hopen.1]
      rw [List.foldl_cons, hread, ih hslash.2 hopen.2]

theorem countNonCapturing_cons (c : Char) (t : Text) :
    countNonCapturing (c :: t) =
      (if c = '(' ∧ Lexeme.opensNonCapturing t then 1 else 0) + countNonCapturing t := by
  have hprefix : ['(', '?', ':'].isPrefixOf (c :: t) = ('(' == c && Lexeme.opensNonCapturing t) := rfl
  rw [countNonCapturing, hprefix]
  simp only [Bool.and_eq_true, beq_iff_eq, @eq_comm _ '(' c]

theorem countNonCapturing_of_ne {c : Char} (h : c ≠ '(') (t : Text) :
    countNonCapturing (c :: t) = countNonCapturing t := by
  simp [countNonCapturing_cons, h]

theorem countNonCapturing_append {s : Text} (h : '(' ∉ s) (t : Text) :
    countNonCapturing (s ++ t) = countNonCapturing t := by
  induction s with
  | nil => rfl
  | cons c s ih =>
      rw [List.mem_cons, not_or] at h
      rw [List.cons_append, countNonCapturing_of_ne (Ne.symm h.1), ih h.2]

namespace Lexeme

variable {rest text : Text} {kind : Kind}

/-- The pieces that a text can begin with, as far as backslashes and opening parentheses go. -/
inductive ParenReads : Text → Text → Kind → Prop
  | plain {text after : Text} {kind : Kind} : '\\' ∉ text → '(' ∉ text → kind ≠ .escape →
      kind ≠ .groupOpen → kind ≠ .groupOpenNonCapturing → ParenReads (text ++ after) text kind
  | escape {c : Char} {after : Text} : ParenReads ('\\' :: c :: after) ['\\', c] .escape
  | backslash : ParenReads ['\\'] ['\\'] .literal
  | groupOpenNonCapturing {after : Text} : opensNonCapturing after = true →
      ParenReads ('(' :: after) ['('] .groupOpenNonCapturing
  | groupOpen {after : Text} : opensNonCapturing after = false →
      ParenReads ('(' :: after) ['('] .groupOpen

theorem Reads.parenReads (h : Reads rest text kind) : ParenReads rest text kind := by
  have hsingle {c : Char} {after : Text} {kind : Kind} (hslash : c ≠ '\\') (hopen : c ≠ '(')
      (hkind : kind ∉ [.escape, .groupOpen, .groupOpenNonCapturing]) :
      ParenReads (c :: after) [c] kind := by
    simp only [List.mem_cons, List.not_mem_nil, or_false, not_or] at hkind
    have hmem {d : Char} (hd : c ≠ d) : d ∉ [c] := fun hm => hd (List.mem_singleton.mp hm).symm
    exact @ParenReads.plain [c] after kind (hmem hslash) (hmem hopen) hkind.1 hkind.2.1 hkind.2.2
  cases h with
  | @range content after hcontent =>
      have hvalid := rangeContent_iff.mp hcontent
      have hslash : '\\' ∉ content := Bounds.notMem_of_parse? hvalid (by decide)
      have hopen : '(' ∉ content := Bounds.notMem_of_parse? hvalid (by decide)
      have hplain : ParenReads ('\x7b' :: (content ++ ['\x7d']) ++ after)
          ('\x7b' :: (content ++ ['\x7d'])) .quantifierRange :=
        .plain (by simp [hslash]) (by simp [hopen]) nofun nofun nofun
      simpa using hplain
  | brace => exact hsingle (by decide) (by decide) (by decide)
  | escape => exact .escape
  | backslash => exact .backslash
  | groupOpenNonCapturing => exact .groupOpenNonCapturing rfl
  | groupOpen hnone => exact .groupOpen (opensNonCapturing_eq_false_iff.mpr hnone)
  | groupClose => exact hsingle (by decide) (by decide) (by decide)
  | alternation => exact hsingle (by decide) (by decide) (by decide)
  | metaChar hc =>
      exact hsingle (ne_of_mem_of_not_mem hc (by decide)) (ne_of_mem_of_not_mem hc (by decide))
        (by decide)
  | quantifier hc =>
      exact hsingle (ne_of_mem_of_not_mem hc (by decide)) (ne_of_mem_of_not_mem hc (by decide))
        (by decide)
  | literal hc =>
      simp only [reserved, List.mem_cons, List.not_mem_nil, or_false, not_or] at hc
      exact hsingle hc.2.1 hc.2.2.1 (by decide)

/-- A piece adds one to the parentheses that the guess counts when it opens a group. -/
theorem ParenReads.opens_foldl_read (h : ParenReads rest text kind) (n : Nat) :
    (rest.foldl OpenCount.read ⟨n, false⟩).opens =
      ((rest.drop text.length).foldl OpenCount.read
        ⟨n + (if kind = .groupOpen then 1 else 0) + (if kind = .groupOpenNonCapturing then 1 else 0),
          false⟩).opens := by
  cases h with
  | plain hslash hopen hescape hgroup hnone =>
      rw [List.foldl_append, OpenCount.foldl_read_of_notMem hslash hopen, List.drop_left,
        if_neg hgroup, if_neg hnone]
      rfl
  | escape => rfl
  | backslash => rfl
  | groupOpenNonCapturing => rfl
  | groupOpen => rfl

/-- A piece adds one to the places of `(?:` when it opens a group that captures nothing, or when it is
an escaped parenthesis before `?:`. -/
theorem ParenReads.countNonCapturing_eq (h : ParenReads rest text kind) :
    countNonCapturing rest =
      (if kind = .groupOpenNonCapturing then 1 else 0) +
        (if kind = .escape ∧ text = ['\\', '('] ∧ opensNonCapturing (rest.drop text.length) then 1
          else 0) +
        countNonCapturing (rest.drop text.length) := by
  cases h with
  | plain hslash hopen hescape hgroup hnone =>
      rw [countNonCapturing_append hopen, List.drop_left, if_neg hnone,
        if_neg fun hand => hescape hand.1, Nat.zero_add]
  | escape =>
      rw [countNonCapturing_of_ne (by decide), countNonCapturing_cons]
      simp
  | backslash => decide
  | groupOpenNonCapturing hopens =>
      rw [countNonCapturing_cons, hopens]
      rfl
  | groupOpen hopens =>
      rw [countNonCapturing_cons, hopens]
      rfl

end Lexeme

namespace Token

theorem isEscapedNonCapturing_ofLexeme {pattern before rest : Text}
    (h : Lexeme.Boundary pattern before rest) (hne : rest ≠ []) (depth : Nat) :
    (ofLexeme before.size depth (Lexeme.next rest)).isEscapedNonCapturing pattern = true ↔
      (Lexeme.next rest).kind = .escape ∧ (Lexeme.next rest).text = ['\\', '('] ∧
        Lexeme.opensNonCapturing (rest.drop (Lexeme.next rest).text.length) = true := by
  simp only [isEscapedNonCapturing, ofLexeme, h.from?_stop hne, Option.any_some, Bool.and_eq_true,
    beq_iff_eq, and_assoc]
  rfl

/-- The counts of the guess from a boundary on, by the tokens from there on. -/
theorem counts_placeFrom {pattern before rest : Text} (h : Lexeme.Boundary pattern before rest)
    (depth n : Nat) :
    (rest.foldl OpenCount.read ⟨n, false⟩).opens =
        n + (placeFrom before.size depth (Lexeme.all rest)).countP (·.kind = .groupOpen) +
          (placeFrom before.size depth (Lexeme.all rest)).countP (·.kind = .groupOpenNonCapturing) ∧
      countNonCapturing rest =
        (placeFrom before.size depth (Lexeme.all rest)).countP (·.kind = .groupOpenNonCapturing) +
          (placeFrom before.size depth (Lexeme.all rest)).countP (isEscapedNonCapturing pattern) := by
  induction rest using Lexeme.all.induct generalizing before depth n with
  | case1 =>
      rw [Lexeme.all_nil]
      exact ⟨rfl, rfl⟩
  | case2 rest hne hlt ih =>
      have hreads := (Lexeme.reads_next hne).parenReads
      have hescaped := isEscapedNonCapturing_ofLexeme h hne depth
      obtain ⟨hopens, hplaces⟩ := ih (h.step hne) ((Lexeme.next rest).kind.depthAfter depth)
        (n + (if (Lexeme.next rest).kind = .groupOpen then 1 else 0) +
          (if (Lexeme.next rest).kind = .groupOpenNonCapturing then 1 else 0))
      rw [hreads.opens_foldl_read, hreads.countNonCapturing_eq, hopens, hplaces, placeFrom_all hne,
        Text.size_append]
      simp only [List.countP_cons, hescaped, decide_eq_true_eq]
      change _ = n + (_ + if (Lexeme.next rest).kind = .groupOpen then 1 else 0) +
        (_ + if (Lexeme.next rest).kind = .groupOpenNonCapturing then 1 else 0) ∧
        _ = _ + (if (Lexeme.next rest).kind = .groupOpenNonCapturing then 1 else 0) + _
      simp only [Lexeme.length]
      constructor
      · ac_rfl
      · ac_rfl

end Token

/-- A pattern is taken to capture exactly when more groups open in it than there are escaped
parentheses with `?:` after them. -/
theorem hasCaptureGroups_iff (pattern : Text) :
    (hasCaptureGroups pattern = true ↔
        (annotate pattern).countP (Token.isEscapedNonCapturing pattern) <
          (annotate pattern).countP (·.kind = .groupOpen)) ∧
      ((∀ t ∈ annotate pattern, t.kind ≠ .groupOpen) → hasCaptureGroups pattern = false) ∧
      ((∀ t ∈ annotate pattern, t.isEscapedNonCapturing pattern = false) →
        (hasCaptureGroups pattern = true ↔ ∃ t ∈ annotate pattern, t.kind = .groupOpen)) := by
  have hiff : hasCaptureGroups pattern = true ↔
      (annotate pattern).countP (Token.isEscapedNonCapturing pattern) <
        (annotate pattern).countP (·.kind = .groupOpen) := by
    have hcounts := Token.counts_placeFrom (@Lexeme.Boundary.start pattern) 0 0
    change _ = 0 + (annotate pattern).countP _ + (annotate pattern).countP _ ∧
      _ = (annotate pattern).countP _ + (annotate pattern).countP _ at hcounts
    rw [hasCaptureGroups, decide_eq_true_iff, OpenCount.ofText, OpenCount.none, hcounts.1, hcounts.2]
    omega
  refine ⟨hiff, ?_, ?_⟩
  · intro hopen
    have hzero : (annotate pattern).countP (·.kind = .groupOpen) = 0 := by
      simpa only [List.countP_eq_zero, decide_eq_true_eq] using hopen
    rw [← Bool.not_eq_true, hiff, hzero]
    exact Nat.not_lt_zero _
  · intro hescaped
    have hzero : (annotate pattern).countP (Token.isEscapedNonCapturing pattern) = 0 := by
      simpa only [List.countP_eq_zero, Bool.not_eq_true] using hescaped
    rw [hiff, hzero, List.countP_pos_iff]
    simp only [decide_eq_true_eq]

/-- The escaped parenthesis of `\(?:(a)` hides the group after it. -/
example : hasCaptureGroups ['\\', '(', '?', ':', '(', 'a', ')'] = false := by decide

end RegexExplainer
