import RegexExplainer.Proofs.Text.Cut

/- Where a text stands in another, and the occurrences that a search from the left meets. -/
namespace RegexExplainer.Text

/-- That `w` stands in `t` at byte offset `n`. -/
def OccursAt (w t : Text) (n : Nat) : Prop := t.slice? n (n + size w) = some w

theorem occursAt_iff {w t : Text} {n : Nat} :
    OccursAt w t n ↔ ∃ before after, t = before ++ (w ++ after) ∧ n = size before := by
  constructor
  · intro h
    obtain ⟨before, after, ht, hn, -⟩ := slice?_eq_some_iff.mp h
    exact ⟨before, after, ht, hn⟩
  · rintro ⟨before, after, rfl, rfl⟩
    exact slice?_append before w after

/-- An occurrence at a cut is a beginning of what follows the cut. -/
theorem occursAt_size_iff {w before rest : Text} :
    OccursAt w (before ++ rest) (size before) ↔ w <+: rest := by
  rw [occursAt_iff]
  constructor
  · rintro ⟨before', after, ht, hn⟩
    obtain ⟨-, rfl⟩ := append_inj_of_size ht hn
    exact List.prefix_append w after
  · rintro ⟨after, rfl⟩
    exact ⟨before, after, rfl, rfl⟩

theorem OccursAt.size_le {w t : Text} {n : Nat} (h : OccursAt w t n) : n + size w ≤ size t := by
  obtain ⟨before, after, rfl, rfl⟩ := occursAt_iff.mp h
  simp only [size_append]
  omega

/-- An occurrence after a character does not begin inside it. -/
theorem OccursAt.size_append_le {w before rest : Text} {c : Char} {n : Nat}
    (h : OccursAt w (before ++ c :: rest) n) (hlt : size before < n) :
    size (before ++ [c]) ≤ n := by
  obtain ⟨before', after, heq, rfl⟩ := occursAt_iff.mp h
  rcases List.append_eq_append_iff.mp heq with ⟨x, rfl, hx⟩ | ⟨x, rfl, hx⟩
  · cases x with
    | nil =>
        rw [List.append_nil] at hlt
        exact absurd hlt (Nat.lt_irrefl _)
    | cons d x =>
        obtain ⟨rfl, -⟩ := List.cons.inj hx
        simp only [size_append, size_cons, size_nil]
        omega
  · rw [size_append] at hlt
    omega

/-- The span is that of the first occurrence at or after `cursor`, or there is none. -/
def FirstFrom (w t : Text) (cursor : Nat) : Option Span → Prop
  | none => ∀ n, cursor ≤ n → ¬ OccursAt w t n
  | some s =>
    cursor ≤ s.start ∧ OccursAt w t s.start ∧ s.stop = s.start + size w ∧
      ∀ n, cursor ≤ n → OccursAt w t n → s.start ≤ n

/-- A character at which no occurrence begins may be passed. -/
theorem FirstFrom.of_next {w read rest : Text} {c : Char} {found : Option Span}
    (hle : ¬ w <+: c :: rest)
    (h : FirstFrom w (read ++ c :: rest) (size read + c.utf8Size) found) :
    FirstFrom w (read ++ c :: rest) (size read) found := by
  have hlater : ∀ n, size read ≤ n → OccursAt w (read ++ c :: rest) n →
      size read + c.utf8Size ≤ n := by
    intro n hn hat
    have hne : size read ≠ n := by
      rintro rfl
      exact hle (occursAt_size_iff.mp hat)
    have hnext := hat.size_append_le (Nat.lt_of_le_of_ne hn hne)
    rwa [size_append, size_cons, size_nil] at hnext
  cases found with
  | none =>
      intro n hn hat
      exact h n (hlater n hn hat) hat
  | some s =>
      obtain ⟨hcursor, hat, hstop, hfirst⟩ := h
      refine ⟨Nat.le_trans (Nat.le_add_right _ _) hcursor, hat, hstop, ?_⟩
      intro n hn hat
      exact hfirst n (hlater n hn hat) hat

/-- The spans are those of the first occurrence at or after `cursor`, of the first one at or after
its end, and so on until there is none. -/
def LeftmostFrom (w t : Text) (cursor : Nat) : List Span → Prop
  | [] => FirstFrom w t cursor none
  | s :: spans => FirstFrom w t cursor (some s) ∧ LeftmostFrom w t s.stop spans

/-- The spans are those of the leftmost occurrences that do not overlap, in order. -/
def Leftmost (w t : Text) (spans : List Span) : Prop := LeftmostFrom w t 0 spans

theorem FirstFrom.unique {w t : Text} {cursor : Nat} {found found' : Option Span}
    (h : FirstFrom w t cursor found) (h' : FirstFrom w t cursor found') : found = found' := by
  cases found with
  | none =>
      cases found' with
      | none => rfl
      | some s' => exact absurd h'.2.1 (h s'.start h'.1)
  | some s =>
      cases found' with
      | none => exact absurd h.2.1 (h' s.start h.1)
      | some s' =>
          obtain ⟨hle, hat, hstop, hfirst⟩ := h
          obtain ⟨hle', hat', hstop', hfirst'⟩ := h'
          have hstart : s.start = s'.start :=
            Nat.le_antisymm (hfirst s'.start hle' hat') (hfirst' s.start hle hat)
          cases s
          cases s'
          simp_all

theorem LeftmostFrom.unique {w t : Text} {cursor : Nat} {spans spans' : List Span}
    (h : LeftmostFrom w t cursor spans) (h' : LeftmostFrom w t cursor spans') : spans = spans' := by
  induction spans generalizing cursor spans' with
  | nil =>
      cases spans' with
      | nil => rfl
      | cons s' spans' => exact absurd (FirstFrom.unique h h'.1) nofun
  | cons s spans ih =>
      cases spans' with
      | nil => exact absurd (FirstFrom.unique h.1 h') nofun
      | cons s' spans' =>
          obtain rfl := Option.some.inj (h.1.unique h'.1)
          rw [ih h.2 h'.2]

/-- A text occurs in itself once. -/
theorem leftmost_self {w : Text} (h : w ≠ []) : Leftmost w w [⟨0, size w⟩] := by
  have hpos := size_pos h
  refine ⟨⟨Nat.le_refl 0, ?_, (Nat.zero_add _).symm, fun n _ _ => Nat.zero_le n⟩, ?_⟩
  · exact occursAt_iff.mpr ⟨[], [], by simp, rfl⟩
  · intro n hn hat
    have hle := hat.size_le
    have hstart : size w ≤ n := hn
    omega

end RegexExplainer.Text
