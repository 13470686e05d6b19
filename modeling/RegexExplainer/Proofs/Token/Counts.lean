import RegexExplainer.Proofs.Token.Grammar

/- Range quantifiers are read where their grammar has them and nowhere else. The counts are kept as they
are written, so that what was read can be printed again, and told from how it is explained. -/
namespace RegexExplainer

namespace Bounds

theorem append_ne_of_isNumeral {n : Text} (h : isNumeral n) {c : Char} (hc : isDigit c = false)
    (s t : Text) : n ++ s ≠ c :: t := by
  obtain ⟨d, n, rfl⟩ := List.exists_cons_of_ne_nil (digits_iff.mpr h).1
  intro he
  obtain ⟨rfl, -⟩ := List.cons.inj he
  exact Bool.false_ne_true (hc.symm.trans (mem_digits_of_isNumeral h List.mem_cons_self))

/-- Only where there is no upper count does the lower one follow at once. -/
theorem explanation_atLeast_ne {n : Text} (h : isNumeral n) {b : Bounds}
    (hb : ∀ m, b ≠ atLeast m) : (atLeast n).explanation ≠ b.explanation := by
  intro he
  unfold explanation at he
  cases b with
  | atLeast m => exact hb m rfl
  | exactly m =>
      simp only [String.reduceToList, List.cons_append, List.nil_append, List.cons.injEq,
        true_and] at he
      exact append_ne_of_isNumeral h (by decide) _ _ he
  | between m k =>
      simp only [String.reduceToList, List.cons_append, List.nil_append, List.cons.injEq,
        true_and] at he
      exact append_ne_of_isNumeral h (by decide) _ _ he

theorem blank_notMem_of_isNumeral {n : Text} (h : isNumeral n) : ' ' ∉ n :=
  fun hc => absurd (mem_digits_of_isNumeral h hc) (by decide)

/-- Counts that are explained alike are the same. -/
theorem explanation_inj {b b' : Bounds} (h : b.IsWritten) (h' : b'.IsWritten)
    (he : b.explanation = b'.explanation) : b = b' := by
  cases b with
  | exactly n =>
      cases b' with
      | exactly n' =>
          unfold explanation at he
          rw [List.append_left_inj, List.append_right_inj] at he
          rw [he]
      | atLeast n' => exact absurd he.symm (explanation_atLeast_ne h' nofun)
      | between n' m' =>
          unfold explanation at he
          simp at he
  | atLeast n =>
      cases b' with
      | exactly n' => exact absurd he (explanation_atLeast_ne h nofun)
      | atLeast n' =>
          unfold explanation at he
          rw [List.append_left_inj, List.append_right_inj] at he
          rw [he]
      | between n' m' => exact absurd he (explanation_atLeast_ne h nofun)
  | between n m =>
      cases b' with
      | exactly n' =>
          unfold explanation at he
          simp at he
      | atLeast n' => exact absurd he.symm (explanation_atLeast_ne h' nofun)
      | between n' m' =>
          unfold explanation at he
          rw [List.append_left_inj] at he
          simp only [String.reduceToList, List.cons_append, List.nil_append, List.append_assoc,
            List.cons.injEq, true_and] at he
          obtain ⟨rfl, hm⟩ := Text.append_cons_inj (blank_notMem_of_isNumeral h.1)
            (blank_notMem_of_isNumeral h'.1) he
          simp only [List.cons.injEq, true_and] at hm
          rw [hm]

end Bounds

namespace RangeQuantifier

/-- From byte `opening` up to byte `stop`, a pattern has the content of a range quantifier between
braces. -/
structure WrittenAt (pattern : Text) (opening stop : Nat) (content : Text) : Prop where
  rangeContent : RangeContent content
  slice : pattern.slice? opening stop = some ('\x7b' :: (content ++ ['\x7d']))

variable {pattern content : Text} {opening stop : Nat}

theorem writtenAt_iff :
    WrittenAt pattern opening stop content ↔
      RangeContent content ∧ ∃ before after : Text,
        pattern = before ++ '\x7b' :: (content ++ '\x7d' :: after) ∧ opening = before.size ∧
          stop = opening + content.size + 2 := by
  have hsize : Text.size ('\x7b' :: (content ++ ['\x7d'])) = content.size + 2 := by
    rw [size_braced, Nat.add_comm 1]
  constructor
  · rintro ⟨hcontent, hslice⟩
    obtain ⟨before, after, rfl, hopening, hstop⟩ := Text.slice?_eq_some_iff.mp hslice
    exact ⟨hcontent, before, after, by simp, hopening, by rw [hstop, hsize, Nat.add_assoc]⟩
  · rintro ⟨hcontent, before, after, rfl, rfl, rfl⟩
    refine ⟨hcontent, Text.slice?_eq_some_iff.mpr ⟨before, after, by simp, rfl, ?_⟩⟩
    rw [hsize, Nat.add_assoc]

theorem writtenAt_of_parse? {r : RangeQuantifier} (h : parse? pattern opening = some r) :
    r.span.start = opening ∧ WrittenAt pattern opening r.span.stop r.bounds.text := by
  obtain ⟨before, content, after, b, hp, hopening, hb, rfl⟩ := parse?_eq_some_iff.mp h
  obtain ⟨rfl, -⟩ := Bounds.parse?_eq_some_iff.mp hb
  refine ⟨rfl, writtenAt_iff.mpr ⟨rangeContent_iff.mpr ?_, before, after, hp, hopening, rfl⟩⟩
  rw [hb]
  rfl

theorem WrittenAt.parse? (h : WrittenAt pattern opening stop content) :
    ∃ r, parse? pattern opening = some r ∧ r.span.stop = stop ∧ r.bounds.text = content := by
  obtain ⟨hcontent, before, after, hp, hopening, rfl⟩ := writtenAt_iff.mp h
  obtain ⟨b, hb⟩ := Option.isSome_iff_exists.mp (rangeContent_iff.mp hcontent)
  exact ⟨_, parse?_eq_some_iff.mpr ⟨before, content, after, b, hp, hopening, hb, rfl⟩, rfl,
    (Bounds.parse?_eq_some_iff.mp hb).1⟩

end RangeQuantifier

open RangeQuantifier (WrittenAt)

/-- A range quantifier is read exactly where digits, with a comma and digits or nothing after them, stand
between braces. There is one way in which they can stand there, and it is given back by the bytes and
the counts of what is read. Contents that are explained alike are the same. -/
theorem parse?_iff_writtenAt (pattern : Text) (opening : Nat) :
    ((∃ r, RangeQuantifier.parse? pattern opening = some r) ↔
        ∃ stop content, WrittenAt pattern opening stop content) ∧
      (∀ stop content stop' content', WrittenAt pattern opening stop content →
        WrittenAt pattern opening stop' content' → stop = stop' ∧ content = content') ∧
      (∀ r, RangeQuantifier.parse? pattern opening = some r →
        r.span.start = opening ∧ WrittenAt pattern opening r.span.stop r.bounds.text) ∧
      (∀ content, (∃ b, Bounds.parse? content = some b) ↔ RangeContent content) ∧
      (∀ content b, Bounds.parse? content = some b → b.text = content) ∧
      ∀ content content' b b', Bounds.parse? content = some b → Bounds.parse? content' = some b' →
        b.explanation = b'.explanation → content = content' := by
  refine ⟨?_, ?_, ?_, ?_, ?_, ?_⟩
  · constructor
    · rintro ⟨r, hr⟩
      exact ⟨_, _, (RangeQuantifier.writtenAt_of_parse? hr).2⟩
    · rintro ⟨stop, content, h⟩
      obtain ⟨r, hr, -⟩ := h.parse?
      exact ⟨r, hr⟩
  · intro stop content stop' content' h h'
    obtain ⟨r, hr, rfl, rfl⟩ := h.parse?
    obtain ⟨r', hr', rfl, rfl⟩ := h'.parse?
    obtain rfl := Option.some.inj (hr.symm.trans hr')
    exact ⟨rfl, rfl⟩
  · intro r
    exact RangeQuantifier.writtenAt_of_parse?
  · intro content
    rw [rangeContent_iff, Option.isSome_iff_exists]
  · intro content b hb
    exact (Bounds.parse?_eq_some_iff.mp hb).1
  · intro content content' b b' hb hb' he
    obtain ⟨rfl, hw⟩ := Bounds.parse?_eq_some_iff.mp hb
    obtain ⟨rfl, hw'⟩ := Bounds.parse?_eq_some_iff.mp hb'
    rw [Bounds.explanation_inj hw hw' he]

/-- In `é{007,}}` the range ends at the first brace. -/
def paddedCount : Text := ['é', '\x7b', '0', '0', '7', ',', '\x7d', '\x7d']

theorem writtenAt_paddedCount : WrittenAt paddedCount 2 8 ['0', '0', '7', ','] where
  rangeContent := rangeContent_iff.mpr (by decide)
  slice := by decide

theorem parse?_iff_writtenAt_paddedCount :
    WrittenAt paddedCount 2 8 ['0', '0', '7', ','] ∧
      ∃ r, RangeQuantifier.parse? paddedCount 2 = some r ∧ r.span.start = 2 ∧
        r.span.stop = 8 ∧ r.bounds.text = ['0', '0', '7', ','] := by
  obtain ⟨hiff, hunique, hread, -⟩ := parse?_iff_writtenAt paddedCount 2
  obtain ⟨r, hr⟩ := hiff.mpr ⟨8, _, writtenAt_paddedCount⟩
  obtain ⟨hstart, hwritten⟩ := hread r hr
  obtain ⟨hstop, htext⟩ := hunique _ _ _ _ hwritten writtenAt_paddedCount
  exact ⟨writtenAt_paddedCount, r, hr, hstart, hstop, htext⟩

end RegexExplainer
