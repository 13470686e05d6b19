import RegexExplainer.Proofs.Text.Cut
import RegexExplainer.Token.Bounds

/- What range quantifiers look like, seen from their opening and from their closing brace. -/
namespace RegexExplainer

namespace Text

theorem all_ne_of_notMem {x : Char} {s : Text} (h : x ∉ s) : ∀ c ∈ s, (c != x) = true := by
  intro c hc
  refine bne_iff_ne.mpr ?_
  rintro rfl
  exact h hc

theorem takeWhile_ne_append {x : Char} {s t : Text} (h : x ∉ s) :
    (s ++ x :: t).takeWhile (· != x) = s := by
  rw [List.takeWhile_append_of_pos (all_ne_of_notMem h)]
  simp

theorem dropWhile_ne_append {x : Char} {s t : Text} (h : x ∉ s) :
    (s ++ x :: t).dropWhile (· != x) = x :: t := by
  rw [List.dropWhile_append_of_pos (all_ne_of_notMem h)]
  simp

theorem takeWhile_ne_self {x : Char} {s : Text} (h : x ∉ s) : s.takeWhile (· != x) = s := by
  simpa using @List.takeWhile_append_of_pos _ (· != x) s [] (all_ne_of_notMem h)

theorem dropWhile_ne_self {x : Char} {s : Text} (h : x ∉ s) : s.dropWhile (· != x) = [] := by
  simpa using @List.dropWhile_append_of_pos _ (· != x) s [] (all_ne_of_notMem h)

/-- Where a character stands first is settled by the text. -/
theorem append_cons_inj {x : Char} {s s' t t' : Text} (hs : x ∉ s) (hs' : x ∉ s')
    (h : s ++ x :: t = s' ++ x :: t') : s = s' ∧ t = t' := by
  have htake := congrArg (List.takeWhile (· != x)) h
  rw [takeWhile_ne_append hs, takeWhile_ne_append hs'] at htake
  subst htake
  exact ⟨rfl, (List.cons.inj (List.append_cancel_left h)).2⟩

end Text

namespace Bounds

/-- Counts are written in digits. -/
def IsWritten : Bounds → Prop
  | exactly n => isNumeral n
  | atLeast n => isNumeral n
  | between n m => isNumeral n ∧ isNumeral m

theorem mem_digits_of_isNumeral {n : Text} (h : isNumeral n) {c : Char} (hc : c ∈ n) :
    isDigit c := by
  simp only [isNumeral, Bool.and_eq_true, List.all_eq_true] at h
  exact h.2 c hc

theorem comma_notMem_of_isNumeral {n : Text} (h : isNumeral n) : ',' ∉ n :=
  fun hc => absurd (mem_digits_of_isNumeral h hc) (by decide)

theorem parse?_of_notMem {content : Text} (h : ',' ∉ content) :
    parse? content = if isNumeral content then some (exactly content) else none := by
  simp only [parse?, Text.takeWhile_ne_self h, Text.dropWhile_ne_self h]

theorem parse?_append {n m : Text} (h : ',' ∉ n) :
    parse? (n ++ ',' :: m) =
      if !isNumeral n then none
      else if m.isEmpty then some (atLeast n)
      else if isNumeral m then some (between n m)
      else none := by
  simp only [parse?, Text.takeWhile_ne_append h, Text.dropWhile_ne_append h]

/-- What is read is what was written. -/
theorem parse?_eq_some_iff {content : Text} {b : Bounds} :
    parse? content = some b ↔ b.text = content ∧ b.IsWritten := by
  constructor
  · intro h
    by_cases hc : ',' ∈ content
    · obtain ⟨n, m, rfl, hn⟩ := List.eq_append_cons_of_mem hc
      rw [parse?_append hn] at h
      split_ifs at h with h₁ h₂ h₃
      · obtain rfl := Option.some.inj h
        obtain rfl := List.isEmpty_iff.mp h₂
        exact ⟨rfl, by simpa [IsWritten] using h₁⟩
      · obtain rfl := Option.some.inj h
        exact ⟨rfl, by simpa [IsWritten] using h₁, h₃⟩
    · rw [parse?_of_notMem hc] at h
      split_ifs at h with hn
      obtain rfl := Option.some.inj h
      exact ⟨rfl, hn⟩
  · rintro ⟨rfl, hb⟩
    cases b with
    | exactly n =>
        simp only [IsWritten] at hb
        rw [text, parse?_of_notMem (comma_notMem_of_isNumeral hb), if_pos hb]
    | atLeast n =>
        simp only [IsWritten] at hb
        simp [text, parse?_append (comma_notMem_of_isNumeral hb), hb]
    | between n m =>
        obtain ⟨hn, hm⟩ := hb
        have hne : m.isEmpty = false := by
          cases m with
          | nil => exact absurd hm (by decide)
          | cons c m => rfl
        simp [text, parse?_append (comma_notMem_of_isNumeral hn), hn, hm, hne]

theorem mem_text {b : Bounds} (h : b.IsWritten) {c : Char} (hc : c ∈ b.text) :
    isDigit c ∨ c = ',' := by
  cases b with
  | exactly n => exact .inl (mem_digits_of_isNumeral h hc)
  | atLeast n =>
      rcases List.mem_append.mp hc with hc | hc
      · exact .inl (mem_digits_of_isNumeral h hc)
      · exact .inr (List.mem_singleton.mp hc)
  | between n m =>
      rcases List.mem_append.mp hc with hc | hc
      · exact .inl (mem_digits_of_isNumeral h.1 hc)
      · rcases List.mem_cons.mp hc with hc | hc
        · exact .inr hc
        · exact .inl (mem_digits_of_isNumeral h.2 hc)

/-- Neither braces nor backslashes can stand between the braces of a range quantifier. -/
theorem notMem_of_parse? {content : Text} (h : (parse? content).isSome) {c : Char}
    (hc : ¬ (isDigit c ∨ c = ',')) : c ∉ content := by
  obtain ⟨b, hb⟩ := Option.isSome_iff_exists.mp h
  obtain ⟨rfl, hw⟩ := parse?_eq_some_iff.mp hb
  exact fun hm => hc (mem_text hw hm)

theorem content?_eq_some_iff {rest content : Text} :
    content? rest = some content ↔
      '\x7d' ∉ content ∧ ∃ after, rest = content ++ '\x7d' :: after := by
  simp only [content?, Option.ite_none_right_eq_some]
  constructor
  · rintro ⟨hc, h⟩
    obtain ⟨s, after, rfl, hs⟩ := List.eq_append_cons_of_mem hc
    obtain rfl := (Text.takeWhile_ne_append hs).symm.trans (Option.some.inj h)
    exact ⟨hs, after, rfl⟩
  · rintro ⟨hc, after, rfl⟩
    exact ⟨by simp, congrArg some (Text.takeWhile_ne_append hc)⟩

end Bounds

namespace RangeQuantifier

theorem size_braced (content : Text) :
    Text.size ('\x7b' :: (content ++ ['\x7d'])) = 1 + content.size + 1 := by
  rw [Text.size_cons, Text.size_append, ← Nat.add_assoc]
  rfl

/-- A range quantifier that no backslash escapes: what stands before it, between its braces and
after it. -/
structure Stands (pattern before content after : Text) : Prop where
  eq : pattern = before ++ '\x7b' :: (content ++ '\x7d' :: after)
  unescaped : isEscapedAfter before = false
  valid : (Bounds.parse? content).isSome

theorem parse?_eq_some_iff {pattern : Text} {opening : Nat} {r : RangeQuantifier} :
    parse? pattern opening = some r ↔
      ∃ before content after : Text, ∃ b,
        pattern = before ++ '\x7b' :: (content ++ '\x7d' :: after) ∧
        opening = before.size ∧ Bounds.parse? content = some b ∧
        r = ⟨⟨opening, opening + content.size + 2⟩, b⟩ := by
  constructor
  · intro h
    unfold parse? at h
    split at h
    · next rest hrest =>
        obtain ⟨before, rfl, rfl⟩ := Text.from?_eq_some_iff.mp hrest
        obtain ⟨content, hc, h⟩ := Option.bind_eq_some_iff.mp h
        obtain ⟨b, hb, he⟩ := Option.bind_eq_some_iff.mp h
        obtain ⟨-, after, rfl⟩ := Bounds.content?_eq_some_iff.mp hc
        exact ⟨before, content, after, b, rfl, rfl, hb, (Option.some.inj he).symm⟩
    · cases h
  · rintro ⟨before, content, after, b, rfl, rfl, hb, rfl⟩
    have hbrace : '\x7d' ∉ content :=
      Bounds.notMem_of_parse? (by rw [hb]; rfl) (by decide)
    have hc := Bounds.content?_eq_some_iff.mpr ⟨hbrace, after, rfl⟩
    simp [parse?, hc, hb]

theorem closes_eq_true_iff {pattern : Text} {closing : Nat} :
    closes pattern closing = true ↔
      ∃ before content after, Stands pattern before content after ∧
        closing = before.size + 1 + content.size := by
  constructor
  · intro h
    unfold closes at h
    split at h
    · next past after hsplit =>
        obtain ⟨rfl, rfl⟩ := Text.splitAt?_eq_some_iff.mp hsplit
        by_cases hm : '\x7b' ∈ past.reverse
        · obtain ⟨reversed, earlier, hpast, hbrace⟩ := List.eq_append_cons_of_mem hm
          obtain rfl : past = earlier.reverse ++ '\x7b' :: reversed.reverse := by
            simpa using congrArg List.reverse hpast
          simp only [hpast, Text.dropWhile_ne_append hbrace, Text.takeWhile_ne_append hbrace,
            Bool.and_eq_true, Bool.not_eq_true'] at h
          refine ⟨earlier.reverse, reversed.reverse, after, ⟨by simp, h.1, h.2⟩, ?_⟩
          rw [Text.size_append, Text.size_cons, Nat.add_assoc]
          rfl
        · simp [Text.dropWhile_ne_self hm] at h
    · cases h
  · rintro ⟨before, content, after, ⟨rfl, hesc, hvalid⟩, rfl⟩
    have hbrace : '\x7b' ∉ content.reverse := by
      rw [List.mem_reverse]
      exact Bounds.notMem_of_parse? hvalid (by decide)
    have hsplit : (before ++ '\x7b' :: (content ++ '\x7d' :: after)).splitAt?
        (before.size + 1 + content.size) = some (before ++ '\x7b' :: content, '\x7d' :: after) := by
      refine Text.splitAt?_eq_some_iff.mpr ⟨by simp, ?_⟩
      rw [Text.size_append, Text.size_cons, Nat.add_assoc]
      rfl
    simp [closes, hsplit, Text.takeWhile_ne_append hbrace, Text.dropWhile_ne_append hbrace, hesc,
      hvalid]

theorem Stands.size_before_closing {pattern before content after : Text}
    (h : Stands pattern before content after) :
    pattern = (before ++ '\x7b' :: content) ++ '\x7d' :: after ∧
      Text.size (before ++ '\x7b' :: content) = before.size + 1 + content.size := by
  refine ⟨by rw [h.eq]; simp, ?_⟩
  rw [Text.size_append, Text.size_cons, Nat.add_assoc]
  rfl

/-- A closing brace ends at most one range quantifier: content holds no opening brace, so the
nearest one is its own. -/
theorem Stands.unique {pattern before content after before' content' after' : Text}
    (h : Stands pattern before content after) (h' : Stands pattern before' content' after')
    (hs : before.size + 1 + content.size = before'.size + 1 + content'.size) :
    before = before' ∧ content = content' := by
  obtain ⟨he, hn⟩ := h.size_before_closing
  obtain ⟨he', hn'⟩ := h'.size_before_closing
  have hpast : before ++ '\x7b' :: content = before' ++ '\x7b' :: content' :=
    (Text.append_inj_of_size (he.symm.trans he') (by rw [hn, hn', hs])).1
  have hbrace {t : Text} (hv : (Bounds.parse? t).isSome) : '\x7b' ∉ t.reverse := by
    rw [List.mem_reverse]
    exact Bounds.notMem_of_parse? hv (by decide)
  have hrev : content.reverse ++ '\x7b' :: before.reverse =
      content'.reverse ++ '\x7b' :: before'.reverse := by
    simpa using congrArg List.reverse hpast
  obtain ⟨hc, hb⟩ := Text.append_cons_inj (hbrace h.valid) (hbrace h'.valid) hrev
  exact ⟨List.reverse_injective hb, List.reverse_injective hc⟩

end RangeQuantifier

end RegexExplainer
