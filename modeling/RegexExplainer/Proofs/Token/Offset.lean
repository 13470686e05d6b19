import RegexExplainer.Proofs.Text.Byte
import RegexExplainer.Proofs.Text.Occurrence
import RegexExplainer.Proofs.Token.Escaped
import RegexExplainer.Proofs.Token.Scan

/- The readers of a pattern at an offset that may point anywhere. By offsets alone a reading has no
result where an offset overflows, or where a slice begins or ends out of range or inside a character.
Only the look-ahead behind a parenthesis ever comes to that, at the last offset of all. -/
namespace RegexExplainer

namespace Text

/-- Offsets are words of 64 bits. -/
def IsOffset (n : Nat) : Prop := n < 0x10000000000000000

instance (n : Nat) : Decidable (IsOffset n) :=
  inferInstanceAs (Decidable (n < 0x10000000000000000))

def lastOffset : Nat := 0xFFFFFFFFFFFFFFFF

/-- The offset `k` bytes on. -/
def advance? (n k : Nat) : Option Nat := if IsOffset (n + k) then some (n + k) else none

variable {n m k : Nat}

theorem IsOffset.of_le (h : IsOffset m) (hle : n ≤ m) : IsOffset n := Nat.lt_of_le_of_lt hle h

theorem offsetAfter?_of_isOffset (h : IsOffset (n + 1)) : offsetAfter? n = some (n + 1) := if_pos h

theorem advance?_of_isOffset (h : IsOffset (n + k)) : advance? n k = some (n + k) := if_pos h

theorem offsetAfter?_eq_none_iff (h : IsOffset n) : offsetAfter? n = none ↔ n = lastOffset := by
  unfold offsetAfter? lastOffset
  unfold IsOffset at h
  split
  · simp only [reduceCtorEq, false_iff]
    omega
  · simp only [true_iff]
    omega

/-- The text before a cut, as a slice. -/
theorem slice?_zero (before rest : Text) :
    slice? (before ++ rest) 0 before.size = some before := by
  simpa using slice?_append [] before rest

end Text

namespace RangeQuantifier

variable {pattern : Text} {offset : Nat}

/-- The reading of a range quantifier by offsets. -/
def parseAt? (pattern : Text) (opening : Nat) : Option (Option RangeQuantifier) :=
  if pattern.byteAt? opening = some 0x7B then do
    let start ← Text.offsetAfter? opening
    let rest ← pattern.from? start
    match rest.find? '\x7d' with
    | none => return none
    | some n => do
      let closing ← Text.advance? start n
      let content ← pattern.slice? start closing
      match Bounds.parse? content with
      | none => return none
      | some bounds => do
        let stop ← Text.offsetAfter? closing
        return some ⟨⟨opening, stop⟩, bounds⟩
  else some none

/-- The search back from a closing brace by offsets. -/
def closesAt? (pattern : Text) (closing : Nat) : Option Bool :=
  if pattern.byteAt? closing = some 0x7D then do
    let before ← pattern.slice? 0 closing
    match before.rfind? '\x7b' with
    | none => return false
    | some opening => do
      let escaped ← isEscapedAt? pattern opening
      if escaped then return false
      else do
        let start ← Text.offsetAfter? opening
        let content ← pattern.slice? start closing
        return (Bounds.parse? content).isSome
  else some false

theorem byteAt?_opening_iff : pattern.byteAt? offset = some 0x7B ↔
    ∃ before rest, pattern = before ++ '\x7b' :: rest ∧ offset = before.size :=
  Text.byteAt?_eq_some_iff (c := '\x7b') (by decide)

theorem byteAt?_closing_iff : pattern.byteAt? offset = some 0x7D ↔
    ∃ before rest, pattern = before ++ '\x7d' :: rest ∧ offset = before.size :=
  Text.byteAt?_eq_some_iff (c := '\x7d') (by decide)

theorem parse?_of_byteAt?_ne (h : pattern.byteAt? offset ≠ some 0x7B) :
    parse? pattern offset = none := by
  by_contra hsome
  obtain ⟨r, hr⟩ := Option.ne_none_iff_exists'.mp hsome
  obtain ⟨before, content, after, b, rfl, rfl, -, -⟩ := parse?_eq_some_iff.mp hr
  exact h (byteAt?_opening_iff.mpr ⟨before, _, rfl, rfl⟩)

theorem closes_of_byteAt?_ne (h : pattern.byteAt? offset ≠ some 0x7D) :
    closes pattern offset = false := by
  by_contra hcloses
  obtain ⟨before, content, after, hs, hn⟩ := closes_eq_true_iff.mp (eq_true_of_ne_false hcloses)
  obtain ⟨hp, hsize⟩ := hs.size_before_closing
  exact h (byteAt?_closing_iff.mpr ⟨_, after, hp, hn.trans hsize.symm⟩)

/-- By offsets the same is read as on the text itself. -/
theorem parseAt?_eq (hp : Text.IsOffset pattern.size) (offset : Nat) :
    parseAt? pattern offset = some (parse? pattern offset) := by
  by_cases hbyte : pattern.byteAt? offset = some 0x7B
  · obtain ⟨before, (rest : Text), rfl, rfl⟩ := byteAt?_opening_iff.mp hbyte
    have hsize : Text.size (before ++ ['\x7b']) = before.size + 1 := Text.size_append _ _
    have htotal : Text.size (before ++ '\x7b' :: rest) = before.size + 1 + rest.size := by
      rw [Text.size_append, Text.size_cons, Nat.add_assoc]
      rfl
    rw [htotal] at hp
    have hstart := Text.offsetAfter?_of_isOffset (hp.of_le (Nat.le_add_right _ rest.size))
    have hrest : (before ++ '\x7b' :: rest).from? (before.size + 1) = some rest :=
      Text.from?_eq_some_iff.mpr ⟨before ++ ['\x7b'], by simp, hsize.symm⟩
    rw [parseAt?, if_pos hbyte, hstart, parse?, Text.from?_append]
    simp only [Option.bind_eq_bind, Option.bind_some, hrest]
    by_cases hclose : '\x7d' ∈ rest
    · obtain ⟨(content : Text), (after : Text), rfl, hbrace⟩ :=
        List.eq_append_cons_of_mem hclose
      have hrestSize : Text.size (content ++ '\x7d' :: after) = content.size + 1 + after.size := by
        rw [Text.size_append, Text.size_cons, Nat.add_assoc]
        rfl
      rw [hrestSize] at hp
      have hclosing := Text.advance?_of_isOffset
        (hp.of_le (show before.size + 1 + content.size ≤ _ by omega))
      have hstop := Text.offsetAfter?_of_isOffset
        (hp.of_le (show before.size + 1 + content.size + 1 ≤ _ by omega))
      have hslice : (before ++ '\x7b' :: (content ++ '\x7d' :: after)).slice? (before.size + 1)
          (before.size + 1 + content.size) = some content :=
        Text.slice?_eq_some_iff.mpr
          ⟨before ++ ['\x7b'], '\x7d' :: after, by simp, hsize.symm, rfl⟩
      have hcontent := Bounds.content?_eq_some_iff.mpr ⟨hbrace, after, rfl⟩
      simp only [Text.find?_append hbrace, hclosing, hslice, hcontent, Option.bind_some]
      cases Bounds.parse? content with
      | none => rfl
      | some bounds =>
          simp only [hstop, Option.bind_some, Option.pure_def]
          congr 4
          omega
    · have hcontent : Bounds.content? rest = none := if_neg hclose
      simp only [Text.find?_of_notMem hclose, hcontent]
      rfl
  · rw [parseAt?, if_neg hbyte, parse?_of_byteAt?_ne hbyte]

theorem closesAt?_eq (hp : Text.IsOffset pattern.size) (offset : Nat) :
    closesAt? pattern offset = some (closes pattern offset) := by
  by_cases hbyte : pattern.byteAt? offset = some 0x7D
  · obtain ⟨past, rest, rfl, rfl⟩ := byteAt?_closing_iff.mp hbyte
    rw [closesAt?, if_pos hbyte, Text.slice?_zero, closes, Text.splitAt?_size]
    simp only [Option.bind_eq_bind, Option.bind_some]
    by_cases hopen : '\x7b' ∈ past.reverse
    · obtain ⟨reversed, earlier, hpast, hbrace⟩ := List.eq_append_cons_of_mem hopen
      obtain ⟨before, rfl⟩ : ∃ before : Text, earlier = before.reverse :=
        ⟨earlier.reverse, earlier.reverse_reverse.symm⟩
      obtain ⟨content, rfl⟩ : ∃ content : Text, reversed = content.reverse :=
        ⟨reversed.reverse, reversed.reverse_reverse.symm⟩
      obtain rfl : past = before ++ '\x7b' :: content := by
        simpa using congrArg List.reverse hpast
      have hsize : Text.size (before ++ ['\x7b']) = before.size + 1 := Text.size_append _ _
      have hpastSize : Text.size (before ++ '\x7b' :: content) = before.size + 1 + content.size := by
        rw [Text.size_append, Text.size_cons, Nat.add_assoc]
        rfl
      have hstart := Text.offsetAfter?_of_isOffset
        (hp.of_le (show before.size + 1 ≤ _ by rw [Text.size_append, hpastSize]; omega))
      have hescaped : isEscapedAt? (before ++ '\x7b' :: content ++ '\x7d' :: rest) before.size =
          some (isEscapedAfter before) := by
        rw [List.append_assoc]
        exact isEscapedAt?_size _ _
      have hslice : (before ++ '\x7b' :: content ++ '\x7d' :: rest).slice? (before.size + 1)
          (Text.size (before ++ '\x7b' :: content)) = some content :=
        Text.slice?_eq_some_iff.mpr
          ⟨before ++ ['\x7b'], '\x7d' :: rest, by simp, hsize.symm, hpastSize⟩
      rw [Text.rfind?_append before (by simpa using hbrace), hpast,
        Text.dropWhile_ne_append hbrace, Text.takeWhile_ne_append hbrace]
      simp only [hescaped, hstart, hslice, Option.bind_some, List.reverse_reverse]
      cases isEscapedAfter before with
      | true => rfl
      | false => rfl
    · rw [Text.rfind?_of_notMem (by simpa using hopen), Text.dropWhile_ne_self hopen]
      rfl
  · rw [closesAt?, if_neg hbyte, closes_of_byteAt?_ne hbyte]

end RangeQuantifier

namespace Lexeme

variable {pattern : Text} {offset : Nat}

/-- The piece at an offset, where a parenthesis looks ahead by offset as well. -/
def classifyAt? (pattern : Text) (offset : Nat) : Option Piece :=
  (pattern.from? offset).bind fun rest =>
    if rest.head? = some '(' then
      (opensNonCapturingAt? pattern offset).map fun opens =>
        if opens then ⟨.groupOpenNonCapturing, 1, "start non-capturing group".toList⟩
        else ⟨.groupOpen, 1, "start capturing group".toList⟩
    else some ⟨(first rest).kind, (first rest).length, (first rest).explanation⟩

theorem any_opensNonCapturing_iff {n : Nat} :
    (pattern.from? n).any opensNonCapturing = true ↔ Text.OccursAt ['?', ':'] pattern n := by
  rw [Option.any_eq_true, Text.occursAt_iff]
  constructor
  · rintro ⟨rest, hrest, hopens⟩
    obtain ⟨before, rfl, rfl⟩ := Text.from?_eq_some_iff.mp hrest
    obtain ⟨after, rfl⟩ := List.isPrefixOf_iff_prefix.mp hopens
    exact ⟨before, after, rfl, rfl⟩
  · rintro ⟨before, after, rfl, rfl⟩
    exact ⟨['?', ':'] ++ after, Text.from?_append _ _, rfl⟩

theorem opensNonCapturingAt?_eq_none_iff (h : Text.IsOffset offset) :
    opensNonCapturingAt? pattern offset = none ↔ offset = Text.lastOffset := by
  rw [opensNonCapturingAt?, Option.map_eq_none_iff, Text.offsetAfter?_eq_none_iff h]

/-- The look-ahead finds `?:` exactly where that stands one byte on. -/
theorem eq_true_iff_of_opensNonCapturingAt? {opens : Bool}
    (h : opensNonCapturingAt? pattern offset = some opens) :
    opens = true ↔ Text.OccursAt ['?', ':'] pattern (offset + 1) := by
  obtain ⟨next, hnext, rfl⟩ := Option.map_eq_some_iff.mp h
  rw [Text.offsetAfter?, Option.ite_none_right_eq_some] at hnext
  obtain rfl := Option.some.inj hnext.2
  exact any_opensNonCapturing_iff

theorem opensNonCapturingAt?_of_from? (hp : Text.IsOffset pattern.size) {rest : Text}
    (h : pattern.from? offset = some ('(' :: rest)) :
    opensNonCapturingAt? pattern offset = some (opensNonCapturing rest) := by
  obtain ⟨before, rfl, rfl⟩ := Text.from?_eq_some_iff.mp h
  have hsize : Text.size (before ++ ['(']) = before.size + 1 := Text.size_append _ _
  have hrest : (before ++ '(' :: rest).from? (before.size + 1) = some rest :=
    Text.from?_eq_some_iff.mpr ⟨before ++ ['('], by simp, hsize.symm⟩
  have hle : before.size + 1 ≤ Text.size (before ++ '(' :: rest) := by
    rw [Text.size_append, ← hsize, Text.size_append, Text.size_cons, Text.size_cons, Text.size_nil]
    omega
  rw [opensNonCapturingAt?, Text.offsetAfter?_of_isOffset (hp.of_le hle), Option.map_some, hrest,
    Option.any_some]

theorem classifyAt?_eq (hp : Text.IsOffset pattern.size) (offset : Nat) :
    classifyAt? pattern offset =
      (classify? pattern offset).map fun l => ⟨l.kind, l.length, l.explanation⟩ := by
  rw [classifyAt?, classify?]
  cases hrest : pattern.from? offset with
  | none => rfl
  | some rest =>
      rw [Option.bind_some, Option.map_some, Option.map_some]
      by_cases hopen : rest.head? = some '('
      · obtain ⟨tail, rfl⟩ := List.head?_eq_some_iff.mp hopen
        rw [if_pos hopen, opensNonCapturingAt?_of_from? hp hrest, Option.map_some, first]
        cases opensNonCapturing tail with
        | true => rfl
        | false => rfl
      · rw [if_neg hopen]

/-- A piece ends between characters, and only the end of the text begins an empty one. -/
theorem isCut_of_classify? {l : Lexeme} (h : classify? pattern offset = some l) :
    pattern.IsCut (offset + l.length) ∧ (offset < pattern.size → 1 ≤ l.length) ∧
      (offset = pattern.size → l.length = 0) := by
  obtain ⟨rest, hrest, rfl⟩ := Option.map_eq_some_iff.mp h
  obtain ⟨before, rfl, rfl⟩ := Text.from?_eq_some_iff.mp hrest
  rw [Text.size_append]
  cases rest with
  | nil => exact ⟨⟨before, [], rfl, rfl⟩, fun hlt => absurd hlt (Nat.lt_irrefl _), fun _ => rfl⟩
  | cons c rest =>
      have hbegins : Begins (c :: rest) (first (c :: rest)) := begins_first
      have hpos : 0 < (first (c :: rest)).length := Text.size_pos hbegins.text_ne_nil
      refine ⟨⟨before ++ (first (c :: rest)).text, (c :: rest).drop (first (c :: rest)).text.length,
        ?_, (Text.size_append _ _).symm⟩, fun _ => hpos, ?_⟩
      · rw [List.append_assoc, hbegins.append_drop]
      · intro hend
        have := Text.size_pos (List.cons_ne_nil c rest)
        omega

theorem classify?_eq_none_iff :
    classify? pattern offset = none ↔ pattern.size < offset ∨ pattern.IsInside offset := by
  rw [← Text.not_isCut_iff, Text.isCut_iff, classify?, Text.from?, Option.map_eq_none_iff,
    Option.map_eq_none_iff, Option.not_isSome_iff_eq_none]

end Lexeme

/-- What the readers of a pattern do at an offset, wherever it points: by offsets they have the result
that they have on the text, save that no offset comes after the last one. -/
structure ReadableAt (pattern : Text) (offset : Nat) : Prop where
  range : RangeQuantifier.parseAt? pattern offset = some (RangeQuantifier.parse? pattern offset)
  range_ne : pattern.byteAt? offset ≠ some 0x7B → RangeQuantifier.parse? pattern offset = none
  closes : RangeQuantifier.closesAt? pattern offset = some (RangeQuantifier.closes pattern offset)
  closes_ne : pattern.byteAt? offset ≠ some 0x7D → RangeQuantifier.closes pattern offset = false
  ahead_none : opensNonCapturingAt? pattern offset = none ↔ offset = Text.lastOffset
  ahead_some : ∀ opens, opensNonCapturingAt? pattern offset = some opens →
    (opens = true ↔ Text.OccursAt ['?', ':'] pattern (offset + 1))
  piece : Lexeme.classifyAt? pattern offset =
    (Lexeme.classify? pattern offset).map fun l => ⟨l.kind, l.length, l.explanation⟩
  piece_none : Lexeme.classify? pattern offset = none ↔
    pattern.size < offset ∨ pattern.IsInside offset
  piece_some : ∀ l, Lexeme.classify? pattern offset = some l →
    pattern.IsCut (offset + l.length) ∧ (offset < pattern.size → 1 ≤ l.length) ∧
      (offset = pattern.size → l.length = 0)

/-- A pattern whose length is an offset can be read at every offset. -/
theorem readableAt_of_isOffset {pattern : Text} {offset : Nat} (hp : Text.IsOffset pattern.size)
    (hoffset : Text.IsOffset offset) : ReadableAt pattern offset where
  range := RangeQuantifier.parseAt?_eq hp offset
  range_ne := RangeQuantifier.parse?_of_byteAt?_ne
  closes := RangeQuantifier.closesAt?_eq hp offset
  closes_ne := RangeQuantifier.closes_of_byteAt?_ne
  ahead_none := Lexeme.opensNonCapturingAt?_eq_none_iff hoffset
  ahead_some _ h := Lexeme.eq_true_iff_of_opensNonCapturingAt? h
  piece := Lexeme.classifyAt?_eq hp offset
  piece_none := Lexeme.classify?_eq_none_iff
  piece_some _ h := Lexeme.isCut_of_classify? h

/-- At the last offset the look-ahead has no result, though no `?:` stands behind it. -/
theorem readableAt_lastOffset :
    Text.IsOffset (Text.size ['(', '?', ':']) ∧ Text.IsOffset Text.lastOffset ∧
      ReadableAt ['(', '?', ':'] Text.lastOffset ∧
      opensNonCapturingAt? ['(', '?', ':'] Text.lastOffset = none ∧
      ¬ Text.OccursAt ['?', ':'] ['(', '?', ':'] (Text.lastOffset + 1) := by
  have hreadable : ReadableAt ['(', '?', ':'] Text.lastOffset :=
    readableAt_of_isOffset (by decide) (by decide)
  refine ⟨by decide, by decide, hreadable, hreadable.ahead_none.mpr rfl, ?_⟩
  intro hoccurs
  exact absurd hoccurs.size_le (by decide)

end RegexExplainer
