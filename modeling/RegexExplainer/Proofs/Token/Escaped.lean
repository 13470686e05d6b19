import Mathlib.Data.List.Induction
import Mathlib.Tactic.TFAE
import RegexExplainer.Evaluation
import RegexExplainer.Proofs.Token.Boundary

/- Which characters a backslash escapes. Looking back, it is told by the parity of the backslashes
before; reading on, by a flag; and by the tokens, where pairs are taken off. -/
namespace RegexExplainer

namespace RangeQuantifier

/-- Whether an odd number of backslashes stands right before an offset, counted in bytes. -/
def isEscapedAt? (pattern : Text) (offset : Nat) : Option Bool :=
  if offset ≤ (Text.encode pattern).length then
    some ((((Text.encode pattern).take offset).reverse.takeWhile (· == 0x5C)).length % 2 == 1)
  else none

/-- As many bytes of backslashes end a text as there are characters that do. -/
theorem length_takeWhile_encode (before : Text) :
    ((Text.encode before).reverse.takeWhile (· == 0x5C)).length =
      (before.reverse.takeWhile (· == '\\')).length := by
  induction before using List.reverseRecOn with
  | nil => rfl
  | append_singleton before c ih =>
      rw [Text.encode_append, Text.encode_cons, Text.encode_nil, List.append_nil,
        List.reverse_append, List.reverse_append, List.reverse_singleton, List.singleton_append]
      by_cases hc : c = '\\'
      · subst hc
        have hbytes : String.utf8EncodeChar '\\' = [0x5C] := by decide
        rw [hbytes, List.reverse_singleton, List.singleton_append,
          List.takeWhile_cons_of_pos (by decide), List.takeWhile_cons_of_pos (by decide),
          List.length_cons, List.length_cons, ih]
      · -- no byte of another character continues the run
        obtain ⟨b, bytes, hb⟩ := List.exists_cons_of_ne_nil
          (mt List.reverse_eq_nil_iff.mp (String.utf8EncodeChar_ne_nil (c := c)))
        have hne : b ≠ 0x5C := by
          rintro rfl
          have hmem : (0x5C : UInt8) ∈ String.utf8EncodeChar c := by
            rw [← List.mem_reverse, hb]
            exact List.mem_cons_self
          have hcode := (Text.eq_singleton_of_mem_utf8EncodeChar hmem (by decide)).2
          exact hc (Char.toNat_inj.mp hcode)
        rw [hb, List.cons_append, List.takeWhile_cons_of_neg (by simpa using hne),
          List.takeWhile_cons_of_neg (by simpa using hc)]
        rfl

theorem isEscapedAt?_size (before rest : Text) :
    isEscapedAt? (before ++ rest) before.size = some (isEscapedAfter before) := by
  have htake : (Text.encode (before ++ rest)).take before.size = Text.encode before := by
    rw [Text.encode_append, ← Text.length_encode before, List.take_left]
  rw [isEscapedAt?, if_pos (by simp), htake, length_takeWhile_encode, isEscapedAfter]

theorem isEscaped_size (before rest : Text) :
    isEscaped (before ++ rest) before.size = isEscapedAfter before := by
  rw [isEscaped, Text.splitAt?_size]
  rfl

/-- A range quantifier has no backslash that could escape what follows one of its characters. -/
theorem isEscapedAfter_range (before : Text) {read ahead : Text}
    (h : (Bounds.parse? (read ++ ahead)).isSome) :
    isEscapedAfter (before ++ '\x7b' :: read) = false := by
  induction read using List.reverseRecOn with
  | nil => exact isEscapedAfter_append (by decide) before
  | append_singleton read c =>
      have hc : c ≠ '\\' := by
        rintro rfl
        exact Bounds.notMem_of_parse? (c := '\\') h (by decide) (by simp)
      have happend := isEscapedAfter_append hc (before ++ '\x7b' :: read)
      rwa [List.append_assoc, List.cons_append] at happend

end RangeQuantifier

open RangeQuantifier (isEscaped isEscapedAt? isEscapedAfter)

/-- The flag of the reading on has the parity of the backslashes just read. -/
theorem OpenCount.escaped_ofText (before : Text) :
    (ofText before).escaped = isEscapedAfter before := by
  induction before using List.reverseRecOn with
  | nil => rfl
  | append_singleton before c ih =>
      have hread : ofText (before ++ [c]) = (ofText before).read c := by
        rw [ofText, List.foldl_append]
        rfl
      rw [hread]
      by_cases hc : c = '\\'
      · subst hc
        rw [RangeQuantifier.isEscapedAfter_append_backslash, ← ih]
        cases hflag : (ofText before).escaped with
        | true => simp [read, hflag]
        | false => simp [read, hflag]
      · rw [RangeQuantifier.isEscapedAfter_append hc]
        cases hflag : (ofText before).escaped with
        | true => simp [read, hflag]
        | false =>
            by_cases hopen : c = '('
            · simp [read, hflag, hopen]
            · simp [read, hflag, hc, hopen]

namespace Lexeme

/-- A character that is escaped is the second one of an escape. -/
theorem Boundary.exists_escape {pattern before after : Text} {c : Char}
    (hp : pattern = before ++ c :: after) (hesc : isEscapedAfter before = true) :
    ∃ before', Boundary pattern before' ('\\' :: c :: after) ∧ before = before' ++ ['\\'] := by
  rcases Boundary.start.or_inside hp (List.cons_ne_nil _ _) with h | ⟨before', u, h, hb, hu, hlt⟩
  · have hunescaped : isEscapedAfter before = false := h.unescaped (List.cons_ne_nil _ _)
    rw [hunescaped] at hesc
    cases hesc
  · have hne : u ++ c :: after ≠ [] := by simp
    obtain rfl : before = before' ++ u := hb
    rcases (begins_next hne).inside hu hlt with ⟨d, rest, rfl, hrest, -⟩ | ⟨read, ahead, tail, rfl, -, hv⟩
    · exact ⟨before', h, rfl⟩
    · rw [RangeQuantifier.isEscapedAfter_range before' hv] at hesc
      cases hesc

/-- What follows the backslash of an escape is escaped. -/
theorem Boundary.isEscapedAfter_of_escape {pattern before rest : Text}
    (h : Boundary pattern before rest) (hne : rest ≠ []) :
    isEscapedAfter (before ++ ['\\']) = true := by
  rw [RangeQuantifier.isEscapedAfter_append_backslash, h.unescaped hne]
  rfl

/-- An escape is read only from a backslash with a character behind it. -/
theorem Begins.eq_escape {t : Text} {l : Lexeme} (h : Begins t l) (hkind : l.kind = .escape) :
    ∃ c rest, t = '\\' :: c :: rest ∧ l.text = ['\\', c] := by
  cases h with
  | range => cases hkind
  | @escape c rest => exact ⟨c, rest, rfl, rfl⟩
  | single _ hescape => exact absurd hkind hescape

end Lexeme

/-- Before a character, the parity of the backslashes, counted in characters or in bytes, the flag of
the guess about groups when it comes to the character, and the token over it say the same: that it
is escaped. -/
theorem escaped_tfae (before : Text) (c : Char) (after : Text) :
    List.TFAE [
      isEscaped (before ++ c :: after) before.size = true,
      isEscapedAt? (before ++ c :: after) before.size = some true,
      (OpenCount.ofText before).escaped = true,
      ∃ t ∈ annotate (before ++ c :: after),
        t.kind = .escape ∧ t.span.start + 1 = before.size ∧ t.text = ['\\', c]] := by
  have hbackslash (s : Text) : Text.size (s ++ ['\\']) = s.size + 1 := Text.size_append s ['\\']
  rw [RangeQuantifier.isEscaped_size, RangeQuantifier.isEscapedAt?_size, OpenCount.escaped_ofText]
  tfae_have 1 ↔ 2 := by simp
  tfae_have 1 ↔ 3 := Iff.rfl
  tfae_have 1 → 4 := by
    intro hesc
    obtain ⟨start, hb, rfl⟩ := Lexeme.Boundary.exists_escape rfl hesc
    obtain ⟨depth, hmem⟩ := Token.exists_mem_annotate hb (List.cons_ne_nil _ _)
    exact ⟨_, hmem, rfl, (hbackslash start).symm, rfl⟩
  tfae_have 4 → 1 := by
    rintro ⟨t, ht, hkind, hstart, -⟩
    obtain ⟨start, rest, depth, hb, hne, rfl⟩ := Token.exists_boundary_of_mem ht
    obtain ⟨d, tail, rfl, -⟩ := (Lexeme.begins_next hne).eq_escape hkind
    have heq : before ++ c :: after = (start ++ ['\\']) ++ d :: tail := by
      rw [hb.eq, List.append_assoc]
      rfl
    have hsize : before.size = Text.size (start ++ ['\\']) := by
      rw [hbackslash, ← hstart]
      rfl
    obtain ⟨rfl, -⟩ := Text.append_inj_of_size heq hsize
    exact hb.isEscapedAfter_of_escape hne
  tfae_finish

end RegexExplainer
