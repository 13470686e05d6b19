import RegexExplainer.Proofs.Token.Literal
import RegexExplainer.Proofs.Token.Openings

/- Patterns that spell a text, and quoted texts among them. A quotation has a backslash before each
character with a meaning of its own, so that every character of the text is one token, and no
parenthesis counts. -/
namespace RegexExplainer

namespace Text

/-- The characters that a quotation takes their meaning from. -/
def isSpecial (c : Char) : Bool := "\\.+*?()|[]\x7b\x7d^$#&-~".toList.contains c

def quoteChar (c : Char) : Text := if isSpecial c then ['\\', c] else [c]

/-- A text with a backslash before each character that has a meaning of its own in patterns. -/
def quote (t : Text) : Text := t.flatMap quoteChar

variable {c : Char}

theorem quoteChar_of_special (h : isSpecial c = true) : quoteChar c = ['\\', c] := if_pos h

theorem quoteChar_of_not_special (h : isSpecial c = false) : quoteChar c = [c] := by
  rw [quoteChar, h]
  rfl

theorem quoteChar_ne_nil (c : Char) : quoteChar c ≠ [] := by
  unfold quoteChar
  split
  · exact List.cons_ne_nil _ _
  · exact List.cons_ne_nil _ _

theorem quote_cons (c : Char) (t : Text) : quote (c :: t) = quoteChar c ++ quote t := rfl

end Text

open Lexeme (isOrdinary)
open Text (isSpecial quoteChar quote quoteChar_of_special quoteChar_of_not_special)

/-- What is no literal by itself has a meaning of its own. -/
theorem notMem_reserved_of_not_special {c : Char} (h : isSpecial c = false) : c ∉ Lexeme.reserved := by
  have hspecial : ∀ d ∈ Lexeme.reserved, isSpecial d = true := by
    intro d hd
    simp only [Lexeme.reserved, List.mem_cons, List.not_mem_nil, or_false] at hd
    rcases hd with rfl | rfl | rfl | rfl | rfl | rfl | rfl | rfl | rfl | rfl | rfl | rfl | rfl
    all_goals decide
  intro hmem
  exact Bool.false_ne_true (h.symm.trans (hspecial c hmem))

/-- The pattern has the characters of the text, each by itself or after a backslash. -/
inductive Spells : Text → Text → Prop
  | nil : Spells [] []
  | ordinary {c : Char} {p w : Text} : isOrdinary c = true → Spells p w → Spells (c :: p) (c :: w)
  | escaped {c : Char} {p w : Text} : isSpecial c = true → Spells p w →
      Spells ('\\' :: c :: p) (c :: w)

theorem isOrdinary_of_not_special {c : Char} (h : isSpecial c = false) : isOrdinary c = true :=
  decide_eq_true (notMem_reserved_of_not_special h)

theorem spells_quote (w : Text) : Spells (quote w) w := by
  induction w with
  | nil => exact .nil
  | cons c w ih =>
      rw [Text.quote_cons]
      cases hc : isSpecial c with
      | true =>
          rw [quoteChar_of_special hc]
          exact .escaped hc ih
      | false =>
          rw [quoteChar_of_not_special hc]
          exact .ordinary (isOrdinary_of_not_special hc) ih

theorem spells_self {w : Text} (h : ∀ c ∈ w, isOrdinary c = true) : Spells w w := by
  induction w with
  | nil => exact .nil
  | cons c w ih =>
      obtain ⟨hc, hw⟩ := List.forall_mem_cons.mp h
      exact .ordinary hc (ih hw)

namespace Lexeme

/-- The piece that a character of a quoted text makes. -/
def quoted (c : Char) : Lexeme :=
  if isSpecial c then ⟨.escape, ['\\', c], escapeExplanation c⟩ else literal [c]

theorem text_quoted (c : Char) : (quoted c).text = quoteChar c := by
  unfold quoted quoteChar
  split
  · rfl
  · rfl

/-- What follows a quoted character does not change how it is read. -/
theorem next_quoteChar (c : Char) (rest : Text) : next (quoteChar c ++ rest) = quoted c := by
  cases hc : isSpecial c with
  | true =>
      rw [quoteChar_of_special hc, quoted, if_pos hc]
      rfl
  | false =>
      rw [quoteChar_of_not_special hc, quoted, hc]
      exact next_of_notMem_reserved (notMem_reserved_of_not_special hc) rest

theorem all_quote (w : Text) : all (quote w) = w.map quoted := by
  induction w with
  | nil => exact all_nil
  | cons c w ih =>
      have hne : quoteChar c ++ quote w ≠ [] :=
        List.append_ne_nil_of_left_ne_nil (Text.quoteChar_ne_nil c) _
      rw [Text.quote_cons, all_of_ne_nil hne, next_quoteChar, text_quoted, List.drop_left, ih,
        List.map_cons]

end Lexeme

/-- Quoted characters are tokens outside all groups. -/
theorem map_placeFrom_quoted (w : Text) (offset : Nat) :
    (Token.placeFrom offset 0 (w.map Lexeme.quoted)).map (fun t => (t.text, t.kind, t.depth)) =
      w.map fun c => if isSpecial c then (['\\', c], .escape, 0) else ([c], .literal, 0) := by
  induction w generalizing offset with
  | nil => rfl
  | cons c w ih =>
      have hdepth : (Lexeme.quoted c).kind.depthAfter 0 = 0 := by
        unfold Lexeme.quoted
        split
        · rfl
        · rfl
      rw [List.map_cons, Token.placeFrom, List.map_cons, hdepth, ih, List.map_cons]
      apply congrArg (· :: _)
      unfold Lexeme.quoted
      split
      · rfl
      · rfl

/-- A quoted text has one token for each of its characters. -/
theorem map_annotate_quote (w : Text) :
    (annotate (quote w)).map (fun t => (t.text, t.kind, t.depth)) =
      w.map fun c => if isSpecial c then (['\\', c], .escape, 0) else ([c], .literal, 0) := by
  rw [annotate, Lexeme.all_quote]
  exact map_placeFrom_quoted w 0

/-- Reading a quoted text counts no parenthesis and leaves nothing escaped. -/
theorem OpenCount.ofText_quote (w : Text) : ofText (quote w) = none := by
  unfold ofText
  induction w with
  | nil => rfl
  | cons c w ih =>
      have hread : (quoteChar c).foldl read none = none := by
        cases hc : isSpecial c with
        | true =>
            rw [quoteChar_of_special hc]
            rfl
        | false =>
            have hreserved := notMem_reserved_of_not_special hc
            rw [quoteChar_of_not_special hc]
            refine foldl_read_of_notMem ?_ ?_ 0
            · intro hmem
              exact hreserved (List.mem_singleton.mp hmem ▸ by decide)
            · intro hmem
              exact hreserved (List.mem_singleton.mp hmem ▸ by decide)
      rw [Text.quote_cons, List.foldl_append, hread, ih]

theorem hasCaptureGroups_quote (w : Text) : hasCaptureGroups (quote w) = false := by
  rw [hasCaptureGroups, OpenCount.ofText_quote]
  exact decide_eq_false (Nat.not_lt_zero _)

end RegexExplainer
