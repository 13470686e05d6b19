import RegexExplainer.Proofs.Token.Grammar

/- Patterns whose tokens are all literals. -/
namespace RegexExplainer

namespace Lexeme

/-- A character that is a literal wherever it is read as one token. -/
def isOrdinary (c : Char) : Bool := c ∉ reserved

/-- Texts whose pieces are literals of one character each: besides ordinary characters these are
opening braces, and a backslash that ends the text. -/
inductive Literals : Text → Prop
  | nil : Literals []
  | backslash : Literals ['\\']
  | cons {c : Char} {rest : Text} : isOrdinary c = true ∨ c = '\x7b' → Literals rest →
      Literals (c :: rest)

theorem Literals.of_append {before rest : Text} (h : Literals (before ++ rest)) :
    Literals rest := by
  induction before with
  | nil => exact h
  | cons c before ih =>
      generalize hall : c :: before ++ rest = all at h
      cases h with
      | nil => exact absurd hall (List.cons_ne_nil _ _)
      | backslash =>
          obtain ⟨-, hnil⟩ := List.cons.inj hall
          rw [(List.append_eq_nil_iff.mp hnil).2]
          exact .nil
      | cons hc hrest =>
          obtain ⟨-, rfl⟩ := List.cons.inj hall
          exact ih hrest

/-- A pattern of literal tokens without an opening brace is made of ordinary characters, but for a
backslash that may end it. -/
theorem Literals.ordinary_or_backslash {p : Text} (h : Literals p) (hbrace : '\x7b' ∉ p) :
    (∀ c ∈ p, isOrdinary c = true) ∨
      ∃ w, (∀ c ∈ w, isOrdinary c = true) ∧ p = w ++ ['\\'] := by
  induction h with
  | nil => exact .inl fun c hc => absurd hc List.not_mem_nil
  | backslash => exact .inr ⟨[], fun c hc => absurd hc List.not_mem_nil, rfl⟩
  | @cons c rest hc _ ih =>
      have hordinary : isOrdinary c = true :=
        hc.resolve_right fun heq => hbrace (heq ▸ List.mem_cons_self)
      rcases ih fun hmem => hbrace (List.mem_cons_of_mem c hmem) with hall | ⟨w, hall, rfl⟩
      · exact .inl (List.forall_mem_cons.mpr ⟨hordinary, hall⟩)
      · exact .inr ⟨c :: w, List.forall_mem_cons.mpr ⟨hordinary, hall⟩, rfl⟩

/-- A first piece that is a literal is one character. -/
theorem first_literal {c : Char} {rest : Text} (h : (first (c :: rest)).kind = .literal) :
    isOrdinary c = true ∨ c = '\x7b' ∨ (c = '\\' ∧ rest = []) := by
  unfold first at h
  split at h
  · next heq => cases heq
  · next heq => cases heq; exact .inr (.inr ⟨rfl, rfl⟩)
  · exact nomatch h
  · split at h
    · exact nomatch h
    · exact nomatch h
  · exact nomatch h
  · exact nomatch h
  · next d rest' hone hpair hopen hclose hbar heq =>
      cases heq
      split_ifs at h with hmeta hquantifier
      have hslash : c ≠ '\\' ∨ rest = [] := by
        cases rest with
        | nil => exact .inr rfl
        | cons d rest => exact .inl fun hc => hpair d rest hc rfl
      simp only [isMetaChar, Bool.or_eq_true, beq_iff_eq, not_or] at hmeta
      simp only [isQuantifierChar, Bool.or_eq_true, beq_iff_eq, not_or] at hquantifier
      by_cases hbrace : c = '\x7b'
      · exact .inr (.inl hbrace)
      · rcases hslash with hslash | hnil
        · left
          simp_all [isOrdinary, reserved]
        · by_cases hslash : c = '\\'
          · exact .inr (.inr ⟨hslash, hnil⟩)
          · left
            simp_all [isOrdinary, reserved]

theorem next_literal {c : Char} {rest : Text} (h : (next (c :: rest)).kind = .literal) :
    isOrdinary c = true ∨ c = '\x7b' ∨ (c = '\\' ∧ rest = []) := by
  unfold next at h
  split at h
  · next heq =>
      cases heq
      exact .inr (.inl rfl)
  · exact first_literal h

theorem text_of_literal {c : Char} {rest : Text} (h : (next (c :: rest)).kind = .literal) :
    (next (c :: rest)).text = [c] := by
  have hbegins := begins_next (List.cons_ne_nil c rest)
  generalize next (c :: rest) = l at h hbegins
  cases hbegins with
  | range hb => exact nomatch h
  | escape => exact nomatch h
  | single hr he hlast => rfl

end Lexeme

/-- A pattern all of whose tokens are literals is made of characters that each are one. -/
theorem literals_of_annotate {pattern : Text} (h : ∀ t ∈ annotate pattern, t.kind = .literal) :
    Lexeme.Literals pattern := by
  have hall : ∀ n before rest, rest.length = n → Lexeme.Boundary pattern before rest →
      Lexeme.Literals rest := by
    intro n
    induction n with
    | zero =>
        intro before rest hlength _
        rw [List.length_eq_zero_iff.mp hlength]
        exact .nil
    | succ n ih =>
        intro before rest hlength hboundary
        obtain ⟨c, rest, rfl⟩ := List.exists_cons_of_length_eq_add_one hlength
        have hne := List.cons_ne_nil c rest
        obtain ⟨depth, hmem⟩ := Token.exists_mem_annotate hboundary hne
        have hkind : (Lexeme.next (c :: rest)).kind = .literal := h _ hmem
        have hstep := hboundary.step hne
        rw [Lexeme.text_of_literal hkind] at hstep
        have hrest := ih (before ++ [c]) rest (Nat.succ.inj hlength) hstep
        rcases Lexeme.next_literal hkind with hc | hc | ⟨rfl, rfl⟩
        · exact .cons (.inl hc) hrest
        · exact .cons (.inr hc) hrest
        · exact .backslash
  exact hall pattern.length [] pattern rfl .start

end RegexExplainer
