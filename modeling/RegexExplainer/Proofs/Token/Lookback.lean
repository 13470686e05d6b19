import RegexExplainer.Proofs.Token.Scan

/- The search backwards from a closing brace finds the range quantifiers that the scan finds. -/
namespace RegexExplainer

namespace RangeQuantifier

/-- How many backslashes stand right before a place. -/
def backslashesBefore (pattern : Text) (offset : Nat) : Nat :=
  ((pattern.splitAt? offset).map fun (before, _) =>
    (before.reverse.takeWhile (· == '\\')).length).getD 0

/-- A range quantifier is read from byte `opening` up to byte `stop`, with an even run of
backslashes before it. -/
def ReadsTo (pattern : Text) (opening stop : Nat) : Prop :=
  backslashesBefore pattern opening % 2 = 0 ∧
    ∃ r, parse? pattern opening = some r ∧ r.span.stop = stop

theorem backslashesBefore_append (before rest : Text) :
    backslashesBefore (before ++ rest) before.size % 2 = 0 ↔ isEscapedAfter before = false := by
  rw [backslashesBefore, Text.splitAt?_size, isEscapedAfter]
  simp only [Option.map_some, Option.getD_some, beq_eq_false_iff_ne, ne_eq]
  omega

theorem readsTo_iff {pattern : Text} {opening stop : Nat} :
    ReadsTo pattern opening stop ↔
      ∃ before content after, Stands pattern before content after ∧ opening = before.size ∧
        stop = before.size + 1 + content.size + 1 := by
  constructor
  · rintro ⟨heven, r, hr, rfl⟩
    obtain ⟨before, content, after, b, rfl, rfl, hb, rfl⟩ := parse?_eq_some_iff.mp hr
    refine ⟨before, content, after, ⟨rfl, (backslashesBefore_append _ _).mp heven, ?_⟩, rfl, ?_⟩
    · rw [hb]
      rfl
    · simp only
      omega
  · rintro ⟨before, content, after, ⟨rfl, hesc, hv⟩, rfl, rfl⟩
    obtain ⟨b, hb⟩ := Option.isSome_iff_exists.mp hv
    refine ⟨(backslashesBefore_append _ _).mpr hesc, _,
      parse?_eq_some_iff.mpr ⟨before, content, after, b, rfl, rfl, hb, rfl⟩, ?_⟩
    simp only
    omega

theorem ReadsTo.unique {pattern : Text} {opening opening' stop : Nat}
    (h : ReadsTo pattern opening stop) (h' : ReadsTo pattern opening' stop) : opening = opening' := by
  obtain ⟨before, content, after, hs, rfl, rfl⟩ := readsTo_iff.mp h
  obtain ⟨before', content', after', hs', rfl, hstop⟩ := readsTo_iff.mp h'
  obtain ⟨rfl, -⟩ := hs.unique hs' (by omega)
  rfl

theorem closes_iff_readsTo {pattern : Text} {closing : Nat} :
    closes pattern closing = true ↔ ∃ opening, ReadsTo pattern opening (closing + 1) := by
  rw [closes_eq_true_iff]
  constructor
  · rintro ⟨before, content, after, hs, rfl⟩
    exact ⟨before.size, readsTo_iff.mpr ⟨before, content, after, hs, rfl, rfl⟩⟩
  · rintro ⟨opening, h⟩
    obtain ⟨before, content, after, hs, -, hstop⟩ := readsTo_iff.mp h
    exact ⟨before, content, after, hs, by omega⟩

/-- The tokens of range quantifiers lie where these are read. -/
theorem readsTo_iff_exists_token {pattern : Text} {opening stop : Nat} :
    ReadsTo pattern opening stop ↔ ∃ t ∈ annotate pattern,
      t.kind = .quantifierRange ∧ t.span.start = opening ∧ t.span.stop = stop := by
  rw [readsTo_iff]
  constructor
  · rintro ⟨before, content, after, hs, rfl, rfl⟩
    obtain ⟨b, hb⟩ := Option.isSome_iff_exists.mp hs.valid
    obtain ⟨depth, hmem⟩ := Token.exists_mem_annotate
      (Lexeme.Boundary.of_unescaped hs.eq hs.unescaped) (List.cons_ne_nil _ _)
    rw [Lexeme.next_range hb] at hmem
    refine ⟨_, hmem, rfl, rfl, ?_⟩
    simp only [Token.ofLexeme, Lexeme.length, size_braced]
    omega
  · rintro ⟨t, ht, hkind, rfl, rfl⟩
    obtain ⟨before, rest, depth, hb, hne, rfl⟩ := Token.exists_boundary_of_mem ht
    have hbegins := Lexeme.begins_next hne
    have heq := hb.eq
    have hesc := hb.unescaped hne
    simp only [Token.ofLexeme] at hkind ⊢
    generalize Lexeme.next rest = l at hbegins hkind ⊢
    cases hbegins with
    | @range content after b hparse =>
        refine ⟨before, content, after, ⟨heq, hesc, by rw [hparse]; rfl⟩, rfl, ?_⟩
        rw [Lexeme.length, size_braced]
        omega
    | escape => cases hkind
    | single hr => exact absurd hkind hr

end RangeQuantifier

open RangeQuantifier

/-- A closing brace ends a range quantifier for the search backwards exactly when one is read up to
it, and exactly when a token of one ends there. Where it is read from is then settled, and is where
the token begins. The scan never stands at such a brace, so it is no token of its own. -/
theorem closes_iff (pattern : Text) (closing : Nat) :
    (closes pattern closing = true ↔ ∃ opening, ReadsTo pattern opening (closing + 1)) ∧
      (closes pattern closing = true ↔
        ∃ t ∈ annotate pattern, t.kind = .quantifierRange ∧ t.span.stop = closing + 1) ∧
      (∀ opening, ReadsTo pattern opening (closing + 1) →
        (∀ opening', ReadsTo pattern opening' (closing + 1) → opening' = opening) ∧
        ∀ t ∈ annotate pattern, t.kind = .quantifierRange → t.span.stop = closing + 1 →
          t.span.start = opening) ∧
      (∀ s, Scan.Reached pattern s → closes pattern s.offset = false) ∧
      ∀ t ∈ annotate pattern, closes pattern t.span.start = false := by
  refine ⟨closes_iff_readsTo, ?_, ?_, ?_, ?_⟩
  · rw [closes_iff_readsTo]
    constructor
    · rintro ⟨opening, h⟩
      obtain ⟨t, ht, hkind, -, hstop⟩ := readsTo_iff_exists_token.mp h
      exact ⟨t, ht, hkind, hstop⟩
    · rintro ⟨t, ht, hkind, hstop⟩
      exact ⟨t.span.start, readsTo_iff_exists_token.mpr ⟨t, ht, hkind, rfl, hstop⟩⟩
  · intro opening h
    refine ⟨fun opening' h' => h'.unique h, ?_⟩
    intro t ht hkind hstop
    exact (readsTo_iff_exists_token.mpr ⟨t, ht, hkind, rfl, hstop⟩).unique h
  · intro s hs
    obtain ⟨before, rest, hf⟩ := hs.follows
    rw [hf.offset]
    exact hf.boundary.not_closes
  · intro t ht
    obtain ⟨before, rest, depth, hb, -, rfl⟩ := Token.exists_boundary_of_mem ht
    exact hb.not_closes

end RegexExplainer
