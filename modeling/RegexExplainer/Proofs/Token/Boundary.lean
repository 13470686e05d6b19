import RegexExplainer.Proofs.Token.Range
import RegexExplainer.Token.Annotate

/- The boundaries between the tokens of a pattern. Each has an even run of backslashes before it,
and where none lies, a token goes across. -/
namespace RegexExplainer

namespace RangeQuantifier

theorem isEscapedAfter_append_backslash (before : Text) :
    isEscapedAfter (before ++ ['\\']) = !isEscapedAfter before := by
  have hrun : (before ++ ['\\']).reverse.takeWhile (· == '\\') =
      '\\' :: before.reverse.takeWhile (· == '\\') := by simp
  simp only [isEscapedAfter, hrun, List.length_cons]
  generalize (before.reverse.takeWhile (· == '\\')).length = n
  rcases Nat.mod_two_eq_zero_or_one n with h | h
  · have h' : (n + 1) % 2 = 1 := by omega
    simp [h, h']
  · have h' : (n + 1) % 2 = 0 := by omega
    simp [h, h']

theorem isEscapedAfter_append {c : Char} (hc : c ≠ '\\') (before : Text) :
    isEscapedAfter (before ++ [c]) = false := by
  simp [isEscapedAfter, hc]

end RangeQuantifier

open RangeQuantifier (isEscapedAfter isEscapedAfter_append isEscapedAfter_append_backslash)

namespace Lexeme

/-- The pieces that a text can begin with: a range quantifier, an escape, or one character that is
no backslash before another. -/
inductive Begins : Text → Lexeme → Prop
  | range {content after : Text} {b : Bounds} : Bounds.parse? content = some b →
      Begins ('\x7b' :: (content ++ '\x7d' :: after))
        ⟨.quantifierRange, '\x7b' :: (content ++ ['\x7d']), b.explanation⟩
  | escape {c : Char} {rest : Text} :
      Begins ('\\' :: c :: rest) ⟨.escape, ['\\', c], escapeExplanation c⟩
  | single {c : Char} {rest explanation : Text} {kind : Kind} : kind ≠ .quantifierRange →
      kind ≠ .escape → (c = '\\' → rest = []) → Begins (c :: rest) ⟨kind, [c], explanation⟩

theorem begins_first {c : Char} {rest : Text} :
    Begins (c :: rest) (first (c :: rest)) := by
  unfold first
  split
  · next h => cases h
  · next h => cases h; exact .single nofun nofun fun _ => rfl
  · next h => cases h; exact .escape
  · next h =>
      cases h
      split
      · exact .single nofun nofun nofun
      · exact .single nofun nofun nofun
  · next h => cases h; exact .single nofun nofun nofun
  · next h => cases h; exact .single nofun nofun nofun
  · next d _ hone hpair _ _ _ h =>
      cases h
      have hlast : c = '\\' → rest = [] := by
        rintro rfl
        cases rest with
        | nil => rfl
        | cons d rest => exact (hpair d rest rfl rfl).elim
      split_ifs
      · exact .single nofun nofun hlast
      · exact .single nofun nofun hlast
      · exact .single nofun nofun hlast

theorem begins_next {t : Text} (h : t ≠ []) : Begins t (next t) := by
  unfold next
  split
  · next rest =>
      split
      · next content bounds hb =>
          obtain ⟨c, hc, hb⟩ := Option.bind_eq_some_iff.mp hb
          obtain ⟨b, hparse, he⟩ := Option.map_eq_some_iff.mp hb
          cases he
          obtain ⟨-, after, rfl⟩ := Bounds.content?_eq_some_iff.mp hc
          exact .range hparse
      · exact .single nofun nofun nofun
  · obtain ⟨c, rest, rfl⟩ := List.exists_cons_of_ne_nil h
    exact begins_first

/-- The range quantifier at the start of a text is its first piece. -/
theorem next_range {content : Text} {b : Bounds} (h : Bounds.parse? content = some b)
    (after : Text) :
    next ('\x7b' :: (content ++ '\x7d' :: after)) =
      ⟨.quantifierRange, '\x7b' :: (content ++ ['\x7d']), b.explanation⟩ := by
  have hbrace : '\x7d' ∉ content := Bounds.notMem_of_parse? (by rw [h]; rfl) (by decide)
  have hc := Bounds.content?_eq_some_iff.mpr ⟨hbrace, after, rfl⟩
  simp [next, hc, h]

/-- An opening brace that begins no range quantifier is a literal. -/
theorem next_brace_of_none {before rest : Text}
    (h : RangeQuantifier.parse? (before ++ '\x7b' :: rest) before.size = none) :
    next ('\x7b' :: rest) = literal ['\x7b'] := by
  have hnone : ((Bounds.content? rest).bind fun c => (Bounds.parse? c).map fun b => (c, b)) =
      none := by
    cases hc : Bounds.content? rest with
    | none => rfl
    | some content =>
        cases hb : Bounds.parse? content with
        | none => simp [hb]
        | some b => simp [RangeQuantifier.parse?, hc, hb] at h
  simp only [next, hnone]

theorem Begins.append_drop {t : Text} {l : Lexeme} (h : Begins t l) :
    l.text ++ t.drop l.text.length = t := by
  cases h with
  | range hb => simp
  | escape => rfl
  | single hr he hc => rfl

theorem Begins.text_ne_nil {t : Text} {l : Lexeme} (h : Begins t l) : l.text ≠ [] := by
  cases h <;> exact List.cons_ne_nil _ _

/-- A token leaves an even run of backslashes behind, unless it ends the pattern. -/
theorem Begins.unescaped {before t : Text} {l : Lexeme} (h : Begins t l)
    (hb : isEscapedAfter before = false) (hrest : t.drop l.text.length ≠ []) :
    isEscapedAfter (before ++ l.text) = false := by
  cases h with
  | @range content after b hparse =>
      rw [show before ++ '\x7b' :: (content ++ ['\x7d']) =
        (before ++ '\x7b' :: content) ++ ['\x7d'] by simp]
      exact isEscapedAfter_append (by decide) _
  | @escape c rest =>
      rw [show before ++ ['\\', c] = (before ++ ['\\']) ++ [c] by simp]
      by_cases hc : c = '\\'
      · rw [hc, isEscapedAfter_append_backslash, isEscapedAfter_append_backslash, hb]
        rfl
      · exact isEscapedAfter_append hc _
  | @single c rest explanation kind hr he hlast =>
      refine isEscapedAfter_append ?_ before
      intro hc
      exact hrest (hlast hc)

/-- A place inside a token comes right after the backslash of an escape or between the braces of a
range quantifier. -/
theorem Begins.inside {u y : Text} {l : Lexeme} (h : Begins (u ++ y) l) (hu : u ≠ [])
    (hlt : u.length < l.text.length) :
    (∃ c rest, u = ['\\'] ∧ y = c :: rest ∧ l = ⟨.escape, ['\\', c], escapeExplanation c⟩) ∨
      ∃ read ahead after : Text, u = '\x7b' :: read ∧ y = ahead ++ '\x7d' :: after ∧
        (Bounds.parse? (read ++ ahead)).isSome := by
  obtain ⟨d, u, rfl⟩ := List.exists_cons_of_ne_nil hu
  generalize ht : d :: u ++ y = t at h
  cases h with
  | @range content after b hparse =>
      obtain ⟨rfl, hrest⟩ := List.cons.inj ht
      right
      rcases List.append_eq_append_iff.mp hrest with ⟨ahead, rfl, rfl⟩ | ⟨beyond, rfl, hy⟩
      · exact ⟨u, ahead, after, rfl, rfl, by rw [hparse]; rfl⟩
      · obtain rfl : beyond = [] := by
          rw [← List.length_eq_zero_iff]
          simp only [List.length_cons, List.length_append, List.length_nil] at hlt
          omega
        exact ⟨content, [], after, by simp, by simpa using hy.symm, by simp [hparse]⟩
  | @escape c rest =>
      obtain ⟨rfl, hrest⟩ := List.cons.inj ht
      left
      obtain rfl : u = [] := by
        rw [← List.length_eq_zero_iff]
        simp only [List.length_cons, List.length_nil] at hlt
        omega
      exact ⟨c, rest, rfl, hrest, rfl⟩
  | @single c rest explanation kind hr he hlast =>
      simp at hlt

/-- The places that lie between tokens: what stands before one and what comes after it. -/
inductive Boundary (pattern : Text) : Text → Text → Prop
  | start : Boundary pattern [] pattern
  | step {before rest : Text} : Boundary pattern before rest → rest ≠ [] →
      Boundary pattern (before ++ (next rest).text) (rest.drop (next rest).text.length)

theorem Boundary.eq {pattern before rest : Text} (h : Boundary pattern before rest) :
    pattern = before ++ rest := by
  induction h with
  | start => rfl
  | step hb hne ih => rw [ih, List.append_assoc, (begins_next hne).append_drop]

theorem Boundary.slice?_next {pattern before rest : Text} (h : Boundary pattern before rest)
    (hne : rest ≠ []) :
    pattern.slice? before.size (before.size + (next rest).length) = some (next rest).text :=
  Text.slice?_eq_some_iff.mpr ⟨before, rest.drop (next rest).text.length,
    by rw [(begins_next hne).append_drop]; exact h.eq, rfl, rfl⟩

theorem Boundary.unescaped {pattern before rest : Text} (h : Boundary pattern before rest)
    (hne : rest ≠ []) : isEscapedAfter before = false := by
  induction h with
  | start => rfl
  | step hb hr ih => exact (begins_next hr).unescaped (ih hr) hne

/-- What is left after the first piece begins where that stops. -/
theorem Boundary.from?_stop {pattern before rest : Text} (h : Boundary pattern before rest)
    (hne : rest ≠ []) :
    pattern.from? (before.size + (next rest).length) =
      some (rest.drop (next rest).text.length) :=
  Text.from?_eq_some_iff.mpr
    ⟨before ++ (next rest).text, (h.step hne).eq, (Text.size_append _ _).symm⟩

/-- A place that is no boundary lies inside a token. -/
theorem Boundary.or_inside {pattern before rest x y : Text} (h : Boundary pattern before rest)
    (hr : rest = x ++ y) (hy : y ≠ []) :
    Boundary pattern (before ++ x) y ∨
      ∃ before' u, Boundary pattern before' (u ++ y) ∧ before ++ x = before' ++ u ∧ u ≠ [] ∧
        u.length < (next (u ++ y)).text.length := by
  induction rest using all.induct generalizing before x with
  | case1 => exact absurd (List.append_eq_nil_iff.mp hr.symm).2 hy
  | case2 rest hne hlt ih =>
      by_cases hx : x = []
      · subst hx hr
        exact .inl (by simpa using h)
      · have happ := (begins_next hne).append_drop
        by_cases hlen : x.length < (next rest).text.length
        · subst hr
          exact .inr ⟨before, x, h, rfl, hx, hlen⟩
        · -- the token ends at or before the place, which is then looked for in the rest
          obtain ⟨x', rfl⟩ : (next rest).text <+: x :=
            List.prefix_of_prefix_length_le ⟨_, happ⟩ ⟨y, hr.symm⟩ (Nat.le_of_not_lt hlen)
          have hdrop : rest.drop (next rest).text.length = x' ++ y :=
            List.append_cancel_left (happ.trans (hr.trans (List.append_assoc _ _ _)))
          simpa using ih (h.step hne) hdrop

theorem Boundary.head {pattern before rest : Text} (h : Boundary pattern before rest) :
    (before = [] ∧ rest = pattern) ∨
      pattern ≠ [] ∧ ∃ tail, before = (next pattern).text ++ tail ∧
        Boundary (pattern.drop (next pattern).text.length) tail rest := by
  induction h with
  | start => exact .inl ⟨rfl, rfl⟩
  | @step before rest hb hne ih =>
      rcases ih with ⟨rfl, rfl⟩ | ⟨hp, tail, rfl, ht⟩
      · exact .inr ⟨hne, [], by simp, .start⟩
      · exact .inr ⟨hp, tail ++ (next rest).text, by simp, ht.step hne⟩

/-- From a boundary on, the boundaries are those of the rest. -/
theorem Boundary.drop {pattern before rest x y : Text} (h : Boundary pattern before rest)
    (h' : Boundary pattern (before ++ x) y) : Boundary rest x y := by
  induction h generalizing x with
  | start => exact h'
  | @step before rest hb hne ih =>
      rcases (ih (by simpa only [List.append_assoc] using h')).head with ⟨hnil, -⟩ | ⟨-, tail, ht, hy⟩
      · exact absurd (List.append_eq_nil_iff.mp hnil).1 (begins_next hne).text_ne_nil
      · obtain rfl := List.append_cancel_left ht
        exact hy

/-- No boundary lies inside a token. -/
theorem Boundary.length_next_le {pattern before rest x y : Text} (h : Boundary pattern before rest)
    (h' : Boundary pattern (before ++ x) y) (hx : x ≠ []) :
    (next rest).text.length ≤ x.length := by
  rcases (h.drop h').head with ⟨hnil, -⟩ | ⟨-, tail, rfl, -⟩
  · exact absurd hnil hx
  · rw [List.length_append]
    exact Nat.le_add_right _ _

/-- Every opening brace that no backslash escapes begins a token. -/
theorem Boundary.of_unescaped {pattern before rest : Text}
    (hp : pattern = before ++ '\x7b' :: rest) (hesc : isEscapedAfter before = false) :
    Boundary pattern before ('\x7b' :: rest) := by
  rcases Boundary.start.or_inside hp (List.cons_ne_nil _ _) with h | ⟨before', u, h, hb, hu, hlt⟩
  · exact h
  · have hne : u ++ '\x7b' :: rest ≠ [] := by simp
    exfalso
    rcases (begins_next hne).inside hu hlt with ⟨c, tail, rfl, -, -⟩ | ⟨read, ahead, after, -, hy, hv⟩
    · obtain rfl : before = before' ++ ['\\'] := hb
      rw [isEscapedAfter_append_backslash, h.unescaped hne] at hesc
      cases hesc
    · have hbrace : '\x7b' ∉ ahead := fun hm =>
        Bounds.notMem_of_parse? hv (by decide) (List.mem_append_right read hm)
      cases ahead with
      | nil => cases hy
      | cons d ahead =>
          obtain rfl := (List.cons.inj hy).1
          exact hbrace List.mem_cons_self

/-- No range quantifier closes at a boundary, as it is one token with its closing brace. -/
theorem Boundary.not_closes {pattern before rest : Text} (h : Boundary pattern before rest) :
    RangeQuantifier.closes pattern before.size = false := by
  by_contra hcloses
  obtain ⟨start, content, after, hs, hn⟩ :=
    RangeQuantifier.closes_eq_true_iff.mp (eq_true_of_ne_false hcloses)
  obtain ⟨hp, hsize⟩ := hs.size_before_closing
  obtain ⟨rfl, -⟩ := Text.append_inj_of_size (h.eq.symm.trans hp) (hn.trans hsize.symm)
  obtain ⟨b, hb⟩ := Option.isSome_iff_exists.mp hs.valid
  have hlen := (Boundary.of_unescaped hs.eq hs.unescaped).length_next_le h (List.cons_ne_nil _ _)
  rw [next_range hb] at hlen
  simp only [List.length_cons, List.length_append, List.length_nil] at hlen
  omega

theorem all_nil : all [] = [] := by
  rw [all, dif_pos rfl]

theorem all_of_ne_nil {t : Text} (h : t ≠ []) :
    all t = next t :: all (t.drop (next t).text.length) := by
  rw [all, dif_neg h]

theorem flatMap_text_all (t : Text) : (all t).flatMap text = t := by
  induction t using all.induct with
  | case1 => rw [all_nil, List.flatMap_nil]
  | case2 t hne hlt ih =>
      rw [all_of_ne_nil hne, List.flatMap_cons, ih]
      exact (begins_next hne).append_drop

end Lexeme

namespace Token

/-- Placing pieces changes neither their texts nor their kinds. -/
theorem map_placeFrom {α : Type} (f : Text → Kind → α) (offset depth : Nat) (ls : List Lexeme) :
    (placeFrom offset depth ls).map (fun t => f t.text t.kind) =
      ls.map fun l => f l.text l.kind := by
  induction ls generalizing offset depth with
  | nil => rfl
  | cons l ls ih =>
      rw [placeFrom, List.map_cons, ih, List.map_cons]
      rfl

theorem placeFrom_all {rest : Text} (h : rest ≠ []) (offset depth : Nat) :
    placeFrom offset depth (Lexeme.all rest) =
      ofLexeme offset depth (Lexeme.next rest) ::
        placeFrom (offset + (Lexeme.next rest).length) ((Lexeme.next rest).kind.depthAfter depth)
          (Lexeme.all (rest.drop (Lexeme.next rest).text.length)) := by
  rw [Lexeme.all_of_ne_nil h, placeFrom]

theorem annotate_nil : annotate [] = [] := by
  rw [annotate, Lexeme.all_nil, placeFrom]

theorem isEmpty_annotate {pattern : Text} (h : pattern ≠ []) :
    (annotate pattern).isEmpty = false := by
  rw [annotate, placeFrom_all h]
  rfl

/-- The tokens before a boundary, with those from it on. -/
theorem exists_annotate_eq {pattern before rest : Text} (h : Lexeme.Boundary pattern before rest) :
    ∃ depth ts, annotate pattern = ts ++ placeFrom before.size depth (Lexeme.all rest) := by
  induction h with
  | start => exact ⟨0, [], rfl⟩
  | @step before rest hb hne ih =>
      obtain ⟨depth, ts, hts⟩ := ih
      refine ⟨(Lexeme.next rest).kind.depthAfter depth,
        ts ++ [ofLexeme before.size depth (Lexeme.next rest)], ?_⟩
      rw [hts, placeFrom_all hne, Text.size_append, List.append_assoc]
      rfl

theorem exists_mem_annotate {pattern before rest : Text}
    (h : Lexeme.Boundary pattern before rest) (hne : rest ≠ []) :
    ∃ depth, ofLexeme before.size depth (Lexeme.next rest) ∈ annotate pattern := by
  obtain ⟨depth, ts, hts⟩ := exists_annotate_eq h
  refine ⟨depth, ?_⟩
  rw [hts, placeFrom_all hne]
  exact List.mem_append_right ts List.mem_cons_self

theorem exists_boundary_of_mem_placeFrom {pattern before rest : Text} {depth : Nat} {t : Token}
    (h : Lexeme.Boundary pattern before rest)
    (ht : t ∈ placeFrom before.size depth (Lexeme.all rest)) :
    ∃ before rest depth, Lexeme.Boundary pattern before rest ∧ rest ≠ [] ∧
      t = ofLexeme before.size depth (Lexeme.next rest) := by
  induction rest using Lexeme.all.induct generalizing before depth with
  | case1 =>
      rw [Lexeme.all_nil] at ht
      cases ht
  | case2 rest hne hlt ih =>
      rw [placeFrom_all hne] at ht
      rcases List.mem_cons.mp ht with rfl | ht
      · exact ⟨before, rest, depth, h, hne, rfl⟩
      · rw [Lexeme.length, ← Text.size_append] at ht
        exact ih (h.step hne) ht

/-- Every token stands at a boundary. -/
theorem exists_boundary_of_mem {pattern : Text} {t : Token} (ht : t ∈ annotate pattern) :
    ∃ before rest depth, Lexeme.Boundary pattern before rest ∧ rest ≠ [] ∧
      t = ofLexeme before.size depth (Lexeme.next rest) :=
  exists_boundary_of_mem_placeFrom .start ht

end Token

end RegexExplainer
