import RegexExplainer.Proofs.Token.Grammar
import RegexExplainer.Proofs.Token.Literal

/- The tokens of two patterns put together. Unless a piece goes across the place where they meet, they
are the tokens of the one and then those of the other. -/
namespace RegexExplainer

/-- The tokens of a pattern when some capturing groups are open before it. -/
def annotateFrom (depth : Nat) (pattern : Text) : List Token :=
  Token.placeFrom 0 depth (Lexeme.all pattern)

/-- The token as it lies a number of bytes further on. -/
def Token.shift (n : Nat) (t : Token) : Token :=
  { t with span := ⟨t.span.start + n, t.span.stop + n⟩ }

/-- No piece of a pattern looks ahead into the next pattern with effect: the first does not end in a
backslash that escapes nothing or leave an opening brace without a closing one, and the second does
not complete the `?:` of a group that the first opens at its end. -/
structure Separate (p q : Text) : Prop where
  backslash : ∀ t, (annotate p).getLast? = some t → ¬ (t.kind = .literal ∧ t.text = ['\\'])
  brace : ∀ t ∈ annotate p, t.kind = .literal → t.text = ['\x7b'] →
    ∃ rest, p.from? t.span.stop = some rest ∧ '\x7d' ∈ rest
  groupOpen : ∀ t, (annotate p).getLast? = some t → t.kind = .groupOpen → ¬ ['?', ':'] <+: q
  groupOpenQuestion : ∀ ts t u, annotate p = ts ++ [t, u] → t.kind = .groupOpen →
    u.kind = .quantifier → u.text = ['?'] → ¬ [':'] <+: q

namespace Lexeme

/-- What follows the first closing brace is not looked at. -/
theorem next_brace_append {tail : Text}
    (h : ∀ content after, RangeContent content → tail ≠ content ++ '\x7d' :: after)
    (hclose : '\x7d' ∈ tail) (q : Text) : next ('\x7b' :: (tail ++ q)) = literal ['\x7b'] := by
  obtain ⟨s, u, rfl, hs⟩ := List.eq_append_cons_of_mem hclose
  refine next_brace ?_
  intro content after hcontent he
  have hbrace : '\x7d' ∉ content :=
    Bounds.notMem_of_parse? (rangeContent_iff.mp hcontent) (by decide)
  have hfirst : Bounds.content? ((s ++ '\x7d' :: u) ++ q) = some s :=
    Bounds.content?_eq_some_iff.mpr ⟨hs, u ++ q, by simp⟩
  have hread : Bounds.content? ((s ++ '\x7d' :: u) ++ q) = some content :=
    Bounds.content?_eq_some_iff.mpr ⟨hbrace, after, he⟩
  obtain rfl := Option.some.inj (hfirst.symm.trans hread)
  exact h s u hcontent rfl

theorem opensNonCapturing_append {tail q : Text} (h : ∀ after, tail ≠ '?' :: ':' :: after)
    (hnil : tail = [] → ¬ ['?', ':'] <+: q) (hquestion : tail = ['?'] → ¬ [':'] <+: q) :
    opensNonCapturing (tail ++ q) = false := by
  refine opensNonCapturing_eq_false_iff.mpr ?_
  intro after he
  match tail with
  | [] => exact hnil rfl ⟨after, he.symm⟩
  | [c] =>
      simp only [List.cons_append, List.nil_append, List.cons.injEq] at he
      obtain ⟨rfl, hq⟩ := he
      exact hquestion rfl ⟨after, hq.symm⟩
  | c :: d :: tail =>
      simp only [List.cons_append, List.cons.injEq] at he
      obtain ⟨rfl, rfl, -⟩ := he
      exact h tail rfl

/-- The first piece of a text stays what it is when its look ahead ends within the text. -/
theorem next_append {rest q : Text} (hne : rest ≠ []) (hbackslash : rest ≠ ['\\'])
    (hbrace : ∀ tail, rest = '\x7b' :: tail → (next rest).kind = .literal → '\x7d' ∈ tail)
    (hopen : rest = ['('] → ¬ ['?', ':'] <+: q)
    (hquestion : rest = ['(', '?'] → ¬ [':'] <+: q) :
    next (rest ++ q) = next rest := by
  have hreads := reads_next hne
  generalize (next rest).text = text, hkind : (next rest).kind = kind at hreads hbrace
  cases hreads with
  | @range content after hcontent =>
      obtain ⟨b, hb⟩ := Option.isSome_iff_exists.mp (rangeContent_iff.mp hcontent)
      have happ : '\x7b' :: (content ++ '\x7d' :: after) ++ q =
          '\x7b' :: (content ++ '\x7d' :: (after ++ q)) := by simp
      rw [happ, next_range hb, next_range hb]
  | brace hnone =>
      rw [List.cons_append, next_brace_append hnone (hbrace _ rfl rfl), next_brace hnone]
  | escape => rfl
  | backslash => exact absurd rfl hbackslash
  | groupOpenNonCapturing => rfl
  | @groupOpen tail hnone =>
      have hopens := opensNonCapturing_append (q := q) hnone
        (fun htail => hopen (by rw [htail])) (fun htail => hquestion (by rw [htail]))
      rw [List.cons_append, next_groupOpen hopens,
        next_groupOpen (opensNonCapturing_eq_false_iff.mpr hnone)]
  | groupClose => rfl
  | alternation => rfl
  | metaChar hc => rw [List.cons_append, next_metaChar hc, next_metaChar hc]
  | quantifier hc => rw [List.cons_append, next_quantifier hc, next_quantifier hc]
  | literal hc => rw [List.cons_append, next_of_notMem_reserved hc, next_of_notMem_reserved hc]

/-- A text that is one piece. -/
theorem all_eq_singleton {t : Text} (hne : t ≠ []) (h : (next t).text = t) : all t = [next t] := by
  rw [all_of_ne_nil hne, h, List.drop_length, all_nil]

end Lexeme

namespace Token

theorem placeFrom_append (offset depth : Nat) (ls ms : List Lexeme) :
    placeFrom offset depth (ls ++ ms) =
      placeFrom offset depth ls ++
        placeFrom (offset + Text.size (ls.flatMap Lexeme.text))
          (ls.foldl (fun depth l => l.kind.depthAfter depth) depth) ms := by
  induction ls generalizing offset depth with
  | nil => rfl
  | cons l ls ih =>
      rw [List.cons_append, placeFrom, ih, List.flatMap_cons, Text.size_append, ← Nat.add_assoc]
      rfl

theorem placeFrom_add (offset n depth : Nat) (ls : List Lexeme) :
    placeFrom (offset + n) depth ls = (placeFrom offset depth ls).map (shift n) := by
  induction ls generalizing offset depth with
  | nil => rfl
  | cons l ls ih =>
      have hstop : offset + n + l.length = offset + l.length + n := Nat.add_right_comm _ _ _
      rw [placeFrom, hstop, ih, placeFrom, List.map_cons]
      simp only [ofLexeme, shift, hstop]

/-- The depth to begin with makes a difference to nothing but depths. -/
theorem forall₂_placeFrom (offset depth depth' : Nat) (ls : List Lexeme) :
    List.Forall₂ (fun t u => t = { u with depth := t.depth }) (placeFrom offset depth ls)
      (placeFrom offset depth' ls) := by
  induction ls generalizing offset depth depth' with
  | nil => exact .nil
  | cons l ls ih => exact .cons rfl (ih _ _ _)

end Token

namespace Separate

variable {p q : Text}

theorem next_append (h : Separate p q) {before rest : Text} (hb : Lexeme.Boundary p before rest)
    (hne : rest ≠ []) : Lexeme.next (rest ++ q) = Lexeme.next rest := by
  obtain ⟨depth, ts, hts⟩ := Token.exists_annotate_eq hb
  refine Lexeme.next_append hne ?_ ?_ ?_ ?_
  · rintro rfl
    rw [Lexeme.all_eq_singleton hne rfl] at hts
    exact h.backslash _ (by rw [hts]; exact List.getLast?_concat) ⟨rfl, rfl⟩
  · rintro tail rfl hkind
    obtain ⟨depth', hmem⟩ := Token.exists_mem_annotate hb hne
    have htext := Lexeme.text_of_literal hkind
    obtain ⟨rest, hrest, hclose⟩ := h.brace _ hmem hkind htext
    have hstop := hb.from?_stop hne
    rw [htext] at hstop
    obtain rfl := Option.some.inj (hrest.symm.trans hstop)
    exact hclose
  · rintro rfl
    rw [Lexeme.all_eq_singleton hne rfl] at hts
    exact h.groupOpen _ (by rw [hts]; exact List.getLast?_concat) rfl
  · rintro rfl
    have hall : Lexeme.all ['(', '?'] = [Lexeme.next ['(', '?'], Lexeme.next ['?']] := by
      rw [Lexeme.all_of_ne_nil hne]
      exact congrArg _ (Lexeme.all_eq_singleton (List.cons_ne_nil _ _) rfl)
    rw [hall] at hts
    exact h.groupOpenQuestion _ _ _ hts rfl rfl rfl

theorem all_append (h : Separate p q) {before rest : Text} (hb : Lexeme.Boundary p before rest) :
    Lexeme.all (rest ++ q) = Lexeme.all rest ++ Lexeme.all q := by
  induction rest using Lexeme.all.induct generalizing before with
  | case1 => rw [Lexeme.all_nil, List.nil_append, List.nil_append]
  | case2 rest hne hlt ih =>
      have happ := (Lexeme.begins_next hne).append_drop
      have hlength : (Lexeme.next rest).text.length ≤ rest.length := by
        rw [← congrArg List.length happ, List.length_append]
        exact Nat.le_add_right _ _
      rw [Lexeme.all_of_ne_nil hne, Lexeme.all_of_ne_nil (by simp [hne]), h.next_append hb hne,
        List.drop_append_of_le_length hlength, ih (hb.step hne), List.cons_append]

end Separate

/-- The tokens of two patterns put together are those of the first, then those of the second, moved
on by the length of the first and as deep as the groups that it leaves open make them. -/
theorem annotate_append {p q : Text} (h : Separate p q) :
    annotate (p ++ q) =
        annotate p ++ (annotateFrom (finalDepth p) q).map (Token.shift p.size) ∧
      List.Forall₂ (fun t u => t = { u with depth := t.depth }) (annotateFrom (finalDepth p) q)
        (annotate q) := by
  constructor
  · rw [annotate, h.all_append .start, Token.placeFrom_append, Lexeme.flatMap_text_all,
      Token.placeFrom_add]
    rfl
  · exact Token.forall₂_placeFrom 0 (finalDepth p) 0 (Lexeme.all q)

/-- Two groups are open at the end of `(é{x}(`. Only `?:` would change the second. -/
def openAtEnd : Text := ['(', 'é', '\x7b', 'x', '\x7d', '(']

theorem separate_openAtEnd : Separate openAtEnd ['?', '=', 'b', ')'] := by
  have hlast : (annotate openAtEnd).getLast?.map Token.kind = some .groupOpen := by
    decide +kernel
  have hbrace : (annotate openAtEnd).all (fun t => t.text ≠ ['\x7b'] ∨ t.span.stop = 4) = true := by
    decide +kernel
  refine ⟨?_, ?_, ?_, ?_⟩
  · rintro t ht ⟨hkind, -⟩
    rw [ht, Option.map_some, hkind] at hlast
    cases hlast
  · intro t ht _ htext
    simp only [List.all_eq_true, decide_eq_true_eq] at hbrace
    rcases hbrace t ht with h | h
    · exact absurd htext h
    · exact ⟨['x', '\x7d', '('], by rw [h]; decide, by decide⟩
  · intro t _ _
    decide
  · intro ts t u _ _ _ _
    decide

theorem annotate_append_openAtEnd :
    Separate openAtEnd ['?', '=', 'b', ')'] ∧
      annotate (openAtEnd ++ ['?', '=', 'b', ')']) =
        annotate openAtEnd ++ (annotateFrom 2 ['?', '=', 'b', ')']).map (Token.shift 7) := by
  have hdepth : finalDepth openAtEnd = 2 := by decide +kernel
  have hannotate := (annotate_append separate_openAtEnd).1
  rw [hdepth] at hannotate
  exact ⟨separate_openAtEnd, hannotate⟩

end RegexExplainer
