import RegexExplainer.Proofs.Token.Boundary

/- The grammar of the pieces of a pattern, in terms of characters alone. Every pattern has one reading
by it, and its tokens are that reading. -/
namespace RegexExplainer

/-- Characters from 0 to 9, and at least one. -/
def Digits (t : Text) : Prop := t ≠ [] ∧ ∀ c ∈ t, '0' ≤ c ∧ c ≤ '9'

/-- What stands between the braces of a range quantifier: digits, then nothing, or a comma that
digits or nothing follow. -/
inductive RangeContent : Text → Prop
  | exactly {n : Text} : Digits n → RangeContent n
  | atLeast {n : Text} : Digits n → RangeContent (n ++ [','])
  | between {n m : Text} : Digits n → Digits m → RangeContent (n ++ ',' :: m)

theorem digits_iff {t : Text} : Digits t ↔ Bounds.isNumeral t = true := by
  have hdigit (c : Char) : isDigit c = true ↔ '0' ≤ c ∧ c ≤ '9' := by
    rw [isDigit, Char.isDigit, Bool.and_eq_true, decide_eq_true_iff, decide_eq_true_iff]
    rfl
  simp only [Digits, Bounds.isNumeral, Bool.and_eq_true, List.all_eq_true, hdigit,
    Bool.not_eq_true', List.isEmpty_eq_false_iff]

theorem rangeContent_iff {content : Text} :
    RangeContent content ↔ (Bounds.parse? content).isSome := by
  rw [Option.isSome_iff_exists]
  constructor
  · intro h
    cases h with
    | exactly hn =>
        exact ⟨.exactly content, Bounds.parse?_eq_some_iff.mpr ⟨rfl, digits_iff.mp hn⟩⟩
    | @atLeast n hn =>
        exact ⟨.atLeast n, Bounds.parse?_eq_some_iff.mpr ⟨rfl, digits_iff.mp hn⟩⟩
    | @between n m hn hm =>
        have hw : (Bounds.between n m).IsWritten := ⟨digits_iff.mp hn, digits_iff.mp hm⟩
        exact ⟨.between n m, Bounds.parse?_eq_some_iff.mpr ⟨rfl, hw⟩⟩
  · rintro ⟨b, hb⟩
    obtain ⟨rfl, hw⟩ := Bounds.parse?_eq_some_iff.mp hb
    cases b with
    | exactly n => exact .exactly (digits_iff.mpr hw)
    | atLeast n => exact .atLeast (digits_iff.mpr hw)
    | between n m => exact .between (digits_iff.mpr hw.1) (digits_iff.mpr hw.2)

namespace Lexeme

/-- Characters that are no literal by themselves wherever they stand. -/
def reserved : List Char :=
  ['\x7b', '\\', '(', ')', '|', '^', '$', '.', '[', ']', '*', '+', '?']

/-- What the grammar has a text begin with: the text of the piece, and its kind. -/
inductive Reads : Text → Text → Kind → Prop
  | range {content after : Text} : RangeContent content →
      Reads ('\x7b' :: (content ++ '\x7d' :: after)) ('\x7b' :: (content ++ ['\x7d']))
        .quantifierRange
  | brace {rest : Text} :
      (∀ content after, RangeContent content → rest ≠ content ++ '\x7d' :: after) →
      Reads ('\x7b' :: rest) ['\x7b'] .literal
  | escape {c : Char} {rest : Text} : Reads ('\\' :: c :: rest) ['\\', c] .escape
  | backslash : Reads ['\\'] ['\\'] .literal
  | groupOpenNonCapturing {rest : Text} :
      Reads ('(' :: '?' :: ':' :: rest) ['('] .groupOpenNonCapturing
  | groupOpen {rest : Text} : (∀ after, rest ≠ '?' :: ':' :: after) →
      Reads ('(' :: rest) ['('] .groupOpen
  | groupClose {rest : Text} : Reads (')' :: rest) [')'] .groupClose
  | alternation {rest : Text} : Reads ('|' :: rest) ['|'] .alternation
  | metaChar {c : Char} {rest : Text} : c ∈ ['^', '$', '.', '[', ']'] →
      Reads (c :: rest) [c] .metaChar
  | quantifier {c : Char} {rest : Text} : c ∈ ['*', '+', '?'] → Reads (c :: rest) [c] .quantifier
  | literal {c : Char} {rest : Text} : c ∉ reserved → Reads (c :: rest) [c] .literal

/-- An opening brace with no range quantifier after it is a literal. -/
theorem next_brace {rest : Text}
    (h : ∀ content after, RangeContent content → rest ≠ content ++ '\x7d' :: after) :
    next ('\x7b' :: rest) = literal ['\x7b'] := by
  refine @next_brace_of_none [] rest ?_
  rw [Option.eq_none_iff_forall_ne_some]
  intro r hr
  obtain ⟨before, content, after, b, hp, hsize, hb, -⟩ := RangeQuantifier.parse?_eq_some_iff.mp hr
  obtain ⟨-, hrest⟩ := Text.append_inj_of_size hp hsize
  exact h content after (rangeContent_iff.mpr (by rw [hb]; rfl)) (List.cons.inj hrest).2

theorem opensNonCapturing_iff {rest : Text} :
    opensNonCapturing rest = true ↔ ∃ after, rest = '?' :: ':' :: after := by
  rw [opensNonCapturing, List.isPrefixOf_iff_prefix]
  constructor
  · rintro ⟨after, rfl⟩
    exact ⟨after, rfl⟩
  · rintro ⟨after, rfl⟩
    exact ⟨after, rfl⟩

theorem opensNonCapturing_eq_false_iff {rest : Text} :
    opensNonCapturing rest = false ↔ ∀ after, rest ≠ '?' :: ':' :: after := by
  rw [← Bool.not_eq_true, opensNonCapturing_iff, not_exists]

theorem next_groupOpen {rest : Text} (h : opensNonCapturing rest = false) :
    next ('(' :: rest) = ⟨.groupOpen, ['('], "start capturing group".toList⟩ := by
  simp [next, first, h]

theorem next_groupOpenNonCapturing {rest : Text} (h : opensNonCapturing rest = true) :
    next ('(' :: rest) = ⟨.groupOpenNonCapturing, ['('], "start non-capturing group".toList⟩ := by
  simp [next, first, h]

theorem next_groupClose (rest : Text) :
    next (')' :: rest) = ⟨.groupClose, [')'], "end group".toList⟩ := rfl

theorem next_alternation (rest : Text) :
    next ('|' :: rest) = ⟨.alternation, ['|'], "alternation (OR)".toList⟩ := rfl

/-- Other characters than these few are read without a look at what follows. -/
theorem next_char {c : Char} (h : c ∉ ['\x7b', '\\', '(', ')', '|']) (rest : Text) :
    next (c :: rest) =
      if isMetaChar c then ⟨.metaChar, [c], metaExplanation c⟩
      else if isQuantifierChar c then ⟨.quantifier, [c], quantifierExplanation c⟩
      else literal [c] := by
  simp only [List.mem_cons, List.not_mem_nil, or_false, not_or] at h
  obtain ⟨hbrace, hslash, hopen, hclose, hbar⟩ := h
  simp [next, first, hbrace, hslash]

theorem next_metaChar {c : Char} (h : c ∈ ['^', '$', '.', '[', ']']) (rest : Text) :
    next (c :: rest) = ⟨.metaChar, [c], metaExplanation c⟩ := by
  simp only [List.mem_cons, List.not_mem_nil, or_false] at h
  rcases h with rfl | rfl | rfl | rfl | rfl
  all_goals rfl

theorem next_quantifier {c : Char} (h : c ∈ ['*', '+', '?']) (rest : Text) :
    next (c :: rest) = ⟨.quantifier, [c], quantifierExplanation c⟩ := by
  simp only [List.mem_cons, List.not_mem_nil, or_false] at h
  rcases h with rfl | rfl | rfl
  all_goals rfl

theorem next_of_notMem_reserved {c : Char} (h : c ∉ reserved) (rest : Text) :
    next (c :: rest) = literal [c] := by
  simp only [reserved, List.mem_cons, List.not_mem_nil, or_false, not_or] at h
  rw [next_char (by simp [h])]
  simp [isMetaChar, isQuantifierChar, h]

theorem reads_next {rest : Text} (h : rest ≠ []) : Reads rest (next rest).text (next rest).kind := by
  obtain ⟨c, tail, rfl⟩ := List.exists_cons_of_ne_nil h
  by_cases hc : c ∈ ['\x7b', '\\', '(', ')', '|']
  · simp only [List.mem_cons, List.not_mem_nil, or_false] at hc
    rcases hc with rfl | rfl | rfl | rfl | rfl
    · by_cases hrange : ∃ content after, RangeContent content ∧ tail = content ++ '\x7d' :: after
      · obtain ⟨content, after, hcontent, rfl⟩ := hrange
        obtain ⟨b, hb⟩ := Option.isSome_iff_exists.mp (rangeContent_iff.mp hcontent)
        rw [next_range hb]
        exact .range hcontent
      · have hnone : ∀ content after, RangeContent content → tail ≠ content ++ '\x7d' :: after :=
          fun content after hcontent htail => hrange ⟨content, after, hcontent, htail⟩
        rw [next_brace hnone]
        exact .brace hnone
    · cases tail with
      | nil => exact .backslash
      | cons d tail => exact .escape
    · cases hopens : opensNonCapturing tail with
      | true =>
          rw [next_groupOpenNonCapturing hopens]
          obtain ⟨after, rfl⟩ := opensNonCapturing_iff.mp hopens
          exact .groupOpenNonCapturing
      | false =>
          rw [next_groupOpen hopens]
          exact .groupOpen (opensNonCapturing_eq_false_iff.mp hopens)
    · exact .groupClose
    · exact .alternation
  · rw [next_char hc]
    simp only [List.mem_cons, List.not_mem_nil, or_false, not_or] at hc
    split_ifs with hmeta hquantifier
    · refine .metaChar ?_
      simpa [isMetaChar, hc, or_assoc] using hmeta
    · refine .quantifier ?_
      simpa [isQuantifierChar, or_assoc] using hquantifier
    · refine .literal ?_
      simp only [isMetaChar, isQuantifierChar, Bool.or_eq_true, beq_iff_eq, not_or] at hmeta hquantifier
      simp [reserved, hc, hmeta, hquantifier]

/-- The grammar leaves no choice. -/
theorem Reads.eq_next {rest text : Text} {kind : Kind} (h : Reads rest text kind) :
    text = (next rest).text ∧ kind = (next rest).kind := by
  cases h with
  | range hcontent =>
      obtain ⟨b, hb⟩ := Option.isSome_iff_exists.mp (rangeContent_iff.mp hcontent)
      rw [next_range hb]
      exact ⟨rfl, rfl⟩
  | brace hnone =>
      rw [next_brace hnone]
      exact ⟨rfl, rfl⟩
  | escape => exact ⟨rfl, rfl⟩
  | backslash => exact ⟨rfl, rfl⟩
  | groupOpenNonCapturing => exact ⟨rfl, rfl⟩
  | groupOpen hnone =>
      rw [next_groupOpen (opensNonCapturing_eq_false_iff.mpr hnone)]
      exact ⟨rfl, rfl⟩
  | groupClose => exact ⟨rfl, rfl⟩
  | alternation => exact ⟨rfl, rfl⟩
  | metaChar hc =>
      rw [next_metaChar hc]
      exact ⟨rfl, rfl⟩
  | quantifier hc =>
      rw [next_quantifier hc]
      exact ⟨rfl, rfl⟩
  | literal hc =>
      rw [next_of_notMem_reserved hc]
      exact ⟨rfl, rfl⟩

theorem text_of_groupClose {rest : Text} (hne : rest ≠ []) (h : (next rest).kind = .groupClose) :
    (next rest).text = [')'] := by
  have hreads := reads_next hne
  rw [h] at hreads
  generalize (next rest).text = text at hreads ⊢
  cases hreads
  rfl

theorem next_of_groupOpenNonCapturing {rest : Text} (hne : rest ≠ [])
    (h : (next rest).kind = .groupOpenNonCapturing) :
    next rest = ⟨.groupOpenNonCapturing, ['('], "start non-capturing group".toList⟩ := by
  have hreads := reads_next hne
  rw [h] at hreads
  generalize (next rest).text = text at hreads
  cases hreads
  exact next_groupOpenNonCapturing rfl

/-- A piece is the same by itself as in its place, unless what follows makes it open a group that
captures nothing. -/
theorem next_text {rest : Text} (hne : rest ≠ [])
    (h : (next rest).kind ≠ .groupOpenNonCapturing) : next (next rest).text = next rest := by
  have hreads := reads_next hne
  generalize (next rest).text = text at hreads ⊢
  generalize (next rest).kind = kind at hreads h
  cases hreads with
  | range hcontent =>
      obtain ⟨b, hb⟩ := Option.isSome_iff_exists.mp (rangeContent_iff.mp hcontent)
      rw [next_range hb, next_range hb]
  | brace hnone =>
      rw [next_brace hnone]
      rfl
  | escape => rfl
  | backslash => rfl
  | groupOpenNonCapturing => exact absurd rfl h
  | groupOpen hnone =>
      rw [next_groupOpen (opensNonCapturing_eq_false_iff.mpr hnone)]
      rfl
  | groupClose => rfl
  | alternation => rfl
  | metaChar hc => rw [next_metaChar hc, next_metaChar hc]
  | quantifier hc => rw [next_quantifier hc, next_quantifier hc]
  | literal hc => rw [next_of_notMem_reserved hc, next_of_notMem_reserved hc]

theorem escapeExplanation_ne (c : Char) : escapeExplanation c ≠ literalExplanation := by
  unfold escapeExplanation literalExplanation
  split
  case h_14 => simp
  all_goals exact mt String.toList_inj.mp (by decide)

theorem metaExplanation_ne {c : Char} (h : c ∈ ['^', '$', '.', '[', ']']) :
    metaExplanation c ≠ literalExplanation := by
  simp only [List.mem_cons, List.not_mem_nil, or_false] at h
  rcases h with rfl | rfl | rfl | rfl | rfl
  all_goals exact mt String.toList_inj.mp (by decide)

theorem quantifierExplanation_ne {c : Char} (h : c ∈ ['*', '+', '?']) :
    quantifierExplanation c ≠ literalExplanation := by
  simp only [List.mem_cons, List.not_mem_nil, or_false] at h
  rcases h with rfl | rfl | rfl
  all_goals exact mt String.toList_inj.mp (by decide)

theorem explanation_bounds_ne {b : Bounds} (h : b.IsWritten) :
    b.explanation ≠ literalExplanation := by
  unfold Bounds.explanation literalExplanation
  cases b with
  | exactly n => simp
  | atLeast n =>
      -- the two agree up to the number, which is not empty and does not begin as a word does
      obtain ⟨hne, hdigits⟩ := digits_iff.mpr h
      obtain ⟨d, n, rfl⟩ := List.exists_cons_of_ne_nil hne
      intro he
      simp only [String.reduceToList, List.cons_append, List.nil_append, List.cons.injEq,
        true_and] at he
      obtain ⟨rfl, -⟩ := he
      exact absurd (hdigits 't' List.mem_cons_self) (by decide)
  | between n m => simp

/-- A piece is explained as a literal exactly when it is one. -/
theorem explanation_next_iff {rest : Text} (h : rest ≠ []) :
    (next rest).explanation = literalExplanation ↔ (next rest).kind = .literal := by
  have hreads := reads_next h
  generalize (next rest).text = text, (next rest).kind = kind at hreads ⊢
  cases hreads with
  | range hcontent =>
      obtain ⟨b, hb⟩ := Option.isSome_iff_exists.mp (rangeContent_iff.mp hcontent)
      rw [next_range hb]
      exact iff_of_false (explanation_bounds_ne (Bounds.parse?_eq_some_iff.mp hb).2) nofun
  | brace hnone =>
      rw [next_brace hnone]
      exact iff_of_true rfl rfl
  | escape => exact iff_of_false (escapeExplanation_ne _) nofun
  | backslash => exact iff_of_true rfl rfl
  | groupOpenNonCapturing =>
      rw [next_groupOpenNonCapturing rfl]
      exact iff_of_false (mt String.toList_inj.mp (by decide)) nofun
  | groupOpen hnone =>
      rw [next_groupOpen (opensNonCapturing_eq_false_iff.mpr hnone)]
      exact iff_of_false (mt String.toList_inj.mp (by decide)) nofun
  | groupClose =>
      rw [next_groupClose]
      exact iff_of_false (mt String.toList_inj.mp (by decide)) nofun
  | alternation =>
      rw [next_alternation]
      exact iff_of_false (mt String.toList_inj.mp (by decide)) nofun
  | metaChar hc =>
      rw [next_metaChar hc]
      exact iff_of_false (metaExplanation_ne hc) nofun
  | quantifier hc =>
      rw [next_quantifier hc]
      exact iff_of_false (quantifierExplanation_ne hc) nofun
  | literal hc =>
      rw [next_of_notMem_reserved hc]
      exact iff_of_true rfl rfl

end Lexeme

/-- A reading of a pattern: the texts of the pieces make it up, and each piece is what the grammar
has the pattern begin with from there on. -/
structure IsReading (pattern : Text) (pieces : List (Text × Kind)) : Prop where
  concat : pieces.flatMap Prod.fst = pattern
  reads : ∀ past text kind later rest, pieces = past ++ (text, kind) :: later →
    pattern = past.flatMap Prod.fst ++ rest → Lexeme.Reads rest text kind

theorem isReading_nil_iff {pattern : Text} : IsReading pattern [] ↔ pattern = [] := by
  constructor
  · intro h
    exact h.concat.symm
  · rintro rfl
    refine ⟨rfl, ?_⟩
    intro past text kind later rest hpieces
    simp at hpieces

theorem isReading_cons_iff {pattern text : Text} {kind : Kind} {pieces : List (Text × Kind)} :
    IsReading pattern ((text, kind) :: pieces) ↔
      ∃ rest, pattern = text ++ rest ∧ Lexeme.Reads pattern text kind ∧ IsReading rest pieces := by
  constructor
  · rintro ⟨hconcat, hreads⟩
    refine ⟨pieces.flatMap Prod.fst, hconcat.symm, hreads [] text kind pieces pattern rfl rfl, rfl, ?_⟩
    intro past text' kind' later rest hpieces hrest
    refine hreads ((text, kind) :: past) text' kind' later rest (by rw [hpieces]; rfl) ?_
    rw [← hconcat, List.flatMap_cons, hrest, List.flatMap_cons, List.append_assoc]
  · rintro ⟨rest, rfl, hfirst, hconcat, hreads⟩
    refine ⟨by rw [List.flatMap_cons, hconcat], ?_⟩
    intro past text' kind' later rest' hpieces hrest
    cases past with
    | nil =>
        obtain ⟨hpiece, -⟩ := List.cons.inj hpieces
        cases hpiece
        rw [hrest] at hfirst
        exact hfirst
    | cons piece past =>
        obtain ⟨rfl, hlater⟩ := List.cons.inj hpieces
        refine hreads past text' kind' later rest' hlater ?_
        rw [List.flatMap_cons, List.append_assoc] at hrest
        exact List.append_cancel_left hrest

/-- The pieces that the scan makes are the one reading. -/
theorem isReading_iff_eq_all {pattern : Text} {pieces : List (Text × Kind)} :
    IsReading pattern pieces ↔ pieces = (Lexeme.all pattern).map fun l => (l.text, l.kind) := by
  induction pattern using Lexeme.all.induct generalizing pieces with
  | case1 =>
      rw [Lexeme.all_nil, List.map_nil]
      constructor
      · intro h
        cases pieces with
        | nil => rfl
        | cons piece pieces =>
            obtain ⟨rest, -, hreads, -⟩ := isReading_cons_iff.mp h
            cases hreads
      · rintro rfl
        exact isReading_nil_iff.mpr rfl
  | case2 pattern hne hlt ih =>
      have happ := (Lexeme.begins_next hne).append_drop
      rw [Lexeme.all_of_ne_nil hne, List.map_cons]
      constructor
      · intro h
        cases pieces with
        | nil => exact absurd (isReading_nil_iff.mp h) hne
        | cons piece pieces =>
            obtain ⟨rest, hpattern, hreads, hrest⟩ := isReading_cons_iff.mp h
            obtain ⟨htext, hkind⟩ := hreads.eq_next
            have hdrop : pattern.drop (Lexeme.next pattern).text.length = rest := by
              rw [htext] at hpattern
              exact List.append_cancel_left (happ.trans hpattern)
            rw [← hdrop, ih] at hrest
            rw [hrest, ← htext, ← hkind]
      · rintro rfl
        exact isReading_cons_iff.mpr ⟨_, happ.symm, Lexeme.reads_next hne, ih.mpr rfl⟩

/-- The tokens of a pattern, by text and kind, are its one reading, and just the literals among them
are explained as literals. -/
theorem isReading_iff (pattern : Text) :
    (∀ pieces, IsReading pattern pieces ↔
        pieces = (annotate pattern).map fun t => (t.text, t.kind)) ∧
      ∀ t ∈ annotate pattern, t.explanation = literalExplanation ↔ t.kind = .literal := by
  constructor
  · intro pieces
    rw [annotate, Token.map_placeFrom Prod.mk]
    exact isReading_iff_eq_all
  · intro t ht
    obtain ⟨before, rest, depth, -, hne, rfl⟩ := Token.exists_boundary_of_mem ht
    exact Lexeme.explanation_next_iff hne

end RegexExplainer
