import RegexExplainer.Proofs.Token.Boundary

/- Reading a pattern by byte offsets, where a piece cut off inside a character or out of range has
no result. The scan goes through, and its tokens tile the pattern. -/
namespace RegexExplainer

/-- Where a scan stands: the next byte, the depth there, and the tokens before it. -/
structure Scan where
  offset : Nat
  depth : Nat
  tokens : List Token
deriving DecidableEq

/-- A piece by its length in bytes. -/
structure Piece where
  kind : Kind
  length : Nat
  explanation : Text
deriving DecidableEq

namespace Scan

def start : Scan := ⟨0, 0, []⟩

def literalByte : Piece := ⟨.literal, 1, literalExplanation⟩

/-- The piece that the byte at an offset begins. There must be such a byte, a closing brace must not
end a range quantifier, and any byte but a brace must begin a character. -/
def piece? (pattern : Text) (offset : Nat) : Option Piece :=
  (Text.encode pattern)[offset]?.bind fun byte =>
    if byte = 0x7B then
      match RangeQuantifier.parse? pattern offset with
      | some r => some ⟨.quantifierRange, r.span.stop - r.span.start, r.bounds.explanation⟩
      | none => some literalByte
    else if byte = 0x7D then
      if RangeQuantifier.closes pattern offset then none else some literalByte
    else
      (Lexeme.classify? pattern offset).map fun l => ⟨l.kind, l.length, l.explanation⟩

/-- Cuts a piece off the pattern. -/
def push? (pattern : Text) (s : Scan) (p : Piece) : Option Scan :=
  (pattern.slice? s.offset (s.offset + p.length)).map fun text =>
    ⟨s.offset + p.length, p.kind.depthAfter s.depth,
      s.tokens ++ [⟨⟨s.offset, s.offset + p.length⟩, text, p.kind, p.kind.shownDepth s.depth,
        p.explanation⟩]⟩

def step? (pattern : Text) (s : Scan) : Option Scan :=
  (piece? pattern s.offset).bind (s.push? pattern)

/-- Steps up to the end of the pattern, which has to be reached within a number of rounds. -/
def run? (pattern : Text) : Nat → Scan → Option Scan
  | 0, s => if s.offset < pattern.size then none else some s
  | rounds + 1, s =>
    if s.offset < pattern.size then (s.step? pattern).bind (run? pattern rounds) else some s

theorem piece?_of_boundary {pattern before rest : Text}
    (h : Lexeme.Boundary pattern before rest) (hne : rest ≠ []) :
    piece? pattern before.size =
      some ⟨(Lexeme.next rest).kind, (Lexeme.next rest).length, (Lexeme.next rest).explanation⟩ := by
  obtain ⟨c, tail, rfl⟩ := List.exists_cons_of_ne_nil hne
  obtain ⟨byte, hbyte, hchar⟩ := Text.exists_getElem?_encode before c tail
  have hopen : byte = 0x7B ↔ c = '\x7b' := hchar '\x7b' (by decide)
  have hclose : byte = 0x7D ↔ c = '\x7d' := hchar '\x7d' (by decide)
  have hcloses := h.not_closes
  obtain rfl := h.eq
  simp only [piece?, hbyte, Option.bind_some]
  by_cases hc : c = '\x7b'
  · subst hc
    rw [if_pos (hopen.mpr rfl)]
    cases hr : RangeQuantifier.parse? (before ++ '\x7b' :: tail) before.size with
    | none => rw [Lexeme.next_brace_of_none hr]; rfl
    | some r =>
        obtain ⟨before', content, after, b, hp, hsize, hb, rfl⟩ :=
          RangeQuantifier.parse?_eq_some_iff.mp hr
        obtain ⟨rfl, hrest⟩ := Text.append_inj_of_size hp hsize
        obtain rfl := (List.cons.inj hrest).2
        have hlen : before.size + content.size + 2 - before.size =
            Text.size ('\x7b' :: (content ++ ['\x7d'])) := by
          have hbrace : '\x7b'.utf8Size = 1 := rfl
          have hbrace' : Text.size ['\x7d'] = 1 := rfl
          rw [Text.size_cons, Text.size_append, hbrace, hbrace']
          omega
        simp only [Lexeme.next_range hb, Lexeme.length, hlen]
  · rw [if_neg (mt hopen.mp hc)]
    by_cases hd : c = '\x7d'
    · subst hd
      rw [if_pos (hclose.mpr rfl), hcloses]
      rfl
    · rw [if_neg (mt hclose.mp hd), Lexeme.classify?, Text.from?_append]
      have hnext : Lexeme.next (c :: tail) = Lexeme.first (c :: tail) := by
        unfold Lexeme.next
        split
        · next heq => exact absurd (List.cons.inj heq).1 hc
        · rfl
      rw [hnext]
      rfl

/-- What holds whenever a step begins: the scan stands at a boundary, and what it has of the tokens
and the depth, with what it still has to read, makes up the whole. -/
structure Follows (pattern : Text) (s : Scan) (before rest : Text) : Prop where
  boundary : Lexeme.Boundary pattern before rest
  offset : s.offset = before.size
  tokens : annotate pattern = s.tokens ++ Token.placeFrom s.offset s.depth (Lexeme.all rest)
  depth : finalDepth pattern =
    (Lexeme.all rest).foldl (fun depth l => l.kind.depthAfter depth) s.depth

theorem follows_start (pattern : Text) : Follows pattern start [] pattern :=
  ⟨.start, rfl, rfl, rfl⟩

/-- A step succeeds before the end, and what holds before it holds after it. -/
theorem Follows.step {pattern before rest : Text} {s : Scan} (h : Follows pattern s before rest)
    (hne : rest ≠ []) :
    ∃ s', s.step? pattern = some s' ∧
      Follows pattern s' (before ++ (Lexeme.next rest).text)
        (rest.drop (Lexeme.next rest).text.length) := by
  obtain ⟨hb, hoffset, htokens, hdepth⟩ := h
  refine ⟨_, by rw [step?, hoffset, piece?_of_boundary hb hne, Option.bind_some, push?, hoffset,
    hb.slice?_next hne, Option.map_some], hb.step hne, ?_, ?_, ?_⟩
  · rw [Text.size_append]
    rfl
  · rw [htokens, Token.placeFrom_all hne, hoffset, List.append_assoc]
    rfl
  · rw [hdepth, Lexeme.all_of_ne_nil hne, List.foldl_cons]

theorem Follows.done {pattern before : Text} {s : Scan} (h : Follows pattern s before []) :
    s = ⟨pattern.size, finalDepth pattern, annotate pattern⟩ := by
  obtain ⟨hb, hoffset, htokens, hdepth⟩ := h
  have hbefore : pattern = before := by rw [hb.eq, List.append_nil]
  rw [Lexeme.all_nil] at htokens hdepth
  rw [Token.placeFrom, List.append_nil] at htokens
  rw [List.foldl_nil] at hdepth
  rw [hdepth, htokens, hbefore, ← hoffset]

theorem Follows.offset_lt {pattern before rest : Text} {s : Scan}
    (h : Follows pattern s before rest) : s.offset < pattern.size ↔ rest ≠ [] := by
  rw [h.offset, h.boundary.eq, Text.size_append]
  constructor
  · rintro hlt rfl
    simp at hlt
  · intro hne
    have := Text.size_pos hne
    omega

theorem Follows.run? {pattern before rest : Text} {s : Scan} (h : Follows pattern s before rest)
    {rounds : Nat} (hr : rest.length ≤ rounds) :
    run? pattern rounds s = some ⟨pattern.size, finalDepth pattern, annotate pattern⟩ := by
  induction rounds generalizing s before rest with
  | zero =>
      obtain rfl := List.length_eq_zero_iff.mp (Nat.le_zero.mp hr)
      rw [Scan.run?, if_neg (by simp [h.offset_lt]), h.done]
  | succ rounds ih =>
      by_cases hne : rest = []
      · subst hne
        rw [Scan.run?, if_neg (by simp [h.offset_lt]), h.done]
      · obtain ⟨s', hs, h'⟩ := h.step hne
        have hpos := Lexeme.length_text_next_pos hne
        rw [Scan.run?, if_pos (h.offset_lt.mpr hne), hs, Option.bind_some]
        exact ih h' (by rw [List.length_drop]; omega)

/-- The states that a scan passes through. -/
inductive Reached (pattern : Text) : Scan → Prop
  | start : Reached pattern start
  | step {s s' : Scan} : Reached pattern s → s.offset < pattern.size → s.step? pattern = some s' →
      Reached pattern s'

theorem Reached.follows {pattern : Text} {s : Scan} (h : Reached pattern s) :
    ∃ before rest, Follows pattern s before rest := by
  induction h with
  | start => exact ⟨[], pattern, follows_start pattern⟩
  | step hs hlt hstep ih =>
      obtain ⟨before, rest, hf⟩ := ih
      obtain ⟨s'', hs'', hf'⟩ := hf.step (hf.offset_lt.mp hlt)
      obtain rfl := Option.some.inj (hstep.symm.trans hs'')
      exact ⟨_, _, hf'⟩

end Scan

namespace Token

/-- From byte `offset` on, tokens lie side by side up to the end of a pattern. None is empty or cuts
a character, and each has the text of its span. -/
def TileFrom (pattern : Text) : Nat → List Token → Prop
  | offset, [] => offset = pattern.size
  | offset, t :: ts =>
    t.span.start = offset ∧ t.span.start < t.span.stop ∧ pattern.IsCut t.span.start ∧
      pattern.IsCut t.span.stop ∧ pattern.slice? t.span.start t.span.stop = some t.text ∧
      TileFrom pattern t.span.stop ts

theorem tileFrom_placeFrom {pattern before rest : Text}
    (h : Lexeme.Boundary pattern before rest) (depth : Nat) :
    TileFrom pattern before.size (placeFrom before.size depth (Lexeme.all rest)) := by
  induction rest using Lexeme.all.induct generalizing before depth with
  | case1 =>
      rw [Lexeme.all_nil, placeFrom, TileFrom, h.eq, List.append_nil]
  | case2 rest hne hlt ih =>
      have hstep := h.step hne
      have hsize : Text.size (before ++ (Lexeme.next rest).text) =
          before.size + (Lexeme.next rest).length := Text.size_append _ _
      have hpos := Text.size_pos (Lexeme.begins_next hne).text_ne_nil
      rw [placeFrom_all hne, TileFrom]
      refine ⟨rfl, Nat.lt_add_of_pos_right hpos, ⟨before, rest, h.eq, rfl⟩,
        ⟨_, _, hstep.eq, hsize.symm⟩, h.slice?_next hne, ?_⟩
      have htail := ih hstep ((Lexeme.next rest).kind.depthAfter depth)
      rw [hsize] at htail
      exact htail

theorem flatMap_text_placeFrom (rest : Text) (offset depth : Nat) :
    (placeFrom offset depth (Lexeme.all rest)).flatMap Token.text = rest := by
  have htexts := map_placeFrom (fun text _ => text) offset depth (Lexeme.all rest)
  rw [List.flatMap_def, htexts, ← List.flatMap_def, Lexeme.flatMap_text_all]

end Token

/-- The scan comes to the end of every pattern without a cut inside a character or out of range, in
no more rounds than there are characters. What it collects are the tokens of the pattern, which
tile it. -/
theorem scan_tiles (pattern : Text) :
    Scan.run? pattern pattern.length .start =
        some ⟨pattern.size, finalDepth pattern, annotate pattern⟩ ∧
      Token.TileFrom pattern 0 (annotate pattern) ∧
      (annotate pattern).flatMap Token.text = pattern ∧
      (annotate pattern = [] ↔ pattern = []) := by
  have htext : (annotate pattern).flatMap Token.text = pattern :=
    Token.flatMap_text_placeFrom pattern 0 0
  refine ⟨(Scan.follows_start pattern).run? (Nat.le_refl _),
    Token.tileFrom_placeFrom .start 0, htext, ?_, ?_⟩
  · intro h
    rw [← htext, h]
    rfl
  · rintro rfl
    rw [annotate, Lexeme.all, dif_pos rfl]
    rfl

end RegexExplainer
