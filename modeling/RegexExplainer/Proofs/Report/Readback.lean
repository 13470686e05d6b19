import Mathlib
import RegexExplainer.Proofs.Report.Layout
import RegexExplainer.Proofs.Token.Grammar

/- The printed explanation can be read back. Though its lines carry no marks of their own, one can
tell from a line how deep its token is and what text it explains, and where the tokens end. -/
namespace RegexExplainer

theorem Kind.shownDepth_of_ne {k : Kind} (h : k ≠ .groupClose) (depth : Nat) :
    k.shownDepth depth = depth := by
  cases k with
  | groupClose => exact absurd rfl h
  | _ => rfl

namespace Lexeme

/-- The line that explains a piece at a depth. -/
def print (depth : Nat) (l : Lexeme) : Text := Token.render false (Token.ofLexeme 0 depth l)

def printAll (depth : Nat) : List Lexeme → Text
  | [] => []
  | l :: ls => l.print depth ++ printAll (l.kind.depthAfter depth) ls

theorem print_append (depth : Nat) (l : Lexeme) (rest : Text) :
    l.print depth ++ rest =
      List.replicate (2 * l.kind.shownDepth depth) ' ' ++
        (l.text ++ ':' :: ' ' :: (l.explanation ++ '\n' :: rest)) := by
  simp [print, Token.render, Token.ofLexeme, colorize, line]

theorem length_print_pos (depth : Nat) (l : Lexeme) : 0 < (l.print depth).length := by
  apply List.length_pos_iff.mpr
  exact List.append_ne_nil_of_right_ne_nil _ (List.cons_ne_nil '\n' [])

theorem flatMap_render_placeFrom (offset depth : Nat) (ls : List Lexeme) :
    (Token.placeFrom offset depth ls).flatMap (Token.render false) = printAll depth ls := by
  induction ls generalizing offset depth with
  | nil => rfl
  | cons l ls ih =>
      rw [Token.placeFrom, List.flatMap_cons, ih]
      rfl

/-- How deep the line at the beginning of a text is, after pieces that leave a depth. Only a closer
is shown less deep than that. -/
def readDepth (depth : Nat) (t : Text) : Nat :=
  if (List.replicate (2 * depth) ' ').isPrefixOf t then depth else depth - 1

/-- The text of the piece at the beginning of a line, without its indent. -/
def readText : Text → Text
  | [] => []
  | c :: t =>
    if c = '\x7b' ∧ t.head? ≠ some ':' then c :: (t.takeWhile (· != '\x7d') ++ ['\x7d'])
    else if c = '\\' ∧ ¬ [':', ' '] <+: t then c :: t.take 1
    else [c]

/-- The piece that a line explains, by its text and what is written after the colon. The text alone
does not tell how a group opens. -/
def readPiece (text after : Text) : Lexeme :=
  if text = ['('] ∧ "start n".toList <+: after then
    ⟨.groupOpenNonCapturing, text, "start non-capturing group".toList⟩
  else next text

/-- The piece that the line at the beginning of a text explains. -/
def readLine (depth : Nat) (t : Text) : Lexeme :=
  let unindented := t.drop (2 * readDepth depth t)
  let text := readText unindented
  readPiece text (unindented.drop (text.length + 2))

/-- Whether no line of a token begins a text. A line end, if a token has one for its text, is
followed by a colon. -/
def endsTokens : Text → Bool
  | [] => true
  | c :: t => c = '\n' && t.head? ≠ some ':'

theorem length_pos_of_not_endsTokens {t : Text} (h : ¬ endsTokens t = true) : 0 < t.length := by
  apply List.length_pos_iff.mpr
  rintro rfl
  exact h rfl

/-- The texts of the pieces that lines explain, up to what is no such line. -/
def readAll (depth : Nat) (t : Text) : Text :=
  if endsTokens t then []
  else
    (readLine depth t).text ++ readAll ((readLine depth t).kind.depthAfter depth)
      (t.drop ((readLine depth t).print depth).length)
termination_by t.length
decreasing_by
  rename_i hends
  rw [List.length_drop]
  exact Nat.sub_lt (length_pos_of_not_endsTokens hends) (length_print_pos depth _)

theorem readDepth_print {rest : Text} (hne : rest ≠ []) (depth : Nat) (after : Text) :
    readDepth depth ((next rest).print depth ++ after) = (next rest).kind.shownDepth depth := by
  rw [print_append]
  unfold readDepth
  by_cases hkind : (next rest).kind = .groupClose
  · rw [hkind, text_of_groupClose hne hkind]
    cases depth with
    | zero => exact ite_self 0
    | succ depth =>
        -- where the text of a closer stands, the line of any other piece is still indented
        have hindent : List.replicate (2 * (depth + 1)) ' ' =
            List.replicate (2 * depth) ' ' ++ [' ', ' '] := List.replicate_add (2 * depth) 2 ' '
        change ite _ (depth + 1) depth = depth
        rw [if_neg]
        rw [List.isPrefixOf_iff_prefix, hindent]
        change ¬ _ <+: List.replicate (2 * depth) ' ' ++ _
        rw [List.prefix_append_right_inj]
        simp
  · rw [Kind.shownDepth_of_ne hkind, if_pos]
    rw [List.isPrefixOf_iff_prefix]
    exact List.prefix_append _ _

theorem readText_append {rest : Text} {l : Lexeme} (h : Begins rest l) (after : Text) :
    readText (l.text ++ ':' :: ' ' :: after) = l.text := by
  cases h with
  | @range content _ b hb =>
      have hvalid : (Bounds.parse? content).isSome := by rw [hb]; rfl
      have hcolon : ':' ∉ content := Bounds.notMem_of_parse? hvalid (by decide)
      have hclose : '\x7d' ∉ content := Bounds.notMem_of_parse? hvalid (by decide)
      have hhead : (content ++ '\x7d' :: ':' :: ' ' :: after).head? ≠ some ':' := by
        cases content with
        | nil => simp
        | cons d content =>
            intro heq
            exact hcolon (Option.some.inj heq ▸ List.mem_cons_self)
      simp only [List.cons_append, List.append_assoc, List.nil_append]
      rw [readText, if_pos ⟨rfl, hhead⟩, Text.takeWhile_ne_append hclose]
  | @escape c =>
      simp only [List.cons_append, List.nil_append]
      rw [readText, if_neg (by simp), if_pos (by simp)]
      rfl
  | @single c _ _ _ hrange hescape hlast =>
      simp only [List.cons_append, List.nil_append]
      rw [readText, if_neg (by simp), if_neg (by simp)]

theorem readPiece_append {rest : Text} (hne : rest ≠ []) (after : Text) :
    readPiece (next rest).text ((next rest).explanation ++ after) = next rest := by
  unfold readPiece
  by_cases hkind : (next rest).kind = .groupOpenNonCapturing
  · rw [next_of_groupOpenNonCapturing hne hkind]
    refine if_pos ⟨rfl, ?_⟩
    exact List.prefix_append _ ("on-capturing group".toList ++ after)
  · have hnext := next_text hne hkind
    rw [hnext, if_neg]
    rintro ⟨htext, hprefix⟩
    rw [htext] at hnext
    rw [← hnext] at hprefix
    change "start n".toList <+: "start capturing group".toList ++ after at hprefix
    simp at hprefix

theorem readLine_print {rest : Text} (hne : rest ≠ []) (depth : Nat) (after : Text) :
    readLine depth ((next rest).print depth ++ after) = next rest := by
  unfold readLine
  simp only [readDepth_print hne]
  rw [print_append, List.drop_left' List.length_replicate, readText_append (begins_next hne)]
  rw [← List.drop_drop, List.drop_left]
  exact readPiece_append hne ('\n' :: after)

/-- A line that explains a piece is no end of the tokens. -/
theorem endsTokens_print {rest : Text} (hne : rest ≠ []) (depth : Nat) (after : Text) :
    endsTokens ((next rest).print depth ++ after) = false := by
  have hbegins := begins_next hne
  rw [print_append]
  cases 2 * (next rest).kind.shownDepth depth with
  | zero =>
      generalize next rest = l at hbegins ⊢
      cases hbegins with
      | range hb => rfl
      | escape => rfl
      | single hrange hescape hlast => simp [endsTokens]
  | succ n => rfl

/-- What is read back from the lines of all pieces of a text is the text. -/
theorem readAll_printAll (rest : Text) (depth : Nat) {after : Text}
    (h : endsTokens after = true) : readAll depth (printAll depth (all rest) ++ after) = rest := by
  induction rest using all.induct generalizing depth with
  | case1 =>
      rw [all_nil, printAll, List.nil_append, readAll, if_pos h]
  | case2 rest hne hlt ih =>
      have hends : ∀ t, ¬ endsTokens ((next rest).print depth ++ t) = true := by
        intro t
        rw [endsTokens_print hne]
        exact Bool.false_ne_true
      rw [all_of_ne_nil hne, printAll, List.append_assoc, readAll, if_neg (hends _),
        readLine_print hne, List.drop_left, ih]
      exact (begins_next hne).append_drop

end Lexeme

namespace Snapshot

/-- The pattern that the explanation at the beginning of a report explains. -/
def readPattern (t : Text) : Text :=
  Lexeme.readAll 0 (t.drop (line "pattern explanation".toList).length)

/-- After the explanation come the captures or the number of matches. -/
theorem endsTokens_capturePane_append (s : Snapshot) (t : Text) :
    Lexeme.endsTokens (s.capturePane ++ '\n' :: 'T' :: t) = true := by
  unfold capturePane
  split
  · rfl
  · rfl

/-- Whatever the content, the explanation in a report is read back as the pattern. -/
theorem readPattern_render [Engine] {p : Text} {re : Engine.Compiled} (hp : p ≠ [])
    (h : Engine.compile p = .ok re) (content : Text) :
    readPattern ((compute p content).render ⟨false, true⟩) = p := by
  have hexplained : (compute p content).explanationPane false =
      line "pattern explanation".toList ++ Lexeme.printAll 0 (Lexeme.all p) := by
    rw [explanationPane_of_compile hp content h, annotate, Lexeme.flatMap_render_placeFrom]
  rw [readPattern, render_explainOnly, hexplained, footer_of_compile hp content h,
    List.append_assoc, List.drop_left]
  exact Lexeme.readAll_printAll p 0 (endsTokens_capturePane_append _ _)

/-- The printed explanation determines the pattern. -/
theorem eq_of_render_eq [Engine] {p p' : Text} {re re' : Engine.Compiled} (hp : p ≠ [])
    (hp' : p' ≠ []) (h : Engine.compile p = .ok re) (h' : Engine.compile p' = .ok re')
    (content content' : Text) (heq : (compute p content).render ⟨false, true⟩ =
      (compute p' content').render ⟨false, true⟩) : p = p' := by
  rw [← readPattern_render hp h content, heq]
  exact readPattern_render hp' h' content'

/-- The pattern `(:)`. -/
def groupedColon : Text := ['(', ':', ')']

theorem eq_of_render_eq_groupedColon :
    ∃ re, Regex.compile groupedColon = .ok re ∧
      (compute groupedColon [':', 'a']).render ⟨false, true⟩ =
        (compute groupedColon ['b', ':']).render ⟨false, true⟩ ∧ groupedColon = groupedColon := by
  have hcompile : Regex.compile groupedColon =
      .ok (.ofExpression (.capture 1 (.char .unicode (.singleton ':')))) := by
    cbv
  have heq : (compute groupedColon [':', 'a']).render ⟨false, true⟩ =
      (compute groupedColon ['b', ':']).render ⟨false, true⟩ := by
    decide +kernel
  have hne : groupedColon ≠ [] := List.cons_ne_nil _ _
  exact ⟨_, hcompile, heq, eq_of_render_eq hne hne hcompile hcompile [':', 'a'] ['b', ':'] heq⟩

end Snapshot

end RegexExplainer
