import Mathlib.Data.List.Basic
import RegexExplainer.Proofs.Expression.Literal
import RegexExplainer.Proofs.Program.Run
import RegexExplainer.Proofs.Text.Occurrence

/- The program for a text finds its first occurrence. -/
namespace RegexExplainer

namespace Expression

/-- The code of a text, without what comes after it. -/
def charsFrom (base : Nat) : Text → List Instruction
  | [] => []
  | c :: t => .char (.singleton c) (base + 1) :: charsFrom (base + 1) t

theorem length_charsFrom (base : Nat) (t : Text) : (charsFrom base t).length = t.length := by
  induction t generalizing base with
  | nil => rfl
  | cons c t ih => rw [charsFrom, List.length_cons, ih, List.length_cons]

theorem getElem?_charsFrom (base : Nat) (before : Text) (c : Char) (rest : Text) :
    (charsFrom base (before ++ c :: rest))[before.length]? =
      some (.char (.singleton c) (base + before.length + 1)) := by
  induction before generalizing base with
  | nil => rfl
  | cons d before ih =>
      rw [List.cons_append, charsFrom, List.length_cons, List.getElem?_cons_succ, ih]
      congr 2
      omega

theorem emit_ofText {t : Text} (h : t ≠ []) (base : Nat) :
    (ofText t).emit base (base + t.length) = charsFrom base t := by
  induction t generalizing base with
  | nil => exact absurd rfl h
  | cons c t ih =>
      cases t with
      | nil => rfl
      | cons d t =>
          change _ :: (ofText (d :: t)).emit (base + 1) _ = _
          have hnext : base + (c :: d :: t).length = base + 1 + (d :: t).length := by
            simp only [List.length_cons]
            omega
          rw [hnext, ih (List.cons_ne_nil d t)]
          rfl

theorem codeSize_ofText {t : Text} (h : t ≠ []) : (ofText t).codeSize = t.length := by
  rw [← length_emit _ 0 (0 + t.length), emit_ofText h, length_charsFrom]

end Expression

namespace Program

/-- The program that reads a text. -/
def ofText (w : Text) : Program := .ofExpression (.ofText w)

theorem code_ofText {w : Text} (h : w ≠ []) :
    (ofText w).code = (Expression.charsFrom 0 w ++ [Instruction.accept]).toArray := by
  have hemit := Expression.emit_ofText h 0
  rw [Nat.zero_add] at hemit
  rw [ofText, ofExpression, Expression.codeSize_ofText h, hemit]

theorem code_char {before : Text} {c : Char} {rest : Text} :
    (ofText (before ++ c :: rest)).code[before.length]? =
      some (.char (.singleton c) (before ++ [c]).length) := by
  rw [code_ofText (by simp), List.getElem?_toArray, List.getElem?_append_left,
    Expression.getElem?_charsFrom]
  · simp
  · rw [Expression.length_charsFrom]
    simp

theorem code_accept {w : Text} (h : w ≠ []) : (ofText w).code[w.length]? = some .accept := by
  rw [code_ofText h, List.getElem?_toArray, List.getElem?_append_right]
  · rw [Expression.length_charsFrom, Nat.sub_self]
    rfl
  · exact Nat.le_of_eq (Expression.length_charsFrom 0 w)

/-- From a place in the text on, the program reads what is left of it. -/
theorem run_ofText {saves : Saves} {read left : Text} (h : read ++ left ≠ [])
    (before : Option Char) (offset : Nat) (after : Text) :
    ∃ last, (ofText (read ++ left)).run before offset (left ++ after) [⟨read.length, saves⟩] =
      some (⟨last, offset + left.size, after⟩, saves) := by
  induction left generalizing read before offset with
  | nil =>
      rw [List.append_nil] at h ⊢
      exact ⟨before, run_accept (code_accept h) before offset after⟩
  | cons c left ih =>
      rw [List.cons_append, run_char code_char, CharSet.contains_singleton, beq_self_eq_true,
        if_pos rfl, Text.size_cons, ← Nat.add_assoc]
      rw [← List.singleton_append, ← List.append_assoc] at h ⊢
      exact ih h (some c) (offset + c.utf8Size)

theorem run_ofText_eq_none {saves : Saves} {read left rest : Text} (h : ¬ left <+: rest)
    (before : Option Char) (offset : Nat) :
    (ofText (read ++ left)).run before offset rest [⟨read.length, saves⟩] = none := by
  induction left generalizing read rest before offset with
  | nil => exact absurd List.nil_prefix h
  | cons c left ih =>
      cases rest with
      | nil => exact run_char_nil code_char before offset
      | cons d rest =>
          rw [run_char code_char, CharSet.contains_singleton]
          by_cases hcd : c = d
          · subst hcd
            have hrest : ¬ left <+: rest := by
              intro hle
              exact h (List.prefix_cons_inj c |>.mpr hle)
            rw [beq_self_eq_true, if_pos rfl]
            rw [← List.singleton_append, ← List.append_assoc]
            exact ih hrest (some c) (offset + c.utf8Size)
          · rw [if_neg (by simpa using hcd)]

theorem firstFrom_searchFrom {w : Text} (hw : w ≠ []) (read rest : Text) (before : Option Char) :
    Text.FirstFrom w (read ++ rest) read.size
      (((ofText w).searchFrom before read.size rest).map Found.span) := by
  induction rest generalizing read before with
  | nil =>
      have hnone : ¬ w <+: [] := fun hle => hw (List.prefix_nil.mp hle)
      have hmatch : (ofText w).matchAt ⟨before, read.size, []⟩ = none :=
        @run_ofText_eq_none [] [] w [] hnone before read.size
      rw [searchFrom, hmatch]
      intro n hn hat
      have hle := Text.OccursAt.size_le hat
      have hpos := Text.size_pos hw
      rw [List.append_nil] at hle
      omega
  | cons c rest ih =>
      by_cases hle : w <+: c :: rest
      · obtain ⟨after, hafter⟩ := hle
        obtain ⟨last, hrun⟩ := @run_ofText [] [] w hw before read.size after
        have hmatch : (ofText w).matchAt ⟨before, read.size, c :: rest⟩ =
            some (⟨last, read.size + w.size, after⟩, []) := by
          rw [← hafter]
          exact hrun
        rw [searchFrom, hmatch]
        refine ⟨Nat.le_refl _, ?_, rfl, fun n hn _ => hn⟩
        exact Text.occursAt_size_iff.mpr ⟨after, hafter⟩
      · have hmatch : (ofText w).matchAt ⟨before, read.size, c :: rest⟩ = none :=
          @run_ofText_eq_none [] [] w (c :: rest) hle before read.size
        have hrest := ih (read ++ [c]) (some c)
        have hsize : (read ++ [c]).size = read.size + c.utf8Size := by simp
        rw [List.append_assoc, List.singleton_append, hsize] at hrest
        rw [searchFrom, hmatch]
        exact hrest.of_next hle

end Program

end RegexExplainer
