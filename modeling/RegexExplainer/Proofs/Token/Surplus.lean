import Mathlib.Data.Int.Order.Basic
import Mathlib.Order.Bounds.Image
import RegexExplainer.Proofs.Token.Depth

/- The depth of a pattern in closed form. A closer without an opener changes nothing, so how many
openers and closers there are does not settle the depth, but their order does. It is the largest
surplus of openers over closers that the last tokens have, however many of them are taken. -/
namespace RegexExplainer

namespace Kind

/-- What a token adds to the openers of capturing groups, less the closers. -/
def balance : Kind → Int
  | .groupOpen => 1
  | .groupClose => -1
  | _ => 0

/-- The depth changes by as much, but goes no further down than to zero. -/
theorem depthAfter_eq_max (k : Kind) (depth : Nat) :
    (k.depthAfter depth : Int) = max 0 (depth + k.balance) := by
  cases k <;> simp only [depthAfter, balance] <;> omega

end Kind

namespace Token

/-- The openers of capturing groups among some tokens, less the closers. -/
def surplus (tokens : List Token) : Int :=
  (tokens.countP (·.kind = .groupOpen) : Int) - tokens.countP (·.kind = .groupClose)

/-- The surpluses of the last tokens, from none of them to all. -/
def lastSurpluses (tokens : List Token) : Set Int := surplus '' {last | last <:+ tokens}

theorem surplus_concat (tokens : List Token) (t : Token) :
    surplus (tokens ++ [t]) = surplus tokens + t.kind.balance := by
  simp only [surplus, List.countP_append, List.countP_singleton, decide_eq_true_eq]
  cases t.kind with
  | groupOpen =>
      simp only [Kind.balance, if_true, reduceCtorEq, if_false]
      omega
  | groupClose =>
      simp only [Kind.balance, if_true, reduceCtorEq, if_false]
      omega
  | _ =>
      simp only [Kind.balance, reduceCtorEq, if_false]
      omega

/-- One more token changes the surplus of all last tokens but that of none of them. -/
theorem lastSurpluses_concat (tokens : List Token) (t : Token) :
    lastSurpluses (tokens ++ [t]) = insert 0 ((· + t.kind.balance) '' lastSurpluses tokens) := by
  ext n
  constructor
  · rintro ⟨_, h, rfl⟩
    rcases List.suffix_concat_iff.mp h with rfl | ⟨last, rfl, hlast⟩
    · exact Set.mem_insert 0 _
    · rw [surplus_concat]
      exact Set.mem_insert_of_mem 0 ⟨surplus last, ⟨last, hlast, rfl⟩, rfl⟩
  · rintro (rfl | ⟨_, ⟨last, hlast, rfl⟩, rfl⟩)
    · exact ⟨[], List.nil_suffix, rfl⟩
    · exact ⟨last ++ [t], List.suffix_concat_iff.mpr (.inr ⟨last, rfl, hlast⟩),
        surplus_concat last t⟩

theorem lastSurpluses_eq (tokens : List Token) :
    lastSurpluses tokens = {n | ∃ j ≤ tokens.length, surplus (tokens.drop j) = n} := by
  ext n
  constructor
  · rintro ⟨last, hlast, rfl⟩
    refine ⟨tokens.length - last.length, Nat.sub_le _ _, ?_⟩
    rw [← List.suffix_iff_eq_drop.mp hlast]
  · rintro ⟨j, -, rfl⟩
    exact ⟨tokens.drop j, List.drop_suffix j tokens, rfl⟩

theorem isGreatest_depthAfter (tokens : List Token) :
    IsGreatest (lastSurpluses tokens) (depthAfter tokens) := by
  induction tokens using List.reverseRecOn with
  | nil =>
      refine ⟨⟨[], List.nil_suffix, rfl⟩, ?_⟩
      rintro _ ⟨last, hlast, rfl⟩
      rw [List.suffix_nil.mp hlast]
      exact Int.le_refl 0
  | append_singleton tokens t ih =>
      have hmono : Monotone fun n : Int => n + t.kind.balance :=
        fun _ _ h => Int.add_le_add_right h _
      -- The zero that stops the depth is the surplus of no tokens.
      rw [depthAfter_concat, Kind.depthAfter_eq_max, lastSurpluses_concat]
      exact (hmono.map_isGreatest ih).insert 0

/-- The last tokens that reach the depth have as many openers at least. -/
theorem depthAfter_le_countP (tokens : List Token) :
    depthAfter tokens ≤ tokens.countP (·.kind = .groupOpen) := by
  obtain ⟨last, hlast, hsurplus⟩ := (isGreatest_depthAfter tokens).1
  have hle : last.countP (·.kind = .groupOpen) ≤ tokens.countP (·.kind = .groupOpen) :=
    List.IsSuffix.countP_le hlast
  rw [surplus] at hsurplus
  omega

end Token

namespace Scan

variable {pattern : Text} {s : Scan}

theorem Reached.tokens_eq_take (h : Reached pattern s) :
    s.tokens = (annotate pattern).take s.tokens.length :=
  List.prefix_iff_eq_take.mp h.tokens_prefix

theorem exists_reached_of_le {i : Nat} (h : i ≤ (annotate pattern).length) :
    ∃ s, Reached pattern s ∧ s.tokens.length = i := by
  obtain ⟨s, hs, htokens⟩ := exists_reached (List.take_prefix i (annotate pattern))
  exact ⟨s, hs, htokens ▸ List.length_take_of_le h⟩

end Scan

/-- Once a scan has read some tokens, the depth is the largest surplus of openers over closers among
those from some place on. So at the end of a pattern it is the largest surplus of the last tokens.
It is never more than the number of openers. -/
theorem isGreatest_surplus_depth (pattern : Text) :
    (∀ i ≤ (annotate pattern).length,
      (∃ s, Scan.Reached pattern s ∧ s.tokens.length = i) ∧
        ∀ s, Scan.Reached pattern s → s.tokens.length = i →
          IsGreatest {n | ∃ j ≤ i, Token.surplus (((annotate pattern).take i).drop j) = n} s.depth ∧
            s.depth ≤ ((annotate pattern).take i).countP (·.kind = .groupOpen)) ∧
      IsGreatest (Token.lastSurpluses (annotate pattern)) (finalDepth pattern) ∧
      finalDepth pattern ≤ (annotate pattern).countP (·.kind = .groupOpen) := by
  refine ⟨?_, ?_, ?_⟩
  · intro i hi
    refine ⟨Scan.exists_reached_of_le hi, ?_⟩
    rintro s hs rfl
    rw [← hs.tokens_eq_take, ← Token.lastSurpluses_eq, hs.depth_eq]
    exact ⟨Token.isGreatest_depthAfter s.tokens, Token.depthAfter_le_countP s.tokens⟩
  · rw [← Token.depthAfter_annotate]
    exact Token.isGreatest_depthAfter (annotate pattern)
  · rw [← Token.depthAfter_annotate]
    exact Token.depthAfter_le_countP (annotate pattern)

/-- As many groups open in `())(()` as close, but the second closer has no opener. -/
def excessCloser : Text := ['(', ')', ')', '(', '(', ')']

theorem isGreatest_surplus_depth_excessCloser :
    5 ≤ (annotate excessCloser).length ∧
      (∃ s, Scan.Reached excessCloser s ∧ s.tokens.length = 5 ∧ s.depth = 2 ∧
        IsGreatest {n | ∃ j ≤ 5, Token.surplus (((annotate excessCloser).take 5).drop j) = n} 2) ∧
      Token.surplus (annotate excessCloser) = 0 ∧
      IsGreatest (Token.lastSurpluses (annotate excessCloser)) 1 := by
  have hlength : 5 ≤ (annotate excessCloser).length := by
    decide +kernel
  have hfinal : finalDepth excessCloser = 1 := by
    decide +kernel
  obtain ⟨hprefixes, hwhole, -⟩ := isGreatest_surplus_depth excessCloser
  obtain ⟨⟨s, hs, htokens⟩, hdepth⟩ := hprefixes 5 hlength
  have htwo : s.depth = 2 := by
    rw [hs.depth_eq, hs.tokens_eq_take, htokens]
    decide +kernel
  have hgreatest := (hdepth s hs htokens).1
  rw [htwo] at hgreatest
  rw [hfinal] at hwhole
  exact ⟨hlength, ⟨s, hs, htokens, htwo, hgreatest⟩, by decide +kernel, hwhole⟩

end RegexExplainer
