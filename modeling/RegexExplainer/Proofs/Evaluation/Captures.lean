import Mathlib
import RegexExplainer.Proofs.Evaluation.Matches
import RegexExplainer.Proofs.Regex.Search

/- What the groups captured in all the matches of a text. Each group has one entry, and a value stands
in it once, where it was first seen. -/
namespace RegexExplainer

section Distinct

variable {α : Type} [BEq α] [LawfulBEq α]

/-- A value at the end counts only if it was not there before. -/
theorem eraseDups_concat (l : List α) (a : α) :
    (l ++ [a]).eraseDups = if a ∈ l then l.eraseDups else l.eraseDups ++ [a] := by
  rw [List.eraseDups_append]
  split
  · next h => simp [List.removeAll, h]
  · next h => simp [List.removeAll, h, List.eraseDups_cons]

/-- Values stand in the order in which they are first seen. -/
theorem pairwise_idxOf_eraseDups (l : List α) :
    l.eraseDups.Pairwise fun a b => l.idxOf a < l.idxOf b := by
  induction l using List.reverseRecOn with
  | nil => exact .nil
  | append_singleton l c ih =>
      have hbefore : l.eraseDups.Pairwise fun a b => (l ++ [c]).idxOf a < (l ++ [c]).idxOf b := by
        refine ih.imp_of_mem ?_
        intro a b ha hb hlt
        rw [List.idxOf_append_of_mem (List.mem_eraseDups.mp ha),
          List.idxOf_append_of_mem (List.mem_eraseDups.mp hb)]
        exact hlt
      rw [eraseDups_concat]
      split
      · exact hbefore
      · next hc =>
          refine List.pairwise_append.mpr ⟨hbefore, List.pairwise_singleton _ c, ?_⟩
          intro a ha b hb
          have ha := List.mem_eraseDups.mp ha
          rw [List.mem_singleton.mp hb, List.idxOf_append_of_mem ha, List.idxOf_append_of_notMem hc]
          exact Nat.lt_add_right _ (List.idxOf_lt_length_of_mem ha)

theorem nodup_eraseDups (l : List α) : l.eraseDups.Nodup := by
  refine (pairwise_idxOf_eraseDups l).imp ?_
  rintro a _ hlt rfl
  exact Nat.lt_irrefl _ hlt

theorem length_eraseDups_le (l : List α) : l.eraseDups.length ≤ l.length := by
  have hsubset : l.eraseDups ⊆ l := fun a ha => List.mem_eraseDups.mp ha
  exact (List.Nodup.subperm (nodup_eraseDups l) hsubset).length_le

end Distinct

/-- The text of a group, counted from one, in a match. It is empty where the group took no part. -/
def Match.groupText (m : Match) (group : Nat) : Text := (m.groups.getD (group - 1) none).getD []

namespace CaptureSet

/-- Entries of smaller groups stay as they are. -/
theorem alter_append {before : CaptureSet} {group : Nat} (h : ∀ e ∈ before, e.1 < group)
    (f : List Text → List Text) (after : CaptureSet) :
    alter group f (before ++ after) = before ++ alter group f after := by
  induction before with
  | nil => rfl
  | cons e before ih =>
      have hlt : e.1 < group := h e List.mem_cons_self
      rw [List.cons_append, alter, if_neg (by omega), if_neg (by omega),
        ih fun e' he' => h e' (List.mem_cons_of_mem e he')]
      rfl

theorem lt_succ_of_mem_concat {before : CaptureSet} {group : Nat} (h : ∀ e ∈ before, e.1 < group)
    (values : List Text) : ∀ e ∈ before ++ [(group, values)], e.1 < group + 1 := by
  intro e he
  rcases List.mem_append.mp he with he | he
  · exact Nat.lt_succ_of_lt (h e he)
  · rw [List.mem_singleton.mp he]
    exact Nat.lt_succ_self group

/-- Changing groups in a row adds their entries where there are none. -/
theorem foldl_alter_none (f : Nat → List Text → List Text) {before : CaptureSet} {group : Nat}
    (h : ∀ e ∈ before, e.1 < group) (n : Nat) :
    (List.range' group n).foldl (fun s g => s.alter g (f g)) before =
      before ++ (List.range' group n).map fun g => (g, f g []) := by
  induction n generalizing before group with
  | zero => exact (List.append_nil before).symm
  | succ n ih =>
      have hstep := alter_append h (f group) []
      rw [List.append_nil] at hstep
      rw [List.range'_succ, List.foldl_cons, hstep, alter, ih (lt_succ_of_mem_concat h _),
        List.map_cons, List.append_assoc]
      rfl

/-- Changing groups in a row changes each entry of theirs. -/
theorem foldl_alter_entries (f : Nat → List Text → List Text) (values : Nat → List Text)
    {before : CaptureSet} {group : Nat} (h : ∀ e ∈ before, e.1 < group) (n : Nat) :
    (List.range' group n).foldl (fun s g => s.alter g (f g))
        (before ++ (List.range' group n).map fun g => (g, values g)) =
      before ++ (List.range' group n).map fun g => (g, f g (values g)) := by
  induction n generalizing before group with
  | zero => rfl
  | succ n ih =>
      have hstep (after : CaptureSet) :
          alter group (f group) (before ++ (group, values group) :: after) =
            before ++ [(group, f group (values group))] ++ after := by
        rw [alter_append h, alter, if_neg (Nat.lt_irrefl group), if_pos rfl, List.append_assoc]
        rfl
      rw [List.range'_succ, List.map_cons, List.foldl_cons, hstep, ih (lt_succ_of_mem_concat h _),
        List.map_cons, List.append_assoc]
      rfl

/-- A match is recorded group by group, from the first group on. -/
theorem recordMatch_eq (s : CaptureSet) {m : Match} {groupCount : Nat}
    (h : m.groups.length = groupCount) :
    recordMatch s m =
      (List.range' 1 groupCount).foldl (fun s g => s.record g (m.groupText g)) s := by
  have hgroups : m.groups.zipIdx 1 =
      (List.range' 1 groupCount).map fun g => (m.groups.getD (g - 1) none, g) := by
    refine List.ext_getElem (by simp [h]) ?_
    intro k hk _
    have hlt : k < m.groups.length := by simpa using hk
    simp [hlt, Nat.add_comm]
  rw [recordMatch, hgroups, List.foldl_map]
  rfl

/-- With at least one match every group has an entry. -/
theorem ofMatches_eq {ms : List Match} {groupCount : Nat} (hne : ms ≠ [])
    (h : ∀ m ∈ ms, m.groups.length = groupCount) :
    ofMatches ms =
      (List.range' 1 groupCount).map fun g => (g, (ms.map fun m => m.groupText g).eraseDups) := by
  induction ms using List.reverseRecOn with
  | nil => exact absurd rfl hne
  | append_singleton ms m ih =>
      have hm : m.groups.length = groupCount := h m (by simp)
      have hms : ∀ m ∈ ms, m.groups.length = groupCount :=
        fun m' hm' => h m' (List.mem_append_left _ hm')
      have hlast : ofMatches (ms ++ [m]) = recordMatch (ofMatches ms) m := by
        rw [ofMatches, List.foldl_append]
        rfl
      rw [hlast, recordMatch_eq _ hm]
      by_cases hfirst : ms = []
      · subst hfirst
        exact foldl_alter_none _ (List.forall_mem_nil _) groupCount
      · rw [ih hfirst hms]
        refine (foldl_alter_entries _ _ (List.forall_mem_nil _) groupCount).trans ?_
        refine List.map_congr_left fun g _ => ?_
        simp only [List.map_append, List.map_cons, List.map_nil, eraseDups_concat,
          List.mem_eraseDups]

end CaptureSet

/-- What some matches captured: an entry for each group, from group one on, and in it each of the
group's values once, in the order of the matches where they are first seen. -/
structure Captured (groupCount : Nat) (ms : List Match) (captures : CaptureSet) : Prop where
  groups : captures.map Prod.fst = List.range' 1 groupCount
  values : ∀ e ∈ captures, e.2 = (ms.map fun m => m.groupText e.1).eraseDups
  ne_nil : ∀ e ∈ captures, e.2 ≠ []
  nodup : ∀ e ∈ captures, e.2.Nodup
  length_le : ∀ e ∈ captures, e.2.length ≤ ms.length
  mem_iff : ∀ e ∈ captures, ∀ v, v ∈ e.2 ↔ ∃ m ∈ ms, m.groupText e.1 = v
  inOrder : ∀ e ∈ captures, e.2.Pairwise fun v w =>
    (ms.map fun m => m.groupText e.1).idxOf v < (ms.map fun m => m.groupText e.1).idxOf w

theorem captured_ofMatches {groupCount : Nat} {ms : List Match} (hne : ms ≠ [])
    (h : ∀ m ∈ ms, m.groups.length = groupCount) :
    Captured groupCount ms (CaptureSet.ofMatches ms) := by
  rw [CaptureSet.ofMatches_eq hne h]
  constructor
  case groups => rw [List.map_map, Function.comp_def, List.map_id']
  all_goals
    intro e he
    obtain ⟨g, -, rfl⟩ := List.mem_map.mp he
  case values => rfl
  case ne_nil =>
    obtain ⟨m, hm⟩ := List.exists_mem_of_ne_nil ms hne
    exact List.ne_nil_of_mem (List.mem_eraseDups.mpr (List.mem_map_of_mem hm))
  case nodup => exact nodup_eraseDups _
  case length_le =>
    refine (length_eraseDups_le _).trans ?_
    rw [List.length_map]
  case mem_iff =>
    intro v
    rw [List.mem_eraseDups]
    exact List.mem_map
  case inOrder => exact pairwise_idxOf_eraseDups _

/-- The groups are captured if the guess says that there are any, there are any, and there is a
match. Otherwise nothing is captured. -/
theorem captures_evaluate [Engine] (h : Engine.Agrees) (re : Engine.Compiled)
    (pattern content : Text) :
    let e := evaluateCompiled re pattern content
    if hasCaptureGroups pattern = true ∧ e.matched ≠ [] ∧ Engine.groupCount re ≠ 0 then
      Captured (Engine.groupCount re) (Engine.captures re content) e.captures
    else e.captures = [] := by
  have hlength := h.length_groups re content
  have hnone := h.captures_eq_nil_iff re content
  dsimp only [evaluateCompiled]
  split
  · next hall =>
      rw [if_pos hall.1]
      exact captured_ofMatches (mt hnone.mp hall.2.1) hlength
  · next hall =>
      by_cases hguess : hasCaptureGroups pattern = true
      · rw [if_pos hguess, CaptureSet.ofMatches_eq_nil_iff hlength, hnone]
        by_contra hne
        rw [not_or] at hne
        exact hall ⟨hguess, hne.2, hne.1⟩
      · exact if_neg hguess

/-- The pattern `(a)|(b)`. Each group is empty where the other one takes part. -/
def oneOfTwo : Text := ['(', 'a', ')', '|', '(', 'b', ')']

theorem captures_evaluate_oneOfTwo :
    ∃ re, Regex.compile oneOfTwo = .ok re ∧
      (re.evaluate oneOfTwo ['a', 'b', 'b']).captures = [(1, [['a'], []]), (2, [[], ['b']])] ∧
      Captured 2 (re.findAll ['a', 'b', 'b']) (re.evaluate oneOfTwo ['a', 'b', 'b']).captures := by
  let re : Regex := .ofExpression (.alt (.capture 1 (.char .unicode (.singleton 'a')))
    (.capture 2 (.char .unicode (.singleton 'b'))))
  have hall := captures_evaluate Regex.agreesInOrder.toAgrees re oneOfTwo ['a', 'b', 'b']
  have hmatches : hasCaptureGroups oneOfTwo = true ∧
      (re.evaluate oneOfTwo ['a', 'b', 'b']).matched ≠ [] ∧ re.groupCount ≠ 0 := by
    decide +kernel
  exact ⟨re, by cbv, by decide +kernel, (if_pos hmatches).mp hall⟩

end RegexExplainer
