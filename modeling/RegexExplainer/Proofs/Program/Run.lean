import Mathlib.Data.List.Basic
import RegexExplainer.Program.Search
import RegexExplainer.Proofs.Expression.Beginning
import RegexExplainer.Proofs.Text.Cut

/- Running a program: what single threads do, and which characters a match lies over. -/
namespace RegexExplainer

theorem Instruction.char_ne_round {s : CharSet} {after : Nat} {greedy : Bool} {again exit : Nat} :
    char s after ≠ round greedy again exit := by
  unfold Instruction.round
  split
  · exact nofun
  · exact nofun

namespace Expression

/-- The sets in the code of an expression are its own. -/
theorem AllSets.of_mem_emit {P : CharSet → Prop} {e : Expression} (h : e.AllSets P)
    {base next : Nat} {s : CharSet} {after : Nat}
    (hmem : Instruction.char s after ∈ e.emit base next) : P s := by
  fun_induction emit e base next with
  | case1 => cases List.mem_singleton.mp hmem
  | case2 =>
      cases List.mem_singleton.mp hmem
      exact h
  | case3 => cases List.mem_singleton.mp hmem
  | case4 i e base next stop ih =>
      rcases List.mem_append.mp hmem with hmem | hmem
      · rcases List.mem_cons.mp hmem with heq | hmem
        · cases heq
        · exact ih h hmem
      · cases List.mem_singleton.mp hmem
  | case5 e f base next middle ihe ihf =>
      rcases List.mem_append.mp hmem with hmem | hmem
      · exact ihe h.1 hmem
      · exact ihf h.2 hmem
  | case6 e f base next second ihe ihf =>
      rcases List.mem_append.mp hmem with hmem | hmem
      · rcases List.mem_cons.mp hmem with heq | hmem
        · cases heq
        · exact ihe h.1 hmem
      · exact ihf h.2 hmem
  | case7 greedy e base next round hc ih =>
      rcases List.mem_cons.mp hmem with heq | hmem
      · exact absurd heq Instruction.char_ne_round
      · exact ih h hmem
  | case8 greedy e base next round hc ih =>
      rcases List.mem_append.mp hmem with hmem | hmem
      · rcases List.mem_cons.mp hmem with heq | hmem
        · exact absurd heq Instruction.char_ne_round
        · exact ih h hmem
      · exact absurd (List.mem_singleton.mp hmem) Instruction.char_ne_round
  | case9 base next least greedy e size last ih =>
      rcases List.mem_append.mp hmem with hmem | hmem
      · obtain ⟨k, -, hmem⟩ := List.mem_flatMap.mp hmem
        exact ih k h hmem
      · exact absurd (List.mem_singleton.mp hmem) Instruction.char_ne_round
  | case10 least most greedy e base next size middle ih ihr =>
      rcases List.mem_append.mp hmem with hmem | hmem
      · rcases List.mem_append.mp hmem with hmem | hmem
        · obtain ⟨k, -, hmem⟩ := List.mem_flatMap.mp hmem
          exact ih k h hmem
        · obtain ⟨k, -, hmem⟩ := List.mem_flatMap.mp hmem
          rcases List.mem_cons.mp hmem with heq | hmem
          · exact absurd heq Instruction.char_ne_round
          · exact ihr k h hmem
      · cases List.mem_singleton.mp hmem

end Expression

namespace Program

variable {p : Program} {saves : Saves} {k : Nat}

theorem explore_nil (p : Program) (place : Place) (seen : Array Bool) :
    p.explore place [] seen = ⟨[], none⟩ := by
  rw [explore]

/-- A thread that stands at a character waits for it. -/
theorem front_char {s : CharSet} {next : Nat} (h : p.code[k]? = some (.char s next))
    (place : Place) : p.front place [⟨k, saves⟩] = ⟨[(s, ⟨next, saves⟩)], none⟩ := by
  obtain ⟨hk, -⟩ := Array.getElem?_eq_some_iff.mp h
  have hsize : k < (Array.replicate p.code.size false).size := by rwa [Array.size_replicate]
  rw [front, explore, dif_pos hsize, dif_neg (by simp)]
  simp only [h, explore_nil]
  rfl

theorem front_accept (h : p.code[k]? = some .accept) (place : Place) :
    p.front place [⟨k, saves⟩] = ⟨[], some saves⟩ := by
  obtain ⟨hk, -⟩ := Array.getElem?_eq_some_iff.mp h
  have hsize : k < (Array.replicate p.code.size false).size := by rwa [Array.size_replicate]
  rw [front, explore, dif_pos hsize, dif_neg (by simp)]
  simp only [h]

theorem run_nil (p : Program) (before : Option Char) (offset : Nat) (rest : Text) :
    p.run before offset rest [] = none := by
  unfold run
  rfl

theorem run_accept (h : p.code[k]? = some .accept) (before : Option Char) (offset : Nat)
    (rest : Text) :
    p.run before offset rest [⟨k, saves⟩] = some (⟨before, offset, rest⟩, saves) := by
  cases rest with
  | nil =>
      rw [run, if_neg (by simp), front_accept h]
      rfl
  | cons c rest =>
      rw [run, if_neg (by simp), front_accept h]
      change (p.run _ _ rest []).or _ = _
      rw [run_nil]
      rfl

theorem run_char_nil {s : CharSet} {next : Nat} (h : p.code[k]? = some (.char s next))
    (before : Option Char) (offset : Nat) : p.run before offset [] [⟨k, saves⟩] = none := by
  rw [run, if_neg (by simp), front_char h]
  rfl

theorem run_char {s : CharSet} {next : Nat} (h : p.code[k]? = some (.char s next))
    (before : Option Char) (offset : Nat) (c : Char) (rest : Text) :
    p.run before offset (c :: rest) [⟨k, saves⟩] =
      if s.contains c then p.run (some c) (offset + c.utf8Size) rest [⟨next, saves⟩] else none := by
  rw [run, if_neg (by simp), front_char h]
  cases hc : s.contains c with
  | false =>
      have hstep : Front.step ⟨[(s, ⟨next, saves⟩)], none⟩ c = [] := by simp [Front.step, hc]
      change (p.run (some c) _ rest (Front.step _ c)).or none = _
      rw [hstep, run_nil]
      rfl
  | true =>
      have hstep : Front.step ⟨[(s, ⟨next, saves⟩)], none⟩ c = [⟨next, saves⟩] := by
        simp [Front.step, hc]
      change (p.run (some c) _ rest (Front.step _ c)).or none = _
      rw [hstep, Option.or_none]
      rfl

theorem allAfter_of_none {p : Program} {stop : Place} (h : p.after? stop = none) :
    p.allAfter stop = [] := by
  rw [allAfter]
  split
  · rfl
  · next f hf _ =>
      rw [h] at hf
      cases hf

theorem allAfter_of_some {p : Program} {stop : Place} {f : Found} (h : p.after? stop = some f) :
    p.allAfter stop = f :: p.allAfter f.stop := by
  rw [allAfter]
  split
  · next hnone =>
      rw [Option.attach_eq_none_iff.mp hnone] at h
      cases h
  · next f' hf' _ =>
      obtain rfl := Option.some.inj (h.symm.trans hf')
      rfl

/-- What holds of the last match, and of a match when it holds of the ones after it, holds of all matches
after a place. -/
theorem allAfter_induction {p : Program} {motive : Place → List Found → Prop}
    (none : ∀ stop, p.after? stop = none → motive stop [])
    (some : ∀ stop f, p.after? stop = some f → motive f.stop (p.allAfter f.stop) →
      motive stop (f :: p.allAfter f.stop)) (stop : Place) : motive stop (p.allAfter stop) := by
  generalize hn : stop.rest.length = n
  induction n using Nat.strongRecOn generalizing stop with
  | ind n ih =>
      cases hafter : p.after? stop with
      | none =>
          rw [allAfter_of_none hafter]
          exact none stop hafter
      | some f =>
          rw [allAfter_of_some hafter]
          exact some stop f hafter (ih _ (hn ▸ length_rest_lt_of_after? hafter) f.stop rfl)

/-- That the program tests for `c` somewhere. -/
def ReadsChar (p : Program) (c : Char) : Prop :=
  ∃ s next, Instruction.char s next ∈ p.code ∧ s.contains c = true

theorem mem_of_mem_waiting {p : Program} {place : Place} {pending : List Thread}
    {seen : Array Bool} {s : CharSet} {t : Thread}
    (h : (s, t) ∈ (p.explore place pending seen).waiting) :
    ∃ next, Instruction.char s next ∈ p.code := by
  fun_induction explore p place pending seen with
  | case1 seen => exact absurd h List.not_mem_nil
  | case2 seen t' pending hpc hs ih => exact ih h
  | case3 seen t' pending hpc hs hlt seen' hcode ih => exact ih h
  | case4 seen t' pending hpc hs hlt seen' set next hcode ih =>
      rcases List.mem_cons.mp h with heq | h
      · cases heq
        exact ⟨next, Array.mem_of_getElem? hcode⟩
      · exact ih h
  | case5 seen t' pending hpc hs hlt seen' l next hcode hholds ih => exact ih h
  | case6 seen t' pending hpc hs hlt seen' l next hcode hholds ih => exact ih h
  | case7 seen t' pending hpc hs hlt seen' slot next hcode ih => exact ih h
  | case8 seen t' pending hpc hs hlt seen' first second hcode ih => exact ih h
  | case9 seen t' pending hpc hs hlt seen' next hcode ih => exact ih h
  | case10 seen t' pending hpc hs seen' hcode => exact absurd h List.not_mem_nil
  | case11 seen t' pending hpc ih => exact ih h

/-- That `q` comes after `p` and every character between is one that the program tests for. -/
def Passes (prog : Program) (p q : Place) : Prop :=
  ∃ t, p.rest = t ++ q.rest ∧ q.offset = p.offset + Text.size t ∧ ∀ c ∈ t, prog.ReadsChar c

theorem passes_refl (prog : Program) (p : Place) : prog.Passes p p :=
  ⟨[], rfl, rfl, fun _ h => absurd h List.not_mem_nil⟩

/-- Reading on after a character takes a thread that waited for it. -/
theorem readsChar_of_step {p : Program} {place stop : Place} {threads : List Thread} {c : Char}
    {offset : Nat} {rest : Text} {saves : Saves}
    (h : p.run (some c) offset rest ((p.front place threads).step c) = some (stop, saves)) :
    p.ReadsChar c := by
  cases hstep : (p.front place threads).step c with
  | nil =>
      rw [hstep, run_nil] at h
      cases h
  | cons t ts =>
      have hmem : t ∈ (p.front place threads).step c := by
        rw [hstep]
        exact List.mem_cons_self
      obtain ⟨⟨s, t'⟩, hwaiting, hread⟩ := List.mem_filterMap.mp hmem
      obtain ⟨next, hcode⟩ := mem_of_mem_waiting hwaiting
      refine ⟨s, next, hcode, ?_⟩
      by_contra hc
      exact absurd hread (by simp [hc])

theorem passes_of_run {p : Program} {before : Option Char} {offset : Nat} {rest : Text}
    {threads : List Thread} {stop : Place} {saves : Saves}
    (h : p.run before offset rest threads = some (stop, saves)) :
    p.Passes ⟨before, offset, rest⟩ stop := by
  induction rest generalizing before offset threads with
  | nil =>
      rw [run] at h
      split at h
      · cases h
      · obtain ⟨_, -, heq⟩ := Option.map_eq_some_iff.mp h
        cases heq
        exact passes_refl p _
  | cons c rest ih =>
      rw [run] at h
      split at h
      · cases h
      · rcases Option.or_eq_some_iff.mp h with hlater | ⟨-, hhere⟩
        · obtain ⟨t, hrest, hoffset, hreads⟩ := ih hlater
          refine ⟨c :: t, congrArg (c :: ·) hrest, ?_, ?_⟩
          · rw [hoffset, Text.size_cons, Nat.add_assoc]
          · intro d hd
            rcases List.mem_cons.mp hd with rfl | hd
            · exact readsChar_of_step hlater
            · exact hreads d hd
        · obtain ⟨_, -, heq⟩ := Option.map_eq_some_iff.mp hhere
          cases heq
          exact passes_refl p _

theorem passes_of_search {p : Program} {place : Place} {f : Found}
    (h : p.search place = some f) : p.Passes f.start f.stop := by
  obtain ⟨before, offset, rest⟩ := place
  unfold search at h
  induction rest generalizing before offset with
  | nil =>
      rw [searchFrom] at h
      split at h
      · next stop saves hmatch =>
          cases h
          exact passes_of_run hmatch
      · cases h
  | cons c rest ih =>
      rw [searchFrom] at h
      split at h
      · next stop saves hmatch =>
          cases h
          exact passes_of_run hmatch
      · exact ih _ _ h

end Program

end RegexExplainer
