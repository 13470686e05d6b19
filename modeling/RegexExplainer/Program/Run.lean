import RegexExplainer.Program.Basic
import RegexExplainer.Program.Place

/- Running a program from one place: all ways to match advance together, in order of preference. -/
namespace RegexExplainer

/-- The offsets saved so far, the latest first. -/
abbrev Saves := List (Nat × Nat)

structure Thread where
  pc : Nat
  saves : Saves
deriving DecidableEq

/-- The threads that wait for a character in some set, in order of preference, and the saves of a
match that comes after them in that order. -/
structure Front where
  waiting : List (CharSet × Thread)
  accepted : Option Saves
deriving DecidableEq

namespace Front

def wait (f : Front) (s : CharSet) (t : Thread) : Front := { f with waiting := (s, t) :: f.waiting }

/-- The threads that `c` lets go on. -/
def step (f : Front) (c : Char) : List Thread :=
  f.waiting.filterMap fun (s, t) => if s.contains c then some t else none

end Front

theorem count_false_set {seen : Array Bool} {i : Nat} (h : i < seen.size) (hi : seen[i] = false) :
    (seen.set i true).count false < seen.count false := by
  have hpos : 0 < seen.count false := by
    rw [Array.count_pos_iff, ← hi]
    exact Array.getElem_mem h
  rw [Array.count_set h, hi, if_pos (by rfl), if_neg (by decide)]
  omega

namespace Program

/-- Follows the pending threads, most preferred first, to where they wait for a character. An
instruction is followed once per place, and nothing after a match is. -/
def explore (p : Program) (place : Place) (pending : List Thread) (seen : Array Bool) : Front :=
  match pending with
  | [] => ⟨[], none⟩
  | t :: pending =>
    if h : t.pc < seen.size then
      if hs : seen[t.pc] then p.explore place pending seen
      else
        have : (seen.set t.pc true).count false < seen.count false :=
          count_false_set h (by simpa using hs)
        let seen := seen.set t.pc true
        match p.code[t.pc]? with
        | none => p.explore place pending seen
        | some (.char s next) => (p.explore place pending seen).wait s ⟨next, t.saves⟩
        | some (.look l next) =>
          if l.holds place.before place.rest.head? then
            p.explore place (⟨next, t.saves⟩ :: pending) seen
          else p.explore place pending seen
        | some (.save slot next) =>
          p.explore place (⟨next, (slot, place.offset) :: t.saves⟩ :: pending) seen
        | some (.split first second) =>
          p.explore place (⟨first, t.saves⟩ :: ⟨second, t.saves⟩ :: pending) seen
        | some (.jump next) => p.explore place (⟨next, t.saves⟩ :: pending) seen
        | some .accept => ⟨[], some t.saves⟩
    else p.explore place pending seen
termination_by 2 * seen.count false + pending.length

def front (p : Program) (place : Place) (threads : List Thread) : Front :=
  p.explore place threads (Array.replicate p.code.size false)

/-- The end of the preferred match of some threads that stand before `rest`, with its saves. -/
def run (p : Program) (before : Option Char) (offset : Nat) (rest : Text)
    (threads : List Thread) : Option (Place × Saves) :=
  if threads.isEmpty then none
  else
    let front := p.front ⟨before, offset, rest⟩ threads
    let here := front.accepted.map fun saves => (⟨before, offset, rest⟩, saves)
    match rest with
    | [] => here
    | c :: rest => (p.run (some c) (offset + c.utf8Size) rest (front.step c)).or here

def matchAt (p : Program) (place : Place) : Option (Place × Saves) :=
  p.run place.before place.offset place.rest [⟨0, []⟩]

theorem reaches_of_run {p : Program} {before : Option Char} {offset : Nat} {rest : Text}
    {threads : List Thread} {stop : Place} {saves : Saves}
    (h : p.run before offset rest threads = some (stop, saves)) :
    Place.Reaches ⟨before, offset, rest⟩ stop := by
  induction rest generalizing before offset threads with
  | nil =>
    rw [run] at h
    split at h
    · simp at h
    · obtain ⟨_, _, h⟩ := Option.map_eq_some_iff.1 h
      simp only [Prod.mk.injEq] at h
      exact h.1 ▸ .refl _
  | cons c rest ih =>
    rw [run] at h
    split at h
    · simp at h
    · rcases Option.or_eq_some_iff.1 h with h | ⟨_, h⟩
      · exact (Place.reaches_cons before offset c rest).trans (ih h)
      · obtain ⟨_, _, h⟩ := Option.map_eq_some_iff.1 h
        simp only [Prod.mk.injEq] at h
        exact h.1 ▸ .refl _

end Program

end RegexExplainer
