import RegexExplainer.Program.Run

/- Finding the matches in a text from left to right. -/
namespace RegexExplainer

structure Found where
  start : Place
  stop : Place
  saves : Saves
deriving DecidableEq

namespace Program

/-- The match that starts first at or after a place. -/
def searchFrom (p : Program) (before : Option Char) (offset : Nat) (rest : Text) : Option Found :=
  let place : Place := ⟨before, offset, rest⟩
  match p.matchAt place with
  | some (stop, saves) => some ⟨place, stop, saves⟩
  | none =>
    match rest with
    | [] => none
    | c :: rest => p.searchFrom (some c) (offset + c.utf8Size) rest

def search (p : Program) (place : Place) : Option Found :=
  p.searchFrom place.before place.offset place.rest

/-- The match after one that ends at `stop`. An empty match at `stop` does not count, and the
search goes on one character later. -/
def after? (p : Program) (stop : Place) : Option Found :=
  match p.search stop with
  | none => none
  | some f => if f.stop.offset = stop.offset then stop.next?.bind p.search else some f

theorem reaches_of_search {p : Program} {place : Place} {f : Found}
    (h : p.search place = some f) : place.Reaches f.start ∧ f.start.Reaches f.stop := by
  obtain ⟨before, offset, rest⟩ := place
  simp only [search] at h
  induction rest generalizing before offset with
  | nil =>
    rw [searchFrom] at h
    split at h
    · next stop saves hm =>
      simp only [Option.some.injEq] at h
      subst h
      exact ⟨.refl _, reaches_of_run hm⟩
    · simp at h
  | cons c rest ih =>
    rw [searchFrom] at h
    split at h
    · next stop saves hm =>
      simp only [Option.some.injEq] at h
      subst h
      exact ⟨.refl _, reaches_of_run hm⟩
    · obtain ⟨hs, ht⟩ := ih _ _ h
      exact ⟨(Place.reaches_cons before offset c rest).trans hs, ht⟩

/-- A later match ends later. -/
theorem reaches_of_after? {p : Program} {stop : Place} {f : Found} (h : p.after? stop = some f) :
    stop.Reaches f.start ∧ f.start.Reaches f.stop ∧ stop.offset < f.stop.offset := by
  unfold after? at h
  split at h
  · simp at h
  · next g hg =>
    obtain ⟨hs, ht⟩ := reaches_of_search hg
    split at h
    · obtain ⟨q, hq, hf⟩ := Option.bind_eq_some_iff.1 h
      obtain ⟨hn, hlt⟩ := Place.reaches_of_next? hq
      obtain ⟨hs', ht'⟩ := reaches_of_search hf
      have := hs'.offset_le
      have := ht'.offset_le
      exact ⟨hn.trans hs', ht', by omega⟩
    · next hne =>
      simp only [Option.some.injEq] at h
      subst h
      have := hs.offset_le
      have := ht.offset_le
      exact ⟨hs, ht, by omega⟩

theorem length_rest_lt_of_after? {p : Program} {stop : Place} {f : Found}
    (h : p.after? stop = some f) : f.stop.rest.length < stop.rest.length := by
  obtain ⟨hs, ht, hlt⟩ := reaches_of_after? h
  exact (hs.trans ht).length_lt (by omega)

/-- The matches after one that ends at `stop`. -/
def allAfter (p : Program) (stop : Place) : List Found :=
  match (p.after? stop).attach with
  | none => []
  | some ⟨f, h⟩ =>
    have := length_rest_lt_of_after? h
    f :: p.allAfter f.stop
termination_by stop.rest.length

/-- All matches, none overlapping the one before. -/
def all (p : Program) (t : Text) : List Found :=
  match p.search (.start t) with
  | none => []
  | some f => f :: p.allAfter f.stop

end Program

end RegexExplainer
