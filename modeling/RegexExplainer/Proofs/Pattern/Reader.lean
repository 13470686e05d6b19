import Mathlib.Data.List.Basic
import RegexExplainer.Pattern.Repetition

/- What readers do to the text ahead. -/
namespace RegexExplainer.Pattern

variable {α β σ : Type}

theorem ok_of_bind_ok {ε : Type} {m : Except ε α} {f : α → Except ε β} {b : β}
    (h : (m >>= f) = .ok b) : ∃ a, m = .ok a ∧ f a = .ok b := by
  cases m with
  | error e => cases h
  | ok a => exact ⟨a, rfl, h⟩

namespace Reader

theorem bind_of_ok {m : Reader α} {f : α → Reader β} {r r' : Reading} {a : α}
    (h : m r = .ok (a, r')) : (m >>= f) r = f a r' := by
  change (m r).bind (fun p => f p.1 p.2) = _
  rw [h]
  rfl

theorem map_of_ok {m : Reader α} {f : α → β} {r r' : Reading} {a : α}
    (h : m r = .ok (a, r')) : (f <$> m) r = .ok (f a, r') := by
  change (m r).bind (fun p => .ok (f p.1, p.2)) = _
  rw [h]
  rfl

/-- A reader made of two gives a result only when both do. -/
theorem bind_ok {m : Reader α} {f : α → Reader β} {r r'' : Reading} {b : β}
    (h : (m >>= f) r = .ok (b, r'')) : ∃ a r', m r = .ok (a, r') ∧ f a r' = .ok (b, r'') := by
  obtain ⟨⟨a, r'⟩, hm, hf⟩ := ok_of_bind_ok (m := m r) h
  exact ⟨a, r', hm, hf⟩

theorem map_ok {m : Reader α} {f : α → β} {r r' : Reading} {b : β}
    (h : (f <$> m) r = .ok (b, r')) : ∃ a, m r = .ok (a, r') ∧ f a = b := by
  obtain ⟨⟨a, r₁⟩, hm, hf⟩ := ok_of_bind_ok (m := m r) h
  cases hf
  exact ⟨a, hm, rfl⟩

theorem peek?_eq (r : Reading) : peek? r = .ok (r.rest.head?, r) := rfl

theorem here_eq (r : Reading) : here r = .ok (r.position, r) := rfl

theorem regionFrom_eq (start : Position) (r : Reading) :
    regionFrom start r = .ok (⟨start, r.position⟩, r) := rfl

theorem ahead_eq (r : Reading) : ahead r = .ok (r.ahead, r) := rfl

theorem bump_eq (r : Reading) : bump r = .ok ((), r.bump) := rfl

theorem skip_eq {r : Reading} (h : r.skipping = false) : skip r = .ok ((), r) := by
  change Except.ok ((), r.skip) = _
  rw [Reading.skip, h]
  rfl

/-- What holds at the start and is kept by each step holds at the last step, and that either gave
no result or read nothing. -/
theorem repeatWhile_ok {step : σ → Reader (Option σ)} {inv : σ → Reading → Prop}
    (hstep : ∀ {s r s' r'}, inv s r → step s r = .ok (some s', r') → inv s' r')
    {s s' : σ} {r r' : Reading} (h : inv s r) (hok : repeatWhile step s r = .ok (s', r')) :
    (∃ last, inv s' last ∧ step s' last = .ok (none, r')) ∨
      ∃ t last, inv t last ∧ step t last = .ok (some s', r') ∧ last.remaining ≤ r'.remaining := by
  induction s, r using repeatWhile.induct step with
  | case1 s r e hs =>
      rw [repeatWhile, hs] at hok
      cases hok
  | case2 s r r₁ hs =>
      rw [repeatWhile, hs] at hok
      cases hok
      exact .inl ⟨r, h, hs⟩
  | case3 s r s₁ r₁ hs hlt ih =>
      rw [repeatWhile, hs] at hok
      simp only [if_pos hlt] at hok
      exact ih (hstep h hs) hok
  | case4 s r s₁ r₁ hs hlt =>
      rw [repeatWhile, hs] at hok
      simp only [if_neg hlt] at hok
      cases hok
      exact .inr ⟨s, r, h, hs, Nat.le_of_not_lt hlt⟩

/-- That `r'` is further on in the same text and skips blanks as `r` does. -/
structure Advances (r r' : Reading) : Prop where
  rest : r'.rest <:+ r.rest
  skipping : r'.skipping = r.skipping

theorem Advances.refl (r : Reading) : Advances r r := ⟨List.suffix_refl _, rfl⟩

theorem Advances.trans {r r' r'' : Reading} (h : Advances r r') (h' : Advances r' r'') :
    Advances r r'' :=
  ⟨h'.rest.trans h.rest, h'.skipping.trans h.skipping⟩

theorem advances_bump (r : Reading) : Advances r r.bump := by
  unfold Reading.bump
  split
  · exact .refl r
  · next c rest hrest =>
      refine ⟨?_, rfl⟩
      rw [hrest]
      exact List.suffix_cons c rest

theorem advances_drop (n : Nat) (r : Reading) : Advances r (r.drop n) := by
  induction n generalizing r with
  | zero => exact .refl r
  | succ n ih => exact (advances_bump r).trans (ih r.bump)

theorem skipBlankFrom_suffix (comment : Bool) (p : Position) (t : Text) :
    (Reading.skipBlankFrom comment p t).2 <:+ t := by
  induction t generalizing comment p with
  | nil => exact List.suffix_refl []
  | cons c rest ih =>
      unfold Reading.skipBlankFrom
      split_ifs
      · exact (ih _ _).trans (List.suffix_cons c rest)
      · exact (ih _ _).trans (List.suffix_cons c rest)
      · exact (ih _ _).trans (List.suffix_cons c rest)
      · exact List.suffix_refl _

theorem advances_skip (r : Reading) : Advances r r.skip := by
  unfold Reading.skip
  split
  · exact ⟨skipBlankFrom_suffix false r.position r.rest, rfl⟩
  · exact .refl r

/-- A reader that does no more than read on. -/
def ReadsOn (m : Reader α) : Prop := ∀ r a r', m r = .ok (a, r') → Advances r r'

namespace ReadsOn

theorem bind {m : Reader α} {f : α → Reader β} (h : ReadsOn m) (hf : ∀ a, ReadsOn (f a)) :
    ReadsOn (m >>= f) := by
  intro r b r'' hok
  obtain ⟨a, r', hm, hrest⟩ := bind_ok hok
  exact (h r a r' hm).trans (hf a r' b r'' hrest)

theorem pure (a : α) : ReadsOn (Pure.pure a : Reader α) := by
  intro r b r' hok
  cases hok
  exact .refl r

theorem fail (cause : Cause) (region : Region) : ReadsOn (fail cause region : Reader α) := by
  intro r b r' hok
  cases hok

theorem get : ReadsOn (MonadState.get : Reader Reading) := by
  intro r b r' hok
  cases hok
  exact .refl r

theorem here : ReadsOn here := get.bind fun r => pure r.position

theorem regionFrom (start : Position) : ReadsOn (regionFrom start) :=
  here.bind fun stop => pure (Region.mk start stop)

theorem peek? : ReadsOn peek? := get.bind fun r => pure r.rest.head?

theorem atEnd : ReadsOn atEnd := get.bind fun r => pure r.rest.isEmpty

theorem bump : ReadsOn bump := by
  intro r b r' hok
  cases hok
  exact advances_bump r

theorem skip : ReadsOn skip := by
  intro r b r' hok
  cases hok
  exact advances_skip r

theorem bumpSkip : ReadsOn bumpSkip := bump.bind fun _ => skip

theorem accept (s : String) : ReadsOn (accept s) := by
  intro r b r' hok
  obtain ⟨r₁, r₂, hget, hok⟩ := bind_ok hok
  cases hget
  split at hok
  · cases hok
    exact advances_drop s.length r
  · cases hok
    exact .refl r

theorem lift (m : Except Fault α) : ReadsOn (liftM m : Reader α) := by
  intro r b r' hok
  cases m with
  | error e => cases hok
  | ok a =>
      cases hok
      exact .refl r

theorem repeatWhile {step : σ → Reader (Option σ)} (h : ∀ s, ReadsOn (step s)) (s : σ) :
    ReadsOn (repeatWhile step s) := by
  intro r s' r' hok
  have hstep : ∀ {s r₁ s₁ r₂}, Advances r r₁ → step s r₁ = .ok (some s₁, r₂) → Advances r r₂ :=
    fun hr hs => hr.trans (h _ _ _ _ hs)
  rcases repeatWhile_ok hstep (Advances.refl r) hok with ⟨last, hlast, hs⟩ | ⟨t, last, hlast, hs, -⟩
  · exact hlast.trans (h s' _ _ _ hs)
  · exact hlast.trans (h t _ _ _ hs)

theorem ite {c : Prop} [Decidable c] {m m' : Reader α} (h : ReadsOn m) (h' : ReadsOn m') :
    ReadsOn (if c then m else m') := by
  split
  · exact h
  · exact h'

theorem collect (p : Char → Bool) : ReadsOn (collect p) := by
  refine (repeatWhile (fun taken => ?_) []).bind fun reversed => pure reversed.reverse
  refine peek?.bind fun next => ?_
  cases next with
  | none => exact pure none
  | some c => exact ite (bumpSkip.bind fun _ => pure _) (pure none)

theorem passWhiteSpace : ReadsOn passWhiteSpace := by
  refine repeatWhile (fun _ => ?_) ()
  refine peek?.bind fun next => ?_
  cases next with
  | none => exact pure none
  | some c => exact ite (bump.bind fun _ => pure _) (pure none)

theorem count : ReadsOn count := by
  refine passWhiteSpace.bind fun _ => here.bind fun start => ?_
  refine (collect Char.isDigit).bind fun digits => (regionFrom start).bind fun region => ?_
  exact passWhiteSpace.bind fun _ => pure (countOf digits region)

theorem failUnclosedAtEnd (start : Position) : ReadsOn (failUnclosedAtEnd start) := by
  refine atEnd.bind fun ended => ite ?_ (pure ())
  exact (regionFrom start).bind fun region => fail .repetitionUnclosed region

theorem counts : ReadsOn counts := by
  refine here.bind fun start => bumpSkip.bind fun _ => (failUnclosedAtEnd start).bind fun _ => ?_
  refine count.bind fun first => (failUnclosedAtEnd start).bind fun _ => peek?.bind fun next => ?_
  refine ite ?_ ((lift first).bind fun exact => pure (exact, some exact))
  refine bumpSkip.bind fun _ => (failUnclosedAtEnd start).bind fun _ => peek?.bind fun next => ?_
  refine ite ((lift first).bind fun least => pure (least, none)) ?_
  refine (lift first).bind fun least => count.bind fun most => (lift most).bind fun most => ?_
  exact pure (least, some most)

theorem countedOperator : ReadsOn countedOperator := by
  refine here.bind fun start => counts.bind fun counted => peek?.bind fun next => ?_
  have hclose : ReadsOn (do
      Reader.bumpSkip
      let reluctant ← Reader.accept "?"
      if counted.2.any (· < counted.1) then
        Reader.fail .repetitionRangeInvalid (← Reader.regionFrom start)
      return (counted.1, counted.2, !reluctant)) := by
    refine bumpSkip.bind fun _ => (accept "?").bind fun reluctant => ?_
    refine ite ?_ (pure (counted.1, counted.2, !reluctant))
    exact (regionFrom start).bind fun region => (fail _ region).bind fun _ => pure _
  refine ite ?_ hclose
  exact (regionFrom start).bind fun region => (fail _ region).bind fun _ => hclose

theorem plainOperator (c : Char) : ReadsOn (plainOperator c) :=
  bump.bind fun _ => (accept "?").bind fun _ => pure _

end ReadsOn

/-- An operator takes the last part, and puts a repetition of it there. -/
theorem repetition_ok {c : Char} {parts parts' : List Tree} {r r' : Reading}
    (h : repetition c parts r = .ok (parts', r')) :
    Advances r r' ∧ ∃ last before region least most greedy,
      parts = last :: before ∧ parts' = .repetition region least most greedy last :: before := by
  unfold repetition at h
  cases parts with
  | nil =>
      obtain ⟨_, _, -, hfail⟩ := bind_ok h
      cases hfail
  | cons last before =>
      simp only at h
      split at h
      · obtain ⟨_, _, -, hfail⟩ := bind_ok h
        obtain ⟨_, _, hfail, -⟩ := bind_ok hfail
        cases hfail
      · have hoperator : ∃ least most greedy r₁, Advances r r₁ ∧ (do
            let region ← regionFrom last.region.start
            return .repetition region least most greedy last :: before : Reader (List Tree)) r₁ =
              .ok (parts', r') := by
          split at h
          · obtain ⟨⟨least, most, greedy⟩, r₁, hread, hrest⟩ := bind_ok h
            exact ⟨least, most, greedy, r₁, ReadsOn.countedOperator _ _ _ hread, hrest⟩
          · obtain ⟨⟨least, most, greedy⟩, r₁, hread, hrest⟩ := bind_ok h
            exact ⟨least, most, greedy, r₁, ReadsOn.plainOperator c _ _ _ hread, hrest⟩
        obtain ⟨least, most, greedy, r₁, hadvances, hrest⟩ := hoperator
        obtain ⟨region, r₂, hregion, hpure⟩ := bind_ok hrest
        cases hpure
        refine ⟨hadvances.trans (ReadsOn.regionFrom _ _ _ _ hregion), ?_⟩
        exact ⟨last, before, region, least, most, greedy, rfl, rfl⟩

end Reader

end RegexExplainer.Pattern
