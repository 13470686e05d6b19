import Mathlib.Data.List.Basic
import RegexExplainer.Expression.Beginning
import RegexExplainer.Proofs.Text.Decode

/- The texts that are looked for in place of an expression are texts that it can spell. -/
namespace RegexExplainer

variable {L : Text → Prop}

namespace Beginning

/-- A beginning that is a whole match is the UTF-8 form of a text of `L`. -/
def Within (L : Text → Prop) (b : Beginning) : Prop :=
  b.whole = true → ∃ t, L t ∧ b.bytes = Text.encode t

theorem within_unfinished (b : Beginning) : b.unfinished.Within L := nofun

theorem Within.cut {b : Beginning} (h : b.Within L) (n : Nat) : (b.cut n).Within L := by
  unfold Beginning.cut
  split
  · exact h
  · exact nofun

theorem within_mergeFrom {b : Beginning} {bs : List Beginning} (hb : b.Within L)
    (hbs : ∀ c ∈ bs, c.Within L) : ∀ c ∈ mergeFrom b bs, c.Within L := by
  induction bs generalizing b with
  | nil =>
      intro c hc
      rw [List.mem_singleton.mp hc]
      exact hb
  | cons d bs ih =>
      have hrest := fun c hc => hbs c (List.mem_cons_of_mem d hc)
      unfold mergeFrom
      split
      · refine ih ?_ hrest
        intro hwhole
        exact hb (Bool.and_eq_true_iff.mp hwhole).1
      · intro c hc
        rcases List.mem_cons.mp hc with rfl | hc
        · exact hb
        · exact ih (hbs d List.mem_cons_self) hrest c hc

theorem within_merge {bs : List Beginning} (h : ∀ b ∈ bs, b.Within L) :
    ∀ b ∈ merge bs, b.Within L := by
  cases bs with
  | nil => exact h
  | cons b bs =>
      exact within_mergeFrom (h b List.mem_cons_self) fun c hc => h c (List.mem_cons_of_mem b hc)

theorem mem_of_mem_unshadowed {b : Beginning} {bs : List Beginning} (h : b ∈ unshadowed bs) :
    b ∈ bs := by
  have hfold : ∀ (skip : List Beginning → Beginning → Bool) kept,
      b ∈ bs.foldl (fun kept b => if skip kept b then kept else kept ++ [b]) kept →
        b ∈ kept ∨ b ∈ bs := by
    intro skip
    clear h
    induction bs with
    | nil => exact fun kept h => .inl h
    | cons c bs ih =>
        intro kept h
        rcases ih _ h with hkept | hrest
        · beta_reduce at hkept
          split at hkept
          · exact .inl hkept
          · rcases List.mem_append.mp hkept with hkept | hc
            · exact .inl hkept
            · exact .inr (List.mem_cons.mpr (.inl (List.mem_singleton.mp hc)))
        · exact .inr (List.mem_cons_of_mem c hrest)
  rcases hfold _ [] h with hnil | hmem
  · exact absurd hnil List.not_mem_nil
  · exact hmem

theorem within_map_cut {bs : List Beginning} (h : ∀ b ∈ bs, b.Within L) (n : Nat) :
    ∀ b ∈ bs.map (cut n), b.Within L := by
  intro c hc
  obtain ⟨b, hb, rfl⟩ := List.mem_map.mp hc
  exact (h b hb).cut n

theorem within_shortened {bs : List Beginning} (h : ∀ b ∈ bs, b.Within L)
    (steps : List (Nat × Nat)) : ∀ b ∈ shortened steps bs, b.Within L := by
  induction steps generalizing bs with
  | nil => exact h
  | cons step steps ih =>
      unfold shortened
      split
      · exact h
      · exact ih fun b hb => within_map_cut h _ b (mem_of_mem_unshadowed hb)

theorem within_sought {bs : List Beginning} (h : ∀ b ∈ bs, b.Within L) (count : Nat) :
    ∀ b ∈ sought count bs, b.Within L := by
  unfold sought
  dsimp only
  split_ifs
  · exact within_map_cut h _
  · exact within_map_cut h _
  · exact h
  · exact within_shortened h _

/-- One beginning is looked for as it is or cut off. -/
theorem sought_singleton (count : Nat) (b : Beginning) :
    ∃ c, sought count [b] = [c] ∧ (c.whole = true → c = b) := by
  have hcut : ∀ n, (b.cut n).whole = true → b.cut n = b := by
    intro n hwhole
    unfold cut at hwhole ⊢
    split at hwhole
    · next hle => rw [if_pos hle]
    · cases hwhole
  have hshort : shortened shortenings [b] = [b] := rfl
  unfold sought
  rw [hshort]
  dsimp only
  split_ifs
  · exact ⟨_, rfl, hcut _⟩
  · exact ⟨_, rfl, hcut _⟩
  · exact ⟨b, rfl, fun _ => rfl⟩
  · exact ⟨b, rfl, fun _ => rfl⟩

end Beginning

namespace Beginnings

/-- Each whole match in the list, if there is one, is the UTF-8 form of a text of `L`. -/
def Within (L : Text → Prop) (s : Beginnings) : Prop :=
  ∀ bs, s = some bs → ∀ b ∈ bs, b.Within L

theorem within_nothing (hnil : L []) : nothing.Within L := by
  intro bs hbs b hb
  cases hbs
  rw [List.mem_singleton.mp hb]
  exact fun _ => ⟨[], hnil, rfl⟩

theorem within_never : never.Within L := by
  intro bs hbs b hb
  cases hbs
  exact absurd hb List.not_mem_nil

theorem within_unfinished (s : Beginnings) : s.unfinished.Within L := by
  intro bs hbs b hb
  obtain ⟨cs, -, rfl⟩ := Option.map_eq_some_iff.mp hbs
  obtain ⟨c, -, rfl⟩ := List.mem_map.mp hb
  exact c.within_unfinished

theorem Within.follow {s t : Beginnings} (hs : s.Within L) (ht : t.Within L)
    (happend : ∀ x y, L x → L y → L (x ++ y)) : (s.follow t).Within L := by
  intro all hall b hb
  unfold Beginnings.follow at hall
  obtain ⟨bs, hsome, hall⟩ := Option.bind_eq_some_iff.mp hall
  replace hs := hs bs hsome
  split at hall
  · cases hall
    exact hs b hb
  · split at hall
    · split at hall
      · cases hall
      · cases hall
        obtain ⟨c, -, rfl⟩ := List.mem_map.mp hb
        exact c.within_unfinished
    · next cs hcs =>
        cases hall
        have hjoined : ∀ c ∈ bs.flatMap fun b => if b.whole then cs.map b.append else [b],
            c.Within L := by
          intro c hc
          obtain ⟨d, hd, hc⟩ := List.mem_flatMap.mp hc
          split at hc
          · next hwhole =>
              obtain ⟨e, he, rfl⟩ := List.mem_map.mp hc
              intro hewhole
              obtain ⟨x, hx, hdx⟩ := hs d hd hwhole
              obtain ⟨y, hy, hey⟩ := ht cs (Option.eq_some_of_filter_eq_some hcs) e he hewhole
              refine ⟨x ++ y, happend x y hx hy, ?_⟩
              rw [Text.encode_append, ← hdx, ← hey]
              rfl
          · rw [List.mem_singleton.mp hc]
            exact hs d hd
        exact Beginning.within_map_cut (Beginning.within_merge hjoined) _ b hb

theorem Within.join {s t : Beginnings} (hs : s.Within L) (ht : t.Within L) :
    (s.join t).Within L := by
  intro all hall
  unfold Beginnings.join at hall
  obtain ⟨bs, hbs, hall⟩ := Option.bind_eq_some_iff.mp hall
  obtain ⟨cs, hcs, hall⟩ := Option.bind_eq_some_iff.mp hall
  replace hs := hs bs hbs
  replace ht := ht cs hcs
  have hboth : ∀ {bs cs : List Beginning}, (∀ b ∈ bs, b.Within L) → (∀ b ∈ cs, b.Within L) →
      ∀ b ∈ Beginning.merge (bs ++ cs), b.Within L := by
    intro bs cs hbs hcs
    refine Beginning.within_merge fun b hb => ?_
    rcases List.mem_append.mp hb with hb | hb
    · exact hbs b hb
    · exact hcs b hb
  split at hall
  · cases hall
    exact hboth hs ht
  · dsimp only at hall
    split at hall
    · cases hall
      exact hboth (Beginning.within_merge (Beginning.within_map_cut hs _))
        (Beginning.within_merge (Beginning.within_map_cut ht _))
    · cases hall

theorem Within.rounds {s : Beginnings} (hs : s.Within L) (hnil : L [])
    (happend : ∀ x y, L x → L y → L (x ++ y)) (n : Nat) : (s.rounds n).Within L := by
  have hfold : ∀ k (t : Beginnings), t.Within L →
      ((List.replicate k s).foldl Beginnings.follow t).Within L := by
    intro k
    induction k with
    | zero => exact fun t ht => ht
    | succ k ih => exact fun t ht => ih _ (ht.follow hs happend)
  unfold Beginnings.rounds
  dsimp only
  split
  · exact hfold _ _ (within_nothing hnil)
  · exact within_unfinished _

theorem Within.repeated {s : Beginnings} (hs : s.Within L) (hnil : L [])
    (happend : ∀ x y, L x → L y → L (x ++ y)) (least : Nat) (most : Option Nat) (greedy : Bool) :
    (s.repeated least most greedy).Within L := by
  unfold Beginnings.repeated
  split
  · have hround : (if most = some 1 then s else s.unfinished).Within L := by
      split
      · exact hs
      · exact within_unfinished s
    dsimp only
    split
    · exact hround.join (within_nothing hnil)
    · exact (within_nothing hnil).join hround
  · split
    · exact within_unfinished s
    · split
      · exact hs.rounds hnil happend least
      · exact within_unfinished _

/-- The list is one beginning, and if that is a whole match it is `t`. -/
def Spells (t : Text) (s : Beginnings) : Prop := ∃ b, s = some [b] ∧ b.Within (· = t)

theorem spells_nothing : nothing.Spells [] := ⟨.nothing, rfl, fun _ => ⟨[], rfl, rfl⟩⟩

theorem Spells.follow {s s' : Beginnings} {t t' : Text} (h : s.Spells t) (h' : s'.Spells t') :
    (s.follow s').Spells (t ++ t') := by
  obtain ⟨b, rfl, hb⟩ := h
  obtain ⟨b', rfl, hb'⟩ := h'
  cases hwhole : b.whole with
  | false =>
      refine ⟨b, ?_, fun htrue => absurd (hwhole.symm.trans htrue) Bool.false_ne_true⟩
      simp [Beginnings.follow, hwhole]
  | true =>
      refine ⟨(b.append b').cut mostBytes, ?_, ?_⟩
      · simp only [Beginnings.follow, Option.bind_some, List.all_cons, List.flatMap_singleton, hwhole]
        rfl
      · refine Beginning.Within.cut ?_ mostBytes
        intro hwhole'
        obtain ⟨x, rfl, hx⟩ := hb hwhole
        obtain ⟨y, rfl, hy⟩ := hb' hwhole'
        refine ⟨x ++ y, rfl, ?_⟩
        rw [Text.encode_append, ← hx, ← hy]
        rfl

end Beginnings

namespace Expression

/-- Every set that the expression reads a character by has the property `P`. -/
def AllSets (P : CharSet → Prop) : Expression → Prop
  | empty => True
  | char _ s => P s
  | look _ => True
  | capture _ e => e.AllSets P
  | seq e f => e.AllSets P ∧ f.AllSets P
  | alt e f => e.AllSets P ∧ f.AllSets P
  | repetition _ _ _ e => e.AllSets P

theorem within_beginningsWith {e : Expression}
    (hsets : e.AllSets fun s => (Beginnings.ofSet s).Within L) (hnil : L [])
    (happend : ∀ x y, L x → L y → L (x ++ y)) {s : Beginnings} (hs : s.Within L) (p : Placement) : (e.beginningsWith p s).Within L := by
  have hnothing := Beginnings.within_nothing hnil
  have hcombine : ∀ {s t : Beginnings}, s.Within L → t.Within L → ∀ p : Placement,
      (p.combine s t).Within L := by
    intro s t hs ht p
    cases p with
    | after => exact hs.follow ht happend
    | beside => exact hs.join ht
  induction e generalizing s p with
  | empty => exact hcombine hs hnothing p
  | char alphabet set => exact hcombine hs hsets p
  | look l => exact hcombine hs hnothing p
  | capture index e ih => exact hcombine hs (ih hsets hnothing .after) p
  | seq e f ihe ihf =>
      cases p with
      | after => exact ihf hsets.2 (ihe hsets.1 hs .after) .after
      | beside => exact hs.join (ihf hsets.2 (ihe hsets.1 hnothing .after) .after)
  | alt e f ihe ihf =>
      cases p with
      | after =>
          exact hs.follow (ihf hsets.2 (ihe hsets.1 Beginnings.within_never .beside) .beside) happend
      | beside => exact ihf hsets.2 (ihe hsets.1 hs .beside) .beside
  | repetition least most greedy e ih =>
      exact hcombine hs ((ih hsets hnothing .after).repeated hnil happend least most greedy) p

theorem within_beginnings {e : Expression}
    (hsets : e.AllSets fun s => (Beginnings.ofSet s).Within L) (hnil : L [])
    (happend : ∀ x y, L x → L y → L (x ++ y)) : e.beginnings.Within L :=
  within_beginningsWith hsets hnil happend (Beginnings.within_nothing hnil) .after

theorem texts?_eq_some {e : Expression} {texts : List Text} (h : e.texts? = some texts) :
    ∃ all, e.beginnings = some all ∧
      ∃ sought, sought = Beginning.sought all.length (Beginning.unshadowed all) ∧
        (∀ b ∈ sought, b.whole = true) ∧ texts = sought.map fun b => Text.decode b.bytes := by
  unfold texts? at h
  obtain ⟨_, -, h⟩ := Option.bind_eq_some_iff.mp h
  obtain ⟨all, hall, h⟩ := Option.bind_eq_some_iff.mp h
  obtain ⟨_, -, h⟩ := Option.bind_eq_some_iff.mp h
  obtain ⟨_, hwhole, h⟩ := Option.bind_eq_some_iff.mp h
  cases h
  refine ⟨all, hall, _, rfl, ?_, rfl⟩
  unfold guard at hwhole
  split at hwhole
  · next hguard => exact List.all_eq_true.mp (Bool.and_eq_true_iff.mp hguard).2
  · cases hwhole

/-- What is looked for in place of an expression was listed as a whole match of it. -/
theorem mem_of_texts? {e : Expression} {texts : List Text} (h : e.texts? = some texts)
    (hwithin : e.beginnings.Within L) : ∀ t ∈ texts, L t := by
  obtain ⟨all, hall, sought, rfl, hwhole, rfl⟩ := texts?_eq_some h
  intro t ht
  obtain ⟨b, hb, rfl⟩ := List.mem_map.mp ht
  have hsought := Beginning.within_sought (L := L)
    (fun c hc => hwithin all hall c (Beginning.mem_of_mem_unshadowed hc)) all.length b hb
  obtain ⟨u, hu, hbytes⟩ := hsought (hwhole b hb)
  rw [hbytes, Text.decode_encode]
  exact hu

theorem eq_of_texts? {e : Expression} {texts : List Text} {t : Text} (h : e.texts? = some texts)
    (hspells : e.beginnings.Spells t) : texts = [t] := by
  obtain ⟨all, hall, sought, rfl, hwhole, rfl⟩ := texts?_eq_some h
  obtain ⟨b, hb, hwithin⟩ := hspells
  obtain rfl := Option.some.inj (hall.symm.trans hb)
  have hunshadowed : Beginning.unshadowed [b] = [b] := rfl
  obtain ⟨c, hc, hsame⟩ := Beginning.sought_singleton [b].length b
  rw [hunshadowed, hc] at hwhole ⊢
  have hcwhole := hwhole c List.mem_cons_self
  obtain rfl := hsame hcwhole
  obtain ⟨u, rfl, hbytes⟩ := hwithin hcwhole
  rw [List.map_singleton, hbytes, Text.decode_encode]

end Expression

end RegexExplainer
