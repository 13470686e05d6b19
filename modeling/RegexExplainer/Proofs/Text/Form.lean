import Mathlib.Data.List.Basic
import RegexExplainer.Text.Basic

/- The UTF-8 forms of characters, by their bytes. A first byte tells which bytes complete a form, so
that no form begins another. -/
namespace RegexExplainer.Text

/-- A byte that can only stand behind the first one of a form. -/
def Continues (b : UInt8) : Prop := 0x80 ≤ b.toNat ∧ b.toNat ≤ 0xBF

/-- A byte behind the first one adds a digit to the base 64. -/
def addDigit (value : Nat) (b : UInt8) : Nat := value * 64 + (b.toNat - 0x80)

/-- The UTF-8 forms, with the numbers of their characters. -/
inductive Form : Nat → List UInt8 → Prop
  | one {a : UInt8} : a.toNat < 0x80 → Form a.toNat [a]
  | two {a b : UInt8} : 0xC2 ≤ a.toNat → a.toNat ≤ 0xDF → Continues b →
      Form (addDigit (a.toNat - 0xC0) b) [a, b]
  | three {a b c : UInt8} : 0xE0 ≤ a.toNat → a.toNat ≤ 0xEF → Continues b → Continues c →
      (a.toNat = 0xE0 → 0xA0 ≤ b.toNat) → (a.toNat = 0xED → b.toNat ≤ 0x9F) →
      Form (addDigit (addDigit (a.toNat - 0xE0) b) c) [a, b, c]
  | four {a b c d : UInt8} : 0xF0 ≤ a.toNat → a.toNat ≤ 0xF4 → Continues b → Continues c →
      Continues d → (a.toNat = 0xF0 → 0x90 ≤ b.toNat) → (a.toNat = 0xF4 → b.toNat ≤ 0x8F) →
      Form (addDigit (addDigit (addDigit (a.toNat - 0xF0) b) c) d) [a, b, c, d]

theorem toNat_ofNat_of_lt {n : Nat} (h : n < 256) : (UInt8.ofNat n).toNat = n := by
  rw [UInt8.toNat_ofNat', Nat.mod_eq_of_lt h]

theorem form_utf8EncodeChar (c : Char) : Form c.toNat (String.utf8EncodeChar c) := by
  have hvalid : c.val.toNat < 0xD800 ∨ (0xDFFF < c.val.toNat ∧ c.val.toNat < 0x110000) := c.valid
  change Form c.val.toNat _
  simp only [String.utf8EncodeChar]
  generalize c.val.toNat = v at hvalid
  have lead {n m : Nat} (hn : n + m < 256) : ∃ a : UInt8, a = UInt8.ofNat (n + m) ∧ a.toNat = n + m :=
    ⟨_, rfl, toNat_ofNat_of_lt hn⟩
  have tail (n : Nat) : ∃ b : UInt8, b = UInt8.ofNat (n % 64 + 0x80) ∧ b.toNat = n % 64 + 0x80 :=
    lead (by omega)
  have continues {n : Nat} {b : UInt8} (hb : b.toNat = n % 64 + 0x80) : Continues b :=
    ⟨by omega, by omega⟩
  split_ifs with hone htwo hthree
  · have ha : (UInt8.ofNat v).toNat = v := toNat_ofNat_of_lt (by omega)
    have hform := Form.one (show (UInt8.ofNat v).toNat < 0x80 by omega)
    rwa [ha] at hform
  · obtain ⟨a, ha, han⟩ := lead (show v / 64 % 0x20 + 0xC0 < 256 by omega)
    obtain ⟨b, hb, hbn⟩ := tail v
    have hvalue : addDigit (a.toNat - 0xC0) b = v := by
      unfold addDigit
      omega
    rw [← ha, ← hb, ← hvalue]
    exact .two (by omega) (by omega) (continues hbn)
  · obtain ⟨a, ha, han⟩ := lead (show v / 4096 % 0x10 + 0xE0 < 256 by omega)
    obtain ⟨b, hb, hbn⟩ := tail (v / 64)
    obtain ⟨c, hc, hcn⟩ := tail v
    have hvalue : addDigit (addDigit (a.toNat - 0xE0) b) c = v := by
      unfold addDigit
      omega
    rw [← ha, ← hb, ← hc, ← hvalue]
    exact .three (by omega) (by omega) (continues hbn) (continues hcn) (by omega) (by omega)
  · obtain ⟨a, ha, han⟩ := lead (show v / 262144 % 0x08 + 0xF0 < 256 by omega)
    obtain ⟨b, hb, hbn⟩ := tail (v / 4096)
    obtain ⟨c, hc, hcn⟩ := tail (v / 64)
    obtain ⟨d, hd, hdn⟩ := tail v
    have hvalue : addDigit (addDigit (addDigit (a.toNat - 0xF0) b) c) d = v := by
      unfold addDigit
      omega
    rw [← ha, ← hb, ← hc, ← hd, ← hvalue]
    exact .four (by omega) (by omega) (continues hbn) (continues hcn) (continues hdn) (by omega)
      (by omega)

theorem Form.ne_nil {n : Nat} {bytes : List UInt8} (h : Form n bytes) : bytes ≠ [] := by
  cases h
  all_goals exact List.cons_ne_nil _ _

theorem Form.isValidChar {n : Nat} {bytes : List UInt8} (h : Form n bytes) : n.isValidChar := by
  cases h with
  | one => exact .inl (by omega)
  | two _ _ hb =>
      unfold Continues at hb
      unfold addDigit
      exact .inl (by omega)
  | @three a b c _ _ hb hc hleast hmost =>
      unfold Continues at hb hc
      unfold addDigit
      by_cases hlow : a.toNat ≤ 0xED
      · exact .inl (by omega)
      · exact .inr (by omega)
  | four _ _ hb hc hd =>
      unfold Continues at hb hc hd
      unfold addDigit
      exact .inr (by omega)

/-- Every form is that of a character. -/
theorem Form.exists_char {n : Nat} {bytes : List UInt8} (h : Form n bytes) :
    ∃ c : Char, c.toNat = n ∧ String.utf8EncodeChar c = bytes := by
  obtain ⟨c, hchar⟩ : ∃ c : Char, c.val.toNat = n := ⟨Char.ofNatAux n h.isValidChar, rfl⟩
  refine ⟨c, hchar, ?_⟩
  have byte {m : Nat} {b : UInt8} (hm : m = b.toNat) : UInt8.ofNat m = b := by
    rw [hm, UInt8.ofNat_toNat]
  simp only [String.utf8EncodeChar, hchar]
  cases h with
  | one => rw [if_pos (by omega), byte rfl]
  | two _ _ hb =>
      unfold Continues at hb
      unfold addDigit
      rw [if_neg (by omega), if_pos (by omega)]
      simp only [List.cons.injEq, and_true]
      exact ⟨byte (by omega), byte (by omega)⟩
  | three _ _ hb hc =>
      unfold Continues at hb hc
      unfold addDigit
      rw [if_neg (by omega), if_neg (by omega), if_pos (by omega)]
      simp only [List.cons.injEq, and_true]
      exact ⟨byte (by omega), byte (by omega), byte (by omega)⟩
  | four _ _ hb hc hd =>
      unfold Continues at hb hc hd
      unfold addDigit
      rw [if_neg (by omega), if_neg (by omega), if_neg (by omega)]
      simp only [List.cons.injEq, and_true]
      exact ⟨byte (by omega), byte (by omega), byte (by omega), byte (by omega)⟩

/-- Only the first byte of a form does not continue one. -/
theorem Form.continues {n : Nat} {b : UInt8} {rest : List UInt8} (h : Form n (b :: rest)) :
    ¬ Continues b ∧ ∀ x ∈ rest, Continues x := by
  cases h with
  | one hlow => exact ⟨fun hb => absurd hb.1 (by omega), nofun⟩
  | two hlow _ hb => exact ⟨fun ha => absurd ha.2 (by omega), List.forall_mem_singleton.mpr hb⟩
  | three hlow _ hb hc =>
      refine ⟨fun ha => absurd ha.2 (by omega), ?_⟩
      rw [List.forall_mem_cons, List.forall_mem_singleton]
      exact ⟨hb, hc⟩
  | four hlow _ hb hc hd =>
      refine ⟨fun ha => absurd ha.2 (by omega), ?_⟩
      rw [List.forall_mem_cons, List.forall_mem_cons, List.forall_mem_singleton]
      exact ⟨hb, hc, hd⟩

/-- What a first byte promises, by the length of the form. -/
theorem lead?_eq_some_iff {b : Nat} {p : Partial} :
    lead? b = some p ↔
      0xC2 ≤ b ∧ b ≤ 0xDF ∧ p = ⟨b - 0xC0, 1, 0x80, 0xBF⟩ ∨
      0xE0 ≤ b ∧ b ≤ 0xEF ∧
        p = ⟨b - 0xE0, 2, if b = 0xE0 then 0xA0 else 0x80, if b = 0xED then 0x9F else 0xBF⟩ ∨
      0xF0 ≤ b ∧ b ≤ 0xF4 ∧
        p = ⟨b - 0xF0, 3, if b = 0xF0 then 0x90 else 0x80, if b = 0xF4 then 0x8F else 0xBF⟩ := by
  unfold lead?
  constructor
  · intro h
    split_ifs at h with htwo hoverlong hsurrogate hthree hfirst hfour hlast
    all_goals obtain rfl := Option.some.inj h
    · exact .inl ⟨htwo.1, htwo.2, rfl⟩
    · subst hoverlong
      exact .inr (.inl ⟨by omega, by omega, rfl⟩)
    · subst hsurrogate
      exact .inr (.inl ⟨by omega, by omega, rfl⟩)
    · rw [if_neg hoverlong, if_neg hsurrogate]
      exact .inr (.inl ⟨by omega, hthree.2, rfl⟩)
    · subst hfirst
      exact .inr (.inr ⟨by omega, by omega, rfl⟩)
    · rw [if_neg hfirst, if_neg (show b ≠ 0xF4 by omega)]
      exact .inr (.inr ⟨by omega, by omega, rfl⟩)
    · subst hlast
      exact .inr (.inr ⟨by omega, by omega, rfl⟩)
  · rintro (⟨hlow, hhigh, rfl⟩ | ⟨hlow, hhigh, rfl⟩ | ⟨hlow, hhigh, rfl⟩)
    · rw [if_pos ⟨hlow, hhigh⟩]
    · rw [if_neg (by omega)]
      by_cases hoverlong : b = 0xE0
      · subst hoverlong
        rfl
      · by_cases hsurrogate : b = 0xED
        · subst hsurrogate
          rfl
        · rw [if_neg hoverlong, if_neg hsurrogate, if_pos (by omega), if_neg hoverlong,
            if_neg hsurrogate]
    · rw [if_neg (by omega), if_neg (by omega), if_neg (by omega), if_neg (by omega)]
      by_cases hfirst : b = 0xF0
      · subst hfirst
        rfl
      · by_cases hlast : b = 0xF4
        · subst hlast
          rfl
        · rw [if_neg hfirst, if_pos (by omega), if_neg hfirst, if_neg hlast]

/-- Bytes that complete a pending character. -/
structure Completes (p : Partial) (rest : List UInt8) : Prop where
  length : rest.length = p.missing
  continues : ∀ b ∈ rest, Continues b
  within : ∀ b, rest.head? = some b → p.least ≤ b.toNat ∧ b.toNat ≤ p.most

/-- A first byte and what completes it make up a form, and there is no other form that begins so. -/
theorem form_cons_iff {b : UInt8} {p : Partial} (h : lead? b.toNat = some p) {n : Nat}
    {rest : List UInt8} :
    Form n (b :: rest) ↔ Completes p rest ∧ n = rest.foldl addDigit p.value := by
  constructor
  · intro hform
    cases hform with
    | one hlow =>
        rcases lead?_eq_some_iff.mp h with h | h | h
        all_goals omega
    | @two _ x hlow hhigh hx =>
        obtain rfl := Option.some.inj
          (h.symm.trans (lead?_eq_some_iff.mpr (.inl ⟨hlow, hhigh, rfl⟩)))
        refine ⟨⟨rfl, List.forall_mem_singleton.mpr hx, ?_⟩, rfl⟩
        rintro y hy
        obtain rfl := Option.some.inj hy
        exact hx
    | @three _ x y hlow hhigh hx hy hleast hmost =>
        obtain rfl := Option.some.inj
          (h.symm.trans (lead?_eq_some_iff.mpr (.inr (.inl ⟨hlow, hhigh, rfl⟩))))
        refine ⟨⟨rfl, ?_, ?_⟩, rfl⟩
        · rw [List.forall_mem_cons, List.forall_mem_singleton]
          exact ⟨hx, hy⟩
        · rintro z hz
          obtain rfl := Option.some.inj hz
          unfold Continues at hx
          dsimp only
          split_ifs
          all_goals omega
    | @four _ x y z hlow hhigh hx hy hz hleast hmost =>
        obtain rfl := Option.some.inj
          (h.symm.trans (lead?_eq_some_iff.mpr (.inr (.inr ⟨hlow, hhigh, rfl⟩))))
        refine ⟨⟨rfl, ?_, ?_⟩, rfl⟩
        · rw [List.forall_mem_cons, List.forall_mem_cons, List.forall_mem_singleton]
          exact ⟨hx, hy, hz⟩
        · rintro w hw
          obtain rfl := Option.some.inj hw
          unfold Continues at hx
          dsimp only
          split_ifs
          all_goals omega
  · rintro ⟨⟨hlen, hcont, hwithin⟩, rfl⟩
    rcases lead?_eq_some_iff.mp h with ⟨hlow, hhigh, rfl⟩ | ⟨hlow, hhigh, rfl⟩ | ⟨hlow, hhigh, rfl⟩
    · obtain ⟨x, rfl⟩ := List.length_eq_one_iff.mp hlen
      exact .two hlow hhigh (hcont x (by simp))
    · obtain ⟨x, y, rfl⟩ := List.length_eq_two.mp hlen
      have hx := hwithin x rfl
      refine .three hlow hhigh (hcont x (by simp)) (hcont y (by simp)) ?_ ?_
      · intro hoverlong
        rw [if_pos hoverlong] at hx
        exact hx.1
      · intro hsurrogate
        rw [if_pos hsurrogate] at hx
        exact hx.2
    · obtain ⟨x, y, z, rfl⟩ := List.length_eq_three.mp hlen
      have hx := hwithin x rfl
      refine .four hlow hhigh (hcont x (by simp)) (hcont y (by simp)) (hcont z (by simp)) ?_ ?_
      · intro hoverlong
        rw [if_pos hoverlong] at hx
        exact hx.1
      · intro hlast
        rw [if_pos hlast] at hx
        exact hx.2

/-- A first byte is a character of ASCII or promises more. -/
theorem Form.first {n : Nat} {b : UInt8} {rest : List UInt8} (h : Form n (b :: rest)) :
    b.toNat < 0x80 ∧ rest = [] ∧ lead? b.toNat = none ∨ ∃ p, lead? b.toNat = some p := by
  cases h with
  | one hlow =>
      refine .inl ⟨hlow, rfl, Option.eq_none_iff_forall_ne_some.mpr ?_⟩
      intro p hp
      rcases lead?_eq_some_iff.mp hp with h | h | h
      all_goals omega
  | two hlow hhigh => exact .inr ⟨_, lead?_eq_some_iff.mpr (.inl ⟨hlow, hhigh, rfl⟩)⟩
  | three hlow hhigh => exact .inr ⟨_, lead?_eq_some_iff.mpr (.inr (.inl ⟨hlow, hhigh, rfl⟩))⟩
  | four hlow hhigh => exact .inr ⟨_, lead?_eq_some_iff.mpr (.inr (.inr ⟨hlow, hhigh, rfl⟩))⟩

/-- A first byte tells the length of the form. -/
theorem Form.length_rest {n : Nat} {b : UInt8} {rest : List UInt8} (h : Form n (b :: rest)) :
    rest.length = ((lead? b.toNat).map (·.missing)).getD 0 := by
  rcases h.first with ⟨-, rfl, hnone⟩ | ⟨p, hp⟩
  · rw [hnone]
    rfl
  · rw [hp]
    exact ((form_cons_iff hp).mp h).1.length

theorem Form.unique {n m : Nat} {bytes : List UInt8} (h : Form n bytes) (h' : Form m bytes) :
    n = m := by
  cases h
  all_goals
    cases h'
    rfl

/-- No form is the beginning of another. -/
theorem Form.append_inj {n m : Nat} {bytes bytes' rest rest' : List UInt8} (h : Form n bytes)
    (h' : Form m bytes') (heq : bytes ++ rest = bytes' ++ rest') : n = m ∧ rest = rest' := by
  obtain ⟨b, more, rfl⟩ := List.exists_cons_of_ne_nil h.ne_nil
  obtain ⟨b', more', rfl⟩ := List.exists_cons_of_ne_nil h'.ne_nil
  obtain ⟨rfl, hmore⟩ := List.cons.inj heq
  obtain ⟨rfl, rfl⟩ := List.append_inj hmore (h.length_rest.trans h'.length_rest.symm)
  exact ⟨h.unique h', rfl⟩

theorem utf8EncodeChar_append_inj {c c' : Char} {bytes bytes' : List UInt8}
    (h : String.utf8EncodeChar c ++ bytes = String.utf8EncodeChar c' ++ bytes') :
    c = c' ∧ bytes = bytes' := by
  obtain ⟨hchar, hbytes⟩ := (form_utf8EncodeChar c).append_inj (form_utf8EncodeChar c') h
  exact ⟨Char.toNat_inj.mp hchar, hbytes⟩

/-- Bytes with which the form of a character begins. -/
def BeginsForm (part : List UInt8) : Prop := ∃ c rest, String.utf8EncodeChar c = part ++ rest

theorem BeginsForm.of_append {part more : List UInt8} (h : BeginsForm (part ++ more)) :
    BeginsForm part := by
  obtain ⟨c, rest, hc⟩ := h
  exact ⟨c, more ++ rest, by rw [hc, List.append_assoc]⟩

theorem beginsForm_iff {part : List UInt8} : BeginsForm part ↔ ∃ n rest, Form n (part ++ rest) := by
  constructor
  · rintro ⟨c, rest, hc⟩
    exact ⟨c.toNat, rest, hc ▸ form_utf8EncodeChar c⟩
  · rintro ⟨n, rest, hform⟩
    obtain ⟨c, -, hc⟩ := hform.exists_char
    exact ⟨c, rest, hc⟩

end RegexExplainer.Text
