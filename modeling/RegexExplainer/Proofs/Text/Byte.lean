import RegexExplainer.Proofs.Text.Cut

/- The byte at an offset, where a character need not begin, and characters looked for from either
end of a text. -/
namespace RegexExplainer.Text

/-- The byte of the UTF-8 form at an offset. -/
def byteAt? (t : Text) (n : Nat) : Option UInt8 := (encode t)[n]?

/-- An offset behind the first byte of a character and before its end. -/
def IsInside (t : Text) (n : Nat) : Prop :=
  ∃ before c after, t = before ++ c :: after ∧ size before < n ∧ n < size before + c.utf8Size

theorem IsInside.not_isCut {t : Text} {n : Nat} (h : IsInside t n) : ¬ IsCut t n := by
  obtain ⟨before, c, after, rfl, hlow, hhigh⟩ := h
  rintro ⟨before', after', ht, rfl⟩
  rcases List.append_eq_append_iff.mp ht with ⟨x, rfl, hx⟩ | ⟨x, rfl, hx⟩
  · cases x with
    | nil => simp at hlow
    | cons d x =>
        obtain ⟨rfl, -⟩ := List.cons.inj hx
        simp only [size_append, size_cons] at hhigh
        omega
  · rw [size_append] at hlow
    omega

theorem IsCut.cons {t : Text} {n : Nat} (c : Char) (h : IsCut t n) :
    IsCut (c :: t) (c.utf8Size + n) := by
  obtain ⟨before, after, rfl, rfl⟩ := h
  exact ⟨c :: before, after, rfl, rfl⟩

theorem IsInside.cons {t : Text} {n : Nat} (c : Char) (h : IsInside t n) :
    IsInside (c :: t) (c.utf8Size + n) := by
  obtain ⟨before, d, after, rfl, hlow, hhigh⟩ := h
  refine ⟨c :: before, d, after, rfl, ?_, ?_⟩
  · rw [size_cons]
    omega
  · rw [size_cons]
    omega

/-- Where no cut is, the text is over or a character goes on. -/
theorem not_isCut_iff {t : Text} {n : Nat} : ¬ IsCut t n ↔ size t < n ∨ IsInside t n := by
  constructor
  · intro h
    induction t generalizing n with
    | nil =>
        left
        apply Nat.pos_of_ne_zero
        rintro rfl
        exact h (isCut_zero [])
    | cons c t ih =>
        by_cases hlt : n < c.utf8Size
        · right
          refine ⟨[], c, t, rfl, ?_, by simpa using hlt⟩
          apply Nat.pos_of_ne_zero
          rintro rfl
          exact h (isCut_zero _)
        · obtain ⟨m, rfl⟩ := Nat.exists_eq_add_of_le (Nat.le_of_not_lt hlt)
          rcases ih fun hcut => h (hcut.cons c) with hbeyond | hinside
          · left
            rw [size_cons]
            omega
          · exact .inr (hinside.cons c)
  · rintro (hbeyond | hinside) hcut
    · exact absurd hcut.le_size (Nat.not_le.mpr hbeyond)
    · exact hinside.not_isCut hcut

theorem byteAt?_of_size_le {t : Text} {n : Nat} (h : size t ≤ n) : byteAt? t n = none := by
  rw [byteAt?, List.getElem?_eq_none_iff, length_encode]
  exact h

/-- A byte inside of a character is none of ASCII. -/
theorem IsInside.not_ascii {t : Text} {n : Nat} (h : IsInside t n) {b : UInt8}
    (hb : byteAt? t n = some b) : ¬ b < 0x80 := by
  obtain ⟨before, c, after, rfl, hlow, hhigh⟩ := h
  intro hascii
  have hlen : (String.utf8EncodeChar c).length = c.utf8Size := String.length_utf8EncodeChar c
  rw [byteAt?, encode_append, encode_cons,
    List.getElem?_append_right (by rw [length_encode]; omega), length_encode,
    List.getElem?_append_left (by omega)] at hb
  have hone := (eq_singleton_of_mem_utf8EncodeChar (List.mem_of_getElem? hb) hascii).1
  rw [hone, List.length_singleton] at hlen
  omega

/-- A byte of ASCII stands exactly where its character begins. -/
theorem byteAt?_eq_some_iff {t : Text} {c : Char} (hc : c.toNat < 0x80) {n : Nat} :
    byteAt? t n = some (UInt8.ofNat c.toNat) ↔
      ∃ before rest, t = before ++ c :: rest ∧ n = size before := by
  constructor
  · intro h
    have hcut : IsCut t n := by
      by_contra hnot
      rcases not_isCut_iff.mp hnot with hbeyond | hinside
      · rw [byteAt?_of_size_le (Nat.le_of_lt hbeyond)] at h
        cases h
      · refine hinside.not_ascii h (UInt8.lt_iff_toNat_lt.mpr ?_)
        rw [UInt8.toNat_ofNat', Nat.mod_eq_of_lt (by omega)]
        exact hc
    obtain ⟨before, rest, rfl, rfl⟩ := hcut
    cases rest with
    | nil =>
        rw [byteAt?_of_size_le (by simp)] at h
        cases h
    | cons d rest =>
        obtain ⟨b, hb, hchar⟩ := exists_getElem?_encode before d rest
        obtain rfl := (hchar c hc).mp (Option.some.inj (hb.symm.trans h))
        exact ⟨before, rest, rfl, rfl⟩
  · rintro ⟨before, rest, rfl, rfl⟩
    obtain ⟨b, hb, hchar⟩ := exists_getElem?_encode before c rest
    rw [byteAt?, hb, (hchar c hc).mpr rfl]

/-- Where a character stands first. -/
def find? (c : Char) : Text → Option Nat
  | [] => none
  | d :: t => if d = c then some 0 else (find? c t).map (d.utf8Size + ·)

/-- Where a character stands last. -/
def rfind? (c : Char) : Text → Option Nat
  | [] => none
  | d :: t =>
    match rfind? c t with
    | some n => some (d.utf8Size + n)
    | none => if d = c then some 0 else none

theorem find?_of_notMem {c : Char} {t : Text} (h : c ∉ t) : find? c t = none := by
  induction t with
  | nil => rfl
  | cons d t ih =>
      rw [List.mem_cons, not_or] at h
      rw [find?, if_neg (Ne.symm h.1), ih h.2]
      rfl

theorem find?_append {c : Char} {s : Text} (h : c ∉ s) (t : Text) :
    find? c (s ++ c :: t) = some (size s) := by
  induction s with
  | nil => rw [List.nil_append, find?, if_pos rfl, size_nil]
  | cons d s ih =>
      rw [List.mem_cons, not_or] at h
      rw [List.cons_append, find?, if_neg (Ne.symm h.1), ih h.2]
      rfl

theorem rfind?_of_notMem {c : Char} {t : Text} (h : c ∉ t) : rfind? c t = none := by
  induction t with
  | nil => rfl
  | cons d t ih =>
      rw [List.mem_cons, not_or] at h
      rw [rfind?, ih h.2]
      exact if_neg (Ne.symm h.1)

theorem rfind?_append {c : Char} (s : Text) {t : Text} (h : c ∉ t) :
    rfind? c (s ++ c :: t) = some (size s) := by
  induction s with
  | nil =>
      rw [List.nil_append, rfind?, rfind?_of_notMem h]
      exact if_pos rfl
  | cons d s ih =>
      rw [List.cons_append, rfind?, ih]
      rfl

end RegexExplainer.Text
