import RegexExplainer.Proofs.Text.Form

/- Byte offsets between the characters of a text, and the bytes that stand there. -/
namespace RegexExplainer.Text

theorem splitAt?_eq_some_iff {t before after : Text} {n : Nat} :
    splitAt? t n = some (before, after) ↔ t = before ++ after ∧ n = size before := by
  constructor
  · exact splitAt?_eq_some
  · rintro ⟨rfl, rfl⟩
    exact splitAt?_size before after

/-- A text has at most one beginning of a given size. -/
theorem append_inj_of_size {s s' t t' : Text} (h : s ++ t = s' ++ t') (hs : size s = size s') :
    s = s' ∧ t = t' := by
  have hcut := splitAt?_size s t
  rw [h, hs, splitAt?_size] at hcut
  simpa [eq_comm] using hcut

theorem from?_eq_some_iff {t rest : Text} {n : Nat} :
    from? t n = some rest ↔ ∃ before, t = before ++ rest ∧ n = size before := by
  simp only [from?, Option.map_eq_some_iff, Prod.exists, splitAt?_eq_some_iff]
  constructor
  · rintro ⟨before, after, h, rfl⟩
    exact ⟨before, h⟩
  · rintro ⟨before, h⟩
    exact ⟨before, rest, h, rfl⟩

@[simp] theorem from?_append (before rest : Text) :
    from? (before ++ rest) (size before) = some rest :=
  from?_eq_some_iff.mpr ⟨before, rfl, rfl⟩

theorem slice?_eq_some_iff {t s : Text} {start stop : Nat} :
    slice? t start stop = some s ↔
      ∃ before after, t = before ++ (s ++ after) ∧ start = size before ∧ stop = start + size s := by
  simp only [slice?, Option.ite_none_right_eq_some, Option.bind_eq_some_iff, from?_eq_some_iff,
    Option.map_eq_some_iff, Prod.exists, splitAt?_eq_some_iff]
  constructor
  · rintro ⟨hle, rest, ⟨before, rfl, rfl⟩, s', after, ⟨rfl, hs⟩, rfl⟩
    exact ⟨before, after, rfl, rfl, by omega⟩
  · rintro ⟨before, after, rfl, rfl, rfl⟩
    exact ⟨by omega, s ++ after, ⟨before, rfl, rfl⟩, s, after, ⟨rfl, by omega⟩, rfl⟩

theorem slice?_append (before s after : Text) :
    slice? (before ++ (s ++ after)) (size before) (size before + size s) = some s :=
  slice?_eq_some_iff.mpr ⟨before, after, rfl, rfl, rfl⟩

/-- A slice of what comes after a beginning. -/
theorem slice?_after_eq_some_iff {t before rest s : Text} {stop : Nat} (ht : t = before ++ rest) :
    slice? t (size before) stop = some s ↔
      ∃ after, rest = s ++ after ∧ stop = size before + size s := by
  subst ht
  rw [slice?_eq_some_iff]
  constructor
  · rintro ⟨before', after, ht, hstart, hstop⟩
    obtain ⟨-, hrest⟩ := append_inj_of_size ht hstart
    exact ⟨after, hrest, hstop⟩
  · rintro ⟨after, rfl, hstop⟩
    exact ⟨before, after, rfl, rfl, hstop⟩

/-- A slice is cut anywhere between its characters. -/
theorem slice?_append_iff {t u v : Text} {start stop : Nat} :
    slice? t start stop = some (u ++ v) ↔
      ∃ middle, slice? t start middle = some u ∧ slice? t middle stop = some v := by
  constructor
  · intro h
    obtain ⟨before, after, rfl, rfl, rfl⟩ := slice?_eq_some_iff.mp h
    refine ⟨size before + size u, ?_, ?_⟩
    · exact slice?_eq_some_iff.mpr ⟨before, v ++ after, by simp, rfl, rfl⟩
    · refine slice?_eq_some_iff.mpr ⟨before ++ u, after, by simp, (size_append _ _).symm, ?_⟩
      rw [size_append, Nat.add_assoc]
  · rintro ⟨middle, hu, hv⟩
    obtain ⟨before, rest, rfl, rfl, rfl⟩ := slice?_eq_some_iff.mp hu
    have hrest : before ++ (u ++ rest) = (before ++ u) ++ rest := (List.append_assoc _ _ _).symm
    rw [hrest, ← size_append, slice?_after_eq_some_iff rfl] at hv
    obtain ⟨after, rfl, rfl⟩ := hv
    refine slice?_eq_some_iff.mpr ⟨before, after, by simp, rfl, ?_⟩
    rw [size_append, size_append, Nat.add_assoc]

theorem slice?_cons_iff {t v : Text} {c : Char} {start stop : Nat} :
    slice? t start stop = some (c :: v) ↔
      ∃ middle, slice? t start middle = some [c] ∧ slice? t middle stop = some v :=
  @slice?_append_iff t [c] v start stop

/-- An offset at the start or end of a text or between two of its characters. -/
def IsCut (t : Text) (n : Nat) : Prop := ∃ before after, t = before ++ after ∧ n = size before

theorem isCut_iff {t : Text} {n : Nat} : IsCut t n ↔ (splitAt? t n).isSome = true := by
  simp only [IsCut, Option.isSome_iff_exists, Prod.exists, splitAt?_eq_some_iff]

instance (t : Text) (n : Nat) : Decidable (IsCut t n) := decidable_of_iff _ isCut_iff.symm

theorem isCut_zero (t : Text) : IsCut t 0 := ⟨[], t, rfl, rfl⟩

theorem isCut_size (t : Text) : IsCut t (size t) := ⟨t, [], (List.append_nil t).symm, rfl⟩

theorem IsCut.le_size {t : Text} {n : Nat} (h : IsCut t n) : n ≤ size t := by
  obtain ⟨before, after, rfl, rfl⟩ := h
  rw [size_append]
  exact Nat.le_add_right _ _

/-- A slice ends between characters. -/
theorem isCut_of_slice? {t s : Text} {start stop : Nat} (h : slice? t start stop = some s) :
    IsCut t stop := by
  obtain ⟨before, after, rfl, rfl, rfl⟩ := slice?_eq_some_iff.mp h
  exact ⟨before ++ s, after, (List.append_assoc _ _ _).symm, (size_append _ _).symm⟩

theorem size_pos {t : Text} (h : t ≠ []) : 0 < size t := by
  cases t with
  | nil => exact absurd rfl h
  | cons c t =>
      have := c.utf8Size_pos
      rw [size_cons]
      omega

/-- Between two cuts there is a text. -/
theorem IsCut.exists_slice? {t : Text} {start stop : Nat} (h : IsCut t start) (h' : IsCut t stop)
    (hle : start ≤ stop) : ∃ s, slice? t start stop = some s ∧ stop = start + size s := by
  obtain ⟨before, after, rfl, rfl⟩ := h
  obtain ⟨before', after', ht, rfl⟩ := h'
  rcases List.append_eq_append_iff.mp ht with ⟨s, rfl, rfl⟩ | ⟨s, rfl, rfl⟩
  · exact ⟨s, (slice?_after_eq_some_iff rfl).mpr ⟨after', rfl, size_append _ _⟩, size_append _ _⟩
  · have hs : s = [] := by
      by_contra hne
      have := size_pos hne
      rw [size_append] at hle
      omega
    subst hs
    exact ⟨[], (slice?_after_eq_some_iff rfl).mpr ⟨after, rfl, by simp⟩, by simp⟩

@[simp] theorem encode_nil : encode [] = [] := rfl

@[simp] theorem encode_cons (c : Char) (t : Text) :
    encode (c :: t) = String.utf8EncodeChar c ++ encode t := rfl

@[simp] theorem encode_append (s t : Text) : encode (s ++ t) = encode s ++ encode t :=
  List.flatMap_append

@[simp] theorem length_encode (t : Text) : (encode t).length = size t := by
  induction t with
  | nil => rfl
  | cons c t ih => rw [encode_cons, List.length_append, String.length_utf8EncodeChar, ih, size_cons]

/-- A byte of ASCII is the whole of a character. -/
theorem eq_singleton_of_mem_utf8EncodeChar {c : Char} {b : UInt8}
    (h : b ∈ String.utf8EncodeChar c) (hb : b < 0x80) :
    String.utf8EncodeChar c = [b] ∧ c.toNat = b.toNat := by
  have hlow : b.toNat < 0x80 := UInt8.lt_iff_toNat_lt.mp hb
  have hform := form_utf8EncodeChar c
  generalize String.utf8EncodeChar c = bytes at h hform
  obtain ⟨x, rest, rfl⟩ := List.exists_cons_of_ne_nil hform.ne_nil
  rcases List.mem_cons.mp h with rfl | hrest
  · rcases hform.first with ⟨-, rfl, -⟩ | ⟨p, hp⟩
    · exact ⟨rfl, hform.unique (.one hlow)⟩
    · rcases lead?_eq_some_iff.mp hp with hlead | hlead | hlead
      all_goals omega
  · exact absurd (hform.continues.2 b hrest).1 (Nat.not_le.mpr hlow)

/-- The byte where a character begins tells which character of ASCII it is. -/
theorem exists_getElem?_encode (before : Text) (c : Char) (rest : Text) :
    ∃ b, (encode (before ++ c :: rest))[size before]? = some b ∧
      ∀ d : Char, d.toNat < 0x80 → (b = UInt8.ofNat d.toNat ↔ c = d) := by
  obtain ⟨b, bytes, hc⟩ := List.exists_cons_of_ne_nil (String.utf8EncodeChar_ne_nil (c := c))
  refine ⟨b, ?_, ?_⟩
  · rw [encode_append, encode_cons, List.getElem?_append_right (Nat.le_of_eq (length_encode before)),
      length_encode, Nat.sub_self, hc]
    rfl
  · intro d hd
    have hbyte : (UInt8.ofNat d.toNat).toNat = d.toNat := by
      rw [UInt8.toNat_ofNat', Nat.mod_eq_of_lt (by omega)]
    constructor
    · rintro rfl
      have hlt : UInt8.ofNat d.toNat < 0x80 :=
        UInt8.lt_iff_toNat_lt.mpr (hbyte.symm ▸ hd)
      have hn := (eq_singleton_of_mem_utf8EncodeChar (hc ▸ List.mem_cons_self) hlt).2
      exact Char.toNat_inj.mp (hn.trans hbyte)
    · rintro rfl
      have hle : c.val.toNat ≤ 0x7F := by
        have : c.val.toNat = c.toNat := rfl
        omega
      simp only [String.utf8EncodeChar, if_pos hle] at hc
      exact (List.cons.inj hc).1.symm

end RegexExplainer.Text
