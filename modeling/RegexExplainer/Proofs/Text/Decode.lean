import RegexExplainer.Proofs.Text.Cut

/- Reading leniently as a relation between bytes and text: characters are read from their UTF-8 forms,
and each invalid part that cannot be made longer becomes one replacement. The bytes settle how they
are read, and valid text at either end is read as it is. -/
namespace RegexExplainer.Text

/-- An invalid part before the rest of the bytes: a character that was begun and does not go on, or
else one byte that begins none. -/
structure InvalidPart (part rest : List UInt8) : Prop where
  ne_nil : part ≠ []
  begins : BeginsForm part ∨ ∃ b, part = [b]
  unfinished : ∀ c, String.utf8EncodeChar c ≠ part
  ends : ∀ b, rest.head? = some b → ¬ BeginsForm (part ++ [b])

/-- Text as which bytes are read. -/
inductive ReadAs : List UInt8 → Text → Prop
  | nil : ReadAs [] []
  | char (c : Char) {bytes : List UInt8} {t : Text} : ReadAs bytes t →
      ReadAs (String.utf8EncodeChar c ++ bytes) (c :: t)
  | invalid {part bytes : List UInt8} {t : Text} : InvalidPart part bytes → ReadAs bytes t →
      ReadAs (part ++ bytes) (replacement :: t)

/-- An invalid part does not begin as a character does. -/
theorem InvalidPart.ne_char {part rest : List UInt8} (h : InvalidPart part rest) (c : Char)
    (bytes : List UInt8) : part ++ rest ≠ String.utf8EncodeChar c ++ bytes := by
  intro heq
  rcases List.append_eq_append_iff.mp heq with ⟨more, hc, hrest⟩ | ⟨more, rfl, -⟩
  · cases more with
    | nil => exact h.unfinished c (by rw [hc, List.append_nil])
    | cons b more =>
        refine h.ends b (by rw [hrest]; rfl) ⟨c, more, ?_⟩
        rw [hc, List.append_assoc]
        rfl
  · rcases h.begins with ⟨d, more', hd⟩ | ⟨b, hb⟩
    · have heq : String.utf8EncodeChar d ++ [] = String.utf8EncodeChar c ++ (more ++ more') := by
        rw [hd, List.append_nil, List.append_assoc]
      obtain ⟨rfl, hnil⟩ := utf8EncodeChar_append_inj heq
      obtain ⟨rfl, -⟩ := List.append_eq_nil_iff.mp hnil.symm
      exact h.unfinished d (List.append_nil _).symm
    · obtain ⟨x, xs, hx⟩ := List.exists_cons_of_ne_nil (String.utf8EncodeChar_ne_nil (c := c))
      rw [hx] at hb
      obtain ⟨-, hnil⟩ := List.cons.inj hb
      obtain ⟨rfl, rfl⟩ := List.append_eq_nil_iff.mp hnil
      exact h.unfinished c (by rw [List.append_nil])

theorem InvalidPart.not_longer {part rest more rest' : List UInt8} {b : UInt8}
    (h : InvalidPart part (b :: rest)) : ¬ InvalidPart (part ++ b :: more) rest' := by
  intro h'
  rcases h'.begins with hbegins | ⟨x, hx⟩
  · have hlonger : BeginsForm (part ++ [b] ++ more) := by rwa [List.append_assoc]
    exact h.ends b rfl hlonger.of_append
  · obtain ⟨y, ys, rfl⟩ := List.exists_cons_of_ne_nil h.ne_nil
    simp at hx

/-- Where an invalid part ends is settled by the bytes. -/
theorem InvalidPart.append_inj {part rest part' rest' : List UInt8} (h : InvalidPart part rest)
    (h' : InvalidPart part' rest') (heq : part ++ rest = part' ++ rest') : rest = rest' := by
  rcases List.append_eq_append_iff.mp heq with ⟨more, rfl, rfl⟩ | ⟨more, rfl, rfl⟩
  · cases more with
    | nil => rfl
    | cons b more => exact absurd h' h.not_longer
  · cases more with
    | nil => rfl
    | cons b more => exact absurd h h'.not_longer

/-- Bytes are read in one way only. -/
theorem ReadAs.unique {bytes bytes' : List UInt8} {t t' : Text} (h : ReadAs bytes t)
    (h' : ReadAs bytes' t') (heq : bytes = bytes') : t = t' := by
  induction h generalizing bytes' t' with
  | nil =>
      cases h' with
      | nil => rfl
      | char c =>
          exact absurd (List.append_eq_nil_iff.mp heq.symm).1 String.utf8EncodeChar_ne_nil
      | invalid hpart => exact absurd (List.append_eq_nil_iff.mp heq.symm).1 hpart.ne_nil
  | char c _ ih =>
      cases h' with
      | nil => exact absurd (List.append_eq_nil_iff.mp heq).1 String.utf8EncodeChar_ne_nil
      | char c' hrest =>
          obtain ⟨rfl, hbytes⟩ := utf8EncodeChar_append_inj heq
          rw [ih hrest hbytes]
      | invalid hpart => exact absurd heq.symm (hpart.ne_char c _)
  | invalid hpart _ ih =>
      cases h' with
      | nil => exact absurd (List.append_eq_nil_iff.mp heq).1 hpart.ne_nil
      | char c => exact absurd heq (hpart.ne_char c _)
      | invalid hpart' hrest => rw [ih hrest (hpart.append_inj hpart' heq)]

/-- The bounds of the next byte let only bytes through that continue a form. -/
structure Partial.Bounded (p : Partial) : Prop where
  missing_pos : 0 < p.missing
  least_ge : 0x80 ≤ p.least
  least_le : p.least ≤ p.most
  most_le : p.most ≤ 0xBF

/-- A pending character with one more byte read. -/
def Partial.after (p : Partial) (b : UInt8) : Partial :=
  ⟨addDigit p.value b, p.missing - 1, 0x80, 0xBF⟩

theorem bounded_of_lead? {b : Nat} {p : Partial} (h : lead? b = some p) : p.Bounded := by
  rcases lead?_eq_some_iff.mp h with ⟨-, -, rfl⟩ | ⟨-, -, rfl⟩ | ⟨-, -, rfl⟩
  · exact ⟨Nat.one_pos, Nat.le_refl _, Nat.le_of_ble_eq_true rfl, Nat.le_refl _⟩
  · refine ⟨Nat.two_pos, ?_, ?_, ?_⟩
    all_goals dsimp only
    all_goals split_ifs
    all_goals omega
  · refine ⟨Nat.succ_pos 2, ?_, ?_, ?_⟩
    all_goals dsimp only
    all_goals split_ifs
    all_goals omega

variable {p : Partial} {b : UInt8} {part rest : List UInt8}

theorem Partial.bounded_after (hmore : 1 < p.missing) : (p.after b).Bounded where
  missing_pos := Nat.sub_pos_of_lt hmore
  least_ge := Nat.le_refl _
  least_le := Nat.le_of_ble_eq_true rfl
  most_le := Nat.le_refl _

theorem Partial.Bounded.continues (hp : p.Bounded) (hb : p.least ≤ b.toNat ∧ b.toNat ≤ p.most) :
    Continues b :=
  ⟨Nat.le_trans hp.least_ge hb.1, Nat.le_trans hb.2 hp.most_le⟩

theorem completes_cons_iff (hp : p.Bounded) (hb : p.least ≤ b.toNat ∧ b.toNat ≤ p.most) :
    Completes p (b :: rest) ↔ Completes (p.after b) rest := by
  have hlen : (b :: rest).length = p.missing ↔ rest.length = (p.after b).missing := by
    have := hp.missing_pos
    simp only [List.length_cons, Partial.after]
    omega
  constructor
  · intro h
    have hcont : ∀ x ∈ rest, Continues x := fun x hx => h.continues x (List.mem_cons_of_mem b hx)
    exact ⟨hlen.mp h.length, hcont, fun x hx => hcont x (List.mem_of_head? hx)⟩
  · intro h
    refine ⟨hlen.mpr h.length, List.forall_mem_cons.mpr ⟨hp.continues hb, h.continues⟩, ?_⟩
    intro x hx
    obtain rfl := Option.some.inj hx
    exact hb

/-- A pending character that was begun by `part`. -/
structure Pending (part : List UInt8) (p : Partial) : Prop where
  ne_nil : part ≠ []
  bounded : p.Bounded
  form_iff : ∀ n rest,
    Form n (part ++ rest) ↔ Completes p rest ∧ n = rest.foldl addDigit p.value

theorem pending_of_lead? (h : lead? b.toNat = some p) : Pending [b] p :=
  ⟨List.cons_ne_nil b [], bounded_of_lead? h, fun _ _ => form_cons_iff h⟩

namespace Pending

theorem step (h : Pending part p) (hb : p.least ≤ b.toNat ∧ b.toNat ≤ p.most)
    (hmore : 1 < p.missing) : Pending (part ++ [b]) (p.after b) where
  ne_nil := by simp
  bounded := Partial.bounded_after hmore
  form_iff n rest := by
    rw [List.append_assoc, List.singleton_append, h.form_iff, completes_cons_iff h.bounded hb,
      List.foldl_cons, Partial.after]

/-- The last missing byte makes up the form of a character. -/
theorem form_of_last (h : Pending part p) (hb : p.least ≤ b.toNat ∧ b.toNat ≤ p.most)
    (hlast : p.missing ≤ 1) :
    String.utf8EncodeChar (Char.ofNat (addDigit p.value b)) = part ++ [b] := by
  have hcompletes : Completes p [b] := by
    refine (completes_cons_iff h.bounded hb).mpr ⟨?_, nofun, nofun⟩
    exact (Nat.sub_eq_zero_of_le hlast).symm
  obtain ⟨c, hc, hform⟩ := ((h.form_iff _ [b]).mpr ⟨hcompletes, rfl⟩).exists_char
  have hvalue : addDigit p.value b = c.toNat := hc.symm
  rw [hvalue, Char.ofNat_toNat, hform]

theorem beginsForm (h : Pending part p) : BeginsForm part := by
  have hleast : (UInt8.ofNat p.least).toNat = p.least :=
    toNat_ofNat_of_lt (Nat.lt_of_le_of_lt (Nat.le_trans h.bounded.least_le h.bounded.most_le)
      (Nat.lt_of_sub_eq_succ rfl))
  have htail : ∀ x ∈ List.replicate (p.missing - 1) (0x80 : UInt8), Continues x := by
    intro x hx
    rw [List.eq_of_mem_replicate hx, Continues]
    decide
  have hcompletes : Completes p (UInt8.ofNat p.least :: List.replicate (p.missing - 1) 0x80) := by
    refine (completes_cons_iff h.bounded ?_).mpr ⟨List.length_replicate, htail, ?_⟩
    · rw [hleast]
      exact ⟨Nat.le_refl _, h.bounded.least_le⟩
    · exact fun x hx => htail x (List.mem_of_head? hx)
  exact beginsForm_iff.mpr ⟨_, _, (h.form_iff _ _).mpr ⟨hcompletes, rfl⟩⟩

/-- Where the next byte is out of bounds, the pending character is an invalid part. -/
theorem invalidPart (h : Pending part p)
    (hends : ∀ b, rest.head? = some b → ¬ (p.least ≤ b.toNat ∧ b.toNat ≤ p.most)) :
    InvalidPart part rest where
  ne_nil := h.ne_nil
  begins := .inl h.beginsForm
  unfinished c hc := by
    have hform : Form c.toNat (part ++ []) := by
      rw [List.append_nil, ← hc]
      exact form_utf8EncodeChar c
    have hlen := ((h.form_iff _ _).mp hform).1.length
    exact absurd hlen (Nat.ne_of_lt h.bounded.missing_pos)
  ends b hb hbegins := by
    obtain ⟨n, more, hform⟩ := beginsForm_iff.mp hbegins
    rw [List.append_assoc] at hform
    exact hends b hb (((h.form_iff _ _).mp hform).1.within b rfl)

end Pending

/-- A byte that begins no form is an invalid part. -/
theorem invalidPart_of_lead?_none (hhigh : ¬ b.toNat < 0x80) (h : lead? b.toNat = none) :
    InvalidPart [b] rest := by
  have hnot : ¬ BeginsForm [b] := by
    intro hbegins
    obtain ⟨n, more, hform⟩ := beginsForm_iff.mp hbegins
    rcases hform.first with ⟨hlow, -, -⟩ | ⟨p, hp⟩
    · exact hhigh hlow
    · rw [h] at hp
      cases hp
  refine ⟨List.cons_ne_nil b [], .inr ⟨b, rfl⟩, ?_, fun x _ hx => hnot hx.of_append⟩
  intro c hc
  exact hnot ⟨c, [], by rw [hc, List.append_nil]⟩

/-- Reading byte by byte follows the relation, from between characters and in the middle of one. -/
theorem readAs_decodeFrom (bytes : List UInt8) :
    ReadAs bytes (decodeFrom none bytes) ∧
      ∀ part p, Pending part p → ReadAs (part ++ bytes) (decodeFrom (some p) bytes) := by
  induction bytes with
  | nil =>
      refine ⟨.nil, ?_⟩
      intro part p hp
      exact .invalid (hp.invalidPart nofun) .nil
  | cons b bytes ih =>
      obtain ⟨ihnone, ihsome⟩ := ih
      have hnone : ReadAs (b :: bytes) (decodeFrom none (b :: bytes)) := by
        rw [decodeFrom, stepByte, beginByte]
        by_cases hlow : b.toNat < 0x80
        · rw [if_pos hlow]
          obtain ⟨c, hc, hform⟩ := (Form.one hlow).exists_char
          have hread := ReadAs.char c ihnone
          rw [hform] at hread
          rwa [← hc, Char.ofNat_toNat]
        · rw [if_neg hlow]
          cases hlead : lead? b.toNat with
          | none => exact .invalid (invalidPart_of_lead?_none hlow hlead) ihnone
          | some p => exact ihsome [b] p (pending_of_lead? hlead)
      refine ⟨hnone, ?_⟩
      intro part p hp
      rw [decodeFrom, stepByte]
      by_cases hb : p.least ≤ b.toNat ∧ b.toNat ≤ p.most
      · rw [if_pos hb]
        by_cases hlast : p.missing ≤ 1
        · have hread := ReadAs.char (Char.ofNat (addDigit p.value b)) ihnone
          rw [hp.form_of_last hb hlast, List.append_assoc] at hread
          simp only [if_pos hlast]
          exact hread
        · have hread := ihsome _ _ (hp.step hb (Nat.lt_of_not_le hlast))
          rw [List.append_assoc] at hread
          simp only [if_neg hlast]
          exact hread
      · rw [if_neg hb]
        refine .invalid (hp.invalidPart ?_) hnone
        rintro x hx
        obtain rfl := Option.some.inj hx
        exact hb

/-- Reading leniently is what the relation says, and nothing else is. -/
theorem readAs_iff {bytes : List UInt8} {t : Text} : ReadAs bytes t ↔ decode bytes = t := by
  constructor
  · intro h
    exact (readAs_decodeFrom bytes).1.unique h rfl
  · rintro rfl
    exact (readAs_decodeFrom bytes).1

theorem ReadAs.encode_append {bytes : List UInt8} {t : Text} (h : ReadAs bytes t) (s : Text) :
    ReadAs (encode s ++ bytes) (s ++ t) := by
  induction s with
  | nil => exact h
  | cons c s ih =>
      rw [encode_cons, List.append_assoc]
      exact .char c ih

/-- What begins a form ends an invalid part, as nothing of a form but its first byte can begin one. -/
theorem InvalidPart.append_encode {part rest : List UInt8} (h : InvalidPart part rest) (t : Text) :
    InvalidPart part (rest ++ encode t) where
  ne_nil := h.ne_nil
  begins := h.begins
  unfinished := h.unfinished
  ends b hb hbegins := by
    cases rest with
    | cons x rest => exact h.ends b hb hbegins
    | nil =>
        cases t with
        | nil => cases hb
        | cons c t =>
            obtain ⟨x, form, hform⟩ := List.exists_cons_of_ne_nil
              (String.utf8EncodeChar_ne_nil (c := c))
            rw [List.nil_append, encode_cons, hform] at hb
            obtain rfl := Option.some.inj hb
            have hfirst : Form c.toNat (x :: form) := hform ▸ form_utf8EncodeChar c
            obtain ⟨n, more, hlater⟩ := beginsForm_iff.mp hbegins
            obtain ⟨y, ys, rfl⟩ := List.exists_cons_of_ne_nil h.ne_nil
            exact hfirst.continues.1 (hlater.continues.2 x (by simp))

theorem ReadAs.append_encode {bytes : List UInt8} {s : Text} (h : ReadAs bytes s) (t : Text) :
    ReadAs (bytes ++ encode t) (s ++ t) := by
  induction h with
  | nil => simpa using ReadAs.nil.encode_append t
  | char c _ ih =>
      rw [List.append_assoc]
      exact .char c ih
  | invalid hpart _ ih =>
      rw [List.append_assoc]
      exact .invalid (hpart.append_encode t) ih

/-- Reading undoes writing. -/
theorem decode_encode (t : Text) : decode (encode t) = t := by
  have hread := ReadAs.nil.append_encode t
  exact readAs_iff.mp hread

end RegexExplainer.Text
