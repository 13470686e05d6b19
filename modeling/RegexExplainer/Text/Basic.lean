/- Text as a list of characters, addressed by byte offsets into its UTF-8 form, and the lenient
reading of that form: each maximal invalid part becomes one U+FFFD. -/
namespace RegexExplainer

abbrev Text := List Char

/-- A stretch of text: byte offsets of its first byte and of the byte after its last. -/
structure Span where
  start : Nat
  stop : Nat
deriving DecidableEq

namespace Text

def decimal (n : Nat) : Text := Nat.toDigits 10 n

/-- Length of the UTF-8 form in bytes. -/
def size : Text → Nat
  | [] => 0
  | c :: t => c.utf8Size + size t

/-- Cuts at byte offset `n`. There is no cut inside a character or past the end. -/
def splitAt? : Text → Nat → Option (Text × Text)
  | t, 0 => some ([], t)
  | [], _ + 1 => none
  | c :: t, n + 1 =>
    if c.utf8Size ≤ n + 1 then
      (splitAt? t (n + 1 - c.utf8Size)).map fun (before, after) => (c :: before, after)
    else none

def from? (t : Text) (n : Nat) : Option Text := (splitAt? t n).map (·.2)

/-- The next offset. Offsets are words of 64 bits, and none comes after the last. -/
def offsetAfter? (n : Nat) : Option Nat := if n + 1 < 0x10000000000000000 then some (n + 1) else none

/-- The text between two byte offsets, when both are cuts and in order. -/
def slice? (t : Text) (start stop : Nat) : Option Text :=
  if start ≤ stop then
    (from? t start).bind fun rest => (splitAt? rest (stop - start)).map (·.1)
  else none

@[simp] theorem size_nil : size [] = 0 := rfl

@[simp] theorem size_cons (c : Char) (t : Text) : size (c :: t) = c.utf8Size + size t := rfl

@[simp] theorem size_append (s t : Text) : size (s ++ t) = size s + size t := by
  induction s with
  | nil => simp
  | cons c s ih => simp [ih, Nat.add_assoc]

theorem splitAt?_size (s t : Text) : splitAt? (s ++ t) (size s) = some (s, t) := by
  induction s with
  | nil => cases t <;> simp [splitAt?]
  | cons c s ih =>
    obtain ⟨k, hk⟩ : ∃ k, c.utf8Size = k + 1 :=
      ⟨c.utf8Size - 1, by have := c.utf8Size_pos; omega⟩
    simp only [List.cons_append, size_cons, hk]
    rw [show k + 1 + size s = (k + size s) + 1 by omega, splitAt?, hk]
    simp [show k + size s + 1 - (k + 1) = size s by omega, ih]

theorem splitAt?_eq_some {t before after : Text} {n : Nat}
    (h : splitAt? t n = some (before, after)) : t = before ++ after ∧ n = size before := by
  fun_induction splitAt? t n generalizing before after with
  | case1 t => simp only [Option.some.injEq, Prod.mk.injEq] at h; simp [← h.1, ← h.2]
  | case2 => simp at h
  | case3 c t n hc ih =>
    obtain ⟨⟨b, a⟩, hb, he⟩ := Option.map_eq_some_iff.1 h
    simp only [Prod.mk.injEq] at he
    obtain ⟨rfl, rfl⟩ := he
    obtain ⟨rfl, hn⟩ := ih hb
    exact ⟨rfl, by rw [size_cons]; omega⟩
  | case4 => simp at h

/-- The replacement character. -/
def replacement : Char := '\uFFFD'

/-- A character whose first bytes were read: the value so far, how many bytes are missing, and
the bounds of the next one. -/
structure Partial where
  value : Nat
  missing : Nat
  least : Nat
  most : Nat
deriving DecidableEq

/-- What a first byte promises. The bounds of the second byte leave out overlong forms,
surrogates and values above U+10FFFF. -/
def lead? (b : Nat) : Option Partial :=
  if 0xC2 ≤ b ∧ b ≤ 0xDF then some ⟨b - 0xC0, 1, 0x80, 0xBF⟩
  else if b = 0xE0 then some ⟨0, 2, 0xA0, 0xBF⟩
  else if b = 0xED then some ⟨0xD, 2, 0x80, 0x9F⟩
  else if 0xE1 ≤ b ∧ b ≤ 0xEF then some ⟨b - 0xE0, 2, 0x80, 0xBF⟩
  else if b = 0xF0 then some ⟨0, 3, 0x90, 0xBF⟩
  else if 0xF1 ≤ b ∧ b ≤ 0xF3 then some ⟨b - 0xF0, 3, 0x80, 0xBF⟩
  else if b = 0xF4 then some ⟨4, 3, 0x80, 0x8F⟩
  else none

/-- A byte that stands where a character begins. -/
def beginByte (b : Nat) : Text × Option Partial :=
  if b < 0x80 then ([Char.ofNat b], none)
  else match lead? b with
    | some p => ([], some p)
    | none => ([replacement], none)

/-- A byte that does not continue the pending character ends it as invalid and begins anew. -/
def stepByte (pending : Option Partial) (b : Nat) : Text × Option Partial :=
  match pending with
  | none => beginByte b
  | some p =>
    if p.least ≤ b ∧ b ≤ p.most then
      let value := p.value * 64 + (b - 0x80)
      if p.missing ≤ 1 then ([Char.ofNat value], none)
      else ([], some ⟨value, p.missing - 1, 0x80, 0xBF⟩)
    else (replacement :: (beginByte b).1, (beginByte b).2)

def decodeFrom (pending : Option Partial) : List UInt8 → Text
  | [] => if pending.isSome then [replacement] else []
  | b :: bytes =>
    (stepByte pending b.toNat).1 ++ decodeFrom (stepByte pending b.toNat).2 bytes

def decode (bytes : List UInt8) : Text := decodeFrom none bytes

/-- The UTF-8 form. -/
def encode (t : Text) : List UInt8 := t.flatMap String.utf8EncodeChar

end Text

end RegexExplainer
