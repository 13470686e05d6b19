/- Sets of characters, kept as intervals of code points in ascending order: the operations on them,
the named ASCII classes of bracket expressions, and the bytes that their characters are written with
in UTF-8. -/
namespace RegexExplainer

/-- The numbers from `first` to `last`. -/
structure Interval where
  first : Nat
  last : Nat
deriving DecidableEq

namespace Interval

def holds (i : Interval) (n : Nat) : Bool := i.first ≤ n && n ≤ i.last

/-- The interval that ends at two numbers, in either order. -/
def between (m n : Nat) : Interval := ⟨min m n, max m n⟩

/-- What two intervals have in common. -/
def meet? (i j : Interval) : Option Interval :=
  let first := max i.first j.first
  let last := min i.last j.last
  if first ≤ last then some ⟨first, last⟩ else none

/-- Adds an interval to ascending ones, as one with those that it overlaps or touches. -/
def insert (i : Interval) : List Interval → List Interval
  | [] => [i]
  | j :: rest =>
    if i.last + 1 < j.first then i :: j :: rest
    else if j.last + 1 < i.first then j :: i.insert rest
    else (⟨min i.first j.first, max i.last j.last⟩ : Interval).insert rest

end Interval

structure CharSet where
  intervals : List Interval
deriving DecidableEq

namespace CharSet

def lastCodePoint : Nat := 0x10FFFF

/-- The next code point that is no surrogate. -/
def codeAfter (n : Nat) : Nat := if n = 0xD7FF then 0xE000 else n + 1

/-- The code point before that is no surrogate. -/
def codeBefore (n : Nat) : Nat := if n = 0xE000 then 0xD7FF else n - 1

def holds (s : CharSet) (n : Nat) : Bool := s.intervals.any fun i => i.holds n

def contains (s : CharSet) (c : Char) : Bool := s.holds c.toNat

def empty : CharSet := ⟨[]⟩

def isEmpty (s : CharSet) : Bool := s.intervals.isEmpty

def range (first last : Nat) : CharSet := ⟨[⟨first, last⟩]⟩

def point (n : Nat) : CharSet := range n n

def singleton (c : Char) : CharSet := point c.toNat

def ascii : CharSet := range 0 0x7F

def any : CharSet := range 0 lastCodePoint

/-- The gaps from `start` on. -/
def gapsFrom (start : Nat) : List Interval → List Interval
  | [] => if start ≤ lastCodePoint then [⟨start, lastCodePoint⟩] else []
  | i :: rest => ⟨start, codeBefore i.first⟩ :: gapsFrom (codeAfter i.last) rest

/-- What lies between the intervals. Where these end on the two sides of the surrogates there is
no character between them, and the gap ends before it begins. -/
def gaps (s : CharSet) : List Interval :=
  match s.intervals with
  | ⟨0, last⟩ :: rest => gapsFrom (codeAfter last) rest
  | all => gapsFrom 0 all

/-- The gaps as a set. One that ends before it begins is turned around, and holds the two
characters at its sides. -/
def complement (s : CharSet) : CharSet := ⟨s.gaps.map fun g => .between g.first g.last⟩

def union (s t : CharSet) : CharSet :=
  ⟨t.intervals.foldl (fun all i => i.insert all) s.intervals⟩

instance : Union CharSet := ⟨union⟩

/-- What intervals have in common with a set. -/
def within (intervals : List Interval) (s : CharSet) : CharSet :=
  ⟨s.intervals.flatMap fun i => intervals.filterMap i.meet?⟩

def intersection (s t : CharSet) : CharSet := s.within t.intervals

def difference (s t : CharSet) : CharSet := s.within t.gaps

def symmetricDifference (s t : CharSet) : CharSet := (s ∪ t).difference (s.intersection t)

/-- The only character of a set. -/
def only? (s : CharSet) : Option Char :=
  match s.intervals with
  | [i] => if i.first = i.last then some (Char.ofNat i.first) else none
  | _ => none

def isAscii (s : CharSet) : Bool := s.intervals.all fun i => i.last ≤ 0x7F

@[simp] theorem contains_singleton (c d : Char) : (singleton c).contains d = (c == d) := by
  simp only [contains, holds, singleton, point, range, Interval.holds, List.any_cons, List.any_nil,
    Bool.or_false]
  by_cases h : c = d
  · simp [h]
  · have : c.toNat ≠ d.toNat := fun e => h (Char.toNat_inj.1 e)
    grind

end CharSet

inductive Posix
  | alnum | alpha | ascii | blank | cntrl | digit | graph | lower | print | punct | space | upper
  | word | xdigit
deriving DecidableEq

namespace Posix

def all : List (String × Posix) :=
  [("alnum", alnum), ("alpha", alpha), ("ascii", ascii), ("blank", blank), ("cntrl", cntrl),
    ("digit", digit), ("graph", graph), ("lower", lower), ("print", print), ("punct", punct),
    ("space", space), ("upper", upper), ("word", word), ("xdigit", xdigit)]

def ofName? (name : String) : Option Posix := all.lookup name

def charSet : Posix → CharSet
  | alnum => ⟨[⟨0x30, 0x39⟩, ⟨0x41, 0x5A⟩, ⟨0x61, 0x7A⟩]⟩
  | alpha => ⟨[⟨0x41, 0x5A⟩, ⟨0x61, 0x7A⟩]⟩
  | ascii => .ascii
  | blank => ⟨[⟨0x09, 0x09⟩, ⟨0x20, 0x20⟩]⟩
  | cntrl => ⟨[⟨0x00, 0x1F⟩, ⟨0x7F, 0x7F⟩]⟩
  | digit => .range 0x30 0x39
  | graph => .range 0x21 0x7E
  | lower => .range 0x61 0x7A
  | print => .range 0x20 0x7E
  | punct => ⟨[⟨0x21, 0x2F⟩, ⟨0x3A, 0x40⟩, ⟨0x5B, 0x60⟩, ⟨0x7B, 0x7E⟩]⟩
  | space => ⟨[⟨0x09, 0x0D⟩, ⟨0x20, 0x20⟩]⟩
  | upper => .range 0x41 0x5A
  | word => ⟨[⟨0x30, 0x39⟩, ⟨0x41, 0x5A⟩, ⟨0x5F, 0x5F⟩, ⟨0x61, 0x7A⟩]⟩
  | xdigit => ⟨[⟨0x30, 0x39⟩, ⟨0x41, 0x46⟩, ⟨0x61, 0x66⟩]⟩

end Posix

/-- An interval for each byte; stands for all characters with a byte in each. -/
abbrev ByteForm := List Interval

/-- The characters that take as many bytes, and what is added to their first byte. -/
structure EncodedLength where
  bytes : Nat
  lead : Nat
  values : Interval

/-- Surrogates have no UTF-8 form. -/
def encodedLengths : List EncodedLength :=
  [⟨1, 0x00, ⟨0x00, 0x7F⟩⟩, ⟨2, 0xC0, ⟨0x80, 0x7FF⟩⟩, ⟨3, 0xE0, ⟨0x800, 0xD7FF⟩⟩,
    ⟨3, 0xE0, ⟨0xE000, 0xFFFF⟩⟩, ⟨4, 0xF0, ⟨0x10000, 0x10FFFF⟩⟩]

namespace ByteForm

/-- The numbers from `first` to `last` by their digits to the base 64, in ascending order. What
stands before the first full block and after the last one takes forms of its own. -/
def digits : Nat → Nat → Nat → List ByteForm
  | 0, _, _ => [[]]
  | n + 1, first, last =>
    let unit := Nat.pow 64 n
    let low := first / unit
    let high := last / unit
    let firstLow := first % unit
    let lastLow := last % unit
    let under (d : Nat) (forms : List ByteForm) := forms.map fun f => (⟨d, d⟩ :: f : ByteForm)
    if low = high then under low (digits n firstLow lastLow)
    else
      let start := if firstLow = 0 then low else low + 1
      let stop := if lastLow + 1 = unit then high else high - 1
      (if firstLow = 0 then [] else under low (digits n firstLow (unit - 1))) ++
        (if start ≤ stop then [⟨start, stop⟩ :: List.replicate n ⟨0, 63⟩] else []) ++
        (if lastLow + 1 = unit then [] else under high (digits n 0 lastLow))

/-- Digits as bytes. -/
def encode (lead : Nat) : ByteForm → ByteForm
  | [] => []
  | i :: rest =>
    ⟨i.first + lead, i.last + lead⟩ :: rest.map fun j => ⟨j.first + 0x80, j.last + 0x80⟩

def ofInterval (i : Interval) : List ByteForm :=
  encodedLengths.flatMap fun l =>
    match i.meet? l.values with
    | some j => (digits l.bytes j.first j.last).map (encode l.lead)
    | none => []

/-- What is left of some forms behind each first interval. -/
def rests (forms : List ByteForm) : List (List ByteForm) :=
  (forms.splitBy fun f g => f.head? == g.head?).map fun group => group.map List.tail

/-- The branchings on the way through some forms, for characters of at most `n` bytes: the forms
left at each. -/
def branchings : Nat → List ByteForm → List (List ByteForm)
  | 0, _ => []
  | n + 1, forms =>
    if forms.all List.isEmpty then [] else forms :: (rests forms).flatMap (branchings n)

end ByteForm

def CharSet.byteForms (s : CharSet) : List ByteForm := s.intervals.flatMap ByteForm.ofInterval

end RegexExplainer
