import RegexExplainer.Expression.Basic
import RegexExplainer.Text.Basic
import RegexExplainer.Unicode.Alphabetic

/- Places between the characters of a text. -/
namespace RegexExplainer

/-- The character before, the byte offset, and the text after. -/
structure Place where
  before : Option Char
  offset : Nat
  rest : Text
deriving DecidableEq

namespace Place

def start (t : Text) : Place := ⟨none, 0, t⟩

/-- The place one character on. -/
def next? (p : Place) : Option Place :=
  match p.rest with
  | [] => none
  | c :: rest => some ⟨some c, p.offset + c.utf8Size, rest⟩

/-- That `q` lies as many bytes after `p` as the text between them has, right behind that text. -/
def Reaches (p q : Place) : Prop :=
  ∃ t, p.rest = t ++ q.rest ∧ q.offset = p.offset + Text.size t ∧ q.before = t.getLast?.or p.before

theorem Reaches.refl (p : Place) : p.Reaches p := ⟨[], by simp⟩

theorem Reaches.trans {p q r : Place} (h : p.Reaches q) (h' : q.Reaches r) : p.Reaches r := by
  obtain ⟨t, ht, ho, hb⟩ := h
  obtain ⟨u, hu, hp, hb'⟩ := h'
  refine ⟨t ++ u, by simp [ht, hu], by rw [Text.size_append]; omega, ?_⟩
  rw [hb', hb, List.getLast?_append, Option.or_assoc]

theorem Reaches.offset_le {p q : Place} (h : p.Reaches q) : p.offset ≤ q.offset := by
  obtain ⟨t, _, h, _⟩ := h
  omega

theorem Reaches.length_lt {p q : Place} (h : p.Reaches q) (hlt : p.offset ≠ q.offset) :
    q.rest.length < p.rest.length := by
  obtain ⟨t, h, ho, _⟩ := h
  cases t with
  | nil => simp at ho; exact absurd ho.symm hlt
  | cons c t => rw [h, List.length_append, List.length_cons]; omega

theorem reaches_cons (b : Option Char) (n : Nat) (c : Char) (rest : Text) :
    Reaches ⟨b, n, c :: rest⟩ ⟨some c, n + c.utf8Size, rest⟩ := ⟨[c], by simp⟩

theorem reaches_of_next? {p q : Place} (h : p.next? = some q) :
    p.Reaches q ∧ p.offset < q.offset := by
  obtain ⟨b, n, rest⟩ := p
  cases rest with
  | nil => simp [next?] at h
  | cons c rest =>
    simp only [next?, Option.some.injEq] at h
    subst h
    exact ⟨reaches_cons b n c rest, by have := c.utf8Size_pos; simp; omega⟩

end Place

def isWordChar (unicode : Bool) (c : Char) : Bool :=
  if unicode then Unicode.word.contains c else c.isAlphanum || c == '_'

/-- Whether a test passes between two characters. A carriage return and the line feed after it
end one line together. -/
def Look.holds (l : Look) (before after : Option Char) : Bool :=
  let wordBefore (unicode : Bool) := before.any (isWordChar unicode)
  let wordAfter (unicode : Bool) := after.any (isWordChar unicode)
  match l with
  | textStart => before.isNone
  | textEnd => after.isNone
  | lineStart => before.all (· == '\n')
  | lineEnd => after.all (· == '\n')
  | lineStartCrlf => before.all fun c => c == '\n' || (c == '\r' && after != some '\n')
  | lineEndCrlf => after.all fun c => c == '\r' || (c == '\n' && before != some '\r')
  | word u => wordBefore u != wordAfter u
  | notWord u => wordBefore u == wordAfter u
  | wordStart u => !wordBefore u && wordAfter u
  | wordEnd u => wordBefore u && !wordAfter u
  | wordStartHalf u => !wordBefore u
  | wordEndHalf u => !wordAfter u

end RegexExplainer
