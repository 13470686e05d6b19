import RegexExplainer.Text.Basic

/- Range quantifiers in the text of a pattern. -/
namespace RegexExplainer

def isDigit (c : Char) : Bool := c.isDigit

/-- The counts of a range quantifier, as written. -/
inductive Bounds
  | exactly (n : Text)
  | atLeast (n : Text)
  | between (n m : Text)
deriving DecidableEq

namespace Bounds

def isNumeral (t : Text) : Bool := !t.isEmpty && t.all isDigit

/-- Digits, and digits or nothing after a comma. -/
def parse? (content : Text) : Option Bounds :=
  let n := content.takeWhile (· != ',')
  match content.dropWhile (· != ',') with
  | [] => if isNumeral n then some (exactly n) else none
  | _ :: m =>
    if !isNumeral n then none
    else if m.isEmpty then some (atLeast n)
    else if isNumeral m then some (between n m)
    else none

/-- What stands between the braces. -/
def text : Bounds → Text
  | exactly n => n
  | atLeast n => n ++ [',']
  | between n m => n ++ ',' :: m

def explanation : Bounds → Text
  | exactly n => "match exactly ".toList ++ n ++ " of the preceding token".toList
  | atLeast n => "match ".toList ++ n ++ " or more of the preceding token".toList
  | between n m =>
    "match between ".toList ++ n ++ " and ".toList ++ m ++ " of the preceding token".toList

/-- The text up to the first closing brace. -/
def content? (rest : Text) : Option Text :=
  if '\x7d' ∈ rest then some (rest.takeWhile (· != '\x7d')) else none

end Bounds

structure RangeQuantifier where
  span : Span
  bounds : Bounds
deriving DecidableEq

namespace RangeQuantifier

/-- The range quantifier whose opening brace is the byte at `opening`. Only the first closing
brace after it can end one. -/
def parse? (pattern : Text) (opening : Nat) : Option RangeQuantifier :=
  match pattern.from? opening with
  | some ('\x7b' :: rest) => do
    let content ← Bounds.content? rest
    let bounds ← Bounds.parse? content
    return ⟨⟨opening, opening + content.size + 2⟩, bounds⟩
  | _ => none

/-- An odd number of backslashes right before a place escapes what follows. -/
def isEscapedAfter (before : Text) : Bool :=
  (before.reverse.takeWhile (· == '\\')).length % 2 == 1

def isEscaped (pattern : Text) (offset : Nat) : Bool :=
  ((pattern.splitAt? offset).map fun (before, _) => isEscapedAfter before).getD false

/-- Whether the closing brace at byte `closing` ends a range quantifier: the nearest opening brace
before it is not escaped, and what lies between is the content of one. -/
def closes (pattern : Text) (closing : Nat) : Bool :=
  match pattern.splitAt? closing with
  | some (before, '\x7d' :: _) =>
    let reversed := before.reverse
    match reversed.dropWhile (· != '\x7b') with
    | [] => false
    | _ :: earlier =>
      !isEscapedAfter earlier.reverse &&
        (Bounds.parse? (reversed.takeWhile (· != '\x7b')).reverse).isSome
  | _ => false

end RangeQuantifier

end RegexExplainer
