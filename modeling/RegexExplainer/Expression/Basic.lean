import RegexExplainer.CharSet
import RegexExplainer.Text.Basic

/- Regular expressions without notation: flags are resolved, groups are numbered. -/
namespace RegexExplainer

/-- Tests of a place between two characters. For the ASCII forms no other character is a word
character. -/
inductive Look
  | textStart | textEnd | lineStart | lineEnd | lineStartCrlf | lineEndCrlf
  | word (unicode : Bool) | notWord (unicode : Bool)
  | wordStart (unicode : Bool) | wordEnd (unicode : Bool)
  | wordStartHalf (unicode : Bool) | wordEndHalf (unicode : Bool)
deriving DecidableEq

/-- The characters that a set was chosen from. -/
inductive Alphabet
  | ascii | unicode
deriving DecidableEq

/-- What two lists begin with. -/
def commonStart {α : Type} [DecidableEq α] : List α → List α → List α
  | x :: xs, y :: ys => if x = y then x :: commonStart xs ys else []
  | _, _ => []

/-- Branches and repetitions prefer their first way: the left branch, and one round more when
greedy. -/
inductive Expression
  | empty
  | char (alphabet : Alphabet) (set : CharSet)
  | look (l : Look)
  | capture (index : Nat) (sub : Expression)
  | seq (first second : Expression)
  | alt (first second : Expression)
  | repetition (least : Nat) (most : Option Nat) (greedy : Bool) (sub : Expression)
deriving DecidableEq

namespace Expression

/-- One character of a set. For a set of one character, and for the empty set, the alphabet makes
no difference. -/
def ofSet (alphabet : Alphabet) (s : CharSet) : Expression :=
  if s.isEmpty then char .ascii s
  else if s.only?.isSome then char .unicode s
  else char alphabet s

/-- No text at all. -/
def fail : Expression := ofSet .ascii .empty

/-- The parts of a sequence. -/
def parts : Expression → List Expression
  | empty => []
  | seq e f => e :: f.parts
  | e => [e]

/-- The branches of a choice. -/
def branches : Expression → List Expression
  | alt e f => e :: f.branches
  | e => [e]

def ofParts : List Expression → Expression
  | [] => empty
  | [e] => e
  | e :: es => seq e (ofParts es)

def ofBranches : List Expression → Expression
  | [] => fail
  | [e] => e
  | e :: es => alt e (ofBranches es)

/-- One after the other. -/
def sequence (es : List Expression) : Expression := ofParts (es.flatMap parts)

def literal? : Expression → Option Char
  | char _ s => s.only?
  | _ => none

def isLiteral (e : Expression) : Bool := e.literal?.isSome

/-- The text of a sequence of literal characters. -/
def text? (e : Expression) : Option Text :=
  if e.parts.isEmpty then none else e.parts.mapM literal?

def setOf? : Expression → Option CharSet
  | char _ s => some s
  | _ => none

/-- Branches of one character each are one set, when all or none of them name the character. -/
def joined? (es : List Expression) : Option Expression :=
  if es.all isLiteral || !es.any isLiteral then
    (es.mapM setOf?).map fun sets => ofSet .unicode (sets.foldl CharSet.union .empty)
  else none

/-- The parts of a sequence, with neighbouring literal characters taken together. -/
def blocks (e : Expression) : List (List Expression) :=
  e.parts.splitBy fun a b => a.isLiteral && b.isLiteral

/-- What all branches begin with, when each is a sequence of several blocks. -/
def sharedStart : List Expression → List (List Expression)
  | [] => []
  | e :: es =>
    if (e :: es).all fun f => 1 < f.blocks.length then
      es.foldl (fun start f => commonStart start f.blocks) e.blocks
    else []

/-- One or the other, the first preferred. What all branches begin with stands before the choice,
so it is settled before a branch is. -/
def choice (es : List Expression) : Expression :=
  let es := es.flatMap branches
  let join (es : List Expression) := (joined? es).getD (ofBranches es)
  match sharedStart es with
  | [] => join es
  | start =>
    let rests := es.map fun e => ofParts (e.blocks.drop start.length).flatten
    sequence (start.flatten ++ [join (rests.flatMap branches)])

/-- Whether nothing but the empty text can match. -/
def onlyEmpty : Expression → Bool
  | empty => true
  | char _ _ => false
  | look _ => true
  | capture _ e => e.onlyEmpty
  | seq e f => e.onlyEmpty && f.onlyEmpty
  | alt e f => e.onlyEmpty && f.onlyEmpty
  | repetition _ most _ e => most == some 0 || e.onlyEmpty

/-- Length of the shortest match in characters, tests of places taken as passed. A choice with a
branch that never matches is not looked into. -/
def shortest? : Expression → Option Nat
  | empty => some 0
  | char _ s => if s.isEmpty then none else some 1
  | look _ => some 0
  | capture _ e => e.shortest?
  | seq e f => do return (← e.shortest?) + (← f.shortest?)
  | alt e f => do return min (← e.shortest?) (← f.shortest?)
  | repetition least _ _ e => do return least * (← e.shortest?)

/-- Whether every match is known to be of one character or more. -/
def consumes (e : Expression) : Bool := e.shortest?.any (0 < ·)

/-- Repeating what is always empty more than once adds nothing; no rounds are the empty
expression and one round is the expression itself. -/
def repeated (least : Nat) (most : Option Nat) (greedy : Bool) (e : Expression) : Expression :=
  let (least, most) :=
    if e.onlyEmpty then (min least 1, some (min (most.getD 1) 1)) else (least, most)
  match least, most with
  | 0, some 0 => empty
  | 1, some 1 => e
  | least, most => repetition least most greedy e

/-- The greatest number of a capturing group. -/
def lastGroup : Expression → Nat
  | capture index e => max index e.lastGroup
  | seq e f => max e.lastGroup f.lastGroup
  | alt e f => max e.lastGroup f.lastGroup
  | repetition _ _ _ e => e.lastGroup
  | _ => 0

end Expression

end RegexExplainer
