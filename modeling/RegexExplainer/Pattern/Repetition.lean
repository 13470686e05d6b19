import RegexExplainer.Pattern.Reader
import RegexExplainer.Pattern.Tree

/- Repetition operators. -/
namespace RegexExplainer.Pattern

/-- Counts fit in 32 bits. -/
def countLimit : Nat := 0x100000000

def decimalValue (digits : Text) : Nat :=
  digits.foldl (fun n c => n * 10 + (c.toNat - '0'.toNat)) 0

def countOf (digits : Text) (region : Region) : Except Fault Nat :=
  if digits.isEmpty then .error ⟨.repetitionDecimalEmpty, region, none⟩
  else if decimalValue digits < countLimit then .ok (decimalValue digits)
  else .error ⟨.decimalInvalid, region, none⟩

/-- Whether an operator can apply to a tree. -/
def Tree.isRepeatable : Tree → Bool
  | .empty _ => false
  | .flags _ _ => false
  | _ => true

namespace Reader

/-- Passes white space, whether blanks are skipped or not. -/
def passWhiteSpace : Reader Unit :=
  repeatWhile (fun _ => do
    match ← peek? with
    | some c =>
      if Unicode.whiteSpace.contains c then
        bump
        return some ()
      else return none
    | none => return none) ()

/-- A decimal number with white space around it. What is wrong with it is told by the value, for
an unclosed brace is worse. -/
def count : Reader (Except Fault Nat) := do
  passWhiteSpace
  let start ← here
  let digits ← collect Char.isDigit
  let region ← regionFrom start
  passWhiteSpace
  return countOf digits region

def failUnclosedAtEnd (start : Position) : Reader Unit := do
  if ← atEnd then fail .repetitionUnclosed (← regionFrom start)

/-- The counts between braces, with the reader before the opening one. -/
def counts : Reader (Nat × Option Nat) := do
  let start ← here
  bumpSkip
  failUnclosedAtEnd start
  let first ← count
  failUnclosedAtEnd start
  if (← peek?) = some ',' then
    bumpSkip
    failUnclosedAtEnd start
    if (← peek?) = some '\x7d' then
      return (← first, none)
    else
      let least ← first
      let most ← count
      let most ← most
      return (least, some most)
  else
    let exact ← first
    return (exact, some exact)

/-- The counts, the closing brace and the sign of a reluctant repetition. -/
def countedOperator : Reader (Nat × Option Nat × Bool) := do
  let start ← here
  let (least, most) ← counts
  if (← peek?) ≠ some '\x7d' then fail .repetitionUnclosed (← regionFrom start)
  bumpSkip
  let reluctant ← accept "?"
  if most.any (· < least) then fail .repetitionRangeInvalid (← regionFrom start)
  return (least, most, !reluctant)

def plainOperator (c : Char) : Reader (Nat × Option Nat × Bool) := do
  bump
  let reluctant ← accept "?"
  return (if c = '+' then 1 else 0, if c = '?' then some 1 else none, !reluctant)

/-- Applies the operator `c` that comes next to the last of the parts, which are newest first. -/
def repetition (c : Char) (parts : List Tree) : Reader (List Tree) := do
  match parts with
  | [] => fail .repetitionMissing (.point (← here))
  | last :: before =>
    if !last.isRepeatable then fail .repetitionMissing (.point (← here))
    let (least, most, greedy) ← if c = '\x7b' then countedOperator else plainOperator c
    let region ← regionFrom last.region.start
    return .repetition region least most greedy last :: before

end Reader

end RegexExplainer.Pattern
