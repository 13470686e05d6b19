import RegexExplainer.Pattern.Reader
import RegexExplainer.Pattern.Tree
import RegexExplainer.Unicode.Alphabetic

/- The openings of groups, and flags. -/
namespace RegexExplainer.Pattern

def isNameChar (first : Bool) (c : Char) : Bool :=
  c == '_' ||
    if first then Unicode.nameLetter.contains c
    else c == '.' || c == '[' || c == ']' || Unicode.nameAlphanumeric.contains c

def Flag.ofChar? : Char → Option Flag
  | 'i' => some .caseInsensitive
  | 'm' => some .multiLine
  | 's' => some .dotMatchesNewLine
  | 'U' => some .swapGreed
  | 'u' => some .unicode
  | 'R' => some .crlf
  | 'x' => some .ignoreSpace
  | _ => none

/-- Flags read so far, newest first, each with its place, and the place of the negation. -/
structure FlagState where
  flags : List (Flag × Bool × Region)
  negation : Option Region
  dangling : Bool

/-- What a group begins with: a group, or a change of flags up to the end of the group around. -/
inductive Opening
  | group (region : Region) (kind : GroupKind)
  | flags (region : Region) (changes : FlagChanges)

/-- The last setting of the flag for blanks. -/
def skippingAfter (before : Bool) (changes : FlagChanges) : Bool :=
  (changes.lookup .ignoreSpace).getD before

namespace Reader

/-- A group name up to the closing angle bracket. -/
def groupName : Reader Unit := do
  let start ← here
  let reversed ← repeatWhile (fun taken => do
    match ← peek? with
    | none => return none
    | some '>' => return none
    | some c =>
      if !isNameChar taken.isEmpty c then fail .groupNameInvalid (← ahead)
      bump
      return some (c :: taken)) ([] : Text)
  if ← atEnd then fail .groupNameUnclosed (.point (← here))
  let region ← regionFrom start
  bump
  let name := reversed.reverse
  if name.isEmpty then fail .groupNameEmpty (.point start)
  match (← get).names.lookup name with
  | some earlier => throw ⟨.groupNameDuplicate, region, some earlier⟩
  | none => modify fun r => { r with names := (name, region) :: r.names }

def flagStep (s : FlagState) : Reader (Option FlagState) := do
  match ← peek? with
  | none => return none
  | some c =>
    if c = ':' ∨ c = ')' then return none
    let region ← ahead
    let next : FlagState ← if c = '-' then
        match s.negation with
        | some earlier => throw ⟨.flagRepeatedNegation, region, some earlier⟩
        | none => pure { s with negation := some region, dangling := true }
      else
        match Flag.ofChar? c with
        | none => fail .flagUnrecognized region
        | some flag =>
          match s.flags.lookup flag with
          | some (_, earlier) => throw ⟨.flagDuplicate, region, some earlier⟩
          | none =>
            pure { s with
              flags := (flag, s.negation.isNone, region) :: s.flags, dangling := false }
    bump
    if ← atEnd then fail .flagMissing (.point (← here))
    return some next

/-- Flags up to a colon or a closing parenthesis, and whether anything was written. -/
def flags : Reader (FlagChanges × Bool) := do
  let s ← repeatWhile flagStep ⟨[], none, false⟩
  if s.dangling then
    if let some region := s.negation then fail .flagDanglingNegation region
  let changes := s.flags.reverse.map fun (flag, on, _) => (flag, on)
  return (changes, !changes.isEmpty || s.negation.isSome)

def capture (region : Region) : Reader Opening := do
  let r ← get
  set { r with groups := r.groups + 1 }
  return .group region (.capture (r.groups + 1))

def anyAccepted : List String → Reader Bool
  | [] => return false
  | s :: more => do if ← accept s then return true else anyAccepted more

/-- The opening of a group, with the reader before the parenthesis. -/
def opening : Reader Opening := do
  let region ← ahead
  bump
  skip
  if ← anyAccepted ["?=", "?!", "?<=", "?<!"] then
    fail .lookAround (← regionFrom region.start)
  let inner ← here
  if ← anyAccepted ["?P<", "?<"] then
    let group ← capture region
    groupName
    return group
  else if ← accept "?" then
    if ← atEnd then fail .groupUnclosed region
    let (changes, written) ← flags
    let last ← peek?
    bump
    if last = some ')' then
      if !written then fail .repetitionMissing (.point inner)
      return .flags (← regionFrom region.start) changes
    else return .group region (.plain changes)
  else capture region

end Reader

end RegexExplainer.Pattern
