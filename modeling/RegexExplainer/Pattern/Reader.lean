import RegexExplainer.Pattern.Fault
import RegexExplainer.Unicode.Separator

/- Reading a pattern character by character. -/
namespace RegexExplainer.Pattern

/-- Where the reading of a pattern stands: the text ahead, the offset where that ends, whether
blanks and comments are skipped, how many capturing groups were opened, and their names with the
places of these. -/
structure Reading where
  position : Position
  rest : Text
  stop : Nat
  skipping : Bool
  groups : Nat
  names : List (Text × Region)

namespace Reading

def ofText (t : Text) : Reading := ⟨.origin, t, t.size, false, 0, []⟩

/-- Bytes still to be read. -/
def remaining (r : Reading) : Nat := r.stop - r.position.offset

def bump (r : Reading) : Reading :=
  match r.rest with
  | [] => r
  | c :: rest => { r with position := r.position.advance c, rest }

/-- The region of the next character. -/
def ahead (r : Reading) : Region := ⟨r.position, r.bump.position⟩

def drop : Nat → Reading → Reading
  | 0, r => r
  | n + 1, r => drop n r.bump

/-- Passes blanks and comments, which go from `#` to the end of the line. -/
def skipBlankFrom (comment : Bool) : Position → Text → Position × Text
  | p, [] => (p, [])
  | p, c :: rest =>
    if comment then skipBlankFrom (c != '\n') (p.advance c) rest
    else if Unicode.whiteSpace.contains c then skipBlankFrom false (p.advance c) rest
    else if c = '#' then skipBlankFrom true (p.advance c) rest
    else (p, c :: rest)

def skip (r : Reading) : Reading :=
  if r.skipping then
    let (position, rest) := skipBlankFrom false r.position r.rest
    { r with position, rest }
  else r

end Reading

abbrev Reader := StateT Reading (Except Fault)

namespace Reader

def fail {α : Type} (cause : Cause) (region : Region) : Reader α :=
  throw ⟨cause, region, none⟩

def here : Reader Position := return (← get).position

/-- From a position up to here. -/
def regionFrom (start : Position) : Reader Region := return ⟨start, ← here⟩

/-- The region of the next character. -/
def ahead : Reader Region := return (← get).ahead

def peek? : Reader (Option Char) := return (← get).rest.head?

def atEnd : Reader Bool := return (← get).rest.isEmpty

def bump : Reader Unit := modify Reading.bump

def skip : Reader Unit := modify Reading.skip

def bumpSkip : Reader Unit := do bump; skip

/-- Passes `s` if it comes next. -/
def accept (s : String) : Reader Bool := do
  let r ← get
  if s.toList.isPrefixOf r.rest then
    set (r.drop s.length)
    return true
  else return false

/-- Repeats `step` on its own result until it gives none or reads nothing. -/
def repeatWhile {σ : Type} (step : σ → Reader (Option σ)) (s : σ) (r : Reading) :
    Except Fault (σ × Reading) :=
  match step s r with
  | .error e => .error e
  | .ok (none, r') => .ok (s, r')
  | .ok (some s', r') =>
    if r'.remaining < r.remaining then repeatWhile step s' r' else .ok (s', r')
termination_by r.remaining

/-- Collects characters while `p` holds of the next one, skipping after each. -/
def collect (p : Char → Bool) : Reader Text := do
  let reversed ← repeatWhile (fun taken => do
    match ← peek? with
    | some c =>
      if p c then
        bumpSkip
        return some (c :: taken)
      else return none
    | none => return none) []
  return reversed.reverse

end Reader

end RegexExplainer.Pattern
