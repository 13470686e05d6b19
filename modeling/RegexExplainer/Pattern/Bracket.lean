import RegexExplainer.Pattern.Escape

/- Bracket expressions. -/
namespace RegexExplainer.Pattern

/-- The items read since an opening bracket or a set operator, newest first. -/
structure Items where
  region : Region
  reversed : List ClassTree

namespace Items

def none (p : Position) : Items := ⟨.point p, []⟩

def push (i : Items) (t : ClassTree) : Items :=
  let start := if i.reversed.isEmpty then t.region.start else i.region.start
  ⟨⟨start, t.region.stop⟩, t :: i.reversed⟩

def tree (i : Items) : ClassTree :=
  match i.reversed with
  | [] => .empty i.region
  | [t] => t
  | ts => .union i.region ts.reverse

end Items

/-- An open bracket: the items of the bracket around it, the region of its opening, its sign, and
the set operation that waits for its right side. -/
structure OpenBracket where
  outer : Items
  region : Region
  negated : Bool
  waiting : Option (SetOperation × ClassTree)

/-- What a bracket holds so far; set operations group to the left. -/
def OpenBracket.combined (b : OpenBracket) (items : Items) : ClassTree :=
  match b.waiting with
  | none => items.tree
  | some (op, left) =>
    .binary ⟨left.region.start, items.tree.region.stop⟩ op left items.tree

/-- A bracket expression in progress: the items being read, the bracket they are in, and those
around it. -/
structure BracketState where
  items : Items
  current : OpenBracket
  around : List OpenBracket

/-- A named class such as `[:^alpha:]`: its sign, its name, and its length in characters. -/
def posix? (t : Text) : Option (Bool × Posix × Nat) :=
  match t with
  | '[' :: ':' :: body =>
    let (negated, body) := match body with
      | '^' :: body => (true, body)
      | _ => (false, body)
    let name := body.takeWhile (· != ':')
    match body.dropWhile (· != ':') with
    | ':' :: ']' :: _ =>
      (Posix.ofName? (String.ofList name)).map fun cls =>
        (negated, cls, name.length + if negated then 5 else 4)
    | _ => none
  | _ => none

/-- The character after the next one, past blanks; a comment hides blanks only. -/
def afterNext? (r : Reading) : Option Char :=
  match r.rest with
  | [] => none
  | _ :: rest => if r.skipping then visible false rest rest.head? else rest.head?
where
  visible (comment : Bool) : Text → Option Char → Option Char
    | [], fallback => fallback
    | c :: rest, fallback =>
      if Unicode.whiteSpace.contains c then visible comment rest fallback
      else if !comment && c = '#' then visible true rest fallback
      else some c

namespace Reader

def atomInBracket : Reader Atom := do
  match ← peek? with
  | some '\\' => escape
  | some c =>
    let region ← ahead
    bump
    return .literal ⟨region, c, false⟩
  | none => fail .classUnclosed (.point (← here))

def classItem : Atom → Reader ClassTree
  | .literal l => return .literal l
  | .property region query negated => return .property region query negated
  | .perl region cls negated => return .perl region cls negated
  | a => fail .classEscapeInvalid a.region

def rangeEnd : Atom → Reader Literal
  | .literal l => return l
  | a => fail .classRangeLiteral a.region

/-- One item, or two with a hyphen between them. A hyphen before a closing bracket or before
another hyphen forms no range. -/
def classRange (opening : Region) : Reader ClassTree := do
  let first ← atomInBracket
  skip
  let next ← peek?
  if next = none then fail .classUnclosed opening
  let beyond := afterNext? (← get)
  if next ≠ some '-' ∨ beyond = some ']' ∨ beyond = some '-' then classItem first
  else
    bumpSkip
    if ← atEnd then fail .classUnclosed opening
    let last ← atomInBracket
    let region : Region := ⟨first.region.start, last.region.stop⟩
    let first ← rangeEnd first
    let last ← rangeEnd last
    if last.char < first.char then fail .classRangeInvalid region
    return .range region first last

/-- Hyphens right after the opening stand for themselves. -/
def leadingHyphens (start : Position) (items : Items) : Reader Items :=
  repeatWhile (fun items => do
    if (← peek?) = some '-' then
      let region ← ahead
      bumpSkip
      if ← atEnd then fail .classUnclosed (.point start)
      return some (items.push (.literal ⟨region, '-', false⟩))
    else return none) items

/-- The opening of a bracket expression up to its first item that needs no special reading, with
the reader before the bracket. A closing bracket that comes first stands for itself. -/
def openBracket (outer : Items) : Reader (OpenBracket × Items) := do
  let start ← here
  bumpSkip
  if ← atEnd then fail .classUnclosed (← regionFrom start)
  let negated := (← peek?) = some '^'
  if negated then
    bumpSkip
    if ← atEnd then fail .classUnclosed (← regionFrom start)
  let items ← leadingHyphens start (.none (← here))
  if items.reversed.isEmpty ∧ (← peek?) = some ']' then
    let region ← ahead
    bumpSkip
    if ← atEnd then fail .classUnclosed (← regionFrom start)
    return (⟨outer, ← regionFrom start, negated, none⟩,
      items.push (.literal ⟨region, ']', false⟩))
  else return (⟨outer, ← regionFrom start, negated, none⟩, items)

/-- A doubled `&`, `-` or `~` is a set operator. -/
def setOperator? : Reader (Option SetOperation) := do
  if ← accept "&&" then return some .intersection
  else if ← accept "--" then return some .difference
  else if ← accept "~~" then return some .symmetricDifference
  else return none

/-- Reads on from one item to the next. The finished expression ends the reading. -/
def bracketStep (s : BracketState) : Reader (BracketState ⊕ Tree) := do
  skip
  match ← peek? with
  | none => fail .classUnclosed s.current.region
  | some '[' =>
    let start ← here
    match posix? (← get).rest with
    | some (negated, cls, length) =>
      modify (Reading.drop length)
      return .inl { s with items := s.items.push (.posix (← regionFrom start) cls negated) }
    | none =>
      let (opened, items) ← openBracket s.items
      return .inl ⟨items, opened, s.current :: s.around⟩
  | some ']' =>
    bump
    let region := ⟨s.current.region.start, ← here⟩
    let inner := s.current.combined s.items
    match s.around with
    | [] => return .inr (.bracket region s.current.negated inner)
    | outer :: around =>
      return .inl ⟨s.current.outer.push (.bracket region s.current.negated inner), outer, around⟩
  | some _ =>
    match ← setOperator? with
    | some op =>
      let left := s.current.combined s.items
      let current := { s.current with waiting := some (op, left) }
      return .inl { s with items := .none (← here), current }
    | none =>
      let item ← classRange s.current.region
      return .inl { s with items := s.items.push item }

/-- A whole bracket expression, with the reader before the bracket. -/
def bracket : Reader Tree := do
  let (opened, items) ← openBracket (.none (← here))
  let last ← repeatWhile (fun
    | .inl s => some <$> bracketStep s
    | .inr _ => return none) (Sum.inl ⟨items, opened, []⟩)
  match last with
  | .inr t => return t
  | .inl s => fail .classUnclosed s.current.region

end Reader

end RegexExplainer.Pattern
