import RegexExplainer.Pattern.Bracket
import RegexExplainer.Pattern.Group
import RegexExplainer.Pattern.Repetition

/- Reading a whole pattern into a tree, and the bound on its nesting. -/
namespace RegexExplainer.Pattern

/-- The inside of a group in progress: where it began, its finished branches, where the current
branch began, and the parts of that; branches and parts are newest first. -/
structure Level where
  start : Position
  branches : List Tree
  branchStart : Position
  parts : List Tree

namespace Level

def empty (p : Position) : Level := ⟨p, [], p, []⟩

def branch (l : Level) (stop : Position) : Tree := .ofParts ⟨l.branchStart, stop⟩ l.parts.reverse

def push (l : Level) (t : Tree) : Level := { l with parts := t :: l.parts }

/-- Ends the current branch before `stop` and begins another at `next`. -/
def alternate (l : Level) (stop next : Position) : Level :=
  ⟨l.start, l.branch stop :: l.branches, next, []⟩

def finish (l : Level) (stop : Position) : Tree :=
  .ofBranches ⟨l.start, stop⟩ (l.branch stop :: l.branches).reverse

end Level

/-- An open group: its opening, its kind, the level around it and how blanks were read there. -/
structure OpenGroup where
  region : Region
  kind : GroupKind
  outer : Level
  skipping : Bool

structure ParseState where
  level : Level
  groups : List OpenGroup

def setSkipping (skipping : Bool) : Reader Unit := modify fun r => { r with skipping }

namespace ParseState

def start (p : Position) : ParseState := ⟨.empty p, []⟩

def push (s : ParseState) (t : Tree) : ParseState := { s with level := s.level.push t }

def openGroup (s : ParseState) : Reader ParseState := do
  let before := (← get).skipping
  match ← Reader.opening with
  | .flags region changes =>
    setSkipping (skippingAfter before changes)
    return s.push (.flags region changes)
  | .group region kind =>
    if let .plain changes := kind then setSkipping (skippingAfter before changes)
    return ⟨.empty (← Reader.here), ⟨region, kind, s.level, before⟩ :: s.groups⟩

def closeGroup (s : ParseState) : Reader ParseState := do
  match s.groups with
  | [] => Reader.fail .groupUnopened (← Reader.ahead)
  | g :: groups =>
    let stop ← Reader.here
    setSkipping g.skipping
    Reader.bump
    let region ← Reader.regionFrom g.region.start
    return ⟨g.outer.push (.group region g.kind (s.level.finish stop)), groups⟩

def alternate (s : ParseState) : Reader ParseState := do
  let stop ← Reader.here
  Reader.bump
  return { s with level := s.level.alternate stop (← Reader.here) }

/-- A character with no meaning of its own, or one of the three that stand for more. -/
def atom (s : ParseState) (c : Char) : Reader ParseState := do
  let region ← Reader.ahead
  Reader.bump
  return s.push (.atom (match c with
    | '.' => .dot region
    | '^' => .assertion region .lineStart
    | '$' => .assertion region .lineEnd
    | _ => .literal ⟨region, c, false⟩))

def step (s : ParseState) : Reader (Option ParseState) := do
  Reader.skip
  match ← Reader.peek? with
  | none => return none
  | some c => some <$> match c with
    | '(' => s.openGroup
    | ')' => s.closeGroup
    | '|' => s.alternate
    | '[' => return s.push (← Reader.bracket)
    | '\\' => return s.push (.atom (← Reader.escape))
    | '?' | '*' | '+' | '\x7b' =>
      return { s with level := { s.level with parts := ← Reader.repetition c s.level.parts } }
    | _ => s.atom c

def finish (s : ParseState) : Reader Tree := do
  match s.groups with
  | [] => return s.level.finish (← Reader.here)
  | g :: _ => Reader.fail .groupUnclosed g.region

end ParseState

def parse (t : Text) : Except Fault Tree := do
  let r := Reading.ofText t
  let (s, r) ← Reader.repeatWhile ParseState.step (.start r.position) r
  let (tree, _) ← s.finish r
  return tree

/-- The first region nested deeper than the limit, in reading order. -/
def enter (region : Region) (depth : Nat) (inside : Nat → Option Region) : Option Region :=
  if depth < nestLimit then inside (depth + 1) else some region

mutual

def ClassTree.tooDeep? (depth : Nat) : ClassTree → Option Region
  | .bracket region _ inner => enter region depth inner.tooDeep?
  | .union region items => enter region depth fun d => ClassTree.anyTooDeep? d items
  | .binary region _ left right =>
    enter region depth fun d => (left.tooDeep? d).or (right.tooDeep? d)
  | _ => none

def ClassTree.anyTooDeep? (depth : Nat) : List ClassTree → Option Region
  | [] => none
  | t :: ts => (t.tooDeep? depth).or (ClassTree.anyTooDeep? depth ts)

end

mutual

def Tree.tooDeep? (depth : Nat) : Tree → Option Region
  | .bracket region _ inner => enter region depth inner.tooDeep?
  | .repetition region _ _ _ sub => enter region depth sub.tooDeep?
  | .group region _ sub => enter region depth sub.tooDeep?
  | .alternation region branches => enter region depth fun d => Tree.anyTooDeep? d branches
  | .concat region parts => enter region depth fun d => Tree.anyTooDeep? d parts
  | _ => none

def Tree.anyTooDeep? (depth : Nat) : List Tree → Option Region
  | [] => none
  | t :: ts => (t.tooDeep? depth).or (Tree.anyTooDeep? depth ts)

end

def checkDepth (t : Tree) : Except Fault Unit :=
  match t.tooDeep? 0 with
  | none => .ok ()
  | some region => .error ⟨.nestLimitExceeded, region, none⟩

end RegexExplainer.Pattern
