import RegexExplainer.CharSet
import RegexExplainer.Expression.Basic

/- The memory that an expression takes as a machine over bytes. Texts side by side take that of a
tree of their bytes, in which texts that begin alike share their beginning. -/
namespace RegexExplainer.TextTree

/-- The texts that begin with a byte, without it. -/
def behind (b : UInt8) (texts : List (List UInt8)) : List (List UInt8) :=
  texts.filterMap fun
    | c :: rest => if c = b then some rest else none
    | [] => none

/-- A text that ends where others go on parts those before it from those after it. -/
def runs (texts : List (List UInt8)) : List (List (List UInt8)) :=
  (texts.splitBy fun s t => !s.isEmpty && !t.isEmpty).filter fun run => run.all (!·.isEmpty)

/-- How many ends are told from each other. Ends before all other texts are one. -/
def ends (texts : List (List UInt8)) : Nat :=
  (texts.dropWhile List.isEmpty).countP List.isEmpty + if texts.head?.any List.isEmpty then 1 else 0

/-- The first bytes of some texts. -/
def firstBytes (texts : List (List UInt8)) : List UInt8 := (texts.filterMap List.head?).eraseDups

/-- Adds up a cost over the branchings of a tree of texts of at most `n` bytes. The cost of one is
told by the number of its ends and by the number of first bytes in each run. -/
def total (cost : Nat → List Nat → Nat) : Nat → List (List UInt8) → Nat
  | 0, _ => 0
  | n + 1, texts =>
    if texts.all List.isEmpty then 0
    else
      cost (ends texts) ((runs texts).map fun run => (firstBytes run).length) +
        ((runs texts).flatMap fun run =>
          (firstBytes run).map fun b => total cost n (behind b run)).foldl (· + ·) 0

end RegexExplainer.TextTree

namespace RegexExplainer

/-- Matches are read forwards, and their starts are found backwards. -/
inductive Direction
  | forward | backward
deriving DecidableEq

/-- Bytes of a state. -/
def stateBytes : Nat := 32

/-- Bytes that a state takes for each further state it goes to unseen. -/
def branchBytes : Nat := 4

/-- Bytes that a state takes for each interval of bytes. -/
def intervalBytes : Nat := 8

/-- A state that leaves open two ways on. -/
def forkBytes : Nat := stateBytes + 2 * branchBytes

namespace CharSet

/-- A state that tests for a byte, and one behind it. -/
def byteFootprint (intervals : Nat) : Nat := 2 * stateBytes + intervals * intervalBytes

/-- Beyond ASCII, forwards there is a state for each branching of the bytes, where equal ones are
one; backwards there is one for each beginning of a character, and none are shared. -/
def footprint (d : Direction) (s : CharSet) : Nat :=
  if s.isAscii then byteFootprint s.intervals.length
  else
    let branchings := ByteForm.branchings 4 s.byteForms
    match d with
    | .forward =>
      stateBytes + (branchings.eraseDups.map fun forms =>
        stateBytes + (ByteForm.rests forms).length * intervalBytes).foldl (· + ·) 0
    | .backward =>
      2 * stateBytes + s.byteForms.length * branchBytes +
        (branchings.map fun forms => (ByteForm.rests forms).length).foldl (· + ·) 0 * stateBytes

end CharSet

namespace Expression

/-- A choice between texts is a tree. -/
def treeFootprint (d : Direction) (texts : List Text) : Nat :=
  let bytes := texts.map fun t =>
    match d with
    | .forward => Text.encode t
    | .backward => (Text.encode t).reverse
  let cost (ends : Nat) (runs : List Nat) := stateBytes + (ends + runs.length) * branchBytes +
    (runs.map fun n => stateBytes + if n = 1 then 0 else n * intervalBytes).foldl (· + ·) 0
  stateBytes + TextTree.total cost ((bytes.map List.length).foldl max 0) bytes

/-- The states of an expression. A branch has its place in the state in front of the choice; the
branches that a choice has left are no choice of their own. -/
def footprint (d : Direction) (branch : Bool) : Expression → Nat
  | empty => place + stateBytes
  | char _ s =>
    place + match s.only? with
      | some c => c.utf8Size * stateBytes
      | none => s.footprint d
  | look _ => place + stateBytes
  | capture _ e =>
    place + e.footprint d false + if d = .forward then 2 * stateBytes else 0
  | seq e f => place + e.footprint d false + f.footprint d false
  | alt e f =>
    let each := e.footprint d true + f.footprint d true
    if branch then each
    else
      match (alt e f).branches.mapM text? with
      | some texts => treeFootprint d texts
      | none => 2 * stateBytes + each
  | repetition 0 (some 1) _ e => place + forkBytes + stateBytes + e.footprint d false
  | repetition 0 none _ e =>
    place + e.footprint d false + if e.consumes then forkBytes else 2 * forkBytes + stateBytes
  | repetition least none _ e => place + least * e.footprint d false + forkBytes
  | repetition least (some most) _ e =>
    let always := if least = 0 then stateBytes else least * e.footprint d false
    if most ≤ least then place + always
    else place + always + stateBytes + (most - least) * (forkBytes + e.footprint d false)
where
  place : Nat := if branch then branchBytes else 0

/-- Whether a match can only begin where the text does. -/
def startsText : Expression → Bool
  | look .textStart => true
  | capture _ e => e.startsText
  | seq e f => e.startsText || (e.onlyEmpty && f.startsText)
  | alt e f => e.startsText && f.startsText
  | repetition least _ _ e => 0 < least && e.startsText
  | _ => false

/-- The whole machine. It passes over what stands before a match, if a match may begin later, and
notes where the match begins and ends. -/
def machineFootprint (d : Direction) (e : Expression) : Nat :=
  let before := if e.startsText then stateBytes else forkBytes + CharSet.byteFootprint 1
  before + (capture 0 e).footprint d false + stateBytes

/-- Most bytes that a machine may take. -/
def footprintLimit : Nat := 10485760

/-- A choice between this many texts needs no machine. -/
def wordListLength : Nat := 3000

def isWordList (e : Expression) : Bool :=
  wordListLength ≤ e.branches.length && e.branches.all fun f => f.text?.isSome

def fits (e : Expression) : Bool :=
  e.isWordList ||
    (e.machineFootprint .forward ≤ footprintLimit && e.machineFootprint .backward ≤ footprintLimit)

end Expression

end RegexExplainer
