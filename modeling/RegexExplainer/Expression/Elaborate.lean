import RegexExplainer.Expression.Basic
import RegexExplainer.Pattern.Fault
import RegexExplainer.Pattern.Tree
import RegexExplainer.Unicode.CaseFold

/- From trees to expressions, under the flags in force. -/
namespace RegexExplainer.Pattern

structure Flags where
  caseInsensitive : Bool
  multiLine : Bool
  dotMatchesNewLine : Bool
  swapGreed : Bool
  unicode : Bool
  crlf : Bool
deriving DecidableEq

namespace Flags

def initial : Flags := ⟨false, false, false, false, true, false⟩

def set (f : Flags) : Flag × Bool → Flags
  | (.caseInsensitive, on) => { f with caseInsensitive := on }
  | (.multiLine, on) => { f with multiLine := on }
  | (.dotMatchesNewLine, on) => { f with dotMatchesNewLine := on }
  | (.swapGreed, on) => { f with swapGreed := on }
  | (.unicode, on) => { f with unicode := on }
  | (.crlf, on) => { f with crlf := on }
  | (.ignoreSpace, _) => f

def apply (f : Flags) (changes : FlagChanges) : Flags := changes.foldl set f

def alphabet (f : Flags) : Alphabet := if f.unicode then .unicode else .ascii

def caseClosure (f : Flags) (s : CharSet) : CharSet :=
  if !f.caseInsensitive then s
  else if f.unicode then Unicode.caseClosure s
  else Unicode.asciiCaseClosure s

end Flags

def refuse {α : Type} (cause : Cause) (region : Region) : Except Fault α :=
  .error ⟨cause, region, none⟩

/-- Without the Unicode flag a set has to stay inside ASCII. -/
def onlyText (f : Flags) (region : Region) (s : CharSet) : Except Fault CharSet :=
  if f.unicode || s.isAscii then .ok s else refuse .invalidUtf8 region

def signed (negated : Bool) (s : CharSet) : CharSet := if negated then s.complement else s

/-- Case is closed over before a set is negated. -/
def closed (f : Flags) (region : Region) (negated : Bool) (s : CharSet) : Except Fault CharSet :=
  onlyText f region (signed negated (f.caseClosure s))

def Perl.charSet (unicode : Bool) : Perl → CharSet
  | .digit => if unicode then Unicode.decimalNumber else Posix.charSet .digit
  | .space => if unicode then Unicode.whiteSpace else Posix.charSet .space
  | .word => if unicode then Unicode.word else Posix.charSet .word

def perlSet (f : Flags) (region : Region) (cls : Perl) (negated : Bool) : Except Fault CharSet :=
  onlyText f region (signed negated (cls.charSet f.unicode))

def propertySet (f : Flags) (region : Region) (query : Unicode.PropertyQuery) (negated : Bool) :
    Except Fault CharSet :=
  if !f.unicode then refuse .unicodeNotAllowed region
  else match query.charSet with
    | .ok s => closed f region negated s
    | .error .unknownProperty => refuse .propertyUnknown region
    | .error .unknownValue => refuse .propertyValueUnknown region

/-- Without the Unicode flag a byte above ASCII is no text. -/
def Literal.value (f : Flags) (l : Literal) : Except Fault Char :=
  if !f.unicode && l.byte && l.char.toNat > 0x7F then refuse .invalidUtf8 l.region
  else .ok l.char

def Literal.classValue (f : Flags) (l : Literal) : Except Fault Char := do
  let c ← l.value f
  if !f.unicode && c.toNat > 0x7F then refuse .unicodeNotAllowed l.region else return c

def SetOperation.apply : SetOperation → CharSet → CharSet → CharSet
  | .intersection => .intersection
  | .difference => .difference
  | .symmetricDifference => .symmetricDifference

mutual

/-- The characters of a class. In brackets each set is joined to those before it, the first to the
empty set, so that no two intervals touch. -/
def ClassTree.charSet (f : Flags) : ClassTree → Except Fault CharSet
  | .empty _ => .ok .empty
  | .literal l => return .singleton (← l.classValue f)
  | .range _ first last => do
    let first ← first.classValue f
    let last ← last.classValue f
    return .range first.toNat last.toNat
  | .posix region cls negated => closed f region negated cls.charSet
  | .property region query negated => propertySet f region query negated
  | .perl region cls negated => perlSet f region cls negated
  | .bracket region negated inner => do closed f region negated (.empty ∪ (← inner.charSet f))
  | .union _ items => ClassTree.unionSet f .empty items
  | .binary _ op left right => do
    let left ← left.charSet f
    let right ← right.charSet f
    return op.apply (f.caseClosure (.empty ∪ left)) (f.caseClosure (.empty ∪ right))

def ClassTree.unionSet (f : Flags) (s : CharSet) : List ClassTree → Except Fault CharSet
  | [] => .ok s
  | t :: ts => do ClassTree.unionSet f (s ∪ (← t.charSet f)) ts

end

def lineFeed : CharSet := .singleton '\n'

def Flags.dotSet (f : Flags) : CharSet :=
  if f.dotMatchesNewLine then .any
  else if f.crlf then (lineFeed ∪ .singleton '\r').complement
  else lineFeed.complement

def Assertion.look (f : Flags) : Assertion → Look
  | .textStart => .textStart
  | .textEnd => .textEnd
  | .lineStart =>
    if !f.multiLine then .textStart else if f.crlf then .lineStartCrlf else .lineStart
  | .lineEnd => if !f.multiLine then .textEnd else if f.crlf then .lineEndCrlf else .lineEnd
  | .word => .word f.unicode
  | .notWord => .notWord f.unicode
  | .wordStart => .wordStart f.unicode
  | .wordEnd => .wordEnd f.unicode
  | .wordStartHalf => .wordStartHalf f.unicode
  | .wordEndHalf => .wordEndHalf f.unicode

def Atom.expression (f : Flags) : Atom → Except Fault Expression
  | .literal l => return .ofSet f.alphabet (f.caseClosure (.singleton (← l.value f)))
  | .dot region => if f.unicode then .ok (.ofSet .unicode f.dotSet) else refuse .invalidUtf8 region
  | .assertion _ a => .ok (.look (a.look f))
  | .property region query negated => .ofSet .unicode <$> propertySet f region query negated
  | .perl region cls negated => .ofSet f.alphabet <$> perlSet f region cls negated

mutual

/-- The expression, and the flags in force after it. A group gives back the flags it found. -/
def Tree.elaborate (f : Flags) : Tree → Except Fault (Expression × Flags)
  | .empty _ => .ok (.empty, f)
  | .flags _ changes => .ok (.empty, f.apply changes)
  | .atom a => return (← a.expression f, f)
  | .bracket region negated inner => do
    let s ← closed f region negated (.empty ∪ (← inner.charSet f))
    return (.ofSet f.alphabet s, f)
  | .repetition _ least most greedy sub => do
    let (e, after) ← sub.elaborate f
    return (.repeated least most (greedy != after.swapGreed) e, after)
  | .group _ (.capture index) sub => do
    let (e, _) ← sub.elaborate f
    return (.capture index e, f)
  | .group _ (.plain changes) sub => do
    let (e, _) ← sub.elaborate (f.apply changes)
    return (e, f)
  | .alternation _ branches => do
    let (es, after) ← Tree.elaborateAll f branches
    return (.choice es, after)
  | .concat _ parts => do
    let (es, after) ← Tree.elaborateAll f parts
    return (.sequence es, after)

def Tree.elaborateAll (f : Flags) : List Tree → Except Fault (List Expression × Flags)
  | [] => .ok ([], f)
  | t :: ts => do
    let (e, after) ← t.elaborate f
    let (es, last) ← Tree.elaborateAll after ts
    return (e :: es, last)

end

end RegexExplainer.Pattern
