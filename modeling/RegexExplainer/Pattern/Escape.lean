import RegexExplainer.Pattern.Reader
import RegexExplainer.Pattern.Tree

/- What a backslash introduces. -/
namespace RegexExplainer.Pattern

/-- Characters with a meaning of their own, which a backslash takes from them. -/
def isMeta (c : Char) : Bool := "\\.+*?()|[]\x7b\x7d^$#&-~".toList.contains c

/-- Letters and digits are kept for escapes with a meaning, and so are angle brackets. -/
def isEscapable (c : Char) : Bool :=
  isMeta c || (c.toNat ≤ 0x7F && !c.isAlphanum && c != '<' && c != '>')

def isHexDigit (c : Char) : Bool := c.isDigit || ('a' ≤ c && c ≤ 'f') || ('A' ≤ c && c ≤ 'F')

def hexDigitValue (c : Char) : Nat :=
  if c.isDigit then c.toNat - '0'.toNat
  else if 'a' ≤ c then c.toNat - 'a'.toNat + 10
  else c.toNat - 'A'.toNat + 10

def hexValue (digits : Text) : Nat := digits.foldl (fun n c => n * 16 + hexDigitValue c) 0

/-- The character with a code point, if there is one. -/
def charOf? (n : Nat) : Option Char := if n.isValidChar then some (Char.ofNat n) else none

namespace Reader

/-- Hexadecimal digits between braces, with the reader before the opening one. -/
def hexBraced : Reader Char := do
  let brace ← here
  let start := (← ahead).stop
  bumpSkip
  let digits ← collect isHexDigit
  match ← peek? with
  | none => fail .escapeIncomplete (← regionFrom brace)
  | some c =>
    if c ≠ '\x7d' then fail .hexInvalidDigit (← ahead)
    let stop ← here
    bumpSkip
    if digits.isEmpty then fail .hexEmpty (← regionFrom brace)
    match charOf? (hexValue digits) with
    | some c => return c
    | none => fail .hexInvalid ⟨start, stop⟩

def hexDigit : Reader Char := do
  match ← peek? with
  | none => fail .escapeIncomplete (.point (← here))
  | some c =>
    if !isHexDigit c then fail .hexInvalidDigit (← ahead)
    bumpSkip
    return c

def hexDigits : Nat → Reader Text
  | 0 => return []
  | n + 1 => do
    let c ← hexDigit
    return c :: (← hexDigits n)

/-- A character written by exactly `n` hexadecimal digits. -/
def hexFixed (n : Nat) : Reader Char := do
  let start ← here
  let digits ← hexDigits n
  match charOf? (hexValue digits) with
  | some c => return c
  | none => fail .hexInvalid (← regionFrom start)

/-- The character that `\x`, `\u` or `\U` names, with the reader before the letter. -/
def hexEscape (start : Position) (letter : Char) : Reader Atom := do
  bumpSkip
  match ← peek? with
  | none => fail .escapeIncomplete (.point (← here))
  | some '\x7b' =>
    let c ← hexBraced
    return .literal ⟨← regionFrom start, c, false⟩
  | some _ =>
    let c ← hexFixed (if letter = 'x' then 2 else if letter = 'u' then 4 else 8)
    return .literal ⟨← regionFrom start, c, letter = 'x'⟩

end Reader

/-- Cuts around the first place where `sep` stands. -/
def cutAround? (sep : Text) : Text → Option (Text × Text)
  | [] => none
  | c :: t =>
    if sep.isPrefixOf (c :: t) then some ([], (c :: t).drop sep.length)
    else (cutAround? sep t).map fun (before, after) => (c :: before, after)

/-- A name, or a property and a value parted by `!=`, else by `:`, else by `=`, and whether the
value has to differ. -/
def propertyQuery (t : Text) : Unicode.PropertyQuery × Bool :=
  match cutAround? ['!', '='] t with
  | some (property, value) => (.valued property value, true)
  | none =>
    match (cutAround? [':'] t).or (cutAround? ['='] t) with
    | some (property, value) => (.valued property value, false)
    | none => (.named t, false)

def boundaryNamed? (name : String) : Option Assertion :=
  match name with
  | "start" => some .wordStart
  | "end" => some .wordEnd
  | "start-half" => some .wordStartHalf
  | "end-half" => some .wordEndHalf
  | _ => none

def isBoundaryNameChar (c : Char) : Bool := c.isAlpha || c == '-'

namespace Reader

/-- The class that `\p` or `\P` names, with the reader before the letter. -/
def propertyEscape (start : Position) (negated : Bool) : Reader Atom := do
  bumpSkip
  match ← peek? with
  | none => fail .escapeIncomplete (.point (← here))
  | some '\x7b' =>
    bumpSkip
    let content ← collect (· != '\x7d')
    if ← atEnd then fail .escapeIncomplete (.point (← here))
    bump
    let (query, differs) := propertyQuery content
    return .property (← regionFrom start) query (negated != differs)
  | some '\\' => fail .propertySyntax (← ahead)
  | some c =>
    bumpSkip
    return .property (← regionFrom start) (.named [c]) negated

/-- After `\b`: the name of a special word boundary in braces. Braces that hold no letter first
belong to a counted repetition and are left alone. -/
def boundaryName (start : Position) : Reader Assertion := do
  if (← peek?) ≠ some '\x7b' then return .word
  let before ← get
  let brace ← here
  bumpSkip
  match ← peek? with
  | none => fail .wordBoundaryIncomplete (← regionFrom start)
  | some c =>
    if !isBoundaryNameChar c then
      set before
      return .word
    let nameStart ← here
    let name ← collect isBoundaryNameChar
    if (← peek?) ≠ some '\x7d' then fail .wordBoundaryUnclosed (← regionFrom brace)
    let nameRegion ← regionFrom nameStart
    bump
    match boundaryNamed? (String.ofList name) with
    | some a => return a
    | none => fail .wordBoundaryUnrecognized nameRegion

/-- The characters of control escapes. -/
def controlEscapes : List (Char × Char) :=
  [('a', '\x07'), ('f', '\x0C'), ('t', '\t'), ('n', '\n'), ('r', '\r'), ('v', '\x0B')]

def perlEscapes : List (Char × Perl × Bool) :=
  [('d', .digit, false), ('s', .space, false), ('w', .word, false), ('D', .digit, true),
    ('S', .space, true), ('W', .word, true)]

def assertionEscapes : List (Char × Assertion) :=
  [('A', .textStart), ('z', .textEnd), ('B', .notWord), ('<', .wordStart), ('>', .wordEnd)]

/-- An escape of one letter or one punctuation character. -/
def shortEscape (start : Position) (c : Char) : Reader Atom := do
  bump
  let region ← regionFrom start
  if isEscapable c then return .literal ⟨region, c, false⟩
  if let some (cls, negated) := perlEscapes.lookup c then return .perl region cls negated
  if let some control := controlEscapes.lookup c then return .literal ⟨region, control, false⟩
  if let some a := assertionEscapes.lookup c then return .assertion region a
  if c = 'b' then
    let a ← boundaryName start
    let named ← regionFrom start
    return .assertion (if a = .word then region else named) a
  fail .escapeUnrecognized region

/-- An escape, with the reader before the backslash. -/
def escape : Reader Atom := do
  let start ← here
  bump
  match ← peek? with
  | none => fail .escapeIncomplete (← regionFrom start)
  | some c =>
    if c.isDigit then fail .backreference ⟨start, (← ahead).stop⟩
    else if c = 'x' ∨ c = 'u' ∨ c = 'U' then hexEscape start c
    else if c = 'p' ∨ c = 'P' then propertyEscape start (c = 'P')
    else shortEscape start c

end Reader

end RegexExplainer.Pattern
