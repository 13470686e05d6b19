import RegexExplainer.Text.Basic

/- Text as it is shown where nothing obeys the control sequences of terminals: without them. -/
namespace RegexExplainer

/-- What is being read: text, or a part of a control sequence. Parameters end with a letter or the
like, a command with a bell; the body of a string ends with a terminator, and its header, where it
has one, when a character reaches a least code. -/
inductive ControlState
  | text
  | escape
  | selector
  | parameters
  | command
  | header (least : Nat)
  | body
deriving DecidableEq

namespace ControlState

/-- After the escape character. -/
def escaped (c : Char) : ControlState :=
  if c = '[' then parameters
  else if c = ']' then command
  else if c = 'P' then header 0x40
  else if c = 'X' ∨ c = '^' ∨ c = '_' then body
  else if ' ' ≤ c ∧ c ≤ '/' then selector
  else if '0' ≤ c ∧ c ≤ '~' then text
  else escape

/-- In a header digits may be followed by selecting characters. Nothing of either kind can come
after those. -/
def headed (least : Nat) (c : Char) : ControlState :=
  if ' ' ≤ c ∧ c ≤ '/' then header 0x30
  else if '0' ≤ c ∧ c ≤ '~' then if least ≤ c.toNat then body else header 0x3C
  else header least

/-- The byte that ends a string may be any byte of a character. -/
def terminator : UInt8 := 0x9C

/-- The state behind a character. The escape character begins a sequence in any state, and two
others end it. -/
def next (q : ControlState) (c : Char) : ControlState :=
  if c = '\x1b' then escape
  else if c = '\x18' ∨ c = '\x1a' then text
  else match q with
    | text => text
    | escape => escaped c
    | selector => if '0' ≤ c ∧ c ≤ '~' then text else selector
    | parameters => if '@' ≤ c ∧ c ≤ '~' then text else parameters
    | command => if c = '\x07' then text else command
    | header least => headed least c
    | body => if (String.utf8EncodeChar c).contains terminator then text else body

def isGraphic (c : Char) : Bool := ' ' ≤ c && c != '\x7f'

def isLayout (c : Char) : Bool := c == '\t' || c == '\n' || c == '\x0c' || c == '\r'

/-- Layout is shown also in the middle of a sequence, unless a string is being read. -/
def shows (q : ControlState) (c : Char) : Bool :=
  match q with
  | text => isGraphic c || isLayout c
  | escape | selector | parameters => isLayout c
  | command | header _ | body => false

/-- What a text shows. A character that is shown ends the sequence it stands in; only ASCII can
stand in one. -/
def plain? (q : ControlState) : Text → Option Text
  | [] => some []
  | c :: t =>
    if q.shows c then (plain? text t).map (c :: ·)
    else if c.toNat ≤ 0x7F then plain? (q.next c) t
    else none

/-- What a stream shows. Characters shown in the middle of a sequence run on up to the next control
character, and there the sequence goes on, unless one was beyond ASCII. -/
def streamed (q : ControlState) (showing : Bool) : Text → Text
  | [] => []
  | c :: t =>
    if q.shows c || (showing && text.shows c) then
      c :: streamed (if c.toNat ≤ 0x7F then q else text) true t
    else streamed (q.next c) false t

end ControlState

namespace Text

def plain? (t : Text) : Option Text := ControlState.text.plain? t

def streamed (t : Text) : Text := ControlState.text.streamed false t

end Text

end RegexExplainer
