import SeccompBootstrap.Text.Characters

/-!
Text for a terminal: emphasis, which stands between the sequences that switch a style on and the one
that switches all of them off, and text without what steers a terminal, which are the control
characters other than line ends, tabs and form feeds, and the sequences that an escape character
begins.
-/

set_option autoImplicit false
set_option relaxedAutoImplicit false

namespace SeccompBootstrap.Text

/-- Why a text is emphasized: a heading, something to be typed literally, an alarm, or something
that is in doubt. -/
inductive Emphasis where
  | heading | literal | alarm | doubtful
  deriving DecidableEq, Repr

namespace Emphasis

/-- What switches the style on: bold and underlined, bold, bold and red, yellow. -/
def opening : Emphasis → String
  | .heading => "\x1b[1m\x1b[4m"
  | .literal => "\x1b[1m"
  | .alarm => "\x1b[1m\x1b[31m"
  | .doubtful => "\x1b[33m"

def closing : String := "\x1b[0m"

def mark (emphasis : Emphasis) (text : String) : String :=
  emphasis.opening ++ text ++ closing

end Emphasis

def heading : String → String := Emphasis.heading.mark

def literal : String → String := Emphasis.literal.mark

def alarm : String → String := Emphasis.alarm.mark

def doubtful : String → String := Emphasis.doubtful.mark

/-- The characters that shape lines rather than steer a terminal: tab, line feed, form feed and
carriage return. -/
def isLayout (c : Char) : Bool :=
  c = '\t' || c = '\n' || c = '\x0c' || c = '\r'

/-- The characters that a terminal shows, and those that shape lines. -/
def isShown (c : Char) : Bool :=
  (0x20 ≤ c.toNat && c.toNat ≠ 0x7F) || isLayout c

/-- Where in a control sequence a text is: in none; after the escape character, and after characters
that narrow down its meaning; among the parameters of a control; in a command to the terminal's
surroundings; in the head of a device control, which has parameters and narrowing characters too; in
a string that only its end mark leaves. -/
inductive Sequence where
  | none | escape | narrowed | parameters | command
  | device | deviceParameters | deviceNarrowed | content
  deriving DecidableEq, Repr

def between (low high c : Char) : Bool :=
  low ≤ c && c ≤ high

/-- What ends a string: a character in whose UTF-8 form the byte of the end mark occurs. -/
def endsContent (c : Char) : Bool :=
  (String.utf8EncodeChar c).contains 0x9C

namespace Sequence

def afterEscape (c : Char) : Sequence :=
  if between ' ' '/' c then .narrowed
  else if c = '[' then .parameters
  else if c = ']' then .command
  else if c = 'P' then .device
  else if c = 'X' || c = '^' || c = '_' then .content
  else if between '0' '~' c then .none
  else .escape

/-- Where the head of a device control goes on. Parameters come before narrowing characters, and a
private mark before all other parameters; a head that breaks this order is content. -/
def afterDevice (head : Sequence) (c : Char) : Sequence :=
  if between '@' '~' c then .content
  else if between ' ' '/' c then .deviceNarrowed
  else if between '0' '?' c then
    if head = .deviceNarrowed then .content
    else if head = .deviceParameters && between '<' '?' c then .content
    else .deviceParameters
  else head

def next (sequence : Sequence) (c : Char) : Sequence :=
  if c = '\x1b' then .escape
  else if c = '\x18' || c = '\x1a' then .none
  else match sequence with
    | .none => .none
    | .escape => afterEscape c
    | .narrowed => if between '0' '~' c then .none else .narrowed
    | .parameters => if between '@' '~' c then .none else .parameters
    | .command => if c = '\x07' then .none else .command
    | .device | .deviceParameters | .deviceNarrowed => afterDevice sequence c
    | .content => if endsContent c then .none else .content

/-- Whether characters that shape lines show inside a sequence. -/
def showsLayout : Sequence → Bool
  | .none | .escape | .narrowed | .parameters => true
  | _ => false

end Sequence

/-- How a text is read: the sequence it is in, and whether the sequence is suspended, so that text
shows until the next control character. -/
structure Reading where
  sequence : Sequence
  suspended : Bool
  deriving DecidableEq, Repr

namespace Reading

def start : Reading := ⟨.none, false⟩

def isOpen (reading : Reading) : Bool :=
  reading.suspended || reading.sequence = .none

def shows (reading : Reading) (c : Char) : Bool :=
  if reading.isOpen then isShown c else reading.sequence.showsLayout && isLayout c

/-- How reading goes on after a character that shows: one beyond ASCII drops a suspended sequence,
any other keeps it suspended. -/
def afterShown (reading : Reading) (c : Char) : Reading :=
  if 0x80 ≤ c.toNat then start else { reading with suspended := true }

def afterHidden (reading : Reading) (c : Char) : Reading :=
  ⟨reading.sequence.next c, false⟩

end Reading

def shownFrom : Reading → List Char → List Char
  | _, [] => []
  | reading, c :: cs =>
    if reading.shows c then c :: shownFrom (reading.afterShown c) cs
    else shownFrom (reading.afterHidden c) cs

def withoutControls (s : String) : String :=
  String.ofList (shownFrom .start s.toList)

end SeccompBootstrap.Text
