import SeccompBootstrap.Binary64
import SeccompBootstrap.Text.Characters
import SeccompBootstrap.Text.Quoted

/-!
JSON values, and why and where reading them stops. A number is an integer as long as it is written
without fraction and exponent and fits 64 bits; every other number is a binary64 value. The members
of an object keep their order, with repeated keys. A reader works on the unread characters and
reports a `Fault`: the cause, the characters unread at that point and how many bytes of them count
as read. `locate` turns it into a line and a column of the whole text, both counted in bytes.
-/

set_option autoImplicit false
set_option relaxedAutoImplicit false

namespace SeccompBootstrap.Json

inductive Number where
  | integer (value : Int)
  | real (negative : Bool) (magnitude : Binary64.Magnitude)
  deriving DecidableEq, Repr

def Number.text : Number → String
  | .integer value => toString value
  | .real negative magnitude =>
    String.ofList ((if negative then ['-'] else []) ++ magnitude.text)

inductive Value where
  | null
  | boolean (value : Bool)
  | number (value : Number)
  | string (value : String)
  | array (elements : List Value)
  | object (members : List (String × Value))

def lastMember? (members : List (String × Value)) (key : String) : Option Value :=
  members.foldl (fun found member => if member.1 = key then some member.2 else found) none

/-- The kind of a value, with its content where a message shows it. -/
inductive Found where
  | null
  | boolean (value : Bool)
  | number (value : Number)
  | string (value : String)
  | sequence
  | map
  deriving DecidableEq, Repr

def Value.found : Value → Found
  | .null => .null
  | .boolean value => .boolean value
  | .number value => .number value
  | .string value => .string value
  | .array _ => .sequence
  | .object _ => .map

def Found.text : Found → String
  | .null => "null"
  | .boolean value => s!"boolean `{value}`"
  | .number (.integer value) => s!"integer `{value}`"
  | .number (.real negative magnitude) =>
    "floating point `" ++ (Number.real negative magnitude).text ++ "`"
  | .string value => "string " ++ Text.quote value
  | .sequence => "sequence"
  | .map => "map"

inductive Cause where
  | endInList
  | endInObject
  | endInString
  | endInValue
  | expectedColon
  | expectedListCommaOrEnd
  | expectedObjectCommaOrEnd
  | expectedLiteral
  | expectedValue
  | invalidEscape
  | invalidNumber
  | numberOutOfRange
  | keyMustBeString
  | controlCharacter
  | loneSurrogate
  | unfinishedSurrogate
  | trailingComma
  | trailingCharacters
  | tooDeep
  | invalidType (found : Found) (expected : String)
  | invalidValue (found : Found) (expected : String)
  | duplicateField (name : String)
  deriving DecidableEq, Repr

def Cause.message : Cause → String
  | .endInList => "EOF while parsing a list"
  | .endInObject => "EOF while parsing an object"
  | .endInString => "EOF while parsing a string"
  | .endInValue => "EOF while parsing a value"
  | .expectedColon => "expected `:`"
  | .expectedListCommaOrEnd => "expected `,` or `]`"
  | .expectedObjectCommaOrEnd => "expected `,` or `\x7d`"
  | .expectedLiteral => "expected ident"
  | .expectedValue => "expected value"
  | .invalidEscape => "invalid escape"
  | .invalidNumber => "invalid number"
  | .numberOutOfRange => "number out of range"
  | .keyMustBeString => "key must be a string"
  | .controlCharacter => "control character (\\u0000-\\u001F) found while parsing a string"
  | .loneSurrogate => "lone leading surrogate in hex escape"
  | .unfinishedSurrogate => "unexpected end of hex escape"
  | .trailingComma => "trailing comma"
  | .trailingCharacters => "trailing characters"
  | .tooDeep => "recursion limit exceeded"
  | .invalidType found expected => "invalid type: " ++ found.text ++ ", expected " ++ expected
  | .invalidValue found expected => "invalid value: " ++ found.text ++ ", expected " ++ expected
  | .duplicateField name => "duplicate field `" ++ name ++ "`"

/-- A place in a text: the line from one, and the bytes read of that line. -/
structure Position where
  line : Nat
  column : Nat
  deriving DecidableEq, Repr

def Position.after (bytes : List UInt8) (count : Nat) : Position :=
  let read := bytes.take count
  { line := read.count 0x0A + 1
    column := (read.reverse.takeWhile (· != 0x0A)).length }

/-- A refusal: its cause and, unless a value that was already read is refused, its place. -/
structure Failure where
  cause : Cause
  position : Option Position
  deriving DecidableEq, Repr

def Failure.message (failure : Failure) : String :=
  match failure.position with
  | none => failure.cause.message
  | some place =>
    failure.cause.message ++ s!" at line {place.line} column {place.column}"

abbrev Input := List Char

/-- A refusal in terms of the unread characters. -/
structure Fault where
  cause : Cause
  rest : Input
  ahead : Nat
  deriving DecidableEq, Repr

def stop {α : Type} (cause : Cause) (rest : Input) : Except Fault α :=
  .error ⟨cause, rest, 0⟩

/-- A fault that counts the next byte as read, if there is one. -/
def stopPast {α : Type} (cause : Cause) (rest : Input) : Except Fault α :=
  .error ⟨cause, rest, 1⟩

def Fault.locate (text : List Char) (fault : Fault) : Failure :=
  let bytes := Text.Utf8.encode text
  let unread := (Text.Utf8.encode fault.rest).length
  let offset := bytes.length - unread + min fault.ahead unread
  ⟨fault.cause, some (.after bytes offset)⟩

end SeccompBootstrap.Json

namespace SeccompBootstrap

variable {ε α β : Type} {rest : α → Except ε β}

theorem ok_bind (a : α) : (Except.ok a >>= rest) = rest a :=
  rfl

theorem error_bind (error : ε) : (Except.error error >>= rest) = .error error :=
  rfl

theorem bind_eq_ok {step : Except ε α} {b : β} :
    (step >>= rest) = .ok b ↔ ∃ a, step = .ok a ∧ rest a = .ok b := by
  cases step with
  | error error => simp [error_bind]
  | ok a => simp [ok_bind]

end SeccompBootstrap
