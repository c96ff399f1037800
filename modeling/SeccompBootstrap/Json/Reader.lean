import SeccompBootstrap.Json.Numeral
import SeccompBootstrap.Json.StringLiteral

/-!
Reading JSON texts. Lists and objects are read entry by entry: `nextElement` and `nextKey` say where
the next entry begins or that the closing bracket follows, `endList` and `endObject` take that
bracket. A value that is built may be nested to a fixed depth. A value that nobody asks for is
passed over: it must be well formed, but it may be nested to any depth, its numbers may be of any
size and its string escapes need not form pairs. A value of a required type is refused where its
kind becomes known: scalars are read to their end, lists and objects are not entered.
-/

set_option autoImplicit false
set_option relaxedAutoImplicit false

namespace SeccompBootstrap.Json

def isSpacing (c : Char) : Bool :=
  c = ' ' || c = '\n' || c = '\t' || c = '\r'

def skipSpacing (cs : Input) : Input :=
  cs.dropWhile isSpacing

def expectRest : List Char → Input → Except Fault Input
  | [], cs => .ok cs
  | _ :: _, [] => stop .endInValue []
  | w :: ws, c :: rest =>
    if c = w then expectRest ws rest else stopPast .expectedLiteral (c :: rest)

/-- Where the next element of a list begins, or none before the closing bracket. -/
def nextElement (first : Bool) (cs : Input) : Except Fault (Option Input) :=
  match skipSpacing cs with
  | [] => stopPast .endInList []
  | ']' :: _ => .ok none
  | c :: rest =>
    if first then .ok (some (c :: rest))
    else if c = ',' then
      match skipSpacing rest with
      | [] => stopPast .endInValue []
      | ']' :: rest => stopPast .trailingComma (']' :: rest)
      | rest => .ok (some rest)
    else stopPast .expectedListCommaOrEnd (c :: rest)

def endList (cs : Input) : Except Fault Input :=
  match skipSpacing cs with
  | [] => stopPast .endInList []
  | ']' :: rest => .ok rest
  | ',' :: rest =>
    match skipSpacing rest with
    | ']' :: rest => stopPast .trailingComma (']' :: rest)
    | rest => stopPast .trailingCharacters rest
  | rest => stopPast .trailingCharacters rest

/-- What follows the opening quote of the next key of an object, or none before the closing
bracket. -/
def nextKey (first : Bool) (cs : Input) : Except Fault (Option Input) :=
  match skipSpacing cs with
  | [] => stopPast .endInObject []
  | '}' :: _ => .ok none
  | c :: rest =>
    if first then
      if c = '"' then .ok (some rest) else stopPast .keyMustBeString (c :: rest)
    else if c = ',' then
      match skipSpacing rest with
      | [] => stopPast .endInValue []
      | '"' :: rest => .ok (some rest)
      | '}' :: rest => stopPast .trailingComma ('}' :: rest)
      | rest => stopPast .keyMustBeString rest
    else stopPast .expectedObjectCommaOrEnd (c :: rest)

def endObject (cs : Input) : Except Fault Input :=
  match skipSpacing cs with
  | [] => stopPast .endInObject []
  | '}' :: rest => .ok rest
  | ',' :: rest => stopPast .trailingComma (',' :: rest)
  | rest => stopPast .trailingCharacters rest

def colon (cs : Input) : Except Fault Input :=
  match skipSpacing cs with
  | [] => stopPast .endInObject []
  | ':' :: rest => .ok rest
  | rest => stopPast .expectedColon rest

/-- Reads elements until the closing bracket. The fuel bounds their number. -/
def listLoop {α : Type} (element : Input → Except Fault (α × Input)) :
    Nat → Bool → List α → Input → Except Fault (List α × Input)
  | 0, _, _, cs => stop .endInList cs
  | fuel + 1, first, read, cs => do
    match ← nextElement first cs with
    | none => return (read.reverse, ← endList cs)
    | some cs =>
      let (a, rest) ← element cs
      listLoop element fuel false (a :: read) rest

def readList {α : Type} (element : Input → Except Fault (α × Input)) (cs : Input) :
    Except Fault (List α × Input) :=
  listLoop element (cs.length + 1) true [] cs

/-- Reads members until the closing bracket, each into the state so far; `member` reads from after
the key on. The fuel bounds their number. -/
def objectLoop {σ : Type} (member : σ → String → Input → Except Fault (σ × Input)) :
    Nat → Bool → σ → Input → Except Fault (σ × Input)
  | 0, _, _, cs => stop .endInObject cs
  | fuel + 1, first, state, cs => do
    match ← nextKey first cs with
    | none => return (state, ← endObject cs)
    | some cs =>
      let (key, cs) ← readString cs
      let (state, rest) ← member state key cs
      objectLoop member fuel false state rest

def readObject {σ : Type} (member : σ → String → Input → Except Fault (σ × Input)) (start : σ)
    (cs : Input) : Except Fault (σ × Input) :=
  objectLoop member (cs.length + 1) true start cs

def readDocument {α : Type} (value : Input → Except Fault (α × Input)) (text : String) :
    Except Failure α :=
  let cs := text.toList
  let read : Except Fault α := do
    let (a, rest) ← value cs
    match skipSpacing rest with
    | [] => return a
    | rest => stopPast .trailingCharacters rest
  read.mapError (Fault.locate cs)

/-- How many lists and objects may enclose a value. -/
def depthLimit : Nat := 127

def readMember (value : Input → Except Fault (Value × Input)) (members : List (String × Value))
    (key : String) (cs : Input) : Except Fault (List (String × Value) × Input) := do
  let cs ← colon cs
  let (v, rest) ← value cs
  return ((key, v) :: members, rest)

/-- A value whose lists and objects are read by `inner`, if they are admitted at all. -/
def readValueWith (inner : Option (Input → Except Fault (Value × Input))) (cs : Input) :
    Except Fault (Value × Input) :=
  match skipSpacing cs with
  | [] => stopPast .endInValue []
  | 'n' :: rest => do return (.null, ← expectRest ['u', 'l', 'l'] rest)
  | 't' :: rest => do return (.boolean true, ← expectRest ['r', 'u', 'e'] rest)
  | 'f' :: rest => do return (.boolean false, ← expectRest ['a', 'l', 's', 'e'] rest)
  | '-' :: rest => do
    let (n, rest) ← readNumeral true rest
    return (.number n, rest)
  | '"' :: rest => do
    let (s, rest) ← readString rest
    return (.string s, rest)
  | '[' :: rest =>
    match inner with
    | none => stopPast .tooDeep ('[' :: rest)
    | some value => do
      let (elements, rest) ← readList value rest
      return (.array elements, rest)
  | '{' :: rest =>
    match inner with
    | none => stopPast .tooDeep ('{' :: rest)
    | some value => do
      let (members, rest) ← readObject (readMember value) [] rest
      return (.object members.reverse, rest)
  | c :: rest =>
    if c.isDigit then do
      let (n, rest) ← readNumeral false (c :: rest)
      return (.number n, rest)
    else stopPast .expectedValue (c :: rest)

def readValue : Nat → Input → Except Fault (Value × Input)
  | 0 => readValueWith none
  | depth + 1 => readValueWith (some (readValue depth))

def parse (text : String) : Except Failure Value :=
  readDocument (readValue depthLimit) text

inductive Bracket where
  | list
  | object
  deriving DecidableEq, Repr

def Bracket.closing : Bracket → Char
  | .list => ']'
  | .object => '}'

def Bracket.endCause : Bracket → Cause
  | .list => .endInList
  | .object => .endInObject

def Bracket.commaCause : Bracket → Cause
  | .list => .expectedListCommaOrEnd
  | .object => .expectedObjectCommaOrEnd

/-- Where the value of the next entry begins: in an object, after its key and colon. -/
def skipToEntry (bracket : Bracket) (cs : Input) : Except Fault Input :=
  match bracket with
  | .list => .ok cs
  | .object =>
    match skipSpacing cs with
    | [] => stopPast .endInObject []
    | '"' :: rest => do colon (← skipString rest)
    | rest => stopPast .keyMustBeString rest

/-- Closes as many of the open brackets as the text does and goes on to the next value inside the
others. No bracket is left open where the outermost value is complete. A comma is only allowed
after an entry, not after an opening bracket. -/
def skipClosing (afterEntry : Bool) : List Bracket → Input → Except Fault (List Bracket × Input)
  | [], cs => .ok ([], cs)
  | bracket :: outer, cs =>
    match skipSpacing cs with
    | [] => stopPast bracket.endCause []
    | c :: rest =>
      if c = bracket.closing then skipClosing true outer rest
      else if !afterEntry then do
        return (bracket :: outer, ← skipToEntry bracket (c :: rest))
      else if c = ',' then do
        return (bracket :: outer, ← skipToEntry bracket rest)
      else stopPast bracket.commaCause (c :: rest)

/-- Passes over a scalar or over one opening bracket, and tells whether it was a bracket. -/
def skipToken (cs : Input) : Except Fault (Option Bracket × Input) :=
  match skipSpacing cs with
  | [] => stopPast .endInValue []
  | 'n' :: rest => do return (none, ← expectRest ['u', 'l', 'l'] rest)
  | 't' :: rest => do return (none, ← expectRest ['r', 'u', 'e'] rest)
  | 'f' :: rest => do return (none, ← expectRest ['a', 'l', 's', 'e'] rest)
  | '-' :: rest => do return (none, ← skipNumeral rest)
  | '"' :: rest => do return (none, ← skipString rest)
  | '[' :: rest => .ok (some .list, rest)
  | '{' :: rest => .ok (some .object, rest)
  | c :: rest =>
    if c.isDigit then do return (none, ← skipNumeral (c :: rest))
    else stopPast .expectedValue (c :: rest)

/-- Passes over values inside the open brackets until none is open. The fuel bounds the tokens. -/
def skipLoop : Nat → List Bracket → Input → Except Fault Input
  | 0, _, cs => stop .endInValue cs
  | fuel + 1, brackets, cs => do
    let (token, rest) ← skipToken cs
    let (brackets, rest) ←
      match token with
      | none => skipClosing true brackets rest
      | some bracket => skipClosing false (bracket :: brackets) rest
    if brackets.isEmpty then return rest
    else skipLoop fuel brackets rest

def skipValue (cs : Input) : Except Fault Input :=
  skipLoop (cs.length + 1) [] cs

def refuseType {α : Type} (expected : String) (cs : Input) : Except Fault α :=
  match cs with
  | 'n' :: rest => do
    stop (.invalidType .null expected) (← expectRest ['u', 'l', 'l'] rest)
  | 't' :: rest => do
    stop (.invalidType (.boolean true) expected) (← expectRest ['r', 'u', 'e'] rest)
  | 'f' :: rest => do
    stop (.invalidType (.boolean false) expected) (← expectRest ['a', 'l', 's', 'e'] rest)
  | '-' :: rest => do
    let (n, rest) ← readNumeral true rest
    stop (.invalidType (.number n) expected) rest
  | '"' :: rest => do
    let (s, rest) ← readString rest
    stop (.invalidType (.string s) expected) rest
  | '[' :: rest => stop (.invalidType .sequence expected) ('[' :: rest)
  | '{' :: rest => stop (.invalidType .map expected) ('{' :: rest)
  | [] => stopPast .expectedValue []
  | c :: rest =>
    if c.isDigit then do
      let (n, rest) ← readNumeral false (c :: rest)
      stop (.invalidType (.number n) expected) rest
    else stopPast .expectedValue (c :: rest)

def readBoolean (cs : Input) : Except Fault (Bool × Input) :=
  match skipSpacing cs with
  | [] => stopPast .endInValue []
  | 't' :: rest => do return (true, ← expectRest ['r', 'u', 'e'] rest)
  | 'f' :: rest => do return (false, ← expectRest ['a', 'l', 's', 'e'] rest)
  | rest => refuseType "a boolean" rest

def readText (cs : Input) : Except Fault (String × Input) :=
  match skipSpacing cs with
  | [] => stopPast .endInValue []
  | '"' :: rest => readString rest
  | rest => refuseType "a string" rest

def leastInt64 : Int := -9223372036854775808

def greatestInt64 : Int := 9223372036854775807

/-- A number that must be a signed integer of 64 bits, and the rest after it. -/
def requireInt64 (read : Number × Input) : Except Fault (Int × Input) :=
  match read.1 with
  | .integer value =>
    if leastInt64 ≤ value && value ≤ greatestInt64 then .ok (value, read.2)
    else stop (.invalidValue (.number read.1) "i64") read.2
  | .real _ _ => stop (.invalidType (.number read.1) "i64") read.2

def readInt64 (cs : Input) : Except Fault (Int × Input) :=
  match skipSpacing cs with
  | [] => stopPast .endInValue []
  | '-' :: rest => do requireInt64 (← readNumeral true rest)
  | c :: rest =>
    if c.isDigit then do requireInt64 (← readNumeral false (c :: rest))
    else refuseType "i64" (c :: rest)

def readInt64List (cs : Input) : Except Fault (List Int × Input) :=
  match skipSpacing cs with
  | [] => stopPast .endInValue []
  | '[' :: rest => readList readInt64 rest
  | rest => refuseType "a sequence" rest

end SeccompBootstrap.Json
