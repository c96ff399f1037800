import SeccompBootstrap.Json.Value

/-!
String literals of JSON, from the character after the opening quote. `readString` decodes one and
insists on paired surrogate escapes; `skipString` passes over one and asks of a `\u` escape only
its four hexadecimal digits.
-/

set_option autoImplicit false
set_option relaxedAutoImplicit false

namespace SeccompBootstrap.Json

def hexDigit? (c : Char) : Option Nat :=
  if '0' ≤ c && c ≤ '9' then some (c.toNat - '0'.toNat)
  else if 'a' ≤ c && c ≤ 'f' then some (c.toNat - 'a'.toNat + 10)
  else if 'A' ≤ c && c ≤ 'F' then some (c.toNat - 'A'.toNat + 10)
  else none

def hexUnit? (a b c d : Char) : Option Nat := do
  let a ← hexDigit? a
  let b ← hexDigit? b
  let c ← hexDigit? c
  let d ← hexDigit? d
  return ((a * 16 + b) * 16 + c) * 16 + d

/-- The four hexadecimal digits of an escape. Four bytes must follow at all before it is said that
they are no digits. -/
def readHexUnit (cs : Input) : Except Fault (Nat × Input) :=
  match cs with
  | a :: b :: c :: d :: rest =>
    match hexUnit? a b c d with
    | some n => .ok (n, rest)
    | none => .error ⟨.invalidEscape, cs, 4⟩
  | _ =>
    if (Text.Utf8.encode cs).length < 4 then stop .endInString []
    else .error ⟨.invalidEscape, cs, 4⟩

def isLeadingSurrogate (n : Nat) : Bool :=
  0xD800 ≤ n && n ≤ 0xDBFF

def isTrailingSurrogate (n : Nat) : Bool :=
  0xDC00 ≤ n && n ≤ 0xDFFF

def surrogatePair (leading trailing : Nat) : Char :=
  Char.ofNat (0x10000 + (leading - 0xD800) * 0x400 + (trailing - 0xDC00))

def readTrailingSurrogate (leading : Nat) (cs : Input) : Except Fault (Char × Input) :=
  match cs with
  | [] => stop .endInString []
  | '\\' :: [] => stop .endInString []
  | '\\' :: 'u' :: rest => do
    let (n, rest) ← readHexUnit rest
    if isTrailingSurrogate n then .ok (surrogatePair leading n, rest)
    else stop .loneSurrogate rest
  | '\\' :: rest => stopPast .unfinishedSurrogate rest
  | cs => stopPast .unfinishedSurrogate cs

def readUnicodeEscape (cs : Input) : Except Fault (Char × Input) := do
  let (n, rest) ← readHexUnit cs
  if isTrailingSurrogate n then stop .loneSurrogate rest
  else if isLeadingSurrogate n then readTrailingSurrogate n rest
  else .ok (Char.ofNat n, rest)

def plainEscape? : Char → Option Char
  | '"' => some '"'
  | '\\' => some '\\'
  | '/' => some '/'
  | 'b' => some '\x08'
  | 'f' => some '\x0c'
  | 'n' => some '\n'
  | 'r' => some '\r'
  | 't' => some '\t'
  | _ => none

def readEscape : Input → Except Fault (Char × Input)
  | [] => stop .endInString []
  | 'u' :: rest => readUnicodeEscape rest
  | c :: rest =>
    match plainEscape? c with
    | some d => .ok (d, rest)
    | none => stopPast .invalidEscape (c :: rest)

def isControl (c : Char) : Bool :=
  c.toNat < 0x20

/-- Reads the rest of a literal behind the characters so far, which are given in reverse. The fuel
bounds the characters to read. -/
def stringLoop : Nat → List Char → Input → Except Fault (String × Input)
  | 0, _, cs => stop .endInString cs
  | fuel + 1, read, cs =>
    match cs with
    | [] => stop .endInString []
    | '"' :: rest => .ok (String.ofList read.reverse, rest)
    | '\\' :: rest => do
      let (c, rest) ← readEscape rest
      stringLoop fuel (c :: read) rest
    | c :: rest =>
      if isControl c then stop .controlCharacter rest
      else stringLoop fuel (c :: read) rest

def readString (cs : Input) : Except Fault (String × Input) :=
  stringLoop (cs.length + 1) [] cs

def skipEscape : Input → Except Fault Input
  | [] => stop .endInString []
  | 'u' :: rest => do
    let (_, rest) ← readHexUnit rest
    .ok rest
  | c :: rest =>
    match plainEscape? c with
    | some _ => .ok rest
    | none => stopPast .invalidEscape (c :: rest)

def skipStringLoop : Nat → Input → Except Fault Input
  | 0, cs => stop .endInString cs
  | fuel + 1, cs =>
    match cs with
    | [] => stop .endInString []
    | '"' :: rest => .ok rest
    | '\\' :: rest => do
      let rest ← skipEscape rest
      skipStringLoop fuel rest
    | c :: rest =>
      if isControl c then stop .controlCharacter (c :: rest)
      else skipStringLoop fuel rest

def skipString (cs : Input) : Except Fault Input :=
  skipStringLoop (cs.length + 1) cs

end SeccompBootstrap.Json
