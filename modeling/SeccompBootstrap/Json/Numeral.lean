import SeccompBootstrap.Json.Value

/-!
Numerals of JSON. `readNumeral` gives their value: digits are taken into a significand while it
fits 64 bits, further digits count as a power of ten or are dropped behind the point, and a numeral
too large for binary64 is refused. `skipNumeral` checks the form alone.
-/

set_option autoImplicit false
set_option relaxedAutoImplicit false

namespace SeccompBootstrap.Json

open Text (digitValue)

def significandLimit : Nat := 18446744073709551615

/-- The largest exponent that is written out. -/
def exponentLimit : Nat := 2147483647

/-- Takes digits into a number while it stays within a limit. Gives the number, how many digits it
took, and the rest, which begins with a digit only where the limit was reached. -/
def takeDigits (limit : Nat) : Nat → Nat → Input → Nat × Nat × Input
  | n, count, [] => (n, count, [])
  | n, count, c :: rest =>
    if c.isDigit && n * 10 + digitValue c ≤ limit then
      takeDigits limit (n * 10 + digitValue c) (count + 1) rest
    else (n, count, c :: rest)

def startsWithDigit : Input → Bool
  | [] => false
  | c :: _ => c.isDigit

def dropDigits (cs : Input) : Input :=
  cs.dropWhile Char.isDigit

def realNumber (negative : Bool) (significand : Nat) (power : Int) (rest : Input) :
    Except Fault (Number × Input) :=
  match Binary64.ofDecimal? significand power with
  | some magnitude => .ok (.real negative magnitude, rest)
  | none => stop .numberOutOfRange rest

def exponentSign : Input → Bool × Input
  | '+' :: rest => (false, rest)
  | '-' :: rest => (true, rest)
  | rest => (false, rest)

def readExponent (negative : Bool) (significand : Nat) (power : Int) (cs : Input) :
    Except Fault (Number × Input) :=
  let (down, cs) := exponentSign cs
  match cs with
  | [] => stop .endInValue []
  | c :: rest =>
    if !c.isDigit then stopPast .invalidNumber cs
    else
      let (exponent, _, rest) := takeDigits exponentLimit (digitValue c) 0 rest
      if startsWithDigit rest then
        if significand ≠ 0 && !down then stop .numberOutOfRange (rest.drop 1)
        else .ok (.real negative .zero, dropDigits rest)
      else
        realNumber negative significand (if down then power - exponent else power + exponent) rest

def readOptionalExponent (negative : Bool) (significand : Nat) (power : Int) :
    Input → Except Fault (Number × Input)
  | 'e' :: rest => readExponent negative significand power rest
  | 'E' :: rest => readExponent negative significand power rest
  | rest => realNumber negative significand power rest

def readFraction (negative : Bool) (significand : Nat) (power : Int) (cs : Input) :
    Except Fault (Number × Input) :=
  let (significand, count, rest) := takeDigits significandLimit significand 0 cs
  if startsWithDigit rest then
    readOptionalExponent negative significand (power - count) (dropDigits rest)
  else if count = 0 then
    match rest with
    | [] => stopPast .endInValue []
    | rest => stopPast .invalidNumber rest
  else readOptionalExponent negative significand (power - count) rest

def negativeLimit : Nat := 9223372036854775808

/-- The number of a sign and a significand without fraction and exponent. Zero with a minus sign
and integers below the 64-bit range are no integers. -/
def signedInteger (negative : Bool) (significand : Nat) (rest : Input) :
    Except Fault (Number × Input) :=
  if !negative then .ok (.integer significand, rest)
  else if significand = 0 || negativeLimit < significand then realNumber true significand 0 rest
  else .ok (.integer (-(significand : Int)), rest)

def readAfterInteger (negative : Bool) (significand : Nat) :
    Input → Except Fault (Number × Input)
  | '.' :: rest => readFraction negative significand 0 rest
  | 'e' :: rest => readExponent negative significand 0 rest
  | 'E' :: rest => readExponent negative significand 0 rest
  | rest => signedInteger negative significand rest

/-- The rest of a number with more digits before the point than the significand holds. -/
def readLongInteger (negative : Bool) (significand : Nat) (cs : Input) :
    Except Fault (Number × Input) :=
  let power : Int := (cs.takeWhile Char.isDigit).length
  match dropDigits cs with
  | '.' :: rest => readFraction negative significand power rest
  | rest => readOptionalExponent negative significand power rest

def readNumeral (negative : Bool) (cs : Input) : Except Fault (Number × Input) :=
  match cs with
  | [] => stop .endInValue []
  | '0' :: rest =>
    if startsWithDigit rest then stopPast .invalidNumber rest
    else readAfterInteger negative 0 rest
  | c :: rest =>
    if !c.isDigit then stopPast .invalidNumber cs
    else
      let (significand, _, rest) := takeDigits significandLimit (digitValue c) 0 rest
      if startsWithDigit rest then readLongInteger negative significand rest
      else readAfterInteger negative significand rest

def skipExponent (cs : Input) : Except Fault Input :=
  match (exponentSign cs).2 with
  | [] => stop .invalidNumber []
  | c :: rest =>
    if c.isDigit then .ok (dropDigits rest) else stopPast .invalidNumber (c :: rest)

def skipOptionalExponent : Input → Except Fault Input
  | 'e' :: rest => skipExponent rest
  | 'E' :: rest => skipExponent rest
  | rest => .ok rest

def skipFractionAndExponent : Input → Except Fault Input
  | '.' :: rest =>
    if startsWithDigit rest then skipOptionalExponent (dropDigits rest)
    else stopPast .invalidNumber rest
  | rest => skipOptionalExponent rest

def skipNumeral : Input → Except Fault Input
  | [] => stop .invalidNumber []
  | '0' :: rest =>
    if startsWithDigit rest then stopPast .invalidNumber rest
    else skipFractionAndExponent rest
  | c :: rest =>
    if c.isDigit then skipFractionAndExponent (dropDigits rest)
    else stopPast .invalidNumber (c :: rest)

end SeccompBootstrap.Json
