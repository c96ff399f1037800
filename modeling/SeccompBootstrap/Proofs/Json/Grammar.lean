import SeccompBootstrap.Json.Reader

/-!
The grammar of JSON texts, as relations between values and the texts that spell them. A value has
many spellings: white space may stand around every token, and a character of a string literal may be
written as itself or as one of several escapes. The numbers are those that the reader can hold, so a
numeral beyond their range spells no value, and neither does half of a surrogate pair.
-/

set_option autoImplicit false
set_option relaxedAutoImplicit false

namespace SeccompBootstrap.Json

def Spacing (w : Input) : Prop :=
  ∀ c ∈ w, c ∈ [' ', '\t', '\n', '\r']

def smallDigits : List Char :=
  ['0', '1', '2', '3', '4', '5', '6', '7', '8', '9', 'a', 'b', 'c', 'd', 'e', 'f']

def capitalDigits : List Char :=
  ['0', '1', '2', '3', '4', '5', '6', '7', '8', '9', 'A', 'B', 'C', 'D', 'E', 'F']

def HexDigit (n : Nat) (c : Char) : Prop :=
  smallDigits[n]? = some c ∨ capitalDigits[n]? = some c

inductive HexUnit : Nat → Input → Prop
  | digits {i j k l : Nat} {a b c d : Char} (first : HexDigit i a) (second : HexDigit j b)
      (third : HexDigit k c) (fourth : HexDigit l d) :
      HexUnit (((i * 16 + j) * 16 + k) * 16 + l) [a, b, c, d]

/-- The characters that have an escape of one letter, after that letter. -/
def shortEscapes : List (Char × Char) :=
  [('"', '"'), ('\\', '\\'), ('/', '/'), ('b', '\x08'), ('f', '\x0c'), ('n', '\n'), ('r', '\r'),
    ('t', '\t')]

/-- The spellings of a character inside a literal. -/
inductive Letter : Char → Input → Prop
  | plain {c : Char} (visible : 0x20 ≤ c.toNat) (noQuote : c ≠ '"') (noBackslash : c ≠ '\\') :
      Letter c [c]
  | short {c e : Char} (escape : (e, c) ∈ shortEscapes) : Letter c ['\\', e]
  | unit {c : Char} {ds : Input} (digits : HexUnit c.toNat ds) : Letter c ('\\' :: 'u' :: ds)
  | pair {c : Char} {high low : Nat} {ds es : Input} (leading : HexUnit high ds)
      (trailing : HexUnit low es) (isLeading : 0xD800 ≤ high ∧ high ≤ 0xDBFF)
      (isTrailing : 0xDC00 ≤ low ∧ low ≤ 0xDFFF)
      (denoted : c.toNat = 0x10000 + (high - 0xD800) * 0x400 + (low - 0xDC00)) :
      Letter c ('\\' :: 'u' :: ds ++ '\\' :: 'u' :: es)

inductive Letters : List Char → Input → Prop
  | nil : Letters [] []
  | cons {c : Char} {cs : List Char} {w ws : Input} (first : Letter c w) (rest : Letters cs ws) :
      Letters (c :: cs) (w ++ ws)

/-- An exponent as it is written: its mark, its sign if it has one, and its digits. -/
structure Exponent where
  mark : Char
  sign : Option Char
  digits : Input

/-- A numeral as it is written: its sign, the digits before the point, those behind it, of which
there are none without a point, and its exponent if it has one. -/
structure Numeral where
  negative : Bool
  whole : Input
  fraction : Input
  exponent : Option Exponent

def Digits (ds : Input) : Prop :=
  ∀ c ∈ ds, c.isDigit = true

namespace Exponent

structure WellFormed (e : Exponent) : Prop where
  mark : e.mark = 'e' ∨ e.mark = 'E'
  sign : ∀ c, e.sign = some c → c = '+' ∨ c = '-'
  digits : Digits e.digits
  some_digit : e.digits ≠ []

def text (e : Exponent) : Input :=
  e.sign.toList ++ e.digits

def marked (e : Option Exponent) : Input :=
  e.elim [] fun e => e.mark :: e.text

/-- The number that an exponent makes of a significand and a power of ten, if it is in range. An
exponent with more digits than are ever written out leaves zero or nothing. -/
def number? (e : Exponent) (negative : Bool) (significand : Nat) (power : Int) : Option Number :=
  match takeDigits exponentLimit 0 0 e.digits with
  | (n, _, []) =>
    (Binary64.ofDecimal? significand (if e.sign = some '-' then power - n else power + n)).map
      (.real negative)
  | (_, _, _ :: _) =>
    if significand ≠ 0 ∧ e.sign ≠ some '-' then none else some (.real negative .zero)

def real? : Option Exponent → Bool → Nat → Int → Option Number
  | none, negative, significand, power =>
    (Binary64.ofDecimal? significand power).map (.real negative)
  | some e, negative, significand, power => e.number? negative significand power

end Exponent

namespace Numeral

/-- The digits that may stand before the point: at least one, and no zero in front of others. -/
structure Whole (ds : Input) : Prop where
  digits : Digits ds
  head : ds = ['0'] ∨ ∃ c more, ds = c :: more ∧ c ≠ '0'

structure WellFormed (m : Numeral) : Prop where
  whole : Whole m.whole
  fraction : Digits m.fraction
  exponent : ∀ e, m.exponent = some e → e.WellFormed

def tail (m : Numeral) : Input :=
  (if m.fraction = [] then [] else '.' :: m.fraction) ++ Exponent.marked m.exponent

def body (m : Numeral) : Input :=
  m.whole ++ m.tail

def text (m : Numeral) : Input :=
  (if m.negative then ['-'] else []) ++ m.body

/-- The digits that a significand holds and the power of ten to which it counts. Further digits
before the point count by their places only, further ones behind it do not count. -/
def scaled (m : Numeral) : Nat × Int :=
  let whole := takeDigits significandLimit 0 0 m.whole
  let all := takeDigits significandLimit whole.1 0 m.fraction
  (all.1, whole.2.2.length - all.2.1)

/-- Whether a numeral is an integer: it has no point and no exponent, and 64 bits hold it. Zero with
a minus sign is none. -/
structure IsInteger (m : Numeral) : Prop where
  no_fraction : m.fraction = []
  no_exponent : m.exponent = none
  fits : m.scaled.2 = 0
  negative : m.negative = true → m.scaled.1 ≠ 0 ∧ m.scaled.1 ≤ negativeLimit

instance (m : Numeral) : Decidable m.IsInteger :=
  decidable_of_iff
    (m.fraction = [] ∧ m.exponent.isNone ∧ m.scaled.2 = 0 ∧
      (m.negative = true → m.scaled.1 ≠ 0 ∧ m.scaled.1 ≤ negativeLimit))
    ⟨fun ⟨fraction, exponent, fits, negative⟩ =>
        ⟨fraction, Option.isNone_iff_eq_none.mp exponent, fits, negative⟩,
      fun is => ⟨is.1, Option.isNone_iff_eq_none.mpr is.2, is.3, is.4⟩⟩

/-- The number of a numeral, if it is in the range of numbers. If it is no integer, it is the
binary64 number that the reading of significand and power gives. -/
def number? (m : Numeral) : Option Number :=
  if m.IsInteger then some (.integer (if m.negative then -m.scaled.1 else m.scaled.1))
  else Exponent.real? m.exponent m.negative m.scaled.1 m.scaled.2

end Numeral

/-- What stands before an entry of a list or an object: white space, and before every entry but the
first one a comma. -/
inductive Lead : Bool → Input → Prop
  | first {w : Input} (space : Spacing w) : Lead true w
  | later {before after : Input} (spaceBefore : Spacing before) (spaceAfter : Spacing after) :
      Lead false (before ++ ',' :: after)

/-- Entries up to the closing bracket and with it, from the first one on or from a later one. -/
inductive Entries {α : Type} (closing : Char) (entry : α → Input → Prop) :
    Bool → List α → Input → Prop
  | close {first : Bool} {w : Input} (space : Spacing w) :
      Entries closing entry first [] (w ++ [closing])
  | more {first : Bool} {a : α} {as : List α} {lead t ts : Input} (leads : Lead first lead)
      (is : entry a t) (rest : Entries closing entry false as ts) :
      Entries closing entry first (a :: as) (lead ++ t ++ ts)

inductive Member {β : Type} (value : β → Input → Prop) : String × β → Input → Prop
  | pair {key : String} {v : β} {w before after t : Input} (letters : Letters key.toList w)
      (spaceBefore : Spacing before) (spaceAfter : Spacing after) (is : value v t) :
      Member value (key, v) ('"' :: w ++ '"' :: before ++ ':' :: after ++ t)

/-- The texts of a value, without white space around them. -/
inductive Spells : Value → Input → Prop
  | null : Spells .null ['n', 'u', 'l', 'l']
  | true : Spells (.boolean true) ['t', 'r', 'u', 'e']
  | false : Spells (.boolean false) ['f', 'a', 'l', 's', 'e']
  | number {m : Numeral} {n : Number} (form : m.WellFormed) (inRange : m.number? = some n) :
      Spells (.number n) m.text
  | string {s : String} {w : Input} (letters : Letters s.toList w) :
      Spells (.string s) ('"' :: w ++ ['"'])
  | array {vs : List Value} {t : Input} (elements : Entries ']' Spells true vs t) :
      Spells (.array vs) ('[' :: t)
  | object {ms : List (String × Value)} {t : Input}
      (members : Entries '}' (Member Spells) true ms t) : Spells (.object ms) ('{' :: t)

/-- Whether no more than a number of lists and objects are inside each other in a value. -/
inductive Value.DepthAtMost : Nat → Value → Prop
  | null {depth : Nat} : DepthAtMost depth .null
  | boolean {depth : Nat} {b : Bool} : DepthAtMost depth (.boolean b)
  | number {depth : Nat} {n : Number} : DepthAtMost depth (.number n)
  | string {depth : Nat} {s : String} : DepthAtMost depth (.string s)
  | array {depth : Nat} {vs : List Value} (each : ∀ v ∈ vs, DepthAtMost depth v) :
      DepthAtMost (depth + 1) (.array vs)
  | object {depth : Nat} {ms : List (String × Value)} (each : ∀ m ∈ ms, DepthAtMost depth m.2) :
      DepthAtMost (depth + 1) (.object ms)

/-- A text that spells a value and holds nothing else but white space. -/
inductive Document (v : Value) : String → Prop
  | text {before t after : Input} (spaceBefore : Spacing before) (spaceAfter : Spacing after)
      (spelled : Spells v t) : Document v (String.ofList (before ++ t ++ after))

/-- What may stand inside a literal for a character or for half of a surrogate pair. -/
inductive Glyph : Input → Prop
  | plain {c : Char} (visible : 0x20 ≤ c.toNat) (noQuote : c ≠ '"') (noBackslash : c ≠ '\\') :
      Glyph [c]
  | short {c e : Char} (escape : (e, c) ∈ shortEscapes) : Glyph ['\\', e]
  | unit {n : Nat} {ds : Input} (digits : HexUnit n ds) : Glyph ('\\' :: 'u' :: ds)

inductive Glyphs : Input → Prop
  | nil : Glyphs []
  | cons {w ws : Input} (first : Glyph w) (rest : Glyphs ws) : Glyphs (w ++ ws)

inductive ValidMember (value : Input → Prop) : Input → Prop
  | pair {w before after t : Input} (glyphs : Glyphs w) (spaceBefore : Spacing before)
      (spaceAfter : Spacing after) (is : value t) :
      ValidMember value ('"' :: w ++ '"' :: before ++ ':' :: after ++ t)

/-- The texts of JSON values by their form alone. Unlike a spelling, such a text may hold numbers
beyond every range and halves of surrogate pairs. -/
inductive Valid : Input → Prop
  | null : Valid ['n', 'u', 'l', 'l']
  | true : Valid ['t', 'r', 'u', 'e']
  | false : Valid ['f', 'a', 'l', 's', 'e']
  | number {m : Numeral} (form : m.WellFormed) : Valid m.text
  | string {w : Input} (glyphs : Glyphs w) : Valid ('"' :: w ++ ['"'])
  | array {count : List Unit} {t : Input}
      (elements : Entries ']' (fun _ => Valid) true count t) : Valid ('[' :: t)
  | object {count : List Unit} {t : Input}
      (members : Entries '}' (fun _ => ValidMember Valid) true count t) : Valid ('{' :: t)

end SeccompBootstrap.Json
