/-!
Characters and bytes: white space in the sense of the Unicode property White_Space, decimal digits,
and UTF-8 in both directions over byte lists. `units` reads a byte list as characters and as maximal
ill-formed prefixes of them: an ill-formed unit is a leading byte with those of the bytes after it
that could still have continued a character. `decode?` accepts only texts without such a unit and
`decodeLossy` shows each of them as U+FFFD.
-/

set_option autoImplicit false
set_option relaxedAutoImplicit false

namespace SeccompBootstrap.Text

def isBlank (c : Char) : Bool :=
  let n := c.toNat
  (0x9 ≤ n && n ≤ 0xD) || n == 0x20 || n == 0x85 || n == 0xA0 || n == 0x1680 ||
    (0x2000 ≤ n && n ≤ 0x200A) || n == 0x2028 || n == 0x2029 || n == 0x202F || n == 0x205F ||
    n == 0x3000

def trimChars (cs : List Char) : List Char :=
  ((cs.dropWhile isBlank).reverse.dropWhile isBlank).reverse

def trim (s : String) : String :=
  String.ofList (trimChars s.toList)

/-- A word with one more character in front of the words that follow it. -/
def extendFirst (c : Char) : List (List Char) → List (List Char)
  | [] => [[c]]
  | w :: ws => (c :: w) :: ws

/-- The maximal runs of characters that are not white space, in order. -/
def words : List Char → List (List Char)
  | [] => []
  | c :: r =>
    if isBlank c then words r
    else match r with
      | [] => [[c]]
      | d :: _ => if isBlank d then [c] :: words r else extendFirst c (words r)

/-- The words of a text, one space between neighbours. -/
def singleLineChars (cs : List Char) : List Char :=
  [' '].intercalate (words cs)

def singleLine (s : String) : String :=
  String.ofList (singleLineChars s.toList)

def digitValue (c : Char) : Nat :=
  c.toNat - '0'.toNat

def valueOfDigits (digits : List Char) : Nat :=
  digits.foldl (fun n c => n * 10 + digitValue c) 0

def ofDigits? (cs : List Char) : Option Nat :=
  if !cs.isEmpty && cs.all Char.isDigit then some (valueOfDigits cs) else none

end SeccompBootstrap.Text

namespace SeccompBootstrap.Text.Utf8

def encode (cs : List Char) : List UInt8 :=
  cs.flatMap String.utf8EncodeChar

def bytes (s : String) : List UInt8 :=
  encode s.toList

structure Bounds where
  low : UInt8
  high : UInt8

def Bounds.admits (b : Bounds) (x : UInt8) : Bool :=
  b.low ≤ x && x ≤ b.high

def tail : Bounds := ⟨0x80, 0xBF⟩

/-- The bounds of the bytes that must follow a leading byte; none for a byte that leads nothing.
The second byte is restricted where a longer form, a surrogate or a value above U+10FFFF would
result. -/
def followers (b : UInt8) : Option (List Bounds) :=
  if b ≤ 0x7F then some []
  else if 0xC2 ≤ b && b ≤ 0xDF then some [tail]
  else if b = 0xE0 then some [⟨0xA0, 0xBF⟩, tail]
  else if b = 0xED then some [⟨0x80, 0x9F⟩, tail]
  else if 0xE1 ≤ b && b ≤ 0xEF then some [tail, tail]
  else if b = 0xF0 then some [⟨0x90, 0xBF⟩, tail, tail]
  else if 0xF1 ≤ b && b ≤ 0xF3 then some [tail, tail, tail]
  else if b = 0xF4 then some [⟨0x80, 0x8F⟩, tail, tail]
  else none

def leadBits (b : UInt8) : Nat :=
  if b ≤ 0x7F then b.toNat
  else if b ≤ 0xDF then b.toNat % 0x20
  else if b ≤ 0xEF then b.toNat % 0x10
  else b.toNat % 0x08

/-- Reads the bytes that the bounds ask for onto the bits so far. The first part of the answer is
none when a byte is missing or out of its bounds; the second is the unread rest. -/
def continuation : List Bounds → Nat → List UInt8 → Option Nat × List UInt8
  | [], acc, bs => (some acc, bs)
  | _ :: _, _, [] => (none, [])
  | bound :: bounds, acc, b :: bs =>
    if bound.admits b then continuation bounds (acc * 0x40 + b.toNat % 0x40) bs
    else (none, b :: bs)

/-- One unit: the character that a leading byte begins, or none, and the unread rest. -/
def unit (b : UInt8) (bs : List UInt8) : Option Char × List UInt8 :=
  match followers b with
  | none => (none, bs)
  | some bounds =>
    let read := continuation bounds (leadBits b) bs
    (read.1.map Char.ofNat, read.2)

private theorem length_continuation_le (bounds : List Bounds) (acc : Nat) (bs : List UInt8) :
    (continuation bounds acc bs).2.length ≤ bs.length := by
  induction bounds generalizing acc bs with
  | nil => simp [continuation]
  | cons bound bounds ih =>
    cases bs with
    | nil => simp [continuation]
    | cons b bs =>
      simp only [continuation]
      split
      · exact Nat.le_succ_of_le (ih _ bs)
      · simp

theorem length_unit_le (b : UInt8) (bs : List UInt8) : (unit b bs).2.length ≤ bs.length := by
  unfold unit
  split
  · simp
  · exact length_continuation_le _ _ _

def units : List UInt8 → List (Option Char)
  | [] => []
  | b :: bs => (unit b bs).1 :: units (unit b bs).2
termination_by bs => bs.length
decreasing_by exact Nat.lt_succ_of_le (length_unit_le b bs)

def replacement : Char := '\uFFFD'

/-- The text of a byte list, U+FFFD for each ill-formed unit. -/
def decodeLossyChars (bs : List UInt8) : List Char :=
  (units bs).map (·.getD replacement)

def decodeLossy (bs : List UInt8) : String :=
  String.ofList (decodeLossyChars bs)

def decodeChars? (bs : List UInt8) : Option (List Char) :=
  (units bs).mapM id

def decode? (bs : List UInt8) : Option String :=
  (decodeChars? bs).map String.ofList

end SeccompBootstrap.Text.Utf8
