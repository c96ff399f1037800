import SeccompBootstrap.Host.FileTree

/-!
Starting programs on a host. A name with a separator is a path; any other name is looked for in the
directories of a search path, in order. Only programs start: other files are not executable. The one
program that writes something is the one that writes its words, with single spaces between them and
a line end after them. Words in front that consist of a dash and the letters `n`, `e` and `E` are
switches: `n` leaves out the line end, `e` and `E` switch escapes on and off.
-/

set_option autoImplicit false
set_option relaxedAutoImplicit false

namespace SeccompBootstrap.Echo

abbrev Word := List UInt8

structure Style where
  escapes : Bool
  lineEnd : Bool
  deriving DecidableEq, Repr

def Style.switch (style : Style) : UInt8 → Style
  | 0x6E => { style with lineEnd := false }
  | 0x65 => { style with escapes := true }
  | _ => { style with escapes := false }

def isSwitch (b : UInt8) : Bool :=
  b == 0x6E || b == 0x65 || b == 0x45

def switches? : Word → Option Word
  | 0x2D :: flags => if !flags.isEmpty && flags.all isSwitch then some flags else none
  | _ => none

def takeSwitches : Style → List Word → Style × List Word
  | style, [] => (style, [])
  | style, word :: words =>
    match switches? word with
    | some flags => takeSwitches (flags.foldl Style.switch style) words
    | none => (style, word :: words)

def digit? (base : Nat) (b : UInt8) : Option Nat :=
  let value :=
    if 0x30 ≤ b && b ≤ 0x39 then b.toNat - 0x30
    else if 0x41 ≤ b && b ≤ 0x46 then b.toNat - 0x41 + 10
    else if 0x61 ≤ b && b ≤ 0x66 then b.toNat - 0x61 + 10
    else base
  if value < base then some value else none

/-- The digits in front, of which at most a limit counts. -/
def digits (base limit : Nat) (bytes : Word) : List Nat :=
  ((bytes.take limit).map (digit? base)).takeWhile Option.isSome |>.filterMap id

/-- The byte that digits spell; higher bits are dropped. -/
def byteOf (base : Nat) (values : List Nat) : UInt8 :=
  .ofNat (values.foldl (fun n value => n * base + value) 0)

def plainEscape? : UInt8 → Option UInt8
  | 0x61 => some 0x07
  | 0x62 => some 0x08
  | 0x65 => some 0x1B
  | 0x66 => some 0x0C
  | 0x6E => some 0x0A
  | 0x72 => some 0x0D
  | 0x74 => some 0x09
  | 0x76 => some 0x0B
  | 0x5C => some 0x5C
  | _ => none

/-- What a backslash and a byte stand for, given what follows, and how much of that belongs to it. A
backslash before any other byte stands for itself. -/
def escape (b : UInt8) (rest : Word) : Word × Nat :=
  let hex := digits 16 2 rest
  let octal := if b = 0x30 then digits 8 3 rest else digits 8 2 rest
  if b = 0x78 && !hex.isEmpty then ([byteOf 16 hex], hex.length)
  else if b = 0x30 then ([byteOf 8 octal], octal.length)
  else match digit? 8 b, plainEscape? b with
    | some first, _ => ([byteOf 8 (first :: octal)], octal.length)
    | none, some byte => ([byte], 0)
    | none, none => ([0x5C, b], 0)

/-- A word with its escapes replaced, and whether anything is written after it: a backslash with `c`
ends the output. -/
def expand : Word → Word × Bool
  | 0x5C :: 0x63 :: _ => ([], false)
  | 0x5C :: b :: rest =>
    let (bytes, used) := escape b rest
    let (more, goesOn) := expand (rest.drop used)
    (bytes ++ more, goesOn)
  | b :: rest =>
    let (more, goesOn) := expand rest
    (b :: more, goesOn)
  | [] => ([], true)
termination_by bytes => bytes.length
decreasing_by
  all_goals simp
  omega

/-- Words with their escapes replaced, then an end. -/
def expandAll (ending : Word) : List Word → Word
  | [] => ending
  | word :: words =>
    let (bytes, goesOn) := expand word
    if !goesOn then bytes
    else if words.isEmpty then bytes ++ ending
    else bytes ++ 0x20 :: expandAll ending words

/-- What is written for words. A strict echo takes switches only if the first word is `-n`, and
replaces escapes in any case. -/
def output (strict : Bool) (words : List Word) : Word :=
  let plain : Style := { escapes := false, lineEnd := true }
  let (style, words) :=
    if strict && words.head? ≠ some [0x2D, 0x6E] then (plain, words) else takeSwitches plain words
  let ending := if style.lineEnd then [0x0A] else []
  if strict || style.escapes then expandAll ending words
  else [0x20].intercalate words ++ ending

end SeccompBootstrap.Echo

namespace SeccompBootstrap

structure Completion where
  exitStatus : Nat
  stdout : List UInt8
  deriving DecidableEq, Repr

def Program.complete (program : Program) (strict : Bool) (args : List Argument) : Completion :=
  match program with
  | .succeed => { exitStatus := 0, stdout := [] }
  | .fail => { exitStatus := 1, stdout := [] }
  | .echo => { exitStatus := 0, stdout := Echo.output strict (args.map Argument.bytes) }

namespace FileTree

def programAt (tree : FileTree) (path : Path) : Except Errno Program := do
  match ← tree.find path with
  | (_, .program program) => return program
  | _ => throw .denied

def defaultSearchPath : List UInt8 := Text.Utf8.bytes "/bin:/usr/bin"

/-- A file in a directory of a search path; no directory means the working directory. -/
def candidate (directory name : List UInt8) : Path :=
  if directory.isEmpty then ⟨name⟩ else ⟨directory ++ Path.separator :: name⟩

/-- Looks for a program in directories, in order. A file that may not be executed is remembered
while the search goes on; a failure that says nothing about the file ends it. -/
def search (tree : FileTree) (name : List UInt8) :
    List (List UInt8) → Errno → Except Errno Program
  | [], failure => .error failure
  | directory :: rest, failure =>
    match tree.programAt (candidate directory name) with
    | .ok program => .ok program
    | .error errno =>
      if errno = .denied then tree.search name rest .denied
      else if errno = .missing || errno = .notDirectory then
        tree.search name rest (if failure = .denied then .denied else errno)
      else .error errno

/-- The directories of a search path. One that is longer than any path counts as no directory; as
the last one it does not count at all. -/
def directories (searchPath : List UInt8) : List (List UInt8) :=
  let all := searchPath.splitOnP (· == 0x3A)
  all.dropLast.map (fun directory => if pathLimit < directory.length then [] else directory) ++
    (all.drop (all.length - 1)).filter (·.length ≤ pathLimit)

/-- As much of a name as a search looks at, which is still too much where the name is too long. -/
def searched (name : List UInt8) : List UInt8 :=
  name.take (nameLimit + 1)

def program (tree : FileTree) (searchPath : Option (List UInt8)) (name : Argument) :
    Except Errno Program :=
  if name.bytes.isEmpty then .error .missing
  else if name.bytes.contains Path.separator then tree.programAt ⟨name.bytes⟩
  else
    tree.search (searched name.bytes) (directories (searchPath.getD defaultSearchPath)) .missing

end FileTree

end SeccompBootstrap
