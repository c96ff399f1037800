import SeccompBootstrap.Text.Characters

/-!
What a process is given: paths, arguments and an environment, all of them bytes. An environment as
the program reads it is kept as the assignments that made it, of which the last one to a name
counts. The environment of a process as it stands has entries in order, each a name, `=` and a
value. A name may hold an `=` of its own, and then several entries give a value to the same text:
`get?` takes the first of these values, `last?` the last one, and `capture` reads every entry.
-/

set_option autoImplicit false
set_option relaxedAutoImplicit false

namespace SeccompBootstrap

structure Path where
  bytes : List UInt8
  deriving DecidableEq, Repr

namespace Path

def ofString (s : String) : Path :=
  ⟨Text.Utf8.bytes s⟩

def display (p : Path) : String :=
  Text.Utf8.decodeLossy p.bytes

def separator : UInt8 := 0x2F

def here : List UInt8 := [0x2E]

def above : List UInt8 := [0x2E, 0x2E]

def isAbsolute (p : Path) : Bool :=
  p.bytes.head? = some separator

/-- The parts between separators, empty ones included. -/
def parts (p : Path) : List (List UInt8) :=
  p.bytes.splitOnP (· == separator)

/-- The components that count: no empty ones, and `.` only at the front of a relative path. -/
def components (p : Path) : List (List UInt8) :=
  let named := p.parts.filter (!·.isEmpty)
  match named with
  | [] => []
  | first :: rest =>
    let others := rest.filter (· != here)
    if p.isAbsolute && first = here then others else first :: others

/-- Whether two paths have the same components from the same start. -/
def agrees (p q : Path) : Bool :=
  p.isAbsolute == q.isAbsolute && p.components == q.components

end Path

structure Argument where
  bytes : List UInt8
  deriving DecidableEq, Repr

namespace Argument

def ofString (s : String) : Argument :=
  ⟨Text.Utf8.bytes s⟩

def ofPath (path : Path) : Argument :=
  ⟨path.bytes⟩

def display (argument : Argument) : String :=
  Text.Utf8.decodeLossy argument.bytes

def text? (argument : Argument) : Option String :=
  Text.Utf8.decode? argument.bytes

end Argument

/-- Assignments in the order in which they were made. -/
structure Environment where
  assignments : List (String × String)
  deriving DecidableEq, Repr

namespace Environment

def empty : Environment := ⟨[]⟩

def get? (env : Environment) (name : String) : Option String :=
  env.assignments.foldl
    (fun found assignment => if assignment.1 = name then some assignment.2 else found) none

/-- Whether a name has exactly the value `true`. -/
def isTrue (env : Environment) (name : String) : Bool :=
  env.get? name = some "true"

/-- Puts a value at its place in a list that is sorted by name. -/
def place (name value : String) : List (String × String) → List (String × String)
  | [] => [(name, value)]
  | (other, old) :: rest =>
    if name = other then (name, value) :: rest
    else if name < other then (name, value) :: (other, old) :: rest
    else (other, old) :: place name value rest

/-- Every name once with its value, in the order of the names' bytes. -/
def sorted (env : Environment) : List (String × String) :=
  env.assignments.foldl (fun list assignment => place assignment.1 assignment.2 list) []

def equals : UInt8 := 0x3D

/-- Cuts a raw entry at the first `=` after its first byte. -/
def splitEntry? : List UInt8 → Option (List UInt8 × List UInt8)
  | [] => none
  | b :: rest =>
    match rest.dropWhile (· != equals) with
    | [] => none
    | _ :: value => some (b :: rest.takeWhile (· != equals), value)

/-- Name and value of a raw entry, which ends before its first zero byte, if both are UTF-8. -/
def readEntry? (entry : List UInt8) : Option (String × String) := do
  let (name, value) ← splitEntry? (entry.takeWhile (· != 0))
  return (← Text.Utf8.decode? name, ← Text.Utf8.decode? value)

def capture (entries : List (List UInt8)) : Environment :=
  ⟨entries.filterMap readEntry?⟩

end Environment

structure RawEnvironment where
  entries : List (List UInt8)
  deriving DecidableEq, Repr

namespace RawEnvironment

def precedes : List UInt8 → List UInt8 → Bool
  | _, [] => false
  | [], _ :: _ => true
  | a :: as, b :: bs => a.toNat < b.toNat || (a == b && precedes as bs)

/-- Puts a value at its place in a list that is sorted by name. -/
def place (name value : List UInt8) :
    List (List UInt8 × List UInt8) → List (List UInt8 × List UInt8)
  | [] => [(name, value)]
  | (other, old) :: rest =>
    if name = other then (name, value) :: rest
    else if precedes name other then (name, value) :: (other, old) :: rest
    else (other, old) :: place name value rest

def entry (name value : List UInt8) : List UInt8 :=
  name ++ Environment.equals :: value

/-- What a process starts with after assignments: each name once, with the value of its last
assignment, in the order of the names. -/
def ofAssignments (assignments : List (List UInt8 × List UInt8)) : RawEnvironment :=
  ⟨(assignments.foldl (fun list assignment => place assignment.1 assignment.2 list) []).map
    fun assignment => entry assignment.1 assignment.2⟩

def values (env : RawEnvironment) (name : String) : List (List UInt8) :=
  let start := entry (Text.Utf8.bytes name) []
  env.entries.filterMap fun entry =>
    if start.isPrefixOf entry then some (entry.drop start.length) else none

def get? (env : RawEnvironment) (name : String) : Option (List UInt8) :=
  (env.values name).head?

def last? (env : RawEnvironment) (name : String) : Option (List UInt8) :=
  (env.values name).getLast?

def capture (env : RawEnvironment) : Environment :=
  .capture env.entries

end RawEnvironment

end SeccompBootstrap
