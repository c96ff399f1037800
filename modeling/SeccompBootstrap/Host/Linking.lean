import SeccompBootstrap.Enforcement
import SeccompBootstrap.Host.FileTree

/-!
The dynamic linker of a host with given files. A path without a separator is searched for, first in
directories that the environment names and then in those of the host; the empty path is the main
program. A file that is open already stays the object that it became when it was first opened. The
effect of native calls is a view of the calls themselves. Objects that the environment lists are
opened before a program begins: what they export belongs to the main program, and one that does not
open is announced and left out.
-/

set_option autoImplicit false
set_option relaxedAutoImplicit false

namespace SeccompBootstrap

/-- An object that the linker opened: its place, the path under which it was found, and its
exports. -/
structure LinkedObject where
  place : Place
  path : Path
  exports : List Export
  deriving DecidableEq, Repr

structure LinkedEntry where
  place : Place
  name : String
  effect : ExportEffect
  deriving DecidableEq, Repr

abbrev HostWorld := NativeWorld LinkedObject LinkedEntry

/-- What linking goes by: the files of the host, the directories that are searched for a name, those
that are searched before them, what the main program and the libraries it was started with export,
and the objects that were open before the program began. -/
structure LinkingHost where
  files : FileTree
  directories : List (List UInt8)
  preferred : List (List UInt8) := []
  program : List Export
  preloaded : List LinkedObject := []
  deriving DecidableEq, Repr

/-- Why a path does not open as an object, with the error number of a system call if one failed. -/
structure OpenFailure where
  path : Path
  reason : String
  errno? : Option Errno
  deriving DecidableEq, Repr

def OpenFailure.message (failure : OpenFailure) : String :=
  failure.path.display ++ ": " ++ failure.reason ++
    (failure.errno?.map (": " ++ ·.text)).getD ""

namespace LinkingHost

def objectHeaderSize : Nat := 64

def unopenable (path : Path) (errno : Errno) : OpenFailure :=
  { path, reason := "cannot open shared object file", errno? := some errno }

def unfit (path : Path) (reason : String) : OpenFailure :=
  { path, reason, errno? := none }

/-- Opens a file as a shared object, unless it is one of those that are open. -/
def openFile (host : LinkingHost) (objects : List LinkedObject) (path : Path) :
    Except OpenFailure LinkedObject :=
  match host.files.find path with
  | .error errno => .error (unopenable path errno)
  | .ok (_, .directory) =>
    .error { path, reason := "cannot read file data", errno? := some .isDirectory }
  | .ok (_, .data size) =>
    .error (unfit path (if size < objectHeaderSize then "file too short" else "invalid ELF header"))
  | .ok (_, .program _) =>
    .error (unfit path "cannot dynamically load position-independent executable")
  | .ok (place, .sharedObject exports) =>
    .ok (((host.preloaded ++ objects).find? (·.place = place)).getD { place, path, exports })

def inDirectory (directory name : List UInt8) : Path :=
  if directory.isEmpty then ⟨name⟩
  else if directory.getLast? = some Path.separator then ⟨directory ++ name⟩
  else ⟨directory ++ Path.separator :: name⟩

/-- A directory without the separators at its end, unless it is the root directory. -/
def trimmed (directory : List UInt8) : List UInt8 :=
  match (directory.reverse.dropWhile (· == Path.separator)).reverse with
  | [] => directory.take 1
  | kept => kept

/-- Whether a directory counts as one that exists. A relative one always does, as it may mean
another directory later. -/
def countsAsDirectory (host : LinkingHost) (directory : List UInt8) : Bool :=
  let path : Path := ⟨directory⟩
  !path.isAbsolute || (host.files.find path).toOption.any (·.2 = .directory)

/-- The path under which a name is found in directories, in order. Where it is missing or withheld
the search goes on; any other failure in a directory that exists ends it. -/
def search (host : LinkingHost) (name : List UInt8) : List (List UInt8) → Except Errno Path
  | [] => .error .missing
  | directory :: rest =>
    let path := inDirectory (trimmed directory) name
    match host.files.find path with
    | .ok _ => .ok path
    | .error errno =>
      if errno = .missing || errno = .denied || !host.countsAsDirectory directory then
        host.search name rest
      else .error errno

/-- The path under which a name is found. How the search in the preferred directories failed does
not matter to the one that follows it. -/
def locate (host : LinkingHost) (name : List UInt8) : Except Errno Path :=
  match host.search name host.preferred with
  | .ok path => .ok path
  | .error _ => host.search name host.directories

def openObject (host : LinkingHost) (objects : List LinkedObject) (path : Path) :
    Except OpenFailure LinkedObject :=
  if path.bytes.isEmpty then .ok { place := [], path, exports := host.program }
  else if path.bytes.contains Path.separator then host.openFile objects path
  else
    match host.locate path.bytes with
    | .ok found => host.openFile objects found
    | .error errno => .error (unopenable path errno)

/-- Searches the directories of a search path before all others. They are separated by colons or
semicolons. -/
def searchFirst (host : LinkingHost) (searchPath : List UInt8) : LinkingHost :=
  { host with preferred := searchPath.splitOnP (fun b => b == 0x3A || b == 0x3B) }

end LinkingHost

def LinkedObject.lookup (object : LinkedObject) (name : String) : Symbol LinkedEntry :=
  match object.exports.find? (·.name = name) with
  | none => .missing (object.path.display ++ ": undefined symbol: " ++ name)
  | some { effect? := none, .. } => .null
  | some { effect? := some effect, .. } => .found { place := object.place, name, effect }

def LinkingHost.linker (host : LinkingHost) : Linker LinkedObject LinkedEntry where
  openObject objects path := (host.openObject objects path).mapError OpenFailure.message
  lookup := LinkedObject.lookup

/-- What a library's counters show: the number of calls, and the arguments of the last call that
keeps them. -/
structure Counters where
  calls : Nat
  uid : Int
  gid : Int
  network : Int
  deriving DecidableEq, Repr

namespace Counters

def initial : Counters :=
  { calls := 0, uid := -1, gid := -1, network := -1 }

def count (counters : Counters) (call : NativeCall LinkedEntry) : Counters :=
  let counted := { counters with calls := counters.calls + call.entry.effect.weight }
  if call.entry.effect.keepsArguments then
    { counted with
      uid := call.uid, gid := call.gid, network := if call.enableNetwork then 1 else 0 }
  else counted

/-- The counters of the library at a place after a process's calls. -/
def ofCalls (place : Place) (calls : List (NativeCall LinkedEntry)) : Counters :=
  (calls.filter (·.entry.place = place)).foldl count initial

end Counters

namespace LinkingHost

/-- The names in a list, which spaces and colons separate. Names longer than any path do not
count. -/
def listedNames (list : List UInt8) : List (List UInt8) :=
  (list.splitOnP (fun b => b == 0x20 || b == 0x3A)).filter fun name =>
    !name.isEmpty && name.length ≤ FileTree.pathLimit

def announcement (name : List UInt8) (failure : OpenFailure) : String :=
  "ERROR: ld.so: object '" ++ Text.Utf8.decodeLossy name ++
    "' from LD_PRELOAD cannot be preloaded (" ++ failure.reason ++ "): ignored."

/-- Opens an object for good, with what it exports. -/
def keep (host : LinkingHost) (object : LinkedObject) : LinkingHost :=
  { host with
    program := host.program ++ object.exports, preloaded := host.preloaded ++ [object] }

/-- The host after opening the listed names in order, and what is said about those that do not
open. -/
def preload (host : LinkingHost) : List (List UInt8) → LinkingHost × List String
  | [] => (host, [])
  | name :: rest =>
    match host.openObject [] ⟨name⟩ with
    | .ok object => (host.keep object).preload rest
    | .error failure =>
      let (host, announcements) := host.preload rest
      (host, announcement name failure :: announcements)

end LinkingHost

end SeccompBootstrap
