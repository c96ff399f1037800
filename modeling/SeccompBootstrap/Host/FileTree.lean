import SeccompBootstrap.Environment

/-!
The files of a host as far as a bootstrap can notice them: directories, plain data, shared objects
with what they export, and programs. `find` follows a path through the directories and says what it
leads to, or which error number a system call gets for it.
-/

set_option autoImplicit false
set_option relaxedAutoImplicit false

namespace SeccompBootstrap

structure Errno where
  code : Int
  deriving DecidableEq, Repr

namespace Errno

def missing : Errno := ⟨2⟩

def denied : Errno := ⟨13⟩

def notDirectory : Errno := ⟨20⟩

def isDirectory : Errno := ⟨21⟩

def nameTooLong : Errno := ⟨36⟩

/-- The wordings of the numbers from zero on; an empty one for a number without a wording. -/
def texts : List String :=
  ["Success",
    "Operation not permitted",
    "No such file or directory",
    "No such process",
    "Interrupted system call",
    "Input/output error",
    "No such device or address",
    "Argument list too long",
    "Exec format error",
    "Bad file descriptor",
    "No child processes",
    "Resource temporarily unavailable",
    "Cannot allocate memory",
    "Permission denied",
    "Bad address",
    "Block device required",
    "Device or resource busy",
    "File exists",
    "Invalid cross-device link",
    "No such device",
    "Not a directory",
    "Is a directory",
    "Invalid argument",
    "Too many open files in system",
    "Too many open files",
    "Inappropriate ioctl for device",
    "Text file busy",
    "File too large",
    "No space left on device",
    "Illegal seek",
    "Read-only file system",
    "Too many links",
    "Broken pipe",
    "Numerical argument out of domain",
    "Numerical result out of range",
    "Resource deadlock avoided",
    "File name too long",
    "No locks available",
    "Function not implemented",
    "Directory not empty",
    "Too many levels of symbolic links",
    "",
    "No message of desired type",
    "Identifier removed",
    "Channel number out of range",
    "Level 2 not synchronized",
    "Level 3 halted",
    "Level 3 reset",
    "Link number out of range",
    "Protocol driver not attached",
    "No CSI structure available",
    "Level 2 halted",
    "Invalid exchange",
    "Invalid request descriptor",
    "Exchange full",
    "No anode",
    "Invalid request code",
    "Invalid slot",
    "",
    "Bad font file format",
    "Device not a stream",
    "No data available",
    "Timer expired",
    "Out of streams resources",
    "Machine is not on the network",
    "Package not installed",
    "Object is remote",
    "Link has been severed",
    "Advertise error",
    "Srmount error",
    "Communication error on send",
    "Protocol error",
    "Multihop attempted",
    "RFS specific error",
    "Bad message",
    "Value too large for defined data type",
    "Name not unique on network",
    "File descriptor in bad state",
    "Remote address changed",
    "Can not access a needed shared library",
    "Accessing a corrupted shared library",
    ".lib section in a.out corrupted",
    "Attempting to link in too many shared libraries",
    "Cannot exec a shared library directly",
    "Invalid or incomplete multibyte or wide character",
    "Interrupted system call should be restarted",
    "Streams pipe error",
    "Too many users",
    "Socket operation on non-socket",
    "Destination address required",
    "Message too long",
    "Protocol wrong type for socket",
    "Protocol not available",
    "Protocol not supported",
    "Socket type not supported",
    "Operation not supported",
    "Protocol family not supported",
    "Address family not supported by protocol",
    "Address already in use",
    "Cannot assign requested address",
    "Network is down",
    "Network is unreachable",
    "Network dropped connection on reset",
    "Software caused connection abort",
    "Connection reset by peer",
    "No buffer space available",
    "Transport endpoint is already connected",
    "Transport endpoint is not connected",
    "Cannot send after transport endpoint shutdown",
    "Too many references: cannot splice",
    "Connection timed out",
    "Connection refused",
    "Host is down",
    "No route to host",
    "Operation already in progress",
    "Operation now in progress",
    "Stale file handle",
    "Structure needs cleaning",
    "Not a XENIX named type file",
    "No XENIX semaphores available",
    "Is a named type file",
    "Remote I/O error",
    "Disk quota exceeded",
    "No medium found",
    "Wrong medium type",
    "Operation canceled",
    "Required key not available",
    "Key has expired",
    "Key has been revoked",
    "Key was rejected by service",
    "Owner died",
    "State not recoverable",
    "Operation not possible due to RF-kill",
    "Memory page has hardware error"]

def ownText? : Int → Option String
  | .ofNat code => texts[code]?.filter (!·.isEmpty)
  | .negSucc _ => none

def text (errno : Errno) : String :=
  (ownText? errno.code).getD ("Unknown error " ++ toString errno.code)

def message (errno : Errno) : String :=
  errno.text ++ " (os error " ++ toString errno.code ++ ")"

end Errno

/-- What calling an export does to the counters of its library: how much it adds to the number of
calls, and whether it keeps the arguments. -/
structure ExportEffect where
  weight : Nat
  keepsArguments : Bool
  deriving DecidableEq, Repr

/-- A name that a shared object exports; its address is null if it has no effect to describe. -/
structure Export where
  name : String
  effect? : Option ExportEffect
  deriving DecidableEq, Repr

inductive Program where
  | succeed
  | fail
  | echo
  deriving DecidableEq, Repr

inductive FileKind where
  | directory
  | data (size : Nat)
  | sharedObject (exports : List Export)
  | program (program : Program)
  deriving DecidableEq, Repr

/-- The names of the directories from the root on, and of the file in the last of them. -/
abbrev Place := List (List UInt8)

/-- The files of a host beside its root directory, and the directory that relative paths start
from. -/
structure FileTree where
  files : List (Place × FileKind)
  workingDirectory : Place
  deriving DecidableEq, Repr

namespace FileTree

def kindAt? (tree : FileTree) (place : Place) : Option FileKind :=
  if place.isEmpty then some .directory
  else (tree.files.find? (·.1 = place)).map (·.2)

def nameLimit : Nat := 255

def pathLimit : Nat := 4095

/-- Where one component leads from a place, which must be a directory. -/
def enter (tree : FileTree) (place : Place) (name : List UInt8) : Except Errno Place :=
  if tree.kindAt? place ≠ some .directory then .error .notDirectory
  else if name.isEmpty || name = Path.here then .ok place
  else if name = Path.above then .ok place.dropLast
  else if nameLimit < name.length then .error .nameTooLong
  else if (tree.kindAt? (place ++ [name])).isSome then .ok (place ++ [name])
  else .error .missing

def locate (tree : FileTree) (path : Path) : Except Errno Place :=
  if path.bytes.isEmpty then .error .missing
  else if pathLimit < path.bytes.length then .error .nameTooLong
  else path.parts.foldlM tree.enter (if path.isAbsolute then [] else tree.workingDirectory)

def find (tree : FileTree) (path : Path) : Except Errno (Place × FileKind) := do
  let place ← tree.locate path
  match tree.kindAt? place with
  | some kind => return (place, kind)
  | none => throw .missing

end FileTree

end SeccompBootstrap
