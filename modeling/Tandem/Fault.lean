import Tandem.Path
import Tandem.Text.Decimal

/-!
# Faults and what ends a run

A `Fault` is why one operation on a file, a stream or a process failed. A `RunError` is why a whole
run was given up. A program that exits non-zero or cannot be started is neither: that is reported
for its case, and the run goes on.

The wording of both is fixed here, in `Fault.message` and `RunError.message`, and nowhere else.
-/

namespace Tandem

/-- Number of an error of the operating system. -/
structure Errno where
  code : Int
  deriving DecidableEq, Repr

namespace Errno

/-- A name does not exist. -/
def noEntry : Errno := ⟨2⟩

/-- A file is no program. -/
def noExec : Errno := ⟨8⟩

/-- A file may not be executed. -/
def denied : Errno := ⟨13⟩

/-- A thing is in use. -/
def busy : Errno := ⟨16⟩

/-- A name is already taken. -/
def exist : Errno := ⟨17⟩

/-- A directory was needed. -/
def notDir : Errno := ⟨20⟩

/-- A directory was not wanted. -/
def isDir : Errno := ⟨21⟩

/-- A directory still has entries. -/
def notEmpty : Errno := ⟨39⟩

/-- No process answers to a number. -/
def noProcess : Errno := ⟨3⟩

/-- A stream is not open, or not for this. -/
def badStream : Errno := ⟨9⟩

/-- An operation makes no sense for its object. -/
def invalid : Errno := ⟨22⟩

/-- A program cannot be written while it is there to be run. -/
def textBusy : Errno := ⟨26⟩

/-- A device is full. -/
def noSpace : Errno := ⟨28⟩

/-- Nobody reads what is written. -/
def brokenPipe : Errno := ⟨32⟩

/-- A number is out of range. -/
def outOfRange : Errno := ⟨34⟩

/-- A name or a path exceeds its limit. -/
def tooLong : Errno := ⟨36⟩

/-- Symbolic links go round in circles, or nearly so. -/
def tooManyLinks : Errno := ⟨40⟩

/-- The errors that have a text of their own, by number. -/
def texts : List String :=
  ["Success", "Operation not permitted", "No such file or directory", "No such process",
    "Interrupted system call", "Input/output error", "No such device or address",
    "Argument list too long", "Exec format error", "Bad file descriptor", "No child processes",
    "Resource temporarily unavailable", "Cannot allocate memory", "Permission denied",
    "Bad address", "Block device required", "Device or resource busy", "File exists",
    "Invalid cross-device link", "No such device", "Not a directory", "Is a directory",
    "Invalid argument", "Too many open files in system", "Too many open files",
    "Inappropriate ioctl for device", "Text file busy", "File too large", "No space left on device",
    "Illegal seek", "Read-only file system", "Too many links", "Broken pipe",
    "Numerical argument out of domain", "Numerical result out of range",
    "Resource deadlock avoided", "File name too long", "No locks available",
    "Function not implemented", "Directory not empty", "Too many levels of symbolic links",
    "Unknown error 41", "No message of desired type", "Identifier removed",
    "Channel number out of range", "Level 2 not synchronized", "Level 3 halted", "Level 3 reset",
    "Link number out of range", "Protocol driver not attached", "No CSI structure available",
    "Level 2 halted", "Invalid exchange", "Invalid request descriptor", "Exchange full", "No anode",
    "Invalid request code", "Invalid slot", "Unknown error 58", "Bad font file format",
    "Device not a stream", "No data available", "Timer expired", "Out of streams resources",
    "Machine is not on the network", "Package not installed", "Object is remote",
    "Link has been severed", "Advertise error", "Srmount error", "Communication error on send",
    "Protocol error", "Multihop attempted", "RFS specific error", "Bad message",
    "Value too large for defined data type", "Name not unique on network",
    "File descriptor in bad state", "Remote address changed",
    "Can not access a needed shared library", "Accessing a corrupted shared library",
    ".lib section in a.out corrupted", "Attempting to link in too many shared libraries",
    "Cannot exec a shared library directly", "Invalid or incomplete multibyte or wide character",
    "Interrupted system call should be restarted", "Streams pipe error", "Too many users",
    "Socket operation on non-socket", "Destination address required", "Message too long",
    "Protocol wrong type for socket", "Protocol not available", "Protocol not supported",
    "Socket type not supported", "Operation not supported", "Protocol family not supported",
    "Address family not supported by protocol", "Address already in use",
    "Cannot assign requested address", "Network is down", "Network is unreachable",
    "Network dropped connection on reset", "Software caused connection abort",
    "Connection reset by peer", "No buffer space available",
    "Transport endpoint is already connected", "Transport endpoint is not connected",
    "Cannot send after transport endpoint shutdown", "Too many references: cannot splice",
    "Connection timed out", "Connection refused", "Host is down", "No route to host",
    "Operation already in progress", "Operation now in progress", "Stale file handle",
    "Structure needs cleaning", "Not a XENIX named type file", "No XENIX semaphores available",
    "Is a named type file", "Remote I/O error", "Disk quota exceeded", "No medium found",
    "Wrong medium type", "Operation canceled", "Required key not available", "Key has expired",
    "Key has been revoked", "Key was rejected by service", "Owner died", "State not recoverable",
    "Operation not possible due to RF-kill", "Memory page has hardware error"]

/-- What the operating system calls the error. -/
def text (e : Errno) : String :=
  match e.code with
  | .ofNat n => texts.getD n ("Unknown error " ++ Nat.repr n)
  | code => "Unknown error " ++ Decimal.text code

end Errno

/-- Why an operation failed. -/
inductive Fault where
  /-- The operating system refused. -/
  | os (errno : Errno)
  /-- A path holds a NUL byte. -/
  | nulInPath
  /-- A program name or an argument holds a NUL byte. -/
  | nulInCommand
  /-- A directory stands where an input file is needed. -/
  | inputIsDir
  /-- The console takes nothing more and says so. -/
  | consoleFull
  /-- The console takes nothing more and does not say so. -/
  | shortWrite
  /-- The console could not be flushed. -/
  | flushFailed
  /-- Any other cause, in its own words. -/
  | other (text : String)
  deriving DecidableEq, Repr

namespace Fault

/-- The text of a fault. -/
def message : Fault → String
  | .os e => e.text ++ " (os error " ++ Decimal.text e.code ++ ")"
  | .nulInPath => "file name contained an unexpected NUL byte"
  | .nulInCommand => "nul byte found in provided data"
  | .inputIsDir => "is a directory"
  | .consoleFull => "console full"
  | .shortWrite => "failed to write whole buffer"
  | .flushFailed => "flush failed"
  | .other text => text

/-- The fault says that a name does not exist. -/
def isMissing (f : Fault) : Bool :=
  f == .os .noEntry

end Fault

/-- Why a run was given up. -/
inductive RunError where
  /-- The test directory could not be listed. -/
  | discovery (dir : Path) (cause : Fault)
  /-- An output directory could not be created. -/
  | outputDir (dir : Path) (cause : Fault)
  /-- The diff tool failed, which is not the same as finding differences. -/
  | diffTool (tool : String) (reason : String) (cause : Option Fault)
  /-- A file or the console failed. -/
  | io (path : Path) (cause : Fault)
  deriving DecidableEq, Repr

namespace RunError

/-- The name under which faults of the console are reported. -/
def consolePath : Path := Path.ofString "<console>"

/-- A fault of the console. -/
def console (cause : Fault) : RunError :=
  .io consolePath cause

/-- The fault behind the error, if there is one. -/
def cause? : RunError → Option Fault
  | .discovery _ cause => some cause
  | .outputDir _ cause => some cause
  | .diffTool _ _ cause => cause
  | .io _ cause => some cause

/-- The text of an error. -/
def message : RunError → String
  | .discovery dir cause =>
    "failed to list test directory '" ++ dir.display ++ "': " ++ cause.message
  | .outputDir dir cause =>
    "failed to create output directory '" ++ dir.display ++ "': " ++ cause.message
  | .diffTool tool reason cause =>
    "diff tool '" ++ tool ++ "' failed: " ++ reason ++
      (match cause with | some fault => ": " ++ fault.message | none => "")
  | .io path cause => "I/O error on '" ++ path.display ++ "': " ++ cause.message

end RunError

end Tandem
