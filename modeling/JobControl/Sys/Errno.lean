/-!
# Error numbers

The error numbers of the system calls the shell and its host make, with their Linux numbers and
the two texts in which they are shown: the short symbol with its description (`EINVAL: Invalid
argument`), and the description with its number (`Invalid argument (os error 22)`).

`IoError` is an error of a file or process operation: an error number, or input the system
refuses before it is asked (a path or argument with a NUL character).
-/

namespace JobControl.Sys

/-- An error number. -/
inductive Errno
  | perm
  | noent
  | srch
  | intr
  | io
  | tooBig
  | noexec
  | badf
  | child
  | again
  | nomem
  | acces
  | exist
  | notdir
  | isdir
  | inval
  | nfile
  | mfile
  | txtbsy
  | nospc
  | spipe
  | rofs
  | pipe
  | nameTooLong
  | notempty
  | loop
  deriving DecidableEq, Repr

namespace Errno

/-- The Linux number. -/
def code : Errno → Nat
  | .perm => 1
  | .noent => 2
  | .srch => 3
  | .intr => 4
  | .io => 5
  | .tooBig => 7
  | .noexec => 8
  | .badf => 9
  | .child => 10
  | .again => 11
  | .nomem => 12
  | .acces => 13
  | .exist => 17
  | .notdir => 20
  | .isdir => 21
  | .inval => 22
  | .nfile => 23
  | .mfile => 24
  | .txtbsy => 26
  | .nospc => 28
  | .spipe => 29
  | .rofs => 30
  | .pipe => 32
  | .nameTooLong => 36
  | .notempty => 39
  | .loop => 40

/-- The symbolic name. -/
def symbol : Errno → String
  | .perm => "EPERM"
  | .noent => "ENOENT"
  | .srch => "ESRCH"
  | .intr => "EINTR"
  | .io => "EIO"
  | .tooBig => "E2BIG"
  | .noexec => "ENOEXEC"
  | .badf => "EBADF"
  | .child => "ECHILD"
  | .again => "EAGAIN"
  | .nomem => "ENOMEM"
  | .acces => "EACCES"
  | .exist => "EEXIST"
  | .notdir => "ENOTDIR"
  | .isdir => "EISDIR"
  | .inval => "EINVAL"
  | .nfile => "ENFILE"
  | .mfile => "EMFILE"
  | .txtbsy => "ETXTBSY"
  | .nospc => "ENOSPC"
  | .spipe => "ESPIPE"
  | .rofs => "EROFS"
  | .pipe => "EPIPE"
  | .nameTooLong => "ENAMETOOLONG"
  | .notempty => "ENOTEMPTY"
  | .loop => "ELOOP"

/-- The description. -/
def description : Errno → String
  | .perm => "Operation not permitted"
  | .noent => "No such file or directory"
  | .srch => "No such process"
  | .intr => "Interrupted system call"
  | .io => "Input/output error"
  | .tooBig => "Argument list too long"
  | .noexec => "Exec format error"
  | .badf => "Bad file descriptor"
  | .child => "No child processes"
  | .again => "Resource temporarily unavailable"
  | .nomem => "Cannot allocate memory"
  | .acces => "Permission denied"
  | .exist => "File exists"
  | .notdir => "Not a directory"
  | .isdir => "Is a directory"
  | .inval => "Invalid argument"
  | .nfile => "Too many open files in system"
  | .mfile => "Too many open files"
  | .txtbsy => "Text file busy"
  | .nospc => "No space left on device"
  | .spipe => "Illegal seek"
  | .rofs => "Read-only file system"
  | .pipe => "Broken pipe"
  | .nameTooLong => "File name too long"
  | .notempty => "Directory not empty"
  | .loop => "Too many levels of symbolic links"

/-- The short form: `EINVAL: Invalid argument`. -/
def render (e : Errno) : String :=
  e.symbol ++ ": " ++ e.description

end Errno

/-- An error of a file or process operation. -/
inductive IoError
  | os (e : Errno)
  | invalidInput (text : String)
  deriving DecidableEq, Repr

namespace IoError

/-- The long form: `No such file or directory (os error 2)`, or the refusal's own text. -/
def render : IoError → String
  | .os e => e.description ++ " (os error " ++ toString e.code ++ ")"
  | .invalidInput text => text

/-- A missing file or program. -/
def isNotFound : IoError → Bool
  | .os .noent => true
  | _ => false

/-- A refusal of a path that holds a NUL character. -/
def nulInPath : IoError :=
  .invalidInput "file name contained an unexpected NUL byte"

/-- A refusal of a program or argument that holds a NUL character. -/
def nulInCommand : IoError :=
  .invalidInput "nul byte found in provided data"

end IoError

end JobControl.Sys
