/-
**Error numbers.**

A system call that fails answers with a number.  The numbers that have a name are `1` to `133`
without `41` and `58`, which repeat others; every other number stands for the unknown error.  A
failure of the launcher is shown by name and text, a failure while reading or writing by the text
of the C library and the number.

Main definitions:

* `LineShell.Errno` — the unknown error or a number that has a name;
* `LineShell.Errno.ofNumber` — the error of any number a call can answer with;
* `LineShell.Errno.describe` — name and text;
* `LineShell.Errno.systemText` — the wording of the C library.

Main results:

* `LineShell.Errno.ofNumber_number` — an error is the one of its own number;
* `LineShell.Errno.number_ofNumber` — a number with a name survives, any other becomes `0`.
-/

set_option autoImplicit false

namespace LineShell

/-- Whether an error number has a name. -/
def Errno.isNamed (n : Nat) : Bool := decide (1 ≤ n) && decide (n ≤ 133) && n != 41 && n != 58

/-- An error of a system call: the unknown error `0`, or a number that has a name. -/
structure Errno where
  /-- The number, `0` for the unknown error. -/
  number : Nat
  /-- Only named numbers and `0` occur. -/
  named : number = 0 ∨ Errno.isNamed number = true
deriving DecidableEq

namespace Errno

/-- The error that has no name. -/
def unknown : Errno := ⟨0, .inl rfl⟩

/-- The error of a number: itself if it has a name, else the unknown error. -/
def ofNumber (n : Int) : Errno :=
  if h : isNamed n.toNat = true then ⟨n.toNat, .inr h⟩ else unknown

theorem number_ofNumber (n : Int) :
    (ofNumber n).number = if isNamed n.toNat then n.toNat else 0 := by
  unfold ofNumber
  split <;> simp_all [unknown]

theorem isNamed_bounds {n : Nat} (h : isNamed n = true) : 1 ≤ n ∧ n ≤ 133 := by
  simp only [isNamed, Bool.and_eq_true, decide_eq_true_eq] at h
  omega

@[simp] theorem ofNumber_number (e : Errno) : ofNumber e.number = e := by
  obtain ⟨n, h⟩ := e
  rcases h with rfl | h
  · rfl
  · simp [ofNumber, h]

/-! ### The errors that the library itself produces -/

/-- No such entry. -/
def noEntry : Errno := ⟨2, .inr rfl⟩
/-- A call was interrupted by a signal. -/
def interrupted : Errno := ⟨4, .inr rfl⟩
/-- No reader, or no device, behind a special file. -/
def noDevice : Errno := ⟨6, .inr rfl⟩
/-- More or longer arguments than a program can be given. -/
def tooBig : Errno := ⟨7, .inr rfl⟩
/-- Not a format that can be run. -/
def notExecutable : Errno := ⟨8, .inr rfl⟩
/-- A descriptor that is not open. -/
def badDescriptor : Errno := ⟨9, .inr rfl⟩
/-- Permission denied. -/
def accessDenied : Errno := ⟨13, .inr rfl⟩
/-- A thing that is in use. -/
def busy : Errno := ⟨16, .inr rfl⟩
/-- The entry exists already. -/
def exists_ : Errno := ⟨17, .inr rfl⟩
/-- A path goes through something that is no directory. -/
def notDirectory : Errno := ⟨20, .inr rfl⟩
/-- A directory where a file is needed. -/
def isDirectory : Errno := ⟨21, .inr rfl⟩
/-- An argument that has no meaning. -/
def invalid : Errno := ⟨22, .inr rfl⟩
/-- Not a terminal. -/
def notTerminal : Errno := ⟨25, .inr rfl⟩
/-- A program that is being written. -/
def beingWritten : Errno := ⟨26, .inr rfl⟩
/-- No room is left. -/
def noSpace : Errno := ⟨28, .inr rfl⟩
/-- A pipe that nobody reads. -/
def brokenPipe : Errno := ⟨32, .inr rfl⟩
/-- A name or a path is too long. -/
def nameTooLong : Errno := ⟨36, .inr rfl⟩
/-- A directory that still has entries. -/
def notEmpty : Errno := ⟨39, .inr rfl⟩
/-- Too many symbolic links. -/
def tooManyLinks : Errno := ⟨40, .inr rfl⟩

/-! ### Wording -/

/-- Number, name and text of the named errors. -/
def table : List (Nat × String × String) :=
  [(1, "EPERM", "Operation not permitted"),
   (2, "ENOENT", "No such file or directory"),
   (3, "ESRCH", "No such process"),
   (4, "EINTR", "Interrupted system call"),
   (5, "EIO", "I/O error"),
   (6, "ENXIO", "No such device or address"),
   (7, "E2BIG", "Argument list too long"),
   (8, "ENOEXEC", "Exec format error"),
   (9, "EBADF", "Bad file number"),
   (10, "ECHILD", "No child processes"),
   (11, "EAGAIN", "Try again"),
   (12, "ENOMEM", "Out of memory"),
   (13, "EACCES", "Permission denied"),
   (14, "EFAULT", "Bad address"),
   (15, "ENOTBLK", "Block device required"),
   (16, "EBUSY", "Device or resource busy"),
   (17, "EEXIST", "File exists"),
   (18, "EXDEV", "Cross-device link"),
   (19, "ENODEV", "No such device"),
   (20, "ENOTDIR", "Not a directory"),
   (21, "EISDIR", "Is a directory"),
   (22, "EINVAL", "Invalid argument"),
   (23, "ENFILE", "File table overflow"),
   (24, "EMFILE", "Too many open files"),
   (25, "ENOTTY", "Not a typewriter"),
   (26, "ETXTBSY", "Text file busy"),
   (27, "EFBIG", "File too large"),
   (28, "ENOSPC", "No space left on device"),
   (29, "ESPIPE", "Illegal seek"),
   (30, "EROFS", "Read-only file system"),
   (31, "EMLINK", "Too many links"),
   (32, "EPIPE", "Broken pipe"),
   (33, "EDOM", "Math argument out of domain of func"),
   (34, "ERANGE", "Math result not representable"),
   (35, "EDEADLK", "Resource deadlock would occur"),
   (36, "ENAMETOOLONG", "File name too long"),
   (37, "ENOLCK", "No record locks available"),
   (38, "ENOSYS", "Function not implemented"),
   (39, "ENOTEMPTY", "Directory not empty"),
   (40, "ELOOP", "Too many symbolic links encountered"),
   (42, "ENOMSG", "No message of desired type"),
   (43, "EIDRM", "Identifier removed"),
   (44, "ECHRNG", "Channel number out of range"),
   (45, "EL2NSYNC", "Level 2 not synchronized"),
   (46, "EL3HLT", "Level 3 halted"),
   (47, "EL3RST", "Level 3 reset"),
   (48, "ELNRNG", "Link number out of range"),
   (49, "EUNATCH", "Protocol driver not attached"),
   (50, "ENOCSI", "No CSI structure available"),
   (51, "EL2HLT", "Level 2 halted"),
   (52, "EBADE", "Invalid exchange"),
   (53, "EBADR", "Invalid request descriptor"),
   (54, "EXFULL", "Exchange full"),
   (55, "ENOANO", "No anode"),
   (56, "EBADRQC", "Invalid request code"),
   (57, "EBADSLT", "Invalid slot"),
   (59, "EBFONT", "Bad font file format"),
   (60, "ENOSTR", "Device not a stream"),
   (61, "ENODATA", "No data available"),
   (62, "ETIME", "Timer expired"),
   (63, "ENOSR", "Out of streams resources"),
   (64, "ENONET", "Machine is not on the network"),
   (65, "ENOPKG", "Package not installed"),
   (66, "EREMOTE", "Object is remote"),
   (67, "ENOLINK", "Link has been severed"),
   (68, "EADV", "Advertise error"),
   (69, "ESRMNT", "Srmount error"),
   (70, "ECOMM", "Communication error on send"),
   (71, "EPROTO", "Protocol error"),
   (72, "EMULTIHOP", "Multihop attempted"),
   (73, "EDOTDOT", "RFS specific error"),
   (74, "EBADMSG", "Not a data message"),
   (75, "EOVERFLOW", "Value too large for defined data type"),
   (76, "ENOTUNIQ", "Name not unique on network"),
   (77, "EBADFD", "File descriptor in bad state"),
   (78, "EREMCHG", "Remote address changed"),
   (79, "ELIBACC", "Can not access a needed shared library"),
   (80, "ELIBBAD", "Accessing a corrupted shared library"),
   (81, "ELIBSCN", ".lib section in a.out corrupted"),
   (82, "ELIBMAX", "Attempting to link in too many shared libraries"),
   (83, "ELIBEXEC", "Cannot exec a shared library directly"),
   (84, "EILSEQ", "Illegal byte sequence"),
   (85, "ERESTART", "Interrupted system call should be restarted"),
   (86, "ESTRPIPE", "Streams pipe error"),
   (87, "EUSERS", "Too many users"),
   (88, "ENOTSOCK", "Socket operation on non-socket"),
   (89, "EDESTADDRREQ", "Destination address required"),
   (90, "EMSGSIZE", "Message too long"),
   (91, "EPROTOTYPE", "Protocol wrong type for socket"),
   (92, "ENOPROTOOPT", "Protocol not available"),
   (93, "EPROTONOSUPPORT", "Protocol not supported"),
   (94, "ESOCKTNOSUPPORT", "Socket type not supported"),
   (95, "EOPNOTSUPP", "Operation not supported on transport endpoint"),
   (96, "EPFNOSUPPORT", "Protocol family not supported"),
   (97, "EAFNOSUPPORT", "Address family not supported by protocol"),
   (98, "EADDRINUSE", "Address already in use"),
   (99, "EADDRNOTAVAIL", "Cannot assign requested address"),
   (100, "ENETDOWN", "Network is down"),
   (101, "ENETUNREACH", "Network is unreachable"),
   (102, "ENETRESET", "Network dropped connection because of reset"),
   (103, "ECONNABORTED", "Software caused connection abort"),
   (104, "ECONNRESET", "Connection reset by peer"),
   (105, "ENOBUFS", "No buffer space available"),
   (106, "EISCONN", "Transport endpoint is already connected"),
   (107, "ENOTCONN", "Transport endpoint is not connected"),
   (108, "ESHUTDOWN", "Cannot send after transport endpoint shutdown"),
   (109, "ETOOMANYREFS", "Too many references: cannot splice"),
   (110, "ETIMEDOUT", "Connection timed out"),
   (111, "ECONNREFUSED", "Connection refused"),
   (112, "EHOSTDOWN", "Host is down"),
   (113, "EHOSTUNREACH", "No route to host"),
   (114, "EALREADY", "Operation already in progress"),
   (115, "EINPROGRESS", "Operation now in progress"),
   (116, "ESTALE", "Stale file handle"),
   (117, "EUCLEAN", "Structure needs cleaning"),
   (118, "ENOTNAM", "Not a XENIX named type file"),
   (119, "ENAVAIL", "No XENIX semaphores available"),
   (120, "EISNAM", "Is a named type file"),
   (121, "EREMOTEIO", "Remote I/O error"),
   (122, "EDQUOT", "Quota exceeded"),
   (123, "ENOMEDIUM", "No medium found"),
   (124, "EMEDIUMTYPE", "Wrong medium type"),
   (125, "ECANCELED", "Operation canceled"),
   (126, "ENOKEY", "Required key not available"),
   (127, "EKEYEXPIRED", "Key has expired"),
   (128, "EKEYREVOKED", "Key has been revoked"),
   (129, "EKEYREJECTED", "Key was rejected by service"),
   (130, "EOWNERDEAD", "Owner died"),
   (131, "ENOTRECOVERABLE", "State not recoverable"),
   (132, "ERFKILL", "Operation not possible due to RF-kill"),
   (133, "EHWPOISON", "Memory page has hardware error")]

/-- Name and text of an error, as the launcher shows them. -/
def describe (e : Errno) : String :=
  match table.find? (·.1 == e.number) with
  | some (_, name, text) => name ++ ": " ++ text
  | none => "UnknownErrno: Unknown errno"

/-- The errors that the C library words in another way. -/
def systemTable : List (Nat × String) :=
  [(5, "Input/output error"),
   (9, "Bad file descriptor"),
   (11, "Resource temporarily unavailable"),
   (12, "Cannot allocate memory"),
   (18, "Invalid cross-device link"),
   (23, "Too many open files in system"),
   (25, "Inappropriate ioctl for device"),
   (33, "Numerical argument out of domain"),
   (34, "Numerical result out of range"),
   (35, "Resource deadlock avoided"),
   (37, "No locks available"),
   (40, "Too many levels of symbolic links"),
   (74, "Bad message"),
   (84, "Invalid or incomplete multibyte or wide character"),
   (95, "Operation not supported"),
   (102, "Network dropped connection on reset"),
   (116, "Stale file handle"),
   (122, "Disk quota exceeded")]

/-- The wording of the C library. -/
def systemText (e : Errno) : String :=
  match systemTable.find? (·.1 == e.number) with
  | some (_, text) => text
  | none =>
    match table.find? (·.1 == e.number) with
    | some (_, _, text) => text
    | none => "Success"

end Errno

/-! ### Failures of reading and writing -/

/-- Why a read, a write or a change of directory failed. -/
inductive IoError where
  /-- The system answered with an error number. -/
  | system (errno : Errno)
  /-- A path holds a NUL byte, so it was never handed to the system. -/
  | nulInPath
  /-- Text was wanted and the bytes were not UTF-8. -/
  | notUtf8
  /-- A reader or writer of the caller failed with its own words. -/
  | other (text : String)
deriving DecidableEq

/-- The wording of a failure. -/
def IoError.message : IoError → String
  | .system e => e.systemText ++ " (os error " ++ toString e.number ++ ")"
  | .nulInPath => "file name contained an unexpected NUL byte"
  | .notUtf8 => "stream did not contain valid UTF-8"
  | .other text => text

end LineShell
