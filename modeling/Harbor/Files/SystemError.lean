/-!
# Failures of the operating system

The failures that a path or a socket can meet, with the system's number for each
and the words it is reported in.
-/

namespace Harbor

/-- A failure reported by the operating system. -/
inductive SystemError where
  | noEntry
  | accessDenied
  | exists
  | notDirectory
  | isDirectory
  | nameTooLong
  | tooManyLinks
  | addressInUse
  | addressNotAvailable
  | networkUnreachable
  | connectionRefused
  /-- The path holds a NUL, so that the system is not even asked. -/
  | nulInPath
  /-- Any other failure, with the system's number and description of it. -/
  | other (number : Nat) (description : String)
  deriving Repr, DecidableEq

namespace SystemError

/-- The system's number and description of a failure. -/
def describe : SystemError → Option (Nat × String)
  | noEntry => some (2, "No such file or directory")
  | accessDenied => some (13, "Permission denied")
  | .exists => some (17, "File exists")
  | notDirectory => some (20, "Not a directory")
  | isDirectory => some (21, "Is a directory")
  | nameTooLong => some (36, "File name too long")
  | tooManyLinks => some (40, "Too many levels of symbolic links")
  | addressInUse => some (98, "Address already in use")
  | addressNotAvailable => some (99, "Cannot assign requested address")
  | networkUnreachable => some (101, "Network is unreachable")
  | connectionRefused => some (111, "Connection refused")
  | nulInPath => none
  | other number description => some (number, description)

/-- The failure with a number, which the system describes in some words. -/
def ofNumber (number : Nat) (description : String) : SystemError :=
  let known := [noEntry, accessDenied, .exists, notDirectory, isDirectory, nameTooLong,
    tooManyLinks, addressInUse, addressNotAvailable, networkUnreachable, connectionRefused]
  (known.find? fun e => e.describe.any fun d => d.1 == number).getD (other number description)

/-- The failure in words. -/
def message (e : SystemError) : String :=
  match e.describe with
  | some (number, description) => s!"{description} (os error {number})"
  | none => "file name contained an unexpected NUL byte"

end SystemError

end Harbor
