/-! # Faults of input and output -/

namespace HealthWatch

/-- Why reading a file or writing to a descriptor failed. -/
inductive IoFault
  | notFound
  | permissionDenied
  | badDescriptor
  | notADirectory
  | isADirectory
  | noSpace
  | brokenPipe
  | nameTooLong
  /-- A file that holds bytes which are not text was read as text. -/
  | notText
  /-- A path holds a NUL byte. -/
  | nulInPath
  /-- A channel that has been closed was written to. -/
  | closedChannel
  /-- A writer took none of the bytes offered. -/
  | wroteNothing
  /-- Any other fault, by its text. -/
  | other (text : String)
  deriving DecidableEq, Repr

/-- The text of a fault that the operating system reports, with its number. -/
def systemText (text : String) (number : Nat) : String :=
  text ++ " (os error " ++ toString number ++ ")"

/-- A fault in words. -/
def IoFault.message : IoFault → String
  | notFound => systemText "No such file or directory" 2
  | permissionDenied => systemText "Permission denied" 13
  | badDescriptor => systemText "Bad file descriptor" 9
  | notADirectory => systemText "Not a directory" 20
  | isADirectory => systemText "Is a directory" 21
  | noSpace => systemText "No space left on device" 28
  | brokenPipe => systemText "Broken pipe" 32
  | nameTooLong => systemText "File name too long" 36
  | notText => "stream did not contain valid UTF-8"
  | nulInPath => "file name contained an unexpected NUL byte"
  | closedChannel => "sync pipe is closed"
  | wroteNothing => "failed to write whole buffer"
  | other text => text

/-- The kind of a fault, by its name. -/
def IoFault.kind : IoFault → String
  | notFound => "NotFound"
  | permissionDenied => "PermissionDenied"
  | badDescriptor => "Uncategorized"
  | notADirectory => "NotADirectory"
  | isADirectory => "IsADirectory"
  | noSpace => "StorageFull"
  | brokenPipe => "BrokenPipe"
  | nameTooLong => "InvalidFilename"
  | notText => "InvalidData"
  | nulInPath => "InvalidInput"
  | closedChannel => "BrokenPipe"
  | wroteNothing => "WriteZero"
  | other _ => "Other"

end HealthWatch
