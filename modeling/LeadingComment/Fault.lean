import LeadingComment.Path

/-! What can go wrong between the program and its files and output. A `Fault` is one cause, a
`StreamFault` says on which side of one stream it arose, and a `Failure` is what ends a run. -/
namespace LeadingComment

/-- The classes in which a device or an operating system reports its faults. -/
inductive FaultKind where
  | notFound | permissionDenied | connectionRefused | connectionReset | hostUnreachable
  | networkUnreachable | connectionAborted | notConnected | addressInUse | addressNotAvailable
  | networkDown | brokenPipe | alreadyExists | wouldBlock | notADirectory | isADirectory
  | directoryNotEmpty | readOnlyFilesystem | filesystemLoop | staleNetworkFileHandle
  | invalidInput | invalidData
  | timedOut | writeZero | storageFull | notSeekable | quotaExceeded | fileTooLarge | resourceBusy
  | executableFileBusy | deadlock | crossesDevices | tooManyLinks | invalidFilename
  | argumentListTooLong | interrupted | unsupported | unexpectedEnd | outOfMemory | inProgress
  | other
deriving DecidableEq, Repr

inductive Fault where
  | missing
  | notDirectory
  | directory
  | nameTooLong
  | nulInName
  | invalidText
  | unwritablePath
  | brokenPipe
  | seekFailed
  | flushFailed
  | noSpace
  /-- A fault with the words of the device that reports it. -/
  | reported (kind : FaultKind) (text : String)
deriving DecidableEq, Repr

namespace Fault

def kind : Fault → FaultKind
  | missing => .notFound
  | notDirectory => .notADirectory
  | directory => .isADirectory
  | nameTooLong => .invalidFilename
  | nulInName => .invalidInput
  | invalidText | unwritablePath => .invalidData
  | brokenPipe => .brokenPipe
  | seekFailed | flushFailed => .other
  | noSpace => .storageFull
  | reported kind _ => kind

def message : Fault → String
  | missing => "No such file or directory (os error 2)"
  | notDirectory => "Not a directory (os error 20)"
  | directory => "Is a directory (os error 21)"
  | nameTooLong => "File name too long (os error 36)"
  | nulInName => "file name contained an unexpected NUL byte"
  | invalidText => "stream did not contain valid UTF-8"
  | unwritablePath => "path contains invalid UTF-8 characters"
  | brokenPipe => "broken pipe"
  | seekFailed => "seek failed"
  | flushFailed => "flush failed"
  | noSpace => "No space left on device (os error 28)"
  | reported _ text => text

/-- An interrupted read is tried again and never reaches the reader. -/
def isInterruption (fault : Fault) : Bool := fault.kind == .interrupted

end Fault

inductive Failure where
  | file (path : Path) (fault : Fault)
  | output (fault : Fault)
deriving DecidableEq, Repr

namespace Failure

def fault : Failure → Fault
  | file _ fault => fault
  | output fault => fault

def message : Failure → String
  | file path fault => path.display ++ ": " ++ fault.message
  | output fault => "error writing output: " ++ fault.message

end Failure

inductive StreamFault where
  | read (fault : Fault)
  | write (fault : Fault)
deriving DecidableEq, Repr

namespace StreamFault

def fault : StreamFault → Fault
  | read fault => fault
  | write fault => fault

def message : StreamFault → String
  | read fault => "read failed: " ++ fault.message
  | write fault => "write failed: " ++ fault.message

/-- A fault of reading is the file's, a fault of writing is the output's. -/
def failure (path : Path) : StreamFault → Failure
  | read fault => .file path fault
  | write fault => .output fault

end StreamFault
end LeadingComment
