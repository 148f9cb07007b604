import Upkeep.Text.Basic

/-!
# Input and output faults

What reading and writing can be refused for, with the wording of the operating system.
-/

namespace Upkeep

inductive IoKind where
  | notFound | permissionDenied | connectionRefused | connectionReset | hostUnreachable
  | networkUnreachable | connectionAborted | notConnected | addrInUse | addrNotAvailable
  | networkDown | brokenPipe | alreadyExists | wouldBlock | notADirectory | isADirectory
  | directoryNotEmpty | readOnlyFilesystem | staleNetworkFileHandle | invalidInput | invalidData
  | timedOut | writeZero | storageFull | notSeekable | quotaExceeded | fileTooLarge | resourceBusy
  | executableFileBusy | deadlock | crossesDevices | tooManyLinks | invalidFilename
  | argumentListTooLong | interrupted | unsupported | unexpectedEof | outOfMemory | other
deriving DecidableEq, Repr

structure IoFault where
  kind : IoKind
  text : Text
deriving DecidableEq, Repr

namespace IoFault

def notFound : IoFault := ⟨.notFound, "No such file or directory (os error 2)".toList⟩

def notADirectory : IoFault := ⟨.notADirectory, "Not a directory (os error 20)".toList⟩

def isADirectory : IoFault := ⟨.isADirectory, "Is a directory (os error 21)".toList⟩

def nameTooLong : IoFault := ⟨.invalidFilename, "File name too long (os error 36)".toList⟩

def nulInName : IoFault := ⟨.invalidInput, "file name contained an unexpected NUL byte".toList⟩

def notUtf8 : IoFault := ⟨.invalidData, "stream did not contain valid UTF-8".toList⟩

/-- there is no room for all that is to be written -/
def noRoom : IoFault := ⟨.writeZero, "failed to write whole buffer".toList⟩

end IoFault

end Upkeep
