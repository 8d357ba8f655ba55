/-!
# Files

What can be asked of a file system: the text of the file under a path, whether there is anything
under it, and the environment file that is found from the working directory upward. Any answers
will do, so paths of every kind, links and mounts are left to the system.
-/

namespace BoundQuery

/-- Why the system does not give out what a file holds. -/
inductive ReadFault where
  | permissionDenied
  | inputOutput
  /-- Anything else, in the words of the system. -/
  | other (message : String)
deriving DecidableEq, Repr

def ReadFault.message : ReadFault → String
  | permissionDenied => "Permission denied (os error 13)"
  | inputOutput => "Input/output error (os error 5)"
  | other message => message

/-- Why a file cannot be read. -/
inductive FileError where
  | nullInPath
  | nameTooLong
  | notFound
  | notDirectory
  | isDirectory
  | notUtf8
  | fault (why : ReadFault)
deriving DecidableEq, Repr

def FileError.message : FileError → String
  | nullInPath => "file name contained an unexpected NUL byte"
  | nameTooLong => "File name too long (os error 36)"
  | notFound => "No such file or directory (os error 2)"
  | notDirectory => "Not a directory (os error 20)"
  | isDirectory => "Is a directory (os error 21)"
  | notUtf8 => "stream did not contain valid UTF-8"
  | fault why => why.message

/-- What is read of a file: its bytes, or those up to a fault. -/
structure FileBytes where
  bytes : ByteArray
  fault? : Option ReadFault := none

structure FileSystem where
  /-- The text of the file under a path. -/
  readText : String → Except FileError String
  /-- There is a file or directory under the path. -/
  contains : String → Bool
  /-- The bytes of the environment file that is found; a fault may come before any of them. -/
  environmentFile? : Option FileBytes

end BoundQuery
