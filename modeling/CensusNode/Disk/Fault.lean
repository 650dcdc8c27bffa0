/-!
What the disk answers when a directory cannot be made or a file cannot be reached.
-/

namespace CensusNode

inductive IoFault where
  | missing
  | exists
  | notDirectory
  | isDirectory
  | nameTooLong
  | nulByte
deriving DecidableEq, Repr

def IoFault.message : IoFault → String
  | .missing => "No such file or directory (os error 2)"
  | .exists => "File exists (os error 17)"
  | .notDirectory => "Not a directory (os error 20)"
  | .isDirectory => "Is a directory (os error 21)"
  | .nameTooLong => "File name too long (os error 36)"
  | .nulByte => "file name contained an unexpected NUL byte"

end CensusNode
