/-!
Reasons for which a file or a program cannot be used, in the words of the operating system.
-/

namespace ShaderVariants

inductive OsError where
  | notFound
  | permissionDenied
  | alreadyExists
  | notDirectory
  | isDirectory
  | nameTooLong
  | invalidUtf8
  | nulInName
  /-- A reason given by its words alone. -/
  | other (words : String)
  deriving DecidableEq, Repr

namespace OsError

def numbered (words : String) (number : Nat) : String := s!"{words} (os error {number})"

def message : OsError → String
  | .notFound => numbered "No such file or directory" 2
  | .permissionDenied => numbered "Permission denied" 13
  | .alreadyExists => numbered "File exists" 17
  | .notDirectory => numbered "Not a directory" 20
  | .isDirectory => numbered "Is a directory" 21
  | .nameTooLong => numbered "File name too long" 36
  | .invalidUtf8 => "stream did not contain valid UTF-8"
  | .nulInName => "file name contained an unexpected NUL byte"
  | .other words => words

end OsError
end ShaderVariants
