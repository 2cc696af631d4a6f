import Sections.Text.Quoted

/-!
# Failures of file operations
-/

namespace Sections

inductive SystemError where
  | notFound
  | busy
  | exists
  | notDirectory
  | isDirectory
  | nameTooLong
  | linkLoop
  deriving DecidableEq, Repr

namespace SystemError

def code : SystemError → Nat
  | notFound => 2
  | busy => 16
  | «exists» => 17
  | notDirectory => 20
  | isDirectory => 21
  | nameTooLong => 36
  | linkLoop => 40

def description : SystemError → String
  | notFound => "No such file or directory"
  | busy => "Device or resource busy"
  | «exists» => "File exists"
  | notDirectory => "Not a directory"
  | isDirectory => "Is a directory"
  | nameTooLong => "File name too long"
  | linkLoop => "Too many levels of symbolic links"

def message (error : SystemError) : String :=
  error.description ++ " (os error " ++ toString error.code ++ ")"

end SystemError

inductive FileFault where
  | system (error : SystemError)
  | systemAt (error : SystemError) (path : String)
  | nulInPath
  | noParent
  | noDirectory
  | notText
  deriving DecidableEq, Repr

namespace FileFault

def message : FileFault → String
  | system error => error.message
  | systemAt error path => error.message ++ " at path " ++ quoted path.toList
  | nulInPath => "file name contained an unexpected NUL byte"
  | noParent => "Path has no parent directory"
  | noDirectory => "failed to create whole tree"
  | notText => "stream did not contain valid UTF-8"

def isNotFound : FileFault → Bool
  | system .notFound => true
  | _ => false

end FileFault

end Sections
