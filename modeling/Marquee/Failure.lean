import Marquee.Json.Fault

namespace Marquee

inductive FileFault
  | notFound
  | notDirectory
  | isDirectory
  | nameTooLong
  | nulInName
  | notText
  | system (reason : String) (number : Nat)

def FileFault.message : FileFault → String
  | notFound => "No such file or directory (os error 2)"
  | notDirectory => "Not a directory (os error 20)"
  | isDirectory => "Is a directory (os error 21)"
  | nameTooLong => "File name too long (os error 36)"
  | nulInName => "file name contained an unexpected NUL byte"
  | system reason number => reason ++ " (os error " ++ toString number ++ ")"
  | notText => "stream did not contain valid UTF-8"

inductive Failure
  | configuration (reason : String)
  | io (reason : String)
  | json (fault : Json.Fault)
  | other (text : String)

namespace Failure

def message : Failure → String
  | configuration reason => "Invalid configuration: " ++ reason
  | io reason => "IO error: " ++ reason
  | json fault => "JSON error: " ++ fault.message
  | other text => text

def causes (f : Failure) : List String :=
  match f with
  | json fault => [f.message, fault.message]
  | _ => [f.message]

end Failure

end Marquee
