import Marquee.Failure
import Marquee.Settings.Reader

namespace Marquee.Settings

def textOf (content : Except FileFault ByteArray) : Except FileFault String := do
  match String.fromUTF8? (← content) with
  | some text => .ok text
  | none => .error .notText

def ofFile (path : String) (content : Except FileFault ByteArray) : Except Failure Settings :=
  match textOf content with
  | .error fault =>
    .error (.configuration ("Failed to read '" ++ path ++ "': " ++ fault.message))
  | .ok text =>
    match ofJson text with
    | .error fault => .error (.json fault)
    | .ok settings => .ok settings

end Marquee.Settings
