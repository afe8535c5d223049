import Marquee.Counters
import Marquee.Settings.File

/-! The command line: which settings to run with, and for how long. -/

namespace Marquee.CommandLine

structure Options where
  path : Option String := none
  seconds : Option Nat := none

inductive DigitFault
  | empty
  | invalidDigit
  | tooLarge

def DigitFault.message : DigitFault → String
  | empty => "cannot parse integer from empty string"
  | invalidDigit => "invalid digit found in string"
  | tooLarge => "number too large to fit in target type"

inductive UsageFault
  | missingSeconds
  | badSeconds (value : String) (fault : DigitFault)
  | unknownOption (option : String)
  | settings (path : String) (failure : Failure)

namespace UsageFault

def message : UsageFault → String
  | missingSeconds => "--seconds needs a value"
  | badSeconds value _ => "invalid --seconds value '" ++ value ++ "'"
  | unknownOption option => "unknown option '" ++ option ++ "'"
  | settings path _ => "loading configuration from '" ++ path ++ "'"

def causes : UsageFault → List String
  | badSeconds _ fault => [fault.message]
  | settings _ failure => failure.causes
  | _ => []

def hanging (margin text : String) : String :=
  String.ofList (text.toList.flatMap fun c => if c = '\n' then '\n' :: margin.toList else [c])

def causesText : List String → String
  | [] => ""
  | [cause] => "\n\nCaused by:\n    " ++ hanging "    " cause
  | causes =>
    "\n\nCaused by:" ++ String.join (causes.zipIdx.map fun c =>
      "\n    " ++ toString c.2 ++ ": " ++ hanging "       " c.1)

def report (fault : UsageFault) : String :=
  "Error: " ++ fault.message ++ causesText fault.causes ++ "\n"

end UsageFault

def usage : String :=
  "Usage: display-scheduler [config.json] [--seconds N]\n"

def digitsFrom : Nat → List Char → Except DigitFault Nat
  | n, [] => .ok n
  | n, c :: rest =>
    if '0' ≤ c ∧ c ≤ '9' then
      let n := n * 10 + (c.toNat - '0'.toNat)
      if n < Nat.pow 2 64 then digitsFrom n rest else .error .tooLarge
    else .error .invalidDigit

def secondsOf (value : String) : Except DigitFault Nat :=
  match value.toList with
  | [] => .error .empty
  | ['+'] => .error .invalidDigit
  | '+' :: rest => digitsFrom 0 rest
  | cs => digitsFrom 0 cs

def parseFrom (o : Options) : List String → Except UsageFault (Option Options)
  | [] => .ok (some o)
  | "--seconds" :: rest | "-s" :: rest =>
    match rest with
    | [] => .error .missingSeconds
    | value :: rest =>
      match secondsOf value with
      | .ok seconds => parseFrom { o with seconds := some seconds } rest
      | .error fault => .error (.badSeconds value fault)
  | arg :: rest =>
    if arg = "--help" ∨ arg = "-h" then .ok none
    else if arg.startsWith "-" then .error (.unknownOption arg)
    else parseFrom { o with path := some arg } rest

def parse (args : List String) : Except UsageFault (Option Options) :=
  parseFrom {} args

def settingsFor (o : Options) (read : String → Except FileFault ByteArray) :
    Except UsageFault Settings :=
  match o.path with
  | none => .ok {}
  | some path =>
    match Settings.ofFile path (read path) with
    | .ok settings => .ok settings
    | .error failure => .error (.settings path failure)

/-- What is printed when the clock cannot count up to the end of a run: the thread and the place in the
sources, which lie under `home`, where it was found out. -/
def overflowReport (home : String) (thread : Nat) : String :=
  "\nthread 'main' (" ++ toString thread ++ ") panicked at " ++ home ++
    "src/scheduler/mod.rs:446:30:\noverflow when adding duration to instant\n" ++
    "note: run with `RUST_BACKTRACE=1` environment variable to display a backtrace\n"

def summary (c : Counters) : String :=
  "\nticks " ++ toString c.ticks ++ "  activations " ++ toString c.activations ++
    "  advances " ++ toString c.rotationAdvances ++ "  preemptions " ++ toString c.preemptions ++
    "  failures " ++ toString c.displayFailures ++ "\n"

end Marquee.CommandLine
