import Marquee.CommandLine
import Marquee.Demo
import Marquee.Scheduler.Run
import Std.Time.DateTime.Timestamp

/-!
The program: it runs the demonstration in a terminal. Ticks are computed ahead and their lines
printed when their time comes. A line typed in the meantime has the tick computed once more, now with
that line in it; what was printed already comes out the same.
-/

namespace Marquee

structure Terminal where
  began : Nat
  typed : IO.Ref (Array String)

namespace Terminal

def now (t : Terminal) : IO Instant :=
  return (← IO.monoNanosNow) - t.began

partial def listen (t : Terminal) (input : IO.FS.Stream) : IO Unit := do
  let line ← input.getLine
  unless line.isEmpty do
    t.typed.modify fun lines => lines.push line
    unless Demo.isQuit line do
      t.listen input

partial def reaches (t : Terminal) (moment : Instant) : IO Bool := do
  if !(← t.typed.get).isEmpty then
    return false
  let now ← t.now
  if moment ≤ now then
    return true
  IO.sleep (min 20 ((moment - now) / 1000000 + 1)).toUInt32
  t.reaches moment

def print (t : Terminal) (lines : List (Instant × String)) (last : Instant) :
    IO (Nat × Bool) := do
  let output ← IO.getStdout
  let mut printed := 0
  for line in lines do
    unless ← t.reaches line.1 do
      return (printed, false)
    output.putStr ("\r\x1b[2K" ++ line.2)
    output.flush
    printed := printed + 1
  return (printed, ← t.reaches last)

def hear (t : Terminal) (demo : Demo) : IO Demo := do
  let now ← t.now
  let mut demo := demo
  for line in ← t.typed.swap #[] do
    match demo.hear now line with
    | .ok heard => demo := heard
    | .error failure => IO.eprintln ("\nIgnoring command: " ++ failure.message)
  return demo

partial def play (t : Terminal) (s : Scheduler Breaker Demo) (printed : Nat) : IO Counters := do
  let s := { s with outside := ← t.hear s.outside }
  if s.shouldStop Demo.world then
    return s.counters
  let next := (s.tick Demo.world).2
  let shown ← t.print (next.outside.lines.reverse.drop printed) next.clock
  if shown.2 then
    t.play { next with outside := { next.outside with lines := [] }, journal := [] } 0
  else
    t.play s (printed + shown.1)

def scheduler (t : Terminal) (settings : Settings) : IO (Scheduler Breaker Demo) := do
  let unix := (← Std.Time.Timestamp.now).toNanosecondsSinceUnixEpoch.val.toNat
  let demo := (Demo.new settings.scroll unix).value
  let s := (Scheduler.new Demo.catalog.value settings (fun s => Breaker.new s.health) demo).value
  return { s with
    wallAtZero := Span.seconds unix
    channel := some {}
    board := some {}
    clock := ← t.now }

def readFile (path : String) : IO (Except FileFault ByteArray) := do
  if path.contains '\x00' then
    return .error .nulInName
  try
    return .ok (← IO.FS.readBinFile path)
  catch
    | .noFileOrDirectory _ _ _ => return .error .notFound
    | .inappropriateType _ number reason | .permissionDenied _ number reason
    | .invalidArgument _ number reason | .resourceExhausted _ number reason
    | .otherError number reason =>
      return .error (.system reason number.toNat)
    | fault => return .error (.system (toString fault) 0)

def run (options : CommandLine.Options) (settings : Settings) : IO UInt32 := do
  let t : Terminal := { began := ← IO.monoNanosNow, typed := ← IO.mkRef #[] }
  let s ← t.scheduler settings
  let deadline := options.seconds.map fun n => Instant.add? s.clock (n * Span.perSecond)
  if deadline = some none then
    IO.eprint (CommandLine.overflowReport "" (← IO.getTID).toNat)
    return 101
  let s := { s with deadline := deadline.join }
  unless s.shouldStop Demo.world do
    discard <| IO.asTask (t.listen (← IO.getStdin)) Task.Priority.dedicated
  let counters ← t.play s 0
  IO.print (CommandLine.summary counters)
  return 0

end Terminal

end Marquee

open Marquee in
def main (args : List String) : IO UInt32 := do
  match CommandLine.parse args with
  | .ok none =>
    IO.print CommandLine.usage
    return 0
  | .error fault =>
    IO.eprint fault.report
    return 1
  | .ok (some options) =>
    let content ← match options.path with
      | some path => Terminal.readFile path
      | none => pure (.error .notFound)
    match CommandLine.settingsFor options (fun _ => content) with
    | .error fault =>
      IO.eprint fault.report
      return 1
    | .ok settings => Terminal.run options settings
