import Marquee.Catalog
import Marquee.Failure
import Marquee.OnDemand.Payload
import Marquee.Scheduler.World
import Marquee.Scroll.Scroller

namespace Marquee

structure Demo where
  ticker : Scroller Float
  unixAtZero : Nat
  requests : List (Instant × Request) := []
  quitAt : Option Instant := none
  lines : List (Instant × String) := []

namespace Demo

def tickerText : String :=
  "  BREAKING: scheduler demo running  ***  scores go live every minute  ***"

def glyphWidth : Nat := 6

def amber : Rgb := ⟨255, 200, 0⟩

def glyph (c : Char) : List Rgb :=
  if c = ' ' then List.replicate glyphWidth Rgb.black
  else List.replicate (glyphWidth - 1) amber ++ [Rgb.black]

def tickerImage : Bitmap :=
  let top := tickerText.toList.flatMap glyph
  ⟨top.length, 8, (top ++ List.replicate (7 * top.length) Rgb.black).toArray⟩

def new (settings : ScrollSettings) (unixAtZero : Nat) : Noted Demo := do
  let ticker ← Scroller.new settings
  return { ticker := ticker.setImage tickerImage, unixAtZero }

def catalog : Noted Catalog := do
  let c ← Catalog.register {} "clock" ["clock"]
  let c ← c.1.register "ticker" ["ticker"]
  let c ← c.1.register "scores" ["scores_recent", "scores_live"]
  return c.1

def minuteSeconds (now : Instant) : Nat :=
  now / Span.perSecond % 60

def isLive (now : Instant) : Bool :=
  40 ≤ minuteSeconds now

def answers (d : Demo) (now : Instant) : ProviderId → Answers
  | "clock" => { displaySeconds := fun _ => some 8 }
  | "ticker" => {
      capabilities := { highRate := true, dynamicDuration := true }
      dynamicCap := some 30
      cycleSeconds := fun _ => .ok (d.ticker.estimate? 5 60)
      cycleComplete := .ok d.ticker.isCycleComplete }
  | "scores" => {
      capabilities := { livePriority := true }
      livePriority := .ok true
      liveContent := .ok (isLive now)
      liveModes := .ok ["scores_live"] }
  | _ => {}

def twoDigits (n : Nat) : String :=
  (if n < 10 then "0" else "") ++ toString n

def clockLine (unix : Nat) : String :=
  "[clock]   " ++ twoDigits (unix / 3600 % 24) ++ ":" ++ twoDigits (unix / 60 % 60) ++ ":" ++
    twoDigits (unix % 60) ++ " UTC"

def stripText (frame : Bitmap) : String :=
  String.ofList ((List.range ((frame.width + 2) / 3)).map fun i =>
    match frame.pixel? (3 * i) 0 with
    | some pixel => if pixel = Rgb.black then ' ' else '#'
    | none => ' ')

def tickerLine (frame : Bitmap) (position : Float) : String :=
  let pixels := Number.tenthsText position
  "[ticker]  |" ++ stripText frame ++ "| " ++
    String.ofList (List.replicate (7 - pixels.length) ' ') ++ pixels ++ "px"

def put (d : Demo) (now : Instant) (line : String) : Demo :=
  { d with lines := (now, line) :: d.lines }

def drawTicker (d : Demo) (now : Instant) (forceClear : Bool) : Except ProviderError Bool × Demo :=
  let start := if forceClear then d.ticker.reset else d.ticker
  let updated := start.update now
  let d := { d with ticker := updated.2 }
  match updated.1, updated.2.frame with
  | none, _ => (.ok true, d)
  | some _, some (some frame) => (.ok true, d.put now (tickerLine frame updated.2.position))
  | some _, _ => (.ok false, d)

def drawScores (d : Demo) (now : Instant) : ModeId → Except ProviderError Bool × Demo
  | "scores_recent" => (.ok true, d.put now "[scores]  FINAL  HOME 3 - 1 AWAY")
  | "scores_live" =>
    if isLive now then
      (.ok true,
        d.put now ("[scores]  LIVE " ++ twoDigits (minuteSeconds now) ++ "'  HOME 1 - 1 AWAY"))
    else (.ok false, d)
  | mode => (.error (.display ("unknown mode '" ++ mode ++ "'")), d)

def draw (d : Demo) (now : Instant) (screen : Screen) (forceClear : Bool) : DrawReply Demo :=
  let drawn :=
    match screen.provider with
    | "ticker" => d.drawTicker now forceClear
    | "scores" => d.drawScores now screen.mode
    | _ => (.ok true, d.put now (clockLine ((d.unixAtZero + now) / Span.perSecond)))
  ⟨drawn.1, 0, drawn.2⟩

def restartCycle (d : Demo) (provider : ProviderId) : Demo :=
  if provider = "ticker" then { d with ticker := d.ticker.reset } else d

def arrivals (d : Demo) (now : Instant) : List Request × Demo :=
  let due := d.requests.partition fun r => r.1 ≤ now
  (due.1.map Prod.snd, { d with requests := due.2 })

def stopRequested (d : Demo) (now : Instant) : Bool :=
  d.quitAt.any fun t => t ≤ now

def world : World Demo where
  answers
  draw
  restartCycle
  maintenance := none
  arrivals
  stopRequested
  patience := Nat.pow 2 40

def isQuit (line : String) : Bool :=
  line.trimAscii == "quit".toSlice

def hear (d : Demo) (now : Instant) (line : String) : Except Failure Demo :=
  if line.trimAscii.isEmpty then .ok d
  else if isQuit line then .ok { d with quitAt := d.quitAt.or (some now) }
  else
    match Request.ofJson line.trimAscii.toString with
    | .ok r => .ok { d with requests := d.requests ++ [(now, r)] }
    | .error fault => .error (.json fault)

end Demo

end Marquee
