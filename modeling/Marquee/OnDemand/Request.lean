import Marquee.Screen

namespace Marquee

inductive Action
  | start
  | stop
  | unknown (text : String)
  deriving DecidableEq, Repr

namespace Action

def ofText (text : String) : Action :=
  if text = "start" then start else if text = "stop" then stop else unknown text

def text : Action → String
  | start => "start"
  | stop => "stop"
  | unknown text => text

theorem ofText_text {a : Action} (h : a ≠ unknown "start") (h' : a ≠ unknown "stop") :
    ofText a.text = a := by
  cases a with
  | start => rfl
  | stop => rfl
  | unknown t => simp_all [ofText, text]

end Action

structure Request where
  id : String
  action : Action
  provider : Option ProviderId := none
  mode : Option ModeId := none
  duration : Option Float := none
  pinned : Bool := false
  deriving DecidableEq

namespace Request

def startMode (id : String) (mode : ModeId) : Request where
  id
  action := .start
  mode := some mode

def startProvider (id : String) (provider : ProviderId) : Request where
  id
  action := .start
  provider := some provider

def stop (id : String) : Request where
  id
  action := .stop

end Request

structure Channel where
  slot : Option Request := none
  lastId : Option String := none

namespace Channel

def post (c : Channel) (r : Request) : Channel :=
  { c with slot := some r }

def postAll (c : Channel) (rs : List Request) : Channel :=
  rs.foldl post c

def poll (c : Channel) : Option Request × Channel :=
  match c.slot with
  | none => (none, c)
  | some r =>
    if c.lastId = some r.id then (none, { c with slot := none })
    else (some r, { slot := none, lastId := some r.id })

end Channel

end Marquee
