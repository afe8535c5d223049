import Marquee.Json.Printer
import Marquee.Json.Shape
import Marquee.OnDemand.Request
import Marquee.OnDemand.Session

namespace Marquee

open Json

structure RequestDraft where
  id : Option String := none
  action : Option Action := none
  provider : Option (Option ProviderId) := none
  mode : Option (Option ModeId) := none
  duration : Option (Option Float) := none
  pinned : Option Bool := none

namespace Request

def fields : List (RecordField RequestDraft) := [
  { name := "request_id"
    given := fun d => d.id.isSome
    read := fun d => return { d with id := some (← string) } },
  { name := "action"
    given := fun d => d.action.isSome
    read := fun d => return { d with action := some (Action.ofText (← string)) } },
  { name := "provider_id"
    given := fun d => d.provider.isSome
    read := fun d => return { d with provider := some (← optional string) } },
  { name := "mode"
    given := fun d => d.mode.isSome
    read := fun d => return { d with mode := some (← optional string) } },
  { name := "duration"
    given := fun d => d.duration.isSome
    read := fun d => return { d with duration := some (← optional float) } },
  { name := "pinned"
    given := fun d => d.pinned.isSome
    read := fun d => return { d with pinned := some (← boolean) } }]

def finish (d : RequestDraft) : Except ShapeFault Request :=
  match d.id, d.action with
  | none, _ => .error (.missingField "request_id")
  | _, none => .error (.missingField "action")
  | some id, some action =>
    .ok {
      id
      action
      provider := d.provider.getD none
      mode := d.mode.getD none
      duration := d.duration.getD none
      pinned := d.pinned.getD false }

def shape : RecordShape RequestDraft Request where
  name := "OnDemandRequest"
  fields := fields
  empty := {}
  required := 2
  finish := finish

def ofJson (text : String) : Except Fault Request :=
  shape.read.all text

def members (r : Request) : List Member :=
  [("request_id", printedString r.id), ("action", printedString r.action.text)] ++
    (r.provider.map fun p => ("provider_id", printedString p)).toList ++
    (r.mode.map fun m => ("mode", printedString m)).toList ++
    (r.duration.map fun d => ("duration", printedFloat d)).toList ++
    [("pinned", printedBool r.pinned)]

def toJson (r : Request) : String :=
  String.ofList (printedObject r.members)

end Request

def Channel.postJson (c : Channel) (text : String) : Except Fault Channel :=
  (Request.ofJson text).map c.post

structure SnapshotDraft where
  active : Option Bool := none
  mode : Option (Option ModeId) := none
  provider : Option (Option ProviderId) := none
  requestedAt : Option (Option Float) := none
  expiresAt : Option (Option Float) := none
  duration : Option (Option Float) := none
  pinned : Option Bool := none
  status : Option SessionStatus := none
  error : Option (Option String) := none
  lastEvent : Option (Option String) := none
  remaining : Option (Option Float) := none

namespace Snapshot

def statuses : List (String × SessionStatus) :=
  [("idle", .idle), ("active", .active), ("error", .error)]

def fields : List (RecordField SnapshotDraft) := [
  { name := "active"
    given := fun d => d.active.isSome
    read := fun d => return { d with active := some (← boolean) } },
  { name := "mode"
    given := fun d => d.mode.isSome
    read := fun d => return { d with mode := some (← optional string) } },
  { name := "provider_id"
    given := fun d => d.provider.isSome
    read := fun d => return { d with provider := some (← optional string) } },
  { name := "requested_at"
    given := fun d => d.requestedAt.isSome
    read := fun d => return { d with requestedAt := some (← optional float) } },
  { name := "expires_at"
    given := fun d => d.expiresAt.isSome
    read := fun d => return { d with expiresAt := some (← optional float) } },
  { name := "duration"
    given := fun d => d.duration.isSome
    read := fun d => return { d with duration := some (← optional float) } },
  { name := "pinned"
    given := fun d => d.pinned.isSome
    read := fun d => return { d with pinned := some (← boolean) } },
  { name := "status"
    given := fun d => d.status.isSome
    read := fun d => return { d with status := some (← variant statuses) } },
  { name := "error"
    given := fun d => d.error.isSome
    read := fun d => return { d with error := some (← optional string) } },
  { name := "last_event"
    given := fun d => d.lastEvent.isSome
    read := fun d => return { d with lastEvent := some (← optional string) } },
  { name := "remaining"
    given := fun d => d.remaining.isSome
    read := fun d => return { d with remaining := some (← optional float) } }]

def finish (d : SnapshotDraft) : Except ShapeFault Snapshot :=
  match d.active, d.pinned, d.status with
  | none, _, _ => .error (.missingField "active")
  | _, none, _ => .error (.missingField "pinned")
  | _, _, none => .error (.missingField "status")
  | some active, some pinned, some status =>
    .ok {
      active
      mode := d.mode.getD none
      provider := d.provider.getD none
      requestedAt := d.requestedAt.getD none
      expiresAt := d.expiresAt.getD none
      duration := d.duration.getD none
      pinned
      status
      error := d.error.getD none
      lastEvent := d.lastEvent.getD none
      remaining := d.remaining.getD none }

def shape : RecordShape SnapshotDraft Snapshot where
  name := "OnDemandState"
  fields := fields
  empty := {}
  required := 11
  finish := finish

def ofJson (text : String) : Except Fault Snapshot :=
  shape.read.all text

def members (s : Snapshot) : List Member := [
  ("active", printedBool s.active),
  ("mode", printedOption printedString s.mode),
  ("provider_id", printedOption printedString s.provider),
  ("requested_at", printedOption printedFloat s.requestedAt),
  ("expires_at", printedOption printedFloat s.expiresAt),
  ("duration", printedOption printedFloat s.duration),
  ("pinned", printedBool s.pinned),
  ("status", printedString s.status.text),
  ("error", printedOption printedString s.error),
  ("last_event", printedOption printedString s.lastEvent),
  ("remaining", printedOption printedFloat s.remaining)]

def toJson (s : Snapshot) : String :=
  String.ofList (printedObject s.members)

end Snapshot

end Marquee
