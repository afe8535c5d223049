import Marquee.OnDemand.Board
import Marquee.OnDemand.Payload
import Marquee.Proofs.Json.Numbers

/-! Payloads of on-demand sessions are the same again after they have been written and read. -/

namespace Marquee

open Json

lemma Action.ofText_ne (text : String) :
    ofText text ≠ unknown "start" ∧ ofText text ≠ unknown "stop" := by
  unfold ofText
  split_ifs with start stop
  · exact ⟨nofun, nofun⟩
  · exact ⟨nofun, nofun⟩
  · exact ⟨fun same => start (unknown.inj same), fun same => stop (unknown.inj same)⟩

namespace Request

/-- What a text can carry: a known action goes by its own name, and no number is infinite. -/
structure Portable (r : Request) : Prop where
  action : r.action ≠ .unknown "start" ∧ r.action ≠ .unknown "stop"
  duration : ∀ x, r.duration = some x → x.isFinite

def numbers (r : Request) : List Float :=
  r.duration.toList

end Request

structure RequestDraft.Portable (d : RequestDraft) : Prop where
  action : ∀ a, d.action = some a → a ≠ .unknown "start" ∧ a ≠ .unknown "stop"
  duration : ∀ x, d.duration = some (some x) → x.isFinite

namespace Request

lemma keeps_portable : shape.Keeps RequestDraft.Portable := by
  intro f hf d hd
  simp only [shape, fields, List.mem_cons, List.not_mem_nil, or_false] at hf
  obtain rfl | rfl | rfl | rfl | rfl | rfl := hf
  · exact Yields.after fun _ => Yields.pure ⟨hd.action, hd.duration⟩
  · refine Yields.after fun text => Yields.pure ⟨fun a ha => ?_, hd.duration⟩
    exact Option.some.inj ha ▸ Action.ofText_ne text
  · exact Yields.after fun _ => Yields.pure ⟨hd.action, hd.duration⟩
  · exact Yields.after fun _ => Yields.pure ⟨hd.action, hd.duration⟩
  · refine float_yields.optional.bind fun o finite => Yields.pure ⟨hd.action, fun x hx => ?_⟩
    exact finite x (Option.some.inj hx)
  · exact Yields.after fun _ => Yields.pure ⟨hd.action, hd.duration⟩

lemma portable_finish (d : RequestDraft) (r : Request) (hd : d.Portable) (h : finish d = .ok r) :
    r.Portable := by
  unfold finish at h
  split at h
  · cases h
  · cases h
  next id action _ named =>
    cases h
    refine ⟨hd.action _ named, fun x hx => hd.duration x ?_⟩
    cases timed : d.duration with
    | none =>
      rw [timed] at hx
      cases hx
    | some o =>
      rw [timed] at hx
      exact congrArg some hx

lemma portable_ofJson {text : String} {r : Request} (h : ofJson text = .ok r) : r.Portable :=
  (RecordShape.read_yields keeps_portable ⟨nofun, nofun⟩ portable_finish).all h

def draft (r : Request) : RequestDraft where
  id := some r.id
  action := some r.action
  provider := r.provider.map some
  mode := r.mode.map some
  duration := r.duration.map some
  pinned := some r.pinned

lemma finish_draft (r : Request) : finish r.draft = .ok r := by
  have filled {α : Type} (o : Option α) : (o.map some).getD none = o := by
    cases o <;> rfl
  simp [finish, draft, filled]

lemma fills_members (r : Request) (known : Action.ofText r.action.text = r.action)
    (number : ∀ x, r.duration = some x → ReadsBack x) : Fills shape.entry {} r.members r.draft := by
  have id : Fills shape.entry {} [("request_id", printedString r.id)] { id := some r.id } :=
    .single (RecordShape.entry_reads rfl rfl ((reads_string r.id).map _))
  have action : Fills shape.entry { id := some r.id } [("action", printedString r.action.text)]
      { id := some r.id, action := some r.action } := by
    have read := (reads_string r.action.text).map fun text =>
      ({ id := some r.id, action := some (Action.ofText text) } : RequestDraft)
    rw [known] at read
    exact .single (RecordShape.entry_reads rfl rfl read)
  have provider : Fills shape.entry { id := some r.id, action := some r.action }
      (r.provider.map fun p => ("provider_id", printedString p)).toList
      { id := some r.id, action := some r.action, provider := r.provider.map some } := by
    refine .option r.provider (fun left => by rw [left]; rfl) fun p named => ?_
    rw [named]
    exact RecordShape.entry_reads rfl rfl ((reads_optional_string (some p)).map _)
  have mode : Fills shape.entry
      { id := some r.id, action := some r.action, provider := r.provider.map some }
      (r.mode.map fun m => ("mode", printedString m)).toList
      { r.draft with duration := none, pinned := none } := by
    refine .option r.mode (fun left => by rw [draft, left]; rfl) fun m named => ?_
    rw [draft, named]
    exact RecordShape.entry_reads rfl rfl ((reads_optional_string (some m)).map _)
  have duration : Fills shape.entry { r.draft with duration := none, pinned := none }
      (r.duration.map fun x => ("duration", printedFloat x)).toList
      { r.draft with pinned := none } := by
    refine .option r.duration (fun left => by rw [draft, left]; rfl) fun x timed => ?_
    rw [draft, timed]
    exact RecordShape.entry_reads rfl rfl ((number x timed).reads_optional.map _)
  have pinned : Fills shape.entry { r.draft with pinned := none } [("pinned", printedBool r.pinned)]
      r.draft :=
    .single (RecordShape.entry_reads rfl rfl ((reads_boolean r.pinned).map _))
  exact ((((id.append action).append provider).append mode).append duration).append pinned

lemma ofJson_toJson {r : Request} (h : r.Portable) (faithful : Faithful r.numbers) :
    ofJson r.toJson = .ok r := by
  have known := Action.ofText_text h.action.1 h.action.2
  have number (x : Float) (timed : r.duration = some x) : ReadsBack x :=
    faithful x (by simp [numbers, timed]) (h.duration x timed)
  exact RecordShape.all_printedObject (fills_members r known number) (finish_draft r)

lemma postJson_eq_ok_iff {c c' : Channel} {text : String} :
    c.postJson text = .ok c' ↔ ∃ r, ofJson text = .ok r ∧ c' = c.post r := by
  unfold Channel.postJson
  cases ofJson text with
  | error fault => simp [Except.map]
  | ok r => simp [Except.map, eq_comm]

end Request

namespace Snapshot

def numbers (s : Snapshot) : List Float :=
  [s.requestedAt, s.expiresAt, s.duration, s.remaining].flatMap Option.toList

def vacant (s : Snapshot) : List String :=
  ([("mode", s.mode.isNone), ("provider_id", s.provider.isNone),
    ("requested_at", s.requestedAt.isNone), ("expires_at", s.expiresAt.isNone),
    ("duration", s.duration.isNone), ("error", s.error.isNone),
    ("last_event", s.lastEvent.isNone), ("remaining", s.remaining.isNone)].filter Prod.snd).map Prod.fst

def draft (s : Snapshot) : SnapshotDraft where
  active := some s.active
  mode := some s.mode
  provider := some s.provider
  requestedAt := some s.requestedAt
  expiresAt := some s.expiresAt
  duration := some s.duration
  pinned := some s.pinned
  status := some s.status
  error := some s.error
  lastEvent := some s.lastEvent
  remaining := some s.remaining

lemma lookup_status (status : SessionStatus) : statuses.lookup status.text = some status := by
  cases status <;> rfl

section

variable {s : Snapshot} (number : ∀ x ∈ s.numbers, ReadsBack x)

include number

lemma number_field {o : Option Float}
    (field : o ∈ [s.requestedAt, s.expiresAt, s.duration, s.remaining]) (x : Float) (hx : o = some x) :
    ReadsBack x :=
  number x (List.mem_flatMap.mpr ⟨o, field, by simp [hx]⟩)

lemma fills_members : Fills shape.entry {} s.members s.draft := by
  have float (o : Option Float) (field : o ∈ [s.requestedAt, s.expiresAt, s.duration, s.remaining]) :=
    reads_optional_float o (number_field number field)
  refine .cons (RecordShape.entry_reads rfl rfl ((reads_boolean s.active).map _)) ?_
  refine .cons (RecordShape.entry_reads rfl rfl ((reads_optional_string s.mode).map _)) ?_
  refine .cons (RecordShape.entry_reads rfl rfl ((reads_optional_string s.provider).map _)) ?_
  refine .cons (RecordShape.entry_reads rfl rfl ((float s.requestedAt (by simp)).map _)) ?_
  refine .cons (RecordShape.entry_reads rfl rfl ((float s.expiresAt (by simp)).map _)) ?_
  refine .cons (RecordShape.entry_reads rfl rfl ((float s.duration (by simp)).map _)) ?_
  refine .cons (RecordShape.entry_reads rfl rfl ((reads_boolean s.pinned).map _)) ?_
  refine .cons (RecordShape.entry_reads rfl rfl ((reads_variant (lookup_status s.status)).map _)) ?_
  refine .cons (RecordShape.entry_reads rfl rfl ((reads_optional_string s.error).map _)) ?_
  refine .cons (RecordShape.entry_reads rfl rfl ((reads_optional_string s.lastEvent).map _)) ?_
  exact .single (RecordShape.entry_reads rfl rfl ((float s.remaining (by simp)).map _))

lemma ofJson_toJson : ofJson s.toJson = .ok s :=
  RecordShape.all_printedObject (fills_members number) rfl

lemma null_mem_iff (name : String) : (name, "null".toList) ∈ s.members ↔ name ∈ s.vacant := by
  have bool (b : Bool) : "null".toList ≠ printedBool b := by
    cases b <;> exact nofun
  have status : "null".toList ≠ printedString s.status.text := (printedString_ne_null _).symm
  have text (o : Option String) : "null".toList = printedOption printedString o ↔ o = none :=
    eq_comm.trans (printedOption_eq_null_iff fun x _ => printedString_ne_null x)
  have float (o : Option Float) (field : o ∈ [s.requestedAt, s.expiresAt, s.duration, s.remaining]) :
      "null".toList = printedOption printedFloat o ↔ o = none :=
    eq_comm.trans (printedOption_eq_null_iff fun x hx => (number_field number field x hx).ne_null)
  -- all that matters of this text is which parts are written as it
  generalize "null".toList = null at *
  simp [members, vacant, bool, status, text, float]

end

end Snapshot

theorem Board.latestJson_reads_back (b : Board) {s : Snapshot} (number : ∀ x ∈ s.numbers, ReadsBack x) :
    (b.publish s).latestJson.map Snapshot.ofJson = some (.ok s) :=
  congrArg some (Snapshot.ofJson_toJson number)

/-- Requests and snapshots come back from their texts unchanged, as long as the digits written for
their doubles do. A request that was read from a text can always be sent on: posting it again by its
own text leaves the channel as the first text did. -/
theorem payloads_survive_text :
    (∀ r : Request, Faithful r.numbers → (Request.ofJson r.toJson = .ok r ↔ r.Portable)) ∧
    (∀ text r, Request.ofJson text = .ok r → r.Portable) ∧
    (∀ (c c' : Channel) text, c.postJson text = .ok c' →
      ∃ r, Request.ofJson text = .ok r ∧ c' = c.post r ∧
        (Faithful r.numbers → c.postJson r.toJson = .ok c')) ∧
    ∀ s : Snapshot, (∀ x ∈ s.numbers, x.isFinite) → Faithful s.numbers →
      Snapshot.ofJson s.toJson = .ok s ∧
        ∀ name, (name, "null".toList) ∈ s.members ↔ name ∈ s.vacant := by
  refine ⟨fun r faithful => ?_, fun text r => Request.portable_ofJson, fun c c' text posted => ?_,
    fun s finite faithful => ?_⟩
  · exact ⟨Request.portable_ofJson, fun portable => Request.ofJson_toJson portable faithful⟩
  · obtain ⟨r, read, rfl⟩ := Request.postJson_eq_ok_iff.mp posted
    refine ⟨r, read, rfl, fun faithful => Request.postJson_eq_ok_iff.mpr ⟨r, ?_, rfl⟩⟩
    exact Request.ofJson_toJson (Request.portable_ofJson read) faithful
  · have number (x : Float) (hx : x ∈ s.numbers) : ReadsBack x := faithful x hx (finite x hx)
    exact ⟨Snapshot.ofJson_toJson number, Snapshot.null_mem_iff number⟩

lemma readsBack_two_and_a_half : ReadsBack 2.5 := by
  have digits : printedFloat 2.5 = ['2', '.', '5'] := by decide +kernel
  have value : Numeral.scaled? 25 (-1) = some 2.5 := by
    unfold Numeral.scaled?
    dsimp only
    rw [if_pos (by decide), Numeral.scaledDown, if_pos (by decide)]
    rfl
  have parts : Numeral.ofParts false 25 (-1) = pure (.floating 2.5) := by
    unfold Numeral.ofParts
    rw [value]
    rfl
  rw [ReadsBack, digits]
  change (Numeral.ofParts false 25 (-1) >>= fun n => pure n.toFloat : Reader Float) [] = _
  rw [parts]
  rfl

def oddRequest : Request where
  id := "say \"hi\" \\ \n\x01"
  action := .unknown "préparer"
  mode := some "weather\tnow"
  duration := some 2.5
  pinned := true

def oddSnapshot : Snapshot where
  active := true
  mode := some "weather\tnow"
  provider := none
  requestedAt := some 2.5
  expiresAt := none
  duration := some 2.5
  pinned := false
  status := .error
  error := some "no \"screen\" für \\"
  lastEvent := none
  remaining := some 2.5

theorem odd_payloads_survive_text :
    Request.ofJson oddRequest.toJson = .ok oddRequest ∧
      Snapshot.ofJson oddSnapshot.toJson = .ok oddSnapshot := by
  have same (x : Float) (hx : x ∈ oddRequest.numbers ∨ x ∈ oddSnapshot.numbers) : x = 2.5 := by
    simpa [Request.numbers, oddRequest, Snapshot.numbers, oddSnapshot] using hx
  have finite : (2.5 : Float).isFinite := rfl
  obtain ⟨requests, -, -, snapshots⟩ := payloads_survive_text
  constructor
  · refine (requests oddRequest fun x hx _ => ?_).mpr ⟨⟨by decide, by decide⟩, fun x hx => ?_⟩
    · exact same x (.inl hx) ▸ readsBack_two_and_a_half
    · exact Option.some.inj hx ▸ finite
  · refine (snapshots oddSnapshot (fun x hx => ?_) fun x hx _ => ?_).1
    · exact same x (.inr hx) ▸ finite
    · exact same x (.inr hx) ▸ readsBack_two_and_a_half

end Marquee
