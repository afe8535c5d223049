import Mathlib.Data.List.Chain
import Marquee.OnDemand.Payload

/-! Which requests get through a channel, in whatever order it is posted to and polled: the last one
posted before a poll, unless it repeats the id of the one handed out before. -/

namespace Marquee

inductive ChannelCall
  | post (r : Request)
  | postJson (text : String)
  | poll

namespace ChannelCall

def posted? : ChannelCall → Option Request
  | .post r => some r
  | .postJson text => (Request.ofJson text).toOption
  | .poll => none

def isPoll : ChannelCall → Bool
  | .poll => true
  | _ => false

lemma cases_posted (call : ChannelCall) :
    (∃ r, call.posted? = some r) ∨
      (∃ text fault, call = .postJson text ∧ Request.ofJson text = .error fault) ∨ call = .poll := by
  cases call with
  | post r => exact .inl ⟨r, rfl⟩
  | postJson text =>
    cases hread : Request.ofJson text with
    | ok r => exact .inl ⟨r, by simp [posted?, hread, Except.toOption]⟩
    | error fault => exact .inr (.inl ⟨text, fault, rfl, hread⟩)
  | poll => exact .inr (.inr rfl)

lemma isPoll_of_posted? {call : ChannelCall} {r : Request} (h : call.posted? = some r) :
    call.isPoll = false := by
  cases call with
  | poll => cases h
  | _ => rfl

end ChannelCall

namespace Channel

def answer (c : Channel) : ChannelCall → Option Request × Channel
  | .post r => (none, c.post r)
  | .postJson text => (none, (c.postJson text).toOption.getD c)
  | .poll => c.poll

def after : List ChannelCall → Channel
  | [] => {}
  | call :: earlier => ((after earlier).answer call).2

def delivered : List ChannelCall → List Request
  | [] => []
  | call :: earlier => ((after earlier).answer call).1.toList ++ delivered earlier

def posted (calls : List ChannelCall) : List Request :=
  calls.filterMap ChannelCall.posted?

def sincePoll (calls : List ChannelCall) : List ChannelCall :=
  calls.takeWhile fun call => !call.isPoll

variable {c : Channel} {r : Request} {call : ChannelCall} {text : String} {fault : Json.Fault}

lemma answer_posted (h : call.posted? = some r) : c.answer call = (none, c.post r) := by
  cases call with
  | post r' =>
    obtain rfl : r' = r := Option.some.inj h
    rfl
  | postJson text =>
    cases hread : Request.ofJson text with
    | error fault => simp [ChannelCall.posted?, hread, Except.toOption] at h
    | ok r' =>
      obtain rfl : r' = r := by simpa [ChannelCall.posted?, hread, Except.toOption] using h
      simp [answer, postJson, hread, Except.map, Except.toOption]
  | poll => cases h

lemma answer_rejected (h : Request.ofJson text = .error fault) :
    c.answer (.postJson text) = (none, c) := by
  simp [answer, postJson, h, Except.map, Except.toOption]

lemma posted_rejected (h : Request.ofJson text = .error fault) (calls : List ChannelCall) :
    posted (.postJson text :: calls) = posted calls := by
  simp [posted, ChannelCall.posted?, h, Except.toOption]

lemma poll_cases (c : Channel) :
    (c.poll = (none, { c with slot := none }) ∧ ∀ r, c.slot = some r → c.lastId = some r.id) ∨
      ∃ r, c.slot = some r ∧ c.lastId ≠ some r.id ∧ c.poll = (some r, ⟨none, some r.id⟩) := by
  obtain ⟨slot, lastId⟩ := c
  cases slot with
  | none => exact .inl ⟨rfl, by simp⟩
  | some r =>
    by_cases h : lastId = some r.id
    · exact .inl ⟨if_pos h, by simpa using h⟩
    · exact .inr ⟨r, rfl, h, if_neg h⟩

lemma after_eq (calls : List ChannelCall) :
    after calls = ⟨(posted (sincePoll calls)).head?, (delivered calls).head?.map Request.id⟩ := by
  induction calls with
  | nil => rfl
  | cons call calls ih =>
    rcases call.cases_posted with ⟨r, hr⟩ | ⟨text, fault, rfl, hread⟩ | rfl
    · rw [after, delivered, answer_posted hr, ih]
      simp [post, sincePoll, posted, ChannelCall.isPoll_of_posted? hr, hr]
    · rw [after, delivered, answer_rejected hread, ih]
      simp [sincePoll, ChannelCall.isPoll, posted_rejected hread]
    · rcases poll_cases (after calls) with ⟨hpoll, -⟩ | ⟨r, -, -, hpoll⟩
      · rw [after, delivered, answer, hpoll, ih]
        simp [sincePoll, posted, ChannelCall.isPoll]
      · rw [after, delivered, answer, hpoll]
        simp [sincePoll, posted, ChannelCall.isPoll]

lemma poll_eq_some_iff (c : Channel) (r : Request) :
    c.poll.1 = some r ↔ c.slot = some r ∧ c.lastId ≠ some r.id := by
  rcases poll_cases c with ⟨hpoll, repeated⟩ | ⟨r', hslot, fresh, hpoll⟩
  · rw [hpoll]
    exact iff_of_false (nomatch ·) fun h => h.2 (repeated r h.1)
  · rw [hpoll, hslot]
    constructor
    · intro h
      obtain rfl : r' = r := Option.some.inj h
      exact ⟨rfl, fresh⟩
    · exact And.left

-- What is handed out from some moment on was posted since or waited then, and what waits comes after it.
lemma delivered_append (later earlier : List ChannelCall) :
    ∃ new, delivered (later ++ earlier) = new ++ delivered earlier ∧
      ((after (later ++ earlier)).slot.toList ++ new).Sublist
        (posted later ++ (after earlier).slot.toList) := by
  induction later with
  | nil => exact ⟨[], rfl, by simp [posted]⟩
  | cons call later ih =>
    obtain ⟨new, hnew, sub⟩ := ih
    rw [List.cons_append, after, delivered]
    rcases call.cases_posted with ⟨r, hr⟩ | ⟨text, fault, rfl, hread⟩ | rfl
    · refine ⟨new, by rw [answer_posted hr, hnew]; rfl, ?_⟩
      have rest := (List.sublist_append_right _ new).trans sub
      rw [answer_posted hr, posted, List.filterMap_cons_some hr]
      exact rest.cons_cons r
    · refine ⟨new, by rw [answer_rejected hread, hnew]; rfl, ?_⟩
      rwa [answer_rejected hread, posted_rejected hread]
    · rw [answer]
      rcases poll_cases (after (later ++ earlier)) with ⟨hpoll, -⟩ | ⟨r, hslot, -, hpoll⟩
      · refine ⟨new, by rw [hpoll, hnew]; rfl, ?_⟩
        rw [hpoll]
        exact (List.sublist_append_right _ new).trans sub
      · refine ⟨r :: new, by rw [hpoll, hnew]; rfl, ?_⟩
        rw [hslot] at sub
        rwa [hpoll]

lemma delivered_isChain (calls : List ChannelCall) :
    (delivered calls).IsChain fun r before => r.id ≠ before.id := by
  induction calls with
  | nil => exact .nil
  | cons call calls ih =>
    rw [delivered]
    rcases call.cases_posted with ⟨r, hr⟩ | ⟨text, fault, rfl, hread⟩ | rfl
    · rwa [answer_posted hr]
    · rwa [answer_rejected hread]
    · rw [answer]
      rcases poll_cases (after calls) with ⟨hpoll, -⟩ | ⟨r, -, fresh, hpoll⟩
      · rwa [hpoll]
      · rw [hpoll]
        refine List.isChain_cons.mpr ⟨fun before hb same => fresh ?_, ih⟩
        rw [after_eq, same]
        exact congrArg (Option.map Request.id) hb

lemma slot_of_settled (h : call.isPoll ∨ call.posted?.isSome) (earlier : List ChannelCall) :
    (after (call :: earlier)).slot.toList = posted [call] := by
  rcases call.cases_posted with ⟨r, hr⟩ | ⟨text, fault, rfl, hread⟩ | rfl
  · rw [after, answer_posted hr, posted, List.filterMap_cons_some hr]
    rfl
  · simp [ChannelCall.isPoll, ChannelCall.posted?, hread, Except.toOption] at h
  · rw [after, answer]
    rcases poll_cases (after earlier) with ⟨hpoll, -⟩ | ⟨r, -, -, hpoll⟩ <;> rw [hpoll] <;> rfl

/-- A poll hands out a request exactly if it is the last one posted since the poll before and its id is not
that of the last one handed out. What is handed out has been posted, in this order and each time anew, and
no two in a row have the same id. After a poll or a post nothing from before is handed out any more: what
was superseded or repeated an id is gone for good. A text that is no request changes nothing. -/
theorem poll_hands_out_last_posted (calls : List ChannelCall) :
    (∀ r, (after calls).poll.1 = some r ↔
      (posted (sincePoll calls)).head? = some r ∧
        ∀ last, (delivered calls).head? = some last → last.id ≠ r.id) ∧
    (delivered calls).Sublist (posted calls) ∧
    (delivered calls).IsChain (fun r before => r.id ≠ before.id) ∧
    (∀ later call earlier, calls = later ++ call :: earlier → call.isPoll ∨ call.posted?.isSome →
      ∃ new, delivered calls = new ++ delivered (call :: earlier) ∧
        new.Sublist (posted (later ++ [call]))) ∧
    ∀ text fault, Request.ofJson text = .error fault →
      (after calls).postJson text = .error fault ∧ after (.postJson text :: calls) = after calls := by
  refine ⟨?_, ?_, delivered_isChain calls, ?_, ?_⟩
  · intro r
    rw [poll_eq_some_iff, after_eq]
    simp
  · obtain ⟨new, hnew, sub⟩ := delivered_append calls []
    simp only [List.append_nil, after, delivered] at hnew sub
    rw [hnew]
    exact (List.sublist_append_right _ new).trans (by simpa using sub)
  · rintro later call earlier rfl settled
    obtain ⟨new, hnew, sub⟩ := delivered_append later (call :: earlier)
    rw [slot_of_settled settled, posted, posted, ← List.filterMap_append] at sub
    exact ⟨new, hnew, (List.sublist_append_right _ new).trans sub⟩
  · intro text fault hread
    exact ⟨by rw [postJson, hread]; rfl, by rw [after, answer_rejected hread]⟩

def repeatedStop : List ChannelCall :=
  [.poll, .post (.stop "b"), .poll, .post (.stop "b"), .post (.stop "a")]

theorem repeated_stop_is_handed_out_once :
    delivered repeatedStop = [.stop "b"] ∧ (delivered repeatedStop).Sublist (posted repeatedStop) ∧
    (∃ new, delivered repeatedStop = new ++ [.stop "b"] ∧ new.Sublist [.stop "b"]) ∧
    ∃ fault, (after repeatedStop).postJson "stop" = .error fault ∧
      after (.postJson "stop" :: repeatedStop) = after repeatedStop := by
  have law := poll_hands_out_last_posted repeatedStop
  obtain ⟨new, hnew, sub⟩ := law.2.2.2.1 [.poll, .post (.stop "b")] .poll _ rfl (.inl rfl)
  exact ⟨rfl, law.2.1, ⟨new, hnew, sub⟩, _, law.2.2.2.2 "stop" _ rfl⟩

end Channel

end Marquee
