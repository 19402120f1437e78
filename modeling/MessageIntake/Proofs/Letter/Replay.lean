import Mathlib.Logic.Function.Iterate
import MessageIntake.Proofs.Letter.Contents
/-!
# Letters that come back

Whoever replays letters hands their texts in as payloads. The keys that a letter adds are reserved,
and none of them is a key of an event: so the text of a letter is read as its payload was, and the
letter of a letter holds the fields of that payload again, with what the router says now. Both stay
so however often a letter comes back.

Main statement: a letter, and every letter of a letter, replays the payload that the first one was
about (`letters_replay_payload`).
-/

namespace MessageIntake

namespace ChatEvent

variable {f : Binary64 → Binary64} {members : Json.Members}

/-- **What a payload comes to** when it is received: an event to store, or why there is none. -/
def receive (payload : Option Bytes) (receivedAt : Timestamp) : Except Failure AcceptedEvent :=
  match ofPayload? payload with
  | .error fault => .error (.undecodable fault.message)
  | .ok event => event.accept receivedAt

/-- **A text is read** whatever the floats of the members are. -/
theorem textMember_mapMemberFloats {key : String} {text : Option String} :
    textMember (Json.mapMemberFloats f members) key = .ok text ↔
      textMember members key = .ok text := by
  unfold textMember
  rw [Json.find?_mapMemberFloats]
  cases members.find? key with
  | none => exact Iff.rfl
  | some value =>
    cases value with
    | null | bool | string => exact Iff.rfl
    | number n =>
      cases n with
      | integer n => exact Iff.rfl
      | float x =>
        constructor
        all_goals
          intro fails
          cases fails
    | array | object =>
      constructor
      all_goals
        intro fails
        cases fails

/-- **An event is read** whatever the floats of the members are. -/
theorem ofMembers?_mapMemberFloats {event : ChatEvent} :
    ofMembers? (Json.mapMemberFloats f members) = .ok event ↔ ofMembers? members = .ok event :=
  ofMembers?_eq_ok_congr fun _ _ _ => textMember_mapMemberFloats

/-- **Payloads with the same event** come to the same, unless there is none in either. -/
theorem receive_of_event_iff {payload other : Option Bytes}
    (same : ∀ event, ofPayload? payload = .ok event ↔ ofPayload? other = .ok event)
    (receivedAt : Timestamp) :
    receive payload receivedAt = receive other receivedAt ∨
      (∃ detail, receive payload receivedAt = .error (.undecodable detail)) ∧
        ∃ detail, receive other receivedAt = .error (.undecodable detail) := by
  unfold receive
  cases read : ofPayload? other with
  | ok event =>
    rw [(same event).2 read]
    exact .inl rfl
  | error fault =>
    cases again : ofPayload? payload with
    | ok event =>
      rw [(same event).1 again] at read
      cases read
    | error other => exact .inr ⟨⟨_, rfl⟩, _, rfl⟩

end ChatEvent

namespace Letter

open ChatEvent (ofPayload? ofMembers? receive)

/-! ### What is kept of a payload -/

variable {bytes : Bytes} {members : Json.Members}

theorem keep_of_object (parses : Json.ofBytes? bytes = .ok (.object members)) :
    keep (some bytes) = (members.without reservedKeys, none) := by
  have object := Json.ofBytes?_eq_ok_iff.1 parses
  simp only [keep, object]

/-- **What is dropped** of an object is nothing of an event. -/
theorem ofPayload?_eq_of_object (parses : Json.ofBytes? bytes = .ok (.object members)) :
    ofPayload? (some bytes) = ofMembers? (keep (some bytes)).1 := by
  have unreserved : ∀ key ∈ ChatEvent.keys, key ∉ reservedKeys := by decide
  rw [ChatEvent.ofPayload?_of_object parses, keep_of_object parses]
  apply ChatEvent.ofMembers?_congr
  intro key mem
  rw [Json.Members.find?_without, if_neg (unreserved key mem)]

/-- **Fields that were kept**: in order, none of them under a reserved key, and shallow enough to
stand in a letter. -/
structure Kept (fields : Json.Members) : Prop where
  ordered : fields.Ordered
  unreserved : ∀ m ∈ fields, m.1 ∉ reservedKeys
  fits : ∀ m ∈ fields, Json.Fits (Json.depthLimit - 1) m.2

theorem kept_keep (payload : Option Bytes) : Kept (keep payload).1 := by
  have parts : ∃ members, Json.Members.Ordered members ∧
      (keep payload).1 = members.without reservedKeys := by
    unfold keep
    split
    · exact ⟨[], .nil, rfl⟩
    split
    · next members read =>
      obtain ⟨entries, -, rfl⟩ := Json.read_eq_object_iff.1 read
      exact ⟨_, Json.Members.ordered_ofList entries, rfl⟩
    · exact ⟨[], .nil, rfl⟩
  have fits : ∀ m ∈ (keep payload).1, Json.Fits (Json.depthLimit - 1) m.2 :=
    fun m mem => fits_of_kept (List.mem_append_left _ mem)
  obtain ⟨members, ordered, eq⟩ := parts
  rw [eq] at fits ⊢
  exact ⟨ordered.without _, fun m mem => (Json.Members.mem_without.1 mem).2, fits⟩

/-! ### Rejected records -/

/-- **A record that was rejected**, with all that its letter says of it. The numbers are as wide as
those that the transport counts with. -/
structure Rejection where
  record : Record
  failureClass : FailureClass
  reason : Reason
  detail : String
  attempts : Nat
  failedAt : Timestamp
  partition : -2 ^ 31 ≤ record.partition ∧ record.partition < 2 ^ 31
  offset : -2 ^ 63 ≤ record.offset ∧ record.offset < 2 ^ 63
  few : attempts < 2 ^ 32

namespace Rejection

/-- The letter of the record. -/
def letter (r : Rejection) : Letter :=
  ofRecord r.record r.failureClass r.reason r.detail r.attempts r.failedAt

/-- The letter that says of this rejection what is said, and holds these fields of its payload. -/
def letterWith (r : Rejection) (payloadFields : Json.Members) : Letter where
  payloadFields := payloadFields
  rawPayload := none
  originTopic := r.record.topic
  originPartition := r.record.partition
  originOffset := r.record.offset
  failureClass := r.failureClass
  failureReason := r.reason
  failureDetail := r.detail
  attemptCount := r.attempts
  failedAt := r.failedAt

/-- **What is published** of the letter. -/
def published (r : Rejection) : Bytes := Utf8.encode r.letter.text

theorem writes_published (r : Rejection) :
    Json.Writes r.published
      (r.letter.fields.map fun m => (m.1, m.2.mapFloats Json.reread)) :=
  Json.writes_compact fun _ mem => fits_of_mem_fields r.partition r.offset r.few mem

theorem ofBytes?_published (r : Rejection) :
    Json.ofBytes? r.published = .ok (.object (Json.Members.ofList
      (r.letter.fields.map fun m => (m.1, m.2.mapFloats Json.reread)))) :=
  Json.ofBytes?_eq_ok_iff.2 (Json.read_eq_object_iff.2 ⟨_, r.writes_published, rfl⟩)

/-- The fields that a letter adds are under reserved keys. -/
theorem mem_reservedKeys_of_added (r : Rejection) {m : String × Json}
    (mem : m ∈ (r.letter.rawPayload.toList.map fun s => ("rawPayload", Json.string s)) ++
      r.letter.routerFields) : m.1 ∈ reservedKeys := by
  have router : ∀ key ∈ routerKeys, key ∈ reservedKeys := by decide
  rcases List.mem_append.1 mem with raw | own
  · obtain ⟨s, -, rfl⟩ := List.mem_map.1 raw
    change "rawPayload" ∈ reservedKeys
    decide
  · apply router
    rw [← keys_routerFields r.letter]
    exact List.mem_map_of_mem own

/-- **What is kept of a letter** are the fields that it keeps of its payload. -/
theorem keep_published (r : Rejection) :
    keep (some r.published) =
      (Json.mapMemberFloats Json.reread (keep r.record.payload).1, none) := by
  have kept := kept_keep r.record.payload
  have fields : r.letter.fields = (keep r.record.payload).1 ++
      ((r.letter.rawPayload.toList.map fun s => ("rawPayload", Json.string s)) ++
        r.letter.routerFields) := List.append_assoc ..
  -- what the letter adds is dropped again, and what it kept is in order as it stands
  rw [keep_of_object r.ofBytes?_published, fields, List.map_append,
    Json.Members.without_ofList_append, Json.Members.ofList_of_ordered,
    Json.Members.without_of_forall_notMem, Json.mapMemberFloats_eq]
  · intro m mem
    obtain ⟨own, kept_mem, rfl⟩ := List.mem_map.1 mem
    exact kept.unreserved own kept_mem
  · exact Json.ordered_map kept.ordered _
  · intro m mem
    obtain ⟨own, added, rfl⟩ := List.mem_map.1 mem
    have reserved := r.mem_reservedKeys_of_added added
    exact reserved

end Rejection

/-! ### Letters of letters -/

/-- **A letter comes back** some number of times: each time its text is the payload of a record
that is rejected again, for whatever cause and on whatever topic. -/
inductive Descends (first : Rejection) : Nat → Rejection → Prop
  | refl : Descends first 0 first
  | again {n : Nat} {last next : Rejection} (descends : Descends first n last)
      (payload : next.record.payload = some last.published) : Descends first (n + 1) next

/-- **Members that read back** as they are written. A whole number of 64 bits always does; a float
need not, since it is not read to the nearest. -/
def Steady (members : Json.Members) : Prop :=
  ∀ x ∈ Json.memberFloats members, Json.reread x = x

/-- Of the whole numbers only `-0` is read as a float, and it reads back. -/
theorem steady_of_whole (whole : ∀ x ∈ Json.memberFloats members, x = .finite true 0) :
    Steady members := by
  have zero : Json.reread (.finite true 0) = .finite true 0 := by decide +kernel
  intro x mem
  rw [whole x mem]
  exact zero

/-- **A letter replays a payload** that is an object: its text is read as the same event, or neither
is one; and it holds the fields of that payload that are not reserved, each float read back as often
as the letter came back. -/
structure Replays (bytes : Bytes) (members : Json.Members) (n : Nat) (last : Rejection) :
    Prop where
  event_iff : ∀ event,
    ofPayload? (some last.published) = .ok event ↔ ofPayload? (some bytes) = .ok event
  /-- Whenever they are received, both come to the same, unless neither can be decoded. -/
  received : ∀ receivedAt,
    receive (some last.published) receivedAt = receive (some bytes) receivedAt ∨
      (∃ detail, receive (some last.published) receivedAt = .error (.undecodable detail)) ∧
        ∃ detail, receive (some bytes) receivedAt = .error (.undecodable detail)
  letter_eq : last.letter =
    last.letterWith (Json.mapMemberFloats Json.reread^[n] (members.without reservedKeys))
  /-- Letters of letters do not grow. -/
  length_fields : last.letter.fields.length =
    (members.without reservedKeys).length + routerKeys.length
  of_steady : Steady members →
    ofPayload? (some last.published) = ofPayload? (some bytes) ∧
      last.letter = last.letterWith (members.without reservedKeys)

section

variable {first last : Rejection} {n : Nat}

theorem fits_of_object (parses : Json.ofBytes? bytes = .ok (.object members)) :
    ∀ m ∈ members.without reservedKeys, Json.Fits (Json.depthLimit - 1) m.2 := by
  have kept := kept_keep (some bytes)
  rw [keep_of_object parses] at kept
  exact kept.fits

/-- **Each time that a letter comes back** the same is kept, but for one more reading of its
floats. -/
theorem Descends.keep_payload (payload : first.record.payload = some bytes)
    (parses : Json.ofBytes? bytes = .ok (.object members)) (descends : Descends first n last) :
    keep last.record.payload =
      (Json.mapMemberFloats Json.reread^[n] (members.without reservedKeys), none) := by
  have fits := fits_of_object parses
  -- on how often the letter came back: the text of each letter is the payload of the next record
  induction descends with
  | refl =>
    have same : Json.mapMemberFloats id (members.without reservedKeys) =
        members.without reservedKeys := Json.mapMemberFloats_of_fixed fits fun _ _ => rfl
    rw [payload, keep_of_object parses, Function.iterate_zero, same]
  | again _ comesBack ih =>
    rw [comesBack, Rejection.keep_published, ih, Json.mapMemberFloats_mapMemberFloats fits,
      Function.iterate_succ']

/-- The event of a letter is read from what is kept of the first payload. -/
theorem Descends.ofPayload?_published (payload : first.record.payload = some bytes)
    (parses : Json.ofBytes? bytes = .ok (.object members)) (descends : Descends first n last) :
    ofPayload? (some last.published) = ofMembers?
      (Json.mapMemberFloats Json.reread^[n + 1] (members.without reservedKeys)) := by
  rw [ofPayload?_eq_of_object last.ofBytes?_published, last.keep_published,
    descends.keep_payload payload parses,
    Json.mapMemberFloats_mapMemberFloats (fits_of_object parses), ← Function.iterate_succ']

/-- Members that are steady stay the same, however often they are read back. -/
theorem Steady.mapMemberFloats (steady : Steady members)
    (parses : Json.ofBytes? bytes = .ok (.object members)) (n : Nat) :
    Json.mapMemberFloats Json.reread^[n] (members.without reservedKeys) =
      members.without reservedKeys := by
  refine Json.mapMemberFloats_of_fixed (fits_of_object parses) fun x mem => ?_
  rw [Json.memberFloats_eq, List.mem_flatMap] at mem
  obtain ⟨m, mem, own⟩ := mem
  have among : x ∈ Json.memberFloats members := by
    rw [Json.memberFloats_eq, List.mem_flatMap]
    exact ⟨m, (Json.Members.mem_without.1 mem).1, own⟩
  exact Function.iterate_fixed (steady x among) n

/-- **Letters replay their payload**: of a record whose payload is an object, the letter and each
letter of a letter are read as that payload, and none holds more of it than the first. -/
theorem letters_replay_payload (payload : first.record.payload = some bytes)
    (parses : Json.ofBytes? bytes = .ok (.object members)) (descends : Descends first n last) :
    Replays bytes members n last := by
  have kept := descends.keep_payload payload parses
  have published := descends.ofPayload?_published payload parses
  have original : ofPayload? (some bytes) = ofMembers? (members.without reservedKeys) := by
    rw [ofPayload?_eq_of_object parses, keep_of_object parses]
  have event_iff : ∀ event, ofPayload? (some last.published) = .ok event ↔
      ofPayload? (some bytes) = .ok event := by
    intro event
    rw [published, original]
    exact ChatEvent.ofMembers?_mapMemberFloats
  have letter_eq : last.letter = last.letterWith
      (Json.mapMemberFloats Json.reread^[n] (members.without reservedKeys)) := by
    simp only [Rejection.letter, ofRecord, kept]
    rfl
  refine ⟨event_iff, ChatEvent.receive_of_event_iff event_iff, letter_eq, ?_, ?_⟩
  · have fields : last.letter.fields = last.letter.payloadFields ++ last.letter.routerFields := by
      rw [letter_eq]
      exact congrArg (· ++ _) (List.append_nil _)
    rw [fields, List.length_append, letter_eq]
    exact congrArg (· + routerKeys.length) (Json.length_mapMemberFloats ..)
  · intro steady
    have same := steady.mapMemberFloats parses
    constructor
    · rw [published, original, same]
    · rw [letter_eq, same]

/-- **A payload with a forged count**, and with the greatest whole number and `-0`. -/
def countedPayload : Bytes :=
  Utf8.encode <|
    "\x7b\"eventId\":\"e1\",\"attemptCount\":-3,\"rawPayload\":null," ++
      "\"unread\":[-0,\x7b\"most\":18446744073709551615\x7d]\x7d"

theorem replay_of_counted_payload :
    ∃ (first second : Rejection) (members : Json.Members),
      first.record.payload = some countedPayload ∧
        Json.ofBytes? countedPayload = .ok (.object members) ∧ Descends first 1 second ∧
        Replays countedPayload members 1 second ∧
        (ofPayload? (some second.published)).toOption.bind (·.eventId) = some "e1" ∧
        second.letter.payloadFields.keys = ["eventId", "unread"] ∧
        second.letter.originTopic = "chat-messages-dlq" := by
  let first : Rejection :=
    { record := ⟨"chat-messages", 2, 41, none, some countedPayload, 1⟩
      failureClass := .nonRecoverable
      reason := .missingField
      detail := "no content"
      attempts := 1
      failedAt := .epoch
      partition := by decide
      offset := by decide
      few := by decide }
  let second : Rejection :=
    { record := ⟨"chat-messages-dlq", 0, 7, none, some first.published, 3⟩
      failureClass := .recoverable
      reason := .retriesExhausted
      detail := "no content"
      attempts := 3
      failedAt := .epoch
      partition := by decide
      offset := by decide
      few := by decide }
  have event : (ofPayload? (some countedPayload)).toOption.bind (·.eventId) = some "e1" := by
    decide +kernel
  have kept : (keep (some countedPayload)).1.keys = ["eventId", "unread"] := by decide +kernel
  have floats : (Json.ofBytes? countedPayload).toOption.map Json.floats =
      some [.finite true 0] := by decide +kernel
  cases read : ofPayload? (some countedPayload) with
  | error fault =>
    rw [read] at event
    cases event
  | ok found =>
    obtain ⟨members, parses⟩ := ChatEvent.object_of_ofPayload? read
    have steady : Steady members := by
      rw [parses] at floats
      have own : Json.memberFloats members = [.finite true 0] := Option.some.inj floats
      apply steady_of_whole
      rw [own]
      exact List.forall_mem_singleton.2 rfl
    have descends : Descends first 1 second := .again .refl rfl
    have replays := letters_replay_payload rfl parses descends
    obtain ⟨same, fields⟩ := replays.of_steady steady
    rw [keep_of_object parses] at kept
    refine ⟨first, second, members, rfl, parses, descends, replays, ?_, ?_, ?_⟩
    · rw [same]
      exact event
    · rw [fields]
      exact kept
    · rw [fields]
      rfl

end

end Letter

end MessageIntake
