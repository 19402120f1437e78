import MessageIntake.Event
import MessageIntake.Proofs.Success
/-!
# Which events are accepted

What the members of an object say of an event, and which of it is accepted. The specification is
read off the members alone: ten keys hold texts or nothing, `sentAt` writes an instant, and what
counts as absent, as blank and as too long is said key by key.

Main statement: a payload that is an object is read just if its members are of these kinds, and the
event in it is then accepted just if it is as specified, with the very texts of the members
(`accepts_just_the_specified`).
-/

namespace MessageIntake.ChatEvent

/-! ### What the members say -/

/-- **The keys** that are read. -/
def keys : List String :=
  ["attachmentUrl", "clientMsgId", "content", "conversationId", "eventId", "from", "recipientId",
    "senderId", "sentAt", "to"]

variable {members : Json.Members} {key : String}

/-- **A member is textual** if it is a text or null, or if there is none. -/
def Textual (members : Json.Members) (key : String) : Prop :=
  ∀ value, members.find? key = some value → value = .null ∨ ∃ s, value = .string s

/-- The text of a member. -/
def textOf (members : Json.Members) (key : String) : Option String :=
  match members.find? key with
  | some (.string s) => some s
  | _ => none

/-- The text of a member that is not blank. -/
def present (members : Json.Members) (key : String) : Option String :=
  (textOf members key).filter fun s => !Text.allBlank s

/-- **The instant of `sentAt`**, if it is one after the first year. -/
def sentInstant (members : Json.Members) : Option Timestamp :=
  (present members "sentAt").bind fun raw =>
    match Timestamp.ofText? (Text.trim raw) with
    | .ok sent => if sent.year ≤ 1 then none else some sent
    | .error _ => none

/-- **An event as it is specified**: what the members say of it, within its limits. -/
structure Specified (members : Json.Members) (receivedAt : Timestamp) (e : AcceptedEvent) :
    Prop where
  eventId : textOf members "eventId" = some e.eventId
  conversationId : textOf members "conversationId" = some e.conversationId
  senderId : (present members "senderId").or (present members "from") = some e.senderId
  recipientId : (present members "recipientId").or (present members "to") = e.recipientId
  clientMsgId : present members "clientMsgId" = e.clientMsgId
  content : textOf members "content" = some e.content
  attachmentUrl : present members "attachmentUrl" = e.attachmentUrl
  required : ∀ id ∈ [e.eventId, e.conversationId, e.senderId],
    Text.allBlank id = false ∧ id.length ≤ 255
  optional : ∀ id, e.recipientId = some id ∨ e.clientMsgId = some id → id.length ≤ 255
  address : ∀ url, e.attachmentUrl = some url → url.length ≤ 2048
  createdAt : (sentInstant members).getD receivedAt = e.createdAt

/-! ### Reading -/

theorem textMember_eq_ok_iff {text : Option String} :
    textMember members key = .ok text ↔ Textual members key ∧ textOf members key = text := by
  unfold textMember Textual textOf
  cases members.find? key with
  | none => simp
  | some value => cases value <;> simp

/-- The instant is read just if a text that is not blank writes one. -/
theorem instant_eq_ok_iff {sent : Option Timestamp} :
    instant (textOf members "sentAt") = .ok sent ↔
      (∀ raw, present members "sentAt" = some raw →
        ∃ t, Timestamp.ofText? (Text.trim raw) = .ok t) ∧ sentInstant members = sent := by
  have written : unlessBlank (textOf members "sentAt") = present members "sentAt" := rfl
  rw [instant, sentInstant, written]
  cases present members "sentAt" with
  | none => simp
  | some raw => cases read : Timestamp.ofText? (Text.trim raw) <;> simp [read]

theorem present_eq_some_iff {raw : String} :
    present members key = some raw ↔
      members.find? key = some (.string raw) ∧ Text.allBlank raw = false := by
  unfold present textOf
  cases members.find? key with
  | none => simp
  | some value =>
    cases value with
    | string s =>
      simp only [Option.filter_eq_some_iff, Option.some.injEq, Json.string.injEq,
        Bool.not_eq_true']
    | null | bool | number | array | object => simp

/-- The event that textual members hold. -/
def eventOf (members : Json.Members) : ChatEvent where
  eventId := textOf members "eventId"
  clientMsgId := present members "clientMsgId"
  conversationId := textOf members "conversationId"
  senderId := present members "senderId"
  recipientId := present members "recipientId"
  gatewaySender := present members "from"
  gatewayRecipient := present members "to"
  content := textOf members "content"
  attachmentUrl := present members "attachmentUrl"
  sentAt := sentInstant members

/-- **An object is read** just if its members are textual and its instant is one. -/
theorem ofMembers?_eq_ok_iff {event : ChatEvent} :
    ofMembers? members = .ok event ↔
      ((∀ key ∈ keys, Textual members key) ∧ ∀ raw, present members "sentAt" = some raw →
        ∃ t, Timestamp.ofText? (Text.trim raw) = .ok t) ∧ eventOf members = event := by
  have all : (∀ key ∈ keys, Textual members key) ↔
      Textual members "attachmentUrl" ∧ Textual members "clientMsgId" ∧
        Textual members "content" ∧ Textual members "conversationId" ∧
        Textual members "eventId" ∧ Textual members "from" ∧ Textual members "recipientId" ∧
        Textual members "senderId" ∧ Textual members "sentAt" ∧ Textual members "to" := by
    simp [keys]
  rw [all]
  simp only [ofMembers?, bind_eq_ok_iff, textMember_eq_ok_iff]
  constructor
  · rintro ⟨_, ⟨url, rfl⟩, _, ⟨clientMsgId, rfl⟩, _, ⟨content, rfl⟩, _, ⟨conversation, rfl⟩, _,
      ⟨event, rfl⟩, _, ⟨gatewaySender, rfl⟩, _, ⟨recipient, rfl⟩, _, ⟨sender, rfl⟩, _,
      ⟨sentAt, rfl⟩, _, written, _, ⟨gatewayRecipient, rfl⟩, built⟩
    obtain ⟨writes, rfl⟩ := instant_eq_ok_iff.1 written
    exact ⟨⟨⟨url, clientMsgId, content, conversation, event, gatewaySender, recipient, sender,
      sentAt, gatewayRecipient⟩, writes⟩, Except.ok.inj built⟩
  · rintro ⟨⟨⟨url, clientMsgId, content, conversation, event, gatewaySender, recipient, sender,
      sentAt, gatewayRecipient⟩, writes⟩, rfl⟩
    exact ⟨_, ⟨url, rfl⟩, _, ⟨clientMsgId, rfl⟩, _, ⟨content, rfl⟩, _, ⟨conversation, rfl⟩, _,
      ⟨event, rfl⟩, _, ⟨gatewaySender, rfl⟩, _, ⟨recipient, rfl⟩, _, ⟨sender, rfl⟩, _,
      ⟨sentAt, rfl⟩, _, instant_eq_ok_iff.2 ⟨writes, rfl⟩, _, ⟨gatewayRecipient, rfl⟩, rfl⟩

/-- **What is read** depends on the members under the keys alone. -/
theorem ofMembers?_congr {others : Json.Members}
    (same : ∀ key ∈ keys, members.find? key = others.find? key) :
    ofMembers? members = ofMembers? others := by
  have texts : ∀ key ∈ keys, textMember members key = textMember others key := by
    intro key mem
    rw [textMember, same key mem, textMember]
  simp only [keys, List.forall_mem_cons] at texts
  simp only [ofMembers?, texts]

/-- **The same event is read** where the same texts are. -/
theorem ofMembers?_eq_ok_congr {others : Json.Members}
    (same : ∀ key ∈ keys, ∀ text, textMember members key = .ok text ↔
      textMember others key = .ok text) {event : ChatEvent} :
    ofMembers? members = .ok event ↔ ofMembers? others = .ok event := by
  simp only [keys, List.forall_mem_cons] at same
  simp only [ofMembers?, bind_eq_ok_iff, same]

/-! ### Accepting -/

theorem tooLong?_eq_none_iff {field : String} {limit : Nat} {value : Option String} :
    tooLong? field limit value = none ↔ ∀ s, value = some s → s.length ≤ limit := by
  cases value <;> simp [tooLong?]

theorem absent?_eq_none_iff {field : String} {value : Option String} :
    absent? field value = none ↔ ∃ s, value = some s := by
  cases value <;> simp [absent?]

theorem identifier_eq_ok_iff {field : String} {value : Option String} {id : String} :
    identifier field value = .ok id ↔ value = some id ∧ Text.allBlank id = false := by
  unfold identifier unlessBlank
  cases value with
  | none => simp
  | some s =>
    cases blank : Text.allBlank s with
    | false =>
      simp only [Option.filter, blank, Bool.not_false, if_true, Except.ok.injEq, Option.some.injEq]
      exact ⟨fun same => ⟨same, same ▸ blank⟩, fun found => found.1⟩
    | true =>
      simp only [Option.filter, blank, Bool.not_true]
      exact ⟨nofun, fun ⟨same, written⟩ => by simp_all⟩

/-- Nothing is wrong with the fields just if what is required is there and nothing is too long. -/
theorem violations_eq_nil_iff {e : ChatEvent} :
    e.violations = [] ↔
      (∀ url, e.attachmentUrl = some url → url.length ≤ 2048) ∧
        (∀ id, e.clientMsgId = some id → id.length ≤ 255) ∧
        (∃ content, e.content = some content) ∧
        (∃ id, e.conversationId = some id) ∧
        (∀ id, e.conversationId = some id → id.length ≤ 255) ∧
        (∃ id, e.eventId = some id) ∧
        (∀ id, e.eventId = some id → id.length ≤ 255) ∧
        (∀ id, e.recipientId = some id → id.length ≤ 255) ∧
        (∃ id, e.senderId = some id) ∧ ∀ id, e.senderId = some id → id.length ≤ 255 := by
  simp only [violations, List.filterMap_eq_nil_iff, List.mem_cons, List.not_mem_nil, or_false,
    forall_eq_or_imp, forall_eq, id, tooLong?_eq_none_iff, absent?_eq_none_iff, idLimit, urlLimit]

/-- **An event is accepted** just if nothing is wrong with its fields and no identifier is blank. -/
theorem accept_eq_ok_iff {e : ChatEvent} {receivedAt : Timestamp} {accepted : AcceptedEvent} :
    e.accept receivedAt = .ok accepted ↔
      e.mergeSpellings.violations = [] ∧
        (e.eventId = some accepted.eventId ∧ Text.allBlank accepted.eventId = false) ∧
        (e.conversationId = some accepted.conversationId ∧
          Text.allBlank accepted.conversationId = false) ∧
        (e.senderId.or e.gatewaySender = some accepted.senderId ∧
          Text.allBlank accepted.senderId = false) ∧
        e.content = some accepted.content ∧ e.clientMsgId = accepted.clientMsgId ∧
        e.recipientId.or e.gatewayRecipient = accepted.recipientId ∧
        e.attachmentUrl = accepted.attachmentUrl ∧
        e.sentAt.getD receivedAt = accepted.createdAt := by
  unfold accept
  dsimp only
  split
  · next violated => simp [violated]
  · next none =>
    simp only [none, true_and, bind_eq_ok_iff, identifier_eq_ok_iff]
    constructor
    · rintro ⟨_, eventId, _, conversationId, _, senderId, built⟩
      split at built
      · next content found =>
        cases built
        exact ⟨eventId, conversationId, senderId, found, rfl, rfl, rfl, rfl⟩
      · cases built
    · rintro ⟨eventId, conversationId, senderId, content, clientMsgId, recipientId, url, createdAt⟩
      refine ⟨_, eventId, _, conversationId, _, senderId, ?_⟩
      have content : e.mergeSpellings.content = some accepted.content := content
      simp only [content]
      simp only [mergeSpellings, clientMsgId, recipientId, url, createdAt]
      rfl

/-! ### Payloads -/

/-- Blank bytes hold no value. -/
theorem value_of_blank (depth : Nat) {bytes : Bytes} (blank : bytes.all Text.isBlankByte = true) :
    ∃ fault, Json.value depth bytes = .error fault := by
  unfold Json.value
  split
  · exact ⟨_, rfl⟩
  · next b rest left =>
    -- what is left begins with the one blank byte that the space of values does not count
    have mem : b ∈ bytes := (List.dropWhile_sublist _).subset (left ▸ List.mem_cons_self)
    have blank : Text.isBlankByte b = true := List.all_eq_true.1 blank b mem
    have kept := List.head?_dropWhile_not
      (fun b => b == 0x20 || b == 0x09 || b == 0x0a || b == 0x0d) bytes
    rw [Json.skipSpace] at left
    rw [left] at kept
    have formFeed : b = 0x0c := by
      simp only [Text.isBlankByte, Bool.or_eq_true, beq_iff_eq] at blank
      simp at kept
      grind
    subst formFeed
    exact ⟨_, rfl⟩

/-- A payload that holds an object is read as that object. -/
theorem ofPayload?_of_object {bytes : Bytes}
    (parses : Json.ofBytes? bytes = .ok (.object members)) :
    ofPayload? (some bytes) = ofMembers? members := by
  have written : ¬bytes.all Text.isBlankByte = true := by
    intro blank
    obtain ⟨fault, fails⟩ := value_of_blank Json.depthLimit blank
    simp [Json.ofBytes?, Json.read, fails] at parses
  simp only [ofPayload?, if_neg written, parses]

/-- What is read is an object. -/
theorem object_of_ofPayload? {bytes : Bytes} {event : ChatEvent}
    (read : ofPayload? (some bytes) = .ok event) :
    ∃ members, Json.ofBytes? bytes = .ok (.object members) := by
  simp only [ofPayload?] at read
  split at read
  · cases read
  · cases parsed : Json.ofBytes? bytes with
    | error detail =>
      rw [parsed] at read
      cases read
    | ok value =>
      rw [parsed] at read
      cases value with
      | object members => exact ⟨members, rfl⟩
      | null | bool | number | string | array => cases read

/-- **An object is not read** just if a member is of another kind, or its instant is none. -/
theorem ofMembers?_eq_error_iff :
    (∃ fault, ofMembers? members = .error fault) ↔
      (∃ key ∈ keys, ∃ value, members.find? key = some value ∧ value ≠ .null ∧
        ∀ s, value ≠ .string s) ∨
      ∃ raw, members.find? "sentAt" = some (.string raw) ∧ Text.allBlank raw = false ∧
        ∀ t, Timestamp.ofText? (Text.trim raw) ≠ .ok t := by
  have fails : (∃ fault, ofMembers? members = .error fault) ↔
      ¬∃ event, ofMembers? members = .ok event := by
    cases ofMembers? members <;> simp
  rw [fails]
  simp only [ofMembers?_eq_ok_iff, exists_and_left, exists_eq', and_true,
    Classical.not_and_iff_not_or_not]
  simp only [Textual, present_eq_some_iff, Classical.not_forall, not_or, not_exists, exists_prop,
    and_assoc, ne_eq]

/-- **What the members hold is accepted** just as specified. -/
theorem accept_eventOf_iff {receivedAt : Timestamp} {accepted : AcceptedEvent} :
    (eventOf members).accept receivedAt = .ok accepted ↔ Specified members receivedAt accepted := by
  rw [accept_eq_ok_iff, violations_eq_nil_iff]
  constructor
  · rintro ⟨⟨url, clientMsgId, -, -, conversationShort, -, eventShort, recipientShort, -,
      senderShort⟩, ⟨event, eventWritten⟩, ⟨conversation, conversationWritten⟩,
      ⟨sender, senderWritten⟩, content, same, recipient, sameUrl, dated⟩
    exact {
      eventId := event
      conversationId := conversation
      senderId := sender
      recipientId := recipient
      clientMsgId := same
      content := content
      attachmentUrl := sameUrl
      required := by
        simp only [List.mem_cons, List.not_mem_nil, or_false, forall_eq_or_imp, forall_eq]
        exact ⟨⟨eventWritten, eventShort _ event⟩,
          ⟨conversationWritten, conversationShort _ conversation⟩, senderWritten,
          senderShort _ sender⟩
      optional := fun id found => found.elim
        (fun found => recipientShort id (recipient.trans found))
        fun found => clientMsgId id (same.trans found)
      address := fun s found => url s (sameUrl.trans found)
      createdAt := dated }
  · intro h
    have required : ∀ {value : Option String} {id : String}, value = some id →
        id ∈ [accepted.eventId, accepted.conversationId, accepted.senderId] →
        ∀ id', value = some id' → id'.length ≤ 255 := by
      rintro _ id rfl mem _ ⟨⟩
      exact (h.required id mem).2
    have event := required h.eventId (by simp)
    have conversation := required h.conversationId (by simp)
    have sender := required h.senderId (by simp)
    refine ⟨⟨fun s found => h.address s (h.attachmentUrl.symm.trans found),
      fun id found => h.optional id (.inr (h.clientMsgId.symm.trans found)), ⟨_, h.content⟩,
      ⟨_, h.conversationId⟩, conversation, ⟨_, h.eventId⟩, event,
      fun id found => h.optional id (.inl (h.recipientId.symm.trans found)), ⟨_, h.senderId⟩,
      sender⟩, ⟨h.eventId, (h.required _ (by simp)).1⟩,
      ⟨h.conversationId, (h.required _ (by simp)).1⟩, ⟨h.senderId, (h.required _ (by simp)).1⟩,
      h.content, h.clientMsgId, h.recipientId,
      h.attachmentUrl, h.createdAt⟩

/-- **Exactly the specified events are accepted.** -/
theorem accepts_just_the_specified {bytes : Bytes} {members : Json.Members}
    (parses : Json.ofBytes? bytes = .ok (.object members)) :
    ((∃ fault, ofPayload? (some bytes) = .error fault) ↔
      (∃ key ∈ keys, ∃ value, members.find? key = some value ∧ value ≠ .null ∧
        ∀ s, value ≠ .string s) ∨
      ∃ raw, members.find? "sentAt" = some (.string raw) ∧ Text.allBlank raw = false ∧
        ∀ t, Timestamp.ofText? (Text.trim raw) ≠ .ok t) ∧
    ∀ event, ofPayload? (some bytes) = .ok event →
      ∀ receivedAt accepted, event.accept receivedAt = .ok accepted ↔
        Specified members receivedAt accepted := by
  rw [ofPayload?_of_object parses]
  refine ⟨ofMembers?_eq_error_iff, fun event read receivedAt accepted => ?_⟩
  obtain ⟨-, rfl⟩ := ofMembers?_eq_ok_iff.1 read
  exact accept_eventOf_iff

/-- **A gateway's event with a blank sender**: the sender is the one of the other spelling. It is
dated by its receipt if its clock stood at zero, and else by its clock, in UTC. -/
theorem accepts_blank_sender_of_gateway :
    ∃ payload : String → Bytes, ∀ dated ∈ [("0001-01-01T00:00:00Z", Timestamp.epoch),
        ("2024-05-01T08:30:00.250+02:00", ⟨1714545000, 250000000⟩)],
      ∃ (members : Json.Members) (event : ChatEvent) (accepted : AcceptedEvent),
        Json.ofBytes? (payload dated.1) = .ok (.object members) ∧
          ofPayload? (some (payload dated.1)) = .ok event ∧
          event.accept .epoch = .ok accepted ∧ Specified members .epoch accepted ∧
          accepted = ⟨" e1 ", none, "c1", "alice", none, "", none, dated.2⟩ := by
  let payload (sentAt : String) : Bytes := Utf8.encode <|
    "\x7b\"eventId\":\" e1 \",\"clientMsgId\":\" \",\"conversationId\":\"c1\"," ++
      "\"senderId\":\"\\t\",\"from\":\"alice\",\"to\":null,\"content\":\"\"," ++
      "\"sentAt\":\"" ++ sentAt ++ "\",\"room\":[1]\x7d"
  refine ⟨payload, fun dated mem => ?_⟩
  let accepted : AcceptedEvent := ⟨" e1 ", none, "c1", "alice", none, "", none, dated.2⟩
  have accepts : (ofPayload? (some (payload dated.1))).toOption.bind
      (fun event => (event.accept .epoch).toOption) = some accepted := by
    revert dated
    decide +kernel
  cases read : ofPayload? (some (payload dated.1)) with
  | error fault =>
    rw [read] at accepts
    cases accepts
  | ok event =>
    obtain ⟨members, object⟩ := object_of_ofPayload? read
    rw [read] at accepts
    have accept : event.accept .epoch = .ok accepted := toOption_eq_some_iff.1 accepts
    have specified := ((accepts_just_the_specified object).2 event read .epoch accepted).1 accept
    exact ⟨members, event, accepted, object, rfl, accept, specified, rfl⟩

end MessageIntake.ChatEvent
