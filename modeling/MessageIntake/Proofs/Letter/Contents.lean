import Mathlib.Data.List.Nodup
import MessageIntake.Letter
import MessageIntake.Proofs.Event.Acceptance
import MessageIntake.Proofs.Json.Entries
import MessageIntake.Proofs.Timestamp
/-!
# What a letter holds

The fields of a letter are those of the payload, without the reserved keys, and those of the router.
What a payload writes under its keys is read before the reserved ones are dropped, so that neither
an escape nor a second field of one name brings a reserved key through.

Main statement: the text of a letter writes each key once, under the router's keys what the router
says and under every other key what the payload says (`text_is_genuine`).
-/

namespace MessageIntake

/-- **The fault was found** before any field was looked at. -/
def PayloadFault.BeforeFields : PayloadFault → Prop
  | .missing | .empty | .notJson _ | .notObject _ => True
  | .notText _ | .badInstant .. => False

namespace Letter

/-- **The keys of the router.** -/
def routerKeys : List String :=
  ["originTopic", "originPartition", "originOffset", "failureClass", "failureReason",
    "failureDetail", "attemptCount", "failedAt"]

/-- How a letter names the class of a failure. -/
def className : FailureClass → String
  | .recoverable => "RECOVERABLE"
  | .nonRecoverable => "NON_RECOVERABLE"

/-- How a letter names the reason of a failure. -/
def reasonName : Reason → String
  | .malformedPayload => "malformed_payload"
  | .missingField => "missing_field"
  | .schemaViolation => "schema_violation"
  | .datastoreUnavailable => "datastore_unavailable"
  | .duplicateRace => "duplicate_race"
  | .unknown => "unknown"
  | .retriesExhausted => "retries_exhausted"
  | .deadLetterUnavailable => "dead_letter_unavailable"

/-- **What a letter's text has to hold**, for the record it is about: each key once, with the
router's own values under the router's keys, the time as a text that reads back, and under any other
key what the payload has there last, if that is an object. The text of another payload stands under
a key of its own, and that payload was not read as far as its fields. -/
structure Holds (record : Record) (failureClass : FailureClass) (reason : Reason) (detail : String)
    (attempts : Nat) (failedAt : Timestamp) (fields : List (String × Json)) : Prop where
  distinct : (fields.map (·.1)).Nodup
  originTopic : fields.lookup "originTopic" = some (.string record.topic)
  originPartition : fields.lookup "originPartition" = some (.number (.integer record.partition))
  originOffset : fields.lookup "originOffset" = some (.number (.integer record.offset))
  failureClass : fields.lookup "failureClass" = some (.string (className failureClass))
  failureReason : fields.lookup "failureReason" = some (.string (reasonName reason))
  failureDetail : fields.lookup "failureDetail" = some (.string detail)
  attemptCount : fields.lookup "attemptCount" = some (.number (.integer attempts))
  instant : failedAt.Ordinary → Timestamp.ofText? failedAt.text = .ok failedAt
  failedAt : fields.lookup "failedAt" = some (.string failedAt.text)
  ofTombstone : record.payload = none → ∀ key ∉ routerKeys, fields.lookup key = none
  ofObject : ∀ bytes original, record.payload = some bytes → Json.Writes bytes original →
    ∀ key ∉ routerKeys, fields.lookup key =
      if key = "rawPayload" then none else original.reverse.lookup key
  ofOther : ∀ bytes, record.payload = some bytes → (∀ original, ¬Json.Writes bytes original) →
    ∀ key ∉ routerKeys, fields.lookup key =
      if key = "rawPayload" then some (.string (Utf8.decodeLossy bytes)) else none
  rawPayload_of_text : ∀ s, record.payload = some (Utf8.encode s) →
    (∀ original, ¬Json.Writes (Utf8.encode s) original) →
      fields.lookup "rawPayload" = some (.string s)
  rawPayload_iff : record.payload.isSome = true →
    ((fields.lookup "rawPayload").isSome = true ↔
      ∃ fault, ChatEvent.ofPayload? record.payload = .error fault ∧ fault.BeforeFields)

variable {record : Record} {failureClass : FailureClass} {reason : Reason} {detail : String}
  {attempts : Nat} {failedAt : Timestamp}

/-! ### What is kept -/

/-- The fields that come from the payload. -/
def keptFields (payload : Option Bytes) : List (String × Json) :=
  (keep payload).1 ++ (keep payload).2.toList.map fun s => ("rawPayload", .string s)

theorem fields_ofRecord :
    (ofRecord record failureClass reason detail attempts failedAt).fields =
      keptFields record.payload ++
        (ofRecord record failureClass reason detail attempts failedAt).routerFields := rfl

theorem keptFields_of_writes {bytes : Bytes} {original : List (String × Json)}
    (writes : Json.Writes bytes original) :
    keptFields (some bytes) = (Json.Members.ofList original).without reservedKeys := by
  have object := Json.read_eq_object_iff.2 ⟨original, writes, rfl⟩
  simp only [keptFields, keep, object, Option.toList_none, List.map_nil, List.append_nil]

theorem keptFields_of_not_writes {bytes : Bytes} (other : ∀ original, ¬Json.Writes bytes original) :
    keptFields (some bytes) = [("rawPayload", .string (Utf8.decodeLossy bytes))] := by
  have kept : keep (some bytes) = ([], some (Utf8.decodeLossy bytes)) := by
    unfold keep
    dsimp only
    split
    · next members read =>
      obtain ⟨original, writes, -⟩ := Json.read_eq_object_iff.1 read
      exact absurd writes (other original)
    · rfl
  simp only [keptFields, kept]
  rfl

/-- **Three kinds of payloads**: none, an object, and any other. -/
theorem keptFields_cases (payload : Option Bytes) :
    payload = none ∧ keptFields payload = [] ∨
      (∃ bytes original, payload = some bytes ∧ Json.Writes bytes original ∧
        keptFields payload = (Json.Members.ofList original).without reservedKeys) ∨
      ∃ bytes, payload = some bytes ∧ (∀ original, ¬Json.Writes bytes original) ∧
        keptFields payload = [("rawPayload", .string (Utf8.decodeLossy bytes))] := by
  cases payload with
  | none => exact .inl ⟨rfl, rfl⟩
  | some bytes =>
    by_cases object : ∃ original, Json.Writes bytes original
    · obtain ⟨original, writes⟩ := object
      exact .inr (.inl ⟨bytes, original, rfl, writes, keptFields_of_writes writes⟩)
    · have other := not_exists.1 object
      exact .inr (.inr ⟨bytes, rfl, other, keptFields_of_not_writes other⟩)

/-- A kept field is under none of the router's keys. -/
theorem not_mem_routerKeys_of_kept {payload : Option Bytes} {m : String × Json}
    (kept : m ∈ keptFields payload) : m.1 ∉ routerKeys := by
  rcases keptFields_cases payload with ⟨-, eq⟩ | ⟨_, _, -, -, eq⟩ | ⟨_, -, -, eq⟩
  · rw [eq] at kept
    cases kept
  · rw [eq, Json.Members.mem_without] at kept
    have reserved : ∀ key ∈ routerKeys, key ∈ reservedKeys := by decide
    exact fun router => kept.2 (reserved _ router)
  · rw [eq] at kept
    rw [List.mem_singleton.1 kept]
    change "rawPayload" ∉ routerKeys
    decide

/-- The kept fields have different keys. -/
theorem nodup_keptFields (payload : Option Bytes) : ((keptFields payload).map (·.1)).Nodup := by
  rcases keptFields_cases payload with ⟨-, eq⟩ | ⟨_, original, -, -, eq⟩ | ⟨_, -, -, eq⟩
  · rw [eq]
    exact List.nodup_nil
  · rw [eq]
    exact ((Json.Members.ordered_ofList original).without reservedKeys).nodup_keys
  · rw [eq]
    exact List.nodup_singleton _

/-- **What is kept fits** the depth below the letter. -/
theorem fits_of_kept {payload : Option Bytes} {m : String × Json} (kept : m ∈ keptFields payload) :
    Json.Fits (Json.depthLimit - 1) m.2 := by
  rcases keptFields_cases payload with ⟨-, eq⟩ | ⟨_, _, -, writes, eq⟩ | ⟨_, -, -, eq⟩
  · rw [eq] at kept
    cases kept
  · rw [eq, Json.Members.mem_without] at kept
    exact writes.fits m (Json.Members.mem_of_mem_ofList kept.1)
  · rw [eq] at kept
    rw [List.mem_singleton.1 kept]
    exact .string _ _

/-! ### Look-ups -/

theorem lookup_eq_none {fields : List (String × Json)} {key : String}
    (absent : key ∉ fields.map (·.1)) : fields.lookup key = none := by
  rw [List.lookup_eq_none_iff]
  intro m mem
  rw [bne_iff_ne]
  rintro rfl
  exact absent (List.mem_map_of_mem mem)

theorem lookup_keptFields_of_router {payload : Option Bytes} {key : String}
    (router : key ∈ routerKeys) : (keptFields payload).lookup key = none := by
  refine lookup_eq_none fun mem => ?_
  obtain ⟨m, kept, rfl⟩ := List.mem_map.1 mem
  exact not_mem_routerKeys_of_kept kept router

/-- Under a key that is not reserved the last field of the payload is kept. -/
theorem lookup_keptFields_of_writes {bytes : Bytes} {original : List (String × Json)}
    (writes : Json.Writes bytes original) (key : String) :
    (keptFields (some bytes)).lookup key =
      if key ∈ reservedKeys then none else original.reverse.lookup key := by
  rw [keptFields_of_writes writes, ← Json.Members.find?_ofList]
  exact Json.Members.find?_without (Json.Members.ofList original) reservedKeys key

theorem keys_routerFields (letter : Letter) : letter.routerFields.map (·.1) = routerKeys := rfl

/-- **Under a router's key** stands what the router says. -/
theorem lookup_fields_of_router {key : String} (router : key ∈ routerKeys) :
    (ofRecord record failureClass reason detail attempts failedAt).fields.lookup key =
      (ofRecord record failureClass reason detail attempts failedAt).routerFields.lookup key := by
  rw [fields_ofRecord, List.lookup_append, lookup_keptFields_of_router router, Option.none_or]

/-- **Under any other key** stands what is kept of the payload. -/
theorem lookup_fields_of_not_router {key : String} (other : key ∉ routerKeys) :
    (ofRecord record failureClass reason detail attempts failedAt).fields.lookup key =
      (keptFields record.payload).lookup key := by
  have none := lookup_eq_none (by rwa [keys_routerFields] : key ∉
    (ofRecord record failureClass reason detail attempts failedAt).routerFields.map (·.1))
  rw [fields_ofRecord, List.lookup_append, none, Option.or_none]

/-! ### Rejected payloads -/

/-- A sequence of looks at fields finds no earlier fault. -/
theorem not_beforeFields_of_bind {α β : Type} {look : Except PayloadFault α}
    {next : α → Except PayloadFault β}
    (first : ∀ fault, look = .error fault → ¬fault.BeforeFields)
    (others : ∀ a fault, next a = .error fault → ¬fault.BeforeFields) (fault : PayloadFault)
    (fails : look >>= next = .error fault) : ¬fault.BeforeFields := by
  rcases bind_eq_error_iff.1 fails with fails | ⟨a, -, fails⟩
  · exact first fault fails
  · exact others a fault fails

theorem not_beforeFields_of_textMember {members : Json.Members} {key : String}
    (fault : PayloadFault) (fails : ChatEvent.textMember members key = .error fault) :
    ¬fault.BeforeFields := by
  unfold ChatEvent.textMember at fails
  split at fails
  · cases fails
  · cases fails
  · cases fails
  · cases fails
    exact id

theorem not_beforeFields_of_instant {raw : Option String} (fault : PayloadFault)
    (fails : ChatEvent.instant raw = .error fault) : ¬fault.BeforeFields := by
  unfold ChatEvent.instant at fails
  split at fails
  · cases fails
  · split at fails
    · cases fails
      exact id
    · cases fails

/-- A fault of a member is found by looking at it. -/
theorem not_beforeFields_of_ofMembers? {members : Json.Members} (fault : PayloadFault)
    (fails : ChatEvent.ofMembers? members = .error fault) : ¬fault.BeforeFields := by
  have text := @not_beforeFields_of_textMember members
  -- one look after the other, in the order of the program: nine texts, an instant, and a text
  revert fault
  refine not_beforeFields_of_bind text fun _ => not_beforeFields_of_bind text fun _ =>
    not_beforeFields_of_bind text fun _ => not_beforeFields_of_bind text fun _ =>
    not_beforeFields_of_bind text fun _ => not_beforeFields_of_bind text fun _ =>
    not_beforeFields_of_bind text fun _ => not_beforeFields_of_bind text fun _ =>
    not_beforeFields_of_bind text fun _ =>
    not_beforeFields_of_bind not_beforeFields_of_instant fun _ =>
    not_beforeFields_of_bind text fun _ fault fails => ?_
  cases fails

/-- **A payload is rejected before its fields** are looked at just if it is no object. -/
theorem exists_beforeFields_iff (bytes : Bytes) :
    (∃ fault, ChatEvent.ofPayload? (some bytes) = .error fault ∧ fault.BeforeFields) ↔
      ∀ original, ¬Json.Writes bytes original := by
  constructor
  · rintro ⟨fault, fails, before⟩ original writes
    have object := Json.read_eq_object_iff.2 ⟨original, writes, rfl⟩
    rw [ChatEvent.ofPayload?_of_object (Json.ofBytes?_eq_ok_iff.2 object)] at fails
    exact not_beforeFields_of_ofMembers? fault fails before
  · intro other
    unfold ChatEvent.ofPayload?
    dsimp only
    split
    · exact ⟨_, rfl, trivial⟩
    split
    · exact ⟨_, rfl, trivial⟩
    · next members parses =>
      have read := Json.ofBytes?_eq_ok_iff.1 parses
      obtain ⟨original, writes, -⟩ := Json.read_eq_object_iff.1 read
      exact absurd writes (other original)
    · exact ⟨_, rfl, trivial⟩

/-! ### The text of a letter -/

/-- **The fields of a letter are as they have to be.** -/
theorem holds_ofRecord (record : Record) (failureClass : FailureClass) (reason : Reason)
    (detail : String) (attempts : Nat) (failedAt : Timestamp) :
    Holds record failureClass reason detail attempts failedAt
      (ofRecord record failureClass reason detail attempts failedAt).fields where
  distinct := by
    rw [fields_ofRecord, List.map_append, List.nodup_append]
    refine ⟨nodup_keptFields _, by rw [keys_routerFields]; decide, fun key kept other router => ?_⟩
    rintro rfl
    obtain ⟨m, mem, rfl⟩ := List.mem_map.1 kept
    exact not_mem_routerKeys_of_kept mem router
  originTopic := lookup_fields_of_router (by decide)
  originPartition := lookup_fields_of_router (by decide)
  originOffset := lookup_fields_of_router (by decide)
  failureClass := by
    rw [lookup_fields_of_router (by decide)]
    cases failureClass with
    | recoverable | nonRecoverable => rfl
  failureReason := by
    rw [lookup_fields_of_router (by decide)]
    cases reason <;> rfl
  failureDetail := lookup_fields_of_router (by decide)
  attemptCount := lookup_fields_of_router (by decide)
  instant := Timestamp.ofText?_text
  failedAt := lookup_fields_of_router (by decide)
  ofTombstone none key other := by
    rw [lookup_fields_of_not_router other, none]
    rfl
  ofObject bytes original payload writes key other := by
    -- of the reserved keys only `rawPayload` is not the router's
    have reserved : key ∈ reservedKeys ↔ key = "rawPayload" := by
      have split : reservedKeys = routerKeys ++ ["rawPayload"] := rfl
      rw [split, List.mem_append, List.mem_singleton, or_iff_right other]
    rw [lookup_fields_of_not_router other, payload, lookup_keptFields_of_writes writes]
    simp only [reserved]
  ofOther bytes payload none key other := by
    rw [lookup_fields_of_not_router other, payload, keptFields_of_not_writes none]
    by_cases raw : key = "rawPayload"
    · rw [raw]
      rfl
    · rw [if_neg raw, List.lookup_cons, beq_eq_false_iff_ne.2 raw]
      rfl
  rawPayload_of_text s payload none := by
    rw [lookup_fields_of_not_router (by decide), payload, keptFields_of_not_writes none,
      Utf8.decodeLossy_encode]
    rfl
  rawPayload_iff some := by
    obtain ⟨bytes, payload⟩ := Option.isSome_iff_exists.1 some
    rw [lookup_fields_of_not_router (by decide), payload, exists_beforeFields_iff]
    constructor
    · intro kept original writes
      rw [lookup_keptFields_of_writes writes, if_pos (by decide)] at kept
      cases kept
    · intro other
      rw [keptFields_of_not_writes other]
      rfl

/-- **The fields of a letter fit** the depth below it. -/
theorem fits_of_mem_fields (partition : -2 ^ 31 ≤ record.partition ∧ record.partition < 2 ^ 31)
    (offset : -2 ^ 63 ≤ record.offset ∧ record.offset < 2 ^ 63) (few : attempts < 2 ^ 32)
    {m : String × Json}
    (mem : m ∈ (ofRecord record failureClass reason detail attempts failedAt).fields) :
    Json.Fits (Json.depthLimit - 1) m.2 := by
  rw [fields_ofRecord, List.mem_append] at mem
  rcases mem with kept | own
  · exact fits_of_kept kept
  · have whole : ∀ {n : Int}, -2 ^ 63 ≤ n ∧ n < 2 ^ 64 →
        Json.Fits (Json.depthLimit - 1) (.ofInt n) := fun within => .number _ within
    have each : (ofRecord record failureClass reason detail attempts failedAt).routerFields =
        [("originTopic", .string record.topic), ("originPartition", .ofInt record.partition),
          ("originOffset", .ofInt record.offset), ("failureClass", .string failureClass.code),
          ("failureReason", .string reason.code), ("failureDetail", .string detail),
          ("attemptCount", .ofInt attempts), ("failedAt", .string failedAt.text)] := rfl
    rw [each] at own
    revert m
    simp only [List.forall_mem_cons]
    exact ⟨.string _ _, whole (by omega), whole (by omega), .string _ _, .string _ _, .string _ _,
      whole (by omega), .string _ _, List.forall_mem_nil _⟩

/-- **A letter can be neither forged nor ambiguous**, and loses nothing but the reserved keys: its
text is that of one object with the fields as they have to be. It reads as these fields, where the
digits of a float are the float itself to an exact reader, and come to what they are read as to that
of JSON. -/
theorem text_is_genuine (record : Record) (failureClass : FailureClass) (reason : Reason)
    (detail : String) (attempts : Nat) (failedAt : Timestamp)
    (partition : -2 ^ 31 ≤ record.partition ∧ record.partition < 2 ^ 31)
    (offset : -2 ^ 63 ≤ record.offset ∧ record.offset < 2 ^ 63) (few : attempts < 2 ^ 32) :
    ∃ fields,
      (ofRecord record failureClass reason detail attempts failedAt).text =
        (Json.object fields).compact ∧
      Json.Writes
        (Utf8.encode (ofRecord record failureClass reason detail attempts failedAt).text)
        (fields.map fun m => (m.1, m.2.mapFloats Json.reread)) ∧
      (∀ m ∈ fields, ∀ x ∈ m.2.floats, Binary64.ofText? (Json.Number.float x).text = some x) ∧
      Holds record failureClass reason detail attempts failedAt fields := by
  have fits := @fits_of_mem_fields record failureClass reason detail attempts failedAt
    partition offset few
  exact ⟨_, rfl, Json.writes_compact fun _ mem => fits mem,
    fun _ mem x own => Json.ofText?_text ((fits mem).numeric x own),
    holds_ofRecord record failureClass reason detail attempts failedAt⟩

/-- **A payload with keys of the router**, one of them escaped, and with a key twice. -/
def forgedPayload : Bytes :=
  Utf8.encode "\x7b\"originTopic\":\"elsewhere\",\"\\u0072awPayload\":\"\",\"a\":1,\"a\":[2.5]\x7d"

theorem text_of_forged_payload :
    ∃ (record : Record) (fields : List (String × Json)), record.payload = some forgedPayload ∧
      Json.Writes
        (Utf8.encode (ofRecord record .nonRecoverable .missingField "no eventId" 1 .epoch).text)
        (fields.map fun m => (m.1, m.2.mapFloats Json.reread)) ∧
      fields.lookup "originTopic" = some (.string "chat-messages") ∧
      fields.lookup "failureReason" = some (.string "missing_field") ∧
      fields.lookup "failedAt" = some (.string "1970-01-01T00:00:00Z") ∧
      fields.lookup "rawPayload" = none ∧
      (fields.lookup "a").map Json.compact = some "[2.5]" := by
  let record : Record := ⟨"chat-messages", 2, 41, none, some forgedPayload, 1⟩
  obtain ⟨fields, -, writes, -, holds⟩ := text_is_genuine record .nonRecoverable .missingField
    "no eventId" 1 .epoch (by decide) (by decide) (by decide)
  have reads : (match Json.members (Json.value (Json.depthLimit - 1)) (forgedPayload.drop 1) with
      | .ok (original, after) => (original.reverse.lookup "a").map Json.compact == some "[2.5]" &&
          (Json.skipSpace after).isEmpty
      | .error _ => false) = true := by decide +kernel
  have opens : Json.skipSpace forgedPayload = 0x7b :: forgedPayload.drop 1 := by decide +kernel
  cases eq : Json.members (Json.value (Json.depthLimit - 1)) (forgedPayload.drop 1) with
  | error =>
    rw [eq] at reads
    cases reads
  | ok result =>
    obtain ⟨original, after⟩ := result
    rw [eq] at reads
    simp only [Bool.and_eq_true, beq_iff_eq, List.isEmpty_iff] at reads
    have ofObject := holds.ofObject forgedPayload original rfl ⟨_, after, opens, eq, reads.2⟩
    have epoch : Timestamp.epoch.text = "1970-01-01T00:00:00Z" := by decide +kernel
    refine ⟨record, fields, rfl, writes, holds.originTopic, holds.failureReason,
      epoch ▸ holds.failedAt, ofObject "rawPayload" (by decide), ?_⟩
    rw [ofObject "a" (by decide)]
    exact reads.1

end Letter

end MessageIntake
