import Mathlib.Data.List.Sort
import Rigor.IsoDates
import Rigor.PracticeStore
import Rigor.PyEqual
import Rigor.PyJsonRoundTrip

/-!
# Events of the execution queue

What the API writes into the outbox, what the publisher sends of it, and what
`parse_execution_queue_event` reads. The event of an execution goes through
`jsonb` and `json.dumps` and comes back as it was, unless its trace id, a
header of the candidate's request, is empty or too long
(`readEvent_body`).
-/

namespace Rigor

open Py

variable {F : Type}

/-! ## Texts -/

def isHexDigit (c : Nat) : Bool := isDigit c || (97 ≤ c && c ≤ 102)

/-- `str(uuid)`. -/
def isUuidText (s : Str) : Bool :=
  s.length == 36 && s.zipIdx.all fun (c, i) =>
    if i = 8 ∨ i = 13 ∨ i = 18 ∨ i = 23 then c == 45 else isHexDigit c

/-- A `datetime` has a year from 1 to 9999. -/
def IsDatetime (t : Time) : Prop := -62135596800000000 ≤ t ∧ t < 253402300800000000

instance (t : Time) : Decidable (IsDatetime t) := inferInstanceAs (Decidable (_ ∧ _))

def microsecondsText (n : Nat) : Str := if n = 0 then [] else 46 :: IsoDates.digits 6 n

def timeText (n : Nat) : Str :=
  IsoDates.digits 2 (n / 3600000000) ++ 58 :: IsoDates.digits 2 (n / 60000000 % 60)
    ++ 58 :: IsoDates.digits 2 (n / 1000000 % 60) ++ microsecondsText (n % 1000000)

/-- `isoformat` of a `datetime` in UTC. -/
def isoformat (t : Time) : Str :=
  IsoDates.dayText (t / 86400000000)
    ++ 84 :: (timeText (t % 86400000000).toNat ++ Str.ofString "+00:00")

/-! ## Events -/

structure ExecutionRequestedEvent where
  executionId : Uuid
  attempt : Int
  requestedAt : Time
  traceId : Str
  attempt_ok : 1 ≤ attempt
  trace_ok : 1 ≤ traceId.length ∧ traceId.length ≤ 160
  deriving DecidableEq

structure ExecutionCancelRequestedEvent where
  executionId : Uuid
  requestedAt : Time
  traceId : Str
  trace_ok : 1 ≤ traceId.length ∧ traceId.length ≤ 160
  deriving DecidableEq

inductive ExecutionQueueEvent where
  | requested (event : ExecutionRequestedEvent)
  | cancelRequested (event : ExecutionCancelRequestedEvent)
  deriving DecidableEq

def ExecutionQueueEvent.executionId : ExecutionQueueEvent → Uuid
  | .requested event => event.executionId
  | .cancelRequested event => event.executionId

def ExecutionQueueEvent.eventType : ExecutionQueueEvent → Str
  | .requested _ => "execution.requested"
  | .cancelRequested _ => "execution.cancel_requested"

/-- What pydantic reads a value as, for a field of each type. -/
structure FieldReaders (F : Type) where
  isOne : Json F → Bool
  uuid : Json F → Option Uuid
  int : Json F → Option Int
  datetime : Json F → Option Time
  isOne_one : isOne (.int 1) = true
  uuid_text : ∀ id, isUuidText id = true → uuid (.str id) = some id
  int_int : ∀ n, int (.int n) = some n
  datetime_isoformat : ∀ t, IsDatetime t → datetime (.str (isoformat t)) = some t

namespace FieldReaders

variable (readers : FieldReaders F)

/-- A `str` with `min_length=1, max_length=160`. -/
def traceId : Json F → Option { s : Str // 1 ≤ s.length ∧ s.length ≤ 160 }
  | .str s =>
      if h : 1 ≤ s.length ∧ s.length ≤ 160 then if isEncodable s then some ⟨s, h⟩ else none
      else none
  | _ => none

/-- An `int` with `ge=1`. -/
def attempt (v : Json F) : Option { n : Int // 1 ≤ n } :=
  match readers.int v with
  | none => none
  | some n => if h : 1 ≤ n then some ⟨n, h⟩ else none

/-- A required field. -/
def field {α : Type} (key : Str) (read : Json F → Option α) (record : Dict F) : Option α :=
  (Json.lookup key record).bind read

def literal (text : Str) (v : Json F) : Option Unit := if v.eqStr text then some () else none

def one (v : Json F) : Option Unit := if readers.isOne v then some () else none

end FieldReaders

def requestedFields : List Str :=
  ["schema_version", "event_type", "execution_id", "attempt", "requested_at", "trace_id"]

def cancelRequestedFields : List Str :=
  ["schema_version", "event_type", "execution_id", "requested_at", "trace_id"]

/-- `extra="forbid"`. -/
def hasOnly (fields : List Str) (record : Dict F) : Bool :=
  record.all fun kv => fields.contains kv.1

/-- `ExecutionRequestedEvent.model_validate`. -/
def validateRequested (readers : FieldReaders F) (record : Dict F) :
    Option ExecutionRequestedEvent :=
  if hasOnly requestedFields record then do
    FieldReaders.field "schema_version" readers.one record
    FieldReaders.field "event_type" (FieldReaders.literal "execution.requested") record
    let executionId ← FieldReaders.field "execution_id" readers.uuid record
    let attempt ← FieldReaders.field "attempt" readers.attempt record
    let requestedAt ← FieldReaders.field "requested_at" readers.datetime record
    let traceId ← FieldReaders.field "trace_id" FieldReaders.traceId record
    some ⟨executionId, attempt.1, requestedAt, traceId.1, attempt.2, traceId.2⟩
  else none

/-- `ExecutionCancelRequestedEvent.model_validate`. -/
def validateCancelRequested (readers : FieldReaders F) (record : Dict F) :
    Option ExecutionCancelRequestedEvent :=
  if hasOnly cancelRequestedFields record then do
    FieldReaders.field "schema_version" readers.one record
    FieldReaders.field "event_type" (FieldReaders.literal "execution.cancel_requested") record
    let executionId ← FieldReaders.field "execution_id" readers.uuid record
    let requestedAt ← FieldReaders.field "requested_at" readers.datetime record
    let traceId ← FieldReaders.field "trace_id" FieldReaders.traceId record
    some ⟨executionId, requestedAt, traceId.1, traceId.2⟩
  else none

/-- What reading a body raises; a `ValidationError` is a `ValueError` as well. -/
inductive EventError where
  | decode
  | value
  | validation
  | recursion
  deriving DecidableEq

/-- The name of the class, for an exception that is caught. -/
def EventError.className : EventError → Option Str
  | .decode => some "JSONDecodeError"
  | .value => some "ValueError"
  | .validation => some "ValidationError"
  | .recursion => none

/-- `parse_execution_queue_event`. -/
def parseExecutionQueueEvent (readers : FieldReaders F) :
    Json F → Except EventError ExecutionQueueEvent
  | .obj record =>
      let eventType := Json.get "event_type" record
      if eventType.eqStr "execution.requested" then
        match validateRequested readers record with
        | none => .error .validation
        | some event => .ok (.requested event)
      else if eventType.eqStr "execution.cancel_requested" then
        match validateCancelRequested readers record with
        | none => .error .validation
        | some event => .ok (.cancelRequested event)
      else .error .value
  | _ => .error .value

def EventError.ofLoad : LoadError → EventError
  | .decode => .decode
  | .intDigits => .value
  | .recursion => .recursion

/-- `parse_execution_queue_event(json.loads(body))`. -/
def readEvent [Runtime F] (readers : FieldReaders F) (body : Str) :
    Except EventError ExecutionQueueEvent :=
  match loads (F := F) body with
  | .error e => .error (.ofLoad e)
  | .ok v => parseExecutionQueueEvent readers v

/-! ## Payloads -/

/-- `execution_requested_event`. -/
def executionRequestedEvent (executionId : Uuid) (requestedAt : Time) (traceId : Str)
    (attempt : Int) : Dict F :=
  [("schema_version", .int 1), ("event_type", .str "execution.requested"),
    ("execution_id", .str executionId), ("attempt", .int attempt),
    ("requested_at", .str (isoformat requestedAt)), ("trace_id", .str traceId)]

/-- The payload that `cancel` writes. -/
def executionCancelRequestedEvent (executionId : Uuid) (requestedAt : Time) (traceId : Str) :
    Dict F :=
  [("schema_version", .int 1), ("event_type", .str "execution.cancel_requested"),
    ("execution_id", .str executionId), ("requested_at", .str (isoformat requestedAt)),
    ("trace_id", .str traceId)]

/-- The payload of the outbox row. -/
def OutboxMessage.payload (m : OutboxMessage) : Dict F :=
  if m.eventType = "execution.requested" then
    executionRequestedEvent m.aggregateId m.createdAt m.traceId 1
  else executionCancelRequestedEvent m.aggregateId m.createdAt m.traceId

/-- The order in which `jsonb` keeps the keys of an object. -/
def jsonbBefore (k k' : Str × Json F) : Prop :=
  utf8Len k.1 < utf8Len k'.1 ∨ (utf8Len k.1 = utf8Len k'.1 ∧ k.1 ≤ k'.1)

instance (k k' : Str × Json F) : Decidable (jsonbBefore k k') :=
  inferInstanceAs (Decidable (_ ∨ _))

/-- An object with texts and integers, read back from a `jsonb` column. -/
def jsonbObject (kvs : Dict F) : Dict F := kvs.insertionSort jsonbBefore

/-- What `SqsExecutionQueuePublisher.publish` sends. -/
def OutboxMessage.body (F : Type) [Runtime F] (m : OutboxMessage) : Str :=
  Json.encode (.obj (jsonbObject (m.payload : Dict F)))

/-! ## Reading a payload back -/

/-- Room for a version number in an object. -/
structure RuntimeFits (F : Type) [Runtime F] : Prop where
  digits : 1 ≤ Runtime.maxStrDigits F
  nesting : 1 ≤ Runtime.recursionLimit F

theorem jsonbObject_perm (kvs : Dict F) : (jsonbObject kvs).Perm kvs := List.perm_insertionSort ..

theorem lookup_jsonbObject {kvs : Dict F} (h : (kvs.map Prod.fst).Nodup) (key : Str) :
    Json.lookup key (jsonbObject kvs) = Json.lookup key kvs :=
  Json.lookup_perm h (jsonbObject_perm kvs) key

theorem hasOnly_jsonbObject (fields : List Str) (kvs : Dict F) :
    hasOnly fields (jsonbObject kvs) = hasOnly fields kvs := by
  unfold hasOnly
  exact (jsonbObject_perm kvs).all_eq

/-- An object of texts and short integers. -/
def Flat (kvs : Dict F) : Prop :=
  ∀ kv ∈ kvs, (∃ s, kv.2 = .str s) ∨ kv.2 = .int 1

theorem Flat.perm {kvs kvs' : Dict F} (h : Flat kvs) (hperm : kvs'.Perm kvs) : Flat kvs' :=
  fun kv hkv => h kv (hperm.mem_iff.mp hkv)

theorem Flat.members [Runtime F] (hfits : RuntimeFits F) {kvs : Dict F} (h : Flat kvs) :
    Json.DigitsFitMembers kvs ∧ Json.depthMembers kvs = 0 ∧ Json.DistinctKeysMembers kvs := by
  induction kvs with
  | nil => exact ⟨trivial, rfl, trivial⟩
  | cons kv rest ih =>
      obtain ⟨hkv, hrest⟩ := List.forall_mem_cons.mp h
      obtain ⟨hdigits, hdepth, hkeys⟩ := ih hrest
      obtain ⟨key, v⟩ := kv
      rcases hkv with ⟨s, rfl⟩ | rfl
      · exact ⟨⟨trivial, hdigits⟩, by rw [Json.depthMembers, hdepth]; rfl, trivial, hkeys⟩
      · have hone : digitCount 1 ≤ Runtime.maxStrDigits F := hfits.digits
        exact ⟨⟨hone, hdigits⟩, by rw [Json.depthMembers, hdepth]; rfl, trivial,
          hkeys⟩

theorem loads_flat [Runtime F] (hfits : RuntimeFits F) {kvs : Dict F} (h : Flat kvs)
    (hkeys : (kvs.map Prod.fst).Nodup) :
    loads (F := F) (Json.encode (.obj kvs)) = .ok (.obj kvs) := by
  obtain ⟨hdigits, hdepth, hdistinct⟩ := h.members hfits
  refine Json.loads_encode_of_distinct ⟨hdigits, ?_⟩ ⟨hkeys, hdistinct⟩
  rw [Json.depth, hdepth]
  exact hfits.nesting

theorem requested_keys (executionId : Uuid) (requestedAt : Time) (traceId : Str) (attempt : Int) :
    (executionRequestedEvent executionId requestedAt traceId attempt : Dict F).map Prod.fst
      = requestedFields := rfl

theorem cancelRequested_keys (executionId : Uuid) (requestedAt : Time) (traceId : Str) :
    (executionCancelRequestedEvent executionId requestedAt traceId : Dict F).map Prod.fst
      = cancelRequestedFields := rfl

theorem requestedFields_nodup : requestedFields.Nodup := by decide

theorem cancelRequestedFields_nodup : cancelRequestedFields.Nodup := by decide

theorem hasOnly_of_keys {fields : List Str} {kvs : Dict F} (h : kvs.map Prod.fst = fields) :
    hasOnly fields kvs = true := by
  refine List.all_eq_true.mpr fun kv hkv => List.contains_iff_mem.mpr ?_
  rw [← h]
  exact List.mem_map_of_mem hkv

theorem flat_requested (executionId : Uuid) (requestedAt : Time) (traceId : Str) :
    Flat (executionRequestedEvent executionId requestedAt traceId 1 : Dict F) := by
  intro kv hkv
  simp only [executionRequestedEvent, List.mem_cons, List.not_mem_nil, or_false] at hkv
  rcases hkv with rfl | rfl | rfl | rfl | rfl | rfl
  · exact .inr rfl
  · exact .inl ⟨_, rfl⟩
  · exact .inl ⟨_, rfl⟩
  · exact .inr rfl
  · exact .inl ⟨_, rfl⟩
  · exact .inl ⟨_, rfl⟩

theorem flat_cancelRequested (executionId : Uuid) (requestedAt : Time) (traceId : Str) :
    Flat (executionCancelRequestedEvent executionId requestedAt traceId : Dict F) := by
  intro kv hkv
  simp only [executionCancelRequestedEvent, List.mem_cons, List.not_mem_nil, or_false] at hkv
  rcases hkv with rfl | rfl | rfl | rfl | rfl
  · exact .inr rfl
  · exact .inl ⟨_, rfl⟩
  · exact .inl ⟨_, rfl⟩
  · exact .inl ⟨_, rfl⟩
  · exact .inl ⟨_, rfl⟩

/-- A trace id that pydantic accepts. -/
structure AcceptedTraceId (s : Str) : Prop where
  length : 1 ≤ s.length ∧ s.length ≤ 160
  encodable : isEncodable s = true

instance (s : Str) : Decidable (AcceptedTraceId s) :=
  decidable_of_iff ((1 ≤ s.length ∧ s.length ≤ 160) ∧ isEncodable s = true)
    ⟨fun h => ⟨h.1, h.2⟩, fun h => ⟨h.length, h.encodable⟩⟩

theorem traceId_of_accepted {s : Str} (h : AcceptedTraceId s) :
    FieldReaders.traceId (F := F) (.str s) = some ⟨s, h.length⟩ := by
  unfold FieldReaders.traceId
  dsimp only
  rw [dif_pos h.length, if_pos h.encodable]

theorem traceId_of_not_accepted {s : Str} (h : ¬AcceptedTraceId s) :
    FieldReaders.traceId (F := F) (.str s) = none := by
  unfold FieldReaders.traceId
  dsimp only
  split_ifs with hlength hencodable
  · exact absurd ⟨hlength, hencodable⟩ h
  · rfl
  · rfl

section

variable {readers : FieldReaders F} {record : Dict F} {executionId : Uuid} {requestedAt : Time}
  {traceId : Str}

theorem field_of_lookup {α : Type} {key : Str} {read : Json F → Option α} {v : Json F}
    (h : Json.lookup key record = some v) : FieldReaders.field key read record = read v := by
  rw [FieldReaders.field, h, Option.bind_some]

/-- A record with the members of the payload, in any order, is a valid event
if and only if its trace id is accepted. -/
theorem validateRequested_eq (honly : hasOnly requestedFields record = true)
    (hlookup : ∀ key, Json.lookup key record
      = Json.lookup key (executionRequestedEvent executionId requestedAt traceId 1))
    (hid : isUuidText executionId = true) (hat : IsDatetime requestedAt) :
    validateRequested readers record
      = if h : AcceptedTraceId traceId then
          some ⟨executionId, 1, requestedAt, traceId, Int.le_refl 1, h.length⟩
        else none := by
  have hversion : FieldReaders.field "schema_version" readers.one record = some () := by
    rw [field_of_lookup (hlookup _), FieldReaders.one, if_pos readers.isOne_one]
  have htype : FieldReaders.field "event_type" (FieldReaders.literal "execution.requested") record
      = some () := by
    rw [field_of_lookup (hlookup _), FieldReaders.literal, if_pos (by rw [Json.eqStr_iff])]
  have hexecution : FieldReaders.field "execution_id" readers.uuid record = some executionId := by
    rw [field_of_lookup (hlookup _), readers.uuid_text _ hid]
  have hattempt : FieldReaders.field "attempt" readers.attempt record
      = some ⟨1, Int.le_refl 1⟩ := by
    rw [field_of_lookup (hlookup _)]
    unfold FieldReaders.attempt
    rw [readers.int_int]
    rfl
  have hrequested : FieldReaders.field "requested_at" readers.datetime record
      = some requestedAt := by
    rw [field_of_lookup (hlookup _), readers.datetime_isoformat _ hat]
  have htrace : FieldReaders.field "trace_id" FieldReaders.traceId record
      = FieldReaders.traceId (.str traceId : Json F) := field_of_lookup (hlookup _)
  unfold validateRequested
  rw [if_pos honly, hversion, htype, hexecution, hattempt, hrequested, htrace]
  by_cases h : AcceptedTraceId traceId
  · rw [dif_pos h, traceId_of_accepted h]
    rfl
  · rw [dif_neg h, traceId_of_not_accepted h]
    rfl

theorem validateCancelRequested_eq (honly : hasOnly cancelRequestedFields record = true)
    (hlookup : ∀ key, Json.lookup key record
      = Json.lookup key (executionCancelRequestedEvent executionId requestedAt traceId))
    (hid : isUuidText executionId = true) (hat : IsDatetime requestedAt) :
    validateCancelRequested readers record
      = if h : AcceptedTraceId traceId then some ⟨executionId, requestedAt, traceId, h.length⟩
        else none := by
  have hversion : FieldReaders.field "schema_version" readers.one record = some () := by
    rw [field_of_lookup (hlookup _), FieldReaders.one, if_pos readers.isOne_one]
  have htype : FieldReaders.field "event_type"
      (FieldReaders.literal "execution.cancel_requested") record = some () := by
    rw [field_of_lookup (hlookup _), FieldReaders.literal, if_pos (by rw [Json.eqStr_iff])]
  have hexecution : FieldReaders.field "execution_id" readers.uuid record = some executionId := by
    rw [field_of_lookup (hlookup _), readers.uuid_text _ hid]
  have hrequested : FieldReaders.field "requested_at" readers.datetime record
      = some requestedAt := by
    rw [field_of_lookup (hlookup _), readers.datetime_isoformat _ hat]
  have htrace : FieldReaders.field "trace_id" FieldReaders.traceId record
      = FieldReaders.traceId (.str traceId : Json F) := field_of_lookup (hlookup _)
  unfold validateCancelRequested
  rw [if_pos honly, hversion, htype, hexecution, hrequested, htrace]
  by_cases h : AcceptedTraceId traceId
  · rw [dif_pos h, traceId_of_accepted h]
    rfl
  · rw [dif_neg h, traceId_of_not_accepted h]
    rfl

end

/-! ## Rows of the outbox -/

/-- A row that `create_queued` or `cancel` writes. -/
structure OutboxMessage.Written (m : OutboxMessage) : Prop where
  eventType : m.eventType = "execution.requested" ∨ m.eventType = "execution.cancel_requested"
  dedupeKey : m.dedupeKey = m.eventType ++ (":" ++ m.aggregateId : Str)
  aggregateId : isUuidText m.aggregateId = true
  createdAt : IsDatetime m.createdAt

/-- The event that the row stands for. -/
def OutboxMessage.event (m : OutboxMessage) : Option ExecutionQueueEvent :=
  if h : AcceptedTraceId m.traceId then
    if m.eventType = "execution.requested" then
      some (.requested ⟨m.aggregateId, 1, m.createdAt, m.traceId, Int.le_refl 1, h.length⟩)
    else some (.cancelRequested ⟨m.aggregateId, m.createdAt, m.traceId, h.length⟩)
  else none

theorem cancelRequested_ne_requested :
    Str.ofString "execution.cancel_requested" ≠ Str.ofString "execution.requested" := by decide

theorem OutboxMessage.event_executionId {m : OutboxMessage} {event : ExecutionQueueEvent}
    (h : m.event = some event) : event.executionId = m.aggregateId := by
  unfold OutboxMessage.event at h
  split_ifs at h
  · cases h
    rfl
  · cases h
    rfl

theorem OutboxMessage.event_isSome_iff {m : OutboxMessage} :
    m.event.isSome = true ↔ AcceptedTraceId m.traceId := by
  unfold OutboxMessage.event
  split_ifs with h
  · exact iff_of_true rfl h
  · exact iff_of_true rfl h
  · exact iff_of_false (by decide) h

section

variable {readers : FieldReaders F} {m : OutboxMessage}

theorem parse_requested {record : Dict F}
    (h : Json.lookup "event_type" record = some (.str "execution.requested")) :
    parseExecutionQueueEvent readers (.obj record)
      = ((validateRequested readers record).map ExecutionQueueEvent.requested).elim
          (.error .validation) .ok := by
  unfold parseExecutionQueueEvent
  dsimp only
  rw [Json.get, h, Option.getD_some, if_pos (by rw [Json.eqStr_iff])]
  cases validateRequested readers record with
  | none => rfl
  | some event => rfl

theorem parse_cancelRequested {record : Dict F}
    (h : Json.lookup "event_type" record = some (.str "execution.cancel_requested")) :
    parseExecutionQueueEvent readers (.obj record)
      = ((validateCancelRequested readers record).map ExecutionQueueEvent.cancelRequested).elim
          (.error .validation) .ok := by
  have hne : ¬(Json.str "execution.cancel_requested" : Json F).eqStr "execution.requested"
      = true := by
    rw [Json.eqStr_iff]
    intro heq
    exact cancelRequested_ne_requested (Json.str.inj heq)
  unfold parseExecutionQueueEvent
  dsimp only
  rw [Json.get, h, Option.getD_some, if_neg hne, if_pos (by rw [Json.eqStr_iff])]
  cases validateCancelRequested readers record with
  | none => rfl
  | some event => rfl

variable [Runtime F]

theorem readEvent_encode (hfits : RuntimeFits F) {kvs : Dict F} (hflat : Flat kvs)
    (hkeys : (kvs.map Prod.fst).Nodup) :
    readEvent readers (Json.encode (.obj (jsonbObject kvs)))
      = parseExecutionQueueEvent readers (.obj (jsonbObject kvs)) := by
  have hperm := jsonbObject_perm kvs
  have hkeys' : ((jsonbObject kvs).map Prod.fst).Nodup := (hperm.map Prod.fst).nodup_iff.mpr hkeys
  rw [readEvent, loads_flat hfits (hflat.perm hperm) hkeys']

/-- What the publisher sends for a row is read as the event of the row, and
as no event if pydantic rejects its trace id. -/
theorem readEvent_body (hfits : RuntimeFits F) (hm : m.Written) :
    readEvent readers (m.body F) = m.event.elim (.error .validation) .ok := by
  unfold OutboxMessage.body OutboxMessage.payload OutboxMessage.event
  rcases hm.eventType with htype | htype
  · have hkeys := requested_keys (F := F) m.aggregateId m.createdAt m.traceId 1
    have hnodup := hkeys ▸ requestedFields_nodup
    have hlookup := fun key => lookup_jsonbObject hnodup key
    rw [if_pos htype,
      readEvent_encode hfits (flat_requested m.aggregateId m.createdAt m.traceId) hnodup,
      parse_requested (hlookup _),
      validateRequested_eq ((hasOnly_jsonbObject ..).trans (hasOnly_of_keys hkeys)) hlookup
        hm.aggregateId hm.createdAt]
    by_cases h : AcceptedTraceId m.traceId
    · rw [dif_pos h, dif_pos h, if_pos htype]
      rfl
    · rw [dif_neg h, dif_neg h]
      rfl
  · have hne : m.eventType ≠ "execution.requested" := htype ▸ cancelRequested_ne_requested
    have hkeys := cancelRequested_keys (F := F) m.aggregateId m.createdAt m.traceId
    have hnodup := hkeys ▸ cancelRequestedFields_nodup
    have hlookup := fun key => lookup_jsonbObject hnodup key
    rw [if_neg hne,
      readEvent_encode hfits (flat_cancelRequested m.aggregateId m.createdAt m.traceId) hnodup,
      parse_cancelRequested (hlookup _),
      validateCancelRequested_eq ((hasOnly_jsonbObject ..).trans (hasOnly_of_keys hkeys)) hlookup
        hm.aggregateId hm.createdAt]
    by_cases h : AcceptedTraceId m.traceId
    · rw [dif_pos h, dif_pos h, if_neg hne]
      rfl
    · rw [dif_neg h, dif_neg h]
      rfl

end

/-! ## Readers of the texts written here -/

def readMicroseconds (s : Str) : Option (Nat × Str) :=
  match s with
  | 46 :: rest => IsoDates.readDigits 6 rest
  | _ => some (0, s)

/-- `fromisoformat`, on the texts that `isoformat` writes. -/
def readIsoformat (s : Str) : Option Time := do
  let (days, s) ← IsoDates.readDay s
  let s ← IsoDates.readMark 84 s
  let (hour, s) ← IsoDates.readDigits 2 s
  let s ← IsoDates.readMark 58 s
  let (minute, s) ← IsoDates.readDigits 2 s
  let s ← IsoDates.readMark 58 s
  let (second, s) ← IsoDates.readDigits 2 s
  let (microseconds, s) ← readMicroseconds s
  if s = Str.ofString "+00:00" then
    some (days * 86400000000
      + (hour * 3600000000 + minute * 60000000 + second * 1000000 + microseconds : Nat))
  else none

theorem readMicroseconds_text {n : Nat} (h : n < 1000000) :
    readMicroseconds (microsecondsText n ++ Str.ofString "+00:00")
      = some (n, Str.ofString "+00:00") := by
  unfold microsecondsText
  by_cases hzero : n = 0
  · rw [if_pos hzero, hzero]
    rfl
  · rw [if_neg hzero, List.cons_append]
    exact IsoDates.readDigits_digits 6 n h _

theorem readIsoformat_isoformat {t : Int} (h : IsDatetime t) :
    readIsoformat (isoformat t) = some t := by
  have hlow : -62135596800000000 ≤ t := h.1
  have hhigh : t < 253402300800000000 := h.2
  have hdays : (t / 86400000000).natAbs ≤ 100000000 := by omega
  have hday := fun rest => IsoDates.readDay_dayText hdays rest
  have hpos : 0 ≤ t % 86400000000 := Int.emod_nonneg _ (by omega)
  have hlt : t % 86400000000 < 86400000000 := Int.emod_lt_of_pos _ (by omega)
  set n := (t % 86400000000).toNat with hn
  have hhour := fun rest => IsoDates.readDigits_digits 2 (n / 3600000000) (by omega) rest
  have hminute := fun rest => IsoDates.readDigits_digits 2 (n / 60000000 % 60) (by omega) rest
  have hsecond := fun rest => IsoDates.readDigits_digits 2 (n / 1000000 % 60) (by omega) rest
  have hmicro := readMicroseconds_text (n := n % 1000000) (Nat.mod_lt _ (by omega))
  have hsum : n / 3600000000 * 3600000000 + n / 60000000 % 60 * 60000000
      + n / 1000000 % 60 * 1000000 + n % 1000000 = n := by omega
  have ht : t / 86400000000 * 86400000000 + (n : Int) = t := by omega
  unfold readIsoformat isoformat timeText
  rw [← hn]
  simp only [List.append_assoc, List.cons_append, hday, hhour, hminute, hsecond, hmicro,
    IsoDates.readMark_cons, Option.bind_eq_bind, Option.bind_some, if_true, hsum]
  exact congrArg some ht

/-- Readers that take what is written here, and nothing else. -/
def plainReaders : FieldReaders F where
  isOne
    | .int n => n == 1
    | _ => false
  uuid
    | .str s => if isUuidText s then some s else none
    | _ => none
  int
    | .int n => some n
    | _ => none
  datetime
    | .str s => readIsoformat s
    | _ => none
  isOne_one := rfl
  uuid_text _ h := if_pos h
  int_int _ := rfl
  datetime_isoformat _ h := readIsoformat_isoformat h

end Rigor
