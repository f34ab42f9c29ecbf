import Rigor.ExecutionClaims
import Rigor.SerialTransactions
import Rigor.Tables

/-!
# The log of a tutor session

`send_tutor_message`, `append_tutor_event` and `end_tutor_session`. A reply
and its message are stored under keys derived from the client's key, in the
key space of the events that a client appends. A reply that is answered is
stored exactly if that space was not used for something else
(`tutor_replies_stored`).
-/

namespace Rigor

open Py Transactions Runs

variable {F : Type}

/-! ## Tables -/

inductive TutorStatus where
  | active | ended
  deriving DecidableEq

/-- A row of `tutor_sessions`. -/
structure TutorSession where
  id : Uuid
  status : TutorStatus
  provider : Option Str
  model : Option Str
  summary : Option Str
  endedAt : Option Time
  updatedAt : Time

/-- A row of `tutor_events`. -/
structure TutorEvent (F : Type) where
  sessionId : Uuid
  eventType : Str
  idempotencyKey : Str
  payload : Dict F
  createdAt : Time

/-- The rows of one user. -/
structure TutorTables (F : Type) where
  sessions : List TutorSession
  events : List (TutorEvent F)

namespace TutorTables

def session (sessionId : Uuid) (db : TutorTables F) : Option TutorSession :=
  Tables.find TutorSession.id sessionId db.sessions

/-- The events of a session under a key. -/
def under (sessionId : Uuid) (key : Str) (db : TutorTables F) : List (TutorEvent F) :=
  db.events.filter fun e => e.sessionId = sessionId ∧ e.idempotencyKey = key

def eventsOf (sessionId : Uuid) (db : TutorTables F) : List (TutorEvent F) :=
  db.events.filter fun e => e.sessionId = sessionId

def updateSession (sessionId : Uuid) (f : TutorSession → TutorSession) (db : TutorTables F) :
    TutorTables F :=
  { db with sessions := Tables.update TutorSession.id sessionId f db.sessions }

/-- `INSERT … ON CONFLICT (session_id, idempotency_key)`, where a conflict
changes nothing. -/
def insertNew (e : TutorEvent F) (db : TutorTables F) : TutorTables F :=
  if db.under e.sessionId e.idempotencyKey = [] then { db with events := db.events ++ [e] } else db

end TutorTables

/-! ## The transactions -/

/-- `str` of a JSON value, and `TutorIntervention.model_validate`. -/
structure TutorReading (F : Type) where
  str : Json F → Str
  validate : Json F → Option (Json F)
  str_str : ∀ text, str (.str text) = text

structure TutorMessageResponse (F : Type) where
  sessionId : Uuid
  reply : Str
  provider : Str
  model : Str
  intervention : Json F

def messageUser : Str := "message.user"

def messageAssistant : Str := "message.assistant"

def userKey (idempotencyKey : Str) : Str := idempotencyKey ++ ":user"

def assistantKey (idempotencyKey : Str) : Str := idempotencyKey ++ ":assistant"

/-- `_existing_response`. -/
def existingResponse (reading : TutorReading F) (sessionId : Uuid) (key : Str)
    (db : TutorTables F) : Except Failure (Option (TutorMessageResponse F)) :=
  match (db.under sessionId key).find? fun e => e.eventType = messageAssistant with
  | none => .ok none
  | some e =>
      match Json.lookup "message" e.payload, Json.lookup "provider" e.payload, Json.lookup "model" e.payload,
          (Json.lookup "intervention" e.payload).bind reading.validate with
      | some message, some provider, some model, some intervention =>
          .ok (some ⟨sessionId, reading.str message, reading.str provider, reading.str model,
            intervention⟩)
      | _, _, _, _ => .error (.value "Stored tutor response is invalid")

/-- `_require_active_session`, and the status check of `_session_context`. -/
def requireActiveSession (sessionId : Uuid) (db : TutorTables F) : Except Failure Unit :=
  match db.session sessionId with
  | none => .error (.http 404 "Tutor session not found")
  | some s =>
      if s.status ≠ .active then .error (.http 409 "Tutor session has ended") else .ok ()

/-- What the provider answers, and the intervention that was decided. -/
structure TutorReply (F : Type) where
  text : Str
  provider : Str
  model : Str
  intervention : Json F

def assistantPayload (reply : TutorReply F) : Dict F :=
  [("message", .str reply.text), ("provider", .str reply.provider), ("model", .str reply.model),
    ("intervention", reply.intervention)]

/-- `send_tutor_message`. What the checks of the context raise and what the
provider answers are any: `outcome`. -/
def sendTutorMessageTx (reading : TutorReading F) (sessionId : Uuid) (message idempotencyKey : Str)
    (outcome : Except Failure (TutorReply F)) (clock : Clock) :
    Tx (TutorTables F) Failure (TutorMessageResponse F) := do
  match ← Tx.read (existingResponse reading sessionId (assistantKey idempotencyKey)) with
  | some existing => pure existing
  | none =>
      Tx.read (requireActiveSession sessionId)
      let reply ← Tx.ofExcept outcome
      Tx.write (TutorTables.insertNew ⟨sessionId, messageUser, userKey idempotencyKey,
        [("message", .str (strip message))], clock.database⟩)
      Tx.write (TutorTables.insertNew ⟨sessionId, messageAssistant, assistantKey idempotencyKey,
        assistantPayload reply, clock.database⟩)
      Tx.write (TutorTables.updateSession sessionId fun s =>
        { s with
          provider := some reply.provider
          model := some reply.model
          updatedAt := clock.database })
      pure ⟨sessionId, reply.text, reply.provider, reply.model, reply.intervention⟩

/-- What the requests answer: a reply, an event or a session. -/
inductive TutorAnswer (F : Type) where
  | reply (response : TutorMessageResponse F)
  | event (e : TutorEvent F)
  | session (s : TutorSession)

/-- `append_tutor_event`; `refusal` is what the checks of the payload raise. -/
def appendTutorEventTx (sessionId : Uuid) (eventType idempotencyKey : Str) (payload : Dict F)
    (refusal : Option Failure) (clock : Clock) : Tx (TutorTables F) Failure (TutorEvent F) :=
  match refusal with
  | some failure => .rollback failure
  | none => do
      Tx.read (requireActiveSession sessionId)
      Tx.write (TutorTables.insertNew ⟨sessionId, eventType, idempotencyKey, payload,
        clock.database⟩)
      let row ← Tx.read fun db =>
        match (db.under sessionId idempotencyKey).head? with
        | none => .error (.integrity "tutor_events")
        | some e => .ok e
      Tx.write (TutorTables.updateSession sessionId fun s => { s with updatedAt := clock.database })
      pure row

/-- `end_tutor_session`. -/
def endTutorSessionTx (sessionId : Uuid) (summary : Option Str) (clock : Clock) :
    Tx (TutorTables F) Failure TutorSession := do
  Tx.write (TutorTables.updateSession sessionId fun s =>
    if s.status = .active then
      { s with
        status := .ended
        summary := summary
        endedAt := some clock.database
        updatedAt := clock.database }
    else s)
  Tx.read fun db =>
    match db.session sessionId with
    | none => .error (.http 404 "Tutor session not found")
    | some s => .ok s

inductive TutorRequest (F : Type) where
  | send (user sessionId : Uuid) (message idempotencyKey : Str)
      (outcome : Except Failure (TutorReply F)) (clock : Clock)
  | append (user sessionId : Uuid) (eventType idempotencyKey : Str) (payload : Dict F)
      (refusal : Option Failure) (clock : Clock)
  | finish (user sessionId : Uuid) (summary : Option Str) (clock : Clock)

def TutorRequest.user : TutorRequest F → Uuid
  | send user .. => user
  | append user .. => user
  | finish user .. => user

def tutorProgram (reading : TutorReading F) :
    TutorRequest F → Tx (TutorTables F) Failure (TutorAnswer F)
  | .send _ sessionId message idempotencyKey outcome clock => do
      let response ← sendTutorMessageTx reading sessionId message idempotencyKey outcome clock
      pure (.reply response)
  | .append _ sessionId eventType idempotencyKey payload refusal clock => do
      let e ← appendTutorEventTx sessionId eventType idempotencyKey payload refusal clock
      pure (.event e)
  | .finish _ sessionId summary clock => do
      let s ← endTutorSessionTx sessionId summary clock
      pure (.session s)

/-! ## The log -/

/-- A reply is stored once, with one message. -/
def ReplyStored (reading : TutorReading F) (sessionId : Uuid) (idempotencyKey reply : Str)
    (db : TutorTables F) : Prop :=
  ∃ u a, db.under sessionId (userKey idempotencyKey) = [u] ∧ u.eventType = messageUser
    ∧ db.under sessionId (assistantKey idempotencyKey) = [a] ∧ a.eventType = messageAssistant
    ∧ (Json.lookup "message" a.payload).map reading.str = some reply

/-- The derived keys hold nothing but a message, and a reply with its
message. -/
structure KeysFit (sessionId : Uuid) (idempotencyKey : Str) (db : TutorTables F) : Prop where
  user : ∀ e ∈ db.under sessionId (userKey idempotencyKey), e.eventType = messageUser
  assistant : ∀ e ∈ db.under sessionId (assistantKey idempotencyKey),
    e.eventType = messageAssistant ∧ db.under sessionId (userKey idempotencyKey) ≠ []

/-- `uq_tutor_events_session_idempotency`. -/
def TutorTables.Unique (db : TutorTables F) : Prop :=
  ∀ sessionId key, (db.under sessionId key).length ≤ 1

theorem derived_ne (key : Str) : userKey key ≠ assistantKey key := by
  intro h
  have hsuffix : Str.ofString ":user" = Str.ofString ":assistant" := List.append_cancel_left h
  revert hsuffix
  decide

theorem under_insertNew (e : TutorEvent F) (db : TutorTables F) (sessionId : Uuid) (key : Str) :
    (TutorTables.insertNew e db).under sessionId key
      = if e.sessionId = sessionId ∧ e.idempotencyKey = key ∧ db.under sessionId key = [] then [e]
        else db.under sessionId key := by
  unfold TutorTables.insertNew
  by_cases hkey : e.sessionId = sessionId ∧ e.idempotencyKey = key
  · obtain ⟨rfl, rfl⟩ := hkey
    by_cases hnew : db.under e.sessionId e.idempotencyKey = []
    · rw [if_pos hnew, if_pos ⟨rfl, rfl, hnew⟩]
      unfold TutorTables.under at hnew ⊢
      rw [List.filter_append, hnew, List.nil_append]
      exact List.filter_eq_self.mpr fun e' he' => by rw [List.mem_singleton.mp he']; simp
    · rw [if_neg hnew, if_neg fun h => hnew h.2.2]
  · rw [if_neg fun h : e.sessionId = sessionId ∧ _ => hkey ⟨h.1, h.2.1⟩]
    split_ifs
    · unfold TutorTables.under
      rw [List.filter_append]
      have hnone : [e].filter (fun e => decide (e.sessionId = sessionId ∧ e.idempotencyKey = key))
          = [] := List.filter_eq_nil_iff.mpr fun e' he' => by
        rw [List.mem_singleton.mp he']
        simpa using hkey
      rw [hnone, List.append_nil]
    · rfl

theorem unique_insertNew (e : TutorEvent F) {db : TutorTables F} (h : db.Unique) :
    (TutorTables.insertNew e db).Unique := by
  intro sessionId key
  rw [under_insertNew]
  split_ifs
  · exact Nat.le_refl 1
  · exact h sessionId key

/-! ## What every request keeps -/

/-- The session exists and has ended. -/
def TutorTables.Ended (sessionId : Uuid) (db : TutorTables F) : Prop :=
  (db.session sessionId).map TutorSession.status = some .ended

structure TutorKeeps (db db' : TutorTables F) : Prop where
  unique : db'.Unique
  grows : db.events <+: db'.events
  ended : ∀ sessionId, db.Ended sessionId →
    db'.Ended sessionId ∧ db'.eventsOf sessionId = db.eventsOf sessionId

theorem TutorKeeps.refl {db : TutorTables F} (h : db.Unique) : TutorKeeps db db :=
  ⟨h, List.prefix_refl _, fun _ hended => ⟨hended, rfl⟩⟩

theorem TutorKeeps.trans {db db' db'' : TutorTables F} (h : TutorKeeps db db')
    (h' : TutorKeeps db' db'') : TutorKeeps db db'' where
  unique := h'.unique
  grows := h.grows.trans h'.grows
  ended sessionId hended := by
    obtain ⟨hended', hevents⟩ := h.ended sessionId hended
    obtain ⟨hended'', hevents'⟩ := h'.ended sessionId hended'
    exact ⟨hended'', hevents'.trans hevents⟩

/-- An insert into a session that is not over. -/
theorem keeps_insertNew (e : TutorEvent F) {db : TutorTables F} (h : db.Unique)
    (hactive : ¬db.Ended e.sessionId) : TutorKeeps db (TutorTables.insertNew e db) := by
  refine ⟨unique_insertNew e h, ?_, fun sessionId hended => ⟨?_, ?_⟩⟩
  · unfold TutorTables.insertNew
    split_ifs
    · exact List.prefix_append _ _
    · exact List.prefix_refl _
  · unfold TutorTables.insertNew
    split_ifs
    · exact hended
    · exact hended
  · unfold TutorTables.insertNew
    split_ifs
    · have hne : e.sessionId ≠ sessionId := fun heq => hactive (heq ▸ hended)
      unfold TutorTables.eventsOf
      rw [List.filter_append]
      have hnone : [e].filter (fun e => decide (e.sessionId = sessionId)) = [] :=
        List.filter_eq_nil_iff.mpr fun e' he' => by
          rw [List.mem_singleton.mp he']
          simpa using hne
      rw [hnone, List.append_nil]
    · rfl

/-- An update that ends no session again. -/
theorem keeps_updateSession (sessionId : Uuid) {f : TutorSession → TutorSession}
    (hid : ∀ s, (f s).id = s.id) (hf : ∀ s, s.status = .ended → (f s).status = .ended)
    {db : TutorTables F} (h : db.Unique) : TutorKeeps db (db.updateSession sessionId f) := by
  refine ⟨h, List.prefix_refl _, fun id hended => ⟨?_, rfl⟩⟩
  unfold TutorTables.Ended TutorTables.session at hended ⊢
  unfold TutorTables.updateSession
  dsimp only
  rw [Tables.find_update hid]
  cases hfind : Tables.find TutorSession.id id db.sessions with
  | none =>
      rw [hfind] at hended
      cases hended
  | some s =>
      rw [hfind] at hended
      have hstatus : s.status = .ended := Option.some.inj hended
      show some (TutorSession.status (if s.id = sessionId then f s else s)) = _
      split_ifs
      · rw [hf s hstatus]
      · rw [hstatus]

theorem not_ended_of_requireActive {sessionId : Uuid} {db : TutorTables F} {u : Unit}
    (h : requireActiveSession sessionId db = .ok u) : ¬db.Ended sessionId := by
  unfold requireActiveSession at h
  unfold TutorTables.Ended
  cases hsession : db.session sessionId with
  | none => exact fun h => nomatch h
  | some s =>
      rw [hsession] at h
      dsimp only at h
      split_ifs at h with hstatus
      intro hended
      have hends : s.status = .ended := Option.some.inj hended
      rw [hends] at hstatus
      exact hstatus fun heq => nomatch heq

theorem ended_insertNew (e : TutorEvent F) (sessionId : Uuid) (db : TutorTables F) :
    (TutorTables.insertNew e db).Ended sessionId ↔ db.Ended sessionId := by
  unfold TutorTables.insertNew
  split_ifs <;> rfl

section Request

variable {reading : TutorReading F} {sessionId : Uuid} {clock : Clock} {idempotencyKey : Str}
  {db db' : TutorTables F}

theorem existingResponse_ok {key : Str} {response : Option (TutorMessageResponse F)}
    (h : existingResponse reading sessionId key db = .ok response) :
    (response = none ∧ ∀ e ∈ db.under sessionId key, e.eventType ≠ messageAssistant)
      ∨ ∃ r e, response = some r ∧ e ∈ db.under sessionId key ∧ e.eventType = messageAssistant
        ∧ (Json.lookup "message" e.payload).map reading.str = some r.reply := by
  unfold existingResponse at h
  cases hfind : (db.under sessionId key).find? fun e => e.eventType = messageAssistant with
  | none =>
      rw [hfind] at h
      cases h
      exact .inl ⟨rfl, fun e he => by simpa using List.find?_eq_none.mp hfind e he⟩
  | some e =>
      rw [hfind] at h
      dsimp only at h
      split at h
      · rename_i message provider model intervention hmessage hprovider hmodel hintervention
        cases h
        exact .inr ⟨_, e, rfl, List.mem_of_find?_eq_some hfind,
          by simpa using List.find?_some hfind, by rw [hmessage]; rfl⟩
      · cases h

/-- A key holds its one event. -/
theorem under_eq_singleton (hdb : db.Unique) {key : Str} {e : TutorEvent F}
    (he : e ∈ db.under sessionId key) : db.under sessionId key = [e] := by
  obtain ⟨e', heq⟩ := List.length_eq_one_iff.mp
    (Nat.le_antisymm (hdb sessionId key) (List.length_pos_of_mem he))
  rw [heq, List.mem_singleton] at he
  rw [heq, he]

/-- The two inserts of a reply that was not there. -/
theorem replyStored_inserted (reading : TutorReading F) (sessionId : Uuid) (idempotencyKey : Str)
    {reply : Str} (hdb : db.Unique)
    (hnone : ∀ e ∈ db.under sessionId (assistantKey idempotencyKey),
      e.eventType ≠ messageAssistant)
    {u a : TutorEvent F} (hu : u.sessionId = sessionId)
    (hukey : u.idempotencyKey = userKey idempotencyKey) (hutype : u.eventType = messageUser)
    (ha : a.sessionId = sessionId)
    (hakey : a.idempotencyKey = assistantKey idempotencyKey) (hatype : a.eventType = messageAssistant)
    (hreply : (Json.lookup "message" a.payload).map reading.str = some reply) (db' : TutorTables F)
    (hdb' : db'.events = (TutorTables.insertNew a (TutorTables.insertNew u db)).events) :
    ReplyStored reading sessionId idempotencyKey reply db' ↔ KeysFit sessionId idempotencyKey db := by
  have hunder : ∀ key, db'.under sessionId key
      = (TutorTables.insertNew a (TutorTables.insertNew u db)).under sessionId key :=
    fun key => congrArg (List.filter _) hdb'
  have huser : db'.under sessionId (userKey idempotencyKey)
      = if db.under sessionId (userKey idempotencyKey) = [] then [u]
        else db.under sessionId (userKey idempotencyKey) := by
    rw [hunder, under_insertNew, hakey,
      if_neg fun h => derived_ne idempotencyKey h.2.1.symm, under_insertNew, hu, hukey]
    simp only [true_and]
  have hassistant : db'.under sessionId (assistantKey idempotencyKey)
      = if db.under sessionId (assistantKey idempotencyKey) = [] then [a]
        else db.under sessionId (assistantKey idempotencyKey) := by
    have huntouched : (TutorTables.insertNew u db).under sessionId (assistantKey idempotencyKey)
        = db.under sessionId (assistantKey idempotencyKey) := by
      rw [under_insertNew, hukey, if_neg fun h => derived_ne idempotencyKey h.2.1]
    rw [hunder, under_insertNew, huntouched, ha, hakey]
    simp only [true_and]
  constructor
  · rintro ⟨u', a', huser', hutype', hassistant', hatype', -⟩
    refine ⟨fun e he => ?_, fun e he => ?_⟩
    · rw [huser, if_neg (List.ne_nil_of_mem he)] at huser'
      rw [huser', List.mem_singleton] at he
      exact he ▸ hutype'
    · rw [hassistant, if_neg (List.ne_nil_of_mem he)] at hassistant'
      rw [hassistant', List.mem_singleton] at he
      exact absurd (he ▸ hatype') (hnone e (by rw [hassistant', he]; exact List.mem_singleton_self _))
  · rintro ⟨hfitUser, hfitAssistant⟩
    have hfresh : db.under sessionId (assistantKey idempotencyKey) = [] := by
      refine List.eq_nil_iff_forall_not_mem.mpr fun e he => hnone e he (hfitAssistant e he).1
    rw [if_pos hfresh] at hassistant
    by_cases hold : db.under sessionId (userKey idempotencyKey) = []
    · rw [if_pos hold] at huser
      exact ⟨u, a, huser, hutype, hassistant, hatype, hreply⟩
    · rw [if_neg hold] at huser
      obtain ⟨u', hu'⟩ := List.exists_mem_of_ne_nil _ hold
      exact ⟨u', a, huser.trans (under_eq_singleton hdb hu'), hfitUser u' hu', hassistant, hatype,
        hreply⟩

theorem send_ok {message : Str} {outcome : Except Failure (TutorReply F)}
    {r : TutorMessageResponse F} (hdb : db.Unique)
    (h : (sendTutorMessageTx reading sessionId message idempotencyKey outcome clock).runAlone db
      = .ok (db', r)) :
    TutorKeeps db db' ∧ (ReplyStored reading sessionId idempotencyKey r.reply db'
      ↔ KeysFit sessionId idempotencyKey db) := by
  obtain ⟨db₁, existing, hread, hbehind⟩ := Tx.bind_ok h
  obtain ⟨rfl, hexisting⟩ := Tx.read_ok hread
  rcases existingResponse_ok hexisting with ⟨rfl, hnone⟩ | ⟨r', a, rfl, ha, htype, hreply⟩
  · obtain ⟨db₂, ⟨⟩, hcheck, hprovider⟩ := Tx.bind_ok hbehind
    obtain ⟨rfl, hactive⟩ := Tx.read_ok hcheck
    have hopen := not_ended_of_requireActive hactive
    obtain ⟨db₃, reply, houtcome, hwrites⟩ := Tx.bind_ok hprovider
    obtain ⟨rfl, -⟩ := Tx.ofExcept_ok houtcome
    obtain ⟨db₄, ⟨⟩, huser, hwrites'⟩ := Tx.bind_ok hwrites
    obtain rfl := Tx.write_ok huser
    obtain ⟨db₅, ⟨⟩, hassistant, hwrites''⟩ := Tx.bind_ok hwrites'
    obtain rfl := Tx.write_ok hassistant
    obtain ⟨db₆, ⟨⟩, hsession, hanswer⟩ := Tx.bind_ok hwrites''
    obtain rfl := Tx.write_ok hsession
    obtain ⟨rfl, rfl⟩ := Tx.commit_ok hanswer
    have hkeepsUser := keeps_insertNew ⟨sessionId, messageUser, userKey idempotencyKey,
      [("message", .str (strip message))], clock.database⟩ hdb hopen
    have hkeepsAssistant := keeps_insertNew ⟨sessionId, messageAssistant,
      assistantKey idempotencyKey, assistantPayload reply, clock.database⟩ hkeepsUser.unique
      (by rwa [ended_insertNew])
    refine ⟨(hkeepsUser.trans hkeepsAssistant).trans
      (keeps_updateSession sessionId (by exact fun _ => rfl) (by exact fun _ hended => hended)
        hkeepsAssistant.unique), ?_⟩
    have hreply : (Json.lookup "message" (assistantPayload reply)).map reading.str
        = some reply.text := congrArg some (reading.str_str reply.text)
    exact replyStored_inserted reading sessionId idempotencyKey hdb hnone rfl rfl rfl rfl rfl rfl
      hreply _ rfl
  · obtain ⟨rfl, rfl⟩ := Tx.commit_ok hbehind
    refine ⟨.refl hdb, ?_⟩
    have hunder := under_eq_singleton hdb ha
    constructor
    · rintro ⟨u, a', huser, hutype, hassistant, -, -⟩
      refine ⟨fun e he => ?_, fun e he => ?_⟩
      · rw [huser, List.mem_singleton] at he
        exact he ▸ hutype
      · rw [hunder, List.mem_singleton] at he
        exact ⟨he ▸ htype, by rw [huser]; exact List.cons_ne_nil _ _⟩
    · rintro ⟨huser, hassistant⟩
      obtain ⟨u, hu⟩ := List.exists_mem_of_ne_nil _ (hassistant a ha).2
      exact ⟨u, a, under_eq_singleton hdb hu, huser u hu, hunder, htype, hreply⟩

theorem append_ok {eventType : Str} {payload : Dict F} {refusal : Option Failure}
    {e : TutorEvent F} (hdb : db.Unique)
    (h : (appendTutorEventTx sessionId eventType idempotencyKey payload refusal clock).runAlone db
      = .ok (db', e)) : TutorKeeps db db' := by
  cases refusal with
  | some failure => cases h
  | none =>
      obtain ⟨db₁, ⟨⟩, hcheck, hinsert⟩ := Tx.bind_ok h
      obtain ⟨rfl, hactive⟩ := Tx.read_ok hcheck
      obtain ⟨db₂, ⟨⟩, hwrite, hreturning⟩ := Tx.bind_ok hinsert
      obtain rfl := Tx.write_ok hwrite
      obtain ⟨db₃, row, hread, hupdate⟩ := Tx.bind_ok hreturning
      obtain ⟨rfl, -⟩ := Tx.read_ok hread
      obtain ⟨db₄, ⟨⟩, hsession, hanswer⟩ := Tx.bind_ok hupdate
      obtain rfl := Tx.write_ok hsession
      obtain ⟨rfl, -⟩ := Tx.commit_ok hanswer
      have hkeeps := keeps_insertNew ⟨sessionId, eventType, idempotencyKey, payload,
        clock.database⟩ hdb (not_ended_of_requireActive hactive)
      exact hkeeps.trans (keeps_updateSession sessionId (by exact fun _ => rfl)
        (by exact fun _ hended => hended) hkeeps.unique)

theorem finish_ok {summary : Option Str} {s : TutorSession} (hdb : db.Unique)
    (h : (endTutorSessionTx sessionId summary clock).runAlone db = .ok (db', s)) :
    TutorKeeps db db' := by
  obtain ⟨db₁, ⟨⟩, hwrite, hread⟩ := Tx.bind_ok h
  obtain rfl := Tx.write_ok hwrite
  obtain ⟨rfl, -⟩ := Tx.read_ok hread
  refine keeps_updateSession sessionId (fun s => ?_) (fun s hended => ?_) hdb
  · split_ifs <;> rfl
  · rw [if_neg (by rw [hended]; exact fun heq => nomatch heq)]
    exact hended

theorem tutor_ok {r : TutorRequest F} {a : TutorAnswer F} (hdb : db.Unique)
    (h : (tutorProgram reading r).runAlone db = .ok (db', a)) : TutorKeeps db db' := by
  cases r with
  | send user sessionId message idempotencyKey outcome clock =>
      obtain ⟨db₁, response, hsend, hanswer⟩ := Tx.bind_ok h
      obtain ⟨rfl, -⟩ := Tx.commit_ok hanswer
      exact (send_ok hdb hsend).1
  | append user sessionId eventType idempotencyKey payload refusal clock =>
      obtain ⟨db₁, e, happend, hanswer⟩ := Tx.bind_ok h
      obtain ⟨rfl, -⟩ := Tx.commit_ok hanswer
      exact append_ok hdb happend
  | finish user sessionId summary clock =>
      obtain ⟨db₁, s, hfinish, hanswer⟩ := Tx.bind_ok h
      obtain ⟨rfl, -⟩ := Tx.commit_ok hanswer
      exact finish_ok hdb hfinish

/-- What a send answers is stored exactly if its keys fit. -/
theorem send_answers {user : Uuid} {message : Str} {outcome : Except Failure (TutorReply F)}
    {a : TutorAnswer F} (hdb : db.Unique)
    (h : (tutorProgram reading (.send user sessionId message idempotencyKey outcome clock)).runAlone
      db = .ok (db', a)) :
    ∃ response, a = .reply response ∧ (ReplyStored reading sessionId idempotencyKey response.reply db'
      ↔ KeysFit sessionId idempotencyKey db) := by
  obtain ⟨db₁, response, hsend, hanswer⟩ := Tx.bind_ok h
  obtain ⟨rfl, rfl⟩ := Tx.commit_ok hanswer
  exact ⟨response, rfl, (send_ok hdb hsend).2⟩

/-- A stored reply stays. -/
theorem ReplyStored.later {reply : Str} (h : ReplyStored reading sessionId idempotencyKey reply db)
    (hunique : db'.Unique) (hgrows : db.events <+: db'.events) :
    ReplyStored reading sessionId idempotencyKey reply db' := by
  obtain ⟨u, a, huser, hutype, hassistant, hatype, hreply⟩ := h
  have hsubset : ∀ key, db.under sessionId key ⊆ db'.under sessionId key := fun key =>
    (hgrows.filter _).subset
  refine ⟨u, a, under_eq_singleton hunique (hsubset _ ?_), hutype,
    under_eq_singleton hunique (hsubset _ ?_), hatype, hreply⟩
  · rw [huser]
    exact List.mem_singleton_self u
  · rw [hassistant]
    exact List.mem_singleton_self a

/-- One reply is stored under a key. -/
theorem ReplyStored.same {reply reply' : Str}
    (h : ReplyStored reading sessionId idempotencyKey reply db)
    (h' : ReplyStored reading sessionId idempotencyKey reply' db) : reply = reply' := by
  obtain ⟨-, a, -, -, hassistant, -, hreply⟩ := h
  obtain ⟨-, a', -, -, hassistant', -, hreply'⟩ := h'
  cases hassistant.symm.trans hassistant'
  exact Option.some.inj (hreply.symm.trans hreply')

end Request

/-! ## Runs -/

/-- What an answered send of the log promises of the store. -/
def SendStored (reading : TutorReading F) (label : TutorRequest F × TutorAnswer F)
    (db : TutorTables F) : Prop :=
  match label with
  | (.send _ sessionId _ idempotencyKey _ _, .reply response) =>
      ReplyStored reading sessionId idempotencyKey response.reply db
  | _ => True

/-- A send finds keys that fit. -/
def SendFits (r : TutorRequest F) (db : TutorTables F) : Prop :=
  match r with
  | .send _ sessionId _ idempotencyKey _ _ => KeysFit sessionId idempotencyKey db
  | _ => True

theorem sendStored_iff {reading : TutorReading F}
    {x : Taken (TutorTables F) (TutorRequest F × TutorAnswer F)} (hdb : x.source.Unique)
    (h : Atomic (tutorProgram reading) x.source x.label x.target) :
    SendStored reading x.label x.target ↔ SendFits x.label.1 x.source := by
  obtain ⟨source, ⟨r, a⟩, target⟩ := x
  cases r with
  | send user sessionId message idempotencyKey outcome clock =>
      obtain ⟨response, rfl, hiff⟩ := send_answers hdb h
      exact hiff
  | append => exact Iff.rfl
  | finish => exact Iff.rfl

theorem SendStored.later {reading : TutorReading F} {label : TutorRequest F × TutorAnswer F}
    {db db' : TutorTables F} (h : SendStored reading label db) (hkeeps : TutorKeeps db db') :
    SendStored reading label db' := by
  unfold SendStored at h ⊢
  split
  · exact ReplyStored.later h hkeeps.unique hkeeps.grows
  · trivial

/-- **Tutor replies.** In every run of any users' requests, what an answered
send replied is stored once with its one message exactly if its keys fitted
when it began, and it stays stored, so that sends with one key that found
fitting keys gave one reply; and a session that has ended stays so and gets no
event. -/
theorem tutor_replies_stored (reading : TutorReading F)
    {s t : SerialState (TutorTables F) Uuid (TutorRequest F) Failure (TutorAnswer F)}
    {trace : SerialTrace (TutorTables F) Uuid (TutorRequest F) Failure (TutorAnswer F)}
    (hrun : Run (SerialStep TutorRequest.user (tutorProgram reading)) s trace t)
    (hfree : ∀ user, s.holder user = none) (user : Uuid)
    (hempty : (s.store user).events = []) :
    ∃ log : List (Taken (TutorTables F) (TutorRequest F × TutorAnswer F)),
      log = trace.filterMap (answered TutorRequest.user user)
        ∧ Run (Atomic (tutorProgram reading)) (s.store user) log (t.store user)
        ∧ (∀ x ∈ log, (SendStored reading x.label x.target ↔ SendFits x.label.1 x.source)
          ∧ (SendStored reading x.label x.target → SendStored reading x.label (t.store user)))
        ∧ (∀ x ∈ log, ∀ y ∈ log, ∀ u u' sessionId m m' key o o' c c' r r',
          x.label = (.send u sessionId m key o c, .reply r) →
          y.label = (.send u' sessionId m' key o' c', .reply r') →
          SendFits x.label.1 x.source → SendFits y.label.1 y.source → r.reply = r'.reply)
        ∧ ∀ x ∈ log, ∀ sessionId, x.source.Ended sessionId →
          x.target.Ended sessionId ∧ x.target.eventsOf sessionId = x.source.eventsOf sessionId := by
  have hatomic := run_atomic hrun hfree user
  have hinit : (s.store user).Unique := by
    intro sessionId key
    unfold TutorTables.under
    rw [hempty]
    exact Nat.zero_le 1
  have hkeeps : ∀ x : Taken (TutorTables F) (TutorRequest F × TutorAnswer F), x.source.Unique →
      Atomic (tutorProgram reading) x.source x.label x.target → TutorKeeps x.source x.target :=
    fun x hx hstep => tutor_ok hx hstep
  have hstored : ∀ x ∈ trace.filterMap (answered TutorRequest.user user),
      SendStored reading x.label x.target → SendStored reading x.label (t.store user) :=
    hatomic.kept (Q := fun label db => SendStored reading label db)
      (fun x hx hstep => (hkeeps x hx hstep).unique)
      (fun _ x hx hstep hstored => hstored.later (hkeeps x hx hstep)) hinit
  have hiff := hatomic.forall_taken (fun x hx hstep => (hkeeps x hx hstep).unique)
    (fun x hx hstep => sendStored_iff hx hstep) hinit
  refine ⟨_, rfl, hatomic, fun x hx => ⟨hiff x hx, hstored x hx⟩, ?_, ?_⟩
  · intro x hx y hy u u' sessionId m m' key o o' c c' r r' hxlabel hylabel hxfits hyfits
    have hxstored := hstored x hx ((hiff x hx).mpr hxfits)
    have hystored := hstored y hy ((hiff y hy).mpr hyfits)
    rw [hxlabel] at hxstored
    rw [hylabel] at hystored
    exact ReplyStored.same hxstored hystored
  · exact hatomic.forall_taken (fun x hx hstep => (hkeeps x hx hstep).unique)
      (fun x hx hstep => (hkeeps x hx hstep).ended) hinit

/-! A client whose own event takes the key of a reply. -/

def plainReading : TutorReading Unit where
  str value := match value with
    | .str text => text
    | _ => []
  validate := some
  str_str _ := rfl

def tutoring : TutorTables Unit := ⟨[⟨"session-1", .active, none, none, none, none, 0⟩], []⟩

def tutoringStart : SerialState (TutorTables Unit) Uuid (TutorRequest Unit) Failure
    (TutorAnswer Unit) := ⟨fun _ => tutoring, fun _ => none⟩

def hint : TutorReply Unit := ⟨"Try a map.", "deterministic", "rules", .null⟩

def asksForHint : TutorRequest Unit := .send "ada" "session-1" "Help" "k" (.ok hint) ⟨1, 1⟩

def takesKey : TutorRequest Unit :=
  .append "ada" "session-1" "editor.changed" "k:assistant" [] none ⟨0, 0⟩

/-- A run with one send. -/
theorem tutor_replies_stored_sent : ∃ t trace,
    Run (SerialStep TutorRequest.user (tutorProgram plainReading)) tutoringStart trace t
      ∧ ∃ x ∈ trace.filterMap (answered TutorRequest.user "ada"),
        x.label.1 = asksForHint ∧ SendStored plainReading x.label (t.store "ada") := by
  have hanswered : ∃ rows a, Atomic (tutorProgram plainReading) tutoring (asksForHint, a) rows :=
    ⟨_, _, rfl⟩
  obtain ⟨rows, a, hanswered⟩ := hanswered
  obtain ⟨trace, hrun, hlog⟩ := exists_run_atomic TutorRequest.user "ada" (s := tutoringStart)
    (.cons hanswered (.nil rows)) (fun x hx => by cases List.mem_singleton.mp hx; rfl) rfl rfl
  have hmem := hlog ▸ List.mem_singleton_self _
  obtain ⟨log, hlog', -, hstored, -, -⟩ :=
    tutor_replies_stored plainReading hrun (fun _ => rfl) "ada" rfl
  obtain ⟨hiff, hlater⟩ := hstored _ (hlog'.symm ▸ hmem)
  refine ⟨_, trace, hrun, _, hmem, rfl, hlater (hiff.mpr ⟨fun e he => ?_, fun e he => ?_⟩)⟩
  · cases he
  · cases he

/-- What the client's event leaves. -/
def keyTaken : TutorTables Unit :=
  ⟨tutoring.sessions, [⟨"session-1", "editor.changed", "k:assistant", [], 0⟩]⟩

/-- The event of a client takes the key of a reply that is then answered and
not stored. -/
theorem reply_not_stored : ∃ t trace,
    Run (SerialStep TutorRequest.user (tutorProgram plainReading)) tutoringStart trace t
      ∧ ∃ x ∈ trace.filterMap (answered TutorRequest.user "ada"),
        x.label.1 = asksForHint ∧ ∀ e ∈ x.target.events, e.eventType ≠ messageAssistant := by
  have hfirst : ∃ a, Atomic (tutorProgram plainReading) tutoring (takesKey, a) keyTaken := ⟨_, rfl⟩
  obtain ⟨a, hfirst⟩ := hfirst
  have hsecond : ∃ rows b, Atomic (tutorProgram plainReading) keyTaken (asksForHint, b) rows
      ∧ rows.events.map TutorEvent.eventType = [Str.ofString "editor.changed", messageUser] :=
    ⟨_, _, rfl, rfl⟩
  obtain ⟨rows, b, hsecond, htypes⟩ := hsecond
  obtain ⟨trace, hrun, hlog⟩ := exists_run_atomic TutorRequest.user "ada" (s := tutoringStart)
    (.cons hfirst (.cons hsecond (.nil rows)))
    (fun x hx => by
      rcases List.mem_pair.mp hx with rfl | rfl <;> rfl) rfl rfl
  have hmem := hlog ▸ List.mem_cons_of_mem _ (List.mem_singleton_self _)
  refine ⟨_, trace, hrun, _, hmem, rfl, fun e he htype => ?_⟩
  have htaken : messageAssistant ∈ rows.events.map TutorEvent.eventType :=
    htype ▸ List.mem_map_of_mem he
  rw [htypes] at htaken
  revert htaken
  decide

end Rigor
