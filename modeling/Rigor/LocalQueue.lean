import Mathlib.Data.List.Sort
import Rigor.ExecutionDomain
import Rigor.PyJson
import Rigor.Results
import Rigor.Runs

/-!
# The local execution queue

A table that behaves like a queue with visibility windows: a receive hides
the messages it returns and gives each a fresh receipt handle, a visibility
change moves the end of the window, a delete removes the message. Both go by
the receipt handle, so a consumer that holds an older one reaches no message.
The history of the calls says what handle and what window a message has; the
rows agree with it along every run (`queue_delivery`).
-/

namespace Rigor.LocalQueue

open Py Runs

/-! ## The table -/

inductive QueueError where
  | transport (message : Str)
  | value (message : Str)
  | encode
  | load (error : LoadError)
  | database

/-- A row of `local_execution_queue`. -/
structure QueueRow where
  id : Uuid
  body : Str
  visibleAt : Time
  receiptHandle : Option Uuid
  receiveCount : Nat
  createdAt : Time
  updatedAt : Time

/-- The table, under its primary key, and the clock of its last statement. -/
structure Queue where
  rows : List QueueRow
  distinct : (rows.map QueueRow.id).Nodup
  clock : Time

def Queue.empty (clock : Time) : Queue := ⟨[], List.nodup_nil, clock⟩

/-- The rows, each changed under its identifier. -/
def Queue.mapRows (f : QueueRow → QueueRow) (hf : ∀ r, (f r).id = r.id) (now : Time) (s : Queue) :
    Queue where
  rows := s.rows.map f
  distinct := by
    have hids : (s.rows.map f).map QueueRow.id = s.rows.map QueueRow.id := by
      rw [List.map_map]
      exact List.map_congr_left fun r _ => hf r
    exact hids ▸ s.distinct
  clock := now

structure SqsReceivedMessage where
  messageId : Uuid
  receiptHandle : Uuid
  body : Str

/-- `make_interval(secs => seconds)`, in microseconds. -/
def interval (seconds : Int) : Time := 1000000 * seconds

/-! ## The client -/

def maxQueueBodyBytes : Nat := 1024 * 1024

/-- `_validate_body`. -/
def validateBody (F : Type) [Runtime F] (body : Str) : Except QueueError Unit :=
  if body = [] then .error (.transport "Local execution queue body is invalid.")
  else if isEncodable body = false then .error .encode
  else if maxQueueBodyBytes < utf8Len body then
    .error (.transport "Local execution queue body is invalid.")
  else
    match loads (F := F) body with
    | .error .decode => .error (.transport "Local execution queue body must be valid JSON.")
    | .error e => .error (.load e)
    | .ok (.obj _) => .ok ()
    | .ok _ => .error (.transport "Local execution queue body must be a JSON object.")

/-- `send_message`, with the generated identifier. -/
def sendMessage (F : Type) [Runtime F] (body : Str) (id : Uuid) (now : Time) (s : Queue) :
    Except QueueError (Uuid × Queue) := do
  validateBody F body
  if h : id ∈ s.rows.map QueueRow.id then .error .database
  else .ok (id, {
    rows := s.rows ++ [⟨id, body, now, none, 0, now, now⟩]
    distinct := by
      rw [List.map_append]
      exact s.distinct.append (List.nodup_singleton _) (List.disjoint_singleton.mpr h)
    clock := now })

def earlier (r r' : QueueRow) : Prop :=
  r.createdAt < r'.createdAt ∨ (r.createdAt = r'.createdAt ∧ r.id ≤ r'.id)

instance (r r' : QueueRow) : Decidable (earlier r r') := inferInstanceAs (Decidable (_ ∨ _))

/-- The rows that a receive takes. -/
def selected (maximum : Int) (now : Time) (s : Queue) : List QueueRow :=
  ((s.rows.filter fun r => r.visibleAt ≤ now).insertionSort earlier).take maximum.toNat

/-- What a receive writes into the rows it takes. -/
def receiveRow (taken : List Uuid) (handles : Uuid → Uuid) (visibilityTimeout : Int) (now : Time)
    (r : QueueRow) : QueueRow :=
  if r.id ∈ taken then
    { r with
      receiptHandle := some (handles r.id)
      visibleAt := now + interval visibilityTimeout
      receiveCount := r.receiveCount + 1
      updatedAt := now }
  else r

theorem receiveRow_id (taken : List Uuid) (handles : Uuid → Uuid) (visibilityTimeout : Int)
    (now : Time) (r : QueueRow) : (receiveRow taken handles visibilityTimeout now r).id = r.id := by
  unfold receiveRow
  split_ifs <;> rfl

/-- `receive_messages`, with the generated receipt handles. The last check is
that of the unique index. -/
def receiveMessages (maximum visibilityTimeout : Int) (handles : Uuid → Uuid) (now : Time)
    (s : Queue) : Except QueueError (List SqsReceivedMessage × Queue) :=
  if ¬(1 ≤ maximum ∧ maximum ≤ 10) then .error (.value "maximum must be between 1 and 10")
  else if visibilityTimeout < 1 then .error (.value "visibility_timeout must be positive")
  else
    let taken := (selected maximum now s).map QueueRow.id
    let t := s.mapRows (receiveRow taken handles visibilityTimeout now)
      (receiveRow_id taken handles visibilityTimeout now) now
    if (t.rows.filterMap QueueRow.receiptHandle).Nodup then
      .ok ((selected maximum now s).map fun r => ⟨r.id, handles r.id, r.body⟩, t)
    else .error .database

/-- `delete_message`. -/
def deleteMessage (receiptHandle : Uuid) (now : Time) (s : Queue) : Queue where
  rows := s.rows.filter fun r => r.receiptHandle ≠ some receiptHandle
  distinct := s.distinct.sublist (List.filter_sublist.map _)
  clock := now

/-- `change_message_visibility`. -/
def changeMessageVisibility (receiptHandle : Uuid) (timeoutSeconds : Int) (now : Time)
    (s : Queue) : Except QueueError Queue :=
  if timeoutSeconds < 0 then .error (.value "timeout_seconds must be non-negative")
  else .ok (s.mapRows
    (fun r =>
      if r.receiptHandle = some receiptHandle then
        { r with visibleAt := now + interval timeoutSeconds, updatedAt := now }
      else r)
    (fun r => by split_ifs <;> rfl) now)

/-! ## Calls and runs -/

inductive QueueOp where
  | sendMessage (body : Str) (id : Uuid)
  | receiveMessages (maximum visibilityTimeout : Int) (handles : Uuid → Uuid)
  | changeMessageVisibility (receiptHandle : Uuid) (timeoutSeconds : Int)
  | deleteMessage (receiptHandle : Uuid)

inductive QueueAnswer where
  | sent (id : Uuid)
  | received (messages : List SqsReceivedMessage)
  | done

def perform (F : Type) [Runtime F] (now : Time) (s : Queue) :
    QueueOp → Except QueueError (QueueAnswer × Queue)
  | .sendMessage body id => do
      let (id, t) ← sendMessage F body id now s
      .ok (.sent id, t)
  | .receiveMessages maximum visibilityTimeout handles => do
      let (messages, t) ← receiveMessages maximum visibilityTimeout handles now s
      .ok (.received messages, t)
  | .changeMessageVisibility receiptHandle timeoutSeconds => do
      let t ← changeMessageVisibility receiptHandle timeoutSeconds now s
      .ok (.done, t)
  | .deleteMessage receiptHandle => .ok (.done, deleteMessage receiptHandle now s)

/-- A call of some consumer, at the time of its statement. -/
structure QueueCall where
  now : Time
  op : QueueOp
  result : Except QueueError QueueAnswer

/-- One call, alone, at a time that is not before the last one. It raises
before its statement or has its statement rolled back, or it returns. -/
inductive QueueStep (F : Type) [Runtime F] : Queue → QueueCall → Queue → Prop where
  | returned {s t : Queue} {now : Time} {op : QueueOp} {answer : QueueAnswer} (hclock : s.clock ≤ now)
      (h : perform F now s op = .ok (answer, t)) : QueueStep F s ⟨now, op, .ok answer⟩ t
  | raised {s : Queue} {now : Time} {op : QueueOp} {e : QueueError} (hclock : s.clock ≤ now)
      (h : perform F now s op = .error e ∨ e = .database) :
      QueueStep F s ⟨now, op, .error e⟩ { s with clock := now }

/-! ## What the calls say -/

/-- The receipt handles that a call hands out, each with its message. -/
def QueueCall.receipts (c : QueueCall) : List (Uuid × Uuid) :=
  match c.result with
  | .ok (.received messages) => messages.map fun m => (m.messageId, m.receiptHandle)
  | _ => []

/-- The receipt handle of a message and the end of its window, after a call. -/
def QueueCall.lease (id : Uuid) (held : Option (Uuid × Time)) (c : QueueCall) :
    Option (Uuid × Time) :=
  match c.result, c.op with
  | .ok (.sent id'), _ => if id' = id then none else held
  | .ok (.received messages), .receiveMessages _ visibilityTimeout _ =>
      match messages.find? fun m => m.messageId = id with
      | some m => some (m.receiptHandle, c.now + interval visibilityTimeout)
      | none => held
  | .ok _, .changeMessageVisibility receiptHandle timeoutSeconds =>
      held.map fun l =>
        if l.1 = receiptHandle then (l.1, c.now + interval timeoutSeconds) else l
  | _, _ => held

abbrev History := List (Taken Queue QueueCall)

def History.receipts (trace : History) : List (Uuid × Uuid) :=
  trace.flatMap fun x => x.label.receipts

def History.lease (id : Uuid) (trace : History) : Option (Uuid × Time) :=
  trace.foldl (fun held x => x.label.lease id held) none

/-- The most recent receipt handle of a message. -/
def History.lastReceipt (id : Uuid) (trace : History) : Option Uuid := (lease id trace).map Prod.fst

/-- The end of the window that the most recent receive of a message opened, as
last moved by its receipt handle. -/
def History.windowEnd (id : Uuid) (trace : History) : Option Time := (lease id trace).map Prod.snd

/-- The call uses a receipt handle. -/
def QueueCall.Uses (receiptHandle : Uuid) (c : QueueCall) : Prop :=
  c.op = .deleteMessage receiptHandle ∨ ∃ n, c.op = .changeMessageVisibility receiptHandle n

def QueueCall.Sent (id : Uuid) (body : Str) (c : QueueCall) : Prop :=
  c.op = .sendMessage body id ∧ c.result = .ok (.sent id)

/-- The lease that a row stores. -/
def QueueRow.lease (r : QueueRow) : Option (Uuid × Time) :=
  r.receiptHandle.map fun handle => (handle, r.visibleAt)

/-! ## One call -/

section

variable {F : Type} [Runtime F] {s t : Queue} {c : QueueCall} {r r' : QueueRow}

theorem mem_selected {maximum : Int} {now : Time} (h : r ∈ selected maximum now s) :
    r ∈ s.rows ∧ r.visibleAt ≤ now := by
  have hdue := (List.mem_insertionSort earlier).mp (List.mem_of_mem_take h)
  obtain ⟨hr, hvisible⟩ := List.mem_filter.mp hdue
  exact ⟨hr, of_decide_eq_true hvisible⟩

theorem sendMessage_ok {body : Str} {id : Uuid} {now : Time} {id' : Uuid}
    (h : sendMessage F body id now s = .ok (id', t)) :
    id' = id ∧ id ∉ s.rows.map QueueRow.id ∧ t.rows = s.rows ++ [⟨id, body, now, none, 0, now, now⟩] := by
  unfold sendMessage at h
  obtain ⟨-, -, h⟩ := bind_eq_ok h
  split_ifs at h with hid
  cases h
  exact ⟨rfl, hid, rfl⟩

theorem receiveMessages_ok {maximum visibilityTimeout : Int} {handles : Uuid → Uuid} {now : Time}
    {messages : List SqsReceivedMessage}
    (h : receiveMessages maximum visibilityTimeout handles now s = .ok (messages, t)) :
    messages = (selected maximum now s).map (fun r => ⟨r.id, handles r.id, r.body⟩)
      ∧ t.rows = s.rows.map
        (receiveRow ((selected maximum now s).map QueueRow.id) handles visibilityTimeout now) := by
  unfold receiveMessages at h
  rw [ite_eq_iff] at h
  obtain ⟨-, h⟩ | ⟨-, h⟩ := h
  · cases h
  rw [ite_eq_iff] at h
  obtain ⟨-, h⟩ | ⟨-, h⟩ := h
  · cases h
  dsimp only at h
  rw [ite_eq_iff] at h
  obtain ⟨-, h⟩ | ⟨-, h⟩ := h
  · cases h
    exact ⟨rfl, rfl⟩
  · cases h

theorem changeMessageVisibility_ok {receiptHandle : Uuid} {timeoutSeconds : Int} {now : Time}
    (h : changeMessageVisibility receiptHandle timeoutSeconds now s = .ok t) :
    t.rows = s.rows.map fun r =>
      if r.receiptHandle = some receiptHandle then
        { r with visibleAt := now + interval timeoutSeconds, updatedAt := now }
      else r := by
  unfold changeMessageVisibility at h
  rw [ite_eq_iff] at h
  obtain ⟨-, h⟩ | ⟨-, h⟩ := h
  · cases h
  · cases h
    rfl

/-- What a receive returns for an identifier. -/
theorem find_received {maximum : Int} {now : Time} {handles : Uuid → Uuid} {id : Uuid} :
    ((selected maximum now s).map
        (fun r => (⟨r.id, handles r.id, r.body⟩ : SqsReceivedMessage))).find?
          (fun m => m.messageId = id)
      = if id ∈ (selected maximum now s).map QueueRow.id then
          ((selected maximum now s).find? (fun r => r.id = id)).map fun r => ⟨r.id, handles r.id, r.body⟩
        else none := by
  rw [List.find?_map]
  split_ifs with h
  · rfl
  · rw [Option.map_eq_none_iff, List.find?_eq_none]
    intro r hr hid
    exact h (List.mem_map.mpr ⟨r, hr, of_decide_eq_true hid⟩)

/-- The lease of a row after a receive. -/
theorem receiveRow_lease {maximum visibilityTimeout : Int} {handles : Uuid → Uuid} {now : Time}
    {messages : List SqsReceivedMessage}
    (hmessages : messages = (selected maximum now s).map fun r => ⟨r.id, handles r.id, r.body⟩) :
    (receiveRow ((selected maximum now s).map QueueRow.id) handles visibilityTimeout now r).lease
      = QueueCall.lease r.id r.lease
        ⟨now, .receiveMessages maximum visibilityTimeout handles, .ok (.received messages)⟩ := by
  unfold QueueCall.lease receiveRow
  dsimp only
  rw [hmessages, find_received]
  split_ifs with h
  · obtain ⟨r', hr', hid⟩ := List.mem_map.mp h
    have hfound : ((selected maximum now s).find? fun r' => r'.id = r.id).isSome :=
      List.find?_isSome.mpr ⟨r', hr', decide_eq_true hid⟩
    obtain ⟨m, hm⟩ := Option.isSome_iff_exists.mp hfound
    have hmid : m.id = r.id := by simpa using List.find?_some hm
    rw [hm, Option.map_some]
    dsimp only
    rw [hmid]
    rfl
  · rfl

/-- Every row after a call was sent by it or was there before, and then its
lease is what the call makes of the one before. -/
theorem step_lease (h : QueueStep F s c t) (hr' : r' ∈ t.rows) :
    (QueueCall.Sent r'.id r'.body c ∧ r'.lease = none)
      ∨ ∃ r ∈ s.rows, r'.id = r.id ∧ r'.lease = c.lease r.id r.lease := by
  cases h with
  | raised hclock h => exact .inr ⟨r', hr', rfl, rfl⟩
  | @returned _ now op answer hclock h =>
      cases op with
      | sendMessage body id =>
          obtain ⟨⟨id', t'⟩, hsend, h⟩ := bind_eq_ok h
          cases h
          obtain ⟨rfl, hid, hrows⟩ := sendMessage_ok hsend
          rw [hrows] at hr'
          rcases List.mem_append.mp hr' with hr' | hr'
          · refine .inr ⟨r', hr', rfl, ?_⟩
            exact (if_neg fun heq => hid (List.mem_map.mpr ⟨r', hr', heq.symm⟩)).symm
          · rw [List.mem_singleton.mp hr']
            exact .inl ⟨⟨rfl, rfl⟩, rfl⟩
      | receiveMessages maximum visibilityTimeout handles =>
          obtain ⟨⟨messages, t'⟩, hreceive, h⟩ := bind_eq_ok h
          cases h
          obtain ⟨hmessages, hrows⟩ := receiveMessages_ok hreceive
          rw [hrows] at hr'
          obtain ⟨r, hr, rfl⟩ := List.mem_map.mp hr'
          exact .inr ⟨r, hr, receiveRow_id .., receiveRow_lease hmessages⟩
      | changeMessageVisibility receiptHandle timeoutSeconds =>
          obtain ⟨t', hchange, h⟩ := bind_eq_ok h
          cases h
          rw [changeMessageVisibility_ok hchange] at hr'
          obtain ⟨r, hr, rfl⟩ := List.mem_map.mp hr'
          refine .inr ⟨r, hr, by split_ifs <;> rfl, ?_⟩
          unfold QueueCall.lease QueueRow.lease
          cases hhandle : r.receiptHandle with
          | none =>
              rw [if_neg (by simp), hhandle]
              rfl
          | some handle =>
              by_cases heq : handle = receiptHandle
              · rw [if_pos (congrArg some heq)]
                dsimp only
                rw [Option.map_some, Option.map_some, Option.map_some, if_pos heq]
              · rw [if_neg fun h => heq (Option.some.inj h)]
                dsimp only
                rw [hhandle, Option.map_some, Option.map_some, if_neg heq]
      | deleteMessage receiptHandle =>
          cases h
          exact .inr ⟨r', List.mem_of_mem_filter hr', rfl, rfl⟩

/-- A row outlives every call but a delete with its receipt handle. -/
theorem step_keeps (h : QueueStep F s c t) (hr : r ∈ s.rows)
    (hdelete : ∀ handle, c.op = .deleteMessage handle → c.result = .ok .done →
      r.receiptHandle ≠ some handle) :
    ∃ r' ∈ t.rows, r'.id = r.id ∧ r'.body = r.body := by
  cases h with
  | raised hclock h => exact ⟨r, hr, rfl, rfl⟩
  | @returned _ now op answer hclock h =>
      cases op with
      | sendMessage body id =>
          obtain ⟨⟨id', t'⟩, hsend, h⟩ := bind_eq_ok h
          cases h
          rw [(sendMessage_ok hsend).2.2]
          exact ⟨r, List.mem_append_left _ hr, rfl, rfl⟩
      | receiveMessages maximum visibilityTimeout handles =>
          obtain ⟨⟨messages, t'⟩, hreceive, h⟩ := bind_eq_ok h
          cases h
          rw [(receiveMessages_ok hreceive).2]
          refine ⟨_, List.mem_map_of_mem hr, receiveRow_id .., ?_⟩
          unfold receiveRow
          split_ifs <;> rfl
      | changeMessageVisibility receiptHandle timeoutSeconds =>
          obtain ⟨t', hchange, h⟩ := bind_eq_ok h
          cases h
          rw [changeMessageVisibility_ok hchange]
          refine ⟨_, List.mem_map_of_mem hr, ?_⟩
          split_ifs <;> exact ⟨rfl, rfl⟩
      | deleteMessage receiptHandle =>
          cases h
          exact ⟨r, List.mem_filter.mpr ⟨hr, decide_eq_true (hdelete _ rfl rfl)⟩, rfl, rfl⟩

theorem step_sent {id : Uuid} {body : Str} (h : QueueStep F s c t) (hsent : c.Sent id body) :
    ∃ r ∈ t.rows, r.id = id ∧ r.body = body := by
  obtain ⟨hop, hresult⟩ := hsent
  cases h with
  | raised hclock h => cases hresult
  | returned hclock h =>
      dsimp only at hop
      subst hop
      obtain ⟨⟨id', t'⟩, hsend, h⟩ := bind_eq_ok h
      cases h
      rw [(sendMessage_ok hsend).2.2]
      exact ⟨_, List.mem_append_right _ (List.mem_singleton.mpr rfl), rfl, rfl⟩

/-- A call whose receipt handle no row has changes no row. -/
theorem step_unused {handle : Uuid} (h : QueueStep F s c t) (huses : c.Uses handle)
    (hnone : ∀ r ∈ s.rows, r.receiptHandle ≠ some handle) : t.rows = s.rows := by
  cases h with
  | raised hclock h => rfl
  | returned hclock h =>
      rcases huses with hop | ⟨n, hop⟩
      · dsimp only at hop
        subst hop
        cases h
        exact List.filter_eq_self.mpr fun r hr => decide_eq_true (hnone r hr)
      · dsimp only at hop
        subst hop
        obtain ⟨t', hchange, h⟩ := bind_eq_ok h
        cases h
        rw [changeMessageVisibility_ok hchange]
        refine (List.map_congr_left fun r hr => ?_).trans (List.map_id _)
        exact if_neg (hnone r hr)

/-- A receive returns rows whose window has ended. -/
theorem step_visible {id handle : Uuid} (h : QueueStep F s c t) (hin : (id, handle) ∈ c.receipts) :
    ∃ r ∈ s.rows, r.id = id ∧ r.visibleAt ≤ c.now := by
  cases h with
  | raised hclock h => cases hin
  | @returned _ now op answer hclock h =>
      cases op with
      | sendMessage body id =>
          obtain ⟨⟨id', t'⟩, -, h⟩ := bind_eq_ok h
          cases h
          cases hin
      | receiveMessages maximum visibilityTimeout handles =>
          obtain ⟨⟨messages, t'⟩, hreceive, h⟩ := bind_eq_ok h
          cases h
          obtain ⟨m, hm, heq⟩ := List.mem_map.mp hin
          rw [(receiveMessages_ok hreceive).1] at hm
          obtain ⟨r, hr, rfl⟩ := List.mem_map.mp hm
          cases heq
          exact ⟨r, (mem_selected hr).1, rfl, (mem_selected hr).2⟩
      | changeMessageVisibility receiptHandle timeoutSeconds =>
          obtain ⟨t', -, h⟩ := bind_eq_ok h
          cases h
          cases hin
      | deleteMessage receiptHandle =>
          cases h
          cases hin

/-! ## Runs -/

variable {trace past : History} {x : Taken Queue QueueCall}

theorem lease_snoc (id : Uuid) (past : History) (x : Taken Queue QueueCall) :
    History.lease id (past ++ [x]) = x.label.lease id (History.lease id past) := by
  unfold History.lease
  rw [List.foldl_append]
  rfl

theorem receipts_snoc (past : History) (x : Taken Queue QueueCall) :
    History.receipts (past ++ [x]) = History.receipts past ++ x.label.receipts := by
  unfold History.receipts
  rw [List.flatMap_append, List.flatMap_singleton]

/-- The rows store the leases that the calls say. -/
def Agrees (past : History) (s : Queue) : Prop :=
  ∀ r ∈ s.rows, r.lease = History.lease r.id past

theorem lease_of_sent {id : Uuid} {body : Str} {held : Option (Uuid × Time)}
    (h : c.Sent id body) : c.lease id held = none := by
  obtain ⟨hop, hresult⟩ := h
  unfold QueueCall.lease
  rw [hresult]
  exact if_pos rfl

theorem agrees_step (h : Agrees past x.source) (hstep : QueueStep F x.source x.label x.target) :
    Agrees (past ++ [x]) x.target := by
  intro r' hr'
  rw [lease_snoc]
  rcases step_lease hstep hr' with ⟨hsent, hnone⟩ | ⟨r, hr, hid, hlease⟩
  · rw [hnone, lease_of_sent hsent]
  · rw [hlease, hid, h r hr]

/-- A call that changes the handle of a message hands the new one out. -/
theorem receipt_of_lease {id handle : Uuid} {ends : Time} {held : Option (Uuid × Time)}
    (h : c.lease id held = some (handle, ends)) :
    (id, handle) ∈ c.receipts ∨ ∃ e, held = some (handle, e) := by
  unfold QueueCall.lease at h
  split at h
  · split_ifs at h
    exact .inr ⟨_, h⟩
  · rename_i messages _ visibilityTimeout _ hresult hop
    split at h
    · rename_i m hm
      cases h
      have hid : m.messageId = id := by simpa using List.find?_some hm
      refine .inl ?_
      unfold QueueCall.receipts
      rw [hresult, ← hid]
      exact List.mem_map.mpr ⟨m, List.mem_of_find?_eq_some hm, rfl⟩
    · exact .inr ⟨_, h⟩
  · obtain ⟨⟨handle', e⟩, hheld, heq⟩ := Option.map_eq_some_iff.mp h
    refine .inr ⟨e, ?_⟩
    split_ifs at heq <;> cases heq <;> exact hheld
  · exact .inr ⟨_, h⟩

theorem receipt_of_history {id handle : Uuid} {ends : Time} : ∀ {past : History},
    History.lease id past = some (handle, ends) → (id, handle) ∈ History.receipts past := by
  intro past
  induction past using List.reverseRecOn generalizing ends with
  | nil => exact fun h => nomatch h
  | append_singleton past x ih =>
      intro h
      rw [lease_snoc] at h
      rw [receipts_snoc, List.mem_append]
      rcases receipt_of_lease h with hin | ⟨e, hheld⟩
      · exact .inr hin
      · exact .inl (ih hheld)

theorem lastReceipt_of_row (h : Agrees past s) (hr : r ∈ s.rows) {handle : Uuid}
    (hhandle : r.receiptHandle = some handle) : History.lastReceipt r.id past = some handle := by
  have hlease := h r hr
  unfold QueueRow.lease at hlease
  rw [hhandle] at hlease
  unfold History.lastReceipt
  rw [← hlease]
  rfl

theorem windowEnd_of_row (h : Agrees past s) (hr : r ∈ s.rows) {ends : Time}
    (hends : History.windowEnd r.id past = some ends) : r.visibleAt = ends := by
  unfold History.windowEnd at hends
  rw [← h r hr] at hends
  unfold QueueRow.lease at hends
  rw [Option.map_map] at hends
  obtain ⟨_, -, heq⟩ := Option.map_eq_some_iff.mp hends
  exact heq

/-- The row of a message that was sent, and not deleted since with its most
recent handle. -/
def Kept (id : Uuid) (body : Str) (past : History) (s : Queue) : Prop :=
  ∀ before x mid, past = before ++ x :: mid → x.label.Sent id body →
    (∀ mid' y after, mid = mid' ++ y :: after → ∀ handle, y.label.op = .deleteMessage handle →
      y.label.result = .ok .done → History.lastReceipt id (before ++ x :: mid') ≠ some handle) →
    ∃ r ∈ s.rows, r.id = id ∧ r.body = body

theorem kept_step {id : Uuid} {body : Str} (hagrees : Agrees past x.source)
    (h : Kept id body past x.source) (hstep : QueueStep F x.source x.label x.target) :
    Kept id body (past ++ [x]) x.target := by
  intro before y mid heq hsent hdelete
  rcases List.eq_nil_or_concat mid with rfl | ⟨mid, z, rfl⟩
  · obtain ⟨-, heq⟩ := List.append_inj' heq rfl
    cases heq
    exact step_sent hstep hsent
  · rw [List.concat_eq_append, ← List.cons_append, ← List.append_assoc] at heq
    obtain ⟨hpast, heq⟩ := List.append_inj' heq rfl
    cases heq
    obtain ⟨r, hr, hid, hbody⟩ := h before y mid hpast hsent fun mid' z after hmid handle hop hdone =>
      hdelete mid' z (after ++ [x]) (by rw [hmid]; simp) handle hop hdone
    obtain ⟨r', hr', hid', hbody'⟩ := step_keeps hstep hr fun handle hop hdone hhandle =>
      hdelete mid x [] List.concat_eq_append handle hop hdone
        (hpast ▸ hid ▸ lastReceipt_of_row hagrees hr hhandle)
    exact ⟨r', hr', hid'.trans hid, hbody'.trans hbody⟩

end

/-- From the empty queue on, with fresh receipt handles: a message that was
sent stays until a delete with its most recent handle, an older handle changes
nothing, and a receive returns no message before the end of its window. -/
theorem queue_delivery (F : Type) [Runtime F] (clock : Time) (trace : History) (t : Queue)
    (h : Run (QueueStep F) (.empty clock) trace t)
    (hfresh : ((History.receipts trace).map Prod.snd).Nodup) :
    (∀ id body, Kept id body trace t)
      ∧ (∀ past x rest, trace = past ++ x :: rest → ∀ id handle,
        (id, handle) ∈ History.receipts past → History.lastReceipt id past ≠ some handle →
        x.label.Uses handle → x.target.rows = x.source.rows)
      ∧ ∀ past x rest, trace = past ++ x :: rest → ∀ id handle, (id, handle) ∈ x.label.receipts →
        ∀ ends, History.windowEnd id past = some ends → ends ≤ x.label.now := by
  have hagrees : ∀ past x rest, trace = past ++ x :: rest → Agrees past x.source :=
    fun past x rest heq =>
      h.history (I := Agrees) (fun _ _ hI hstep => agrees_step hI hstep)
        (fun r hr => nomatch hr) heq
  have hsteps : ∀ past x rest, trace = past ++ x :: rest →
      QueueStep F x.source x.label x.target := fun past x rest heq =>
    h.taken x (heq ▸ List.mem_append_right past (List.mem_cons_self ..))
  refine ⟨fun id body => ?_, fun past x rest heq id handle hin hold huses => ?_,
    fun past x rest heq id handle hin ends hends => ?_⟩
  · exact (h.history_last (I := fun past s => Agrees past s ∧ Kept id body past s)
      (fun past x hI hstep => ⟨agrees_step hI.1 hstep, kept_step hI.1 hI.2 hstep⟩)
      ⟨fun r hr => (nomatch hr), fun before x mid heq => by simp at heq⟩).2
  · -- A row with the handle would be the row of the message itself.
    refine step_unused (hsteps past x rest heq) huses fun r hr hhandle => hold ?_
    have hlast := lastReceipt_of_row (hagrees past x rest heq) hr hhandle
    obtain ⟨⟨handle', ends⟩, hlease, hfst⟩ := Option.map_eq_some_iff.mp hlast
    cases hfst
    have hnodup : ((History.receipts past).map Prod.snd).Nodup := by
      rw [heq] at hfresh
      unfold History.receipts at hfresh ⊢
      rw [List.flatMap_append, List.map_append] at hfresh
      exact hfresh.of_append_left
    have hsame := List.inj_on_of_nodup_map hnodup (receipt_of_history hlease) hin rfl
    rwa [(Prod.mk.inj hsame).1] at hlast
  · obtain ⟨r, hr, rfl, hvisible⟩ := step_visible (hsteps past x rest heq) hin
    rwa [windowEnd_of_row (hagrees past x rest heq) hr hends] at hvisible

/-! ## A message received twice -/

section

/-- The queue with the one message, after `n` receives. -/
def oneMessage (visibleAt : Time) (receiptHandle : Option Uuid) (n : Nat) (now : Time) : Queue where
  rows := [⟨"m", "\x7b\x7d", visibleAt, receiptHandle, n, 0, now⟩]
  distinct := List.nodup_singleton _
  clock := now

/-- The message is sent, received by one consumer, received by another after
the window, and deleted by the first one with its older handle. -/
def twiceReceived : History :=
  let second := interval 61
  [⟨.empty 0, ⟨0, .sendMessage "\x7b\x7d" "m", .ok (.sent "m")⟩, oneMessage 0 none 0 0⟩,
    ⟨oneMessage 0 none 0 0,
      ⟨0, .receiveMessages 10 60 (fun _ => "a"), .ok (.received [⟨"m", "a", "\x7b\x7d"⟩])⟩,
      oneMessage (interval 60) (some "a") 1 0⟩,
    ⟨oneMessage (interval 60) (some "a") 1 0,
      ⟨second, .receiveMessages 10 60 (fun _ => "b"), .ok (.received [⟨"m", "b", "\x7b\x7d"⟩])⟩,
      oneMessage (second + interval 60) (some "b") 2 second⟩,
    ⟨oneMessage (second + interval 60) (some "b") 2 second,
      ⟨second, .deleteMessage "a", .ok .done⟩,
      oneMessage (second + interval 60) (some "b") 2 second⟩]

theorem twiceReceived_run : Run (QueueStep FloatConst) (.empty 0) twiceReceived
    (oneMessage (interval 61 + interval 60) (some "b") 2 (interval 61)) := by
  refine .cons (.returned (le_refl _) rfl) (.cons (.returned (le_refl _) rfl)
    (.cons (.returned ?_ rfl) (.cons (.returned (le_refl _) rfl) (.nil _))))
  decide

theorem queue_delivery_twice :
    Kept "m" "\x7b\x7d" twiceReceived
      (oneMessage (interval 61 + interval 60) (some "b") 2 (interval 61)) :=
  (queue_delivery FloatConst 0 twiceReceived _ twiceReceived_run (by decide)).1 "m" "\x7b\x7d"

end

end Rigor.LocalQueue
