import Mathlib.Algebra.Order.Field.Rat
import Mathlib.Data.List.Sort
import Mathlib.Tactic.Linarith
import Mathlib.Tactic.NormNum
import Mathlib.Tactic.Positivity
import Rigor.ExecutionDomain
import Rigor.Tables

/-!
# Outbox batches

A batch of outbox messages is claimed, every message is handed to the queue,
and its row is marked as published or rescheduled with a capped exponential
delay, all in one transaction. The delay of a message is computed where its
failure is handled: `2 ** attempt_count` leaves the range of a double at 1024
attempts, and the batch is then rolled back (`batch_processed`).
-/

namespace Rigor.Outbox

open Py

variable {P : Type}

/-! ## The delay -/

/-- `ValueError(message)` or `OverflowError`. -/
inductive PublishError where
  | value (message : Str)
  | overflow
  deriving DecidableEq

/-- The exponent of the largest power of two that is a double. -/
def maxExponent : Nat := 1023

/-- The integers from here on round to no double. -/
def doubleLimit : Nat := 2 ^ (maxExponent + 1) - 2 ^ (maxExponent - 53)

/-- An integer as a factor of a float. -/
def floatOfInt (n : Int) : Except PublishError Rat :=
  if doubleLimit ≤ n.natAbs then .error .overflow else .ok n

/-- `retry_delay_seconds`. -/
def retryDelaySeconds (attemptCount : Int) (baseSeconds capSeconds jitterRatio : Rat) :
    Except PublishError Rat :=
  if attemptCount < 0 then .error (.value "attempt_count must be non-negative")
  else if ¬(0 ≤ jitterRatio ∧ jitterRatio ≤ 1) then
    .error (.value "jitter_ratio must be between 0 and 1")
  else do
    let factor ← floatOfInt (2 ^ attemptCount.toNat)
    let exponential := min capSeconds (baseSeconds * factor)
    .ok (min capSeconds (exponential * (1 / 2 + 1 / 2 * jitterRatio)))

/-- The delay with the default base and cap. -/
def delayOf (attemptCount : Nat) (jitterRatio : Rat) : Rat :=
  min 300 (min 300 (1 * 2 ^ attemptCount) * (1 / 2 + 1 / 2 * jitterRatio))

theorem two_pow_lt_doubleLimit {n : Nat} (h : n ≤ maxExponent) : 2 ^ n < doubleLimit := by
  have hle : 2 ^ n ≤ 2 ^ maxExponent := Nat.pow_le_pow_right Nat.two_pos h
  have hhalf : 2 ^ (maxExponent - 53) < 2 ^ maxExponent :=
    Nat.pow_lt_pow_right (by omega) (Nat.sub_lt (by unfold maxExponent; omega) (by omega))
  unfold doubleLimit
  rw [Nat.pow_succ]
  omega

theorem doubleLimit_le_two_pow {n : Nat} (h : maxExponent < n) : doubleLimit ≤ 2 ^ n :=
  Nat.le_trans (Nat.sub_le _ _) (Nat.pow_le_pow_right Nat.two_pos h)

theorem floatOfInt_two_pow (n : Nat) :
    floatOfInt (2 ^ n) = if n ≤ maxExponent then .ok (2 ^ n) else .error .overflow := by
  have hnat : ((2 : Int) ^ n).natAbs = 2 ^ n := by
    rw [Int.natAbs_pow]
    rfl
  unfold floatOfInt
  rw [hnat]
  by_cases h : n ≤ maxExponent
  · rw [if_pos h, if_neg (Nat.not_le.mpr (two_pow_lt_doubleLimit h))]
    push_cast
    rfl
  · rw [if_neg h, if_pos (doubleLimit_le_two_pow (Nat.not_le.mp h))]

theorem retryDelaySeconds_eq {n : Nat} {jitter : Rat} (h0 : 0 ≤ jitter) (h1 : jitter ≤ 1) :
    retryDelaySeconds n 1 300 jitter
      = if n ≤ maxExponent then .ok (delayOf n jitter) else .error .overflow := by
  unfold retryDelaySeconds
  rw [if_neg (by omega), if_neg (not_not_intro ⟨h0, h1⟩), Int.toNat_natCast, floatOfInt_two_pow]
  split_ifs <;> rfl

theorem delayOf_bounds {n : Nat} {jitter : Rat} (h0 : 0 ≤ jitter) :
    0 < delayOf n jitter ∧ delayOf n jitter ≤ 300 := by
  unfold delayOf
  refine ⟨lt_min (by norm_num) (mul_pos (lt_min (by norm_num) (by positivity)) ?_), min_le_left ..⟩
  linarith

/-- With equal jitter the delay does not shrink. -/
theorem delayOf_mono {n n' : Nat} {jitter : Rat} (h0 : 0 ≤ jitter) (hle : n ≤ n') :
    delayOf n jitter ≤ delayOf n' jitter := by
  have hpow : (1 : Rat) * 2 ^ n ≤ 1 * 2 ^ n' := by
    rw [one_mul, one_mul]
    exact pow_le_pow_right₀ (by norm_num) hle
  unfold delayOf
  refine min_le_min_left _ (mul_le_mul_of_nonneg_right (min_le_min_left _ hpow) ?_)
  linarith

/-! ## The table -/

structure OutboxMessage (P : Type) where
  id : Uuid
  aggregateType : Str
  aggregateId : Uuid
  eventType : Str
  payload : P
  createdAt : Rat
  attemptCount : Nat
  deriving DecidableEq

/-- A row of `execution_outbox`. -/
structure OutboxRow (P : Type) where
  message : OutboxMessage P
  publishedAt : Option Rat
  nextAttemptAt : Rat
  lastError : Option Str

def OutboxRow.id (r : OutboxRow P) : Uuid := r.message.id

/-- The calls of the two marks. -/
inductive OutboxCall where
  | markPublished (id : Uuid)
  | markFailed (id : Uuid) (attemptCount : Nat) (error : Str)

/-- The table, under its primary key, and the marks made so far. -/
structure OutboxStore (P : Type) where
  rows : List (OutboxRow P)
  distinct : (rows.map OutboxRow.id).Nodup
  calls : List OutboxCall

def OutboxStore.row (id : Uuid) (s : OutboxStore P) : Option (OutboxRow P) :=
  Tables.find OutboxRow.id id s.rows

/-- A change of the row with the identifier, unless it is published. -/
def OutboxStore.mark (id : Uuid) (f : OutboxRow P → OutboxRow P)
    (hf : ∀ r, (f r).message.id = r.message.id) (call : OutboxCall) (s : OutboxStore P) :
    OutboxStore P where
  rows := Tables.update OutboxRow.id id (fun r => if r.publishedAt = none then f r else r) s.rows
  distinct := by
    rw [Tables.map_update (fun r _ _ => ?_)]
    · exact s.distinct
    · split_ifs
      · exact hf r
      · rfl
  calls := s.calls ++ [call]

/-! ## The publisher -/

/-- What the batch takes from outside: the exception that the queue raises for
a message, `random.random()`, the clock at each reschedule and of the
database, and the rows that other transactions have locked. -/
structure PublishEnvironment (P : Type) where
  publish : OutboxMessage P → Option Str
  random : Uuid → Rat
  random_range : ∀ id, 0 ≤ random id ∧ random id < 1
  now : Uuid → Rat
  databaseNow : Rat
  locked : Uuid → Bool

structure PublishBatchResult where
  claimed : Nat
  published : Nat
  failed : Nat

def createdBefore (r r' : OutboxRow P) : Prop :=
  r.message.createdAt < r'.message.createdAt
    ∨ (r.message.createdAt = r'.message.createdAt ∧ r.id ≤ r'.id)

instance (r r' : OutboxRow P) : Decidable (createdBefore r r') :=
  inferInstanceAs (Decidable (_ ∨ _))

def claimBatch (env : PublishEnvironment P) (limit : Int) (s : OutboxStore P) :
    Except PublishError (List (OutboxMessage P)) :=
  if ¬(1 ≤ limit ∧ limit ≤ 100) then .error (.value "limit must be between 1 and 100")
  else
    let due := s.rows.filter fun r =>
      r.publishedAt = none ∧ r.nextAttemptAt ≤ env.databaseNow ∧ env.locked r.id = false
    .ok (((due.insertionSort createdBefore).take limit.toNat).map OutboxRow.message)

def markPublished (env : PublishEnvironment P) (messageId : Uuid) (s : OutboxStore P) :
    OutboxStore P :=
  s.mark messageId (fun r => { r with publishedAt := some env.databaseNow, lastError := none })
    (fun _ => rfl) (.markPublished messageId)

/-- `mark_failed`, with the jitter drawn at random. -/
def markFailed (env : PublishEnvironment P) (messageId : Uuid) (attemptCount : Nat) (error : Str)
    (s : OutboxStore P) : Except PublishError (OutboxStore P) := do
  let delay ← retryDelaySeconds attemptCount 1 300 (env.random messageId)
  .ok (s.mark messageId
    (fun r => { r with
      message := { r.message with attemptCount := r.message.attemptCount + 1 }
      nextAttemptAt := env.now messageId + delay
      lastError := some (error.take 4000) })
    (fun _ => rfl) (.markFailed messageId attemptCount error))

/-- The loop of `publish_claimed_messages`, with its two counters. -/
def publishMessages (env : PublishEnvironment P) :
    List (OutboxMessage P) → Nat → Nat → OutboxStore P →
      Except PublishError ((Nat × Nat) × OutboxStore P)
  | [], published, failed, s => .ok ((published, failed), s)
  | message :: rest, published, failed, s =>
      match env.publish message with
      | some error => do
          let s ← markFailed env message.id message.attemptCount error s
          publishMessages env rest published (failed + 1) s
      | none => publishMessages env rest (published + 1) failed (markPublished env message.id s)

def publishClaimedMessages (env : PublishEnvironment P) (limit : Int) (s : OutboxStore P) :
    Except PublishError (PublishBatchResult × OutboxStore P) := do
  let messages ← claimBatch env limit s
  let ((published, failed), s) ← publishMessages env messages 0 0 s
  .ok (⟨messages.length, published, failed⟩, s)

/-- `publish_outbox_batch` in the transaction of its caller. -/
def publishOutboxBatch (env : PublishEnvironment P) (limit : Int) (s : OutboxStore P) :
    Except PublishError PublishBatchResult × OutboxStore P :=
  match publishClaimedMessages env limit s with
  | .ok (result, s') => (.ok result, s')
  | .error e => (.error e, s)

/-! ## One message -/

section

variable {env : PublishEnvironment P} {s s' : OutboxStore P} {m : OutboxMessage P}
  {messages : List (OutboxMessage P)}

/-- The call that a message leads to. -/
def PublishEnvironment.call (env : PublishEnvironment P) (m : OutboxMessage P) : OutboxCall :=
  match env.publish m with
  | none => .markPublished m.id
  | some error => .markFailed m.id m.attemptCount error

/-- The row behind the call. -/
def PublishEnvironment.handle (env : PublishEnvironment P) (r : OutboxRow P) : OutboxRow P :=
  match env.publish r.message with
  | none => { r with publishedAt := some env.databaseNow, lastError := none }
  | some error => { r with
      message := { r.message with attemptCount := r.message.attemptCount + 1 }
      nextAttemptAt := env.now r.id + delayOf r.message.attemptCount (env.random r.id)
      lastError := some (error.take 4000) }

/-- The row of a claimed message is as it was claimed. -/
def OutboxStore.Pending (s : OutboxStore P) (m : OutboxMessage P) : Prop :=
  ∃ r, s.row m.id = some r ∧ r.message = m ∧ r.publishedAt = none

theorem mark_row {id id' : Uuid} {f : OutboxRow P → OutboxRow P}
    {hf : ∀ r, (f r).message.id = r.message.id} {call : OutboxCall} :
    (s.mark id f hf call).row id'
      = (s.row id').map fun r => if r.id = id then (if r.publishedAt = none then f r else r) else r :=
  Tables.find_update fun r => by
    split_ifs
    · exact hf r
    · rfl

theorem mark_row_of_ne {id id' : Uuid} {f : OutboxRow P → OutboxRow P}
    {hf : ∀ r, (f r).message.id = r.message.id} {call : OutboxCall} (hne : id' ≠ id) :
    (s.mark id f hf call).row id' = s.row id' := by
  rw [mark_row]
  cases hrow : s.row id' with
  | none => rfl
  | some r =>
      rw [Option.map_some, if_neg]
      rw [Tables.key_of_find hrow]
      exact hne

theorem mark_row_self {f : OutboxRow P → OutboxRow P}
    {hf : ∀ r, (f r).message.id = r.message.id} {call : OutboxCall} {r : OutboxRow P}
    (hrow : s.row m.id = some r) (hpending : r.publishedAt = none) :
    (s.mark m.id f hf call).row m.id = some (f r) := by
  rw [mark_row, hrow, Option.map_some, if_pos (Tables.key_of_find hrow), if_pos hpending]

/-- What handling a message changes. -/
structure Handled (env : PublishEnvironment P) (m : OutboxMessage P) (s s' : OutboxStore P) :
    Prop where
  calls : s'.calls = s.calls ++ [env.call m]
  row : ∀ r, s.row m.id = some r → r.message = m → r.publishedAt = none →
    s'.row m.id = some (env.handle r)
  others : ∀ id, id ≠ m.id → s'.row id = s.row id

theorem markPublished_handled (h : env.publish m = none) :
    Handled env m s (markPublished env m.id s) := by
  refine ⟨?_, fun r hrow hm hpending => ?_, fun id hne => mark_row_of_ne hne⟩
  · unfold PublishEnvironment.call
    rw [h]
    rfl
  · refine (mark_row_self hrow hpending).trans (congrArg some ?_)
    unfold PublishEnvironment.handle
    rw [hm, h]

theorem markFailed_eq (env : PublishEnvironment P) (m : OutboxMessage P) (error : Str)
    (s : OutboxStore P) (hattempts : m.attemptCount ≤ maxExponent) :
    ∃ s', markFailed env m.id m.attemptCount error s = .ok s'
      ∧ (env.publish m = some error → Handled env m s s') := by
  obtain ⟨h0, h1⟩ := env.random_range m.id
  unfold markFailed
  rw [retryDelaySeconds_eq h0 h1.le, if_pos hattempts]
  refine ⟨_, rfl, fun h => ⟨?_, fun r hrow hm hpending => ?_, fun id hne => mark_row_of_ne hne⟩⟩
  · unfold PublishEnvironment.call
    rw [h]
    rfl
  · refine (mark_row_self hrow hpending).trans (congrArg some ?_)
    unfold PublishEnvironment.handle OutboxRow.id
    rw [hm, h]

theorem markFailed_overflow (env : PublishEnvironment P) (m : OutboxMessage P) (error : Str)
    (s : OutboxStore P) (hattempts : maxExponent < m.attemptCount) :
    markFailed env m.id m.attemptCount error s = .error .overflow := by
  obtain ⟨h0, h1⟩ := env.random_range m.id
  unfold markFailed
  rw [retryDelaySeconds_eq h0 h1.le, if_neg (Nat.not_le.mpr hattempts)]
  rfl

/-! ## The loop -/

/-- The messages that the queue takes. -/
def PublishEnvironment.delivered (env : PublishEnvironment P) (messages : List (OutboxMessage P)) :
    Nat :=
  messages.countP fun m => (env.publish m).isNone

def PublishEnvironment.refused (env : PublishEnvironment P) (messages : List (OutboxMessage P)) :
    Nat :=
  messages.countP fun m => (env.publish m).isSome

theorem delivered_add_refused (env : PublishEnvironment P) (messages : List (OutboxMessage P)) :
    env.delivered messages + env.refused messages = messages.length := by
  unfold PublishEnvironment.delivered PublishEnvironment.refused
  rw [List.length_eq_countP_add_countP fun m => (env.publish m).isNone]
  refine congrArg _ (List.countP_congr fun m _ => ?_)
  cases env.publish m <;> simp

/-- What the loop leaves. -/
structure LoopHandled (env : PublishEnvironment P) (messages : List (OutboxMessage P))
    (s s' : OutboxStore P) : Prop where
  calls : s'.calls = s.calls ++ messages.map env.call
  rows : ∀ m ∈ messages, ∃ r, r.message = m ∧ r.publishedAt = none
    ∧ s'.row m.id = some (env.handle r)
  others : ∀ id, id ∉ messages.map OutboxMessage.id → s'.row id = s.row id

theorem LoopHandled.cons {t : OutboxStore P} (hfirst : Handled env m s t)
    (hpending : s.Pending m) (hnot : m.id ∉ messages.map OutboxMessage.id)
    (hrest : LoopHandled env messages t s') : LoopHandled env (m :: messages) s s' where
  calls := by rw [hrest.calls, hfirst.calls, List.map_cons, List.append_assoc, List.singleton_append]
  rows := by
    obtain ⟨r, hrow, hm, hnone⟩ := hpending
    refine List.forall_mem_cons.mpr ⟨⟨r, hm, hnone, ?_⟩, hrest.rows⟩
    rw [hrest.others _ hnot, hfirst.row r hrow hm hnone]
  others id hid := by
    rw [List.map_cons, List.mem_cons, not_or] at hid
    rw [hrest.others id hid.2, hfirst.others id hid.1]

/-- The later messages are still as they were claimed. -/
theorem Handled.pending (h : Handled env m s s')
    (hnot : m.id ∉ messages.map OutboxMessage.id) (hpending : ∀ m' ∈ messages, s.Pending m') :
    ∀ m' ∈ messages, s'.Pending m' := by
  intro m' hm'
  obtain ⟨r, hrow, hr⟩ := hpending m' hm'
  have hne : m'.id ≠ m.id := fun heq => hnot (heq ▸ List.mem_map_of_mem hm')
  exact ⟨r, (h.others m'.id hne).trans hrow, hr⟩

theorem publishMessages_ok (hids : (messages.map OutboxMessage.id).Nodup)
    (hpending : ∀ m ∈ messages, s.Pending m)
    (hattempts : ∀ m ∈ messages, (env.publish m).isSome → m.attemptCount ≤ maxExponent)
    (published failed : Nat) :
    ∃ s', publishMessages env messages published failed s
        = .ok ((published + env.delivered messages, failed + env.refused messages), s')
      ∧ LoopHandled env messages s s' := by
  induction messages generalizing s published failed with
  | nil => exact ⟨s, rfl, ⟨(List.append_nil _).symm, fun _ h => (nomatch h), fun _ _ => rfl⟩⟩
  | cons m rest ih =>
      rw [List.map_cons, List.nodup_cons] at hids
      obtain ⟨hfirst, hrest⟩ := List.forall_mem_cons.mp hpending
      obtain ⟨hattempt, hattempts⟩ := List.forall_mem_cons.mp hattempts
      unfold publishMessages PublishEnvironment.delivered PublishEnvironment.refused
      cases hpublish : env.publish m with
      | none =>
          have hmarked := markPublished_handled (s := s) hpublish
          obtain ⟨s', hs', hloop⟩ := ih hids.2 (hmarked.pending hids.1 hrest) hattempts
            (published + 1) failed
          refine ⟨s', ?_, hloop.cons hmarked hfirst hids.1⟩
          rw [List.countP_cons_of_pos (by rw [hpublish]; rfl),
            List.countP_cons_of_neg (by rw [hpublish]; exact Bool.false_ne_true)]
          refine hs'.trans ?_
          unfold PublishEnvironment.delivered PublishEnvironment.refused
          rw [Nat.add_right_comm, ← Nat.add_assoc]
      | some error =>
          rw [hpublish] at hattempt
          obtain ⟨t, ht, hmarked⟩ := markFailed_eq env m error s (hattempt rfl)
          obtain ⟨s', hs', hloop⟩ := ih hids.2 ((hmarked hpublish).pending hids.1 hrest) hattempts
            published (failed + 1)
          refine ⟨s', ?_, hloop.cons (hmarked hpublish) hfirst hids.1⟩
          rw [List.countP_cons_of_neg (by rw [hpublish]; exact Bool.false_ne_true),
            List.countP_cons_of_pos (by rw [hpublish]; rfl)]
          dsimp only
          rw [ht]
          refine hs'.trans ?_
          unfold PublishEnvironment.delivered PublishEnvironment.refused
          rw [Nat.add_right_comm failed, ← Nat.add_assoc]

/-- One refused message with too many attempts ends the loop. -/
theorem publishMessages_overflow
    (h : ∃ m ∈ messages, (env.publish m).isSome ∧ maxExponent < m.attemptCount)
    (published failed : Nat) : publishMessages env messages published failed s = .error .overflow := by
  induction messages generalizing s published failed with
  | nil =>
      obtain ⟨m, hm, -⟩ := h
      cases hm
  | cons m rest ih =>
      unfold publishMessages
      cases hpublish : env.publish m with
      | none =>
          obtain ⟨m', hm', hsome, hattempts⟩ := h
          rcases List.mem_cons.mp hm' with rfl | hm'
          · rw [hpublish] at hsome
            cases hsome
          · exact ih ⟨m', hm', hsome, hattempts⟩ ..
      | some error =>
          dsimp only
          rcases Nat.lt_or_ge maxExponent m.attemptCount with hmany | hfew
          · rw [markFailed_overflow env m error s hmany]
            rfl
          · obtain ⟨t, ht, -⟩ := markFailed_eq env m error s hfew
            rw [ht]
            obtain ⟨m', hm', hsome, hattempts⟩ := h
            rcases List.mem_cons.mp hm' with rfl | hm'
            · exact absurd hattempts (Nat.not_lt.mpr hfew)
            · exact ih ⟨m', hm', hsome, hattempts⟩ ..

/-! ## The batch -/

theorem claimBatch_nodup {limit : Int} (h : claimBatch env limit s = .ok messages) :
    (messages.map OutboxMessage.id).Nodup := by
  unfold claimBatch at h
  split_ifs at h
  cases h
  rw [List.map_map, List.map_take]
  refine List.Nodup.sublist (List.take_sublist _ _) ?_
  rw [((List.perm_insertionSort createdBefore _).map _).nodup_iff]
  exact s.distinct.sublist (List.filter_sublist.map _)

theorem claimBatch_pending {limit : Int} (h : claimBatch env limit s = .ok messages) :
    ∀ m ∈ messages, s.Pending m := by
  unfold claimBatch at h
  split_ifs at h
  cases h
  intro m hm
  obtain ⟨r, hr, rfl⟩ := List.mem_map.mp hm
  have hdue := (List.mem_insertionSort createdBefore).mp (List.mem_of_mem_take hr)
  obtain ⟨hrow, hpending⟩ := List.mem_filter.mp hdue
  exact ⟨r, Tables.find_of_mem s.distinct hrow, rfl, (of_decide_eq_true hpending).1⟩

/-- What a batch does to a row whose message the queue refused. -/
structure Rescheduled (env : PublishEnvironment P) (m : OutboxMessage P) (r : OutboxRow P)
    (delay : Rat) : Prop where
  computed : retryDelaySeconds m.attemptCount 1 300 (env.random m.id) = .ok delay
  positive : 0 < delay
  capped : delay ≤ 300
  nextAttempt : r.nextAttemptAt = env.now m.id + delay
  attempts : r.message.attemptCount = m.attemptCount + 1
  pending : r.publishedAt = none

/-- Every message of the batch is marked, in order, by what the queue did with
it, and nothing else is. -/
structure ProcessedCompletely (env : PublishEnvironment P) (messages : List (OutboxMessage P))
    (s : OutboxStore P) (result : PublishBatchResult) (s' : OutboxStore P) : Prop where
  claimed : result.claimed = messages.length
  sum : result.claimed = result.published + result.failed
  published : result.published = env.delivered messages
  calls : s'.calls = s.calls ++ messages.map env.call
  publishedRow : ∀ m ∈ messages, env.publish m = none →
    ∃ r, s'.row m.id = some r ∧ r.publishedAt = some env.databaseNow
  rescheduledRow : ∀ m ∈ messages, (env.publish m).isSome →
    ∃ r delay, s'.row m.id = some r ∧ Rescheduled env m r delay
  others : ∀ id, id ∉ messages.map OutboxMessage.id → s'.row id = s.row id

theorem LoopHandled.publishedRow (h : LoopHandled env messages s s') (hm : m ∈ messages)
    (hpublish : env.publish m = none) :
    ∃ r, s'.row m.id = some r ∧ r.publishedAt = some env.databaseNow := by
  obtain ⟨r, hr, -, hrow⟩ := h.rows m hm
  refine ⟨_, hrow, ?_⟩
  unfold PublishEnvironment.handle
  rw [hr, hpublish]

theorem LoopHandled.rescheduledRow (h : LoopHandled env messages s s') (hm : m ∈ messages)
    (hpublish : (env.publish m).isSome) (hattempts : m.attemptCount ≤ maxExponent) :
    ∃ r delay, s'.row m.id = some r ∧ Rescheduled env m r delay := by
  obtain ⟨r, hr, hpending, hrow⟩ := h.rows m hm
  obtain ⟨error, herror⟩ := Option.isSome_iff_exists.mp hpublish
  obtain ⟨h0, h1⟩ := env.random_range m.id
  obtain ⟨hpos, hcap⟩ := delayOf_bounds (n := m.attemptCount) h0
  have hhandle : env.handle r = { r with
      message := { r.message with attemptCount := r.message.attemptCount + 1 }
      nextAttemptAt := env.now r.id + delayOf r.message.attemptCount (env.random r.id)
      lastError := some (error.take 4000) } := by
    unfold PublishEnvironment.handle
    rw [hr, herror]
  have hid : r.id = m.id := congrArg OutboxMessage.id hr
  refine ⟨_, delayOf m.attemptCount (env.random m.id), hrow, ?_, hpos, hcap, ?_, ?_, ?_⟩
  · rw [retryDelaySeconds_eq h0 h1.le, if_pos hattempts]
  · rw [hhandle, hid, hr]
  · rw [hhandle, hr]
  · rw [hhandle]
    exact hpending

theorem publishClaimedMessages_ok {limit : Int} (hclaim : claimBatch env limit s = .ok messages)
    (hattempts : ∀ m ∈ messages, (env.publish m).isSome → m.attemptCount ≤ maxExponent) :
    ∃ result s', publishClaimedMessages env limit s = .ok (result, s')
      ∧ ProcessedCompletely env messages s result s' := by
  obtain ⟨s', hs', hloop⟩ := publishMessages_ok (claimBatch_nodup hclaim)
    (claimBatch_pending hclaim) hattempts 0 0
  refine ⟨⟨messages.length, env.delivered messages, env.refused messages⟩, s', ?_, ?_⟩
  · unfold publishClaimedMessages
    rw [hclaim]
    change (do let ((published, failed), s) ← publishMessages env messages 0 0 s; _) = _
    rw [hs', Nat.zero_add, Nat.zero_add]
    rfl
  · exact {
      claimed := rfl
      sum := (delivered_add_refused env messages).symm
      published := rfl
      calls := hloop.calls
      publishedRow := fun m hm => hloop.publishedRow hm
      rescheduledRow := fun m hm hpublish =>
        hloop.rescheduledRow hm hpublish (hattempts m hm hpublish)
      others := hloop.others }

theorem publishClaimedMessages_overflow {limit : Int}
    (hclaim : claimBatch env limit s = .ok messages)
    (h : ∃ m ∈ messages, (env.publish m).isSome ∧ maxExponent < m.attemptCount) :
    publishClaimedMessages env limit s = .error .overflow := by
  unfold publishClaimedMessages
  rw [hclaim]
  change (do let ((published, failed), s) ← publishMessages env messages 0 0 s; _) = _
  rw [publishMessages_overflow h]
  rfl

/-- The abort undoes the marks of the messages that were sent. -/
theorem publishOutboxBatch_overflow {limit : Int} (hclaim : claimBatch env limit s = .ok messages)
    (h : ∃ m ∈ messages, (env.publish m).isSome ∧ maxExponent < m.attemptCount) :
    publishOutboxBatch env limit s = (.error .overflow, s) := by
  unfold publishOutboxBatch
  rw [publishClaimedMessages_overflow hclaim h]

theorem retryDelaySeconds_mono {n n' : Nat} {jitter delay delay' : Rat} (h0 : 0 ≤ jitter)
    (h1 : jitter ≤ 1) (hle : n ≤ n') (h : retryDelaySeconds n 1 300 jitter = .ok delay)
    (h' : retryDelaySeconds n' 1 300 jitter = .ok delay') : delay ≤ delay' := by
  rw [retryDelaySeconds_eq h0 h1] at h h'
  split_ifs at h h'
  cases h
  cases h'
  exact delayOf_mono h0 hle

end

/-- A claimed batch is processed completely exactly when no message that the
queue refuses has had more than 1023 attempts. -/
theorem batch_processed (env : PublishEnvironment P) (limit : Int) (s : OutboxStore P)
    (messages : List (OutboxMessage P)) (hclaim : claimBatch env limit s = .ok messages) :
    ((∃ result s', publishClaimedMessages env limit s = .ok (result, s')
          ∧ ProcessedCompletely env messages s result s')
        ∧ ∀ (n n' : Nat) (jitter delay delay' : Rat), 0 ≤ jitter → jitter ≤ 1 → n ≤ n' →
          retryDelaySeconds n 1 300 jitter = .ok delay →
          retryDelaySeconds n' 1 300 jitter = .ok delay' → delay ≤ delay')
      ↔ ∀ m ∈ messages, (env.publish m).isSome → m.attemptCount ≤ maxExponent := by
  constructor
  · rintro ⟨⟨result, s', hok, -⟩, -⟩ m hm hpublish
    by_contra hmany
    rw [publishClaimedMessages_overflow hclaim ⟨m, hm, hpublish, Nat.not_le.mp hmany⟩] at hok
    cases hok
  · intro hattempts
    exact ⟨publishClaimedMessages_ok hclaim hattempts,
      fun n n' jitter delay delay' h0 h1 hle h h' => retryDelaySeconds_mono h0 h1 hle h h'⟩

/-! ## Two messages -/

section

def outboxMessage (id : Uuid) (attemptCount : Nat) : OutboxMessage Unit where
  id := id
  aggregateType := "EXECUTION"
  aggregateId := id
  eventType := "EXECUTION_REQUESTED"
  payload := ()
  createdAt := 0
  attemptCount := attemptCount

/-- The first message was never tried, the second one `attemptCount` times. -/
def outboxStore (attemptCount : Nat) : OutboxStore Unit where
  rows := [⟨outboxMessage "a" 0, none, 0, none⟩, ⟨outboxMessage "b" attemptCount, none, 0, none⟩]
  distinct := by
    change [("a" : Str), ("b" : Str)].Nodup
    decide
  calls := []

/-- The queue takes the first message and refuses the second. -/
def outageEnvironment : PublishEnvironment Unit where
  publish m := if m.id = "a" then none else some "queue unavailable"
  random _ := 0
  random_range _ := ⟨le_refl 0, zero_lt_one⟩
  now _ := 0
  databaseNow := 0
  locked _ := false

theorem outageEnvironment_claim (attemptCount : Nat) :
    claimBatch outageEnvironment 50 (outboxStore attemptCount)
      = .ok [outboxMessage "a" 0, outboxMessage "b" attemptCount] := by
  have hfirst : createdBefore (⟨outboxMessage "a" 0, none, 0, none⟩ : OutboxRow Unit)
      ⟨outboxMessage "b" attemptCount, none, 0, none⟩ := by
    refine Or.inr ⟨rfl, ?_⟩
    change ("a" : Str) ≤ ("b" : Str)
    decide
  have hsort : (outboxStore attemptCount).rows.insertionSort createdBefore
      = (outboxStore attemptCount).rows := by
    unfold outboxStore
    rw [List.insertionSort_cons, List.insertionSort_cons, List.insertionSort_nil,
      List.orderedInsert_nil, List.orderedInsert_cons, if_pos hfirst]
  have hdue : (outboxStore attemptCount).rows.filter (fun r =>
      r.publishedAt = none ∧ r.nextAttemptAt ≤ outageEnvironment.databaseNow
        ∧ outageEnvironment.locked r.id = false) = (outboxStore attemptCount).rows := by
    refine List.filter_eq_self.mpr fun r hr => decide_eq_true ?_
    rcases List.mem_cons.mp hr with rfl | hr
    · exact ⟨rfl, le_refl _, rfl⟩
    · rw [List.mem_singleton.mp hr]
      exact ⟨rfl, le_refl _, rfl⟩
  unfold claimBatch
  rw [if_neg (by decide)]
  dsimp only
  rw [hdue, hsort]
  rfl

theorem batch_processed_five :
    (∃ result s', publishClaimedMessages outageEnvironment 50 (outboxStore 5) = .ok (result, s')
        ∧ ProcessedCompletely outageEnvironment [outboxMessage "a" 0, outboxMessage "b" 5]
          (outboxStore 5) result s') :=
  ((batch_processed outageEnvironment 50 (outboxStore 5) _ (outageEnvironment_claim 5)).mpr (by
    decide)).1

/-- The first message was sent and its row is due again. -/
theorem outage_not_processed :
    publishOutboxBatch outageEnvironment 50 (outboxStore (maxExponent + 1))
        = (.error .overflow, outboxStore (maxExponent + 1))
      ∧ ¬∃ result s', publishClaimedMessages outageEnvironment 50 (outboxStore (maxExponent + 1))
        = .ok (result, s') := by
  have hclaim := outageEnvironment_claim (maxExponent + 1)
  have hmany : ∃ m ∈ [outboxMessage "a" 0, outboxMessage "b" (maxExponent + 1)],
      (outageEnvironment.publish m).isSome ∧ maxExponent < m.attemptCount :=
    ⟨_, List.mem_cons_of_mem _ (List.mem_singleton.mpr rfl), rfl, Nat.lt_succ_self _⟩
  refine ⟨publishOutboxBatch_overflow hclaim hmany, ?_⟩
  rintro ⟨result, s', hok⟩
  rw [publishClaimedMessages_overflow hclaim hmany] at hok
  cases hok

end

end Rigor.Outbox
