import Rigor.Delivery

/-!
# No execution is forgotten

Runs of `Delivery.Step`. `Inv` holds in all of them: what is in the queues was
sent for a row of the outbox, and whoever is about to delete a message has
seen that its execution is past it. `Kept` holds as long as the queues lose
nothing: the message of an execution that waits is somewhere.
-/

namespace Rigor

open Py Runs Transport

namespace Delivery

variable {F : Type} [Runtime F]

/-! ## The invariant -/

/-- The row asks for an execution that still waits. -/
def Awaited (m : OutboxMessage) (db : Db F) : Prop :=
  m.eventType = "execution.requested" ∧ ∃ e, db.execution m.aggregateId = some e ∧ e.state = .queued

/-- The message was sent for a row of the outbox. -/
structure State.Sent (l : Letter Str) (s : State F) : Prop where
  number : l.number < s.next
  row : ∃ m ∈ s.db.outbox, l.body = m.body F

/-- The execution that the message asks for does not wait any more. -/
def Claimed (readers : FieldReaders F) (l : Letter Str) (db : Db F) : Prop :=
  ∃ event, readEvent readers l.body = .ok event ∧ ∀ request, event = .requested request →
    ∃ e, db.execution request.executionId = some e ∧ e.state ≠ .queued

/-- Nothing is left to do for the message. -/
def Discardable (readers : FieldReaders F) (l : Letter Str) (db : Db F) : Prop :=
  ∃ event e, readEvent readers l.body = .ok event ∧ db.execution event.executionId = some e
    ∧ e.Over event

/-- What a process relies on. -/
def State.Sound (readers : FieldReaders F) (s : State F) : Process → Prop
  | .publishing rest sent => (∀ m ∈ rest, m ∈ s.db.outbox) ∧ ∀ m ∈ sent, m ∈ s.db.outbox
  | .received l | .inspecting l => s.Sent l
  | .replaying l | .replayed l => s.Sent l ∧ ∃ event, readEvent readers l.body = .ok event
  | .acknowledging l => s.Sent l ∧ Claimed readers l s.db
  | .discarding l => s.Sent l ∧ Discardable readers l s.db
  | .finished => True

/-- An execution whose trace id the workers reject only leaves the queue by
being cancelled. -/
structure Traced (e : Execution F) : Prop where
  fits : FitsTraceId e.row.traceId
  state : e.state = .queued ∨ e.state = .cancelled ∨ AcceptedTraceId e.row.traceId

structure Inv (readers : FieldReaders F) (s : State F) : Prop where
  announced : s.db.Announced
  traced : ∀ e ∈ s.db.executions, Traced e
  published : ∀ key, s.publishedAt key ≠ none → ∃ m ∈ s.db.outbox, m.dedupeKey = key
  sent : ∀ l ∈ s.letters, s.Sent l
  sound : ∀ p ∈ s.processes, s.Sound readers p

/-! ## Rows and messages -/

section

variable {readers : FieldReaders F} {db db' : Db F} {l : Letter Str} {m : OutboxMessage}

omit [Runtime F] in
theorem Awaited.of_later (h : Awaited m db') (hlater : db.Later db') (hdb : db.Announced)
    (hm : m ∈ db.outbox) : Awaited m db := by
  obtain ⟨htype, e', he', hqueued⟩ := h
  obtain ⟨e, he⟩ := hdb.known m hm
  obtain ⟨e'', he'', hfollows⟩ := hlater.execution _ e he
  obtain rfl := Option.some.inj (he''.symm.trans he')
  exact ⟨htype, e, he, hfollows.queued hqueued⟩

theorem Claimed.later (h : Claimed readers l db) (hlater : db.Later db') :
    Claimed readers l db' := by
  obtain ⟨event, hread, hclaimed⟩ := h
  refine ⟨event, hread, fun request heq => ?_⟩
  obtain ⟨e, he, hne⟩ := hclaimed request heq
  obtain ⟨e', he', hfollows⟩ := hlater.execution _ e he
  exact ⟨e', he', fun hqueued => hne (hfollows.queued hqueued)⟩

theorem Discardable.later (h : Discardable readers l db) (hlater : db.Later db') :
    Discardable readers l db' := by
  obtain ⟨event, e, hread, he, hover⟩ := h
  obtain ⟨e', he', hfollows⟩ := hlater.execution _ e he
  exact ⟨event, e', hread, he', hfollows.over hover⟩

theorem Discardable.claimed (h : Discardable readers l db) : Claimed readers l db := by
  obtain ⟨event, e, hread, he, hover⟩ := h
  refine ⟨event, hread, ?_⟩
  rintro request rfl
  exact ⟨e, he, fun hqueued => queued_not_terminal (hqueued ▸ hover.1)⟩

/-- A message that asks for an execution was sent for its row. -/
theorem event_of_read (hfits : RuntimeFits F) (hm : m.Written) (hbody : l.body = m.body F)
    {event : ExecutionQueueEvent} (hread : readEvent readers l.body = .ok event) :
    m.event = some event := by
  rw [hbody, readEvent_body hfits hm] at hread
  cases hevent : m.event with
  | none => rw [hevent] at hread; cases hread
  | some event' =>
      rw [hevent] at hread
      cases hread
      rfl

omit [Runtime F] in
theorem requests_of_event {request : ExecutionRequestedEvent}
    (h : m.event = some (.requested request)) :
    m.eventType = "execution.requested" ∧ AcceptedTraceId m.traceId
      ∧ request.executionId = m.aggregateId := by
  unfold OutboxMessage.event at h
  split_ifs at h with haccepted htype
  · cases h
    exact ⟨htype, haccepted, rfl⟩
  · cases h

omit [Runtime F] in
theorem event_requests (htype : m.eventType = "execution.requested")
    {event : ExecutionQueueEvent} (h : m.event = some event) :
    ∃ request, event = .requested request ∧ request.executionId = m.aggregateId := by
  unfold OutboxMessage.event at h
  split_ifs at h
  cases h
  exact ⟨_, rfl, rfl⟩

/-- A message whose execution does not wait is not the message of one that does. -/
theorem Claimed.body_ne (hfits : RuntimeFits F) (h : Claimed readers l db) (hm : m.Written)
    (hawaited : Awaited m db) : l.body ≠ m.body F := by
  intro hbody
  obtain ⟨event, hread, hclaimed⟩ := h
  obtain ⟨htype, e, he, hqueued⟩ := hawaited
  obtain ⟨request, heq, hid⟩ := event_requests htype (event_of_read hfits hm hbody hread)
  obtain ⟨e', he', hne⟩ := hclaimed request heq
  rw [hid, he] at he'
  obtain rfl := Option.some.inj he'
  exact hne hqueued

omit [Runtime F] in
/-- An execution has one row that asks for it. -/
theorem requests_unique (hdb : db.Announced) {m m' : OutboxMessage} (hm : m ∈ db.outbox)
    (hm' : m' ∈ db.outbox) (htype : m.eventType = "execution.requested")
    (htype' : m'.eventType = "execution.requested") (hid : m.aggregateId = m'.aggregateId) :
    m = m' := by
  refine List.inj_on_of_nodup_map hdb.keys hm hm' ?_
  rw [(hdb.written m hm).dedupeKey, (hdb.written m' hm').dedupeKey, htype, htype', hid]

end

/-! ## What a step makes of the state -/

/-- Executions, rows and numbers of messages only move on. -/
structure Onward (s s' : State F) : Prop where
  later : s.db.Later s'.db
  next : s.next ≤ s'.next

section

variable {readers : FieldReaders F} {s s' : State F} {l l' : Letter Str} {p p' : Process} {i : Nat}

theorem Onward.sent (h : Onward s s') (hl : s.Sent l) : s'.Sent l := by
  obtain ⟨m, hm, hbody⟩ := hl.row
  exact ⟨Nat.lt_of_lt_of_le hl.number h.next, m, h.later.outbox m hm, hbody⟩

theorem Onward.sound (h : Onward s s') (hp : s.Sound readers p) : s'.Sound readers p := by
  cases p with
  | publishing rest sent =>
      exact ⟨fun m hm => h.later.outbox m (hp.1 m hm), fun m hm => h.later.outbox m (hp.2 m hm)⟩
  | received l => exact h.sent hp
  | acknowledging l => exact ⟨h.sent hp.1, hp.2.later h.later⟩
  | inspecting l => exact h.sent hp
  | replaying l => exact ⟨h.sent hp.1, hp.2⟩
  | replayed l => exact ⟨h.sent hp.1, hp.2⟩
  | discarding l => exact ⟨h.sent hp.1, hp.2.later h.later⟩
  | finished => trivial

omit [Runtime F] in
theorem mem_letters_send {body : Str} :
    l ∈ (s.send body).letters ↔ l ∈ s.letters ∨ l = ⟨s.next, body⟩ := by
  unfold State.letters State.send
  simp only [List.mem_append, List.mem_singleton]
  tauto

omit [Runtime F] in
theorem mem_letters_delete (h : l' ∈ (s.delete l).letters) : l' ∈ s.letters := by
  rcases List.mem_append.mp h with h | h
  · exact List.mem_append_left _ (List.mem_filter.mp h).1
  · exact List.mem_append_right _ h

omit [Runtime F] in
theorem mem_letters_deleteDead (h : l' ∈ (s.deleteDead l).letters) : l' ∈ s.letters := by
  rcases List.mem_append.mp h with h | h
  · exact List.mem_append_left _ h
  · exact List.mem_append_right _ (List.mem_filter.mp h).1

omit [Runtime F] in
theorem delete_removed (l : Letter Str) (s : State F) :
    Removed l s.letters (s.delete l).letters := by
  intro l' hl'
  refine or_iff_not_imp_left.mpr fun hne => ?_
  rcases List.mem_append.mp hl' with h | h
  · exact List.mem_append_left _ (List.mem_filter.mpr ⟨h, by simpa using hne⟩)
  · exact List.mem_append_right _ h

omit [Runtime F] in
theorem deleteDead_removed (l : Letter Str) (s : State F) :
    Removed l s.letters (s.deleteDead l).letters := by
  intro l' hl'
  refine or_iff_not_imp_left.mpr fun hne => ?_
  rcases List.mem_append.mp hl' with h | h
  · exact List.mem_append_left _ h
  · exact List.mem_append_right _ (List.mem_filter.mpr ⟨h, by simpa using hne⟩)

/-- A step that leaves the tables alone. -/
theorem Inv.of_same (h : Inv readers s) (hdb : s'.db = s.db) (hnext : s.next ≤ s'.next)
    (hpublished : ∀ key, s'.publishedAt key ≠ none →
      s.publishedAt key ≠ none ∨ ∃ m ∈ s.db.outbox, m.dedupeKey = key)
    (hletters : ∀ l ∈ s'.letters, l ∈ s.letters ∨ s'.Sent l)
    (hprocesses : ∀ p ∈ s'.processes, p ∈ s.processes ∨ s'.Sound readers p) :
    Inv readers s' := by
  have honward : Onward s s' := ⟨hdb ▸ .refl s.db, hnext⟩
  refine ⟨hdb ▸ h.announced, hdb ▸ h.traced, fun key hkey => ?_, fun l hl => ?_, fun p hp => ?_⟩
  · rw [hdb]
    rcases hpublished key hkey with hold | hrow
    · exact h.published key hold
    · exact hrow
  · exact (hletters l hl).elim (fun hold => honward.sent (h.sent l hold)) id
  · exact (hprocesses p hp).elim (fun hold => honward.sound (h.sound p hold)) id

/-- One process goes on, and the rest is as it was. -/
theorem Inv.resumed (h : Inv readers s) (hp : s.Sound readers p) : Inv readers (s.resume i p) := by
  have honward : Onward s (s.resume i p) := ⟨.refl s.db, Nat.le_refl _⟩
  refine h.of_same rfl honward.next (fun _ hkey => .inl hkey) (fun _ hl => .inl hl) fun p' hp' => ?_
  rcases List.mem_or_eq_of_mem_set hp' with hold | rfl
  · exact .inl hold
  · exact .inr (honward.sound hp)

theorem Inv.started (h : Inv readers s) (hp : s.Sound readers p) : Inv readers (s.start p) := by
  have honward : Onward s (s.start p) := ⟨.refl s.db, Nat.le_refl _⟩
  refine h.of_same rfl honward.next (fun _ hkey => .inl hkey) (fun _ hl => .inl hl) fun p' hp' => ?_
  rcases List.mem_append.mp hp' with hold | hnew
  · exact .inl hold
  · obtain rfl := List.mem_singleton.mp hnew
    exact .inr (honward.sound hp)

/-- A copy of a row's message is sent. -/
theorem Inv.send (h : Inv readers s) {m : OutboxMessage} (hm : m ∈ s.db.outbox) {body : Str}
    (hbody : body = m.body F) : Inv readers (s.send body) := by
  refine h.of_same rfl (Nat.le_succ _) (fun _ hkey => .inl hkey) (fun l hl => ?_)
    fun _ hp => .inl hp
  rcases mem_letters_send.mp hl with hold | rfl
  · exact .inl hold
  · exact .inr ⟨Nat.lt_succ_self _, m, hm, hbody⟩

/-- Messages disappear. -/
theorem Inv.of_letters (h : Inv readers s) (hdb : s'.db = s.db) (hnext : s'.next = s.next)
    (hpublished : s'.publishedAt = s.publishedAt) (hprocesses : s'.processes = s.processes)
    (hletters : ∀ l ∈ s'.letters, l ∈ s.letters) : Inv readers s' :=
  h.of_same hdb (Nat.le_of_eq hnext.symm) (fun _ hkey => .inl (hpublished ▸ hkey))
    (fun l hl => .inl (hletters l hl)) fun _ hp => .inl (hprocesses ▸ hp)

theorem Inv.of_process (h : Inv readers s) (hi : s.processes[i]? = some p) : s.Sound readers p :=
  h.sound p (List.mem_of_getElem? hi)

/-- The tables move on. -/
theorem Inv.of_db (h : Inv readers s) {db : Db F} (hlater : s.db.Later db)
    (hannounced : db.Announced) (htraced : ∀ e ∈ db.executions, Traced e) :
    Inv readers { s with db := db } := by
  have honward : Onward s { s with db := db } := ⟨hlater, Nat.le_refl _⟩
  refine ⟨hannounced, htraced, fun key hkey => ?_, fun l hl => honward.sent (h.sent l hl),
    fun p hp => honward.sound (h.sound p hp)⟩
  obtain ⟨m, hm, hrow⟩ := h.published key hkey
  exact ⟨m, hlater.outbox m hm, hrow⟩

end

/-! ## Steps -/

section

variable {env : Environment} {evaluator : Evaluator F} {readers : FieldReaders F}
  {staleQueuedSeconds : Int} {s s' : State F} {event : Event F}

omit [Runtime F] in
theorem Traced.of_move {e e' : Execution F} (h : Traced e) (htrace : e'.row.traceId = e.row.traceId)
    (hmove : StateMove e.state e'.state) : Traced e' := by
  refine ⟨htrace ▸ h.fits, ?_⟩
  rcases h.state with hqueued | hcancelled | haccepted
  · cases hmove with
    | still hstate => exact .inl (hstate.trans hqueued)
    | cancelled hstate => exact .inr (.inl hstate)
    | active hactive _ => exact absurd hqueued (not_queued_of_active hactive)
  · cases hmove with
    | still hstate => exact .inr (.inl (hstate.trans hcancelled))
    | cancelled hstate => exact .inr (.inl hstate)
    | active hactive _ => exact absurd (hcancelled ▸ (by decide)) hactive.not_terminal
  · exact .inr (.inr (htrace ▸ haccepted))

omit [Runtime F] in
theorem later_updated {db : Db F} (h : db.Announced) (id : Uuid) {f : Execution F → Execution F}
    (hf : ∀ e : Execution F, e.Follows (f e)) :
    db.Later (db.updateExecution id f) ∧ (db.updateExecution id f).Announced := by
  have hcolumns : (db.updateExecution id f).columns = db.columns :=
    Tables.map_update fun e _ _ => (hf e).columns
  have hlinked : (db.updateExecution id f).Linked :=
    ColumnsStep.linked (.same hcolumns rfl) h.linked
  exact h.of_changed hlinked (fun e _ => hf e) rfl rfl

/-- Clean-up after an execution that is over. -/
theorem Inv.updated (h : Inv readers s) {id : Uuid} {f : Execution F → Execution F}
    (hf : ∀ e : Execution F, e.Follows (f e)) (hstate : ∀ e, (f e).state = e.state) :
    Inv readers { s with db := s.db.updateExecution id f } := by
  obtain ⟨hlater, hannounced⟩ := later_updated h.announced id hf
  refine h.of_db hlater hannounced fun e' he' => ?_
  rcases Tables.mem_update he' with ⟨he, -⟩ | ⟨e, he, -, rfl⟩
  · exact h.traced e' he
  · exact (h.traced e he).of_move (hf e).traceId (.still (hstate e))

omit [Runtime F] in
theorem clearCancelled_state (e : Execution F) : (clearCancelled e).state = e.state := by
  unfold clearCancelled
  split_ifs <;> rfl

omit [Runtime F] in
theorem clearTerminalOrphan_state (e : Execution F) :
    (Rigor.clearTerminalOrphan e).state = e.state := by
  unfold Rigor.clearTerminalOrphan
  split_ifs <;> rfl

/-- Who claims an execution was asked for it, so its trace id is accepted. -/
theorem Inv.claimed (hfits : RuntimeFits F) (h : Inv readers s) {l : Letter Str} (hl : s.Sent l)
    {request : ExecutionRequestedEvent}
    (hread : readEvent readers l.body = .ok (.requested request))
    {workerId : Str} {deadline : Time} {clock : Clock} {db : Db F}
    (hclaim : DbStep env evaluator s.db
      (.execution request.executionId (.claimForDispatch workerId deadline), clock) db) :
    Inv readers { s with db := db } ∧ ∃ e, db.execution request.executionId = some e
      ∧ e.state ≠ .queued := by
  obtain ⟨hlater, hannounced⟩ := hclaim.later h.announced trivial
  obtain ⟨m, hm, hbody⟩ := hl.row
  obtain ⟨htype, haccepted, hid⟩ :=
    requests_of_event (event_of_read hfits (h.announced.written m hm) hbody hread)
  cases hclaim with
  | @execution id action clock t₀ t hs hstep =>
      have hexec := (Db.system_some hs).1
      have htrace : m.traceId = t₀.attempt.execution.row.traceId := by
        obtain ⟨m', hm', hrequests⟩ := h.announced.requested _ (Tables.mem_of_find hexec)
        have hkey : t₀.attempt.execution.id = request.executionId := Tables.key_of_find hexec
        have heq := requests_unique h.announced hm hm' htype hrequests.eventType
          (hid.symm.trans (hkey.symm.trans hrequests.aggregateId.symm))
        exact heq ▸ hrequests.traceId
      refine ⟨h.of_db hlater hannounced fun e' he' => ?_, ?_⟩
      · rcases Tables.mem_update he' with ⟨he, -⟩ | ⟨_, -, -, rfl⟩
        · exact h.traced e' he
        · have hsame := hstep.follows.traceId
          refine ⟨hsame ▸ (h.traced _ (Tables.mem_of_find hexec)).fits, .inr (.inr ?_)⟩
          rw [hsame, ← htrace]
          exact haccepted
      · obtain ⟨e', he', -⟩ := hlater.execution _ _ hexec
        refine ⟨e', he', ?_⟩
        rcases Tables.mem_update (Tables.mem_of_find he') with ⟨-, hne⟩ | ⟨_, -, -, rfl⟩
        · exact absurd (Tables.key_of_find he') hne
        · exact hstep.claimed

theorem Step.inv (hfits : RuntimeFits F)
    (hstep : Step env evaluator readers staleQueuedSeconds s event s') (h : Inv readers s) :
    Inv readers s' := by
  cases hstep with
  | @database a db arrives noClaim hdb =>
      obtain ⟨hlater, hannounced⟩ := hdb.later h.announced arrives
      refine h.of_db hlater hannounced fun e' he' => ?_
      rcases hdb.executions arrives noClaim he' with ⟨hqueued, hfits⟩ | ⟨e, he, htrace, hmove⟩
      · exact ⟨hfits, .inl hqueued⟩
      · exact (h.traced e he).of_move htrace hmove
  | clearTerminalOrphan => exact h.updated clearTerminalOrphan_follows clearTerminalOrphan_state
  | requeueStaleQueued =>
      refine h.of_same rfl (Nat.le_refl _) (fun key hkey => .inl ?_) (fun _ hl => .inl hl)
        fun _ hp => .inl hp
      unfold State.requeueStaleQueued at hkey
      dsimp only at hkey
      split_ifs at hkey
      · exact absurd rfl hkey
      · exact hkey
  | publish claimed =>
      exact h.started ⟨fun m hm => (claimed m hm).1, fun m hm => absurd hm (List.not_mem_nil)⟩
  | @sent i m rest sent hi =>
      obtain ⟨hrest, hsent⟩ := h.of_process hi
      obtain ⟨hm, hrest⟩ := List.forall_mem_cons.mp hrest
      exact (h.send hm rfl).resumed ⟨hrest, List.forall_mem_cons.mpr ⟨hm, hsent⟩⟩
  | @refused i arrived m rest sent hi =>
      obtain ⟨hrest, hsent⟩ := h.of_process hi
      obtain ⟨hm, hrest⟩ := List.forall_mem_cons.mp hrest
      cases arrived with
      | false => exact h.resumed ⟨hrest, hsent⟩
      | true => exact (h.send hm rfl).resumed ⟨hrest, hsent⟩
  | @committed i now sent hi =>
      have hsent := (h.of_process hi).2
      refine Inv.resumed (h.of_same rfl (Nat.le_refl _) (fun key hkey => ?_) (fun _ hl => .inl hl)
        fun _ hp => .inl hp) trivial
      unfold State.markPublished at hkey
      dsimp only at hkey
      split_ifs at hkey with hany
      · obtain ⟨m, hm, hmkey⟩ := List.any_eq_true.mp hany
        exact .inr ⟨m, hsent m hm, of_decide_eq_true hmkey⟩
      · exact .inl hkey
  | receive hl => exact h.started (h.sent _ (List.mem_append_left _ hl))
  | claim hi read claimed =>
      have hl := h.of_process hi
      obtain ⟨hinv, e, he, hne⟩ := h.claimed hfits hl read claimed
      refine hinv.resumed ⟨⟨hl.number, ?_⟩, _, read, ?_⟩
      · obtain ⟨m, hm, hbody⟩ := hl.row
        exact ⟨m, (claimed.later h.announced trivial).1.outbox m hm, hbody⟩
      · intro request heq
        cases heq
        exact ⟨e, he, hne⟩
  | cancel hi read =>
      have hl := h.of_process hi
      refine (h.updated clearCancelled_follows clearCancelled_state).resumed
        ⟨⟨hl.number, hl.row⟩, _, read, ?_⟩
      intro request heq
      cases heq
  | @acknowledged i l hi =>
      have hrest : Inv readers (s.delete l) := h.of_letters rfl rfl rfl rfl
        fun _ => mem_letters_delete
      exact hrest.resumed trivial
  | inspect hl => exact h.started (h.sent _ (List.mem_append_right _ hl))
  | replay hi classified disposition =>
      have hl := h.of_process hi
      exact h.resumed ⟨hl, classifyMessage_replay classified disposition⟩
  | discard hi classified disposition =>
      have hl := h.of_process hi
      exact h.resumed ⟨hl, classifyMessage_discard classified disposition⟩
  | replaySent hi =>
      obtain ⟨hl, hread⟩ := h.of_process hi
      obtain ⟨m, hm, hbody⟩ := hl.row
      exact (h.send hm hbody).resumed ⟨⟨Nat.lt_succ_of_lt hl.number, m, hm, hbody⟩, hread⟩
  | @replayed i l hi =>
      have hrest : Inv readers (s.deleteDead l) := h.of_letters rfl rfl rfl rfl
        fun _ => mem_letters_deleteDead
      exact hrest.resumed trivial
  | @discarded i l hi =>
      have hrest : Inv readers (s.deleteDead l) := h.of_letters rfl rfl rfl rfl
        fun _ => mem_letters_deleteDead
      exact hrest.resumed trivial
  | @redrive l hl =>
      refine h.of_letters rfl rfl rfl rfl fun l' hl' => ?_
      rcases List.mem_append.mp hl' with hqueue | hdead
      · exact List.mem_append_left _ (List.mem_filter.mp hqueue).1
      · rcases List.mem_append.mp hdead with hdead | hself
        · exact List.mem_append_right _ hdead
        · obtain rfl := List.mem_singleton.mp hself
          exact List.mem_append_left _ hl
  | stop => exact h.resumed trivial
  | expire =>
      exact h.of_letters rfl rfl rfl rfl fun _ hl =>
        mem_letters_delete (mem_letters_deleteDead hl)

theorem Initial.inv (h : Initial s) : Inv readers s where
  announced :=
    { linked := h.db.tracked.linked
      keys := by rw [h.outbox]; exact List.nodup_nil
      written := by rw [h.outbox]; exact fun _ hm => absurd hm List.not_mem_nil
      known := by rw [h.outbox]; exact fun _ hm => absurd hm List.not_mem_nil
      requested := by rw [h.db.executions]; exact fun _ he => absurd he List.not_mem_nil }
  traced := by rw [h.db.executions]; exact fun _ he => absurd he List.not_mem_nil
  published key hkey := absurd (h.publishedAt key) hkey
  sent := by
    rw [State.letters, h.queue, h.deadLetters]
    exact fun _ hl => absurd hl List.not_mem_nil
  sound := by rw [h.processes]; exact fun _ hp => absurd hp List.not_mem_nil

end

/-! ## Without losses -/

/-- The messages of the executions that wait are somewhere. -/
structure Kept (s : State F) : Prop where
  published : ∀ m ∈ s.db.outbox, Awaited m s.db → s.publishedAt m.dedupeKey ≠ none →
    Carried (m.body F) s.letters
  sent : ∀ rest sent, .publishing rest sent ∈ s.processes → ∀ m ∈ sent, Awaited m s.db →
    Carried (m.body F) s.letters
  replayed : ∀ l, .replayed l ∈ s.processes → ∀ m ∈ s.db.outbox, Awaited m s.db →
    l.body = m.body F → CarriedAfter l.number (m.body F) s.letters

/-- A step loses no message that is waited for. -/
structure Keeps (s s' : State F) : Prop where
  carried : ∀ m ∈ s.db.outbox, Awaited m s.db → Carried (m.body F) s.letters →
    Carried (m.body F) s'.letters
  carriedAfter : ∀ m ∈ s.db.outbox, Awaited m s.db → ∀ n, CarriedAfter n (m.body F) s.letters →
    CarriedAfter n (m.body F) s'.letters

section

variable {env : Environment} {evaluator : Evaluator F} {readers : FieldReaders F}
  {staleQueuedSeconds : Int} {s s' : State F} {event : Event F} {l : Letter Str} {i : Nat}

theorem Keeps.of_subset (h : ∀ l ∈ s.letters, l ∈ s'.letters) : Keeps s s' :=
  ⟨fun _ _ _ hcarried => hcarried.mono h, fun _ _ _ _ hcarried => hcarried.mono h⟩

/-- A message goes that nobody waits for. -/
theorem Keeps.of_claimed (hfits : RuntimeFits F) (hinv : Inv readers s)
    (hx : Removed l s.letters s'.letters) (hl : Claimed readers l s.db) : Keeps s s' where
  carried m hm hawaited hcarried :=
    hcarried.removed_of_ne hx (hl.body_ne hfits (hinv.announced.written m hm) hawaited)
  carriedAfter m hm hawaited _ hcarried :=
    hcarried.removed_of_ne hx (hl.body_ne hfits (hinv.announced.written m hm) hawaited)

/-- A message goes that has a later copy. -/
theorem Keeps.of_replayed (h : Kept s) (hx : Removed l s.letters s'.letters)
    (hi : .replayed l ∈ s.processes) : Keeps s s' where
  carried m hm hawaited hcarried := hcarried.removed hx (h.replayed l hi m hm hawaited)
  carriedAfter m hm hawaited _ hcarried := hcarried.removed hx (h.replayed l hi m hm hawaited)

/-- The rows that are published or were sent were there before. -/
theorem Kept.of_keeps (hfits : RuntimeFits F) (h : Kept s) (hinv : Inv readers s)
    (hlater : s.db.Later s'.db) (hinv' : Inv readers s') (hkeeps : Keeps s s')
    (hpublished : ∀ m ∈ s'.db.outbox, Awaited m s'.db → s'.publishedAt m.dedupeKey ≠ none →
      s.publishedAt m.dedupeKey ≠ none ∨ Carried (m.body F) s'.letters)
    (hsent : ∀ rest sent, .publishing rest sent ∈ s'.processes →
      .publishing rest sent ∈ s.processes
        ∨ ∀ m ∈ sent, Awaited m s'.db → Carried (m.body F) s'.letters)
    (hreplayed : ∀ l, .replayed l ∈ s'.processes → .replayed l ∈ s.processes
      ∨ ∀ m ∈ s'.db.outbox, l.body = m.body F → CarriedAfter l.number (m.body F) s'.letters) :
    Kept s' := by
  have hback : ∀ m ∈ s.db.outbox, Awaited m s'.db → Awaited m s.db :=
    fun m hm hawaited => hawaited.of_later hlater hinv.announced hm
  refine ⟨fun m hm hawaited hkey => ?_, fun rest sent hp m hm hawaited => ?_,
    fun l hp m hm hawaited hbody => ?_⟩
  · rcases hpublished m hm hawaited hkey with hold | hcarried
    · obtain ⟨m', hm', hsame⟩ := hinv.published _ hold
      obtain rfl := List.inj_on_of_nodup_map hinv'.announced.keys (hlater.outbox m' hm') hm hsame
      exact hkeeps.carried _ hm' (hback _ hm' hawaited)
        (h.published _ hm' (hback _ hm' hawaited) hold)
    · exact hcarried
  · rcases hsent rest sent hp with hold | hcarried
    · have hm' := (hinv.sound _ hold).2 m hm
      exact hkeeps.carried m hm' (hback m hm' hawaited)
        (h.sent rest sent hold m hm (hback m hm' hawaited))
    · exact hcarried m hm hawaited
  · rcases hreplayed l hp with hold | hcarried
    · -- the message says which execution it asks for, so its row is the old one
      obtain ⟨hl, event, hread⟩ := hinv.sound _ hold
      obtain ⟨m', hm', hbody'⟩ := hl.row
      have hevent := event_of_read hfits (hinv'.announced.written m hm) hbody hread
      have hevent' := event_of_read hfits (hinv.announced.written m' hm') hbody' hread
      obtain ⟨request, rfl, hid⟩ := event_requests hawaited.1 hevent
      obtain ⟨htype', -, hid'⟩ := requests_of_event hevent'
      obtain rfl := requests_unique hinv'.announced (hlater.outbox m' hm') hm htype' hawaited.1
        (hid'.symm.trans hid)
      exact hkeeps.carriedAfter _ hm' (hback _ hm' hawaited) _
        (h.replayed l hold _ hm' (hback _ hm' hawaited) hbody)
    · exact hcarried m hm hbody

/-- What a process that goes on stands for. -/
def Promised (s : State F) : Process → Prop
  | .publishing _ sent => ∀ m ∈ sent, Awaited m s.db → Carried (m.body F) s.letters
  | .replayed l => ∀ m ∈ s.db.outbox, l.body = m.body F →
      CarriedAfter l.number (m.body F) s.letters
  | _ => True

/-- A process goes on, after a step that keeps what is waited for. -/
theorem Kept.resumed (hfits : RuntimeFits F) (h : Kept s) (hinv : Inv readers s)
    {s' : State F} {p : Process} (hinv' : Inv readers (s'.resume i p)) (hlater : s.db.Later s'.db)
    (hkeeps : Keeps s s') (hprocesses : s'.processes = s.processes)
    (hpublished : ∀ m ∈ s'.db.outbox, Awaited m s'.db → s'.publishedAt m.dedupeKey ≠ none →
      s.publishedAt m.dedupeKey ≠ none ∨ Carried (m.body F) s'.letters)
    (hp : Promised s' p) : Kept (s'.resume i p) := by
  have hmem : ∀ p' ∈ (s'.resume i p).processes, p' ∈ s.processes ∨ p' = p := fun p' hp' =>
    hprocesses ▸ List.mem_or_eq_of_mem_set hp'
  refine h.of_keeps hfits hinv hlater hinv' ⟨hkeeps.carried, hkeeps.carriedAfter⟩ hpublished
    (fun rest sent hp' => ?_) fun l hp' => ?_
  · rcases hmem _ hp' with hold | rfl
    · exact .inl hold
    · exact .inr hp
  · rcases hmem _ hp' with hold | rfl
    · exact .inl hold
    · exact .inr hp

/-- A new process has not done anything. -/
theorem Kept.started (hfits : RuntimeFits F) (h : Kept s) (hinv : Inv readers s) {p : Process}
    (hinv' : Inv readers (s.start p)) (hsent : ∀ rest m sent, p ≠ .publishing rest (m :: sent))
    (hreplayed : ∀ l, p ≠ .replayed l) : Kept (s.start p) := by
  have hmem : ∀ p' ∈ (s.start p).processes, p' ∈ s.processes ∨ p' = p := fun p' hp' =>
    (List.mem_append.mp hp').imp_right List.mem_singleton.mp
  refine h.of_keeps hfits hinv (.refl s.db) hinv' (.of_subset fun _ hl => hl)
    (fun _ _ _ hkey => .inl hkey) (fun rest sent hp => ?_) fun l hp => ?_
  · rcases hmem _ hp with hold | rfl
    · exact .inl hold
    · refine .inr fun m hm => ?_
      cases sent with
      | nil => exact absurd hm List.not_mem_nil
      | cons m' sent => exact absurd rfl (hsent rest m' sent)
  · rcases hmem _ hp with hold | rfl
    · exact .inl hold
    · exact absurd rfl (hreplayed l)

/-- A step on the tables alone. -/
theorem Kept.of_db (hfits : RuntimeFits F) (h : Kept s) (hinv : Inv readers s) {db : Db F}
    (hlater : s.db.Later db) (hinv' : Inv readers { s with db := db }) :
    Kept { s with db := db } :=
  h.of_keeps hfits hinv hlater hinv' (.of_subset fun _ hl => hl) (fun _ _ _ hkey => .inl hkey)
    (fun _ _ hp => .inl hp) fun _ hp => .inl hp

theorem carried_send {m : OutboxMessage} : Carried (m.body F) (s.send (m.body F)).letters :=
  ⟨⟨s.next, m.body F⟩, mem_letters_send.mpr (.inr rfl), rfl⟩

theorem keeps_send (body : Str) (s : State F) : Keeps s (s.send body) :=
  .of_subset fun _ hl => mem_letters_send.mpr (.inl hl)

theorem Step.kept (hfits : RuntimeFits F)
    (hstep : Step env evaluator readers staleQueuedSeconds s event s') (hinv : Inv readers s)
    (h : Kept s) (hevent : ∀ l, event ≠ .expire l) : Kept s' := by
  have hinv' := hstep.inv hfits hinv
  cases hstep with
  | database arrives noClaim hdb =>
      exact h.of_db hfits hinv (hdb.later hinv.announced arrives).1 hinv'
  | clearTerminalOrphan =>
      exact h.of_db hfits hinv (later_updated hinv.announced _ clearTerminalOrphan_follows).1 hinv'
  | requeueStaleQueued =>
      refine h.of_keeps hfits hinv (.refl s.db) hinv' (.of_subset fun _ hl => hl)
        (fun m _ _ hkey => .inl ?_) (fun _ _ hp => .inl hp) fun _ hp => .inl hp
      unfold State.requeueStaleQueued at hkey
      dsimp only at hkey
      split_ifs at hkey
      · exact absurd rfl hkey
      · exact hkey
  | publish claimed =>
      exact h.started hfits hinv hinv' (fun rest m sent heq => by cases heq)
        fun l heq => by cases heq
  | @sent i m rest sent hi =>
      have hold := h.sent _ _ (List.mem_of_getElem? hi)
      refine h.resumed hfits hinv hinv' (.refl s.db) (keeps_send _ s) rfl
        (fun _ _ _ hkey => .inl hkey) (List.forall_mem_cons.mpr ⟨fun _ => carried_send, ?_⟩)
      exact fun m' hm' hawaited => (hold m' hm' hawaited).mono
        fun _ hl => mem_letters_send.mpr (.inl hl)
  | @refused i arrived m rest sent hi =>
      have hold := h.sent _ _ (List.mem_of_getElem? hi)
      cases arrived with
      | false =>
          exact h.resumed hfits hinv hinv' (.refl s.db) (.of_subset fun _ hl => hl) rfl
            (fun _ _ _ hkey => .inl hkey) hold
      | true =>
          exact h.resumed hfits hinv hinv' (.refl s.db) (keeps_send _ s) rfl
            (fun _ _ _ hkey => .inl hkey) fun m' hm' hawaited => (hold m' hm' hawaited).mono
              fun _ hl => mem_letters_send.mpr (.inl hl)
  | @committed i now sent hi =>
      have hold := h.sent _ _ (List.mem_of_getElem? hi)
      have hrows := (hinv.of_process hi).2
      refine h.resumed hfits hinv hinv' (.refl s.db) (.of_subset fun _ hl => hl) rfl
        (fun m hm hawaited hkey => ?_) trivial
      unfold State.markPublished at hkey
      dsimp only at hkey
      split_ifs at hkey with hany
      · obtain ⟨m', hm', hsame⟩ := List.any_eq_true.mp hany
        obtain rfl := List.inj_on_of_nodup_map hinv.announced.keys (hrows m' hm') hm
          (of_decide_eq_true hsame)
        exact .inr (hold _ hm' hawaited)
      · exact .inl hkey
  | receive hl =>
      exact h.started hfits hinv hinv' (fun rest m sent heq => by cases heq)
        fun l heq => by cases heq
  | claim hi read claimed =>
      exact h.resumed hfits hinv hinv' (claimed.later hinv.announced trivial).1
        (.of_subset fun _ hl => hl) rfl (fun _ _ _ hkey => .inl hkey) trivial
  | cancel hi read =>
      exact h.resumed hfits hinv hinv' (later_updated hinv.announced _ clearCancelled_follows).1
        (.of_subset fun _ hl => hl) rfl (fun _ _ _ hkey => .inl hkey) trivial
  | acknowledged hi =>
      have hclaimed := (hinv.of_process hi).2
      exact h.resumed hfits hinv hinv' (.refl s.db)
        (.of_claimed hfits hinv (delete_removed _ s) hclaimed) rfl (fun _ _ _ hkey => .inl hkey)
        trivial
  | inspect hl =>
      exact h.started hfits hinv hinv' (fun rest m sent heq => by cases heq)
        fun l heq => by cases heq
  | replay hi classified disposition =>
      exact h.resumed hfits hinv hinv' (.refl s.db) (.of_subset fun _ hl => hl) rfl
        (fun _ _ _ hkey => .inl hkey) trivial
  | discard hi classified disposition =>
      exact h.resumed hfits hinv hinv' (.refl s.db) (.of_subset fun _ hl => hl) rfl
        (fun _ _ _ hkey => .inl hkey) trivial
  | @replaySent i l hi =>
      have hnumber := (hinv.of_process hi).1.number
      refine h.resumed hfits hinv hinv' (.refl s.db) (keeps_send _ s) rfl
        (fun _ _ _ hkey => .inl hkey) fun m _ hbody => ?_
      exact ⟨⟨s.next, l.body⟩, mem_letters_send.mpr (.inr rfl), hnumber, hbody⟩
  | replayed hi =>
      exact h.resumed hfits hinv hinv' (.refl s.db)
        (.of_replayed h (deleteDead_removed _ s) (List.mem_of_getElem? hi)) rfl
        (fun _ _ _ hkey => .inl hkey) trivial
  | discarded hi =>
      have hclaimed := (hinv.of_process hi).2.claimed
      exact h.resumed hfits hinv hinv' (.refl s.db)
        (.of_claimed hfits hinv (deleteDead_removed _ s) hclaimed) rfl
        (fun _ _ _ hkey => .inl hkey) trivial
  | @redrive l hl =>
      refine h.of_keeps hfits hinv (.refl s.db) hinv' (.of_subset fun l' hl' => ?_)
        (fun _ _ _ hkey => .inl hkey) (fun _ _ hp => .inl hp) fun _ hp => .inl hp
      rcases delete_removed l s l' hl' with rfl | hkept
      · exact List.mem_append_right _ (List.mem_append_right _ (List.mem_singleton_self _))
      · rcases List.mem_append.mp hkept with hqueue | hdead
        · exact List.mem_append_left _ hqueue
        · exact List.mem_append_right _ (List.mem_append_left _ hdead)
  | stop =>
      exact h.resumed hfits hinv hinv' (.refl s.db) (.of_subset fun _ hl => hl) rfl
        (fun _ _ _ hkey => .inl hkey) trivial
  | expire => exact absurd rfl (hevent _)

end

/-! ## What holds in every run -/

section

variable {env : Environment} {evaluator : Evaluator F} {readers : FieldReaders F}
  {staleQueuedSeconds : Int} {s₀ s : State F} {trace : List (Taken (State F) (Event F))}

theorem Initial.kept (h : Initial s₀) : Kept s₀ where
  published m hm := by rw [h.outbox] at hm; exact absurd hm List.not_mem_nil
  sent rest sent hp := by rw [h.processes] at hp; exact absurd hp List.not_mem_nil
  replayed l hp := by rw [h.processes] at hp; exact absurd hp List.not_mem_nil

theorem run_inv (hfits : RuntimeFits F) (h₀ : Initial s₀)
    (hrun : Run (Step env evaluator readers staleQueuedSeconds) s₀ trace s) : Inv readers s :=
  hrun.invariant (fun _ hinv hstep => hstep.inv hfits hinv) h₀.inv

theorem run_kept (hfits : RuntimeFits F) (h₀ : Initial s₀)
    (hrun : Run (Step env evaluator readers staleQueuedSeconds) s₀ trace s)
    (hlosses : ∀ x ∈ trace, ∀ l, x.label ≠ .expire l) : Kept s :=
  (hrun.invariant_of (I := fun s => Inv readers s ∧ Kept s)
    (fun _ hs hx hstep => ⟨hstep.inv hfits hs.1, hstep.kept hfits hs.1 hs.2 hx⟩)
    ⟨h₀.inv, h₀.kept⟩ hlosses).2

/-- As long as no queue loses a message, the row that asks for an execution
in the queue is to be sent, or a message for it is in the queue or in the dead
letter queue: whatever crashes, is sent twice or deleted in between. -/
theorem no_execution_stranded (hfits : RuntimeFits F) (h₀ : Initial s₀)
    (hrun : Run (Step env evaluator readers staleQueuedSeconds) s₀ trace s)
    (hlosses : ∀ x ∈ trace, ∀ l, x.label ≠ .expire l) :
    ∀ e ∈ s.db.executions, e.state = .queued → ∃ m ∈ s.db.outbox, m.Requests e
      ∧ (s.publishedAt m.dedupeKey = none ∨ ∃ l ∈ s.queue ++ s.deadLetters, l.body = m.body F) := by
  have hinv := run_inv hfits h₀ hrun
  have hkept := run_kept hfits h₀ hrun hlosses
  intro e he hqueued
  obtain ⟨m, hm, hrequests⟩ := hinv.announced.requested e he
  refine ⟨m, hm, hrequests, or_iff_not_imp_left.mpr fun hkey => ?_⟩
  refine hkept.published m hm ⟨hrequests.eventType, e, ?_, hqueued⟩ hkey
  exact hrequests.aggregateId ▸ hinv.announced.linked.execution_of_mem he

end

/-! ## A run -/

theorem fits_floatConst : RuntimeFits FloatConst := ⟨by decide, by decide⟩

def sampleId : Uuid := "00000000-0000-4000-8000-000000000001"

/-- Before anyone practised. -/
def sampleState : State FloatConst where
  db := publishedDb
  publishedAt _ := none
  next := 0
  queue := []
  deadLetters := []
  processes := []

theorem sampleState_initial : Initial sampleState :=
  ⟨publishedDb_initial, rfl, fun _ => rfl, rfl, rfl, rfl⟩

abbrev SampleStep : State FloatConst → Event FloatConst → State FloatConst → Prop :=
  Step sampleEnvironment sampleEvaluator plainReaders 120

def sampleRow (traceId : Str) : OutboxMessage := .requested sampleId 0 traceId

/-- A message that the controllers gave up on is in the dead letter queue. -/
theorem no_execution_stranded_redriven : ∃ trace s, Run SampleStep sampleState trace s
    ∧ ∃ e ∈ s.db.executions, e.state = .queued ∧ ∃ m ∈ s.db.outbox, m.Requests e
      ∧ (s.publishedAt m.dedupeKey = none
        ∨ ∃ l ∈ s.queue ++ s.deadLetters, l.body = m.body FloatConst) := by
  have hrun : ∃ trace s, Run SampleStep sampleState trace s
      ∧ (∃ e ∈ s.db.executions, e.state = .queued) ∧ ∀ x ∈ trace, ∀ l, x.label ≠ .expire l := by
    refine Run.exists_cons (.database (.createSession sampleCandidate "join-basics" .postgresql
      "session-1", zeroClock)) (.database trivial id (.createSession rfl)) ?_
    refine Run.exists_cons (.database (.queueSubmit sampleCandidate sampleRequest "key-0001"
      "join-basics" ⟨sampleId, "submission-1"⟩ id id, zeroClock))
      (.database ⟨by decide, by decide, by decide, by decide⟩ id (.queueSubmit rfl)) ?_
    refine Run.exists_cons (.publish [sampleRow "trace-1"]) (.publish fun m hm => ?_) ?_
    · exact ⟨hm, rfl⟩
    refine Run.exists_cons (.sent 0) (.sent rfl) ?_
    refine Run.exists_cons (.committed 0 5) (.committed rfl) ?_
    refine Run.exists_cons (.redrive _) (.redrive (List.mem_singleton_self _)) ?_
    exact Run.exists_nil ⟨⟨_, List.mem_singleton_self _, rfl⟩, by simp⟩
  obtain ⟨trace, s, hrun, ⟨e, he, hqueued⟩, hlosses⟩ := hrun
  exact ⟨trace, s, hrun, e, he, hqueued,
    no_execution_stranded fits_floatConst sampleState_initial hrun hlosses e he hqueued⟩

section

variable {env : Environment} {evaluator : Evaluator F} {readers : FieldReaders F}
  {staleQueuedSeconds : Int} {s₀ s : State F} {trace : List (Taken (State F) (Event F))}

/-- In every run, with losses or without: what the workers and the operator
read of an execution's message is the request for it, unless its trace id is
empty; then they hold it for malformed, and the execution waits for ever or is
cancelled. -/
theorem empty_trace_id_blocks (hfits : RuntimeFits F) (h₀ : Initial s₀)
    (hrun : Run (Step env evaluator readers staleQueuedSeconds) s₀ trace s) :
    ∀ e ∈ s.db.executions, ∀ m ∈ s.db.outbox, m.Requests e → ∀ messageId,
      if e.row.traceId = [] then
        (e.state = .queued ∨ e.state = .cancelled)
          ∧ classifyMessage readers messageId (m.body F) s.db
            = some ⟨messageId, none, none, .holdMalformed, "malformed:ValidationError"⟩
      else
        (∃ request, readEvent readers (m.body F) = .ok (.requested request)
          ∧ request.executionId = e.id)
          ∧ ∃ c, classifyMessage readers messageId (m.body F) s.db = some c
            ∧ (c.disposition = .replay ↔ e.state = .queued) := by
  have hinv := run_inv hfits h₀ hrun
  intro e he m hm hrequests messageId
  have htraced := hinv.traced e he
  have hread : readEvent readers (m.body F) = m.event.elim (.error .validation) .ok :=
    readEvent_body hfits (hinv.announced.written m hm)
  have hevent := OutboxMessage.event_isSome_iff (m := m)
  rw [hrequests.traceId, htraced.fits.accepted_iff] at hevent
  split_ifs with hnil
  · have hnone : m.event = none :=
      Option.not_isSome_iff_eq_none.mp fun hsome => hevent.mp hsome hnil
    rw [hnone] at hread
    refine ⟨?_, classifyMessage_of_invalid hread⟩
    rcases htraced.state with hstate | hstate | haccepted
    · exact .inl hstate
    · exact .inr hstate
    · exact absurd hnil (htraced.fits.accepted_iff.mp haccepted)
  · obtain ⟨event, hsome⟩ := Option.isSome_iff_exists.mp (hevent.mpr hnil)
    obtain ⟨request, rfl, hid⟩ := event_requests hrequests.eventType hsome
    rw [hsome] at hread
    have hself : s.db.execution request.executionId = some e := by
      rw [hid, hrequests.aggregateId]
      exact hinv.announced.linked.execution_of_mem he
    obtain ⟨c, hc, hdisposition⟩ := classifyMessage_of_event hread hself
    exact ⟨⟨request, hread, hid.trans hrequests.aggregateId⟩, c, hc,
      hdisposition ▸ classifyEvent_replay_iff⟩

end

/-- The header is there, and empty. -/
theorem empty_trace_id_blocks_sample : ∃ trace s, Run SampleStep sampleState trace s
    ∧ ∃ e ∈ s.db.executions, (e.state = .queued ∨ e.state = .cancelled)
      ∧ ∃ m ∈ s.db.outbox, m.Requests e
        ∧ classifyMessage plainReaders "message-1" (m.body FloatConst) s.db
          = some ⟨"message-1", none, none, .holdMalformed, "malformed:ValidationError"⟩ := by
  have hrun : ∃ trace s, Run SampleStep sampleState trace s
      ∧ ∃ e ∈ s.db.executions, e.row.traceId = [] ∧ ∃ m ∈ s.db.outbox, m.Requests e := by
    refine Run.exists_cons (.database (.createSession sampleCandidate "join-basics" .postgresql
      "session-1", zeroClock)) (.database trivial id (.createSession rfl)) ?_
    refine Run.exists_cons (.database (.queueSubmit { sampleCandidate with correlationId := [] }
      sampleRequest "key-0001" "join-basics" ⟨sampleId, "submission-1"⟩ id id, zeroClock))
      (.database ⟨by decide, by decide, by decide, by decide⟩ id (.queueSubmit rfl)) ?_
    exact Run.exists_nil ⟨_, List.mem_singleton_self _, rfl, _, List.mem_singleton_self _,
      rfl, rfl, rfl⟩
  obtain ⟨trace, s, hrun, e, he, hnil, m, hm, hrequests⟩ := hrun
  have hblocked := empty_trace_id_blocks fits_floatConst sampleState_initial hrun e he m hm
    hrequests "message-1"
  rw [if_pos hnil] at hblocked
  exact ⟨trace, s, hrun, e, he, hblocked.1, m, hm, hrequests, hblocked.2⟩

section

variable {env : Environment} {evaluator : Evaluator F} {readers : FieldReaders F}
  {staleQueuedSeconds : Int} {s₀ s : State F} {trace : List (Taken (State F) (Event F))}

theorem Step.later {s' : State F} {event : Event F}
    (hstep : Step env evaluator readers staleQueuedSeconds s event s') (hinv : Inv readers s) :
    s.db.Later s'.db := by
  cases hstep with
  | database arrives noClaim hdb => exact (hdb.later hinv.announced arrives).1
  | clearTerminalOrphan =>
      exact (later_updated hinv.announced _ clearTerminalOrphan_follows).1
  | claim hi read claimed => exact (claimed.later hinv.announced trivial).1
  | cancel hi read => exact (later_updated hinv.announced _ clearCancelled_follows).1
  | refused hi => split_ifs <;> exact .refl s.db
  | _ => exact .refl s.db

/-- What is true of a message that was deleted. -/
def Deleted (readers : FieldReaders F) (event : Event F) (s : State F) : Prop :=
  (∀ i l, event = .acknowledged i l → Claimed readers l s.db)
    ∧ ∀ i l, event = .discarded i l → Discardable readers l s.db

theorem Step.deleted {s' : State F} {event : Event F}
    (hstep : Step env evaluator readers staleQueuedSeconds s event s') (hinv : Inv readers s) :
    Deleted readers event s' := by
  refine ⟨fun i l heq => ?_, fun i l heq => ?_⟩
  · subst heq
    cases hstep with
    | acknowledged hi => exact (hinv.of_process hi).2
  · subst heq
    cases hstep with
    | discarded hi => exact (hinv.of_process hi).2

/-- What was deleted is not needed again: the execution of a message that a
controller acknowledged has left the queue for good, and that of a message
that the operator discarded is over, with no sandbox to clean up. -/
theorem deletions_are_final (hfits : RuntimeFits F) (h₀ : Initial s₀)
    (hrun : Run (Step env evaluator readers staleQueuedSeconds) s₀ trace s) :
    ∀ x ∈ trace, ∀ i l, (x.label = .acknowledged i l → Claimed readers l s.db)
      ∧ (x.label = .discarded i l → Discardable readers l s.db) := by
  have hstep : ∀ x : Taken (State F) (Event F), Inv readers x.source →
      Step env evaluator readers staleQueuedSeconds x.source x.label x.target →
      Inv readers x.target := fun _ hinv hx => hx.inv hfits hinv
  have hkept := hrun.kept (Q := Deleted readers) hstep (fun event x hinv hx hdeleted =>
    ⟨fun i l heq => (hdeleted.1 i l heq).later (hx.later hinv),
      fun i l heq => (hdeleted.2 i l heq).later (hx.later hinv)⟩) h₀.inv
  have hdeleted := hrun.forall_taken (Q := fun x => Deleted readers x.label x.target) hstep
    (fun x hinv hx => hx.deleted hinv) h₀.inv
  intro x hx i l
  have hfinal := hkept x hx (hdeleted x hx)
  exact ⟨hfinal.1 i l, hfinal.2 i l⟩

end

/-- The candidate cancels; the operator discards the message of the request. -/
theorem deletions_are_final_discarded : ∃ trace s, Run SampleStep sampleState trace s
    ∧ ∃ l, (∃ x ∈ trace, x.label = .discarded 1 l) ∧ Discardable plainReaders l s.db := by
  have hrow : (sampleRow "trace-1").Written :=
    OutboxMessage.requested_written _ (by decide) (by decide)
  have hread : readEvent plainReaders ((sampleRow "trace-1").body FloatConst)
      = .ok (.requested ⟨sampleId, 1, 0, "trace-1", Int.le_refl 1, by decide⟩) :=
    (readEvent_body fits_floatConst hrow).trans rfl
  have hclassified : ∀ (db : Db FloatConst) e, db.execution sampleId = some e →
      e.state = .cancelled → ∃ c, classifyMessage plainReaders "message-1"
        ((sampleRow "trace-1").body FloatConst) db = some c
        ∧ c.disposition = .discardTerminal := fun db e he hstate => by
    obtain ⟨c, hc, hdisposition⟩ := classifyMessage_of_event hread he
    refine ⟨c, hc, hdisposition.trans ?_⟩
    rw [hstate]
    rfl
  have hrun : ∃ trace s, Run SampleStep sampleState trace s
      ∧ ∃ l, ∃ x ∈ trace, x.label = .discarded 1 l := by
    refine Run.exists_cons (.database (.createSession sampleCandidate "join-basics" .postgresql
      "session-1", zeroClock)) (.database trivial id (.createSession rfl)) ?_
    refine Run.exists_cons (.database (.queueSubmit sampleCandidate sampleRequest "key-0001"
      "join-basics" ⟨sampleId, "submission-1"⟩ id id, zeroClock))
      (.database ⟨by decide, by decide, by decide, by decide⟩ id (.queueSubmit rfl)) ?_
    refine Run.exists_cons (.publish [sampleRow "trace-1"]) (.publish fun m hm => ?_) ?_
    · exact ⟨hm, rfl⟩
    refine Run.exists_cons (.sent 0) (.sent rfl) ?_
    refine Run.exists_cons (.redrive _) (.redrive (List.mem_singleton_self _)) ?_
    refine Run.exists_cons (.database (.execution sampleId (.cancel "trace-1"), zeroClock))
      (.database (show IsDatetime 0 by decide) id (.execution rfl (.cancel rfl))) ?_
    refine Run.exists_cons (.inspect _) (.inspect (List.mem_singleton_self _)) ?_
    refine Run.exists_cons (.discard 1) (.discard rfl (hclassified _ _ rfl rfl).choose_spec.1
      (hclassified _ _ rfl rfl).choose_spec.2) ?_
    refine Run.exists_cons (.discarded 1 _) (.discarded rfl) ?_
    exact Run.exists_nil ⟨_, _, List.mem_of_getElem? (i := 8) rfl, rfl⟩
  obtain ⟨trace, s, hrun, l, x, hx, hlabel⟩ := hrun
  exact ⟨trace, s, hrun, l, ⟨x, hx, hlabel⟩,
    (deletions_are_final fits_floatConst sampleState_initial hrun x hx 1 l).2 hlabel⟩

end Delivery

end Rigor
