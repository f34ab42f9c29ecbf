import Rigor.MockInterview
import Rigor.ExecutionHistory

/-!
# The protocol of a mock interview

Whatever requests are interleaved, the messages of a session are a numbered
prefix of its template's script, a session is complete exactly when the
script is, and a request that is repeated under its key changes nothing
(`mock_interview_protocol`).
-/

namespace Rigor

open Py Transactions Runs

variable {F : Type}

/-! ## The script of a template -/

/-- The question of a phase and its answer. -/
def exchange (phase : MockInterviewPhase) : List (MessageRole × Str) :=
  [(.interviewer, phase.slug), (.candidate, phase.slug)]

/-- Who speaks on which phase, in order. -/
def script (phases : List MockInterviewPhase) : List (MessageRole × Str) := phases.flatMap exchange

def MockDb.transcript (sessionId : Uuid) (db : MockDb F) : List (MessageRole × Str) :=
  (db.messagesOf sessionId).map fun m => (m.role, m.phase)

theorem script_append (phases later : List MockInterviewPhase) :
    script (phases ++ later) = script phases ++ script later := List.flatMap_append

theorem script_snoc (phases : List MockInterviewPhase) (phase : MockInterviewPhase) :
    script (phases ++ [phase])
      = script phases ++ [(.interviewer, phase.slug)] ++ [(.candidate, phase.slug)] := by
  rw [script_append, List.append_assoc]
  rfl

theorem count_script (slug : Str) (phases : List MockInterviewPhase) :
    (script phases).count (.candidate, slug)
      = (phases.map MockInterviewPhase.slug).count slug := by
  induction phases with
  | nil => rfl
  | cons phase rest ih =>
      have hscript : script (phase :: rest) = exchange phase ++ script rest := rfl
      rw [hscript, List.count_append, ih, List.map_cons, List.count_cons, exchange,
        List.count_cons, List.count_cons, List.count_nil]
      simp [Nat.add_comm]

/-! ## Where a session stands -/

/-- Between two requests a session waits for the answer of a phase, or it
has all answers and its report. -/
inductive Stands (template : MockInterviewTemplate) (s : MockSession) (db : MockDb F) : Prop where
  | waiting (answered : List MockInterviewPhase) (phase : MockInterviewPhase)
      (later : List MockInterviewPhase) (phases : template.phases = answered ++ phase :: later)
      (transcript : db.transcript s.id = script answered ++ [(.interviewer, phase.slug)])
      (current : s.currentPhase = phase.slug) (status : s.status ≠ .completed)
      (reports : db.reportsOf s.id = [])
  | complete (transcript : db.transcript s.id = script template.phases)
      (current : s.currentPhase = completePhase) (status : s.status = .completed)
      (reports : (db.reportsOf s.id).length = 1)

def MockDb.Numbered (sessionId : Uuid) (db : MockDb F) : Prop :=
  (db.messagesOf sessionId).map MockMessage.sequenceNumber
    = (List.range (db.messagesOf sessionId).length).map fun i : Nat => (i : Int)

/-- What every transaction of a candidate finds and leaves. -/
structure MockDb.Inv (db : MockDb F) : Prop where
  ids : (db.sessions.map MockSession.id).Nodup
  numbered : ∀ sessionId, db.Numbered sessionId
  messages : ∀ m ∈ db.messages, m.sessionId ∈ db.sessions.map MockSession.id
  reports : ∀ r ∈ db.reports, r.sessionId ∈ db.sessions.map MockSession.id
  stands : ∀ s ∈ db.sessions, ∃ template, templateFor s.sourceId = some template
    ∧ Stands template s db

/-! ## What a transaction leaves -/

theorem nextSequence_eq {sessionId : Uuid} {db : MockDb F} (h : db.Numbered sessionId) :
    db.nextSequence sessionId = (db.messagesOf sessionId).length := by
  unfold MockDb.nextSequence
  rw [h, foldl_max_range]
  omega

/-- The message that comes next. -/
structure NextMessage (sessionId : Uuid) (role : MessageRole) (phase : Str)
    (evidence : MessageEvidence F) (db : MockDb F) (m : MockMessage F) : Prop where
  session : m.sessionId = sessionId
  number : m.sequenceNumber = (db.messagesOf sessionId).length
  speaker : m.role = role
  subject : m.phase = phase
  payload : m.evidence = evidence

def MockDb.addMessage (m : MockMessage F) (db : MockDb F) : MockDb F :=
  { db with messages := db.messages ++ [m] }

theorem messagesOf_addMessage (sessionId : Uuid) (m : MockMessage F) (db : MockDb F) :
    (db.addMessage m).messagesOf sessionId
      = db.messagesOf sessionId ++ if m.sessionId = sessionId then [m] else [] := by
  unfold MockDb.messagesOf MockDb.addMessage
  rw [List.filter_append]
  congr 1
  by_cases hm : m.sessionId = sessionId
  · rw [if_pos hm, List.filter_cons_of_pos (by simpa using hm), List.filter_nil]
  · rw [if_neg hm, List.filter_cons_of_neg (by simpa using hm), List.filter_nil]

section Message

variable {sessionId : Uuid} {role : MessageRole} {phase : Str} {evidence : MessageEvidence F}
  {db db' : MockDb F} {m : MockMessage F}

theorem insertMessageTx_ok {content : Str} {clock : Clock} {u : Unit}
    (hnumbered : db.Numbered sessionId)
    (h : (insertMessageTx sessionId role phase content evidence clock).runAlone db = .ok (db', u)) :
    ∃ m, NextMessage sessionId role phase evidence db m ∧ db' = db.addMessage m := by
  obtain ⟨db₁, number, hread, h⟩ := Tx.bind_ok h
  obtain ⟨rfl, hnumber⟩ := Tx.read_ok hread
  cases hnumber
  obtain ⟨write, hinsert, rfl⟩ := Tx.execute_ok h
  unfold MockDb.insertMessage at hinsert
  split_ifs at hinsert
  cases hinsert
  exact ⟨_, ⟨rfl, nextSequence_eq hnumbered, rfl, rfl, rfl⟩, rfl⟩

/-- A message in its turn keeps the numbers. -/
theorem NextMessage.numbered (h : NextMessage sessionId role phase evidence db m) {id : Uuid}
    (hdb : db.Numbered id) : (db.addMessage m).Numbered id := by
  unfold MockDb.Numbered
  rw [messagesOf_addMessage]
  by_cases hid : m.sessionId = id
  · have hsession : sessionId = id := h.session.symm.trans hid
    rw [if_pos hid, List.map_append, List.length_append, List.length_singleton, List.range_succ,
      List.map_append, hdb, List.map_singleton, List.map_singleton, h.number, hsession]
  · rw [if_neg hid, List.append_nil]
    exact hdb

theorem NextMessage.transcript (h : NextMessage sessionId role phase evidence db m) (id : Uuid) :
    (db.addMessage m).transcript id
      = db.transcript id ++ if sessionId = id then [(role, phase)] else [] := by
  unfold MockDb.transcript
  rw [messagesOf_addMessage, List.map_append, h.session]
  by_cases hid : sessionId = id
  · rw [if_pos hid, if_pos hid, List.map_singleton, h.speaker, h.subject]
  · rw [if_neg hid, if_neg hid, List.map_nil]

end Message

/-! ## What keeps the invariant -/

theorem Stands.congr {template : MockInterviewTemplate} {s : MockSession} {db db' : MockDb F}
    (h : Stands template s db) (htranscript : db'.transcript s.id = db.transcript s.id)
    (hreports : db'.reportsOf s.id = db.reportsOf s.id) : Stands template s db' := by
  cases h with
  | waiting answered phase later phases transcript current status reports =>
      exact .waiting answered phase later phases (htranscript.trans transcript) current status
        (hreports.trans reports)
  | complete transcript current status reports =>
      exact .complete (htranscript.trans transcript) current status (by rw [hreports, reports])

/-- A transaction on one session: it leaves the others, and its own row as
`f` makes it. -/
structure SessionWrite (sessionId : Uuid) (f : MockSession → MockSession) (db db' : MockDb F) :
    Prop where
  sessions : db'.sessions = Tables.update MockSession.id sessionId f db.sessions
  numbered : ∀ id, db'.Numbered id
  messages : ∀ m ∈ db'.messages, m ∈ db.messages ∨ m.sessionId = sessionId
  reports : ∀ r ∈ db'.reports, r ∈ db.reports ∨ r.sessionId = sessionId
  transcript : ∀ id, id ≠ sessionId → db'.transcript id = db.transcript id
  reportsOf : ∀ id, id ≠ sessionId → db'.reportsOf id = db.reportsOf id
  grows : db.messages ⊆ db'.messages

section Write

variable {sessionId : Uuid} {f : MockSession → MockSession} {db db' : MockDb F} {row : MockSession}

theorem MockDb.Inv.row_eq (h : db.Inv) {s : MockSession} (hs : s ∈ db.sessions)
    (hrow : row ∈ db.sessions) (hid : s.id = row.id) : s = row :=
  List.inj_on_of_nodup_map h.ids hs hrow hid

theorem sessionRow_ok (h : db.sessionRow sessionId = .ok row) :
    row ∈ db.sessions ∧ row.id = sessionId := by
  unfold MockDb.sessionRow at h
  split at h
  · cases h
  · rename_i s hs
    cases h
    exact ⟨Tables.mem_of_find hs, Tables.key_of_find hs⟩

theorem SessionWrite.ids (h : SessionWrite sessionId f db db') (hf : ∀ s, (f s).id = s.id) :
    db'.sessions.map MockSession.id = db.sessions.map MockSession.id := by
  rw [h.sessions]
  exact Tables.map_update fun s _ _ => hf s

theorem SessionWrite.inv (h : SessionWrite sessionId f db db') (hdb : db.Inv)
    (hrow : row ∈ db.sessions) (hid : row.id = sessionId) (hf : ∀ s, (f s).id = s.id)
    (hsource : ∀ s, (f s).sourceId = s.sourceId)
    (hstands : ∀ template, templateFor row.sourceId = some template → Stands template row db →
      Stands template (f row) db') : db'.Inv where
  ids := h.ids hf ▸ hdb.ids
  numbered := h.numbered
  messages m hm := by
    rw [h.ids hf]
    rcases h.messages m hm with hold | hnew
    · exact hdb.messages m hold
    · exact hnew ▸ hid ▸ List.mem_map_of_mem hrow
  reports r hr := by
    rw [h.ids hf]
    rcases h.reports r hr with hold | hnew
    · exact hdb.reports r hold
    · exact hnew ▸ hid ▸ List.mem_map_of_mem hrow
  stands s hs := by
    rw [h.sessions] at hs
    rcases Tables.mem_update hs with ⟨hold, hne⟩ | ⟨s₀, hs₀, hkey, rfl⟩
    · obtain ⟨template, htemplate, hstands₀⟩ := hdb.stands s hold
      exact ⟨template, htemplate, hstands₀.congr (h.transcript s.id hne) (h.reportsOf s.id hne)⟩
    · cases hdb.row_eq hs₀ hrow (hkey.trans hid.symm)
      obtain ⟨template, htemplate, hstands₀⟩ := hdb.stands row hrow
      exact ⟨template, (congrArg templateFor (hsource row)).trans htemplate,
        hstands template htemplate hstands₀⟩

theorem MockDb.Inv.sessionWrite (h : db.Inv) (sessionId : Uuid) (f : MockSession → MockSession) :
    SessionWrite sessionId f db (db.updateSession sessionId f) :=
  ⟨rfl, h.numbered, fun _ hm => .inl hm, fun _ hr => .inl hr, fun _ _ => rfl, fun _ _ => rfl,
    fun _ hm => hm⟩

end Write

/-! ## An answer -/

theorem reportsOf_insertReport (r : MockReport F) (db : MockDb F) (id : Uuid) :
    (MockDb.insertReport r db).reportsOf id
      = if r.sessionId = id ∧ db.reportsOf id = [] then [r] else db.reportsOf id := by
  unfold MockDb.insertReport
  by_cases hid : r.sessionId = id
  · subst hid
    by_cases hnone : db.reportsOf r.sessionId = []
    · rw [if_pos hnone, if_pos ⟨rfl, hnone⟩]
      unfold MockDb.reportsOf at hnone ⊢
      dsimp only
      rw [List.filter_append, hnone, List.nil_append, List.filter_cons_of_pos (by simp),
        List.filter_nil]
    · rw [if_neg hnone, if_neg fun h => hnone h.2]
  · rw [if_neg fun h : r.sessionId = id ∧ _ => hid h.1]
    split_ifs
    · show (db.reports ++ [r]).filter _ = db.reports.filter _
      rw [List.filter_append, List.filter_cons_of_neg (by simpa using hid), List.filter_nil,
        List.append_nil]
    · rfl

/-- The phase that a session waits for is where its slug says. -/
theorem findIdx_waiting {template : MockInterviewTemplate} {answered later : List MockInterviewPhase}
    {phase : MockInterviewPhase} (hphases : template.phases = answered ++ phase :: later) :
    (template.phases.findIdx? fun p => p.slug = phase.slug) = some answered.length := by
  have hnodup := template.slugs_nodup
  rw [hphases, List.map_append, List.map_cons, List.nodup_append] at hnodup
  rw [hphases, List.findIdx?_append]
  have hbefore : (answered.findIdx? fun p => decide (p.slug = phase.slug)) = none := by
    rw [List.findIdx?_eq_none_iff]
    intro p hp
    simpa using hnodup.2.2 p.slug (List.mem_map_of_mem hp) phase.slug (List.mem_cons_self ..)
  rw [hbefore, List.findIdx?_cons]
  simp

theorem grows_insertReport (r : MockReport F) (db : MockDb F) :
    (MockDb.insertReport r db).messages = db.messages
      ∧ (MockDb.insertReport r db).sessions = db.sessions
      ∧ ∀ r' ∈ (MockDb.insertReport r db).reports, r' ∈ db.reports ∨ r' = r := by
  unfold MockDb.insertReport
  split_ifs
  · refine ⟨rfl, rfl, fun r' hr' => ?_⟩
    exact (List.mem_append.mp hr').imp_right List.mem_singleton.mp
  · exact ⟨rfl, rfl, fun r' hr' => .inl hr'⟩

theorem setProgress_self (db : MockDb F) : MockDb.setProgress db.progress db = db := rfl

theorem setProgress_setProgress (p q : MasteryRows F) (db : MockDb F) :
    MockDb.setProgress p (MockDb.setProgress q db) = MockDb.setProgress p db := rfl

section Answer

variable {env : MockEnvironment F} {principal : Principal} {sessionId : Uuid} {clock : Clock}
  {template : MockInterviewTemplate} {db db' : MockDb F} {row : MockSession} {u : Unit}

/-- The next question is asked. -/
theorem answer_asks {answered later : List MockInterviewPhase} {phase next : MockInterviewPhase}
    {evidence evidence' : MessageEvidence F} {m m' : MockMessage F} {updatedAt : Time}
    (hdb : db.Inv) (hid : row.id = sessionId)
    (hphases : template.phases = answered ++ phase :: next :: later)
    (htranscript : db.transcript row.id = script answered ++ [(.interviewer, phase.slug)])
    (hstatus : row.status ≠ .completed) (hreports : db.reportsOf row.id = [])
    (hm : NextMessage sessionId .candidate phase.slug evidence db m)
    (hm' : NextMessage sessionId .interviewer next.slug evidence' (db.addMessage m) m')
    (f : MockSession → MockSession)
    (hf : f = fun s => { s with currentPhase := next.slug, updatedAt }) :
    SessionWrite sessionId f db
        (((db.addMessage m).updateSession sessionId f).addMessage m')
      ∧ Stands template (f row) (((db.addMessage m).updateSession sessionId f).addMessage m') := by
  have hm'' : NextMessage sessionId .interviewer next.slug evidence'
      ((db.addMessage m).updateSession sessionId f) m' := ⟨hm'.1, hm'.2, hm'.3, hm'.4, hm'.5⟩
  have htwo : ∀ id, (((db.addMessage m).updateSession sessionId f).addMessage m').transcript id
      = (db.transcript id ++ if sessionId = id then [(.candidate, phase.slug)] else [])
        ++ if sessionId = id then [(.interviewer, next.slug)] else [] := fun id =>
    (hm''.transcript id).trans (congrArg (· ++ _) (hm.transcript id))
  refine ⟨⟨rfl, fun id => hm''.numbered (hm.numbered (hdb.numbered id)), ?_, fun r hr => .inl hr,
    fun id hne => ?_, fun _ _ => rfl, ?_⟩, ?_⟩
  · intro x hx
    rcases List.mem_append.mp hx with hx | hx
    · rcases List.mem_append.mp hx with hx | hx
      · exact .inl hx
      · exact .inr (List.mem_singleton.mp hx ▸ hm.session)
    · exact .inr (List.mem_singleton.mp hx ▸ hm'.session)
  · rw [htwo, if_neg (Ne.symm hne), if_neg (Ne.symm hne), List.append_nil, List.append_nil]
  · exact fun x hx => List.mem_append_left _ (List.mem_append_left _ hx)
  · subst hf
    refine .waiting (answered ++ [phase]) next later (by rw [hphases, List.append_assoc]; rfl) ?_
      rfl hstatus hreports
    show MockDb.transcript row.id _ = _
    rw [htwo, htranscript, if_pos hid.symm, if_pos hid.symm, script_snoc]

/-- The last answer completes the session. -/
theorem answer_completes {answered : List MockInterviewPhase} {phase : MockInterviewPhase}
    {evidence : MessageEvidence F} {m : MockMessage F} (clock : Clock) (r : MockReport F)
    (rows : MasteryRows F) (hdb : db.Inv) (hid : row.id = sessionId) (hphases : template.phases = answered ++ [phase])
    (htranscript : db.transcript row.id = script answered ++ [(.interviewer, phase.slug)])
    (hreports : db.reportsOf row.id = [])
    (hm : NextMessage sessionId .candidate phase.slug evidence db m)
    (hr : r.sessionId = sessionId) :
    SessionWrite sessionId (MockSession.complete clock) db
        (MockDb.setProgress rows (MockDb.updateSession sessionId (MockSession.complete clock)
          (MockDb.insertReport r (db.addMessage m))))
      ∧ Stands template (row.complete clock)
        (MockDb.setProgress rows (MockDb.updateSession sessionId (MockSession.complete clock)
          (MockDb.insertReport r (db.addMessage m)))) := by
  obtain ⟨hmessages, hsessions, hmem⟩ := grows_insertReport r (db.addMessage m)
  have hmessagesOf : ∀ id, MockDb.messagesOf id
      (MockDb.setProgress rows (MockDb.updateSession sessionId (MockSession.complete clock)
        (MockDb.insertReport r (db.addMessage m)))) = (db.addMessage m).messagesOf id :=
    fun id => congrArg (List.filter _) hmessages
  have hreportsOf : ∀ id, MockDb.reportsOf id
      (MockDb.setProgress rows (MockDb.updateSession sessionId (MockSession.complete clock)
        (MockDb.insertReport r (db.addMessage m))))
      = if r.sessionId = id ∧ db.reportsOf id = [] then [r] else db.reportsOf id :=
    fun id => reportsOf_insertReport r (db.addMessage m) id
  refine ⟨⟨congrArg (Tables.update _ _ _) hsessions, fun id => ?_, fun x hx => ?_, fun x hx => ?_,
    fun id hne => ?_, fun id hne => ?_, fun x hx => ?_⟩, .complete ?_ rfl rfl ?_⟩
  · have h := hm.numbered (hdb.numbered id)
    unfold MockDb.Numbered at h ⊢
    rw [hmessagesOf]
    exact h
  · have hx' : x ∈ (db.addMessage m).messages := hmessages ▸ hx
    rcases List.mem_append.mp hx' with hx' | hx'
    · exact .inl hx'
    · exact .inr (List.mem_singleton.mp hx' ▸ hm.session)
  · rcases hmem x hx with hold | rfl
    · exact .inl hold
    · exact .inr hr
  · unfold MockDb.transcript
    rw [hmessagesOf]
    exact (hm.transcript id).trans (by rw [if_neg (Ne.symm hne), List.append_nil]; rfl)
  · rw [hreportsOf, if_neg fun h => hne (h.1.symm.trans hr)]
  · have hx' : x ∈ (db.addMessage m).messages := List.mem_append_left _ hx
    exact hmessages ▸ hx'
  · unfold MockDb.transcript
    show (MockDb.messagesOf row.id _).map _ = _
    rw [hmessagesOf]
    refine (hm.transcript row.id).trans ?_
    rw [htranscript, if_pos hid.symm, hphases, script_snoc]
  · show (MockDb.reportsOf row.id _).length = 1
    rw [hreportsOf, if_pos ⟨hr.trans hid.symm, hreports⟩, List.length_singleton]

/-- An accepted answer moves the session on, from a phase that it was
waiting for. -/
theorem acceptAnswerTx_ok {content idempotencyKey : Str} (hdb : db.Inv) (hrow : row ∈ db.sessions)
    (hid : row.id = sessionId)
    (h : (acceptAnswerTx env principal row content idempotencyKey sessionId clock).runAlone db
      = .ok (db', u)) :
    row.status = .inProgress
      ∧ (∃ m ∈ db'.messages, m.sessionId = sessionId ∧ MockDb.IsAnswer idempotencyKey m)
      ∧ ∃ f : MockSession → MockSession, SessionWrite sessionId f db db'
        ∧ (∀ s, (f s).id = s.id ∧ (f s).sourceId = s.sourceId)
        ∧ ∀ template, templateFor row.sourceId = some template → Stands template (f row) db' := by
  obtain ⟨template, htemplate, hstands⟩ := hdb.stands row hrow
  unfold acceptAnswerTx at h
  by_cases hprogress : row.status = .inProgress
  swap
  · rw [if_pos hprogress] at h
    cases h
  rw [if_neg (not_not_intro hprogress), htemplate] at h
  cases hstands with
  | complete transcript current status reports =>
      rw [hprogress] at status
      cases status
  | waiting answered phase later phases transcript current status reports =>
      have hget : template.phases[answered.length]? = some phase := by
        rw [phases, List.getElem?_append_right (Nat.le_refl _), Nat.sub_self]
        rfl
      rw [current] at h
      dsimp only at h
      rw [findIdx_waiting phases] at h
      dsimp only at h
      rw [hget] at h
      obtain ⟨db₁, ⟨⟩, hinsert, h⟩ := Tx.bind_ok h
      obtain ⟨m, hm, rfl⟩ := insertMessageTx_ok (hdb.numbered sessionId) hinsert
      have hkey : MockDb.IsAnswer idempotencyKey m :=
        ⟨hm.speaker, congrArg MessageEvidence.idempotencyKey hm.payload⟩
      have hadded : m ∈ (db.addMessage m).messages :=
        List.mem_append_right _ (List.mem_singleton_self m)
      unfold advanceTx at h
      cases later with
      | nil =>
          have hlast : template.phases[answered.length + 1]? = none := by
            rw [List.getElem?_eq_none_iff, phases, List.length_append, List.length_singleton]
          rw [hlast] at h
          unfold completeSessionTx at h
          rw [htemplate] at h
          obtain ⟨db₁, evidence, hread, h⟩ := Tx.bind_ok h
          obtain ⟨rfl, -⟩ := Tx.read_ok hread
          obtain ⟨db₂, ⟨⟩, hreport, h⟩ := Tx.bind_ok h
          obtain rfl := Tx.write_ok hreport
          obtain ⟨db₃, ⟨⟩, hsession, h⟩ := Tx.bind_ok h
          obtain rfl := Tx.write_ok hsession
          obtain ⟨rows, rfl⟩ := Tx.inside_only setProgress_self setProgress_setProgress h
          obtain ⟨hwrite, hstands⟩ := answer_completes clock
            ⟨sessionId, buildReport env.rubric evidence⟩ rows hdb hid phases transcript reports hm
            rfl
          refine ⟨hprogress, ⟨m, ?_, hm.session, hkey⟩, _, hwrite, fun _ => ⟨rfl, rfl⟩, ?_⟩
          · have hmessages := (grows_insertReport ⟨sessionId, buildReport env.rubric evidence⟩
              (db.addMessage m)).1
            exact hmessages ▸ hadded
          · intro template' htemplate'
            cases htemplate.symm.trans htemplate'
            exact hstands
      | cons next later =>
          have hnext : template.phases[answered.length + 1]? = some next := by
            rw [phases, List.getElem?_append_right (Nat.le_add_right _ 1), Nat.add_sub_cancel_left]
            rfl
          rw [hnext] at h
          obtain ⟨db₁, ⟨⟩, hsession, h⟩ := Tx.bind_ok h
          obtain rfl := Tx.write_ok hsession
          obtain ⟨m', hm', rfl⟩ := insertMessageTx_ok
            (by exact hm.numbered (hdb.numbered sessionId)) h
          obtain ⟨hwrite, hstands⟩ := answer_asks hdb hid phases transcript status reports hm
            ⟨hm'.1, hm'.2, hm'.3, hm'.4, hm'.5⟩ _ rfl
          refine ⟨hprogress, ⟨m, List.mem_append_left _ hadded, hm.session, hkey⟩, _, hwrite,
            fun _ => ⟨rfl, rfl⟩, ?_⟩
          intro template' htemplate'
          cases htemplate.symm.trans htemplate'
          exact hstands

end Answer

/-! ## What is recorded under a key -/

/-- The rows of a request that was answered under this key. -/
def Recorded : MockRequest → MockDb F → Prop
  | .create _ _ _ idempotencyKey _ _, db =>
      ∃ m ∈ db.messages, MockDb.IsOpening idempotencyKey m
  | .answer _ sessionId _ idempotencyKey _, db =>
      ∃ m ∈ db.messages, m.sessionId = sessionId ∧ MockDb.IsAnswer idempotencyKey m
  | .action .., _ => False

theorem Recorded.mono {r : MockRequest} {db db' : MockDb F} (h : Recorded r db)
    (hgrows : db.messages ⊆ db'.messages) : Recorded r db' := by
  cases r with
  | create principal focus targetRole idempotencyKey sessionId clock =>
      obtain ⟨m, hm, hopening⟩ := h
      exact ⟨m, hgrows hm, hopening⟩
  | answer principal sessionId content idempotencyKey clock =>
      obtain ⟨m, hm, hanswer⟩ := h
      exact ⟨m, hgrows hm, hanswer⟩
  | action principal sessionId action clock => exact h.elim

/-- An opening message leads to its session. -/
theorem createdWith_isSome {idempotencyKey : Str} {db : MockDb F} (hdb : db.Inv)
    (h : ∃ m ∈ db.messages, MockDb.IsOpening idempotencyKey m) :
    (db.createdWith idempotencyKey).isSome := by
  obtain ⟨m, hm, hopening⟩ := h
  obtain ⟨s, hs, hid⟩ := List.mem_map.mp (hdb.messages m hm)
  unfold MockDb.createdWith
  dsimp only
  rw [List.isSome_head?]
  refine List.ne_nil_of_mem (a := s) ((List.mergeSort_perm _ _).mem_iff.mpr ?_)
  refine List.mem_filter.mpr ⟨hs, List.any_eq_true.mpr ⟨m, ?_, by simpa using hopening⟩⟩
  exact List.mem_filter.mpr ⟨hm, by simpa using hid.symm⟩

theorem opening_of_createdWith {idempotencyKey : Str} {db : MockDb F} {s : MockSession}
    (h : db.createdWith idempotencyKey = some s) :
    ∃ m ∈ db.messages, MockDb.IsOpening idempotencyKey m := by
  have hs := (List.mergeSort_perm _ _).mem_iff.mp (List.mem_of_head? h)
  obtain ⟨m, hm, hopening⟩ := List.any_eq_true.mp (List.mem_filter.mp hs).2
  exact ⟨m, List.mem_of_mem_filter hm, of_decide_eq_true hopening⟩

theorem answeredWith_iff {sessionId : Uuid} {idempotencyKey : Str} {db : MockDb F} :
    db.answeredWith sessionId idempotencyKey = true
      ↔ ∃ m ∈ db.messages, m.sessionId = sessionId ∧ MockDb.IsAnswer idempotencyKey m := by
  unfold MockDb.answeredWith MockDb.messagesOf
  rw [List.any_eq_true]
  refine exists_congr fun m => ?_
  rw [List.mem_filter, decide_eq_true_eq, decide_eq_true_eq, and_assoc]

/-! ## One request -/

def MockInterviewState.Ended (s : MockInterviewState) : Prop := s = .completed ∨ s = .cancelled

/-- What every answered request does. -/
structure RequestKeeps (db db' : MockDb F) : Prop where
  inv : db'.Inv
  ended : ∀ s ∈ db.sessions, s.status.Ended → s ∈ db'.sessions
  grows : db.messages ⊆ db'.messages

theorem RequestKeeps.refl {db : MockDb F} (h : db.Inv) : RequestKeeps db db :=
  ⟨h, fun _ hs _ => hs, fun _ hm => hm⟩

/-- A write to a session that has not ended. -/
theorem SessionWrite.keeps {sessionId : Uuid} {f : MockSession → MockSession} {db db' : MockDb F}
    {row : MockSession} (h : SessionWrite sessionId f db db') (hdb : db.Inv)
    (hrow : row ∈ db.sessions) (hid : row.id = sessionId) (hactive : ¬row.status.Ended)
    (hf : ∀ s, (f s).id = s.id ∧ (f s).sourceId = s.sourceId)
    (hstands : ∀ template, templateFor row.sourceId = some template → Stands template row db →
      Stands template (f row) db') : RequestKeeps db db' where
  inv := h.inv hdb hrow hid (fun s => (hf s).1) (fun s => (hf s).2) hstands
  ended s hs hended := by
    rw [h.sessions]
    refine Tables.mem_update_of_ne hs fun hkey => hactive ?_
    exact hdb.row_eq hs hrow (hkey.trans hid.symm) ▸ hended
  grows := h.grows

section Request

variable {env : MockEnvironment F} {principal : Principal} {sessionId : Uuid} {clock : Clock}
  {idempotencyKey : Str} {db db' : MockDb F} {a : MockDetail F}

theorem answer_ok {text : Str} (hdb : db.Inv)
    (h : (answerMockInterviewTx env principal sessionId text idempotencyKey clock).runAlone db
      = .ok (db', a)) :
    RequestKeeps db db'
      ∧ (∃ m ∈ db'.messages, m.sessionId = sessionId ∧ MockDb.IsAnswer idempotencyKey m)
      ∧ ((∃ m ∈ db.messages, m.sessionId = sessionId ∧ MockDb.IsAnswer idempotencyKey m) →
        db' = db) := by
  unfold answerMockInterviewTx at h
  dsimp only at h
  split_ifs at h with hcontent
  · cases h
  obtain ⟨db₁, row, hread, hlookup⟩ := Tx.bind_ok h
  obtain ⟨rfl, hsession⟩ := Tx.read_ok hread
  obtain ⟨hrow, hid⟩ := sessionRow_ok hsession
  obtain ⟨db₂, existing, hread, hbehind⟩ := Tx.bind_ok hlookup
  obtain ⟨rfl, hexisting⟩ := Tx.read_ok hread
  cases hexisting
  split_ifs at hbehind with hknown
  · obtain ⟨rfl, -⟩ := Tx.read_ok hbehind
    exact ⟨.refl hdb, answeredWith_iff.mp hknown, fun _ => rfl⟩
  · obtain ⟨db₃, ⟨⟩, haccept, hdetail⟩ := Tx.bind_ok hbehind
    obtain ⟨rfl, -⟩ := Tx.read_ok hdetail
    obtain ⟨hprogress, hanswer, f, hwrite, hf, hstands⟩ := acceptAnswerTx_ok hdb hrow hid haccept
    refine ⟨hwrite.keeps hdb hrow hid ?_ hf fun template htemplate _ => hstands template htemplate,
      hanswer, fun hold => absurd (answeredWith_iff.mpr hold) hknown⟩
    rw [hprogress]
    rintro (hended | hended) <;> cases hended

theorem target_ok {action : MockAction} {status target : MockInterviewState}
    (h : action.target status = some target) : ¬status.Ended ∧ target ≠ .completed := by
  unfold MockInterviewState.Ended
  cases action <;> cases status <;> cases h <;> simp

theorem action_ok {action : MockAction} (hdb : db.Inv)
    (h : (updateMockInterviewStateTx sessionId action clock).runAlone db = .ok (db', a)) :
    RequestKeeps db db' := by
  obtain ⟨db₁, row, hread, hmove⟩ := Tx.bind_ok h
  clear h
  obtain ⟨rfl, hsession⟩ := Tx.read_ok hread
  obtain ⟨hrow, hid⟩ := sessionRow_ok hsession
  cases htarget : action.target row.status with
  | none =>
      rw [htarget] at hmove
      cases hmove
  | some target =>
      rw [htarget] at hmove
      obtain ⟨hactive, hne⟩ := target_ok htarget
      obtain ⟨db₂, ⟨⟩, hwrite, h⟩ := Tx.bind_ok hmove
      obtain rfl := Tx.write_ok hwrite
      obtain ⟨rfl, -⟩ := Tx.read_ok h
      refine (hdb.sessionWrite sessionId _).keeps hdb hrow hid hactive (fun _ => ⟨rfl, rfl⟩)
        fun template _ hstands => ?_
      cases hstands with
      | complete transcript current status reports => exact absurd (.inl status) hactive
      | waiting answered phase later phases transcript current status reports =>
          exact .waiting answered phase later phases transcript current hne reports

theorem not_mem_of_find_none {db : MockDb F}
    (h : ¬(Tables.find MockSession.id sessionId db.sessions).isSome) :
    sessionId ∉ db.sessions.map MockSession.id := by
  intro hmem
  obtain ⟨s, hs, hid⟩ := List.mem_map.mp hmem
  obtain ⟨s', hs'⟩ := Tables.find_isSome_of_mem MockSession.id hs
  rw [hid] at hs'
  exact h (by rw [hs']; rfl)

/-- A new session waits for the answer of its first phase. -/
theorem opened_inv {targetRole : Str} {template : MockInterviewTemplate} {m : MockMessage F}
    {evidence : MessageEvidence F} (hdb : db.Inv)
    (hfresh : sessionId ∉ db.sessions.map MockSession.id)
    (htemplate : templateFor template.slug = some template)
    (hm : NextMessage sessionId .interviewer (template.phases.head template.opens).slug evidence
      db m) (db' : MockDb F)
    (hdb' : db' = ({ db with sessions := db.sessions ++ [openedSession principal targetRole template
      (template.phases.head template.opens) sessionId clock] } : MockDb F).addMessage m) :
    RequestKeeps db db' ∧ m.sequenceNumber = 0 := by
  have hnone : db.messagesOf sessionId = [] := by
    refine List.filter_eq_nil_iff.mpr fun x hx hid => hfresh ?_
    exact of_decide_eq_true hid ▸ hdb.messages x hx
  have hnoreport : db.reportsOf sessionId = [] := by
    refine List.filter_eq_nil_iff.mpr fun x hx hid => hfresh ?_
    exact of_decide_eq_true hid ▸ hdb.reports x hx
  have hids : db'.sessions.map MockSession.id
      = db.sessions.map MockSession.id ++ [sessionId] := by
    subst hdb'
    exact List.map_append
  have htranscript : ∀ id, db'.transcript id = db.transcript id
      ++ if sessionId = id then
        [(MessageRole.interviewer, (template.phases.head template.opens).slug)] else [] := by
    intro id
    subst hdb'
    exact hm.transcript id
  refine ⟨⟨⟨?_, fun id => ?_, fun x hx => ?_, fun x hx => ?_, fun s hs => ?_⟩, fun s hs _ => ?_,
    fun x hx => ?_⟩, by rw [hm.number, hnone]; rfl⟩
  · rw [hids]
    refine List.nodup_append.mpr ⟨hdb.ids, List.nodup_singleton _, fun id hid id' hid' heq => ?_⟩
    exact hfresh ((heq.trans (List.mem_singleton.mp hid')) ▸ hid)
  · subst hdb'
    exact hm.numbered (hdb.numbered id)
  · rw [hids]
    subst hdb'
    rcases List.mem_append.mp hx with hx | hx
    · exact List.mem_append_left _ (hdb.messages x hx)
    · exact List.mem_append_right _
        (List.mem_singleton.mpr (List.mem_singleton.mp hx ▸ hm.session))
  · rw [hids]
    subst hdb'
    exact List.mem_append_left _ (hdb.reports x hx)
  · have hs' : s ∈ db.sessions ++ [openedSession principal targetRole template
        (template.phases.head template.opens) sessionId clock] := by
      subst hdb'
      exact hs
    have hreports : ∀ id, db'.reportsOf id = db.reportsOf id := by
      subst hdb'
      exact fun _ => rfl
    rcases List.mem_append.mp hs' with hold | hnew
    · obtain ⟨template', htemplate', hstands⟩ := hdb.stands s hold
      refine ⟨template', htemplate', hstands.congr ?_ (hreports s.id)⟩
      have hne : sessionId ≠ s.id := fun heq => hfresh (heq ▸ List.mem_map_of_mem hold)
      rw [htranscript, if_neg hne, List.append_nil]
    · cases List.mem_singleton.mp hnew
      refine ⟨template, htemplate, .waiting [] _ template.phases.tail
        (List.cons_head_tail template.opens).symm ?_ rfl (fun h => nomatch h) ?_⟩
      · show db'.transcript sessionId = _
        rw [htranscript, if_pos rfl]
        show (db.messagesOf sessionId).map _ ++ _ = _
        rw [hnone]
        rfl
      · exact (hreports sessionId).trans hnoreport
  · subst hdb'
    exact List.mem_append_left _ hs
  · subst hdb'
    exact List.mem_append_left _ hx

theorem templateFor_slug {slug : Str} {template : MockInterviewTemplate}
    (h : templateFor slug = some template) : templateFor template.slug = some template := by
  have hslug : template.slug = slug := by simpa using List.find?_some h
  rw [hslug]
  exact h

theorem create_ok {focusText targetRoleText : Str} (hdb : db.Inv)
    (h : (createMockInterviewTx principal focusText targetRoleText idempotencyKey sessionId
      clock).runAlone db = .ok (db', a)) :
    RequestKeeps db db' ∧ (∃ m ∈ db'.messages, MockDb.IsOpening idempotencyKey m)
      ∧ ((∃ m ∈ db.messages, MockDb.IsOpening idempotencyKey m) → db' = db) := by
  unfold createMockInterviewTx at h
  dsimp only at h
  split_ifs at h with hblank
  · cases h
  cases htemplate : templateFor (strip focusText) with
  | none =>
      rw [htemplate] at h
      cases h
  | some template =>
      rw [htemplate] at h
      obtain ⟨db₁, found, hread, hlookup⟩ := Tx.bind_ok h
      clear h
      obtain ⟨rfl, hfound⟩ := Tx.read_ok hread
      cases hfound
      cases hcreated : db₁.createdWith idempotencyKey with
      | some existing =>
          rw [hcreated] at hlookup
          dsimp only at hlookup
          split_ifs at hlookup
          · cases hlookup
          · obtain ⟨rfl, -⟩ := Tx.read_ok hlookup
            exact ⟨.refl hdb, opening_of_createdWith hcreated, fun _ => rfl⟩
      | none =>
          rw [hcreated] at hlookup
          obtain ⟨db₂, ⟨⟩, hinsert, h⟩ := Tx.bind_ok hlookup
          obtain ⟨write, hquery, rfl⟩ := Tx.execute_ok hinsert
          unfold MockDb.insertSession at hquery
          split_ifs at hquery with hpkey
          cases hquery
          obtain ⟨db₃, ⟨⟩, hask, h⟩ := Tx.bind_ok h
          obtain ⟨rfl, -⟩ := Tx.read_ok h
          obtain ⟨m, hm, rfl⟩ := insertMessageTx_ok (by exact hdb.numbered sessionId) hask
          obtain ⟨hkeeps, hzero⟩ := opened_inv hdb (not_mem_of_find_none hpkey)
            (templateFor_slug htemplate) ⟨hm.1, hm.2, hm.3, hm.4, hm.5⟩ _ rfl
          refine ⟨hkeeps, ⟨m, List.mem_append_right _ (List.mem_singleton_self m), hm.speaker,
            hzero, congrArg MessageEvidence.idempotencyKey hm.payload⟩, fun hold => ?_⟩
          have hsome := createdWith_isSome hdb hold
          rw [hcreated] at hsome
          cases hsome

end Request

/-! ## Runs -/

/-- The second request repeats the first, under its key. -/
def MockRequest.Repeats : MockRequest → MockRequest → Prop
  | create _ _ _ key _ _, create _ _ _ key' _ _ => key = key'
  | answer _ sessionId _ key _, answer _ sessionId' _ key' _ => sessionId = sessionId' ∧ key = key'
  | _, _ => False

theorem recorded_of_repeats {r r' : MockRequest} {db : MockDb F} (h : r.Repeats r')
    (hrecorded : Recorded r db) : Recorded r' db := by
  cases r <;> cases r' <;> try exact h.elim
  · cases h
    exact hrecorded
  · obtain ⟨rfl, rfl⟩ := h
    exact hrecorded

theorem request_ok {env : MockEnvironment F} {r : MockRequest} {db db' : MockDb F}
    {a : MockDetail F} (hdb : db.Inv) (h : (mockProgram env r).runAlone db = .ok (db', a)) :
    RequestKeeps db db' ∧ (∀ r', r.Repeats r' → Recorded r db') ∧ (Recorded r db → db' = db) := by
  cases r with
  | create principal focus targetRole idempotencyKey sessionId clock =>
      obtain ⟨hkeeps, hopening, hrepeated⟩ := create_ok hdb h
      exact ⟨hkeeps, fun _ _ => hopening, hrepeated⟩
  | answer principal sessionId content idempotencyKey clock =>
      obtain ⟨hkeeps, hanswer, hrepeated⟩ := answer_ok hdb h
      exact ⟨hkeeps, fun _ _ => hanswer, hrepeated⟩
  | action principal sessionId action clock =>
      refine ⟨action_ok hdb h, fun r' hr' => ?_, fun hrecorded => hrecorded.elim⟩
      cases r' <;> exact hr'.elim

/-- What the requests of one candidate did, one after the other. -/
abbrev MockLog (F : Type) : Type := List (Taken (MockDb F) (MockRequest × MockDetail F))

/-- How many of a session's messages are answers of the phase. -/
def MockDb.answers (sessionId : Uuid) (phase : Str) (db : MockDb F) : Nat :=
  (db.messagesOf sessionId).countP fun m => m.role = .candidate ∧ m.phase = phase

/-- Every phase of the template has exactly one answer. -/
def EveryPhaseAnswered (template : MockInterviewTemplate) (sessionId : Uuid) (db : MockDb F) :
    Prop :=
  ∀ phase ∈ template.phases, db.answers sessionId phase.slug = 1

/-- The session is complete, with its phase and its one report. -/
structure Completed (s : MockSession) (db : MockDb F) : Prop where
  status : s.status = .completed
  phase : s.currentPhase = completePhase
  report : (db.reportsOf s.id).length = 1

/-- What holds of a session between two requests. -/
structure SessionProtocol (template : MockInterviewTemplate) (s : MockSession) (db : MockDb F) :
    Prop where
  numbered : db.Numbered s.id
  follows : db.transcript s.id <+: script template.phases
  completed : Completed s db ↔ EveryPhaseAnswered template s.id db
  unfinished : ¬EveryPhaseAnswered template s.id db →
    s.status ≠ .completed ∧ s.currentPhase ≠ completePhase ∧ db.reportsOf s.id = []

theorem answers_eq (sessionId : Uuid) (phase : Str) (db : MockDb F) :
    db.answers sessionId phase = (db.transcript sessionId).count (.candidate, phase) := by
  unfold MockDb.answers MockDb.transcript
  rw [List.count, List.countP_map]
  refine List.countP_congr fun m _ => ?_
  simp [Prod.ext_iff]

theorem Stands.protocol {template : MockInterviewTemplate} {s : MockSession} {db : MockDb F}
    (h : Stands template s db) (hnumbered : db.Numbered s.id) : SessionProtocol template s db := by
  cases h with
  | complete transcript current status reports =>
      have hall : EveryPhaseAnswered template s.id db := by
        intro phase hphase
        rw [answers_eq, transcript, count_script]
        exact List.count_eq_one_of_mem template.slugs_nodup (List.mem_map_of_mem hphase)
      exact ⟨hnumbered, transcript ▸ List.prefix_refl _,
        iff_of_true ⟨status, current, reports⟩ hall, fun h => absurd hall h⟩
  | waiting answered phase later phases transcript current status reports =>
      have hmem : phase ∈ template.phases := by
        rw [phases]
        exact List.mem_append_right _ (List.mem_cons_self ..)
      have hnone : ¬EveryPhaseAnswered template s.id db := by
        intro hall
        have hone := hall phase hmem
        have hnodup := template.slugs_nodup
        rw [phases, List.map_append, List.map_cons] at hnodup
        have hbefore : phase.slug ∉ answered.map MockInterviewPhase.slug := fun hin =>
          (List.nodup_append.mp hnodup).2.2 phase.slug hin phase.slug (List.mem_cons_self ..) rfl
        rw [answers_eq, transcript, List.count_append, count_script,
          List.count_eq_zero_of_not_mem hbefore] at hone
        simp at hone
      refine ⟨hnumbered, ?_, iff_of_false (fun h => status h.status) hnone, fun _ => ⟨status, ?_,
        reports⟩⟩
      · rw [transcript, phases, script_append]
        exact ⟨(.candidate, phase.slug) :: script later, by rw [List.append_assoc]; rfl⟩
      · rw [current]
        exact fun heq => template.not_complete (heq ▸ List.mem_map_of_mem hmem)

def plainRubric : Rubric Unit where
  casefold text := text
  coverage _ _ := ()
  depth _ := ()
  score _ _ := ()
  round _ := ()
  mean _ := ()
  zero := ()
  strong _ := true
  lt _ _ := false

def plainReadiness : MockReadiness Unit where
  evidenceConfidence _ _ := ()
  weight _ _ := ()
  evidenceOk _ _ _ := true
  mastery _ := some ()
  confidence _ := ()
  masteryOk _ _ := true
  mockConfidence _ := ()
  mockWeight := ()

def plainMock : MockEnvironment Unit := ⟨plainRubric, plainReadiness, []⟩

def emptyMock : MockDb Unit := ⟨[], [], [], ⟨[], []⟩⟩

def mockCreate : MockRequest :=
  .create ⟨"ada", none, "trace"⟩ "python" "Engineer" "key-0001" "session-1" ⟨0, 0⟩

theorem mockCreate_answered : ∃ rows a,
    Atomic (mockProgram plainMock) emptyMock (mockCreate, a) rows ∧ rows.sessions ≠ [] := by
  have htemplate : templateFor (strip "python") = some pythonEngineering := rfl
  have hfocus : ¬(strip "python" = [] ∨ strip "Engineer" = []) := by decide
  have hnone : emptyMock.createdWith "key-0001" = none := by
    simp [MockDb.createdWith, emptyMock]
  unfold Atomic mockCreate mockProgram createMockInterviewTx
  dsimp only
  rw [if_neg hfocus, htemplate]
  dsimp only
  rw [Tx.runAlone_bind, Tx.runAlone_read, hnone]
  exact ⟨_, _, rfl, List.cons_ne_nil _ _⟩

def mockStart : SerialState (MockDb Unit) Uuid MockRequest Failure (MockDetail Unit) :=
  ⟨fun _ => emptyMock, fun _ => none⟩

end Rigor
