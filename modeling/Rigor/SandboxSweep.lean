import Rigor.SandboxOwnership

/-!
# Sandboxes are swept

What is left to delete is recorded in one nullable column, the name of the
Job, which the updates behind `cleanup` clear, and in the cancel event while
it is not processed. The Job and the Secret of an ended execution are gone
where a program of the controller forgets them (`Task.Follows.swept`), so
that a run that sweeps cleanly forgets none.
-/

namespace Rigor

open Py Runs

variable {F : Type}

/-! ## Sandboxes are remembered -/

/-- An ended execution whose Job or Secret exists is found again: its row
names the sandbox, or a cancel event is still to be processed. -/
def Cluster.Remembered (s : Cluster F) : Prop :=
  s.execution.state.IsTerminal → ¬s.SandboxGone →
    s.execution.row.kubernetesJobName.isSome ∨ s.cancelPending = true

theorem transition_jobName {target : ExecutionStatus}
    {details : ExecutionStatus → ExecutionStatus → EventDetails} {clock : Clock}
    {e e' : Execution F} (h : transition target details clock e = .ok e') :
    e'.row.kubernetesJobName = e.row.kubernetesJobName := by
  rw [transition] at h
  split at h
  · cases h
  · cases h; rfl

theorem persistTerminalResult_jobName {p : TrustedExecutionProjection F} {clock : Clock}
    {e e' : Execution F} {status : ExecutionStatus} (hterm : ¬e.state.IsTerminal)
    (h : persistTerminalResult p clock e = .ok (e', status)) :
    e'.row.kubernetesJobName = e.row.kubernetesJobName := by
  rw [persistTerminalResult, if_neg hterm] at h
  split at h
  · cases h
  · rename_i moved hmoved
    split_ifs at h
    obtain ⟨written, hwrite, heq⟩ := map_eq_ok h
    cases heq
    rw [writePublicResult] at hwrite
    split_ifs at hwrite
    cases hwrite
    have hname := transition_jobName hmoved
    exact hname

theorem Execution.Advanced.jobName {e e' : Execution F} (h : e.Advanced e')
    (ht : e'.state.IsTerminal) : e'.row.kubernetesJobName = e.row.kubernetesJobName := by
  rw [h.ends ht]

theorem persist_jobName {evaluator : Evaluator F} {workerId : Str} {package : DispatchPackage F}
    {p : TrustedExecutionProjection F} {clock : Clock} {a a' : Attempt F} {answer : Reply F}
    (h : Transaction.persist evaluator workerId package p clock a = .ok (a', answer)) :
    a'.execution.row.kubernetesJobName = a.execution.row.kubernetesJobName := by
  rw [Transaction.persist, persistProjection] at h
  obtain ⟨⟨stored, status⟩, hstored, heq⟩ := map_eq_ok h
  cases heq
  rcases persistObservation_ok hstored with rfl | ⟨-, -, hactive, p', -, hpersist, -⟩
  · rfl
  · exact persistTerminalResult_jobName hactive.not_terminal hpersist

/-- Only the two updates after a cleanup take the name of an ended
execution's sandbox away. -/
theorem Transaction.run_jobName {evaluator : Evaluator F} {workerId : Str}
    {graded : Option (TrustedExecutionProjection F)} {clock : Clock} {a a' : Attempt F}
    {answer : Reply F} {t : Transaction F}
    (h : t.run evaluator workerId graded clock a = .ok (a', answer)) (hkeeps : t.forgets = false)
    (ht : a'.execution.state.IsTerminal) :
    a'.execution.row.kubernetesJobName = a.execution.row.kubernetesJobName := by
  cases t with
  | claimForDispatch deadline =>
      obtain ⟨⟨e, claim⟩, hclaim, heq⟩ := map_eq_ok h
      cases heq
      exact (claimForDispatch_advanced hclaim).jobName ht
  | retryMissingSandbox lease deadline maxAttempts =>
      obtain ⟨⟨e, attempt⟩, hretry, heq⟩ := map_eq_ok h
      cases heq
      exact (retryMissingSandbox_advanced hretry).jobName ht
  | reacquireExpiredExecution lease missing deadline kubernetesNamespace kubernetesJobName =>
      cases h
      exact (reacquireExpiredExecution_advanced rfl).jobName ht
  | markRunning kubernetesNamespace kubernetesJobName =>
      cases h
      exact (markRunning_advanced ..).jobName ht
  | renewLease deadline =>
      obtain ⟨⟨e, renewed⟩, hrenew, heq⟩ := map_eq_ok h
      cases heq
      exact (renewLease_advanced hrenew).jobName ht
  | deferInfrastructureRetry package category =>
      cases h
      exact (deferInfrastructureRetry_advanced ..).jobName ht
  | persistProjection package p => exact persist_jobName h
  | persistObservation package =>
      dsimp only [Transaction.run] at h
      split_ifs at h with hlock
      · cases h; rfl
      · cases graded with
        | none => cases h; rfl
        | some p => exact persist_jobName h
  | selectTerminalOrphan => cases h; rfl
  | clearCancelled => cases hkeeps
  | clearTerminalOrphan => cases hkeeps

theorem Task.Follows.swept {s : Cluster F} {task : Task F} {k : Known}
    (h : task.Follows True s k) (hk : k.Swept) : s.execution.state.IsTerminal ∧ s.SandboxGone :=
  ⟨h.ended hk.1, (h.jobGone hk.2.1).2 trivial, (h.secretGone hk.2.2).2 trivial⟩

theorem Cluster.SandboxGone.put {s t : Cluster F} {resource : Resource} (h : s.SandboxGone)
    (hsandbox : t.sandbox = s.sandbox ∨ t.sandbox = s.sandbox.put false resource) :
    t.SandboxGone := by
  rw [SandboxGone]
  rcases hsandbox with heq | heq
  · rw [heq]; exact h
  · rw [heq]
    cases resource with
    | job => exact ⟨rfl, h.2⟩
    | secret => exact ⟨h.1, rfl⟩

theorem ClusterStep.remembered [Runtime F] {evaluator : Evaluator F} {s t : Cluster F}
    {a : Event F × Clock} (h : ClusterStep evaluator s a t) (hs : s.Inv True)
    (hclean : SweepsCleanly ⟨s, a, t⟩) (hr : s.Remembered) : t.Remembered := by
  cases h with
  | start h => exact hr
  | created hi hp =>
      exact fun ht _ => absurd ht (hclean.posts _ _ rfl ⟨hi, _, _, _, hp⟩)
  | failed hi hp _ =>
      exact fun ht _ => absurd ht (hclean.posts _ _ rfl ⟨hi, _, _, _, hp⟩)
  | observe hi hp _ => exact hr
  | delete hi hp hsandbox => exact fun ht hthere => hr ht fun hgone => hthere (hgone.put hsandbox)
  | @transact i clock task t next graded a answer hi hp h =>
      intro ht hthere
      obtain ⟨⟨k, hk⟩, -⟩ := hs.tasks task (List.mem_of_getElem? hi)
      have hcareful := hk.careful
      rw [hp] at hcareful
      have hkeeps : t.forgets = false := by
        cases hforgets : t.forgets with
        | false => rfl
        | true => exact absurd (hk.swept (hcareful.1 hforgets)).2 hthere
      have hname : a.execution.row.kubernetesJobName = s.execution.row.kubernetesJobName :=
        Transaction.run_jobName h hkeeps ht
      by_cases hterm : s.execution.state.IsTerminal
      · exact (hr hterm hthere).imp_left fun hsome => by rw [Cluster.execution, hname]; exact hsome
      · refine .inl ?_
        rw [Cluster.execution, hname]
        exact (hclean.results i rfl hterm ht).resolve_right hthere
  | @cancel clock traceId e h =>
      intro ht hthere
      by_cases hcancelled : s.execution.state = .cancelled
      · rw [Rigor.cancel, if_pos hcancelled] at h
        cases h
        exact (hr (by rw [hcancelled]; decide) hthere).imp_right fun hpending => by
          rw [hpending, Bool.true_or]
      · exact .inr (by rw [decide_eq_true hcancelled, Bool.or_true])
  | acknowledge hi hp =>
      intro _ hthere
      obtain ⟨⟨k, hk⟩, -⟩ := hs.tasks _ (List.mem_of_getElem? hi)
      have hcareful := hk.careful
      rw [hp] at hcareful
      exact absurd (hk.swept hcareful.1).2 hthere
  | jobExpires => exact fun ht hthere => hr ht fun hgone => hthere ⟨rfl, hgone.2⟩
  | discard h =>
      exact fun _ hthere => .inl ((hclean.discards rfl).resolve_right hthere)

/-- The candidate has cancelled the execution. -/
def cancelledSelect : Attempt NanoFloat :=
  { selectAttempt with
    execution := Execution.appendEvent .cancelled
      (.cancelled .dispatching .cancelled "candidate_requested" "trace")
      { (claimedBy "a" 180000000).execution with
        row := { (claimedBy "a" 180000000).execution.row with
          state := .cancelled
          completedAt := some 0
          leaseOwner := none
          leaseExpiresAt := none } } }

theorem cancel_select :
    cancel "trace" ⟨0, 0⟩ (claimedBy "a" 180000000).execution = .ok cancelledSelect.execution := rfl

theorem SweepsCleanly.of_going {x : Taken (Cluster F) (Event F × Clock)} {task : Task F}
    (htasks : x.source.tasks = [task])
    (hp : ∀ resource next, task.program ≠ .delete .ended resource next)
    (hs : ¬x.source.execution.state.IsTerminal)
    (ht : ∀ i, x.label.1 = .task i → ¬x.target.execution.state.IsTerminal)
    (hlabel : x.label.1 ≠ .discard) : SweepsCleanly x where
  posts _ _ _ _ := hs
  deletes i other resource _ := by
    rintro ⟨hi, next, hnext⟩
    have hmem := List.mem_of_getElem? hi
    rw [htasks] at hmem
    rw [List.mem_singleton.mp hmem] at hnext
    exact absurd hnext (hp resource next)
  results i hi _ hended := absurd hended (ht i hi)
  discards h := absurd h hlabel

theorem SweepsCleanly.of_sweeping {x : Taken (Cluster F) (Event F × Clock)} {i : Nat}
    {task : Task F} (hlabel : x.label.1 = .task i) (hi : x.source.tasks[i]? = some task)
    (hs : x.source.execution.state.IsTerminal)
    (hcreate : ∀ resource created failed, task.program ≠ .create resource created failed)
    (hdelete : ∀ resource next, task.program = .delete .ended resource next →
      x.target.sandbox = x.source.sandbox.put false resource) : SweepsCleanly x where
  posts j other hj := by
    rintro ⟨hother, resource, created, failed, hp⟩
    cases hlabel.symm.trans hj
    cases hi.symm.trans hother
    exact absurd hp (hcreate resource created failed)
  deletes j other resource hj := by
    rintro ⟨hother, next, hp⟩
    cases hlabel.symm.trans hj
    cases hi.symm.trans hother
    exact hdelete resource next hp
  results _ _ hgoing := absurd hs hgoing
  discards h := by cases hlabel.symm.trans h

/-- A task that processes the cancel event. -/
def cancelTask (program : Program NanoFloat) : Task NanoFloat := ⟨"b", none, false, program⟩

/-- The execution is cancelled while its sandbox exists. -/
def cancelledState (job secret pending : Bool) (e : Execution NanoFloat)
    (tasks : List (Task NanoFloat)) : Cluster NanoFloat :=
  ⟨{ selectAttempt with execution := e }, ⟨job, secret⟩, true, pending, tasks⟩

/-- Claimed, created and cancelled: the row does not name the sandbox. -/
theorem run_cancelled : ∃ next trace,
    Run (ClusterStep echoEvaluator) selectCluster trace (cancelledState true true true
      cancelledSelect.execution [selectTask "a" false (markSelect next)])
    ∧ ∀ x ∈ trace, SweepsCleanly x := by
  obtain ⟨next, hclaim⟩ := claim_select
  have hsecret := @ClusterStep.created NanoFloat _ echoEvaluator (selectState
    (claimedBy "a" 180000000) false false
    [selectTask "a" false (createResources (markSelect next))]) 0 ⟨0, 0⟩ _ _ _ _ rfl rfl
  have hjob := @ClusterStep.created NanoFloat _ echoEvaluator (selectState
    (claimedBy "a" 180000000) false true
    [selectTask "a" false (.create .job (markSelect next) (cleanup .gaveUp .done))]) 0 ⟨0, 0⟩
    _ _ _ _ rfl rfl
  have hcancel := @ClusterStep.cancel NanoFloat _ echoEvaluator (selectState
    (claimedBy "a" 180000000) true true [selectTask "a" false (markSelect next)]) ⟨0, 0⟩ "trace"
    _ cancel_select
  have hqueued : ¬selectAttempt.execution.state.IsTerminal := by decide
  have hgoing : ¬(claimedBy "a" 180000000).execution.state.IsTerminal := by decide
  refine ⟨next, _, .cons start_select (.cons hclaim (.cons hsecret (.cons hjob
    (.cons hcancel (.nil _))))), ?_⟩
  refine List.forall_mem_cons.mpr ⟨?_, List.forall_mem_cons.mpr ⟨?_, List.forall_mem_cons.mpr
    ⟨?_, List.forall_mem_cons.mpr ⟨?_, List.forall_mem_cons.mpr ⟨?_, fun _ h => (nomatch h)⟩⟩⟩⟩⟩
  · exact ⟨fun _ _ h => (nomatch h), fun _ _ _ h => (nomatch h), fun _ h => (nomatch h),
      fun h => (nomatch h)⟩
  · exact .of_going rfl (fun _ _ h => (nomatch h)) hqueued (fun _ _ => hgoing) fun h => (nomatch h)
  · exact .of_going rfl (fun _ _ h => (nomatch h)) hgoing (fun _ _ => hgoing) fun h => (nomatch h)
  · exact .of_going rfl (fun _ _ h => (nomatch h)) hgoing (fun _ _ => hgoing) fun h => (nomatch h)
  · exact .of_going rfl (fun _ _ h => (nomatch h)) hgoing (fun _ h => (nomatch h))
      fun h => (nomatch h)

/-- The cancel event is processed, and each `DELETE` succeeds or not. -/
theorem run_processCancel (gone : Bool) (program : Program NanoFloat) : ∃ trace,
    Run (ClusterStep echoEvaluator)
      (cancelledState true true true cancelledSelect.execution [selectTask "a" false program])
      trace (cancelledState (!gone) (!gone) false (clearCancelled cancelledSelect.execution)
        [selectTask "a" false program, cancelTask .done])
    ∧ (gone = true → ∀ x ∈ trace, SweepsCleanly x) := by
  have hstart := @ClusterStep.start NanoFloat _ echoEvaluator (cancelledState true true true
    cancelledSelect.execution [selectTask "a" false program]) (controllerOf "b" 180000000) ⟨0, 0⟩ _
    (.cancelled rfl)
  have hjob := @ClusterStep.delete NanoFloat _ echoEvaluator (cancelledState true true true
    cancelledSelect.execution [selectTask "a" false program, cancelTask Controller.processCancel]) 1
    ⟨0, 0⟩ _ _ _ _ ⟨!gone, true⟩ rfl rfl (by cases gone with | false => exact .inl rfl | true => exact .inr rfl)
  have hsecret := @ClusterStep.delete NanoFloat _ echoEvaluator (cancelledState (!gone) true true
    cancelledSelect.execution [selectTask "a" false program, cancelTask (.delete .ended .secret
      (.transact .clearCancelled fun _ => .acknowledge .done))]) 1 ⟨0, 0⟩ _ _ _ _
    ⟨!gone, !gone⟩ rfl rfl (by cases gone with | false => exact .inl rfl | true => exact .inr rfl)
  have hclear := @ClusterStep.transact NanoFloat _ echoEvaluator (cancelledState (!gone) (!gone) true
    cancelledSelect.execution [selectTask "a" false program, cancelTask
      (.transact .clearCancelled fun _ => .acknowledge .done)]) 1 ⟨0, 0⟩ _ _ _ none _ _ rfl rfl rfl
  have hacknowledge := @ClusterStep.acknowledge NanoFloat _ echoEvaluator (cancelledState (!gone)
    (!gone) true (clearCancelled cancelledSelect.execution)
    [selectTask "a" false program, cancelTask (.acknowledge .done)]) 1 ⟨0, 0⟩ _ _ rfl rfl
  refine ⟨_, .cons hstart (.cons hjob (.cons hsecret (.cons hclear (.cons hacknowledge
    (.nil _))))), fun hgone => ?_⟩
  cases hgone
  have hterm : cancelledSelect.execution.state.IsTerminal := by decide
  refine List.forall_mem_cons.mpr ⟨?_, List.forall_mem_cons.mpr ⟨?_, List.forall_mem_cons.mpr
    ⟨?_, List.forall_mem_cons.mpr ⟨?_, List.forall_mem_cons.mpr ⟨?_, fun _ h => (nomatch h)⟩⟩⟩⟩⟩
  · exact ⟨fun _ _ h => (nomatch h), fun _ _ _ h => (nomatch h), fun _ h => (nomatch h),
      fun h => (nomatch h)⟩
  · exact .of_sweeping rfl rfl hterm (fun _ _ _ h => (nomatch h)) fun _ _ h => by cases h; rfl
  · exact .of_sweeping rfl rfl hterm (fun _ _ _ h => (nomatch h)) fun _ _ h => by cases h; rfl
  · exact .of_sweeping rfl rfl hterm (fun _ _ _ h => (nomatch h)) fun _ _ h => (nomatch h)
  · exact .of_sweeping rfl rfl hterm (fun _ _ _ h => (nomatch h)) fun _ _ h => (nomatch h)

end Rigor
