import Rigor.ImportAccounting

/-!
# References within an import

A record of an import may refer to another one. The loop knows the records up
to the one it is at, also those it has rejected; so a reference to a later
record is rejected, and one to a rejected record is not. What is accepted is
the same for every order exactly where no record hangs on another one of the
same upload (`OrderFree`).
-/

namespace Rigor

open Py

section References

variable {P C : Type} (p : Pipeline P C) (manifest : List Str)

/-- `_reference_findings`, for the ids of any manifest. -/
def manifestFindings (batchIds : List Str) (q : UniversalQuestion C) : List Str :=
  (q.relatedQuestionIds.filter fun related => related ∉ manifest ∧ related ∉ batchIds).map
    fun related => ("related question is absent from manifest/import: " : Str) ++ related

theorem referenceFindings_eq (batchIds : List Str) (q : UniversalQuestion C) :
    referenceFindings batchIds q = manifestFindings [] batchIds q := by
  simp [referenceFindings, manifestFindings]

/-- The errors of a question behind those of its import that came before it. -/
def batchErrors (batchIds batchSlugs : List Str) (q : UniversalQuestion C) : List Str :=
  provenanceFindings q ++ licenseFindings p q ++ identityFindings batchIds batchSlugs q
    ++ manifestFindings manifest (q.id :: batchIds) q ++ p.execute q ++ securityFindings p q

/-- The accepted questions of an import: the loop takes the ids and slugs of
every question along, whatever its errors. -/
def acceptedQuestions : List Str → List Str → List (UniversalQuestion C) → List (UniversalQuestion C)
  | _, _, [] => []
  | batchIds, batchSlugs, q :: rest =>
      let later := acceptedQuestions (q.id :: batchIds) (q.slug :: batchSlugs) rest
      if batchErrors p manifest batchIds batchSlugs q = [] then q :: later else later

theorem checkQuestion_errors (q : UniversalQuestion C) (batch : Batch C) :
    (checkQuestion p q batch).errors = batchErrors p [] batch.ids batch.slugs q := by
  rw [batchErrors, ← referenceFindings_eq]
  rfl

theorem persist_item {record : SourceRecord P} {item item' : ImportItem} {batch batch' : Batch C}
    (h : batch.persist p record item = (batch', .ok item')) :
    item' = item ∧ batch'.ids = batch.ids ∧ batch'.slugs = batch.slugs := by
  unfold Batch.persist at h
  split at h
  · cases h
  · cases h
    exact ⟨rfl, rfl, rfl⟩

/-- A parsed question is rejected exactly for its errors. -/
theorem processRecord_status {u : Upload} {ids : CatalogueIds} {batch batch' : Batch C}
    {ordinal : Nat} {record : SourceRecord P} {q : UniversalQuestion C} {item : ImportItem}
    (hkind : record.kind = .complete) (hvalid : p.validate record.payload = .ok q)
    (h : processRecord p u ids batch ordinal record = (batch', .ok item)) :
    (item.status = .rejected ↔ batchErrors p [] batch.ids batch.slugs q ≠ [])
      ∧ batch'.ids = q.id :: batch.ids ∧ batch'.slugs = q.slug :: batch.slugs := by
  have hstatus : ∀ checked : Checked, checked.status ≠ .rejected := by
    intro checked
    unfold Checked.status
    split <;> nofun
  rw [← checkQuestion_errors]
  unfold processRecord at h
  simp only [hkind, hvalid] at h
  split at h
  · rename_i herrors
    obtain ⟨rfl, hids, hslugs⟩ := persist_item p h
    exact ⟨iff_of_true rfl herrors, hids, hslugs⟩
  · rename_i herrors
    split at h
    · obtain ⟨rfl, hids, hslugs⟩ := persist_item p h
      exact ⟨iff_of_false (hstatus _) herrors, hids, hslugs⟩
    · split at h
      · cases h
      · obtain ⟨rfl, hids, hslugs⟩ := persist_item p h
        exact ⟨iff_of_false (hstatus _) herrors, hids, hslugs⟩

/-- An import that ends without an error, of an empty manifest: the questions
of the items that are not rejected. -/
theorem processRecords_accepted {u : Upload} {ids : Nat → CatalogueIds} :
    ∀ {records : List (SourceRecord P)} {questions : List (UniversalQuestion C)}
      {batch batch' : Batch C} {ordinal : Nat} {items : List ImportItem},
    List.Forall₂ (fun record q => record.kind = .complete ∧ p.validate record.payload = .ok q)
      records questions →
    processRecords p u ids batch ordinal records = (batch', .ok items) →
    ((items.zip questions).filter fun pair => pair.1.status ≠ .rejected).map Prod.snd
      = acceptedQuestions p [] batch.ids batch.slugs questions := by
  intro records
  induction records with
  | nil =>
      intro questions batch batch' ordinal items hvalid h
      cases hvalid
      cases h
      rfl
  | cons record rest ih =>
      intro questions batch batch' ordinal items hvalid h
      cases hvalid with
      | @cons _ q _ later hfirst hrest =>
      rw [processRecords] at h
      split at h
      · cases h
      · rename_i seen item hitem
        split at h
        · cases h
        · rename_i last others hothers
          cases h
          obtain ⟨hstatus, hids, hslugs⟩ := processRecord_status p hfirst.1 hfirst.2 hitem
          have hlater := ih hrest hothers
          rw [hids, hslugs] at hlater
          rw [acceptedQuestions, ← hlater, List.zip_cons_cons, List.filter_cons]
          by_cases herrors : batchErrors p [] batch.ids batch.slugs q = []
          · have hkept : item.status ≠ .rejected := fun hrejected => hstatus.mp hrejected herrors
            simp [herrors, hkept]
          · have hgone : item.status = .rejected := hstatus.mpr herrors
            simp [herrors, hgone]

/-! ## What every order accepts -/

/-- The findings on a question alone. -/
def ownFindings (q : UniversalQuestion C) : List Str :=
  provenanceFindings q ++ licenseFindings p q ++ p.execute q ++ securityFindings p q

/-- A question that passes its own checks, and whose references can all be
found in the manifest or the upload, refers to no other question of the upload
that the manifest does not have. -/
def OrderFree (questions : List (UniversalQuestion C)) : Prop :=
  ∀ q ∈ questions, ownFindings p q = [] →
    (∀ related ∈ q.relatedQuestionIds,
      related ∈ manifest ∨ related ∈ questions.map UniversalQuestion.id) →
    ∀ related ∈ q.relatedQuestionIds, related ∈ manifest ∨ related = q.id

/-- The set of accepted questions is the same for every order, and has every
question outside the manifest that one of it refers to. -/
def OrderClosed (questions : List (UniversalQuestion C)) : Prop :=
  (∀ others, others.Perm questions →
      (acceptedQuestions p manifest [] [] others).Perm (acceptedQuestions p manifest [] [] questions))
    ∧ ∀ q ∈ acceptedQuestions p manifest [] [] questions, ∀ related ∈ q.relatedQuestionIds,
      related ∈ manifest
        ∨ related ∈ (acceptedQuestions p manifest [] [] questions).map UniversalQuestion.id

variable {p manifest}

theorem manifestFindings_eq_nil {batchIds : List Str} {q : UniversalQuestion C} :
    manifestFindings manifest batchIds q = []
      ↔ ∀ related ∈ q.relatedQuestionIds, related ∈ manifest ∨ related ∈ batchIds := by
  simp only [manifestFindings, List.map_eq_nil_iff, List.filter_eq_nil_iff, decide_eq_true_eq,
    not_and_or, not_not]

theorem batchErrors_eq_nil {batchIds batchSlugs : List Str} {q : UniversalQuestion C}
    (hid : q.id ∉ batchIds) (hslug : q.slug ∉ batchSlugs) :
    batchErrors p manifest batchIds batchSlugs q = []
      ↔ ownFindings p q = []
        ∧ ∀ related ∈ q.relatedQuestionIds, related ∈ manifest ∨ related ∈ q.id :: batchIds := by
  have hidentity : identityFindings batchIds batchSlugs q = [] := by
    rw [identityFindings, if_neg hid, if_neg hslug]
    rfl
  rw [← manifestFindings_eq_nil, batchErrors, ownFindings, hidentity]
  simp only [List.append_nil, List.append_eq_nil_iff, and_assoc]
  constructor
  · rintro ⟨hprovenance, hlicense, hreferences, hexecute, hsecurity⟩
    exact ⟨hprovenance, hlicense, hexecute, hsecurity, hreferences⟩
  · rintro ⟨hprovenance, hlicense, hexecute, hsecurity, hreferences⟩
    exact ⟨hprovenance, hlicense, hreferences, hexecute, hsecurity⟩

theorem acceptedQuestions_subset : ∀ (questions : List (UniversalQuestion C))
    (batchIds batchSlugs : List Str),
    acceptedQuestions p manifest batchIds batchSlugs questions ⊆ questions
  | [], _, _ => nofun
  | q :: rest, batchIds, batchSlugs => by
      have ih := acceptedQuestions_subset rest (q.id :: batchIds) (q.slug :: batchSlugs)
      rw [acceptedQuestions]
      split
      · exact List.cons_subset_cons q ih
      · exact List.subset_cons_of_subset q ih

/-- The last question is judged behind all the others. -/
theorem mem_acceptedQuestions_last {q : UniversalQuestion C} :
    ∀ (front : List (UniversalQuestion C)) (batchIds batchSlugs : List Str),
    batchErrors p manifest ((front.map UniversalQuestion.id).reverse ++ batchIds)
      ((front.map UniversalQuestion.slug).reverse ++ batchSlugs) q = [] →
    q ∈ acceptedQuestions p manifest batchIds batchSlugs (front ++ [q])
  | [], batchIds, batchSlugs, h => by
      rw [List.nil_append, acceptedQuestions]
      exact if_pos h ▸ List.mem_cons_self ..
  | first :: rest, batchIds, batchSlugs, h => by
      simp only [List.map_cons, List.reverse_cons, List.append_assoc, List.singleton_append] at h
      have ih := mem_acceptedQuestions_last rest _ _ h
      rw [List.cons_append, acceptedQuestions]
      split
      · exact List.mem_cons_of_mem _ ih
      · exact ih

/-- Whether a question is accepted before all others. -/
def standsAlone (p : Pipeline P C) (manifest : List Str) (q : UniversalQuestion C) : Bool :=
  ownFindings p q = []
    && q.relatedQuestionIds.all fun related => related ∈ manifest || related = q.id

theorem acceptedQuestions_eq_filter {questions : List (UniversalQuestion C)}
    (hfree : OrderFree p manifest questions) : ∀ (rest : List (UniversalQuestion C))
    (batchIds batchSlugs : List Str), rest ⊆ questions →
    batchIds ⊆ questions.map UniversalQuestion.id →
    (rest.map UniversalQuestion.id).Nodup → (rest.map UniversalQuestion.slug).Nodup →
    (∀ q ∈ rest, q.id ∉ batchIds ∧ q.slug ∉ batchSlugs) →
    acceptedQuestions p manifest batchIds batchSlugs rest = rest.filter (standsAlone p manifest) := by
  intro rest
  induction rest with
  | nil => exact fun _ _ _ _ _ _ _ => rfl
  | cons q rest ih =>
      intro batchIds batchSlugs hrest hknown hids hslugs hnew
      obtain ⟨hid, hslug⟩ := hnew q (List.mem_cons_self ..)
      obtain ⟨hqid, hids⟩ := List.nodup_cons.mp hids
      obtain ⟨hqslug, hslugs⟩ := List.nodup_cons.mp hslugs
      have hmem : q ∈ questions := hrest (List.mem_cons_self ..)
      have hlater := ih (q.id :: batchIds) (q.slug :: batchSlugs)
        (fun x hx => hrest (List.mem_cons_of_mem _ hx))
        (List.cons_subset.mpr ⟨List.mem_map_of_mem hmem, hknown⟩) hids hslugs (by
          intro x hx
          obtain ⟨hxid, hxslug⟩ := hnew x (List.mem_cons_of_mem _ hx)
          refine ⟨fun hin => ?_, fun hin => ?_⟩
          · rcases List.mem_cons.mp hin with heq | hold
            · exact hqid (heq ▸ List.mem_map_of_mem hx)
            · exact hxid hold
          · rcases List.mem_cons.mp hin with heq | hold
            · exact hqslug (heq ▸ List.mem_map_of_mem hx)
            · exact hxslug hold)
      have hjudged : batchErrors p manifest batchIds batchSlugs q = []
          ↔ standsAlone p manifest q = true := by
        rw [batchErrors_eq_nil hid hslug, standsAlone, Bool.and_eq_true, decide_eq_true_iff,
          List.all_eq_true]
        refine and_congr_right fun hown => ⟨fun hfound related hrelated => ?_,
          fun hself related hrelated => ?_⟩
        · have hin := hfree q hmem hown (fun r hr => by
            rcases hfound r hr with hmanifest | hbatch
            · exact .inl hmanifest
            · rcases List.mem_cons.mp hbatch with rfl | hold
              · exact .inr (List.mem_map_of_mem hmem)
              · exact .inr (hknown hold)) related hrelated
          simpa using hin
        · have hin := hself related hrelated
          simp only [Bool.or_eq_true, decide_eq_true_eq] at hin
          rcases hin with hmanifest | rfl
          · exact .inl hmanifest
          · exact .inr (List.mem_cons_self ..)
      rw [acceptedQuestions, List.filter_cons]
      simp only [hjudged, hlater]

/-- What an import accepts is the same for every order, and closed, exactly
where no question of it hangs on another one. -/
theorem orderClosed_iff {questions : List (UniversalQuestion C)}
    (hids : (questions.map UniversalQuestion.id).Nodup)
    (hslugs : (questions.map UniversalQuestion.slug).Nodup) :
    OrderClosed p manifest questions ↔ OrderFree p manifest questions := by
  constructor
  · rintro ⟨hsame, -⟩ q hq hown hfound
    obtain ⟨front, back, rfl⟩ := List.append_of_mem hq
    have hfirst : (q :: (front ++ back)).Perm (front ++ q :: back) := List.perm_middle.symm
    have hlast : (front ++ back ++ [q]).Perm (front ++ q :: back) :=
      (List.perm_append_singleton q _).trans hfirst
    have hidsFirst := (hfirst.map UniversalQuestion.id).nodup_iff.mpr hids
    have hslugsFirst := (hfirst.map UniversalQuestion.slug).nodup_iff.mpr hslugs
    rw [List.map_cons, List.nodup_cons] at hidsFirst hslugsFirst
    -- behind all the others it is accepted, so it is accepted before them
    have hin : q ∈ acceptedQuestions p manifest [] [] (front ++ back ++ [q]) := by
      refine mem_acceptedQuestions_last (front ++ back) [] []
        ((batchErrors_eq_nil (by rw [List.append_nil, List.mem_reverse]; exact hidsFirst.1)
          (by rw [List.append_nil, List.mem_reverse]; exact hslugsFirst.1)).mpr
          ⟨hown, fun related hrelated => ?_⟩)
      rcases hfound related hrelated with hmanifest | hbatch
      · exact .inl hmanifest
      · have hbatch' := (hfirst.map UniversalQuestion.id).mem_iff.mpr hbatch
        rw [List.append_nil]
        rcases List.mem_cons.mp hbatch' with rfl | hother
        · exact .inr (List.mem_cons_self ..)
        · exact .inr (List.mem_cons_of_mem _ (List.mem_reverse.mpr hother))
    have halone : q ∈ acceptedQuestions p manifest [] [] (q :: (front ++ back)) :=
      (hsame _ hfirst).mem_iff.mpr ((hsame _ hlast).mem_iff.mp hin)
    have hnot : q ∉ front ++ back := fun hmem => hidsFirst.1 (List.mem_map_of_mem hmem)
    rw [acceptedQuestions] at halone
    split at halone
    · rename_i herrors
      have hself := ((batchErrors_eq_nil (List.not_mem_nil) (List.not_mem_nil)).mp herrors).2
      exact fun related hrelated => (hself related hrelated).imp_right List.mem_singleton.mp
    · exact absurd (acceptedQuestions_subset _ _ _ halone) hnot
  · intro hfree
    have hfilter : ∀ others, others.Perm questions →
        acceptedQuestions p manifest [] [] others = others.filter (standsAlone p manifest) :=
      fun others hperm => acceptedQuestions_eq_filter hfree others [] []
        hperm.subset nofun ((hperm.map _).nodup_iff.mpr hids) ((hperm.map _).nodup_iff.mpr hslugs)
        fun _ _ => ⟨List.not_mem_nil, List.not_mem_nil⟩
    refine ⟨fun others hperm => ?_, fun q hq related hrelated => ?_⟩
    · rw [hfilter others hperm, hfilter questions (.refl _)]
      exact hperm.filter _
    · have halone := hq
      rw [hfilter questions (.refl _), List.mem_filter, standsAlone, Bool.and_eq_true,
        List.all_eq_true] at halone
      have := halone.2.2 related hrelated
      simp only [Bool.or_eq_true, decide_eq_true_eq] at this
      rcases this with hmanifest | rfl
      · exact .inl hmanifest
      · exact .inr (List.mem_map_of_mem hq)

end References

/-! ## A reference to a later record -/

/-- The first of the two refers to the second. -/
def forwardBatch : List (UniversalQuestion Unit) :=
  [{ universalQuestion "SQL-0001" "join-basics" "1.0.0" "sql-analytics" with
      relatedQuestionIds := ["SQL-0002"] },
    universalQuestion "SQL-0002" "window-basics" "1.0.0" "sql-analytics"]

theorem orderClosed_forwardBatch : OrderClosed parsedPipeline [] forwardBatch
    ↔ OrderFree parsedPipeline [] forwardBatch :=
  orderClosed_iff (by decide) (by decide)

/-- The order the batch comes in loses the record that the other order keeps. -/
theorem forwardBatch_ordered : ¬OrderClosed parsedPipeline [] forwardBatch := fun h =>
  absurd (h.1 forwardBatch.reverse (List.reverse_perm _)).length_eq (by decide +kernel)

end Rigor
