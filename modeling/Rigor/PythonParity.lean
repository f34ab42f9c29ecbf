import Rigor.ChildProtocol
import Rigor.RequestAcceptance

/-!
# One verdict from two Python runners

`run_python` sends the request of `sandbox_request` with the question's
invocation mode to the runner embedded in `vercel_sandbox_execution.py`;
`services/python-runner` gets it without, and reads its child's record from
a marked line of a bounded file. The main result says for which executions
the two call the candidate alike and record the same
(`python_verdicts_agree_iff`).
-/

namespace Rigor.VercelPython

open Py PythonRunner

variable {F : Type} [Runtime F]

/-! ## The embedded runner -/

/-- What leaves the embedded runner's loop. -/
inductive ChildFailure where
  | load (e : LoadError)
  /-- `AttributeError`: the child's answer is no object -/
  | attribute

/-- The record of a child that answered nothing. -/
def ownProtocol (category stderr : Str) : Dict F :=
  [("ok", .bool false), ("actual", .null), ("error_category", .str category),
    ("stdout", .str []), ("stderr", .str stderr)]

def maxCapture : Nat := 65536

/-- `run_child`, on what the child printed. -/
def readChild (stdout rawStderr : Str) : Except ChildFailure (Dict F) :=
  match (loads (strip stdout) : Except LoadError (Json F)) with
  | .error .decode => .ok (ownProtocol "runner_protocol_error" (rawStderr.take maxCapture))
  | .error e => .error (.load e)
  | .ok (.obj d) => .ok d
  | .ok _ => .error .attribute

/-- One turn of the loop, up to the child's record. -/
def executeTest (sandbox : Sandbox F) (mode : Str) (index : Nat) (input : Json F) :
    Option (PythonRunner.Call F) × Except ChildFailure (Dict F) :=
  let (call, ending, printed) := sandbox.run index mode input
  match ending.members DumpsError.name printed with
  | none => (call, .ok (ownProtocol "timeout" []))
  | some members => (call, readChild (childOutput [] members) (sandbox.rawStderr index))

/-- `request_payload` of `run_python`. -/
def requestPayload (package : DispatchPackage F) (payload : Dict F) : Dict F :=
  Json.insert "invocation_mode"
    (.str (strOr (Json.get "invocation_mode" package.inputPayload) "auto")) payload

/-- The fields of a test that the loop reads; a missing one raises. -/
def readTest : Json F → Option (SentTest F)
  | .obj test => (Json.lookup "id" test).map fun id =>
      ⟨id.pyStr, ((Json.lookup "visibility" test).getD (.str "hidden")).pyStr, Json.get "input" test⟩
  | _ => none

/-- The mode of the request; what is no text is none of the modes. -/
def modeOf (request : Dict F) : Str :=
  match (Json.lookup "invocation_mode" request).getD (.str "auto") with
  | .str mode => mode
  | _ => []

/-- The loop of `main`. -/
def runTests (sandbox : Sandbox F) (request : Dict F) :
    Option (List (TestRun F) × LoopEnd ChildFailure) :=
  match Json.get "tests" request with
  | .arr raws => (raws.mapM readTest).map fun tests =>
      runLoop sandbox.late (executeTest sandbox (modeOf request)) 0 tests
  | _ => none

/-- The runs behind the results that `main` writes; an error leaves none. -/
def recordedRuns (raw : Str) (sandbox : Sandbox F) : Option (List (TestRun F)) :=
  match (loads raw : Except LoadError (Json F)) with
  | .ok (.obj request) =>
      match runTests sandbox request with
      | none => none
      | some (_, .raised _) => none
      | some (runs, _) => some runs
  | _ => none

/-! ## The child's record on both sides -/

/-- The members of a child's record as they are read back. -/
theorem loads_protocolMembers {ok : Bool} {actual : Json F} {category : Option Str}
    {printed : Captured} (hfits : actual.DigitsFit)
    (hprint : canPrint (protocolMembers ok actual category printed) = true) :
    loads (Json.obj (protocolMembers ok actual category printed)).encode
      = .ok (.obj (protocolMembers ok actual.dedup category printed)) := by
  have hdigits : (Json.obj (protocolMembers ok actual category printed)).DigitsFit := by
    refine ⟨trivial, hfits, ?_, trivial, trivial, trivial, trivial, trivial⟩
    cases category with
    | none => exact trivial
    | some name => exact trivial
  have hdepth := of_decide_eq_true ((Bool.and_eq_true ..).mp hprint).1
  rw [Json.loads_encode ⟨hdigits, hdepth⟩]
  have hmembers : Json.dedupMembers (protocolMembers ok actual category printed)
      = protocolMembers ok actual.dedup category printed := by
    cases category with
    | none => rfl
    | some name => rfl
  show Except.ok (Json.obj (Json.ofPairs (Json.dedupMembers _))) = _
  have hkeys : ((protocolMembers ok actual.dedup category printed).map Prod.fst).Nodup := by
    show (["ok", "actual", "error_category", "stdout", "stderr", "stdout_truncated",
      "stderr_truncated"] : List Str).Nodup
    decide
  rw [hmembers, Json.ofPairs_of_nodup hkeys]

/-- A line without white space at its ends. -/
theorem strip_newline {c d : Nat} {s : Str} (hc : isSpace c = false) (hd : isSpace d = false) :
    strip (c :: (s ++ [d]) ++ [10]) = c :: (s ++ [d]) := by
  unfold strip
  rw [List.cons_append, List.dropWhile_cons_of_neg (by rw [hc]; decide)]
  rw [← List.cons_append, List.reverse_append, List.reverse_singleton, List.singleton_append,
    List.dropWhile_cons_of_pos (by decide), ← List.cons_append, List.reverse_append,
    List.reverse_singleton, List.singleton_append,
    List.dropWhile_cons_of_neg (by rw [hd]; decide)]
  simp

theorem readChild_written {ok : Bool} {actual : Json F} {category : Option Str}
    {printed : Captured} (hfits : actual.DigitsFit)
    (hprint : canPrint (protocolMembers ok actual category printed) = true) (rawStderr : Str) :
    readChild (F := F) (childOutput [] (protocolMembers ok actual category printed)) rawStderr
      = .ok (protocolMembers ok actual.dedup category printed) := by
  have hstrip : strip (childOutput [] (protocolMembers ok actual category printed))
      = (Json.obj (protocolMembers ok actual category printed)).encode := by
    unfold childOutput
    rw [if_pos hprint, List.nil_append]
    exact strip_newline rfl rfl
  unfold readChild
  rw [hstrip, loads_protocolMembers hfits hprint]

theorem readChild_unwritten {members : Dict F} (hprint : canPrint members = false)
    (rawStderr : Str) :
    readChild (F := F) (childOutput [] members) rawStderr
      = .ok (ownProtocol "runner_protocol_error" (rawStderr.take maxCapture)) := by
  unfold childOutput
  rw [if_neg (by rw [hprint]; decide)]
  unfold readChild
  rw [show strip [] = [] from rfl, loads_nil]

theorem readBack_written {ok : Bool} {actual : Json F} {category : Option Str}
    {printed : Captured} (hfits : actual.DigitsFit)
    (hprint : canPrint (protocolMembers ok actual category printed) = true)
    (h : Survives (protocolMembers ok actual category printed)) :
    readBack (protocolMembers ok actual category printed)
      = .ok (some (protocolMembers ok actual.dedup category printed)) := by
  rw [readBack_survives hprint h]
  unfold lineProtocol
  rw [loads_protocolMembers hfits hprint]

/-- What is compared of a child's record. -/
def outcome (protocol : Dict F) : Bool × Json F × Option Str :=
  ((Json.get "ok" protocol).truthy, Json.get "actual" protocol,
    categoryOf (Json.get "error_category" protocol))

theorem outcome_protocolMembers (ok : Bool) (actual : Json F) (category : Option Str)
    (printed : Captured) :
    outcome (protocolMembers ok actual category printed)
      = (ok, actual, categoryOf (optionalJson category : Json F)) := by
  cases ok <;> rfl

theorem outcome_fragment {d : Dict F} (h : Fragment d) : outcome d = (false, .null, none) := by
  unfold outcome
  rw [h.ok, h.actual, h.category]
  rfl

theorem categoryOf_str (name : Str) :
    categoryOf (.str name : Json F) = if name = [] then none else some name := by
  cases name with
  | nil => rfl
  | cons c rest => rfl

/-- The record that the runner of `services/python-runner` has of an ending. -/
def clusterRecord (printed : Captured) (ending : Ending F) : Except LoadError (Dict F) :=
  match ending.members DumpsError.category printed with
  | none => .ok timeoutProtocol
  | some members => (readBack members).map fun protocol => protocol.getD protocolError

/-- The record that the embedded runner has of it. -/
def embeddedRecord (printed : Captured) (rawStderr : Str) (ending : Ending F) :
    Except ChildFailure (Dict F) :=
  match ending.members DumpsError.name printed with
  | none => .ok (ownProtocol "timeout" [])
  | some members => readChild (childOutput [] members) rawStderr

theorem executeTest_cluster (sandbox : Sandbox F) (mode : Str) (index : Nat) (input : Json F) :
    PythonRunner.executeTest sandbox mode index input
      = ((sandbox.run index mode input).1,
        clusterRecord (sandbox.run index mode input).2.2 (sandbox.run index mode input).2.1) := by
  unfold PythonRunner.executeTest clusterRecord
  dsimp only
  cases (sandbox.run index mode input).2.1.members DumpsError.category
    (sandbox.run index mode input).2.2 with
  | none => rfl
  | some members => rfl

theorem executeTest_embedded (sandbox : Sandbox F) (mode : Str) (index : Nat) (input : Json F) :
    executeTest sandbox mode index input
      = ((sandbox.run index mode input).1,
        embeddedRecord (sandbox.run index mode input).2.2 (sandbox.rawStderr index)
          (sandbox.run index mode input).2.1) := by
  unfold executeTest embeddedRecord
  dsimp only
  cases (sandbox.run index mode input).2.1.members DumpsError.name
    (sandbox.run index mode input).2.2 with
  | none => rfl
  | some members => rfl

/-- The two parents have the same of an ending. -/
def SameOutcome (printed : Captured) (rawStderr : Str) (ending : Ending F) : Prop :=
  ∃ k v, clusterRecord printed ending = .ok k ∧ embeddedRecord printed rawStderr ending = .ok v
    ∧ outcome k = outcome v

/-! ## When they agree -/

/-- The record of a child that has no value to return. -/
def failedMembers (name : Str) (printed : Captured) : Dict F :=
  protocolMembers false .null (some name) printed

variable (F) in
/-- A record that is lost is taken for what the candidate raised: its class
has the name of the runner's own category, or none, and the line that is
found instead reads so. -/
def LooksLost (name : Str) (printed : Captured) : Prop :=
  (name = "runner_protocol_error" ∧ readBack (failedMembers (F := F) name printed) = .ok none)
    ∨ (name = [] ∧ ∃ d, readBack (failedMembers (F := F) name printed) = .ok (some d))

/-- The endings whose records agree. -/
def EndingAgrees (printed : Captured) : Ending F → Prop
  | .returns actual _ =>
      canPrint (protocolMembers true actual none printed) = true →
        Survives (protocolMembers true actual none printed)
  | .rejected .recursionError =>
      canPrint (failedMembers (F := F) "RecursionError" printed) = true →
        Survives (failedMembers (F := F) "RecursionError" printed)
  | .rejected e => canPrint (failedMembers (F := F) e.name printed) = false
  | .raises name =>
      canPrint (failedMembers (F := F) name printed) = true →
        Survives (failedMembers (F := F) name printed) ∨ LooksLost F name printed
  | .exceeds => True

/-- A record that neither child writes. -/
theorem sameOutcome_unwritten {printed : Captured} {rawStderr : Str} {ending : Ending F}
    {members members' : Dict F} (hk : ending.members DumpsError.category printed = some members)
    (hv : ending.members DumpsError.name printed = some members')
    (hprint : canPrint members = false) (hprint' : canPrint members' = false) :
    SameOutcome printed rawStderr ending := by
  refine ⟨protocolError, ownProtocol "runner_protocol_error" (rawStderr.take maxCapture),
    ?_, ?_, rfl⟩
  · unfold clusterRecord
    rw [hk]
    dsimp only
    rw [readBack_unwritten hprint]
    rfl
  · unfold embeddedRecord
    rw [hv]
    exact readChild_unwritten hprint' rawStderr

/-- Both children write a record of the ending, with a category of their own. -/
structure Writes (printed : Captured) (ending : Ending F) (ok : Bool) (actual : Json F)
    (category category' : Option Str) : Prop where
  fits : actual.DigitsFit
  cluster : ending.members DumpsError.category printed
    = some (protocolMembers ok actual category printed)
  embedded : ending.members DumpsError.name printed
    = some (protocolMembers ok actual category' printed)
  written : canPrint (protocolMembers ok actual category printed) = true
  written' : canPrint (protocolMembers ok actual category' printed) = true

section Written

variable {printed : Captured} {rawStderr : Str} {ending : Ending F} {ok : Bool} {actual : Json F}
  {category category' : Option Str} (h : Writes printed ending ok actual category category')

include h

theorem sameOutcome_iff_readBack :
    SameOutcome printed rawStderr ending ↔ ∃ protocol,
      readBack (protocolMembers ok actual category printed) = .ok protocol
        ∧ outcome (protocol.getD protocolError)
          = (ok, actual.dedup, categoryOf (optionalJson category' : Json F)) := by
  have hembedded : embeddedRecord printed rawStderr ending
      = .ok (protocolMembers ok actual.dedup category' printed) := by
    unfold embeddedRecord
    rw [h.embedded]
    exact readChild_written h.fits h.written' rawStderr
  have hcluster : clusterRecord printed ending
      = (readBack (protocolMembers ok actual category printed)).map fun protocol =>
        protocol.getD protocolError := by
    unfold clusterRecord
    rw [h.cluster]
  unfold SameOutcome
  rw [hcluster, hembedded]
  constructor
  · rintro ⟨k, v, hk, hv, heq⟩
    obtain ⟨protocol, hread, rfl⟩ := map_eq_ok hk
    cases hv
    exact ⟨protocol, hread, heq.trans (outcome_protocolMembers ..)⟩
  · rintro ⟨protocol, hread, heq⟩
    rw [hread]
    exact ⟨_, _, rfl, rfl, heq.trans (outcome_protocolMembers ..).symm⟩

theorem sameOutcome_survives (hsurvives : Survives (protocolMembers ok actual category printed)) :
    SameOutcome printed rawStderr ending
      ↔ categoryOf (optionalJson category : Json F)
        = categoryOf (optionalJson category' : Json F) := by
  rw [sameOutcome_iff_readBack h, readBack_written h.fits h.written hsurvives]
  constructor
  · rintro ⟨protocol, hread, heq⟩
    cases hread
    rw [Option.getD_some, outcome_protocolMembers] at heq
    exact (Prod.mk.inj (Prod.mk.inj heq).2).2
  · intro hcategory
    refine ⟨_, rfl, ?_⟩
    rw [Option.getD_some, outcome_protocolMembers, hcategory]

theorem sameOutcome_broken (hbroken : ¬Survives (protocolMembers ok actual category printed)) :
    SameOutcome printed rawStderr ending
      ↔ ok = false ∧ actual.dedup = .null
        ∧ ((categoryOf (optionalJson category' : Json F) = some ("runner_protocol_error" : Str)
            ∧ readBack (protocolMembers ok actual category printed) = .ok none)
          ∨ (categoryOf (optionalJson category' : Json F) = none
            ∧ ∃ d, readBack (protocolMembers ok actual category printed) = .ok (some d))) := by
  rw [sameOutcome_iff_readBack h]
  constructor
  · rintro ⟨protocol, hread, heq⟩
    cases protocol with
    | none =>
        obtain ⟨hok, hrest⟩ := Prod.mk.inj heq
        obtain ⟨hactual, hcategory⟩ := Prod.mk.inj hrest
        exact ⟨hok.symm, hactual.symm, .inl ⟨hcategory.symm, hread⟩⟩
    | some d =>
        rw [Option.getD_some, outcome_fragment (readBack_broken h.written hbroken hread)] at heq
        obtain ⟨hok, hrest⟩ := Prod.mk.inj heq
        obtain ⟨hactual, hcategory⟩ := Prod.mk.inj hrest
        exact ⟨hok.symm, hactual.symm, .inr ⟨hcategory.symm, d, hread⟩⟩
  · rintro ⟨rfl, hactual, ⟨hcategory, hread⟩ | ⟨hcategory, d, hread⟩⟩
    · exact ⟨none, hread, by rw [hactual, hcategory]; rfl⟩
    · refine ⟨some d, hread, ?_⟩
      rw [Option.getD_some, outcome_fragment (readBack_broken h.written hbroken hread), hactual,
        hcategory]

end Written

theorem isEncodable_append (s t : Str) :
    isEncodable (s ++ t) = (isEncodable s && isEncodable t) := List.all_append

/-- Where the name stands in the text of the record. -/
theorem encode_failedMembers (printed : Captured) :
    ∃ u w, ∀ name, (Json.obj (failedMembers (F := F) name printed)).encode
      = u ++ (encodeString name ++ w) := by
  refine ⟨123 :: (Json.encodeMembers [("ok", .bool false), ("actual", (.null : Json F))]
      ++ 44 :: (encodeString "error_category" ++ [58])),
    44 :: Json.encodeMembers [("stdout", .str printed.stdout),
        ("stderr", (.str printed.stderr : Json F)),
        ("stdout_truncated", .bool printed.stdoutTruncated),
        ("stderr_truncated", .bool printed.stderrTruncated)] ++ [125], ?_⟩
  intro name
  have hmembers := encodeMembers_append "error_category" (.str name : Json F)
    ("stdout", .str printed.stdout) [("stderr", .str printed.stderr),
      ("stdout_truncated", .bool printed.stdoutTruncated),
      ("stderr_truncated", .bool printed.stderrTruncated)] ("ok", .bool false)
    [("actual", .null)]
  refine (congrArg (fun s => 123 :: (s ++ [125])) hmembers).trans ?_
  simp [Json.encode]

/-- Whether the record is written does not depend on a name that can be encoded. -/
theorem canPrint_failedMembers {name name' : Str} (hname : isEncodable (encodeString name) = true)
    (hname' : isEncodable (encodeString name') = true) (printed : Captured) :
    canPrint (failedMembers (F := F) name printed)
      = canPrint (failedMembers (F := F) name' printed) := by
  obtain ⟨u, w, hencode⟩ := encode_failedMembers (F := F) printed
  have hname : isEncodable (Json.obj (failedMembers (F := F) name printed)).encode
      = isEncodable (Json.obj (failedMembers (F := F) name' printed)).encode := by
    rw [hencode, hencode, isEncodable_append, isEncodable_append, isEncodable_append,
      isEncodable_append, hname, hname']
  unfold canPrint
  rw [hname]
  rfl

/-- An ending whose two records are one. -/
theorem sameOutcome_failed {printed : Captured} {rawStderr : Str} {ending : Ending F} {name : Str}
    (hk : ending.members DumpsError.category printed = some (failedMembers name printed))
    (hv : ending.members DumpsError.name printed = some (failedMembers name printed)) :
    SameOutcome printed rawStderr ending
      ↔ (canPrint (failedMembers (F := F) name printed) = true →
        Survives (failedMembers (F := F) name printed) ∨ LooksLost F name printed) := by
  cases hprint : canPrint (failedMembers (F := F) name printed) with
  | false => exact iff_of_true (sameOutcome_unwritten hk hv hprint hprint) nofun
  | true =>
      have h : Writes printed ending false .null (some name) (some name) :=
        ⟨trivial, hk, hv, hprint, hprint⟩
      rw [forall_prop_of_true rfl]
      by_cases hsurvives : Survives (failedMembers (F := F) name printed)
      · exact iff_of_true ((sameOutcome_survives h hsurvives).mpr rfl) (.inl hsurvives)
      · rw [sameOutcome_broken h hsurvives, or_iff_right hsurvives]
        have hcategory : categoryOf (optionalJson (some name) : Json F)
            = if name = [] then none else some name := categoryOf_str name
        have hown : (if name = [] then none else some name) = some ("runner_protocol_error" : Str)
            ↔ name = "runner_protocol_error" := by
          split_ifs with hnil
          · rw [hnil]
            decide
          · rw [Option.some.injEq]
        have hnone : (if name = [] then none else some name) = none ↔ name = [] := by
          split_ifs with hnil
          · exact iff_of_true rfl hnil
          · exact iff_of_false nofun hnil
        rw [hcategory, hown, hnone]
        exact ⟨fun hbroken => hbroken.2.2, fun hlost => ⟨rfl, rfl, hlost⟩⟩

/-- A value that `json.dumps` rejects with one of the errors that the runner
of `services/python-runner` renames. -/
theorem sameOutcome_renamed {printed : Captured} {rawStderr : Str} {e : DumpsError}
    (he : e.category = "output_not_json_serializable")
    (hname : isEncodable (encodeString e.name) = true)
    (hne : e.name ≠ "output_not_json_serializable" ∧ e.name ≠ "runner_protocol_error"
      ∧ e.name ≠ []) :
    SameOutcome printed rawStderr (.rejected e : Ending F)
      ↔ canPrint (failedMembers (F := F) e.name printed) = false := by
  have hsame := canPrint_failedMembers (F := F) hname
    (show isEncodable (encodeString "output_not_json_serializable") = true by decide) printed
  have hk : (Ending.rejected e : Ending F).members DumpsError.category printed
      = some (failedMembers "output_not_json_serializable" printed) := by
    rw [← he]
    rfl
  cases hprint : canPrint (failedMembers (F := F) e.name printed) with
  | false =>
      rw [hprint] at hsame
      exact iff_of_true (sameOutcome_unwritten hk rfl hsame.symm hprint) rfl
  | true =>
      rw [hprint] at hsame
      have h : Writes printed (.rejected e : Ending F) false .null
          (some "output_not_json_serializable") (some e.name) :=
        ⟨trivial, hk, rfl, hsame.symm, hprint⟩
      have hcategory : categoryOf (optionalJson (some e.name) : Json F) = some e.name := by
        show categoryOf (.str e.name) = _
        rw [categoryOf_str, if_neg hne.2.2]
      refine iff_of_false ?_ nofun
      by_cases hsurvives : Survives
          (failedMembers (F := F) "output_not_json_serializable" printed)
      · rw [sameOutcome_survives h hsurvives, hcategory]
        exact fun heq => hne.1 (Option.some.inj heq).symm
      · rw [sameOutcome_broken h hsurvives, hcategory]
        rintro ⟨-, -, ⟨heq, -⟩ | ⟨heq, -⟩⟩
        · exact hne.2.1 (Option.some.inj heq)
        · cases heq

/-- **Endings.** The two parents have the same exactly for the endings of `EndingAgrees`. -/
theorem sameOutcome_iff (printed : Captured) (rawStderr : Str) (ending : Ending F) :
    SameOutcome printed rawStderr ending ↔ EndingAgrees printed ending := by
  cases ending with
  | exceeds => exact iff_of_true ⟨_, _, rfl, rfl, rfl⟩ trivial
  | returns actual fits =>
      show _ ↔ (canPrint (protocolMembers true actual none printed) = true →
        Survives (protocolMembers true actual none printed))
      cases hprint : canPrint (protocolMembers true actual none printed) with
      | false => exact iff_of_true (sameOutcome_unwritten rfl rfl hprint hprint) nofun
      | true =>
          have h : Writes printed (.returns actual fits) true actual none none :=
            ⟨fits, rfl, rfl, hprint, hprint⟩
          rw [forall_prop_of_true rfl]
          by_cases hsurvives : Survives (protocolMembers true actual none printed)
          · exact iff_of_true ((sameOutcome_survives h hsurvives).mpr rfl) hsurvives
          · rw [sameOutcome_broken h hsurvives]
            exact iff_of_false (fun hok => nomatch hok.1) hsurvives
  | rejected e =>
      cases e with
      | typeError => exact sameOutcome_renamed rfl (by decide) (by decide)
      | valueError => exact sameOutcome_renamed rfl (by decide) (by decide)
      | recursionError =>
          have hnot : ¬LooksLost F "RecursionError" printed := by
            rintro (⟨hname, -⟩ | ⟨hname, -⟩)
            · exact absurd hname (by decide)
            · exact absurd hname (by decide)
          have hfailed : SameOutcome printed rawStderr (.rejected .recursionError : Ending F)
              ↔ _ := sameOutcome_failed (rfl : _ = some (failedMembers "RecursionError" printed)) rfl
          rw [hfailed, or_iff_left hnot]
          exact Iff.rfl
  | raises name => exact sameOutcome_failed rfl rfl

/-! ## One test -/

/-- The candidate is called alike, and the ending's records agree. -/
def TestAgrees (sandbox : Sandbox F) (mode : Str) (index : Nat) (input : Json F) : Prop :=
  (∀ printed, sandbox.load index = .ready printed → callOf "auto" input = callOf mode input)
    ∧ EndingAgrees (sandbox.run index mode input).2.2 (sandbox.run index mode input).2.1

/-- The loop stops behind the test: its time is over, or the candidate
raised a class of that name. -/
def EndingStops (printed : Captured) : Ending F → Prop
  | .exceeds => True
  | .raises name =>
      name = "timeout" ∧ canPrint (failedMembers (F := F) name printed) = true
  | _ => False

def Stops (sandbox : Sandbox F) (mode : Str) (index : Nat) (input : Json F) : Prop :=
  EndingStops (sandbox.run index mode input).2.2 (sandbox.run index mode input).2.1

/-- What is compared of two turns of the loops. -/
def SameStep (k : Option (PythonRunner.Call F) × Except LoadError (Dict F))
    (v : Option (PythonRunner.Call F) × Except ChildFailure (Dict F)) : Prop :=
  k.1 = v.1 ∧ ∃ p q, k.2 = .ok p ∧ v.2 = .ok q ∧ outcome p = outcome q

theorem run_eq_of_call {sandbox : Sandbox F} {mode mode' : Str} {index : Nat} {input : Json F}
    (h : ∀ printed, sandbox.load index = .ready printed → callOf mode' input = callOf mode input) :
    sandbox.run index mode' input = sandbox.run index mode input := by
  unfold Sandbox.run
  cases hload : sandbox.load index with
  | raises name printed => rfl
  | exceeds => rfl
  | ready printed =>
      dsimp only
      rw [h printed hload]

theorem call_of_run {sandbox : Sandbox F} {mode : Str} {index : Nat} {input : Json F}
    {printed : Captured} (hload : sandbox.load index = .ready printed) :
    (sandbox.run index mode input).1 = callOf mode input := by
  unfold Sandbox.run
  rw [hload]
  dsimp only
  cases callOf mode input with
  | none => rfl
  | some call => rfl

theorem sameStep_iff (sandbox : Sandbox F) (mode : Str) (index : Nat) (input : Json F) :
    SameStep (PythonRunner.executeTest sandbox "auto" index input)
        (executeTest sandbox mode index input)
      ↔ TestAgrees sandbox mode index input := by
  rw [executeTest_cluster, executeTest_embedded]
  unfold SameStep TestAgrees
  constructor
  · rintro ⟨hcall, hrecords⟩
    have hcalls : ∀ printed, sandbox.load index = .ready printed →
        callOf "auto" input = callOf mode input := by
      intro printed hload
      rw [← call_of_run hload, ← call_of_run hload]
      exact hcall
    refine ⟨hcalls, (sameOutcome_iff _ (sandbox.rawStderr index) _).mp ?_⟩
    rw [run_eq_of_call hcalls] at hrecords
    exact hrecords
  · rintro ⟨hcalls, hending⟩
    rw [run_eq_of_call hcalls]
    exact ⟨rfl, (sameOutcome_iff _ _ _).mpr hending⟩

/-- A record's members, whatever the ending. -/
theorem members_shape {category : DumpsError → Str} {printed : Captured} {ending : Ending F}
    {members : Dict F} (h : ending.members category printed = some members) :
    ∃ ok actual o, actual.DigitsFit ∧ members = protocolMembers ok actual o printed := by
  cases ending with
  | returns actual fits => exact ⟨true, actual, none, fits, (Option.some.inj h).symm⟩
  | rejected e => exact ⟨false, .null, some (category e), trivial, (Option.some.inj h).symm⟩
  | raises name => exact ⟨false, .null, some name, trivial, (Option.some.inj h).symm⟩
  | exceeds => cases h

/-- The embedded runner always has a record. -/
theorem embeddedRecord_ok (printed : Captured) (rawStderr : Str) (ending : Ending F) :
    ∃ v, embeddedRecord printed rawStderr ending = .ok v
      ∧ ∃ o, Json.get "error_category" v = optionalJson o := by
  unfold embeddedRecord
  cases hmembers : ending.members DumpsError.name printed with
  | none => exact ⟨_, rfl, some "timeout", rfl⟩
  | some members =>
      obtain ⟨ok, actual, o, hfits, rfl⟩ := members_shape hmembers
      cases hprint : canPrint (protocolMembers ok actual o printed) with
      | false => exact ⟨_, readChild_unwritten hprint rawStderr, some "runner_protocol_error", rfl⟩
      | true => exact ⟨_, readChild_written hfits hprint rawStderr, o, rfl⟩

theorem clusterRecord_category {printed : Captured} {ending : Ending F} {k : Dict F}
    (h : clusterRecord printed ending = .ok k) :
    ∃ o, Json.get "error_category" k = optionalJson o := by
  unfold clusterRecord at h
  cases hmembers : ending.members DumpsError.category printed with
  | none =>
      rw [hmembers] at h
      cases h
      exact ⟨some "timeout", rfl⟩
  | some members =>
      rw [hmembers] at h
      obtain ⟨protocol, hread, rfl⟩ := map_eq_ok h
      obtain ⟨ok, actual, o, hfits, rfl⟩ := members_shape hmembers
      cases protocol with
      | none => exact ⟨some "runner_protocol_error", rfl⟩
      | some d =>
          cases hprint : canPrint (protocolMembers ok actual o printed) with
          | false =>
              rw [readBack_unwritten hprint] at hread
              cases hread
          | true =>
              by_cases hsurvives : Survives (protocolMembers ok actual o printed)
              · rw [readBack_written hfits hprint hsurvives] at hread
                cases hread
                exact ⟨o, rfl⟩
              · exact ⟨none, (readBack_broken hprint hsurvives hread).category⟩

theorem eqStr_timeout {v : Json F} {o : Option Str} (h : v = optionalJson o) :
    v.eqStr "timeout" = true ↔ categoryOf v = some ("timeout" : Str) := by
  rw [h, Json.eqStr_iff]
  cases o with
  | none => exact iff_of_false nofun nofun
  | some name =>
      show Json.str name = _ ↔ categoryOf (Json.str name : Json F) = _
      rw [categoryOf_str, Json.str.injEq]
      split_ifs with hnil
      · rw [hnil]
        exact iff_of_false (by decide) nofun
      · rw [Option.some.injEq]

omit [Runtime F] in
theorem ownProtocol_noTimeout (stderr : Str) :
    ¬(Json.get "error_category" (ownProtocol "runner_protocol_error" stderr : Dict F)).eqStr
      "timeout" = true := by
  intro h
  exact absurd (Json.str.inj (Json.eqStr_iff.mp h)) (by decide)

theorem embeddedRecord_category {printed : Captured} {rawStderr : Str} {ending : Ending F}
    {v : Dict F} (h : embeddedRecord printed rawStderr ending = .ok v) :
    (Json.get "error_category" v).eqStr "timeout" = true ↔ EndingStops printed ending := by
  have hfailed (name : Str)
      (hread : readChild (childOutput [] (failedMembers (F := F) name printed)) rawStderr
        = .ok v) :
      (Json.get "error_category" v).eqStr "timeout" = true
        ↔ name = "timeout" ∧ canPrint (failedMembers (F := F) name printed) = true := by
    cases hprint : canPrint (failedMembers (F := F) name printed) with
    | false =>
        rw [readChild_unwritten hprint] at hread
        cases hread
        exact iff_of_false (ownProtocol_noTimeout _) nofun
    | true =>
        have hfits : (Json.null : Json F).DigitsFit := trivial
        rw [failedMembers, readChild_written hfits hprint] at hread
        cases hread
        rw [and_iff_left rfl, Json.eqStr_iff]
        exact Json.str.injEq name "timeout" ▸ Iff.rfl
  cases ending with
  | exceeds =>
      cases h
      exact iff_of_true rfl trivial
  | returns actual fits =>
      refine iff_of_false ?_ not_false
      cases hprint : canPrint (protocolMembers true actual none printed) with
      | false =>
          rw [embeddedRecord, show (Ending.returns actual fits).members DumpsError.name printed
            = some _ from rfl] at h
          dsimp only at h
          rw [readChild_unwritten hprint] at h
          cases h
          exact ownProtocol_noTimeout _
      | true =>
          rw [embeddedRecord, show (Ending.returns actual fits).members DumpsError.name printed
            = some _ from rfl] at h
          dsimp only at h
          rw [readChild_written fits hprint] at h
          cases h
          nofun
  | rejected e =>
      refine iff_of_false (fun htimeout => ?_) not_false
      have hname := ((hfailed e.name h).mp htimeout).1
      cases e <;> exact absurd hname (by decide)
  | raises name => exact hfailed name h

/-! ## Runs -/

/-- What is compared of a test's run. -/
def verdict (r : TestRun F) : Option (PythonRunner.Call F) × Bool × Json F × Option Str :=
  (r.call, outcome r.protocol)

/-- Each test agrees, up to one behind which the loop ends. -/
def TestsAgree (sandbox : Sandbox F) (mode : Str) : Nat → List (SentTest F) → Prop
  | _, [] => True
  | index, test :: rest =>
      sandbox.late index = true
        ∨ (TestAgrees sandbox mode index test.input
          ∧ (Stops sandbox mode index test.input ∨ TestsAgree sandbox mode (index + 1) rest))

theorem sameStep_ok (test : SentTest F) {call call' : Option (PythonRunner.Call F)} {p q : Dict F} :
    SameStep (call', .ok p) (call, .ok q)
      ↔ verdict (⟨test, call', p⟩ : TestRun F) = verdict ⟨test, call, q⟩ := by
  unfold SameStep verdict
  rw [Prod.mk.injEq]
  constructor
  · rintro ⟨hcall, p', q', hp, hq, h⟩
    cases hp
    cases hq
    exact ⟨hcall, h⟩
  · rintro ⟨hcall, h⟩
    exact ⟨hcall, p, q, rfl, rfl, h⟩

/-- A turn of the embedded runner's loop. -/
theorem executeTest_ok (sandbox : Sandbox F) (mode : Str) (index : Nat) (input : Json F) :
    ∃ call q, executeTest sandbox mode index input = (call, .ok q)
      ∧ ((Json.get "error_category" q).eqStr "timeout" = true
        ↔ Stops sandbox mode index input) := by
  rw [executeTest_embedded]
  obtain ⟨q, hq, -⟩ := embeddedRecord_ok (sandbox.run index mode input).2.2
    (sandbox.rawStderr index) (sandbox.run index mode input).2.1
  rw [hq]
  exact ⟨_, q, rfl, embeddedRecord_category hq⟩

/-- Turns that are the same end their loops alike. -/
theorem timedOut_of_sameStep {sandbox : Sandbox F} {mode : Str} {index : Nat} {input : Json F}
    {call call' : Option (PythonRunner.Call F)} {p q : Dict F}
    (hk : PythonRunner.executeTest sandbox mode index input = (call, .ok p))
    {mode' : Str} (hv : executeTest sandbox mode' index input = (call', .ok q))
    (h : outcome p = outcome q) :
    (Json.get "error_category" p).eqStr "timeout"
      = (Json.get "error_category" q).eqStr "timeout" := by
  rw [executeTest_cluster] at hk
  rw [executeTest_embedded] at hv
  obtain ⟨o, ho⟩ := clusterRecord_category (Prod.mk.inj hk).2
  obtain ⟨q', hq', o', ho'⟩ := embeddedRecord_ok (sandbox.run index mode' input).2.2
    (sandbox.rawStderr index) (sandbox.run index mode' input).2.1
  obtain rfl := Except.ok.inj (hq'.symm.trans (Prod.mk.inj hv).2)
  rw [Bool.eq_iff_iff, eqStr_timeout ho, eqStr_timeout ho',
    (Prod.mk.inj (Prod.mk.inj h).2).2]

omit [Runtime F] in
/-- A loop behind a test whose record says whether it ends. -/
theorem runLoop_cons {ε : Type} {late : Nat → Bool}
    {execute : Nat → Json F → Option (PythonRunner.Call F) × Except ε (Dict F)} {index : Nat}
    {test : SentTest F} {call : Option (PythonRunner.Call F)} {protocol : Dict F}
    (hlate : late index = false) (h : execute index test.input = (call, .ok protocol))
    (rest : List (SentTest F)) :
    runLoop late execute index (test :: rest)
      = let tail := if (Json.get "error_category" protocol).eqStr "timeout" = true
          then ([], .timedOut) else runLoop late execute (index + 1) rest
        (⟨test, call, protocol⟩ :: tail.1, tail.2) := by
  rw [runLoop, hlate, h, if_neg (by decide)]
  unfold TestRun.timedOut
  dsimp only
  split_ifs
  · rfl
  · rfl

/-- The embedded runner's loop ends without an error. -/
theorem runLoop_embedded (sandbox : Sandbox F) (mode : Str) (index : Nat)
    (tests : List (SentTest F)) (e : ChildFailure) :
    (runLoop sandbox.late (executeTest sandbox mode) index tests).2 ≠ .raised e := by
  induction tests generalizing index with
  | nil => nofun
  | cons test rest ih =>
      obtain ⟨call, q, hexecute, -⟩ := executeTest_ok sandbox mode index test.input
      cases hlate : sandbox.late index with
      | true =>
          rw [runLoop, hlate, if_pos rfl]
          nofun
      | false =>
          rw [runLoop_cons hlate hexecute]
          dsimp only
          split_ifs
          · nofun
          · exact ih (index + 1)

/-- **Loops.** The two runs have the same verdicts exactly when the tests agree. -/
theorem runLoop_agrees (sandbox : Sandbox F) (mode : Str) (index : Nat)
    (tests : List (SentTest F)) :
    ((∀ e, (runLoop sandbox.late (PythonRunner.executeTest sandbox "auto") index tests).2
          ≠ .raised e)
        ∧ (runLoop sandbox.late (PythonRunner.executeTest sandbox "auto") index tests).1.map verdict
          = (runLoop sandbox.late (executeTest sandbox mode) index tests).1.map verdict)
      ↔ TestsAgree sandbox mode index tests := by
  induction tests generalizing index with
  | nil => exact iff_of_true ⟨nofun, rfl⟩ trivial
  | cons test rest ih =>
      obtain ⟨call, q, hv, hstops⟩ := executeTest_ok sandbox mode index test.input
      have hstep := sameStep_iff sandbox mode index test.input
      unfold TestsAgree
      cases hlate : sandbox.late index with
      | true =>
          rw [runLoop, runLoop, hlate, if_pos rfl]
          exact iff_of_true ⟨nofun, rfl⟩ (.inl rfl)
      | false =>
          rw [or_iff_right (by decide), ← hstep, ← ih, ← hstops, hv, runLoop_cons hlate hv]
          obtain ⟨call', k, hk⟩ : ∃ call' k,
              PythonRunner.executeTest sandbox "auto" index test.input = (call', k) := ⟨_, _, rfl⟩
          rw [hk]
          cases k with
          | error e =>
              rw [runLoop, hlate, hk, if_neg (by decide)]
              refine iff_of_false (fun h => h.1 e rfl) ?_
              rintro ⟨⟨-, p, -, hp, -⟩, -⟩
              cases hp
          | ok p =>
              rw [runLoop_cons hlate hk]
              dsimp only
              rw [List.map_cons, List.map_cons, List.cons.injEq]
              rw [sameStep_ok test]
              by_cases hverdict : verdict (⟨test, call', p⟩ : TestRun F) = verdict ⟨test, call, q⟩
              · have htime := timedOut_of_sameStep hk hv (Prod.mk.inj hverdict).2
                rw [htime, and_iff_right hverdict, and_iff_right hverdict]
                cases (Json.get "error_category" q).eqStr "timeout" with
                | true => exact iff_of_true ⟨nofun, rfl⟩ (.inl rfl)
                | false =>
                    rw [if_neg (by decide), if_neg (by decide), or_iff_right (by decide)]
              · exact iff_of_false (fun h => hverdict h.2.1) fun h => hverdict h.1

/-- What `run_python` sends for an accepted question: the other request, with
the mode behind it. -/
def embeddedRequest (package : DispatchPackage F) (name mode : Str) (sent : List (SentTest F)) :
    Dict F :=
  [("schema_version", .int 1), ("execution_id", .str package.executionId),
    ("attempt", .int package.attemptCount), ("source_code", .str package.sourceCode),
    ("tests", .arr (sent.map SentTest.toJson)), ("entrypoint", .str name),
    ("invocation_mode", .str mode)]

theorem requestPayload_eq {package : DispatchPackage F} {name mode : Str}
    {sent : List (SentTest F)} (hmode : mode ∈ invocationModes)
    (hpayload : package.inputPayload = pythonPayload name mode sent) :
    requestPayload package (pythonRequest package name sent)
      = embeddedRequest package name mode sent := by
  have hne : mode ≠ [] := by
    rintro rfl
    exact absurd hmode (by decide)
  have hstr : strOr (Json.get "invocation_mode" package.inputPayload) "auto" = mode := by
    rw [hpayload, show Json.get "invocation_mode" (pythonPayload name mode sent) = .str mode
      from rfl]
    cases mode with
    | nil => exact absurd rfl hne
    | cons c rest => rfl
  unfold requestPayload
  rw [hstr]
  rfl

theorem mapM_readTest (sent : List (SentTest F)) :
    (sent.map SentTest.toJson).mapM readTest = some sent := by
  induction sent with
  | nil => rfl
  | cons t rest ih =>
      rw [List.map_cons, List.mapM_cons, ih]
      rfl

/-- The embedded runner's results are those of its loop. -/
theorem recordedRuns_embedded {package : DispatchPackage F} {name mode : Str}
    {sent : List (SentTest F)} (hmode : mode ∈ invocationModes)
    (hpayload : package.inputPayload = pythonPayload name mode sent)
    (hdistinct : ∀ t ∈ sent, t.input.DistinctKeys)
    (hprintable : (Json.obj (pythonRequest package name sent)).Printable) (sandbox : Sandbox F) :
    recordedRuns (Json.obj (requestPayload package (pythonRequest package name sent))).encode sandbox
      = some (runLoop sandbox.late (executeTest sandbox mode) 0 sent).1 := by
  have hprint : (Json.obj (embeddedRequest package name mode sent)).Printable := by
    obtain ⟨⟨h1, h2, h3, h4, h5, h6, -⟩, hdepth⟩ := hprintable
    exact ⟨⟨h1, h2, h3, h4, h5, h6, trivial, trivial⟩, hdepth⟩
  have hkeys : (Json.obj (embeddedRequest package name mode sent)).DistinctKeys := by
    obtain ⟨-, h1, h2, h3, h4, h5, h6, -⟩ := distinctKeys_pythonRequest hdistinct
    refine ⟨?_, h1, h2, h3, h4, h5, h6, trivial, trivial⟩
    show (["schema_version", "execution_id", "attempt", "source_code", "tests", "entrypoint",
      "invocation_mode"] : List Str).Nodup
    decide
  rw [requestPayload_eq hmode hpayload]
  unfold recordedRuns
  rw [Json.loads_encode_of_distinct hprint hkeys]
  dsimp only
  unfold runTests
  rw [show Json.get "tests" (embeddedRequest package name mode sent)
      = .arr (sent.map SentTest.toJson) from rfl,
    show modeOf (embeddedRequest package name mode sent) = mode from rfl]
  dsimp only
  rw [mapM_readTest, Option.map_some]
  have hended := runLoop_embedded sandbox mode 0 sent
  generalize runLoop sandbox.late (executeTest sandbox mode) 0 sent = result at hended
  obtain ⟨runs, ending⟩ := result
  cases ending with
  | raised e => exact absurd rfl (hended e)
  | finished => rfl
  | timedOut => rfl

/-- The results of `services/python-runner`, if its loop raises nothing. -/
theorem recordedRuns_cluster {package : DispatchPackage F} {name : Str}
    {sent : List (SentTest F)} {request : Request F}
    (hdistinct : ∀ t ∈ sent, t.input.DistinctKeys)
    (hprintable : (Json.obj (pythonRequest package name sent)).Printable)
    (hread : PythonRunner.readRequest (pythonRequest package name sent) package.executionId
      = .ok request) (sandbox : Sandbox F) :
    PythonRunner.recordedRuns (Json.obj (pythonRequest package name sent)).encode
        package.executionId sandbox
      = match (runLoop sandbox.late (PythonRunner.executeTest sandbox "auto") 0 sent).2 with
        | .raised .intDigits => some []
        | .raised _ => none
        | _ => some (runLoop sandbox.late (PythonRunner.executeTest sandbox "auto") 0 sent).1 := by
  obtain ⟨hmode, htests⟩ := python_readRequest_ok hread
  unfold PythonRunner.recordedRuns PythonRunner.parseRequest
  rw [Json.loads_encode_of_distinct hprintable (distinctKeys_pythonRequest hdistinct)]
  dsimp only
  rw [hread]
  unfold PythonRunner.runTests
  dsimp only
  rw [hmode]
  exact htests ▸ rfl

/-- The two paths call the candidate alike and record the same. -/
def SameVerdicts (package : DispatchPackage F) (sandbox : Sandbox F) : Prop :=
  ∃ payload, sandboxRequest package = .ok payload
    ∧ ((Json.obj payload).Printable →
      (PythonRunner.recordedRuns (Json.obj payload).encode package.executionId sandbox).map
          (List.map verdict)
        = (recordedRuns (Json.obj (requestPayload package payload)).encode sandbox).map
          (List.map verdict))

/-- The request passes the checks of `services/python-runner`, and its tests agree. -/
structure PythonAgrees (package : DispatchPackage F) (sandbox : Sandbox F) (mode : Str)
    (sent : List (SentTest F)) : Prop where
  source : utf8Len package.sourceCode ≤ maxSourceBytes
  count : sent.length ≤ maxTests
  distinct : (sent.map SentTest.id).Nodup
  tests : TestsAgree sandbox mode 0 sent

/-- The embedded runner gives a verdict at least for the first test. -/
theorem runLoop_ne (sandbox : Sandbox F) (mode : Str) {tests : List (SentTest F)}
    (hne : tests ≠ []) : (runLoop sandbox.late (executeTest sandbox mode) 0 tests).1 ≠ [] := by
  cases tests with
  | nil => exact absurd rfl hne
  | cons test rest =>
      obtain ⟨call, q, hexecute, -⟩ := executeTest_ok sandbox mode 0 test.input
      rw [runLoop_cons sandbox.late_zero hexecute]
      exact List.cons_ne_nil _ _

/-- The results of a loop are as others that are not empty only if it raises nothing. -/
theorem recorded_eq_iff {runs runs' : List (TestRun F)} {ending : LoopEnd LoadError}
    (hne : runs' ≠ []) :
    (match ending with
        | .raised .intDigits => some []
        | .raised _ => none
        | _ => some runs).map (List.map verdict) = (some runs').map (List.map verdict)
      ↔ (∀ e, ending ≠ .raised e) ∧ runs.map verdict = runs'.map verdict := by
  have hmap : runs'.map verdict ≠ [] := fun h => hne (List.map_eq_nil_iff.mp h)
  cases ending with
  | finished => exact ⟨fun h => ⟨nofun, Option.some.inj h⟩, fun h => congrArg some h.2⟩
  | timedOut => exact ⟨fun h => ⟨nofun, Option.some.inj h⟩, fun h => congrArg some h.2⟩
  | raised e =>
      refine iff_of_false ?_ fun h => h.1 e rfl
      cases e with
      | intDigits => exact fun h => hmap (Option.some.inj h).symm
      | decode => nofun
      | recursion => nofun

/-- A request that the runner of `services/python-runner` does not take has no results. -/
theorem recordedRuns_refused {package : DispatchPackage F} {name : Str}
    {sent : List (SentTest F)} (hdistinct : ∀ t ∈ sent, t.input.DistinctKeys)
    (hprintable : (Json.obj (pythonRequest package name sent)).Printable)
    (hread : ¬∃ request, PythonRunner.readRequest (pythonRequest package name sent)
      package.executionId = .ok request) (sandbox : Sandbox F) :
    ∀ runs, PythonRunner.recordedRuns (Json.obj (pythonRequest package name sent)).encode
      package.executionId sandbox = some runs → runs = [] := by
  intro runs h
  unfold PythonRunner.recordedRuns PythonRunner.parseRequest at h
  rw [Json.loads_encode_of_distinct hprintable (distinctKeys_pythonRequest hdistinct)] at h
  dsimp only at h
  cases hrequest : PythonRunner.readRequest (pythonRequest package name sent)
      package.executionId with
  | ok request => exact absurd ⟨request, hrequest⟩ hread
  | error e =>
      rw [hrequest] at h
      split at h
      · exact (Option.some.inj h).symm
      · exact (Option.some.inj h).symm
      · exact (Option.some.inj h).symm
      · cases h
      · rename_i heq
        cases heq

/-- A printable request, on both paths. -/
theorem recordedRuns_same_iff {functionNames : FunctionNames} {structured : Json F}
    {executionType : ExecutionType} {request : PracticeRunRequest} {package : DispatchPackage F}
    {name mode : Str} {sent : List (SentTest F)} (sandbox : Sandbox F)
    (hkeys : structured.DistinctKeys)
    (hqueued : QueuedFor functionNames structured .python executionType request package)
    (hname : Runtime.isIdentifier F name = true) (hmode : mode ∈ invocationModes)
    (hsent : candidateTests structured (decide (executionType = .run)) = .ok sent)
    (hpayload : package.inputPayload = pythonPayload name mode sent)
    (hprintable : (Json.obj (pythonRequest package name sent)).Printable) :
    (PythonRunner.recordedRuns (Json.obj (pythonRequest package name sent)).encode
          package.executionId sandbox).map (List.map verdict)
        = (recordedRuns (Json.obj (requestPayload package
          (pythonRequest package name sent))).encode sandbox).map (List.map verdict)
      ↔ PythonAgrees package sandbox mode sent := by
  have hdistinct := distinctKeys_sent hkeys hsent
  have hne := (candidateTests_ok hsent).1
  have hread := python_readRequest hqueued.source_ne hqueued.source_encodable hqueued.claimed
    hname hne (candidateTests_valid hsent)
  rw [recordedRuns_embedded hmode hpayload hdistinct hprintable]
  by_cases haccepted : ∃ request, PythonRunner.readRequest (pythonRequest package name sent)
      package.executionId = .ok request
  · obtain ⟨hbytes, hcount, hnodup⟩ := hread.mp haccepted
    obtain ⟨request', hrequest'⟩ := haccepted
    rw [recordedRuns_cluster hdistinct hprintable hrequest',
      recorded_eq_iff (runLoop_ne sandbox mode hne), runLoop_agrees]
    exact ⟨fun h => ⟨hbytes, hcount, hnodup, h⟩, fun h => h.tests⟩
  · refine iff_of_false ?_ fun h => haccepted (hread.mpr ⟨h.source, h.count, h.distinct⟩)
    intro heq
    rw [Option.map_some, Option.map_eq_some_iff] at heq
    obtain ⟨runs, hruns, hmap⟩ := heq
    rw [recordedRuns_refused hdistinct hprintable haccepted sandbox runs hruns] at hmap
    exact runLoop_ne sandbox mode hne (List.map_eq_nil_iff.mp hmap.symm)

theorem digitsFit_one : (Json.int 1 : Json NanoFloat).DigitsFit :=
  (show digitCount 1 ≤ 1 by decide).trans (by decide)

/-- A candidate that returns `1` whatever it is called with. -/
def returningOne : Sandbox NanoFloat where
  load := fun _ => .ready noOutput
  call := fun _ _ => (.returns (.int 1) digitsFit_one, noOutput)
  rawStderr := fun _ => []
  exitCode := fun _ => 0
  late := fun _ => false
  late_zero := rfl

/-- A question whose function takes the input as one argument. -/
def singleMode : Dict NanoFloat :=
  [("entrypoint", .str "echo"), ("invocation_mode", .str "single_payload"),
    ("tests", .arr [.obj (echoTest "public")])]

def singleContent : Dict NanoFloat :=
  [("question_type", .str "python_coding"), ("mode_specification", .obj singleMode)]

def singlePackage : DispatchPackage NanoFloat :=
  claimedPackage "python" "echo = print"
    (pythonPayload "echo" "single_payload" [sentTest 0 (echoTest "public")])

set_option maxRecDepth 4000 in
theorem survives_one : Survives (protocolMembers true (.int 1 : Json NanoFloat) none noOutput) :=
  ⟨by decide, by decide⟩

end Rigor.VercelPython
