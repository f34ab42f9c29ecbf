import Rigor.Platform
import Rigor.PythonRunner
import Rigor.SqlParity
import Rigor.TestAlignment

/-!
# What the API accepts and what the runners accept

The API queues a source of up to 100000 characters for a question whose
tests it and the grader can read; the runner counts bytes, and has limits
of its own. The main result says for which queued executions the request of
`sandbox_request` passes the `parse_request` of its runner
(`sandbox_request_accepted_iff`).
-/

namespace Rigor

open Py

variable {F : Type}

/-! ## Requests -/

/-- The payload of an accepted Python question. -/
def pythonPayload (entrypoint mode : Str) (sent : List (SentTest F)) : Dict F :=
  [("schema_version", .int 1), ("entrypoint", .str entrypoint), ("invocation_mode", .str mode),
    ("tests", .arr (sent.map SentTest.toJson))]

/-- What `sandbox_request` builds for a Python execution. -/
def pythonRequest (package : DispatchPackage F) (entrypoint : Str) (sent : List (SentTest F)) :
    Dict F :=
  [("schema_version", .int 1), ("execution_id", .str package.executionId),
    ("attempt", .int package.attemptCount), ("source_code", .str package.sourceCode),
    ("tests", .arr (sent.map SentTest.toJson)), ("entrypoint", .str entrypoint)]

/-- What `sandbox_request` builds for a SQL execution. -/
def sqlRequest (package : DispatchPackage F) (schema seed : Str) (timeout : Int)
    (sent : List (SentTest F)) : Dict F :=
  [("schema_version", .int 1), ("execution_id", .str package.executionId),
    ("attempt", .int package.attemptCount), ("source_code", .str package.sourceCode),
    ("tests", .arr (sent.map SentTest.toJson)), ("schema_sql", .str schema),
    ("seed_sql", .str seed), ("statement_timeout_ms", .int timeout)]

theorem sanitizeTests_sent (sent : List (SentTest F)) :
    sanitizeTests (sent.map SentTest.toJson) = .ok (sent.map SentTest.toJson) := by
  induction sent with
  | nil => rfl
  | cons t rest ih =>
      show (objectDict t.toJson "Execution test" >>= fun test =>
        if (Json.lookup "expected_output" test).isSome ∨ (Json.lookup "expected" test).isSome then
          .error (.trusted "Expected answers must not enter the candidate sandbox.")
        else sanitizeTests (rest.map SentTest.toJson) >>= fun rest => .ok (.obj test :: rest)) = _
      rw [show objectDict t.toJson "Execution test" = .ok _ from rfl, ok_bind,
        if_neg (fun h => h.elim (nomatch ·) (nomatch ·)), ih]
      rfl

theorem pythonPayload_inj {name name' mode mode' : Str} {sent sent' : List (SentTest F)}
    (h : pythonPayload name mode sent = pythonPayload name' mode' sent') :
    name = name' ∧ mode = mode' ∧ sent = sent' := by
  unfold pythonPayload at h
  simp only [List.cons.injEq, Prod.mk.injEq, Json.str.injEq, Json.arr.injEq, true_and, and_true]
    at h
  exact ⟨h.1, h.2.1, SentTest.toJson_injective.list_map h.2.2⟩

theorem sqlPayload_inj {schema schema' seed seed' : Str} {timeout timeout' : Int}
    {sent sent' : List (SentTest F)}
    (h : sqlPayload schema seed timeout sent = sqlPayload schema' seed' timeout' sent') :
    schema = schema' ∧ seed = seed' ∧ timeout = timeout' ∧ sent = sent' := by
  unfold sqlPayload at h
  simp only [List.cons.injEq, Prod.mk.injEq, Json.str.injEq, Json.int.injEq, Json.arr.injEq,
    true_and, and_true] at h
  exact ⟨h.1, h.2.1, h.2.2.1, SentTest.toJson_injective.list_map h.2.2.2⟩

/-! ## Distinct keys -/

theorem asDict_eq_some {v : Json F} {d : Dict F} (h : asDict v = some d) : v = .obj d := by
  cases v with
  | obj kvs =>
      cases h
      rfl
  | _ => cases h

theorem distinctKeys_toJson {sent : List (SentTest F)}
    (h : ∀ t ∈ sent, t.input.DistinctKeys) :
    Json.DistinctKeysElements (sent.map SentTest.toJson) := by
  refine Json.distinctKeysElements_of_forall fun v hv => ?_
  obtain ⟨t, ht, rfl⟩ := List.mem_map.mp hv
  have hnames : (["id", "visibility", "input"] : List Str).Nodup := by decide
  exact ⟨hnames, trivial, trivial, h t ht, trivial⟩

theorem distinctKeys_pythonRequest {package : DispatchPackage F} {entrypoint : Str}
    {sent : List (SentTest F)} (h : ∀ t ∈ sent, t.input.DistinctKeys) :
    (Json.obj (pythonRequest package entrypoint sent)).DistinctKeys := by
  have hnames : (["schema_version", "execution_id", "attempt", "source_code", "tests",
    "entrypoint"] : List Str).Nodup := by decide
  exact ⟨hnames, trivial, trivial, trivial, trivial, distinctKeys_toJson h, trivial, trivial⟩

theorem distinctKeys_sqlRequest {package : DispatchPackage F} {schema seed : Str} {timeout : Int}
    {sent : List (SentTest F)} (h : ∀ t ∈ sent, t.input.DistinctKeys) :
    (Json.obj (sqlRequest package schema seed timeout sent)).DistinctKeys := by
  have hnames : (["schema_version", "execution_id", "attempt", "source_code", "tests",
    "schema_sql", "seed_sql", "statement_timeout_ms"] : List Str).Nodup := by decide
  exact ⟨hnames, trivial, trivial, trivial, trivial, distinctKeys_toJson h, trivial, trivial,
    trivial, trivial⟩

section Sent

variable [Runtime F]

theorem sentTest_id_ne (index : Nat) (item : Dict F) : (sentTest index item).id ≠ [] := by
  show strOr (Json.get "id" item) (testName index) ≠ []
  unfold strOr
  split_ifs with htruthy
  · refine Json.pyStr_ne ?_
    intro hnil
    rw [hnil] at htruthy
    cases htruthy
  · exact List.cons_ne_nil _ _

theorem sentTest_visibility (index : Nat) (item : Dict F) :
    (sentTest index item).visibility = "public" ∨ (sentTest index item).visibility = "hidden" := by
  show visibilityOf item = _ ∨ visibilityOf item = _
  unfold visibilityOf
  split_ifs
  · exact .inl rfl
  · exact .inr rfl

/-- What every test that is sent has. -/
structure SentTest.Valid (t : SentTest F) : Prop where
  id_ne : t.id ≠ []
  visibility_ok : t.visibility = "public" ∨ t.visibility = "hidden"

theorem candidateTests_valid {structured : Json F} {publicOnly : Bool} {sent : List (SentTest F)}
    (h : candidateTests structured publicOnly = .ok sent) : ∀ t ∈ sent, t.Valid := by
  obtain ⟨-, hsent, -⟩ := candidateTests_ok h
  intro t ht
  rw [hsent, List.mapIdx_eq_zipIdx_map] at ht
  obtain ⟨p, -, rfl⟩ := List.mem_map.mp ht
  exact ⟨sentTest_id_ne p.2 p.1, sentTest_visibility p.2 p.1⟩

omit [Runtime F] in
theorem distinctKeys_mode {content mode : Dict F} (hkeys : (Json.obj content).DistinctKeys)
    (h : modeSpecification content = some mode) : (Json.obj mode).DistinctKeys := by
  have hget (key : Str) : (Json.get key content).DistinctKeys := Json.distinctKeys_get hkeys.2
  unfold modeSpecification at h
  cases hspec : asDict (Json.get "mode_specification" content) with
  | some d =>
      rw [hspec] at h
      cases h
      rw [← asDict_eq_some hspec]
      exact hget _
  | none =>
      rw [hspec] at h
      rw [← asDict_eq_some (v := Json.get "type_specification" content) h]
      exact hget _

/-- The inputs that are sent are parts of the content. -/
theorem distinctKeys_sent {structured : Json F} {publicOnly : Bool} {sent : List (SentTest F)}
    (hkeys : structured.DistinctKeys) (h : candidateTests structured publicOnly = .ok sent) :
    ∀ t ∈ sent, t.input.DistinctKeys := by
  obtain ⟨-, hsent, content, mode, rfl, hmode, htests⟩ := candidateTests_ok h
  have hraws : (Json.arr (rawTests (.obj content))).DistinctKeys := by
    rw [← htests]
    exact Json.distinctKeys_get (distinctKeys_mode hkeys hmode).2
  intro t ht
  rw [hsent, List.mapIdx_eq_zipIdx_map] at ht
  obtain ⟨⟨item, index⟩, hitem, rfl⟩ := List.mem_map.mp ht
  have hmem : item ∈ (rawTests (.obj content)).filterMap asDict := by
    have hkept := List.fst_mem_of_mem_zipIdx hitem
    unfold keptTests at hkept
    split_ifs at hkept
    · exact List.mem_of_mem_filter hkept
    · exact hkept
  obtain ⟨raw, hraw, hobj⟩ := List.mem_filterMap.mp hmem
  have hdict := Json.distinctKeys_elements hraws raw hraw
  rw [asDict_eq_some hobj] at hdict
  exact Json.distinctKeys_get hdict.2

end Sent

/-- The members of a test that is sent. -/
def SentTest.members (t : SentTest F) : Dict F :=
  [("id", .str t.id), ("visibility", .str t.visibility), ("input", t.input)]

theorem readVisibility_members {t : SentTest F} (h : t.Valid) (message : Str) :
    ∃ v, SqlRunner.readVisibility t.members message = .ok v := by
  unfold SqlRunner.readVisibility
  rw [show (Json.lookup "visibility" t.members).getD (.str "hidden") = .str t.visibility from rfl]
  exact ⟨_, dif_pos h.visibility_ok⟩

theorem members_noExpected (t : SentTest F) :
    ¬((Json.lookup "expected_output" t.members).isSome = true
      ∨ (Json.lookup "expected" t.members).isSome = true) := by
  rintro (h | h)
  · cases h
  · cases h

/-- An identifier that is new now, and stays the only one. -/
theorem fresh_cons {t : SentTest F} {rest : List (SentTest F)} {seen : List Str} :
    (((t :: rest).map SentTest.id).Nodup ∧ ∀ u ∈ t :: rest, u.id ∉ seen)
      ↔ t.id ∉ seen ∧ (rest.map SentTest.id).Nodup ∧ ∀ u ∈ rest, u.id ∉ t.id :: seen := by
  rw [List.map_cons, List.nodup_cons, List.forall_mem_cons]
  constructor
  · rintro ⟨⟨hnew, hnodup⟩, hseen, hrest⟩
    refine ⟨hseen, hnodup, ?_⟩
    intro u hu hmem
    rcases List.mem_cons.mp hmem with heq | hmem
    · exact hnew (List.mem_map.mpr ⟨u, hu, heq⟩)
    · exact hrest u hu hmem
  · rintro ⟨hseen, hnodup, hrest⟩
    refine ⟨⟨?_, hnodup⟩, hseen, ?_⟩
    · intro hmem
      obtain ⟨u, hu, heq⟩ := List.mem_map.mp hmem
      exact hrest u hu (heq ▸ List.mem_cons_self ..)
    · intro u hu hmem
      exact hrest u hu (List.mem_cons_of_mem _ hmem)

/-! ## The Python runner -/

section Python

variable [Runtime F]

/-- What the Python runner asks of a request beyond what the API does. -/
structure PythonAdmissible (package : DispatchPackage F) (entrypoint : Str)
    (sent : List (SentTest F)) : Prop where
  printable : (Json.obj (pythonRequest package entrypoint sent)).Printable
  source : utf8Len package.sourceCode ≤ PythonRunner.maxSourceBytes
  distinct : (sent.map SentTest.id).Nodup

/-- A test that is sent is read unless its identifier came before. -/
theorem python_readTest {t : SentTest F} (ht : t.Valid) (seen : List Str) (index : Nat) :
    (t.id ∈ seen ∧ ∃ e, PythonRunner.readTest seen index t.toJson = .error e)
      ∨ (t.id ∉ seen ∧ ∃ test, PythonRunner.readTest seen index t.toJson = .ok test
        ∧ test.id = t.id) := by
  unfold PythonRunner.readTest SentTest.toJson
  dsimp only
  rw [← SentTest.members, show Json.get "id" t.members = .str t.id from rfl]
  dsimp only
  rw [dif_neg ht.id_ne]
  by_cases hseen : t.id ∈ seen
  · rw [if_pos hseen]
    exact .inl ⟨hseen, _, rfl⟩
  · obtain ⟨v, hv⟩ := readVisibility_members ht
      ("Test input " ++ (t.id ++ (" has invalid visibility." : Str)))
    rw [if_neg hseen, hv, ok_bind, if_neg (members_noExpected t)]
    exact .inr ⟨hseen, _, rfl, rfl⟩

/-- The loop over the tests passes when no identifier comes twice. -/
theorem python_readTests {sent : List (SentTest F)} (hvalid : ∀ t ∈ sent, t.Valid)
    (seen : List Str) (index : Nat) :
    (∃ tests, PythonRunner.readTests seen index (sent.map SentTest.toJson) = .ok tests)
      ↔ (sent.map SentTest.id).Nodup ∧ ∀ t ∈ sent, t.id ∉ seen := by
  induction sent generalizing seen index with
  | nil => exact iff_of_true ⟨[], rfl⟩ ⟨List.nodup_nil, nofun⟩
  | cons t rest ih =>
      obtain ⟨ht, hrest⟩ := List.forall_mem_cons.mp hvalid
      rw [fresh_cons, List.map_cons, PythonRunner.readTests]
      rcases python_readTest ht seen index with ⟨hseen, e, he⟩ | ⟨hseen, test, htest, hid⟩
      · rw [he, error_bind]
        exact iff_of_false nofun fun h => h.1 hseen
      · rw [and_iff_right hseen, ← ih hrest (t.id :: seen) (index + 1), htest, ok_bind, hid]
        cases PythonRunner.readTests (t.id :: seen) (index + 1) (rest.map SentTest.toJson) with
        | error e => exact iff_of_false nofun nofun
        | ok tests => exact iff_of_true ⟨_, rfl⟩ ⟨_, rfl⟩

theorem python_readTest_sent {t : SentTest F} {seen : List Str} {index : Nat}
    {test : PythonRunner.PythonTest F}
    (h : PythonRunner.readTest seen index t.toJson = .ok test) : test.sent = t := by
  unfold PythonRunner.readTest SentTest.toJson at h
  dsimp only at h
  rw [← SentTest.members, show Json.get "id" t.members = .str t.id from rfl] at h
  simp only [if_neg (members_noExpected t)] at h
  split_ifs at h
  obtain ⟨⟨visibility, hvisibility⟩, hread, h⟩ := bind_eq_ok h
  cases h
  unfold SqlRunner.readVisibility at hread
  rw [show (Json.lookup "visibility" t.members).getD (.str "hidden") = .str t.visibility from rfl]
    at hread
  dsimp only at hread
  split_ifs at hread
  cases hread
  rfl

/-- The tests that are read are those that were sent. -/
theorem python_readTests_sent {sent : List (SentTest F)} {seen : List Str} {index : Nat}
    {tests : List (PythonRunner.PythonTest F)}
    (h : PythonRunner.readTests seen index (sent.map SentTest.toJson) = .ok tests) :
    tests.map PythonRunner.PythonTest.sent = sent := by
  induction sent generalizing seen index tests with
  | nil =>
      cases h
      rfl
  | cons t rest ih =>
      rw [List.map_cons, PythonRunner.readTests] at h
      obtain ⟨test, htest, h⟩ := bind_eq_ok h
      obtain ⟨tests', htests, h⟩ := bind_eq_ok h
      cases h
      rw [List.map_cons, ih htests, python_readTest_sent htest]

/-- The checks of the Python runner on what `sandbox_request` built. -/
theorem python_readRequest {package : DispatchPackage F} {entrypoint : Str}
    {sent : List (SentTest F)} (hsource : package.sourceCode ≠ [])
    (hencodable : isEncodable package.sourceCode = true) (hattempt : 1 ≤ package.attemptCount)
    (hentry : Runtime.isIdentifier F entrypoint = true) (hne : sent ≠ [])
    (hvalid : ∀ t ∈ sent, t.Valid) :
    (∃ request, PythonRunner.readRequest (pythonRequest package entrypoint sent)
        package.executionId = .ok request)
      ↔ utf8Len package.sourceCode ≤ PythonRunner.maxSourceBytes
        ∧ sent.length ≤ PythonRunner.maxTests ∧ (sent.map SentTest.id).Nodup := by
  have hid : (Json.get "execution_id" (pythonRequest package entrypoint sent)).eqStr
      package.executionId = true := Json.eqStr_iff.mpr rfl
  have hversion : (Json.get "schema_version" (pythonRequest package entrypoint sent)).eqInt 1
      = true := rfl
  have htests : sent.map SentTest.toJson ≠ [] := fun h => hne (List.map_eq_nil_iff.mp h)
  have hread := python_readTests hvalid [] 0
  rw [and_iff_left fun _ _ => List.not_mem_nil] at hread
  have hattempt' : PythonRunner.readAttempt (F := F) (.int package.attemptCount)
      = .ok package.attemptCount := if_neg (Int.not_lt.mpr hattempt)
  have hentry' : PythonRunner.readEntrypoint (F := F) (.str entrypoint) = .ok entrypoint :=
    if_pos hentry
  unfold PythonRunner.readRequest
  rw [hversion, hid, if_neg (by decide), if_neg (by decide),
    show Json.get "attempt" (pythonRequest package entrypoint sent) = .int package.attemptCount
      from rfl, hattempt', ok_bind,
    show Json.get "source_code" (pythonRequest package entrypoint sent) = .str package.sourceCode
      from rfl, PythonRunner.readSource, if_neg hsource, if_neg (by rw [hencodable]; decide)]
  by_cases hbytes : utf8Len package.sourceCode ≤ PythonRunner.maxSourceBytes
  · rw [if_neg (Nat.not_lt.mpr hbytes), ok_bind,
      show (Json.lookup "entrypoint" (pythonRequest package entrypoint sent)).getD (.str "solve")
        = .str entrypoint from rfl, hentry', ok_bind,
      show (Json.lookup "invocation_mode" (pythonRequest package entrypoint sent)).getD
        (.str "auto") = .str "auto" from rfl,
      show PythonRunner.readMode (F := F) (.str "auto") = .ok "auto" from rfl, ok_bind,
      show Json.get "tests" (pythonRequest package entrypoint sent)
        = .arr (sent.map SentTest.toJson) from rfl]
    dsimp only
    rw [if_neg htests, List.length_map, and_iff_right hbytes]
    by_cases hcount : sent.length ≤ PythonRunner.maxTests
    · rw [if_neg (Nat.not_lt.mpr hcount), and_iff_right hcount, ← hread]
      cases PythonRunner.readTests [] 0 (sent.map SentTest.toJson) with
      | error e => exact iff_of_false nofun nofun
      | ok tests => exact iff_of_true ⟨_, rfl⟩ ⟨_, rfl⟩
    · rw [if_pos (Nat.not_le.mp hcount)]
      exact iff_of_false nofun fun h => hcount h.1
  · rw [if_pos (Nat.not_le.mp hbytes), error_bind]
    exact iff_of_false nofun fun h => hbytes h.1

/-- What a request that passes the checks has of what was sent. -/
theorem python_readRequest_ok {package : DispatchPackage F} {entrypoint executionId : Str}
    {sent : List (SentTest F)} {request : PythonRunner.Request F}
    (h : PythonRunner.readRequest (pythonRequest package entrypoint sent) executionId
      = .ok request) :
    request.invocationMode = "auto" ∧ request.tests.map PythonRunner.PythonTest.sent = sent := by
  unfold PythonRunner.readRequest at h
  split_ifs at h
  obtain ⟨attempt, -, h⟩ := bind_eq_ok h
  obtain ⟨source, -, h⟩ := bind_eq_ok h
  obtain ⟨name, -, h⟩ := bind_eq_ok h
  obtain ⟨mode, hmode, h⟩ := bind_eq_ok h
  rw [show Json.get "tests" (pythonRequest package entrypoint sent)
      = .arr (sent.map SentTest.toJson) from rfl] at h
  dsimp only at h
  split_ifs at h
  obtain ⟨tests, htests, h⟩ := bind_eq_ok h
  cases h
  cases hmode
  exact ⟨rfl, python_readTests_sent htests⟩

end Python

/-! ## The SQL runner -/

/-- The text can be encoded, in so many bytes at most. -/
def FitsBytes (s : Str) (maxBytes : Nat) : Prop := isEncodable s = true ∧ utf8Len s ≤ maxBytes

/-- `None`, or a text that fits. -/
def OptionalText (maxBytes : Nat) : Json F → Prop
  | .null => True
  | .str s => FitsBytes s maxBytes
  | _ => False

/-- A test input that is a fixture: nothing, a set-up step, or an object
whose fixture members are texts. -/
def FixtureInput : Json F → Prop
  | .null => True
  | .str s => FitsBytes s SqlRunner.maxSetupBytes
  | .obj value => OptionalText SqlRunner.maxSetupBytes (SqlRunner.schemaValue value)
      ∧ (SqlRunner.seedPresent value = true →
        OptionalText SqlRunner.maxSetupBytes (SqlRunner.seedValue value))
      ∧ OptionalText SqlRunner.maxSetupBytes ((Json.lookup "setup_sql" value).getD (.str []))
  | _ => False

theorem optionalString_isOk {value : Json F} {label : Str} {maxBytes : Nat} :
    (∃ s, SqlRunner.optionalString value label maxBytes = .ok s)
      ↔ OptionalText maxBytes value := by
  cases value with
  | null => exact iff_of_true ⟨_, rfl⟩ trivial
  | str s =>
      rw [SqlRunner.optionalString, OptionalText, FitsBytes]
      cases hencodable : isEncodable s with
      | false => exact iff_of_false error_not_ok fun h => absurd h.1 Bool.false_ne_true
      | true =>
          rw [if_neg (by decide), and_iff_right rfl]
          by_cases hbytes : utf8Len s ≤ maxBytes
          · rw [if_neg (Nat.not_lt.mpr hbytes)]
            exact iff_of_true ⟨_, rfl⟩ hbytes
          · rw [if_pos (Nat.not_le.mp hbytes)]
            exact iff_of_false error_not_ok hbytes
  | _ => exact iff_of_false error_not_ok id

theorem map_isOk {ε α β : Type} {f : α → β} {x : Except ε α} :
    (∃ b, x.map f = .ok b) ↔ ∃ a, x = .ok a := by
  cases x with
  | error e => exact iff_of_false nofun nofun
  | ok a => exact iff_of_true ⟨_, rfl⟩ ⟨_, rfl⟩

/-- A first step whose answer does not decide how the rest ends. -/
theorem bind_isOk {ε α β : Type} {x : Except ε α} {f : α → Except ε β} {P : Prop}
    (h : ∀ a, x = .ok a → ((∃ b, f a = .ok b) ↔ P)) :
    (∃ b, (x >>= f) = .ok b) ↔ (∃ a, x = .ok a) ∧ P := by
  cases x with
  | error e => exact iff_of_false nofun fun h => nomatch h.1
  | ok a => exact (h a rfl).trans (and_iff_right ⟨a, rfl⟩).symm

theorem schemaOverride_isOk {value : Json F} :
    (∃ o, SqlRunner.schemaOverride value = .ok o)
      ↔ OptionalText SqlRunner.maxSetupBytes value := by
  rw [SqlRunner.schemaOverride.eq_def]
  split
  · exact iff_of_true ⟨_, rfl⟩ trivial
  · exact map_isOk.trans optionalString_isOk

theorem seedOverride_isOk {value : Dict F} :
    (∃ o, SqlRunner.seedOverride value = .ok o) ↔ (SqlRunner.seedPresent value = true →
      OptionalText SqlRunner.maxSetupBytes (SqlRunner.seedValue value)) := by
  rw [SqlRunner.seedOverride]
  cases SqlRunner.seedPresent value with
  | false => exact iff_of_true ⟨_, rfl⟩ fun h => absurd h Bool.false_ne_true
  | true =>
      rw [if_pos rfl, forall_prop_of_true rfl]
      exact map_isOk.trans optionalString_isOk

theorem testFixture_isOk {input : Json F} :
    (∃ fixture, SqlRunner.testFixture input = .ok fixture) ↔ FixtureInput input := by
  cases input with
  | null => exact iff_of_true ⟨_, rfl⟩ trivial
  | str s =>
      rw [SqlRunner.testFixture, bind_isOk fun _ _ => iff_of_true ⟨_, rfl⟩ trivial, and_true]
      exact optionalString_isOk
  | obj value =>
      rw [SqlRunner.testFixture, FixtureInput, ← schemaOverride_isOk, ← seedOverride_isOk]
      refine bind_isOk fun schema _ => bind_isOk fun seed _ => ?_
      rw [bind_isOk fun _ _ => iff_of_true ⟨_, rfl⟩ trivial, and_true]
      exact optionalString_isOk
  | _ => exact iff_of_false error_not_ok id

/-- What the SQL runner asks of a request beyond what the API does. -/
structure SqlAdmissible [Runtime F] (package : DispatchPackage F) (schema seed : Str)
    (timeout : Int) (sent : List (SentTest F)) : Prop where
  printable : (Json.obj (sqlRequest package schema seed timeout sent)).Printable
  size : utf8Len (Json.obj (sqlRequest package schema seed timeout sent)).encode
    ≤ SqlRunner.maxRequestBytes
  attempt : package.attemptCount ≤ 100
  nonblank : isBlank package.sourceCode = false
  source : utf8Len package.sourceCode ≤ SqlRunner.maxSourceBytes
  schema : FitsBytes schema SqlRunner.maxSetupBytes
  seed : FitsBytes seed SqlRunner.maxSetupBytes
  count : sent.length ≤ SqlRunner.maxTests
  distinct : (sent.map SentTest.id).Nodup
  fixtures : ∀ t ∈ sent, FixtureInput t.input

theorem sql_readTest {t : SentTest F} (ht : t.Valid) (seen : List Str) :
    (¬(t.id ∉ seen ∧ FixtureInput t.input) ∧ ∃ e, SqlRunner.readTest seen t.toJson = .error e)
      ∨ ((t.id ∉ seen ∧ FixtureInput t.input)
        ∧ ∃ test, SqlRunner.readTest seen t.toJson = .ok test ∧ test.id = t.id) := by
  unfold SqlRunner.readTest SentTest.toJson
  dsimp only
  rw [← SentTest.members, show Json.get "id" t.members = .str t.id from rfl]
  dsimp only
  by_cases hseen : t.id ∈ seen
  · rw [dif_neg fun h => h.2 hseen]
    exact .inl ⟨fun h => h.1 hseen, _, rfl⟩
  · obtain ⟨v, hv⟩ := readVisibility_members ht "SQL test visibility is invalid."
    rw [dif_pos ⟨ht.id_ne, hseen⟩, hv, ok_bind, if_neg (members_noExpected t),
      show Json.get "input" t.members = t.input from rfl, and_iff_right hseen, ← testFixture_isOk]
    cases SqlRunner.testFixture t.input with
    | error e => exact .inl ⟨nofun, e, rfl⟩
    | ok fixture => exact .inr ⟨⟨fixture, rfl⟩, _, rfl, rfl⟩

/-- The loop passes when, besides, every input is a fixture. -/
theorem sql_readTests {sent : List (SentTest F)} (hvalid : ∀ t ∈ sent, t.Valid)
    (seen : List Str) :
    (∃ tests, SqlRunner.readTests seen (sent.map SentTest.toJson) = .ok tests)
      ↔ ((sent.map SentTest.id).Nodup ∧ ∀ t ∈ sent, t.id ∉ seen)
        ∧ ∀ t ∈ sent, FixtureInput t.input := by
  induction sent generalizing seen with
  | nil =>
      exact iff_of_true ⟨[], rfl⟩
        ⟨⟨List.nodup_nil, List.forall_mem_nil _⟩, List.forall_mem_nil _⟩
  | cons t rest ih =>
      obtain ⟨ht, hrest⟩ := List.forall_mem_cons.mp hvalid
      rw [fresh_cons, List.forall_mem_cons, List.map_cons, SqlRunner.readTests]
      rcases sql_readTest ht seen with ⟨hbad, e, he⟩ | ⟨hgood, test, htest, hid⟩
      · rw [he, error_bind]
        exact iff_of_false error_not_ok fun h => hbad ⟨h.1.1, h.2.1⟩
      · rw [and_iff_right hgood.1, and_iff_right hgood.2, ← ih hrest (t.id :: seen), htest,
          ok_bind, hid]
        cases SqlRunner.readTests (t.id :: seen) (rest.map SentTest.toJson) with
        | error e => exact iff_of_false error_not_ok error_not_ok
        | ok tests => exact iff_of_true ⟨_, rfl⟩ ⟨_, rfl⟩

theorem positiveInt_isOk {n maximum : Int} {label : Str} :
    (∃ m, SqlRunner.positiveInt (.int n : Json F) label maximum = .ok m)
      ↔ 1 ≤ n ∧ n ≤ maximum := by
  rw [SqlRunner.positiveInt]
  by_cases h : n < 1 ∨ n > maximum
  · rw [if_pos h]
    exact iff_of_false nofun (by omega)
  · rw [if_neg h]
    exact iff_of_true ⟨_, rfl⟩ (by omega)

theorem requiredString_isOk {s label : Str} {maxBytes : Nat} :
    (∃ t, SqlRunner.requiredString (.str s : Json F) label maxBytes = .ok t)
      ↔ isBlank s = false ∧ FitsBytes s maxBytes := by
  rw [SqlRunner.requiredString, FitsBytes]
  cases hblank : isBlank s with
  | true => exact iff_of_false error_not_ok fun h => Bool.noConfusion h.1
  | false =>
      rw [if_neg (by decide), and_iff_right rfl]
      exact @optionalString_isOk F (.str s) label _

/-- The checks of the SQL runner on what `sandbox_request` built. -/
theorem sql_readRequest [Runtime F] {package : DispatchPackage F} {schema : Str} (seed : Str)
    {timeout : Int} {sent : List (SentTest F)} (hencodable : isEncodable package.sourceCode = true)
    (hattempt : 1 ≤ package.attemptCount) (hschema : isBlank schema = false)
    (htimeout : 100 ≤ timeout ∧ timeout ≤ 30000) (hne : sent ≠ [])
    (hvalid : ∀ t ∈ sent, t.Valid) :
    (∃ request, SqlRunner.readRequest (sqlRequest package schema seed timeout sent)
        package.executionId = .ok request)
      ↔ package.attemptCount ≤ 100
        ∧ (isBlank package.sourceCode = false
          ∧ utf8Len package.sourceCode ≤ SqlRunner.maxSourceBytes)
        ∧ FitsBytes schema SqlRunner.maxSetupBytes ∧ FitsBytes seed SqlRunner.maxSetupBytes
        ∧ sent.length ≤ SqlRunner.maxTests ∧ (sent.map SentTest.id).Nodup
        ∧ ∀ t ∈ sent, FixtureInput t.input := by
  have hid : (Json.get "execution_id" (sqlRequest package schema seed timeout sent)).eqStr
      package.executionId = true := Json.eqStr_iff.mpr rfl
  have hversion : (Json.get "schema_version" (sqlRequest package schema seed timeout sent)).eqInt 1
      = true := rfl
  have htests : sent.map SentTest.toJson ≠ [] := fun h => hne (List.map_eq_nil_iff.mp h)
  have hread := sql_readTests hvalid []
  rw [and_iff_left fun _ _ => List.not_mem_nil] at hread
  unfold SqlRunner.readRequest
  rw [hversion, hid, if_neg (by decide), if_neg (by decide),
    show Json.get "attempt" (sqlRequest package schema seed timeout sent)
      = .int package.attemptCount from rfl,
    show Json.get "source_code" (sqlRequest package schema seed timeout sent)
      = .str package.sourceCode from rfl,
    show Json.get "schema_sql" (sqlRequest package schema seed timeout sent) = .str schema from rfl,
    show Json.get "seed_sql" (sqlRequest package schema seed timeout sent) = .str seed from rfl,
    show Json.get "statement_timeout_ms" (sqlRequest package schema seed timeout sent)
      = .int timeout from rfl,
    show Json.get "tests" (sqlRequest package schema seed timeout sent)
      = .arr (sent.map SentTest.toJson) from rfl]
  have htimeout' : SqlRunner.positiveInt (F := F) (.int timeout) "Statement timeout"
      SqlRunner.maxStatementTimeoutMs = .ok timeout :=
    if_neg (not_or.mpr ⟨by omega, Int.not_lt.mpr htimeout.2⟩)
  -- one equivalence for each check, in the runner's order
  refine (bind_isOk fun attempt _ => bind_isOk fun source _ => bind_isOk fun schemaSql _ =>
    bind_isOk (P := sent.length ≤ SqlRunner.maxTests ∧ (sent.map SentTest.id).Nodup
      ∧ ∀ t ∈ sent, FixtureInput t.input) fun seedSql _ => ?_).trans ?_
  · have hmin : ¬timeout < SqlRunner.minStatementTimeoutMs := Int.not_lt.mpr htimeout.1
    rw [htimeout', ok_bind, if_neg hmin]
    dsimp only
    rw [List.length_map]
    by_cases hcount : sent.length ≤ SqlRunner.maxTests
    · rw [if_neg (not_or.mpr ⟨htests, Nat.not_lt.mpr hcount⟩), and_iff_right hcount, ← hread]
      rw [bind_isOk fun _ _ => iff_of_true ⟨_, rfl⟩ trivial, and_true]
    · rw [if_pos (.inr (Nat.not_le.mp hcount))]
      exact iff_of_false nofun fun h => hcount h.1
  · rw [positiveInt_isOk, and_iff_right hattempt, requiredString_isOk, FitsBytes,
      and_iff_right hencodable, requiredString_isOk, and_iff_right hschema]
    exact and_congr_right fun _ => and_congr_right fun _ => and_congr_right fun _ =>
      and_congr_left fun _ => optionalString_isOk

/-! ## Queued executions -/

section Queued

variable [Runtime F]

/-- A claimed execution that the API queued for the source of the request
and a question with this content. -/
structure QueuedFor (functionNames : FunctionNames) (structured : Json F)
    (runtime : SubmissionRuntime) (executionType : ExecutionType) (request : PracticeRunRequest)
    (package : DispatchPackage F) : Prop where
  payload : runtimeExecutionConfig functionNames structured runtime
    (decide (executionType = .run)) = .ok package.inputPayload
  source : package.sourceCode = request.sourceCode
  language : package.language = runtimeLanguage runtime
  claimed : 1 ≤ package.attemptCount

/-- What `_queue_execution` inserts is such an execution, once it is claimed. -/
theorem queuedFor_of_queueExecution {env : Environment} {principal : Principal} {q : QueueRequest}
    {request : PracticeRunRequest} {content : Json F} {executionId : Uuid} {clock : Clock}
    {db db' : Db F} {accepted : ExecutionAccepted} (hsource : q.sourceCode = request.sourceCode)
    (hnone : findByIdempotency principal q.idempotencyKey db = none)
    (h : queueExecution env principal q content executionId clock db = .ok (db', accepted)) :
    ∃ queued : Execution F, db'.executions = db.executions ++ [queued]
      ∧ ∀ e : Execution F, e.row.toRequestColumns = queued.row.toRequestColumns →
        e.payload = queued.payload → 1 ≤ e.row.attemptCount →
          QueuedFor env.functionNames content q.runtime q.executionType request
            e.loadDispatchPackage := by
  unfold queueExecution at h
  obtain ⟨-, -, h⟩ := bind_eq_ok h
  obtain ⟨inputPayload, hconfig, h⟩ := bind_eq_ok h
  obtain ⟨-, -, hexecutions, -⟩ := createQueued_ok hnone h
  refine ⟨_, hexecutions, ?_⟩
  intro e hcolumns hpayload hclaimed
  refine ⟨?_, ?_, ?_, hclaimed⟩
  · show _ = Except.ok e.payload.inputPayload
    rw [hpayload]
    exact hconfig
  · show e.payload.sourceCode = _
    rw [hpayload]
    exact hsource
  · exact congrArg RequestColumns.language hcolumns

/-- The request of `sandbox_request` is written, and the runner of its
language takes it. -/
def RequestAccepted (package : DispatchPackage F) : Prop :=
  ∃ payload, sandboxRequest package = .ok payload ∧ (Json.obj payload).Printable
    ∧ if package.language = "python" then
        ∃ request, PythonRunner.parseRequest (F := F) (Json.obj payload).encode
          package.executionId = .ok request
      else
        ∃ request, SqlRunner.parseRequest (F := F) (Json.obj payload).encode
          package.executionId = .ok request

/-- What the runner of the language asks of the queued payload. -/
def Admissible (package : DispatchPackage F) : SubmissionRuntime → Prop
  | .python => ∃ entrypoint mode sent, package.inputPayload = pythonPayload entrypoint mode sent
      ∧ PythonAdmissible package entrypoint sent
  | .postgresql => ∃ schema seed timeout sent,
      package.inputPayload = sqlPayload schema seed timeout sent
        ∧ SqlAdmissible package schema seed timeout sent

theorem entrypoint_identifier {functionNames : FunctionNames} {structured : Json F} {name : Str}
    (h : entrypoint functionNames structured = .ok name) : Runtime.isIdentifier F name = true := by
  unfold entrypoint at h
  dsimp only at h
  generalize (if (Json.get "entrypoint" (questionMode structured)).truthy = true
    then Json.get "entrypoint" (questionMode structured)
    else Json.get "function_name" (questionMode structured)) = explicit at h
  split at h
  · obtain ⟨name', -, h⟩ := bind_eq_ok h
    split_ifs at h with hident
    cases h
    exact hident
  · rw [ok_bind] at h
    split_ifs at h with hident
    cases h
    exact hident

theorem pythonConfig_ok {functionNames : FunctionNames} {structured : Json F} {publicOnly : Bool}
    {payload : Dict F}
    (h : runtimeExecutionConfig functionNames structured .python publicOnly = .ok payload) :
    ∃ name mode sent, Runtime.isIdentifier F name = true ∧ mode ∈ invocationModes
      ∧ candidateTests structured publicOnly = .ok sent ∧ payload = pythonPayload name mode sent := by
  obtain ⟨name, hname, h⟩ := bind_eq_ok h
  obtain ⟨mode, hmode, h⟩ := bind_eq_ok h
  obtain ⟨sent, hsent, h⟩ := bind_eq_ok h
  cases h
  refine ⟨name, mode, sent, entrypoint_identifier hname, ?_, hsent, rfl⟩
  unfold invocationMode at hmode
  dsimp only at hmode
  split_ifs at hmode with hmem
  cases hmode
  exact hmem

/-- What `sandbox_request` builds of a queued Python payload. -/
theorem sandboxRequest_python {package : DispatchPackage F} {name mode : Str}
    {sent : List (SentTest F)} (hempty : Runtime.isIdentifier F [] = false)
    (hname : Runtime.isIdentifier F name = true) (hlanguage : package.language = "python")
    (hclaimed : 1 ≤ package.attemptCount)
    (hpayload : package.inputPayload = pythonPayload name mode sent) :
    sandboxRequest package = .ok (pythonRequest package name sent) := by
  have hentry : strOr (Json.get "entrypoint" (pythonPayload name mode sent)) "solve" = name := by
    show (if (Json.str name : Json F).truthy then name else _) = name
    cases name with
    | nil =>
        rw [hempty] at hname
        cases hname
    | cons c rest => rfl
  unfold sandboxRequest
  rw [hpayload, show Json.get "tests" (pythonPayload name mode sent)
      = .arr (sent.map SentTest.toJson) from rfl, objectList, ok_bind, sanitizeTests_sent, ok_bind,
    if_neg (Int.not_lt.mpr hclaimed)]
  dsimp only
  rw [if_pos hlanguage, hentry]
  rfl

/-- What `sandbox_request` builds of a queued SQL payload. -/
theorem sandboxRequest_sql {package : DispatchPackage F} {schema seed : Str} {timeout : Int}
    {sent : List (SentTest F)} (hschema : isBlank schema = false)
    (hlanguage : package.language = "sql") (hclaimed : 1 ≤ package.attemptCount)
    (hpayload : package.inputPayload = sqlPayload schema seed timeout sent) :
    sandboxRequest package = .ok (sqlRequest package schema seed timeout sent) := by
  unfold sandboxRequest
  rw [hpayload, show Json.get "tests" (sqlPayload schema seed timeout sent)
      = .arr (sent.map SentTest.toJson) from rfl, objectList, ok_bind, sanitizeTests_sent, ok_bind,
    if_neg (Int.not_lt.mpr hclaimed)]
  dsimp only
  rw [if_neg (by rw [hlanguage]; decide), if_pos hlanguage,
    show Json.get "schema_sql" (sqlPayload schema seed timeout sent) = .str schema from rfl]
  dsimp only
  rw [if_neg (by rw [hschema]; decide)]
  rfl

theorem isEncodable_of_scalar {s : Str} (h : IsScalar s) : isEncodable s = true := by
  refine List.all_eq_true.mpr fun c hc => ?_
  rw [(h c hc).2]
  rfl

theorem QueuedFor.source_ne {functionNames : FunctionNames} {structured : Json F}
    {runtime : SubmissionRuntime} {executionType : ExecutionType} {request : PracticeRunRequest}
    {package : DispatchPackage F}
    (h : QueuedFor functionNames structured runtime executionType request package) :
    package.sourceCode ≠ [] := by
  intro hnil
  have hlength := request.source_length.1
  rw [← h.source, hnil] at hlength
  cases hlength

theorem QueuedFor.source_encodable {functionNames : FunctionNames} {structured : Json F}
    {runtime : SubmissionRuntime} {executionType : ExecutionType} {request : PracticeRunRequest}
    {package : DispatchPackage F}
    (h : QueuedFor functionNames structured runtime executionType request package) :
    isEncodable package.sourceCode = true :=
  isEncodable_of_scalar (h.source ▸ request.source_scalar)

end Queued

variable [FloatArith F]

/-- The grader's limit on the tests bounds those that are sent. -/
theorem sent_length_le {structured : Json F} {publicOnly : Bool} {sent : List (SentTest F)}
    {expected : List (ExpectedTest F)} (hsent : candidateTests structured publicOnly = .ok sent)
    (hload : loadExpectedTests structured = .ok expected) : sent.length ≤ maxResultTests := by
  obtain ⟨hne, hkept, content, mode, rfl, hmode, htests⟩ := candidateTests_ok hsent
  have hraws : rawTests (.obj content) ≠ [] := by
    intro h
    rw [h] at hkept
    cases publicOnly <;> exact hne hkept
  obtain ⟨hsize, -⟩ := (loadExpectedTests_eq_ok hmode htests hraws).mp hload
  refine le_trans ?_ hsize
  rw [hkept, List.length_mapIdx]
  unfold keptTests
  split_ifs
  · exact (List.length_filter_le ..).trans (List.length_filterMap_le ..)
  · exact List.length_filterMap_le ..

theorem python_accepted_iff {functionNames : FunctionNames} {structured : Json F}
    {executionType : ExecutionType} {request : PracticeRunRequest} {package : DispatchPackage F}
    {expected : List (ExpectedTest F)} (hempty : Runtime.isIdentifier F [] = false)
    (hkeys : structured.DistinctKeys)
    (hqueued : QueuedFor functionNames structured .python executionType request package)
    (hload : loadExpectedTests structured = .ok expected) :
    RequestAccepted package ↔ Admissible package .python := by
  obtain ⟨name, mode, sent, hname, -, hsent, hpayload⟩ := pythonConfig_ok hqueued.payload
  have hrequest := sandboxRequest_python hempty hname hqueued.language hqueued.claimed hpayload
  have hread := python_readRequest hqueued.source_ne hqueued.source_encodable hqueued.claimed hname
    (candidateTests_ok hsent).1 (candidateTests_valid hsent)
  have hparse (hprintable : (Json.obj (pythonRequest package name sent)).Printable) :
      PythonRunner.parseRequest (Json.obj (pythonRequest package name sent)).encode
          package.executionId
        = PythonRunner.readRequest (pythonRequest package name sent) package.executionId := by
    unfold PythonRunner.parseRequest
    rw [Json.loads_encode_of_distinct hprintable
      (distinctKeys_pythonRequest (distinctKeys_sent hkeys hsent))]
  have hlanguage : package.language = "python" := hqueued.language
  simp only [RequestAccepted, if_pos hlanguage]
  constructor
  · rintro ⟨payload, hp, hprintable, request', haccepted⟩
    obtain rfl := Except.ok.inj (hrequest.symm.trans hp)
    rw [hparse hprintable] at haccepted
    obtain ⟨hbytes, -, hdistinct⟩ := hread.mp ⟨request', haccepted⟩
    exact ⟨name, mode, sent, hpayload, hprintable, hbytes, hdistinct⟩
  · rintro ⟨name', mode', sent', hpayload', h⟩
    obtain ⟨rfl, -, rfl⟩ := pythonPayload_inj (hpayload.symm.trans hpayload')
    refine ⟨_, hrequest, h.printable, ?_⟩
    rw [hparse h.printable]
    exact hread.mpr ⟨h.source, sent_length_le hsent hload, h.distinct⟩

theorem sql_accepted_iff {functionNames : FunctionNames} {structured : Json F}
    {executionType : ExecutionType} {request : PracticeRunRequest} {package : DispatchPackage F}
    (hkeys : structured.DistinctKeys)
    (hqueued : QueuedFor functionNames structured .postgresql executionType request package) :
    RequestAccepted package ↔ Admissible package .postgresql := by
  obtain ⟨schema, seed, timeout, hschema, htimeout, sent, hsent, hpayload⟩ :=
    sqlInputPayload_ok hqueued.payload
  have hrequest := sandboxRequest_sql hschema hqueued.language hqueued.claimed hpayload
  have hencodable := hqueued.source_encodable
  have hread := sql_readRequest seed hencodable hqueued.claimed hschema htimeout
    (candidateTests_ok hsent).1 (candidateTests_valid hsent)
  have hparse (hprintable : (Json.obj (sqlRequest package schema seed timeout sent)).Printable)
      (hsize : utf8Len (Json.obj (sqlRequest package schema seed timeout sent)).encode
        ≤ SqlRunner.maxRequestBytes) :
      SqlRunner.parseRequest (F := F)
          (Json.obj (sqlRequest package schema seed timeout sent)).encode package.executionId
        = SqlRunner.readRequest (sqlRequest package schema seed timeout sent)
          package.executionId := by
    unfold SqlRunner.parseRequest
    rw [if_neg (Nat.not_lt.mpr hsize), Json.loads_encode_of_distinct hprintable
      (distinctKeys_sqlRequest (distinctKeys_sent hkeys hsent))]
  have hlanguage : package.language ≠ "python" := by
    rw [hqueued.language]
    decide
  simp only [RequestAccepted, if_neg hlanguage]
  constructor
  · rintro ⟨payload, hp, hprintable, request', haccepted⟩
    obtain rfl := Except.ok.inj (hrequest.symm.trans hp)
    have hsize : utf8Len (Json.obj (sqlRequest package schema seed timeout sent)).encode
        ≤ SqlRunner.maxRequestBytes := by
      by_contra hlarge
      unfold SqlRunner.parseRequest at haccepted
      rw [if_pos (Nat.not_le.mp hlarge)] at haccepted
      cases haccepted
    rw [hparse hprintable hsize] at haccepted
    obtain ⟨hattempt, hsource, hschema', hseed, hcount, hdistinct, hfixtures⟩ :=
      hread.mp ⟨request', haccepted⟩
    exact ⟨schema, seed, timeout, sent, hpayload, hprintable, hsize, hattempt, hsource.1, hsource.2,
      hschema', hseed, hcount, hdistinct, hfixtures⟩
  · rintro ⟨schema', seed', timeout', sent', hpayload', h⟩
    obtain ⟨rfl, rfl, rfl, rfl⟩ := sqlPayload_inj (hpayload.symm.trans hpayload')
    refine ⟨_, hrequest, h.printable, ?_⟩
    rw [hparse h.printable h.size]
    exact hread.mpr ⟨h.attempt, ⟨h.nonblank, h.source⟩, h.schema, h.seed, h.count, h.distinct,
      h.fixtures⟩

/-- A queued execution whose expected tests load passes its runner's checks
exactly when it is `Admissible`: the API bounds neither the bytes of the
source nor what the SQL runner bounds. -/
theorem sandbox_request_accepted_iff {functionNames : FunctionNames} {structured : Json F}
    {runtime : SubmissionRuntime} {executionType : ExecutionType} {request : PracticeRunRequest}
    {package : DispatchPackage F} {expected : List (ExpectedTest F)}
    (hempty : Runtime.isIdentifier F [] = false) (hkeys : structured.DistinctKeys)
    (hqueued : QueuedFor functionNames structured runtime executionType request package)
    (hload : loadExpectedTests structured = .ok expected) :
    RequestAccepted package ↔ Admissible package runtime := by
  cases runtime with
  | python => exact python_accepted_iff hempty hkeys hqueued hload
  | postgresql => exact sql_accepted_iff hkeys hqueued

/-! ## Two questions -/

def echoRunRequest (source : Str) (hlength : 1 ≤ source.length ∧ source.length ≤ 100000)
    (hscalar : IsScalar source) : PracticeRunRequest where
  sessionId := "session-1"
  sourceCode := source
  source_length := hlength
  session_scalar := isScalar_ofString "session-1"
  source_scalar := hscalar

/-- A claimed execution of a question with one public test. -/
def claimedPackage (language source : Str) (inputPayload : Dict NanoFloat) :
    DispatchPackage NanoFloat where
  executionId := "execution-1"
  organizationId := none
  candidateId := "candidate-1"
  practiceSessionId := "session-1"
  submissionId := none
  questionVersionId := "version-1"
  executionType := .run
  runtime := []
  language := language
  sourceCode := source
  inputPayload := inputPayload
  limits := []
  traceId := "trace-1"
  attemptCount := 1

def echoPackage : DispatchPackage NanoFloat := claimedPackage "python" "echo = print" echoPayload

theorem echoPackage_queued :
    QueuedFor (fun _ => none) (.obj (echoContent [echoTest "public"])) .python .run
      (echoRunRequest "echo = print" (by decide) (by decide)) echoPackage :=
  ⟨rfl, rfl, rfl, le_refl 1⟩

theorem sandbox_request_accepted_iff_echo : RequestAccepted echoPackage := by
  have hkeys : (Json.obj (echoContent [echoTest "public"])).DistinctKeys :=
    ⟨by decide, trivial, ⟨by decide, trivial, ⟨⟨by decide, trivial, ⟨by decide, trivial, trivial⟩,
      trivial, trivial⟩, trivial⟩, trivial⟩, trivial⟩
  have hdigits : ∀ n : Int, digitCount n ≤ 1 → (Json.int n : Json NanoFloat).DigitsFit :=
    fun n hn => hn.trans (by decide)
  refine (sandbox_request_accepted_iff rfl hkeys echoPackage_queued rfl).mpr
    ⟨"echo", "auto", [sentTest 0 (echoTest "public")], rfl, ⟨?_, by decide⟩, by decide, by decide⟩
  exact ⟨hdigits 1 (by decide), trivial, hdigits 1 (by decide), trivial,
    ⟨⟨trivial, trivial, ⟨hdigits 1 (by decide), trivial⟩, trivial⟩, trivial⟩, trivial, trivial⟩

def tableTest : Dict NanoFloat :=
  [("visibility", .str "public"), ("expected_output", .arr [])]

def tableMode : Dict NanoFloat :=
  [("schema_sql", .str "CREATE TABLE t (a int)"), ("tests", .arr [.obj tableTest])]

def tableContent : Dict NanoFloat :=
  [("question_type", .str "sql_coding"), ("mode_specification", .obj tableMode)]

/-- An execution of a source that is one blank. -/
def blankPackage : DispatchPackage NanoFloat :=
  claimedPackage "sql" " " (sqlPayload "CREATE TABLE t (a int)" [] 5000 [sentTest 0 tableTest])

/-- The API queues a SQL source of one blank, and the SQL runner refuses it. -/
theorem blankSource_refused :
    QueuedFor (fun _ => none) (.obj tableContent) .postgresql .run
        (echoRunRequest " " (by decide) (by decide)) blankPackage
      ∧ (∃ expected, loadExpectedTests (.obj tableContent) = .ok expected)
      ∧ ¬RequestAccepted blankPackage := by
  have hqueued : QueuedFor (fun _ => none) (.obj tableContent) .postgresql .run
      (echoRunRequest " " (by decide) (by decide)) blankPackage := ⟨rfl, rfl, rfl, le_refl 1⟩
  have hkeys : (Json.obj tableContent).DistinctKeys :=
    ⟨by decide, trivial, ⟨by decide, trivial, ⟨⟨by decide, trivial, trivial, trivial⟩, trivial⟩,
      trivial⟩, trivial⟩
  refine ⟨hqueued, ⟨_, rfl⟩, ?_⟩
  rw [sql_accepted_iff hkeys hqueued]
  rintro ⟨schema, seed, timeout, sent, -, h⟩
  have hblank := h.nonblank
  rw [show isBlank blankPackage.sourceCode = true from rfl] at hblank
  cases hblank

end Rigor
