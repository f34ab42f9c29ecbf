import Rigor.SqlRunner

/-!
# One fixture for two SQL runners

The runner embedded in `vercel_sandbox_execution.py` resets the fixture of
a test on its own, from the raw request. It agrees with the SQL runner
exactly where no fixture text is made of white space only and no test
gives `null` for a seed that the request has (`fixtures_agree_iff`): the
one runner skips blank text and takes `null` for "no seed", the other asks
whether the text is empty and falls back to the request's seed.
-/

namespace Rigor.VercelSql

open Py SqlRunner

variable {F : Type} [Runtime F]

/-- `owner.execute(str(value))`, if the value is truthy. -/
def executeIf (statement : Str → Statement) (value : Json F) : List Statement :=
  if value.truthy then [statement value.pyStr] else []

/-- `value.get('schema_sql', value.get('ddl'))` of an object. -/
def testSchema : Json F → Json F
  | .obj value => schemaValue value
  | _ => .null

/-- `test_seed`: `None` unless the object has a seed member. -/
def testSeed : Json F → Json F
  | .obj value => if seedPresent value then seedValue value else .null
  | _ => .null

def testSetup : Json F → Json F
  | .str s => .str s
  | .obj value => Json.get "setup_sql" value
  | _ => .null

/-- `reset_fixture(owner, request, test)`. -/
def resetFixture (request test : Dict F) : List Statement :=
  let value := Json.get "input" test
  let schema := testSchema value
  let seed := match testSeed value with
    | .null => (Json.lookup "seed_sql" request).getD (.str [])
    | v => v
  [.fixed "DROP SCHEMA IF EXISTS public CASCADE", .fixed "CREATE SCHEMA public",
    .fixed "REVOKE ALL ON SCHEMA public FROM PUBLIC",
    .schema (if schema.truthy then schema.pyStr else (Json.get "schema_sql" request).pyStr)]
  ++ executeIf .seed seed
  ++ executeIf .setup (testSetup value)
  ++ [.fixed "GRANT USAGE ON SCHEMA public TO candidate",
    .fixed "GRANT SELECT ON ALL TABLES IN SCHEMA public TO candidate",
    .fixed "GRANT USAGE, SELECT ON ALL SEQUENCES IN SCHEMA public TO candidate"]

end Rigor.VercelSql

namespace Rigor

open Py SqlRunner VercelSql

variable {F : Type} [Runtime F]

/-- The schema, seed and setup statements, in their order. -/
def fixtureStatements (statements : List Statement) : List Statement :=
  statements.filter Statement.isFixture

/-- White space and nothing else, but not empty. -/
def BlankText (s : Str) : Prop := s ≠ [] ∧ isBlank s = true

/-- The object has a seed member, if only `null`. -/
def hasSeed : Json F → Bool
  | .obj value => seedPresent value
  | _ => false

/-- The seed text of a request. -/
def requestSeed (request : Dict F) : Str :=
  match Json.get "seed_sql" request with
  | .str s => s
  | _ => []

/-- When the two runners load one fixture for a test: no text in use is
blank, and a seed member that is `null` does not stand before a seed of
the request. -/
structure SameFixture (request : Dict F) (input : Json F) : Prop where
  schema : ∀ s, testSchema input = .str s → ¬BlankText s
  seed : ∀ s, testSeed input = .str s → ¬BlankText s
  noSeed : testSeed input = .null →
    if hasSeed input then requestSeed request = [] else ¬BlankText (requestSeed request)
  setup : ∀ s, testSetup input = .str s → ¬BlankText s

/-! ## What an accepted request looks like -/

omit [Runtime F] in
theorem optionalString_ok {value : Json F} {label s : Str} {maxBytes : Nat}
    (h : SqlRunner.optionalString value label maxBytes = .ok s) :
    (value = .null ∧ s = []) ∨ value = .str s := by
  cases value with
  | null => cases h; exact .inl ⟨rfl, rfl⟩
  | str t =>
      rw [SqlRunner.optionalString] at h
      split_ifs at h
      cases h; exact .inr rfl
  | _ => cases h

omit [Runtime F] in
theorem schemaOverride_ok {value : Json F} {o : Option Str} (h : schemaOverride value = .ok o) :
    (value = .null ∧ o = none) ∨ ∃ s, value = .str s ∧ o = some s := by
  rw [schemaOverride.eq_def] at h
  split at h
  · cases h; exact .inl ⟨rfl, rfl⟩
  · rename_i hne
    obtain ⟨s, hs, rfl⟩ := map_eq_ok h
    rcases optionalString_ok hs with ⟨hn, -⟩ | hv
    · exact absurd hn hne
    · exact .inr ⟨s, hv, rfl⟩

/-- The fixture of a test, read off its input. -/
structure FixtureOf (input : Json F) (f : Fixture) : Prop where
  schema : (testSchema input = .null ∧ f.schemaSql = none)
    ∨ ∃ s, testSchema input = .str s ∧ f.schemaSql = some s
  seed : (testSeed input = .null ∧ f.seedSql = if hasSeed input then some [] else none)
    ∨ ∃ s, testSeed input = .str s ∧ f.seedSql = some s
  setup : (testSetup input = .null ∧ f.setupSql = []) ∨ testSetup input = .str f.setupSql

omit [Runtime F] in
theorem fixtureOf_testFixture {input : Json F} {f : Fixture} (h : testFixture input = .ok f) :
    FixtureOf input f := by
  cases input with
  | null => cases h; exact ⟨.inl ⟨rfl, rfl⟩, .inl ⟨rfl, rfl⟩, .inl ⟨rfl, rfl⟩⟩
  | str s =>
      rw [testFixture] at h
      obtain ⟨setup, hs, h⟩ := bind_eq_ok h
      cases h
      rcases optionalString_ok hs with ⟨hn, -⟩ | hv
      · cases hn
      · exact ⟨.inl ⟨rfl, rfl⟩, .inl ⟨rfl, rfl⟩, .inr hv⟩
  | obj value =>
      rw [testFixture] at h
      obtain ⟨schema, hschema, h⟩ := bind_eq_ok h
      obtain ⟨seed, hseed, h⟩ := bind_eq_ok h
      obtain ⟨setup, hsetup, h⟩ := bind_eq_ok h
      cases h
      refine ⟨?_, ?_, ?_⟩
      · exact schemaOverride_ok hschema
      · rw [testSeed, hasSeed]
        rw [seedOverride] at hseed
        split_ifs at hseed ⊢ with hp
        · obtain ⟨s, hs, rfl⟩ := map_eq_ok hseed
          rcases optionalString_ok hs with ⟨hn, rfl⟩ | hv
          · exact .inl ⟨hn, rfl⟩
          · exact .inr ⟨s, hv, rfl⟩
        · cases hseed; exact .inl ⟨rfl, rfl⟩
      · rw [testSetup, Json.get]
        cases hv : Json.lookup "setup_sql" value with
        | none =>
            rw [hv] at hsetup
            rcases optionalString_ok hsetup with ⟨hn, -⟩ | heq
            · cases hn
            · cases heq; exact .inl ⟨rfl, rfl⟩
        | some v =>
            rw [hv] at hsetup
            exact optionalString_ok hsetup
  | _ => cases h

/-- What `parse_request` takes from the request, and the tests it made. -/
structure Accepted (payload : Dict F) (request : Request) : Prop where
  schema : Json.get "schema_sql" payload = .str request.schemaSql
  schema_nonblank : isBlank request.schemaSql = false
  seed : request.seedSql = requestSeed payload
  seed_text : Json.get "seed_sql" payload = .null ∨ ∃ s, Json.get "seed_sql" payload = .str s
  tests : ∃ raws, Json.get "tests" payload = .arr raws ∧
    List.Forall₂ (fun raw test => ∃ entries, raw = .obj entries
      ∧ testFixture (Json.get "input" entries) = .ok test.fixture) raws request.tests

omit [Runtime F] in
theorem readTest_ok {seen : List Str} {raw : Json F} {test : SqlTest}
    (h : readTest seen raw = .ok test) :
    ∃ entries, raw = .obj entries ∧ testFixture (Json.get "input" entries) = .ok test.fixture := by
  cases raw with
  | obj entries =>
      refine ⟨entries, rfl, ?_⟩
      rw [readTest] at h
      split at h
      · split_ifs at h with hid hexpected
        · obtain ⟨_, -, h⟩ := bind_eq_ok h
          cases h
        · obtain ⟨visibility, -, h⟩ := bind_eq_ok h
          obtain ⟨fixture, hf, h⟩ := bind_eq_ok h
          cases h
          exact hf
      · cases h
  | _ => cases h

omit [Runtime F] in
theorem readTests_ok : ∀ {raws : List (Json F)} {seen : List Str} {tests : List SqlTest},
    readTests seen raws = .ok tests →
      List.Forall₂ (fun raw test => ∃ entries, raw = .obj entries
        ∧ testFixture (Json.get "input" entries) = .ok test.fixture) raws tests
  | [], _, _, h => by cases h; exact .nil
  | raw :: raws, seen, tests, h => by
      rw [readTests] at h
      obtain ⟨test, htest, h⟩ := bind_eq_ok h
      obtain ⟨rest, hrest, h⟩ := bind_eq_ok h
      cases h
      exact .cons (readTest_ok htest) (readTests_ok hrest)

omit [Runtime F] in
theorem requiredString_ok {value : Json F} {label s : Str} {maxBytes : Nat}
    (h : SqlRunner.requiredString value label maxBytes = .ok s) :
    value = .str s ∧ isBlank s = false := by
  cases value with
  | str t =>
      rw [SqlRunner.requiredString] at h
      split_ifs at h with hb
      cases h
      exact ⟨rfl, Bool.eq_false_iff.mpr hb⟩
  | _ => cases h

theorem accepted_of_parseRequest {raw executionId : Str} {payload : Dict F} {request : Request}
    (hraw : loads raw = .ok (.obj payload))
    (h : parseRequest (F := F) raw executionId = .ok request) : Accepted payload request := by
  rw [parseRequest, hraw] at h
  split_ifs at h
  simp only [readRequest] at h
  split_ifs at h
  obtain ⟨attempt, -, h⟩ := bind_eq_ok h
  obtain ⟨source, -, h⟩ := bind_eq_ok h
  obtain ⟨schema, hschema, h⟩ := bind_eq_ok h
  obtain ⟨seed, hseed, h⟩ := bind_eq_ok h
  obtain ⟨timeout, -, h⟩ := bind_eq_ok h
  split_ifs at h
  split at h
  · rename_i raws hraws
    split_ifs at h
    obtain ⟨tests, htests, h⟩ := bind_eq_ok h
    cases h
    obtain ⟨hs, hb⟩ := requiredString_ok hschema
    have hsd := optionalString_ok hseed
    refine ⟨hs, hb, ?_, hsd.imp And.left fun h => ⟨_, h⟩, raws, hraws, readTests_ok htests⟩
    rcases hsd with ⟨hn, rfl⟩ | hv
    · rw [requestSeed, hn]
    · rw [requestSeed, hv]
  · cases h

/-! ## Agreement, statement by statement -/

theorem executeIf_str (statement : Str → Statement) (s : Str) :
    (if isBlank s then [] else [statement s]) = executeIf statement (.str s : Json F)
      ↔ ¬BlankText s := by
  have htruthy : (Json.str s : Json F).truthy = !s.isEmpty := rfl
  rw [executeIf, htruthy, BlankText]
  cases s with
  | nil => exact ⟨fun _ h => h.1 rfl, fun _ => rfl⟩
  | cons c t =>
      by_cases hb : isBlank (c :: t) = true
      · simp [hb]
      · simp [hb, Json.pyStr]

/-- The schema `run_request` resets to. -/
def schemaOf (request : Request) (f : Fixture) : Str :=
  match f.schemaSql with
  | some s => if isBlank s then request.schemaSql else s
  | none => request.schemaSql

theorem schemaOf_eq_iff {payload : Dict F} {request : Request} {input : Json F} {f : Fixture}
    (ha : Accepted payload request) (hf : FixtureOf input f) :
    schemaOf request f
        = (if (testSchema input).truthy then (testSchema input).pyStr
            else (Json.get "schema_sql" payload).pyStr)
      ↔ ∀ s, testSchema input = .str s → ¬BlankText s := by
  rw [ha.schema]
  rcases hf.schema with ⟨hn, hs⟩ | ⟨s, hv, hs⟩
  · rw [schemaOf, hs, hn]
    exact ⟨fun _ _ => nofun, fun _ => rfl⟩
  · rw [schemaOf, hs, hv]
    have hall : (∀ t, (Json.str s : Json F) = .str t → ¬BlankText t) ↔ ¬BlankText s :=
      ⟨fun h => h s rfl, fun h t ht => by cases ht; exact h⟩
    rw [hall]
    cases s with
    | nil => exact ⟨fun _ h => h.1 rfl, fun _ => rfl⟩
    | cons c t =>
        change (if isBlank (c :: t) = true then request.schemaSql else c :: t) = c :: t ↔ _
        by_cases hb : isBlank (c :: t) = true
        · rw [if_pos hb]
          refine ⟨fun h => ?_, fun h => absurd ⟨List.cons_ne_nil c t, hb⟩ h⟩
          -- the request's schema is never blank
          exact absurd hb (Bool.eq_false_iff.mp (h ▸ ha.schema_nonblank))
        · rw [if_neg hb]
          exact ⟨fun _ h => hb h.2, fun _ => rfl⟩

/-- The seed value the embedded runner executes, if it is truthy. -/
def seedOf (payload : Dict F) (input : Json F) : Json F :=
  match testSeed input with
  | .null => (Json.lookup "seed_sql" payload).getD (.str [])
  | v => v

theorem executeIf_requestSeed {payload : Dict F} {request : Request}
    (ha : Accepted payload request) :
    executeIf .seed ((Json.lookup "seed_sql" payload).getD (.str []))
      = executeIf .seed (.str (requestSeed payload) : Json F) := by
  have hget : Json.get "seed_sql" payload = (Json.lookup "seed_sql" payload).getD .null := rfl
  cases hl : Json.lookup "seed_sql" payload with
  | none => rw [requestSeed, hget, hl]; rfl
  | some v =>
      rw [hl] at hget
      rcases ha.seed_text with hn | ⟨s, hs⟩
      · obtain rfl : v = .null := hget.symm.trans hn
        rw [requestSeed, hn]; rfl
      · obtain rfl : v = .str s := hget.symm.trans hs
        rw [requestSeed, hs]; rfl

theorem seedOf_eq_iff {payload : Dict F} {request : Request} {input : Json F} {f : Fixture}
    (ha : Accepted payload request) (hf : FixtureOf input f) :
    (if isBlank (f.seedSql.getD request.seedSql) then []
        else [Statement.seed (f.seedSql.getD request.seedSql)])
        = executeIf .seed (seedOf payload input)
      ↔ (∀ s, testSeed input = .str s → ¬BlankText s)
        ∧ (testSeed input = .null →
          if hasSeed input then requestSeed payload = [] else ¬BlankText (requestSeed payload)) := by
  rcases hf.seed with ⟨hn, hs⟩ | ⟨s, hv, hs⟩
  · rw [seedOf, hn, hs, executeIf_requestSeed ha, ha.seed]
    by_cases hp : hasSeed input = true
    · rw [if_pos hp, if_pos hp]
      refine Iff.trans ?_ (and_iff_right fun _ h => nomatch h).symm
      refine Iff.trans ?_ (forall_prop_of_true rfl).symm
      cases requestSeed payload with
      | nil => exact ⟨fun _ => rfl, fun _ => rfl⟩
      | cons c t => exact ⟨nofun, nofun⟩
    · rw [if_neg hp, if_neg hp]
      refine Iff.trans ?_ (and_iff_right fun _ h => nomatch h).symm
      refine Iff.trans ?_ (forall_prop_of_true rfl).symm
      exact executeIf_str .seed _
  · rw [seedOf, hv, hs]
    refine (executeIf_str .seed s).trans ⟨fun h => ⟨fun t ht => ?_, nofun⟩, fun h => h.1 s rfl⟩
    cases ht; exact h

theorem setupOf_eq_iff {input : Json F} {f : Fixture} (hf : FixtureOf input f) :
    (if isBlank f.setupSql then [] else [Statement.setup f.setupSql])
        = executeIf .setup (testSetup input)
      ↔ ∀ s, testSetup input = .str s → ¬BlankText s := by
  rcases hf.setup with ⟨hn, hs⟩ | hv
  · rw [hn, hs]
    exact ⟨fun _ _ => nofun, fun _ => rfl⟩
  · rw [hv]
    refine (executeIf_str .setup f.setupSql).trans ⟨fun h t ht => ?_, fun h => h _ rfl⟩
    cases ht; exact h

/-! ## Agreement of the fixtures -/

theorem executeIf_forms (statement : Str → Statement) (value : Json F) :
    executeIf statement value = [] ∨ ∃ s, executeIf statement value = [statement s] := by
  rw [executeIf]
  split_ifs
  · exact .inr ⟨_, rfl⟩
  · exact .inl rfl

theorem unlessBlank_forms (statement : Str → Statement) (s : Str) :
    (if isBlank s then [] else [statement s]) = []
      ∨ ∃ t, (if isBlank s then [] else [statement s]) = [statement t] := by
  split_ifs
  · exact .inl rfl
  · exact .inr ⟨_, rfl⟩

/-- A schema, at most one seed and at most one set-up step, each of its own kind. -/
theorem fixture_append_inj {s s' : Str} {seed seed' setup setup' : List Statement}
    (hseed : seed = [] ∨ ∃ t, seed = [.seed t]) (hseed' : seed' = [] ∨ ∃ t, seed' = [.seed t])
    (hsetup : setup = [] ∨ ∃ t, setup = [.setup t])
    (hsetup' : setup' = [] ∨ ∃ t, setup' = [.setup t]) :
    .schema s :: (seed ++ setup) = .schema s' :: (seed' ++ setup')
      ↔ s = s' ∧ seed = seed' ∧ setup = setup' := by
  rcases hseed with rfl | ⟨a, rfl⟩ <;> rcases hseed' with rfl | ⟨a', rfl⟩ <;>
    rcases hsetup with rfl | ⟨b, rfl⟩ <;> rcases hsetup' with rfl | ⟨b', rfl⟩ <;> simp

theorem fixtureStatements_append (a b : List Statement) :
    fixtureStatements (a ++ b) = fixtureStatements a ++ fixtureStatements b :=
  List.filter_append ..

theorem fixtureStatements_of_forms {f : Str → Statement} (hf : ∀ s, (f s).isFixture = true)
    {a : List Statement} (h : a = [] ∨ ∃ s, a = [f s]) : fixtureStatements a = a := by
  rcases h with rfl | ⟨s, rfl⟩
  · rfl
  · exact List.filter_eq_self.mpr (List.forall_mem_singleton.mpr (hf s))

theorem fixtureStatements_testStatements (request : Request) (test : SqlTest) :
    fixtureStatements (testStatements request test)
      = .schema (schemaOf request test.fixture)
        :: ((if isBlank (test.fixture.seedSql.getD request.seedSql) then []
            else [.seed (test.fixture.seedSql.getD request.seedSql)])
          ++ (if isBlank test.fixture.setupSql then [] else [.setup test.fixture.setupSql])) := by
  rw [testStatements, SqlRunner.resetFixture]
  simp only [fixtureStatements_append]
  rw [fixtureStatements_of_forms (fun _ => rfl) (unlessBlank_forms .seed _),
    fixtureStatements_of_forms (fun _ => rfl) (unlessBlank_forms .setup _)]
  exact List.append_nil _

theorem fixtureStatements_resetFixture (request test : Dict F) :
    fixtureStatements (VercelSql.resetFixture request test)
      = .schema (if (testSchema (Json.get "input" test)).truthy
            then (testSchema (Json.get "input" test)).pyStr
            else (Json.get "schema_sql" request).pyStr)
        :: (executeIf .seed (seedOf request (Json.get "input" test))
          ++ executeIf .setup (testSetup (Json.get "input" test))) := by
  rw [VercelSql.resetFixture]
  simp only [fixtureStatements_append]
  rw [fixtureStatements_of_forms (fun _ => rfl) (executeIf_forms .seed _),
    fixtureStatements_of_forms (fun _ => rfl) (executeIf_forms .setup _)]
  exact List.append_nil _

/-- The two runners load one fixture for a test exactly when `SameFixture` says so. -/
theorem fixtureStatements_eq_iff {payload : Dict F} {request : Request} {entries : Dict F}
    {test : SqlTest} (ha : Accepted payload request)
    (h : testFixture (Json.get "input" entries) = .ok test.fixture) :
    fixtureStatements (testStatements request test)
        = fixtureStatements (VercelSql.resetFixture payload entries)
      ↔ SameFixture payload (Json.get "input" entries) := by
  have hf := fixtureOf_testFixture h
  rw [fixtureStatements_testStatements, fixtureStatements_resetFixture,
    fixture_append_inj (unlessBlank_forms _ _) (executeIf_forms _ _) (unlessBlank_forms _ _)
      (executeIf_forms _ _),
    schemaOf_eq_iff ha hf, seedOf_eq_iff ha hf, setupOf_eq_iff hf]
  exact ⟨fun ⟨hs, ⟨hd, hn⟩, hu⟩ => ⟨hs, hd, hn, hu⟩,
    fun h => ⟨h.schema, ⟨h.seed, h.noSeed⟩, h.setup⟩⟩

/-- Over a whole accepted request: the runner's tests are the request's, one
by one, and each gets one fixture from both runners exactly when
`SameFixture` holds of its input. -/
theorem fixtures_agree_iff {raw executionId : Str} {payload : Dict F} {request : Request}
    (hraw : loads raw = .ok (.obj payload))
    (h : parseRequest (F := F) raw executionId = .ok request) :
    ∃ raws, Json.get "tests" payload = .arr raws
      ∧ List.Forall₂ (fun rawTest test => ∃ entries, rawTest = .obj entries
          ∧ (fixtureStatements (testStatements request test)
              = fixtureStatements (VercelSql.resetFixture payload entries)
            ↔ SameFixture payload (Json.get "input" entries))) raws request.tests := by
  have ha := accepted_of_parseRequest hraw h
  obtain ⟨raws, hraws, htests⟩ := ha.tests
  refine ⟨raws, hraws, htests.imp ?_⟩
  rintro rawTest test ⟨entries, rfl, hfix⟩
  exact ⟨entries, rfl, fixtureStatements_eq_iff ha hfix⟩

/-- A request of one test with the given input. -/
def requestWith (input : Json FloatConst) : Dict FloatConst :=
  [("schema_version", .int 1), ("execution_id", .str "execution-1"), ("attempt", .int 1),
    ("source_code", .str "SELECT a FROM t"), ("schema_sql", .str "CREATE TABLE t (a int)"),
    ("seed_sql", .str "INSERT INTO t VALUES (1)"), ("statement_timeout_ms", .int 2000),
    ("tests", .arr [.obj [("id", .str "test-1"), ("visibility", .str "public"),
      ("input", input)]])]

def requestOf (fixture : Fixture) : Request :=
  ⟨1, "SELECT a FROM t", "CREATE TABLE t (a int)", "INSERT INTO t VALUES (1)", 2000, 1000, 2000,
    [⟨"test-1", "public", fixture, by decide, by decide⟩]⟩

theorem requestWith_loads {input : Json FloatConst} (hfit : input.DigitsFit)
    (hdepth : input.depth ≤ 1) (hkeys : input.DistinctKeys) :
    loads (Json.obj (requestWith input)).encode = .ok (.obj (requestWith input)) := by
  have hint : ∀ n : Int, digitCount n ≤ 4 → (Json.int n : Json FloatConst).DigitsFit :=
    fun n hn => hn.trans (by decide)
  refine Json.loads_encode_of_distinct ⟨⟨hint 1 (by decide), trivial, hint 1 (by decide), trivial,
    trivial, trivial, hint 2000 (by decide), ⟨⟨trivial, trivial, hfit, trivial⟩, trivial⟩, trivial⟩,
    ?_⟩ ⟨(by decide +kernel : ((requestWith .null).map Prod.fst).Nodup), trivial, trivial, trivial, trivial, trivial, trivial, trivial,
      ⟨⟨(by decide +kernel : (["id", "visibility", "input"] : List Str).Nodup), trivial, trivial,
        hkeys, trivial⟩, trivial⟩, trivial⟩
  have hlimit : Runtime.recursionLimit FloatConst = 1000 := rfl
  simp only [requestWith, Json.depth, Json.depthMembers, Json.depthElements]
  omega

theorem requestWith_accepted {input : Json FloatConst} {fixture : Fixture}
    (hloads : loads (Json.obj (requestWith input)).encode = .ok (.obj (requestWith input)))
    (hlen : utf8Len (Json.obj (requestWith input)).encode ≤ maxRequestBytes)
    (hread : readRequest (requestWith input) "execution-1" = .ok (requestOf fixture)) :
    parseRequest (F := FloatConst) (Json.obj (requestWith input)).encode "execution-1"
      = .ok (requestOf fixture) := by
  rw [parseRequest, if_neg (Nat.not_lt.mpr hlen), hloads]
  exact hread

theorem fixtures_agree_iff_requestWith :
    ∃ raws, Json.get "tests" (requestWith .null) = .arr raws
      ∧ List.Forall₂ (fun rawTest test => ∃ entries, rawTest = .obj entries
          ∧ (fixtureStatements (testStatements (requestOf ⟨none, none, []⟩) test)
              = fixtureStatements (VercelSql.resetFixture (requestWith .null) entries)
            ↔ SameFixture (requestWith .null) (Json.get "input" entries))) raws
        (requestOf ⟨none, none, []⟩).tests :=
  have hloads := @requestWith_loads .null trivial (Nat.zero_le 1) trivial
  fixtures_agree_iff hloads (requestWith_accepted hloads (by decide +kernel) rfl)

/-- A blank schema of a test: one runner runs the request's schema, the other the blank text. -/
theorem blankSchema_differs :
    ¬∀ (raw executionId : Str) (payload : Dict FloatConst) (request : Request),
      loads raw = .ok (.obj payload) → parseRequest (F := FloatConst) raw executionId = .ok request →
        ∀ raws, Json.get "tests" payload = .arr raws →
          List.Forall₂ (fun rawTest test => ∀ entries, rawTest = .obj entries →
            fixtureStatements (testStatements request test)
              = fixtureStatements (VercelSql.resetFixture payload entries)) raws request.tests := by
  intro h
  have hloads := @requestWith_loads (.obj [("schema_sql", .str "  ")]) ⟨trivial, trivial⟩
    (Nat.le_refl 1) ⟨by decide, trivial, trivial⟩
  have hblank := h _ _ _ _ hloads
    (@requestWith_accepted _ ⟨some "  ", none, []⟩ hloads (by decide +kernel) rfl) _ rfl
  exact absurd ((List.forall₂_cons.mp hblank).1 _ rfl) (by decide +kernel)

end Rigor
