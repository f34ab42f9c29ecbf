import Rigor.TrustedCompare

/-!
# Sent tests and expected tests

The API sends the tests of a question to the sandbox; the controller loads
the expected tests from the same content and compares. The two number and
filter the tests on their own. The main result says for which contents and
results they line up (`sent_tests_graded_iff`).
-/

namespace Rigor

open Py

variable {F : Type}

/-! ## The expected tests -/

theorem checked_eq_ok {α : Type} {x : Except RunnerFailure α} {a : α} :
    checked x = .ok a ↔ x = .ok a := by
  cases x with
  | ok b => exact ⟨fun h => by cases h; rfl, fun h => by cases h; rfl⟩
  | error e => exact ⟨nofun, nofun⟩

theorem objectDict_eq_ok {value : Json F} {label : Str} {d : Dict F} :
    objectDict value label = .ok d ↔ value = .obj d := by
  cases value with
  | obj kvs => exact ⟨fun h => by cases h; rfl, fun h => by cases h; rfl⟩
  | _ => exact ⟨nofun, nofun⟩

theorem objectList_eq_ok {value : Json F} {label : Str} {xs : List (Json F)} :
    objectList value label = .ok xs ↔ value = .arr xs := by
  cases value with
  | arr ys => exact ⟨fun h => by cases h; rfl, fun h => by cases h; rfl⟩
  | _ => exact ⟨nofun, nofun⟩

section Load

variable [FloatArith F]

/-- What `load_expected_tests` makes of one numbered item. -/
def Loads (defaults : TestDefaults F) (p : Dict F × Nat) (e : ExpectedTest F) : Prop :=
  ∃ policy, comparisonPolicy p.1 (defaultStrategy defaults.sqlMode) = .ok policy
    ∧ e = expectedTest defaults p.2 p.1 policy

/-- The loop succeeds when every item is an object with a policy of its own
and no identifier comes twice. -/
theorem expectedTests_eq_ok {defaults : TestDefaults F} :
    ∀ {raws : List (Json F)} {seen : List Str} {index : Nat} {expected : List (ExpectedTest F)},
      expectedTests defaults seen index raws = .ok expected ↔
        ∃ items : List (Dict F), raws = items.map Json.obj
          ∧ List.Forall₂ (Loads defaults) (items.zipIdx index) expected
          ∧ (expected.map ExpectedTest.id).Nodup ∧ ∀ e ∈ expected, e.id ∉ seen
  | [], seen, index, expected => by
      constructor
      · intro h
        cases h
        exact ⟨[], rfl, .nil, List.nodup_nil, nofun⟩
      · rintro ⟨items, hraws, hloads, -, -⟩
        rw [List.map_eq_nil_iff.mp hraws.symm] at hloads
        cases hloads
        rfl
  | raw :: rest, seen, index, expected => by
      constructor
      · intro h
        rw [expectedTests] at h
        obtain ⟨item, hitem, hitems⟩ := bind_eq_ok h
        cases objectDict_eq_ok.mp (checked_eq_ok.mp hitem)
        split_ifs at hitems with hseen
        obtain ⟨policy, hpolicy, hitems⟩ := bind_eq_ok hitems
        obtain ⟨tests, htests, hitems⟩ := bind_eq_ok hitems
        cases hitems
        obtain ⟨items, hrest, hloads, hnodup, hfresh⟩ := expectedTests_eq_ok.mp htests
        refine ⟨item :: items, by rw [hrest, List.map_cons], ?_, ?_, ?_⟩
        · rw [List.zipIdx_cons]
          exact .cons ⟨policy, hpolicy, rfl⟩ hloads
        · rw [List.map_cons, List.nodup_cons]
          refine ⟨fun hmem => ?_, hnodup⟩
          obtain ⟨e, he, hid⟩ := List.mem_map.mp hmem
          exact hfresh e he (hid ▸ List.mem_cons_self ..)
        · intro e he
          rcases List.mem_cons.mp he with rfl | he
          · exact hseen
          · exact fun hmem => hfresh e he (List.mem_cons_of_mem _ hmem)
      · rintro ⟨items, hraws, hloads, hnodup, hfresh⟩
        cases items with
        | nil => cases hraws
        | cons item items =>
            obtain ⟨rfl, rfl⟩ := List.cons.inj hraws
            rw [List.zipIdx_cons] at hloads
            obtain ⟨e, tests, ⟨policy, hpolicy, rfl⟩, htests, rfl⟩ :=
              List.forall₂_cons_left_iff.mp hloads
            have hseen : expectedId index item ∉ seen := hfresh _ (List.mem_cons_self ..)
            rw [List.map_cons, List.nodup_cons] at hnodup
            have hrest : expectedTests defaults (expectedId index item :: seen) (index + 1)
                (items.map Json.obj) = .ok tests := by
              refine expectedTests_eq_ok.mpr ⟨items, rfl, htests, hnodup.2, fun e he hmem => ?_⟩
              rcases List.mem_cons.mp hmem with hid | hmem
              · exact hnodup.1 (List.mem_map.mpr ⟨e, he, hid⟩)
              · exact hfresh e (List.mem_cons_of_mem _ he) hmem
            rw [expectedTests, checked_eq_ok.mpr (objectDict_eq_ok.mpr rfl), ok_bind,
              if_neg hseen, hpolicy, ok_bind, hrest]
            rfl

/-! ## Comparison policies -/

/-- The strategy an item names, before it is checked. -/
def namedStrategy (default : Str) (item : Dict F) : Option Str :=
  match Json.get "comparison" item with
  | .null => some default
  | .str raw => some (resolveStrategy default raw)
  | .obj policy => some (resolveStrategy default (strOr (Json.get "strategy" policy) default))
  | _ => none

/-- The tolerance an item states. -/
def namedTolerance (item : Dict F) : Json F :=
  match Json.get "comparison" item with
  | .obj policy => toleranceOf policy
  | _ => .float FloatArith.nano

/-- The policy of the item is one the grader has. -/
def PolicyOk (default : Str) (item : Dict F) : Prop :=
  ∃ strategy ∈ supportedComparisons, namedStrategy default item = some strategy

theorem defaultStrategy_supported (sqlMode : Bool) :
    defaultStrategy sqlMode ∈ supportedComparisons := by
  cases sqlMode <;> decide

/-- A policy that is loaded names the item's strategy and tolerance. -/
theorem comparisonPolicy_eq_ok {sqlMode : Bool} {item policy : Dict F}
    (h : comparisonPolicy item (defaultStrategy sqlMode) = .ok policy) :
    ∃ strategy ∈ supportedComparisons,
      namedStrategy (defaultStrategy sqlMode) item = some strategy
        ∧ Json.get "strategy" policy = .str strategy
        ∧ toleranceOf policy = namedTolerance item := by
  have named : ∀ {fields : Dict F} {strategy : Str}, supportedPolicy fields strategy = .ok policy →
      strategy ∈ supportedComparisons ∧ Json.get "strategy" policy = .str strategy
        ∧ toleranceOf policy = toleranceOf fields := fun {fields strategy} h => by
    rw [supportedPolicy] at h
    split_ifs at h with hmem
    cases h
    refine ⟨hmem, by rw [Json.get, Json.lookup_insert_self]; rfl, ?_⟩
    rw [toleranceOf, Json.lookup_insert_of_ne (by decide), toleranceOf]
  rw [comparisonPolicy] at h
  rw [namedStrategy, namedTolerance]
  cases hitem : Json.get "comparison" item with
  | null =>
      rw [hitem] at h
      cases h
      exact ⟨_, defaultStrategy_supported sqlMode, rfl, rfl, rfl⟩
  | str raw =>
      rw [hitem] at h
      obtain ⟨hmem, hstrategy, htol⟩ := named h
      exact ⟨_, hmem, rfl, hstrategy, htol.trans rfl⟩
  | obj fields =>
      rw [hitem] at h
      obtain ⟨hmem, hstrategy, htol⟩ := named h
      exact ⟨_, hmem, rfl, hstrategy, htol⟩
  | bool b => rw [hitem] at h; cases h
  | int n => rw [hitem] at h; cases h
  | float x => rw [hitem] at h; cases h
  | arr xs => rw [hitem] at h; cases h

theorem comparisonPolicy_isOk {default : Str} {item : Dict F} (h : PolicyOk default item) :
    ∃ policy, comparisonPolicy item default = .ok policy := by
  obtain ⟨strategy, hmem, hnamed⟩ := h
  rw [namedStrategy] at hnamed
  rw [comparisonPolicy]
  cases hitem : Json.get "comparison" item with
  | null => exact ⟨_, rfl⟩
  | str raw =>
      rw [hitem] at hnamed
      exact ⟨_, if_pos (Option.some.inj hnamed ▸ hmem)⟩
  | obj fields =>
      rw [hitem] at hnamed
      exact ⟨_, if_pos (Option.some.inj hnamed ▸ hmem)⟩
  | bool b => rw [hitem] at hnamed; cases hnamed
  | int n => rw [hitem] at hnamed; cases hnamed
  | float x => rw [hitem] at hnamed; cases hnamed
  | arr xs => rw [hitem] at hnamed; cases hnamed

/-! ## When a comparison is defined -/

theorem compareNumeric_isOk {actual expected : Json F} {policy : Dict F} :
    (∃ passed, compareNumeric actual expected policy = .ok passed) ↔
      ∃ tolerance : F, (toleranceOf policy).toFloat = some (some tolerance)
        ∧ FloatArith.isFinite tolerance = true ∧ FloatArith.isNegative tolerance = false
        ∧ ∀ a e, actual.toFloat = some a → expected.toFloat = some e → a.isSome ∧ e.isSome := by
  rw [compareNumeric]
  cases htol : (toleranceOf policy).toFloat with
  | none => exact ⟨fun ⟨_, h⟩ => (nomatch h), fun ⟨_, h, _⟩ => (nomatch h)⟩
  | some raw =>
      cases raw with
      | none => exact ⟨fun ⟨_, h⟩ => (nomatch h), fun ⟨_, h, _⟩ => (nomatch h)⟩
      | some tolerance =>
          by_cases hbad : FloatArith.isFinite tolerance = false
              ∨ FloatArith.isNegative tolerance = true
          · constructor
            · rintro ⟨passed, h⟩
              dsimp only [floatOf, Option.elim_some] at h
              rw [ok_bind, if_pos hbad] at h
              cases h
            · rintro ⟨t, ht, hfin, hneg, -⟩
              cases ht
              rcases hbad with h | h
              · rw [hfin] at h; cases h
              · rw [hneg] at h; cases h
          · have hgood : FloatArith.isFinite tolerance = true
                ∧ FloatArith.isNegative tolerance = false := by
              simpa using hbad
            dsimp only [floatOf, Option.elim_some]
            rw [ok_bind, if_neg hbad]
            refine Iff.trans ?_ (Iff.trans (and_iff_right hgood).symm
              ⟨fun h => ⟨tolerance, rfl, h.1.1, h.1.2, h.2⟩, fun ⟨t, ht, _, _, h⟩ => ⟨hgood, h⟩⟩)
            cases actual.toFloat with
            | none => exact ⟨fun _ => nofun, fun _ => ⟨_, rfl⟩⟩
            | some a =>
                cases expected.toFloat with
                | none => exact ⟨fun _ => nofun, fun _ => ⟨_, rfl⟩⟩
                | some e =>
                    cases a with
                    | none => exact ⟨fun ⟨_, h⟩ => (nomatch h), fun h => (nomatch (h _ _ rfl rfl).1)⟩
                    | some a =>
                        cases e with
                        | none =>
                            exact ⟨fun ⟨_, h⟩ => (nomatch h), fun h => (nomatch (h _ _ rfl rfl).2)⟩
                        | some e =>
                            exact ⟨fun _ _ _ ha he => by cases ha; cases he; exact ⟨rfl, rfl⟩,
                              fun _ => ⟨_, rfl⟩⟩

/-- Only a numeric comparison can fail, and only a test whose answer is
compared at all. -/
def ComparisonDefined (defaults : TestDefaults F) (item : Dict F) (actual : TestResult F) : Prop :=
  expectedError (expectedOutput defaults item) = none → actual.ok = true →
    namedStrategy (defaultStrategy defaults.sqlMode) item = some "numeric_tolerance" →
      ∃ tolerance : F, (namedTolerance item).toFloat = some (some tolerance)
        ∧ FloatArith.isFinite tolerance = true ∧ FloatArith.isNegative tolerance = false
        ∧ ∀ a e, actual.actual.toFloat = some a →
            (expectedOutput defaults item).toFloat = some e → a.isSome ∧ e.isSome

theorem compareValue_numeric {actual expected : Json F} {policy : Dict F}
    {columns : Option (List Str)} (h : Json.get "strategy" policy = .str "numeric_tolerance") :
    compareValue actual expected policy columns = compareNumeric actual expected policy := by
  unfold compareValue
  rw [h]
  rfl

theorem compareValue_isOk {actual expected : Json F} {policy : Dict F}
    {columns : Option (List Str)} {strategy : Str} (hmem : strategy ∈ supportedComparisons)
    (hne : strategy ≠ "numeric_tolerance") (h : Json.get "strategy" policy = .str strategy) :
    ∃ passed, compareValue actual expected policy columns = .ok passed := by
  unfold compareValue
  rw [h]
  simp only [supportedComparisons, List.mem_cons, List.not_mem_nil, or_false] at hmem
  rcases hmem with rfl | rfl | rfl | rfl | rfl | rfl | rfl
  · exact ⟨_, rfl⟩
  · exact ⟨_, rfl⟩
  · exact absurd rfl hne
  · exact ⟨_, rfl⟩
  · cases actual with
    | arr xs => cases expected <;> exact ⟨_, rfl⟩
    | _ => exact ⟨_, rfl⟩
  · exact ⟨_, rfl⟩
  · exact ⟨_, rfl⟩

/-- `_test_passed` answers for a loaded test exactly when the comparison is
defined. -/
theorem testPassed_isOk {defaults : TestDefaults F} {item policy : Dict F} {index : Nat}
    {actual : TestResult F}
    (hpolicy : comparisonPolicy item (defaultStrategy defaults.sqlMode) = .ok policy) :
    (∃ passed, testPassed actual (expectedTest defaults index item policy) = .ok passed)
      ↔ ComparisonDefined defaults item actual := by
  obtain ⟨strategy, hmem, hnamed, hstrategy, htol⟩ := comparisonPolicy_eq_ok hpolicy
  rw [testPassed, ComparisonDefined]
  dsimp only [expectedTest]
  cases expectedError (expectedOutput defaults item) with
  | some name => exact iff_of_true ⟨_, rfl⟩ fun h => by cases h
  | none =>
      cases actual.ok with
      | false => exact iff_of_true ⟨_, rfl⟩ fun _ h => by cases h
      | true =>
          rw [if_pos rfl, hnamed]
          by_cases hnum : strategy = "numeric_tolerance"
          · subst hnum
            rw [compareValue_numeric hstrategy, compareNumeric_isOk, htol]
            exact ⟨fun h _ _ _ => h, fun h => h rfl rfl rfl⟩
          · exact ⟨fun _ _ _ h => absurd (Option.some.inj h) hnum,
              fun _ => compareValue_isOk hmem hnum hstrategy⟩

/-- The loop of `trusted_compare` answers when every test is known, has the
visibility it was sent with, and is compared without an error. -/
theorem gradeTests_isOk {expected : List (ExpectedTest F)} :
    ∀ {tests : List (TestResult F)}, (∃ out, gradeTests expected tests = .ok out) ↔
      ∀ t ∈ tests, ∃ e, findTest t.id expected = some e ∧ t.visibility = e.visibility
        ∧ ∃ passed, testPassed t e = .ok passed := by
  intro tests
  induction tests with
  | nil => exact iff_of_true ⟨_, rfl⟩ (List.forall_mem_nil _)
  | cons t rest ih =>
      rw [List.forall_mem_cons, ← ih, gradeTests]
      cases hfind : findTest t.id expected with
      | none =>
          refine iff_of_false error_not_ok ?_
          rintro ⟨⟨e, h, -⟩, -⟩
          cases h
      | some e =>
          by_cases hvis : t.visibility = e.visibility
          · dsimp only
            rw [if_neg (not_not_intro hvis)]
            constructor
            · rintro ⟨out, h⟩
              obtain ⟨passed, hpassed, h⟩ := bind_eq_ok h
              obtain ⟨grades, hgrades, -⟩ := bind_eq_ok h
              exact ⟨⟨e, rfl, hvis, passed, hpassed⟩, grades, hgrades⟩
            · rintro ⟨⟨e', he', -, passed, hpassed⟩, grades, hgrades⟩
              cases he'
              rw [hpassed, ok_bind, hgrades]
              exact ⟨_, rfl⟩
          · dsimp only
            rw [if_pos hvis]
            refine iff_of_false error_not_ok ?_
            rintro ⟨⟨e', he', hvis', -⟩, -⟩
            cases he'
            exact hvis hvis'

theorem trustedCompare_isOk {sandbox : SandboxExecutionResult F}
    {expected : List (ExpectedTest F)} :
    (∃ projection, trustedCompare sandbox expected = .ok projection) ↔
      (∀ t ∈ sandbox.tests, t.id ∈ expected.map ExpectedTest.id)
        ∧ (terminalStatus sandbox.status = .completed →
          ∀ e ∈ expected, e.id ∈ sandbox.tests.map TestResult.id)
        ∧ ∃ out, gradeTests expected sandbox.tests = .ok out := by
  unfold trustedCompare
  split_ifs with hunknown homitted
  · refine iff_of_false exists_false ?_
    rintro ⟨hknown, -⟩
    obtain ⟨t, ht, hid⟩ := hunknown
    exact hid (hknown t ht)
  · refine iff_of_false exists_false ?_
    rintro ⟨-, hall, -⟩
    obtain ⟨hterminal, e, he, hid⟩ := homitted
    exact hid (hall hterminal e he)
  · have hknown : ∀ t ∈ sandbox.tests, t.id ∈ expected.map ExpectedTest.id := by
      simpa using hunknown
    have hall : terminalStatus sandbox.status = .completed →
        ∀ e ∈ expected, e.id ∈ sandbox.tests.map TestResult.id := fun hterminal e he => by
      by_contra hid
      exact homitted ⟨hterminal, e, he, hid⟩
    constructor
    · rintro ⟨projection, h⟩
      obtain ⟨out, hout, -⟩ := bind_eq_ok h
      exact ⟨hknown, hall, out, hout⟩
    · rintro ⟨-, -, out, hout⟩
      rw [hout, ok_bind]
      exact ⟨_, rfl⟩

end Load

/-! ## The tests that are sent -/

theorem SentTest.toJson_injective : Function.Injective (SentTest.toJson (F := F)) := by
  rintro ⟨id, visibility, input⟩ ⟨id', visibility', input'⟩ h
  cases h
  rfl

section Sent

/-- The tests of a content as they stand there. -/
def rawTests (structured : Json F) : List (Json F) :=
  match Json.get "tests" (questionMode structured) with
  | .arr raws => raws
  | _ => []

/-- The tests `question_tests` keeps. -/
def keptTests (publicOnly : Bool) (raws : List (Json F)) : List (Dict F) :=
  if publicOnly then (raws.filterMap asDict).filter isPublic else raws.filterMap asDict

def isKept (publicOnly : Bool) : Json F → Bool
  | .obj d => !publicOnly || isPublic d
  | _ => false

/-- Where the tests that are sent stand in the content. -/
def sentPositions (publicOnly : Bool) (raws : List (Json F)) : List Nat :=
  (raws.zipIdx.filter fun p => isKept publicOnly p.1).map Prod.snd

theorem keptTests_map_obj {publicOnly : Bool} {items : List (Dict F)}
    (h : publicOnly = true → ∀ d ∈ items, isPublic d = true) :
    keptTests publicOnly (items.map Json.obj) = items := by
  have hall : (items.map Json.obj).filterMap asDict = items := by
    rw [List.filterMap_map]
    exact List.filterMap_some
  rw [keptTests, hall]
  split_ifs with hpub
  · exact List.filter_eq_self.mpr (h hpub)
  · rfl

/-- Only a list of objects, all of them public where that is asked, is kept
whole. -/
theorem keptTests_length {publicOnly : Bool} {items : List (Dict F)}
    (h : items.length ≤ (keptTests publicOnly (items.map Json.obj)).length) :
    publicOnly = true → ∀ d ∈ items, isPublic d = true := by
  intro hpub
  have hall : (items.map Json.obj).filterMap asDict = items := by
    rw [List.filterMap_map]
    exact List.filterMap_some
  rw [keptTests, hall, if_pos hpub] at h
  exact List.filter_eq_self.mp
    (List.filter_sublist.eq_of_length (Nat.le_antisymm (List.length_filter_le ..) h))

theorem sentPositions_map_obj {publicOnly : Bool} {items : List (Dict F)}
    (h : publicOnly = true → ∀ d ∈ items, isPublic d = true) :
    sentPositions publicOnly (items.map Json.obj) = List.range items.length := by
  have hkept : ∀ p ∈ (items.map Json.obj).zipIdx, isKept publicOnly p.1 = true := by
    intro p hp
    obtain ⟨d, hd, hobj⟩ := List.mem_map.mp (List.fst_mem_of_mem_zipIdx hp)
    rw [← hobj, isKept]
    cases publicOnly with
    | false => rfl
    | true => exact h rfl d hd
  rw [sentPositions, List.filter_eq_self.mpr hkept, List.zipIdx_map_snd, List.length_map,
    List.range_eq_range']

theorem modeSpecification_of_lookup {structured v : Json F} {key : Str}
    (h : Json.lookup key (questionMode structured) = some v) :
    ∃ content mode, structured = .obj content ∧ modeSpecification content = some mode
      ∧ Json.lookup key mode = some v := by
  cases structured with
  | obj content =>
      change Json.lookup key ((modeSpecification content).getD []) = some v at h
      cases hmode : modeSpecification content with
      | none => rw [hmode] at h; cases h
      | some mode => exact ⟨content, mode, rfl, hmode, by rw [hmode] at h; exact h⟩
  | _ => cases h

variable [Runtime F]

theorem candidateTests_ok {structured : Json F} {publicOnly : Bool} {sent : List (SentTest F)}
    (h : candidateTests structured publicOnly = .ok sent) :
    sent ≠ [] ∧ sent = (keptTests publicOnly (rawTests structured)).mapIdx sentTest
      ∧ ∃ content mode, structured = .obj content ∧ modeSpecification content = some mode
        ∧ Json.get "tests" mode = .arr (rawTests structured) := by
  unfold candidateTests at h
  dsimp only at h
  split_ifs at h with hempty
  cases h
  refine ⟨hempty, ?_⟩
  rw [questionTests] at hempty ⊢
  rw [rawTests, Json.get]
  cases htests : Json.lookup "tests" (questionMode structured) with
  | none =>
      rw [htests] at hempty
      cases publicOnly <;> exact absurd rfl hempty
  | some value =>
      rw [htests] at hempty
      cases value with
      | arr raws =>
          obtain ⟨content, mode, hcontent, hmode, hlookup⟩ := modeSpecification_of_lookup htests
          exact ⟨rfl, content, mode, hcontent, hmode, by rw [Json.get, hlookup]; rfl⟩
      | _ => exact absurd rfl hempty

/-- The payload of an accepted SQL question. -/
def sqlPayload (schema seed : Str) (timeout : Int) (sent : List (SentTest F)) : Dict F :=
  [("schema_version", .int 1), ("schema_sql", .str schema), ("seed_sql", .str seed),
    ("statement_timeout_ms", .int timeout), ("tests", .arr (sent.map SentTest.toJson))]

theorem sqlInputPayload_ok {structured : Json F} {publicOnly : Bool} {payload : Dict F}
    (h : sqlInputPayload structured publicOnly = .ok payload) :
    ∃ schema seed timeout, isBlank schema = false ∧ (100 ≤ timeout ∧ timeout ≤ 30000) ∧
      ∃ sent, candidateTests structured publicOnly = .ok sent
        ∧ payload = sqlPayload schema seed timeout sent := by
  unfold sqlInputPayload at h
  dsimp only at h
  split at h
  · rename_i schema _
    split_ifs at h with hblank
    split at h
    · rename_i seed _
      split at h
      · rename_i timeout _
        split_ifs at h with hrange
        obtain ⟨sent, hsent, h⟩ := bind_eq_ok h
        cases h
        exact ⟨schema, seed, timeout, by simpa using hblank, by omega, sent, hsent, rfl⟩
      · cases h
    · cases h
  · cases h

theorem runtimeExecutionConfig_tests {functionNames : FunctionNames} {structured : Json F}
    {runtime : SubmissionRuntime} {publicOnly : Bool} {payload : Dict F}
    (h : runtimeExecutionConfig functionNames structured runtime publicOnly = .ok payload) :
    ∃ sent, candidateTests structured publicOnly = .ok sent
      ∧ Json.get "tests" payload = .arr (sent.map SentTest.toJson) := by
  cases runtime with
  | python =>
      obtain ⟨name, -, h⟩ := bind_eq_ok h
      obtain ⟨mode, -, h⟩ := bind_eq_ok h
      obtain ⟨sent, hsent, h⟩ := bind_eq_ok h
      cases h
      exact ⟨sent, hsent, rfl⟩
  | postgresql =>
      obtain ⟨schema, seed, timeout, -, -, sent, hsent, hpayload⟩ := sqlInputPayload_ok h
      exact ⟨sent, hsent, by rw [hpayload]; rfl⟩

end Sent

/-! ## The SQL mode -/

def sqlModeOf (content mode : Dict F) : Bool :=
  (Json.get "question_type" content).eqStr "sql_coding"
    || (Json.get "dialect" mode).eqStr "postgresql" || (Json.get "dialect" mode).eqStr "postgresql18"

/-- The dialect can be looked up in a set, or is not looked up. -/
def DialectOk (content mode : Dict F) : Prop :=
  (Json.get "question_type" content).eqStr "sql_coding" = true
    ∨ ∀ xs kvs, Json.get "dialect" mode ≠ .arr xs ∧ Json.get "dialect" mode ≠ .obj kvs

theorem isSqlMode_eq_ok {content mode : Dict F} {sqlMode : Bool} :
    isSqlMode content mode = .ok sqlMode ↔
      DialectOk content mode ∧ sqlMode = sqlModeOf content mode := by
  rw [isSqlMode, DialectOk, sqlModeOf]
  cases htype : (Json.get "question_type" content).eqStr "sql_coding" with
  | true => exact ⟨fun h => by cases h; exact ⟨.inl rfl, rfl⟩, fun ⟨_, h⟩ => by rw [h]; rfl⟩
  | false =>
      rw [if_neg Bool.false_ne_true, or_iff_right Bool.false_ne_true]
      cases Json.get "dialect" mode with
      | arr xs => exact ⟨nofun, fun ⟨h, _⟩ => absurd rfl (h xs []).1⟩
      | obj kvs => exact ⟨nofun, fun ⟨h, _⟩ => absurd rfl (h [] kvs).2⟩
      | _ => exact ⟨fun h => by cases h; exact ⟨fun _ _ => ⟨nofun, nofun⟩, rfl⟩,
          fun ⟨_, h⟩ => by rw [h]; rfl⟩

theorem isSqlMode_typeError {content mode : Dict F} (h : ¬DialectOk content mode) :
    isSqlMode content mode = .error .typeError := by
  rw [isSqlMode]
  split_ifs with htype
  · exact absurd (.inl htype) h
  · split
    · rfl
    · rfl
    · rename_i harr hobj
      exact absurd (.inr fun xs kvs => ⟨harr xs, hobj kvs⟩) h

/-! ## Alignment -/

/-- The result answers each test that was sent once, under its identifier
and its visibility. -/
def Answers (result : SandboxExecutionResult F) (sent : List (SentTest F)) : Prop :=
  (result.tests.map fun t => (t.id, t.visibility)).Perm (sent.map fun t => (t.id, t.visibility))

theorem Answers.id_mem {result : SandboxExecutionResult F} {sent : List (SentTest F)}
    (h : Answers result sent) {x : Str} :
    x ∈ result.tests.map TestResult.id ↔ x ∈ sent.map SentTest.id := by
  have hperm := h.map Prod.fst
  rw [List.map_map, List.map_map] at hperm
  exact hperm.mem_iff

section Alignment

variable [FloatArith F]

/-- The identifier is a text, or missing: `str` and the loader agree on it. -/
def IdIsText (item : Dict F) : Prop :=
  (∃ s, Json.get "id" item = .str s) ∨ (Json.get "id" item).truthy = false

/-- No text of a value that is neither a text nor empty looks like `test-1`. -/
theorem repr_ne_testName {v : Json F} (h : ∀ s, v ≠ .str s) (hnull : v ≠ .null) (index : Nat) :
    v.repr ≠ testName index := by
  -- it opens with another character than `t`
  suffices hhead : v.repr.head? ≠ some 116 from fun heq => hhead (by rw [heq]; rfl)
  cases v with
  | null => exact absurd rfl hnull
  | bool b =>
      intro hhead
      cases b <;> cases hhead
  | int n =>
      rw [Json.repr]
      rcases intText_cases n with ⟨heq, -⟩ | ⟨heq, -⟩
      · intro hhead
        have hdigit := natText_digits n.natAbs 116 (List.mem_of_head? (heq ▸ hhead))
        cases hdigit
      · rw [heq]
        intro hhead
        cases hhead
  | float x =>
      rw [Json.repr]
      intro hhead
      cases hx : Runtime.floatStr x with
      | nil => rw [hx] at hhead; cases hhead
      | cons c t =>
          rw [hx] at hhead
          cases Option.some.inj hhead
          exact FloatArith.floatStr_head x t hx
  | str s => exact absurd rfl (h s)
  | arr xs =>
      intro hhead
      cases hhead
  | obj kvs =>
      intro hhead
      cases hhead

/-- Both sides give a test the same identifier exactly when it is a text or
missing. -/
theorem sentTest_id_iff {index : Nat} {item : Dict F} :
    (sentTest index item).id = expectedId index item ↔ IdIsText item := by
  change strOr (Json.get "id" item) (testName index) = _ ↔ _
  rw [strOr, expectedId, IdIsText]
  generalize Json.get "id" item = v
  by_cases hs : ∃ s, v = .str s
  · obtain ⟨s, rfl⟩ := hs
    refine iff_of_true ?_ (.inl ⟨s, rfl⟩)
    cases s with
    | nil => rfl
    | cons c t => rfl
  · have hne : ∀ s, v ≠ .str s := fun s h => hs ⟨s, h⟩
    have hnone : optionalString v = none := by
      cases v with
      | str s => exact absurd rfl (hne s)
      | _ => rfl
    have hrepr : v.pyStr = v.repr := by
      cases v with
      | str s => exact absurd rfl (hne s)
      | _ => rfl
    rw [or_iff_right hs, hnone, hrepr]
    cases htruthy : v.truthy with
    | false => exact iff_of_true rfl rfl
    | true =>
        have hnull : v ≠ .null := fun h => by subst h; cases htruthy
        exact iff_of_false (repr_ne_testName hne hnull index) fun h => by cases h

/-! ## When sent tests are graded -/

/-- `load_expected_tests` on a content whose tests are a list. -/
theorem loadExpectedTests_eq_ok {content mode : Dict F} {raws : List (Json F)}
    (hmode : modeSpecification content = some mode) (htests : Json.get "tests" mode = .arr raws)
    (hne : raws ≠ []) {expected : List (ExpectedTest F)} :
    loadExpectedTests (.obj content) = .ok expected ↔
      raws.length ≤ maxResultTests ∧ DialectOk content mode
        ∧ expectedTests (.ofMode (sqlModeOf content mode) mode) [] 0 raws = .ok expected := by
  have hcontent : checked (objectDict (.obj content : Json F) "Question structured content")
      = .ok content := rfl
  rw [loadExpectedTests, hcontent, ok_bind, hmode]
  dsimp only
  rw [checked_eq_ok.mpr (objectList_eq_ok.mpr htests), ok_bind]
  constructor
  · intro h
    split_ifs at h with hsize
    rw [not_or, Nat.not_lt] at hsize
    obtain ⟨sqlMode, hsql, h⟩ := bind_eq_ok h
    obtain ⟨hdialect, rfl⟩ := isSqlMode_eq_ok.mp hsql
    exact ⟨hsize.2, hdialect, h⟩
  · rintro ⟨hsize, hdialect, h⟩
    rw [if_neg (not_or.mpr ⟨hne, Nat.not_lt.mpr hsize⟩),
      isSqlMode_eq_ok.mpr ⟨hdialect, rfl⟩, ok_bind, h]

theorem exists_loads {defaults : TestDefaults F} :
    ∀ {items : List (Dict F × Nat)},
      (∀ p ∈ items, PolicyOk (defaultStrategy defaults.sqlMode) p.1) →
        ∃ expected, List.Forall₂ (Loads defaults) items expected
  | [], _ => ⟨[], .nil⟩
  | p :: items, h => by
      rw [List.forall_mem_cons] at h
      obtain ⟨policy, hpolicy⟩ := comparisonPolicy_isOk h.1
      obtain ⟨expected, hloads⟩ := exists_loads h.2
      exact ⟨_, .cons ⟨policy, hpolicy, rfl⟩ hloads⟩

theorem loads_ids {defaults : TestDefaults F} {items : List (Dict F × Nat)}
    {expected : List (ExpectedTest F)} (h : List.Forall₂ (Loads defaults) items expected) :
    expected.map ExpectedTest.id = items.map fun p => expectedId p.2 p.1 := by
  induction h with
  | nil => rfl
  | cons hp _ ih =>
      obtain ⟨policy, -, rfl⟩ := hp
      rw [List.map_cons, List.map_cons, ih]
      rfl

theorem loads_at {defaults : TestDefaults F} {items : List (Dict F × Nat)}
    {expected : List (ExpectedTest F)} (h : List.Forall₂ (Loads defaults) items expected) :
    ∀ {k : Nat} {p : Dict F × Nat}, items[k]? = some p →
      ∃ e, expected[k]? = some e ∧ Loads defaults p e := by
  induction h with
  | nil => exact fun hp => by cases hp
  | cons hp _ ih =>
      rintro (_ | k) q hq
      · cases hq
        exact ⟨_, rfl, hp⟩
      · exact ih hq

/-- Every test that is sent is compared with what was loaded at its own
place in the content. -/
def ComparesOwn (publicOnly : Bool) (structured : Json F) (sent : List (SentTest F))
    (expected : List (ExpectedTest F)) : Prop :=
  ∀ (k j : Nat) (t : SentTest F),
    (sentPositions publicOnly (rawTests structured))[k]? = some j →
      sent[k]? = some t → ∃ e, expected[j]? = some e ∧ findTest t.id expected = some e

/-- What the content has to meet, and the comparisons of a result. -/
structure GradableTests (content mode : Dict F) (items : List (Dict F)) (publicOnly : Bool)
    (result : SandboxExecutionResult F) : Prop where
  size : items.length ≤ maxResultTests
  allSent : publicOnly = true → ∀ d ∈ items, isPublic d = true
  texts : ∀ d ∈ items, IdIsText d
  distinct : (items.zipIdx.map fun p => expectedId p.2 p.1).Nodup
  dialect : DialectOk content mode
  policies : ∀ d ∈ items, PolicyOk (defaultStrategy (sqlModeOf content mode)) d
  comparisons : ∀ t ∈ result.tests, ∀ p ∈ items.zipIdx, expectedId p.2 p.1 = t.id →
    ComparisonDefined (.ofMode (sqlModeOf content mode) mode) p.1 t

def Gradable (structured : Json F) (publicOnly : Bool) (result : SandboxExecutionResult F) : Prop :=
  ∃ content mode items, structured = .obj content ∧ modeSpecification content = some mode
    ∧ Json.get "tests" mode = .arr (items.map Json.obj)
    ∧ GradableTests content mode items publicOnly result

/-- Graded tests were all sent, under the identifiers they are expected
with. -/
theorem gradable_of_graded {structured : Json F} {publicOnly : Bool} {sent : List (SentTest F)}
    (hsent : candidateTests structured publicOnly = .ok sent)
    {result : SandboxExecutionResult F} (hstatus : result.status = "COMPLETED")
    (hresult : Answers result sent) {expected : List (ExpectedTest F)}
    (hload : loadExpectedTests structured = .ok expected)
    {projection : TrustedExecutionProjection F}
    (hcompare : trustedCompare result expected = .ok projection)
    (hown : ComparesOwn publicOnly structured sent expected) :
    Gradable structured publicOnly result := by
  obtain ⟨hne, hkept, content, mode, rfl, hmode, htests⟩ := candidateTests_ok hsent
  have hraws : rawTests (.obj content) ≠ [] := fun h => by
    rw [h] at hkept
    cases publicOnly <;> exact hne hkept
  obtain ⟨hsize, hdialect, hexpected⟩ := (loadExpectedTests_eq_ok hmode htests hraws).mp hload
  obtain ⟨items, hitems, hloads, hnodup, -⟩ := expectedTests_eq_ok.mp hexpected
  obtain ⟨-, hall, hgrade⟩ := trustedCompare_isOk.mp ⟨projection, hcompare⟩
  rw [ComparesOwn, hitems] at hown
  rw [hitems] at hkept htests hsize
  rw [List.length_map] at hsize
  -- as many tests are sent as are expected, for the expected ones are all answered
  have hlength : expected.length = items.length := by
    rw [← hloads.length_eq, List.length_zipIdx]
  have hsub : expected.map ExpectedTest.id ⊆ sent.map SentTest.id := fun x hx => by
    obtain ⟨e, he, rfl⟩ := List.mem_map.mp hx
    exact hresult.id_mem.mp (hall (by rw [hstatus]; rfl) e he)
  have hallSent : publicOnly = true → ∀ d ∈ items, isPublic d = true := by
    refine keptTests_length ?_
    have hle := (List.subperm_of_subset hnodup hsub).length_le
    rw [List.length_map, List.length_map, hkept, List.length_mapIdx, hlength] at hle
    exact hle
  rw [keptTests_map_obj hallSent, List.mapIdx_eq_zipIdx_map] at hkept
  rw [sentPositions_map_obj hallSent] at hown
  refine ⟨content, mode, items, rfl, hmode, htests, hsize, hallSent, ?_, ?_, hdialect, ?_, ?_⟩
  · intro d hd
    obtain ⟨k, hk⟩ := List.mem_iff_getElem?.mp hd
    have hzip : items.zipIdx[k]? = some (d, k) := by
      rw [List.getElem?_zipIdx, hk, Option.map_some, Nat.zero_add]
    obtain ⟨e, he, policy, -, rfl⟩ := loads_at hloads hzip
    have hpos : (List.range items.length)[k]? = some k :=
      List.getElem?_range (List.getElem?_eq_some_iff.mp hk).1
    have hsent : sent[k]? = some (sentTest k d) := by
      rw [hkept, List.getElem?_map, hzip, Option.map_some]
    obtain ⟨e, he', hfind⟩ := hown k k _ hpos hsent
    obtain rfl := Option.some.inj (he'.symm.trans he)
    exact sentTest_id_iff.mp (Tables.key_of_find hfind).symm
  · rw [← loads_ids hloads]
    exact hnodup
  · intro d hd
    obtain ⟨k, hk⟩ := List.mem_iff_getElem?.mp hd
    have hzip : items.zipIdx[k]? = some (d, k) := by
      rw [List.getElem?_zipIdx, hk, Option.map_some, Nat.zero_add]
    obtain ⟨e, -, policy, hpolicy, -⟩ := loads_at hloads hzip
    obtain ⟨strategy, hmem, hnamed, -⟩ := comparisonPolicy_eq_ok hpolicy
    exact ⟨strategy, hmem, hnamed⟩
  · intro t ht p hp hid
    obtain ⟨k, hk⟩ := List.mem_iff_getElem?.mp hp
    obtain ⟨e, he, policy, hpolicy, rfl⟩ := loads_at hloads hk
    obtain ⟨e', hfind, -, hpassed⟩ := gradeTests_isOk.mp hgrade t ht
    have hfound := Tables.find_of_mem hnodup (List.mem_iff_getElem?.mpr ⟨k, he⟩)
    obtain rfl := Option.some.inj (hfind.symm.trans ((congrArg (findTest · expected) hid.symm).trans
      hfound))
    exact (testPassed_isOk hpolicy).mp hpassed

theorem graded_of_gradable {structured : Json F} {publicOnly : Bool} {sent : List (SentTest F)}
    (hsent : candidateTests structured publicOnly = .ok sent)
    {result : SandboxExecutionResult F}
    (hresult : Answers result sent) (h : Gradable structured publicOnly result) :
    ∃ expected projection, loadExpectedTests structured = .ok expected
      ∧ trustedCompare result expected = .ok projection
      ∧ ComparesOwn publicOnly structured sent expected := by
  obtain ⟨content, mode, items, rfl, hmode, htests, h⟩ := h
  obtain ⟨hne, hkept, content', mode', hcontent, hmode', htests'⟩ := candidateTests_ok hsent
  cases hcontent
  obtain rfl := Option.some.inj (hmode'.symm.trans hmode)
  have hitems := Json.arr.inj (htests'.symm.trans htests)
  rw [hitems, keptTests_map_obj h.allSent, List.mapIdx_eq_zipIdx_map] at hkept
  have hraws : rawTests (.obj content) ≠ [] := fun hnil => by
    rw [hitems, List.map_eq_nil_iff] at hnil
    rw [hnil] at hkept
    exact hne hkept
  obtain ⟨expected, hloads⟩ : ∃ expected, List.Forall₂
      (Loads (.ofMode (sqlModeOf content mode') mode')) items.zipIdx expected :=
    exists_loads fun p hp => h.policies p.1 (List.fst_mem_of_mem_zipIdx hp)
  have hnodup : (expected.map ExpectedTest.id).Nodup := by
    rw [loads_ids hloads]
    exact h.distinct
  have hload : loadExpectedTests (.obj content) = .ok expected := by
    refine (loadExpectedTests_eq_ok hmode htests' hraws).mpr ⟨?_, h.dialect, ?_⟩
    · rw [hitems, List.length_map]
      exact h.size
    · exact expectedTests_eq_ok.mpr ⟨items, hitems, hloads, hnodup, fun _ _ => nofun⟩
  -- both sides use the same identifiers
  have hid : ∀ p ∈ items.zipIdx, (sentTest p.2 p.1).id = expectedId p.2 p.1 := fun p hp =>
    sentTest_id_iff.mpr (h.texts p.1 (List.fst_mem_of_mem_zipIdx hp))
  have hids : sent.map SentTest.id = expected.map ExpectedTest.id := by
    rw [loads_ids hloads, hkept, List.map_map]
    exact List.map_congr_left hid
  have hcompare : ∃ projection, trustedCompare result expected = .ok projection := by
    refine trustedCompare_isOk.mpr ⟨fun t ht => ?_, fun _ e he => ?_, gradeTests_isOk.mpr
      fun t ht => ?_⟩
    · rw [← hids]
      exact hresult.id_mem.mp (List.mem_map_of_mem ht)
    · refine hresult.id_mem.mpr ?_
      rw [hids]
      exact List.mem_map_of_mem he
    · obtain ⟨x, hx, heq⟩ := List.mem_map.mp (hresult.mem_iff.mp
        (List.mem_map_of_mem (f := fun t : TestResult F => (t.id, t.visibility)) ht))
      rw [hkept] at hx
      obtain ⟨p, hp, rfl⟩ := List.mem_map.mp hx
      obtain ⟨hidt, hvis⟩ := Prod.mk.inj heq
      obtain ⟨k, hk⟩ := List.mem_iff_getElem?.mp hp
      obtain ⟨e, he, policy, hpolicy, rfl⟩ := loads_at hloads hk
      refine ⟨expectedTest _ p.2 p.1 policy, ?_, hvis.symm, (testPassed_isOk hpolicy).mpr (h.comparisons t ht p hp ?_)⟩
      · rw [← hidt, hid p hp]
        exact Tables.find_of_mem hnodup (List.mem_iff_getElem?.mpr ⟨k, he⟩)
      · rw [← hid p hp, hidt]
  obtain ⟨projection, hprojection⟩ := hcompare
  refine ⟨expected, projection, hload, hprojection, fun k j t hj ht => ?_⟩
  rw [hitems, sentPositions_map_obj h.allSent] at hj
  obtain ⟨hlt, hkj⟩ := List.getElem?_eq_some_iff.mp hj
  rw [List.getElem_range] at hkj
  subst hkj
  rw [hkept, List.getElem?_map] at ht
  obtain ⟨p, hp, rfl⟩ := Option.map_eq_some_iff.mp ht
  obtain ⟨e, he, policy, -, rfl⟩ := loads_at hloads hp
  refine ⟨_, he, ?_⟩
  rw [hid p (List.mem_iff_getElem?.mpr ⟨k, hp⟩)]
  exact Tables.find_of_mem hnodup (List.mem_iff_getElem?.mpr ⟨k, he⟩)

/-- The tests that are sent are graded, each against its own expected
output, exactly when the content and the comparisons meet `Gradable`. -/
theorem sent_tests_graded_iff {functionNames : FunctionNames} {structured : Json F}
    {runtime : SubmissionRuntime} {publicOnly : Bool} {payload : Dict F}
    (hpayload : runtimeExecutionConfig functionNames structured runtime publicOnly = .ok payload)
    {sent : List (SentTest F)} (hsent : Json.get "tests" payload = .arr (sent.map SentTest.toJson))
    {result : SandboxExecutionResult F} (hstatus : result.status = "COMPLETED")
    (hresult : Answers result sent) :
    (∃ expected projection, loadExpectedTests structured = .ok expected
        ∧ trustedCompare result expected = .ok projection
        ∧ ComparesOwn publicOnly structured sent expected)
      ↔ Gradable structured publicOnly result := by
  obtain ⟨sent', hcandidate, hpayload⟩ := runtimeExecutionConfig_tests hpayload
  obtain rfl : sent' = sent := by
    rw [hsent] at hpayload
    exact (SentTest.toJson_injective.list_map (Json.arr.inj hpayload)).symm
  exact ⟨fun ⟨_, _, hload, hcompare, hown⟩ =>
      gradable_of_graded hcandidate hstatus hresult hload hcompare hown,
    graded_of_gradable hcandidate hresult⟩

end Alignment

/-! ## A question with two tests -/

def echoTest (visibility : Str) : Dict NanoFloat :=
  [("visibility", .str visibility), ("input", .obj [("value", .int 1)]),
    ("expected_output", .int 1)]

def echoMode (items : List (Dict NanoFloat)) : Dict NanoFloat :=
  [("entrypoint", .str "echo"), ("tests", .arr (items.map Json.obj))]

def echoContent (items : List (Dict NanoFloat)) : Dict NanoFloat :=
  [("question_type", .str "python_coding"), ("mode_specification", .obj (echoMode items))]

def echoResult : SandboxExecutionResult NanoFloat where
  executionId := "execution"
  attempt := 1
  status := "COMPLETED"
  runtimeMs := 3
  exitCode := 0
  tests := [⟨"test-1", "public", true, .int 1, none⟩]
  stdout := []
  stderr := []
  errorCategory := none

def echoPayload : Dict NanoFloat :=
  [("schema_version", .int 1), ("entrypoint", .str "echo"), ("invocation_mode", .str "auto"),
    ("tests", .arr [(sentTest 0 (echoTest "public")).toJson])]

/-- A public test that is run alone is graded. -/
theorem sent_tests_graded_iff_echo :
    ∃ expected projection, loadExpectedTests (.obj (echoContent [echoTest "public"])) = .ok expected
      ∧ trustedCompare echoResult expected = .ok projection
      ∧ ComparesOwn true (.obj (echoContent [echoTest "public"]))
        [sentTest 0 (echoTest "public")] expected := by
  have hpayload : runtimeExecutionConfig (fun _ => none) (.obj (echoContent [echoTest "public"]))
      .python true = .ok echoPayload := rfl
  have hanswers : Answers echoResult [sentTest 0 (echoTest "public")] := List.Perm.refl _
  refine (sent_tests_graded_iff hpayload rfl rfl hanswers).mpr
    ⟨_, echoMode [echoTest "public"], [echoTest "public"], rfl, rfl, rfl, ?_⟩
  exact {
    size := by decide
    allSent := fun _ => by decide
    texts := fun d hd => by rw [List.mem_singleton.mp hd]; exact .inr rfl
    distinct := by decide
    dialect := .inr fun _ _ => ⟨nofun, nofun⟩
    policies := fun d hd => by
      rw [List.mem_singleton.mp hd]
      exact ⟨"exact", by decide, rfl⟩
    comparisons := fun t _ p hp _ _ _ hnumeric => by
      rw [List.mem_singleton.mp hp] at hnumeric
      exact absurd (Option.some.inj hnumeric) (by decide) }

/-- Running a question with a hidden test sends its public tests only, and
the result is refused because the hidden test is missing. -/
theorem hiddenTest_omitted : ∃ payload expected,
    runtimeExecutionConfig (fun _ => none) (.obj (echoContent [echoTest "public", echoTest "hidden"]))
        .python true = .ok payload
      ∧ Json.get "tests" payload = .arr ([sentTest 0 (echoTest "public")].map SentTest.toJson)
      ∧ echoResult.status = "COMPLETED" ∧ Answers echoResult [sentTest 0 (echoTest "public")]
      ∧ loadExpectedTests (.obj (echoContent [echoTest "public", echoTest "hidden"])) = .ok expected
      ∧ trustedCompare echoResult expected
        = .error (.trusted "Completed runner result omitted one or more expected tests.") :=
  ⟨_, _, rfl, rfl, rfl, List.Perm.refl _, rfl, rfl⟩

end Rigor
