import Rigor.Results

/-!
# The record a runner prints

Both runners end with one line: the marker and the JSON text of a result
`dict`. `RunnerRecord` is that `dict`; what every runner guarantees of it -
identifiers that are not empty, a known status, a run time that is not
negative - are its fields, so each `main` discharges them where it builds
the record.
-/

namespace Rigor

open Py

variable {F : Type}

/-- The members that close a record: the Python runner's flags, or the
category of a SQL or failure record. -/
inductive RecordTail where
  | truncated (stdout stderr : Bool)
  | errorCategory (category : Option Str)

def RecordTail.category : RecordTail → Option Str
  | .truncated _ _ => none
  | .errorCategory c => c

/-- One entry of `tests`, as a runner writes it. -/
structure TestResult.Honest (t : TestResult F) : Prop where
  id_ne : t.id ≠ []
  visibility_ok : t.visibility = "public" ∨ t.visibility = "hidden"
  category_ne : t.errorCategory ≠ some []
  distinctKeys : t.actual.DistinctKeys

structure RunnerRecord (F : Type) where
  attempt : Int
  status : Str
  runtimeMs : Int
  exitCode : Int
  tests : List (TestResult F)
  stdout : Str
  stderr : Str
  tail : RecordTail
  tests_honest : ∀ t ∈ tests, t.Honest
  status_ok : status = "COMPLETED" ∨ status = "FAILED" ∨ status = "TIMEOUT"
  runtime_ok : 0 ≤ runtimeMs
  category_ok : tail.category ≠ some []

/-! ## The record as JSON -/

/-- `None` or a text. -/
def optionalJson : Option Str → Json F
  | none => .null
  | some s => .str s

def TestResult.entries (t : TestResult F) : Dict F :=
  [("id", .str t.id), ("visibility", .str t.visibility), ("ok", .bool t.ok),
    ("actual", t.actual), ("error_category", optionalJson t.errorCategory)]

def RecordTail.entries : RecordTail → Dict F
  | .truncated out err => [("stdout_truncated", .bool out), ("stderr_truncated", .bool err)]
  | .errorCategory c => [("error_category", optionalJson c)]

namespace RunnerRecord

/-- The `dict` that `main` prints; the execution identifier is added last. -/
def entries (r : RunnerRecord F) (executionId : Str) : Dict F :=
  let head : Dict F :=
    [("schema_version", .int 1), ("attempt", .int r.attempt), ("status", .str r.status),
      ("runtime_ms", .int r.runtimeMs), ("exit_code", .int r.exitCode),
      ("tests", .arr (r.tests.map fun t => .obj t.entries)), ("stdout", .str r.stdout),
      ("stderr", .str r.stderr)]
  let last : Dict F := [("execution_id", .str executionId)]
  head ++ (r.tail.entries ++ last)

def toJson (r : RunnerRecord F) (executionId : Str) : Json F := .obj (r.entries executionId)

/-- What the parser makes of the record when it reads it. -/
def parsed (r : RunnerRecord F) (executionId : Str) : SandboxExecutionResult F where
  executionId := executionId
  attempt := r.attempt
  status := r.status
  runtimeMs := r.runtimeMs
  exitCode := r.exitCode
  tests := r.tests
  stdout := r.stdout.take maxPublicStreamBytes
  stderr := r.stderr.take maxPublicStreamBytes
  errorCategory := r.tail.category

/-- The record of a `main` that caught an error. -/
def failure (attempt exitCode : Int) (category : Str) (hc : category ≠ []) : RunnerRecord F where
  attempt := attempt
  status := "FAILED"
  runtimeMs := 0
  exitCode := exitCode
  tests := []
  stdout := []
  stderr := []
  tail := .errorCategory (some category)
  tests_honest := nofun
  status_ok := .inr (.inl rfl)
  runtime_ok := Int.le_refl 0
  category_ok := fun h => hc (Option.some.inj h)

/-! What the runners write into their records is well formed. -/

theorem inputError_ne : ("RunnerInputError" : Str) ≠ [] := by decide

theorem completed_ok :
    ("COMPLETED" : Str) = "COMPLETED" ∨ ("COMPLETED" : Str) = "FAILED"
      ∨ ("COMPLETED" : Str) = "TIMEOUT" := .inl rfl

theorem truncated_ok (out err : Bool) : (RecordTail.truncated out err).category ≠ some [] := by
  intro h
  cases h

theorem distinctKeys_optionalJson (c : Option Str) :
    (optionalJson c : Json F).DistinctKeys := by
  cases c <;> trivial

theorem distinctKeys_tests : ∀ {ts : List (TestResult F)}, (∀ t ∈ ts, t.Honest) →
    Json.DistinctKeysElements (ts.map fun t => .obj t.entries)
  | [], _ => trivial
  | t :: _, h => by
      obtain ⟨ht, hts⟩ := List.forall_mem_cons.mp h
      refine ⟨⟨?_, ?_⟩, distinctKeys_tests hts⟩
      · show ((["id", "visibility", "ok", "actual", "error_category"] :
          List String).map Str.ofString).Nodup
        decide
      · exact ⟨trivial, trivial, trivial, ht.distinctKeys, distinctKeys_optionalJson _, trivial⟩

/-- The record is a proper `dict`. -/
theorem distinctKeys (r : RunnerRecord F) (executionId : Str) :
    (r.toJson executionId).DistinctKeys := by
  obtain ⟨attempt, status, runtimeMs, exitCode, tests, stdout, stderr, tail, ht, -, -, -⟩ := r
  have hts := distinctKeys_tests ht
  cases tail with
  | truncated out err =>
      refine ⟨?_, trivial, trivial, trivial, trivial, trivial, hts, trivial, trivial, trivial,
        trivial, trivial, trivial⟩
      show ((["schema_version", "attempt", "status", "runtime_ms", "exit_code", "tests",
        "stdout", "stderr", "stdout_truncated", "stderr_truncated", "execution_id"] :
          List String).map Str.ofString).Nodup
      decide
  | errorCategory c =>
      refine ⟨?_, trivial, trivial, trivial, trivial, trivial, hts, trivial, trivial,
        distinctKeys_optionalJson c, trivial, trivial⟩
      show ((["schema_version", "attempt", "status", "runtime_ms", "exit_code", "tests",
        "stdout", "stderr", "error_category", "execution_id"] :
          List String).map Str.ofString).Nodup
      decide

/-! ## The parser on the record -/

theorem optionalString_optionalJson {c : Option Str} (h : c ≠ some []) :
    optionalString (optionalJson c : Json F) = c := by
  cases c with
  | none => rfl
  | some s => exact if_neg fun hs => h (congrArg some hs)

theorem requiredString_str {s label : Str} (h : s ≠ []) :
    requiredString (.str s : Json F) label = .ok s := if_neg h

variable [Runtime F]

theorem strOr_str (s : Str) : strOr (.str s : Json F) [] = s := by
  cases s <;> rfl

/-- One honest entry: only a repeated identifier stops the loop. -/
theorem parseTests_cons {t : TestResult F} (ht : t.Honest) (seen : List Str)
    (rest : List (Json F)) :
    parseTests seen (.obj t.entries :: rest) =
      if t.id ∈ seen then .error (.trusted "Runner test identifiers must be unique.")
      else (parseTests (t.id :: seen) rest).map (t :: ·) := by
  have hvis : ¬(t.visibility ≠ "public" ∧ t.visibility ≠ "hidden") := by
    rcases ht.visibility_ok with h | h
    · exact fun hn => hn.1 h
    · exact fun hn => hn.2 h
  have hvne : t.visibility ≠ [] := by
    rcases ht.visibility_ok with h | h <;> rw [h] <;> decide
  have hid : Json.get "id" t.entries = .str t.id := rfl
  have hvisibility : Json.get "visibility" t.entries = .str t.visibility := rfl
  have hok : (Json.get "ok" t.entries).truthy = t.ok := rfl
  have hactual : Json.get "actual" t.entries = t.actual := rfl
  have hcategory : Json.get "error_category" t.entries = optionalJson t.errorCategory := rfl
  rw [parseTests]
  simp only [objectDict, hid, hvisibility, hok, hactual, hcategory, bind, Except.bind,
    requiredString_str ht.id_ne, requiredString_str hvne,
    optionalString_optionalJson ht.category_ne, if_neg hvis]
  cases parseTests (t.id :: seen) rest <;> rfl

/-- The entries of honest tests with distinct identifiers are read back. -/
theorem parseTests_entries : ∀ {ts : List (TestResult F)} {seen : List Str},
    (∀ t ∈ ts, t.Honest) → (∀ t ∈ ts, t.id ∉ seen) → (ts.map TestResult.id).Nodup →
      parseTests seen (ts.map fun t => .obj t.entries) = .ok ts
  | [], _, _, _, _ => rfl
  | t :: ts, seen, h, hseen, hnd => by
      obtain ⟨ht, hts⟩ := List.forall_mem_cons.mp h
      obtain ⟨hs, hss⟩ := List.forall_mem_cons.mp hseen
      rw [List.map_cons, List.nodup_cons] at hnd
      have hrest : parseTests (t.id :: seen) (ts.map fun t => .obj t.entries) = .ok ts :=
        parseTests_entries hts
          (fun x hx hm => (List.mem_cons.mp hm).elim
            (fun heq => hnd.1 (heq ▸ List.mem_map_of_mem hx)) (hss x hx)) hnd.2
      rw [List.map_cons, parseTests_cons ht, if_neg hs, hrest]
      rfl

/-- Whatever the loop accepts is what the runner wrote. -/
theorem eq_of_parseTests_entries : ∀ {ts ts' : List (TestResult F)} {seen : List Str},
    (∀ t ∈ ts, t.Honest) → parseTests seen (ts.map fun t => .obj t.entries) = .ok ts' → ts' = ts
  | [], _, _, _, h => by cases h; rfl
  | t :: ts, ts', seen, h, hp => by
      obtain ⟨ht, hts⟩ := List.forall_mem_cons.mp h
      rw [List.map_cons, parseTests_cons ht] at hp
      split_ifs at hp with hs
      obtain ⟨rest, hrest, heq⟩ := map_eq_ok hp
      rw [← heq, eq_of_parseTests_entries hts hrest]

/-- The checks that a record can fail: its identifier, its attempt, the
number of its tests, and their identifiers. -/
theorem readPayload_entries (r : RunnerRecord F) (eid id : Str) (att : Option Int) :
    readPayload (r.entries eid) id att =
      if eid ≠ id then .error (.trusted "Runner result execution identifier mismatch.")
      else if r.attempt < 0 then .error (.trusted "Runner execution attempt is invalid.")
      else if r.attempt < 1 then .error (.trusted "Runner execution attempt must be positive.")
      else if att.any (· ≠ r.attempt) then
        .error (.trusted "Runner result execution attempt mismatch.")
      else if r.tests.length > maxResultTests then
        .error (.trusted "Runner test result list exceeds the trusted limit.")
      else (parseTests [] (r.tests.map fun t => .obj t.entries)).map
        fun tests => { r.parsed id with tests := tests } := by
  have hversion : (Json.get "schema_version" (r.entries eid)).eqInt 1 = true := rfl
  have hattempt : Json.get "attempt" (r.entries eid) = .int r.attempt := rfl
  have hstatus : Json.get "status" (r.entries eid) = .str r.status := rfl
  have htests : Json.get "tests" (r.entries eid) =
      .arr (r.tests.map fun t => .obj t.entries) := rfl
  have hruntime : Json.get "runtime_ms" (r.entries eid) = .int r.runtimeMs := rfl
  have hexit : Json.get "exit_code" (r.entries eid) = .int r.exitCode := rfl
  have hstdout : Json.get "stdout" (r.entries eid) = .str r.stdout := rfl
  have hstderr : Json.get "stderr" (r.entries eid) = .str r.stderr := rfl
  have hcategory : optionalString (Json.get "error_category" (r.entries eid))
      = r.tail.category := by
    have := r.category_ok
    rw [entries]
    cases hr : r.tail with
    | truncated out err => rfl
    | errorCategory c =>
        rw [hr] at this
        exact optionalString_optionalJson this
  have hid : (Json.get "execution_id" (r.entries eid)).eqStr id = decide (eid = id) := by
    have hget : Json.get "execution_id" (r.entries eid) = .str eid := by
      rw [entries]
      cases r.tail <;> rfl
    rw [hget]
    exact beq_eq_decide eid id
  have hstatus_ne : r.status ≠ [] := by
    rcases r.status_ok with h | h | h <;> rw [h] <;> decide
  have hstatus_ok : ¬(r.status ≠ "COMPLETED" ∧ r.status ≠ "FAILED" ∧ r.status ≠ "TIMEOUT") := by
    rcases r.status_ok with h | h | h
    · exact fun hn => hn.1 h
    · exact fun hn => hn.2.1 h
    · exact fun hn => hn.2.2 h
  have hpositive : positiveInt (.int r.attempt : Json F) "Runner execution attempt" =
      if r.attempt < 0 then .error (.trusted "Runner execution attempt is invalid.")
      else if r.attempt < 1 then .error (.trusted "Runner execution attempt must be positive.")
      else .ok r.attempt := by
    rw [positiveInt, nonnegativeInt]
    by_cases h0 : r.attempt < 0
    · rw [if_pos h0, if_pos h0]; rfl
    · rw [if_neg h0, if_neg h0]
      exact ite_congr rfl (fun _ => rfl) fun _ => rfl
  rw [readPayload]
  simp only [hversion, hattempt, hstatus, htests, hruntime, hexit, hstdout, hstderr, hcategory,
    hid, hpositive, nonnegativeInt, objectList, requiredString_str hstatus_ne, strOr_str,
    if_neg (Int.not_lt.mpr r.runtime_ok), decide_eq_false_iff_not, Bool.true_eq_false,
    if_false]
  by_cases heid : eid = id
  · rw [if_neg (not_not.mpr heid), if_neg (not_not.mpr heid)]
    by_cases h0 : r.attempt < 0
    · rw [if_pos h0, if_pos h0]; rfl
    rw [if_neg h0, if_neg h0]
    by_cases h1 : r.attempt < 1
    · rw [if_pos h1, if_pos h1]; rfl
    rw [if_neg h1, if_neg h1]
    simp only [ok_bind, if_neg hstatus_ok, List.length_map]
    cases parseTests [] (r.tests.map fun t => .obj t.entries) <;> rfl
  · rw [if_pos heid, if_pos heid]

/-- An accepted record is the runner's own. -/
theorem eq_of_readPayload_entries (r : RunnerRecord F) {eid id : Str} {att : Option Int}
    {res : SandboxExecutionResult F} (h : readPayload (r.entries eid) id att = .ok res) :
    res = r.parsed id := by
  rw [r.readPayload_entries] at h
  split_ifs at h
  obtain ⟨tests, htests, rfl⟩ := map_eq_ok h
  rw [eq_of_parseTests_entries r.tests_honest htests]
  rfl

end RunnerRecord

end Rigor
