import Rigor.RunnerRecord

/-!
# The result log, from the runner to the parser

A runner's `main` prints its record behind the marker; the local executor
builds the same text from the record it fetched. The parser takes the last
marked line of the log.

The encoder escapes every line boundary of a string but NEL and the two
Unicode separators. A record without these comes back as it was written;
a record with one of them is cut and never comes back. Whatever line the
parser then takes, no member of it was written inside a literal, so the
schema check rejects it: what a candidate prints is never the record.
-/

namespace Rigor

open Py

variable {F : Type} [Runtime F]

/-! ## The two logs -/

/-- `print(RESULT_PREFIX + json.dumps(result, ...))`. -/
def printed (result : Json F) : Str := resultPrefix ++ (result.encode ++ [10])

structure SandboxObservation where
  state : Str
  logs : Str
  reason : Option Str

/-- A pending call of the local executor; `done none` is a call that raised. -/
inductive RunnerFuture (F : Type) where
  | missing
  | running
  | done (result : Option (Dict F))

def maxRunnerResponseBytes : Nat := 512 * 1024

/-- `_invoke`, on the body of the response. -/
def invoke (body : Str) : Option (Dict F) :=
  if utf8Len body > maxRunnerResponseBytes then none
  else match (loads body : Except LoadError (Json F)) with
    | .ok (.obj kvs) => some kvs
    | _ => none

/-- The record that stands for a call that raised. -/
def failedCall (executionId : Str) (attempt : Int) : Dict F :=
  [("schema_version", .int 1), ("execution_id", .str executionId),
    ("attempt", .int (max 1 attempt)), ("status", .str "FAILED"), ("runtime_ms", .int 0),
    ("exit_code", .int 3), ("tests", .arr []), ("stdout", .str []), ("stderr", .str []),
    ("error_category", .str "runner_infrastructure_error")]

/-- `LocalHttpSandboxExecutor.observe`. -/
def observe (executionId : Str) (attempt : Int) : RunnerFuture F → SandboxObservation
  | .missing => ⟨"MISSING", [], none⟩
  | .running => ⟨"RUNNING", [], none⟩
  | .done result =>
      let result := result.getD (failedCall executionId attempt)
      let reason := strOr (Json.get "error_category" result) []
      { state := if strOr (Json.get "status" result) "FAILED" = "COMPLETED" then "SUCCEEDED"
          else "FAILED"
        logs := resultPrefix ++ (Json.obj result).encode
        reason := if reason = [] then none else some reason }

/-- The log of a record that the runner's server answered with. -/
def observedLog (r : RunnerRecord F) (executionId : Str) : Str :=
  let response : Option (Dict F) := invoke (r.toJson executionId).encode
  (observe executionId r.attempt (.done response)).logs

/-! ## What the parser takes from a log -/

theorem resultPrefix_oneLine : OneLine resultPrefix := by decide

theorem resultPrefix_plain : Plain resultPrefix := by decide

theorem resultPrefix_ne : resultPrefix ≠ [] := by decide

/-- A `dict` whose keys were written between two literals has no schema version. -/
theorem readPayload_fragment {p : Dict F} {id : Str} {att : Option Int}
    (h : Json.AllStringsMembers (fun s => ∀ c ∈ s, c ∈ structural) p) :
    readPayload p id att = .error (.trusted "Unsupported runner result schema version.") := by
  have hnone : Json.lookup "schema_version" p = none := by
    cases hl : Json.lookup "schema_version" p with
    | none => rfl
    | some v =>
        have hkey := allStringsMembers_keys h _ (Json.mem_keys_of_lookup hl)
        exact absurd (hkey 95 (by decide)) (by decide)
  have hversion : (Json.get "schema_version" p).eqInt 1 = false := by
    rw [Json.get, hnone]; rfl
  rw [readPayload, if_pos hversion]

section Log

variable (r : RunnerRecord F) (executionId id : Str) (att : Option Int) {tail : Str}

/-- A record without a raw boundary is the one marked line. -/
theorem markedPayload_whole (hprint : (r.toJson executionId).Printable)
    (hone : (r.toJson executionId).AllStrings NoRawBreak) (htail : tail = [] ∨ tail = [10]) :
    markedPayload (resultPrefix ++ ((r.toJson executionId).encode ++ tail))
      = .ok (r.entries executionId) := by
  have hline := (Json.oneLine_encode _).mpr hone
  have hne : resultPrefix ++ (r.toJson executionId).encode ≠ [] := fun h =>
    resultPrefix_ne (List.append_eq_nil_iff.mp h).1
  obtain ⟨h0, h1⟩ := lastMarked_whole resultPrefix_oneLine hline hne
  have hmark : lastMarked resultPrefix (resultPrefix ++ ((r.toJson executionId).encode ++ tail))
      = some (r.toJson executionId).encode := by
    rw [← List.append_assoc]
    rcases htail with rfl | rfl
    · rw [List.append_nil]; exact h0
    · exact h1
  rw [markedPayload, hmark]
  simp only [Json.loads_encode_of_distinct hprint (r.distinctKeys executionId)]
  rfl

/-- A record with a raw boundary never passes the schema check. -/
theorem readPayload_broken (hbroken : ¬(r.toJson executionId).AllStrings NoRawBreak)
    (htail : Closing tail) {p : Dict F}
    (hp : markedPayload (resultPrefix ++ ((r.toJson executionId).encode ++ tail)) = .ok p) :
    readPayload p id att = .error (.trusted "Unsupported runner result schema version.") := by
  have hline : ¬OneLine (r.toJson executionId).encode := fun h =>
    hbroken ((Json.oneLine_encode _).mp h)
  rw [markedPayload] at hp
  split at hp
  · cases hp
  · rename_i x hx
    split at hp
    · cases hp
    · cases hp
    · rename_i v hv
      have hall := loads_lastMarked resultPrefix_oneLine resultPrefix_plain resultPrefix_ne
        (List.append_nil _).symm (List.cons_ne_nil _ _)
        (.inr hline) htail hx hv
      cases v with
      | obj kvs => cases hp; exact readPayload_fragment hall
      | _ => cases hp

/-- With a raw boundary in it the record is never returned. -/
theorem parseRunnerResult_broken (hbroken : ¬(r.toJson executionId).AllStrings NoRawBreak)
    (htail : Closing tail) (res : SandboxExecutionResult F) :
    parseRunnerResult (resultPrefix ++ ((r.toJson executionId).encode ++ tail)) id att
      ≠ .ok res := by
  intro h
  rw [parseRunnerResult] at h
  split_ifs at h
  cases hp : markedPayload (F := F)
      (resultPrefix ++ ((r.toJson executionId).encode ++ tail)) with
  | error e => rw [hp] at h; cases h
  | ok p =>
      rw [hp, ok_bind, readPayload_broken r executionId id att hbroken htail hp] at h
      cases h

/-- Without one, and within the limits, it is returned as it was written. -/
theorem parseRunnerResult_whole (hprint : (r.toJson executionId).Printable)
    (hone : (r.toJson executionId).AllStrings NoRawBreak) (htail : tail = [] ∨ tail = [10])
    (hlen : utf8Len (resultPrefix ++ ((r.toJson executionId).encode ++ tail)) ≤ maxResultLogBytes)
    (htests : r.tests.length ≤ maxResultTests) (hids : (r.tests.map TestResult.id).Nodup)
    (hattempt : 1 ≤ r.attempt) (hexpected : ∀ a ∈ att, a = r.attempt) :
    parseRunnerResult (resultPrefix ++ ((r.toJson executionId).encode ++ tail)) executionId att
      = .ok (r.parsed executionId) := by
  have hany : ¬(att.any (· ≠ r.attempt) = true) := by
    cases att with
    | none => nofun
    | some a => simp [hexpected a rfl]
  rw [parseRunnerResult, if_neg (Nat.not_lt.mpr hlen),
    markedPayload_whole r executionId hprint hone htail, ok_bind, r.readPayload_entries,
    if_neg (not_not.mpr rfl), if_neg (by omega), if_neg (by omega), if_neg hany,
    if_neg (Nat.not_lt.mpr htests), RunnerRecord.parseTests_entries r.tests_honest
      (fun _ _ => List.not_mem_nil) hids]
  rfl

/-- Up to the transport limit the observed log is the record's text. -/
theorem observedLog_eq (hprint : (r.toJson executionId).Printable)
    (hlen : utf8Len (r.toJson executionId).encode ≤ maxResultLogBytes) :
    observedLog r executionId = resultPrefix ++ ((r.toJson executionId).encode ++ []) := by
  have hlimit : ¬utf8Len (r.toJson executionId).encode > maxRunnerResponseBytes := by
    have : maxResultLogBytes ≤ maxRunnerResponseBytes := by decide
    omega
  have hinvoke : invoke (r.toJson executionId).encode = some (r.entries executionId) := by
    rw [invoke, if_neg hlimit, Json.loads_encode_of_distinct hprint (r.distinctKeys executionId)]
    rfl
  rw [observedLog, hinvoke, List.append_nil]
  rfl

end Log

/-! ## Round trip -/

/-- **Round trip.** Within the parser's limits, either log gives back the
record exactly when no string of it, keys included, holds NEL, U+2028 or
U+2029. -/
theorem parseRunnerResult_iff (r : RunnerRecord F) (executionId : Str) (att : Option Int)
    (hprint : (r.toJson executionId).Printable)
    (htests : r.tests.length ≤ maxResultTests) (hids : (r.tests.map TestResult.id).Nodup)
    (hattempt : 1 ≤ r.attempt) (hexpected : ∀ a ∈ att, a = r.attempt) :
    (utf8Len (printed (r.toJson executionId)) ≤ maxResultLogBytes →
      (parseRunnerResult (printed (r.toJson executionId)) executionId att
          = .ok (r.parsed executionId)
        ↔ (r.toJson executionId).AllStrings NoRawBreak))
    ∧ (utf8Len (resultPrefix ++ (r.toJson executionId).encode) ≤ maxResultLogBytes →
      (parseRunnerResult (observedLog r executionId) executionId att
          = .ok (r.parsed executionId)
        ↔ (r.toJson executionId).AllStrings NoRawBreak)) := by
  constructor
  · intro hlen
    constructor
    · intro h
      by_contra hbroken
      exact parseRunnerResult_broken r executionId executionId att hbroken .newline _ h
    · intro hone
      exact parseRunnerResult_whole r executionId att hprint hone (.inr rfl) hlen htests hids
        hattempt hexpected
  · intro hlen
    have hbody : utf8Len (r.toJson executionId).encode ≤ maxResultLogBytes := by
      rw [utf8Len_append] at hlen; omega
    rw [observedLog_eq r executionId hprint hbody]
    constructor
    · intro h
      by_contra hbroken
      exact parseRunnerResult_broken r executionId executionId att hbroken .none _ h
    · intro hone
      exact parseRunnerResult_whole r executionId att hprint hone (.inl rfl)
        (by rw [List.append_nil]; exact hlen) htests hids hattempt hexpected

def executionOne : Str := "3fa85f64-5717-4562-b3fc-2c963f66afa6"

/-- A completed run of one test whose candidate printed `stdout`. -/
def printing (stdout : Str) : RunnerRecord FloatConst where
  attempt := 1
  status := "COMPLETED"
  runtimeMs := 5
  exitCode := 0
  tests := [⟨"t1", "public", true, .null, none⟩]
  stdout := stdout
  stderr := []
  tail := .truncated false false
  tests_honest := List.forall_mem_singleton.mpr ⟨by decide, .inl rfl, by decide, trivial⟩
  status_ok := RunnerRecord.completed_ok
  runtime_ok := by decide
  category_ok := RunnerRecord.truncated_ok false false

theorem printing_printable (stdout : Str) : ((printing stdout).toJson executionOne).Printable := by
  have hdigit : ∀ n : Int, digitCount n ≤ 1 → (Json.int n : Json FloatConst).DigitsFit :=
    fun n hn => hn.trans (by decide)
  exact ⟨⟨hdigit 1 (by decide), hdigit 1 (by decide), trivial, hdigit 5 (by decide),
    hdigit 0 (by decide), ⟨⟨trivial, trivial, trivial, trivial, trivial, trivial⟩, trivial⟩,
    trivial, trivial, trivial, trivial, trivial, trivial⟩, (by decide : 3 ≤ 1000)⟩

theorem parseRunnerResult_iff_printing :
    (parseRunnerResult (printed ((printing "hi").toJson executionOne)) executionOne (some 1)
        = .ok ((printing "hi").parsed executionOne)
      ↔ ((printing "hi").toJson executionOne).AllStrings NoRawBreak)
    ∧ (parseRunnerResult (observedLog (printing "hi") executionOne) executionOne (some 1)
        = .ok ((printing "hi").parsed executionOne)
      ↔ ((printing "hi").toJson executionOne).AllStrings NoRawBreak) := by
  have h := parseRunnerResult_iff (printing "hi") executionOne (some 1) (printing_printable _)
    (by decide) (by decide) (by decide) (by decide)
  exact ⟨h.1 (by decide +kernel), h.2 (by decide +kernel)⟩

/-- A candidate that prints U+2028 loses its record. -/
theorem printing_separator_lost :
    ((printing [0x2028]).toJson executionOne).Printable
    ∧ utf8Len (printed ((printing [0x2028]).toJson executionOne)) ≤ maxResultLogBytes
    ∧ parseRunnerResult (printed ((printing [0x2028]).toJson executionOne)) executionOne (some 1)
        ≠ .ok ((printing [0x2028]).parsed executionOne) := by
  have hbroken : ¬((printing [0x2028]).toJson executionOne).AllStrings NoRawBreak := by
    rintro ⟨-, -, -, -, -, -, -, -, -, -, -, -, -, h, -⟩
    exact absurd (h 0x2028 (List.mem_cons_self ..)) (by decide)
  exact ⟨printing_printable _, by decide +kernel,
    parseRunnerResult_broken (printing [0x2028]) executionOne executionOne (some 1) hbroken .newline _⟩

/-! ## No forged record -/

/-- What the parser compares later: the entry without its error category. -/
def TestResult.verdict (t : TestResult F) : Str × Str × Bool × Json F :=
  (t.id, t.visibility, t.ok, t.actual)

/-- A `TrustedResultError`, or the record's own verdicts. -/
def NotForged (r : RunnerRecord F) (x : Except RunnerFailure (SandboxExecutionResult F)) : Prop :=
  (∃ message, x = .error (.trusted message))
    ∨ ∃ res, x = .ok res ∧ res.status = r.status ∧ res.attempt = r.attempt
        ∧ res.tests.map TestResult.verdict = r.tests.map TestResult.verdict

/-- `json.loads` runs into a limit of the interpreter on the text. -/
def HitsLimit (F : Type) [Runtime F] (text : Str) : Prop :=
  loads (F := F) text = .error .intDigits ∨ loads (F := F) text = .error .recursion

theorem markedPayload_of_hitsLimit {logText line : Str}
    (hline : lastMarked resultPrefix logText = some line) (hhit : HitsLimit F line) :
    ∃ e, markedPayload (F := F) logText = .error (.load e) := by
  rw [markedPayload, hline]
  rcases hhit with h | h
  · simp only [h]; exact ⟨_, rfl⟩
  · simp only [h]; exact ⟨_, rfl⟩

theorem markedPayload_trusted {logText : Str}
    (h : ∀ line, lastMarked resultPrefix logText = some line → ¬HitsLimit F line) :
    OnlyTrusted (markedPayload (F := F) logText) := by
  rw [markedPayload]
  cases hline : lastMarked resultPrefix logText with
  | none => exact .trusted _
  | some line =>
      simp only
      cases hl : loads (F := F) line with
      | ok v => exact objectDict_trusted v _
      | error e =>
          cases e with
          | decode => exact .trusted _
          | intDigits => exact absurd (.inl hl) (h line hline)
          | recursion => exact absurd (.inr hl) (h line hline)

/-- What is accepted from a record's log is the record. -/
theorem parsed_of_ok (r : RunnerRecord F) {executionId id : Str} {att : Option Int} {p : Dict F}
    {res : SandboxExecutionResult F} (hprint : (r.toJson executionId).Printable)
    (hp : markedPayload (printed (r.toJson executionId)) = .ok p)
    (hres : readPayload p id att = .ok res) : res = r.parsed id := by
  by_cases hone : (r.toJson executionId).AllStrings NoRawBreak
  · rw [printed, markedPayload_whole r executionId hprint hone (.inr rfl)] at hp
    cases hp
    exact r.eq_of_readPayload_entries hres
  · rw [readPayload_broken r executionId id att hone .newline hp] at hres
    cases hres

/-- **No forged verdict.** On the log of a record, whatever its strings
hold, the parser raises `TrustedResultError` or returns the runner's own
verdicts - unless the last marked line is a text on which `json.loads`
runs into a limit, whose error it does not catch. -/
theorem notForged_iff (r : RunnerRecord F) (executionId id : Str) (att : Option Int)
    (hprint : (r.toJson executionId).Printable) :
    NotForged r (parseRunnerResult (printed (r.toJson executionId)) id att)
      ↔ ¬(utf8Len (printed (r.toJson executionId)) ≤ maxResultLogBytes
          ∧ ∃ line, lastMarked resultPrefix (printed (r.toJson executionId)) = some line
              ∧ HitsLimit F line) := by
  rw [parseRunnerResult]
  constructor
  · rintro h ⟨hlen, line, hline, hhit⟩
    obtain ⟨e, he⟩ := markedPayload_of_hitsLimit hline hhit
    rw [if_neg (Nat.not_lt.mpr hlen), he, error_bind] at h
    rcases h with ⟨_, h⟩ | ⟨_, h, -⟩ <;> cases h
  · intro hlimit
    by_cases hlen : utf8Len (printed (r.toJson executionId)) > maxResultLogBytes
    · rw [if_pos hlen]; exact .inl ⟨_, rfl⟩
    rw [if_neg hlen]
    have hmarked := markedPayload_trusted fun line hline hhit =>
      hlimit ⟨Nat.not_lt.mp hlen, line, hline, hhit⟩
    cases hp : markedPayload (F := F) (printed (r.toJson executionId)) with
    | error e =>
        cases e with
        | trusted message => exact .inl ⟨message, rfl⟩
        | load e => exact (hmarked _ hp).elim
    | ok p =>
        rw [ok_bind]
        cases hres : readPayload p id att with
        | error e =>
            cases e with
            | trusted message => exact .inl ⟨message, rfl⟩
            | load e => exact (readPayload_trusted _ _ _ _ hres).elim
        | ok res =>
            rw [parsed_of_ok r hprint hp hres]
            exact .inr ⟨_, rfl, rfl, rfl, rfl⟩

theorem notForged_iff_printing :
    NotForged (printing "hi") (parseRunnerResult (printed ((printing "hi").toJson executionOne)) executionOne (some 1))
      ↔ ¬(utf8Len (printed ((printing "hi").toJson executionOne)) ≤ maxResultLogBytes
          ∧ ∃ line, lastMarked resultPrefix (printed ((printing "hi").toJson executionOne)) = some line
              ∧ HitsLimit FloatConst line) :=
  notForged_iff (printing "hi") executionOne executionOne (some 1) (printing_printable _)

/-- What a candidate prints: digits behind a separator and the marker. -/
def markedDigits (ds : Str) : Str := 0x2028 :: (resultPrefix ++ ds)

/-- The record's text before and after what the candidate printed. -/
def printingHead : Str :=
  123 :: (Json.encodeMembers (((printing []).entries executionOne).take 6)
    ++ 44 :: (encodeString "stdout" ++ [58]))

def printingTail : Str :=
  44 :: (Json.encodeMembers (((printing []).entries executionOne).drop 7) ++ [125])

theorem encode_printing (stdout : Str) :
    ((printing stdout).toJson executionOne).encode
      = printingHead ++ (encodeString stdout ++ printingTail) := by
  have h := encodeMembers_append (F := FloatConst) "stdout" (.str stdout) ("stderr", .str [])
    (((printing []).entries executionOne).drop 8) ("schema_version", .int 1)
    ((((printing []).entries executionOne).take 6).drop 1)
  rw [RunnerRecord.toJson, Json.encode]
  refine (congrArg (fun t => 123 :: (t ++ [125])) h).trans ?_
  simp only [Json.encode, List.append_assoc, List.cons_append, List.nil_append]
  rfl

theorem printed_markedDigits {ds : Str} (hds : ∀ c ∈ ds, isDigit c = true) :
    printed ((printing (markedDigits ds)).toJson executionOne)
      = (resultPrefix ++ (printingHead ++ [34])) ++ 0x2028 ::
          (resultPrefix ++ (ds ++ 34 :: printingTail) ++ [10]) := by
  have hplain : (markedDigits ds).flatMap escapeChar = markedDigits ds := by
    refine flatMap_escapeChar fun c hc => ?_
    rcases List.mem_cons.mp hc with rfl | hc
    · decide
    rcases List.mem_append.mp hc with hc | hc
    · have hprefix : ∀ c ∈ resultPrefix, 32 ≤ c ∧ c ≠ 34 ∧ c ≠ 92 := by decide
      exact hprefix c hc
    · have := hds c hc
      simp only [isDigit, Bool.and_eq_true, decide_eq_true_eq] at this
      omega
  rw [printed, encode_printing, encodeString, hplain, markedDigits]
  simp only [List.append_assoc, List.cons_append, List.nil_append]

/-- More digits than the interpreter takes make the parser raise `ValueError`. -/
theorem parseRunnerResult_markedDigits {ds : Str} (hint : IntPart ds)
    (hds : ∀ c ∈ ds, isDigit c = true) (hlimit : 4300 < ds.length)
    (hlen : utf8Len ds ≤ 100000) :
    parseRunnerResult (F := FloatConst) (printed ((printing (markedDigits ds)).toJson executionOne)) executionOne
      (some 1) = .error (.load .intDigits) := by
  have hline : OneLine (resultPrefix ++ (ds ++ 34 :: printingTail)) := by
    refine oneLine_append.mpr ⟨resultPrefix_oneLine, oneLine_append.mpr ⟨fun c hc => ?_, ?_⟩⟩
    · have := hds c hc
      simp only [isDigit, Bool.and_eq_true, decide_eq_true_eq] at this
      simp only [isLineBreak, Bool.or_eq_false_iff, Bool.and_eq_false_iff, beq_eq_false_iff_ne,
        decide_eq_false_iff_not]
      omega
    · decide +kernel
  have hmark := lastMarked_later (u := resultPrefix ++ (printingHead ++ [34])) (b := 0x2028)
    (by decide +kernel) rfl (by decide) hline
  have hbytes : utf8Len (printed ((printing (markedDigits ds)).toJson executionOne))
      ≤ maxResultLogBytes := by
    have hother : utf8Len (resultPrefix ++ (printingHead ++ [34])) ≤ 1000
        ∧ utf8Len (34 :: printingTail) ≤ 1000 ∧ utf8Len resultPrefix ≤ 100 := by
      decide +kernel
    have hcons : ∀ t, utf8Len (0x2028 :: t) = 3 + utf8Len t := fun _ => rfl
    have hten : utf8Len [10] = 1 := rfl
    have hmax : maxResultLogBytes = 262144 := rfl
    rw [printed_markedDigits hds, utf8Len_append, hcons, utf8Len_append _ [10],
      utf8Len_append resultPrefix (ds ++ _), utf8Len_append ds, hten]
    omega
  rw [parseRunnerResult, if_neg (Nat.not_lt.mpr hbytes), printed_markedDigits hds, markedPayload,
    hmark]
  simp only [Json.loads_tooLong (F := FloatConst) hint hds hlimit]
  rfl

/-- A candidate that prints such a line of 4301 digits is not answered with
`TrustedResultError`. -/
theorem printing_longInteger_raises :
    ¬NotForged (printing (markedDigits (List.replicate 4301 49)))
      (parseRunnerResult
        (printed ((printing (markedDigits (List.replicate 4301 49))).toJson executionOne)) executionOne (some 1)) := by
  have hdigits : ∀ c ∈ List.replicate 4301 49, isDigit c = true := fun c hc => by
    rw [(List.mem_replicate.mp hc).2]; rfl
  have hones : utf8Len (List.replicate 4301 49) = 4301 := by
    rw [utf8Len, List.map_replicate, List.sum_replicate]; rfl
  have hint : IntPart (List.replicate 4301 49) :=
    .inr ⟨49, List.replicate 4300 49, rfl, by decide, hdigits⟩
  rw [parseRunnerResult_markedDigits hint hdigits (by rw [List.length_replicate]; decide)
    (by rw [hones]; decide)]
  rintro (⟨_, h⟩ | ⟨_, h, -⟩) <;> cases h

end Rigor
