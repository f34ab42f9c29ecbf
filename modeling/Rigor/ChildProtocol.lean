import Rigor.PythonRunner

/-!
# What is read of a child's line

The parent process of the Python runner reads the first bytes of a file and
looks for the last marked line in it. A record that is one line and fits is
read back as `json.loads` gives it (`readBack_survives`); of any
other nothing is read that the child wrote (`readBack_broken`). So
`execute_test` returns what the child printed exactly when its line fits
(`record_returned_iff`).
-/

namespace Rigor.PythonRunner

open Py

/-! ## Bounded reading -/

theorem utf8Len_cons (c : Nat) (t : Str) : utf8Len (c :: t) = utf8Size c + utf8Len t := rfl

theorem takeBytes_append {n : Nat} {u : Str} (h : utf8Len u ≤ n) (t : Str) :
    takeBytes n (u ++ t) = u ++ takeBytes (n - utf8Len u) t := by
  induction u generalizing n with
  | nil => rfl
  | cons c u ih =>
      rw [utf8Len_cons] at h
      rw [List.cons_append, takeBytes, if_pos (by omega), ih (by omega), utf8Len_cons, Nat.sub_sub]
      rfl

/-- A text that is too long is cut behind some part of it. -/
theorem takeBytes_cut {n : Nat} {t : Str} (h : n < utf8Len t) (r : Str) :
    ∃ u w tail, t = u ++ w ∧ w ≠ [] ∧ Closing tail ∧ takeBytes n (t ++ r) = u ++ tail := by
  induction t generalizing n with
  | nil => cases h
  | cons c t ih =>
      rw [List.cons_append, takeBytes]
      split_ifs with hsize hzero
      · rw [utf8Len_cons] at h
        obtain ⟨u, w, tail, rfl, hw, htail, heq⟩ := ih (n := n - utf8Size c) (by omega)
        exact ⟨c :: u, w, tail, rfl, hw, htail, by rw [heq]; rfl⟩
      · exact ⟨[], c :: t, [], rfl, List.cons_ne_nil _ _, .none, rfl⟩
      · exact ⟨[], c :: t, _, rfl, List.cons_ne_nil _ _, .replaced, rfl⟩

theorem takeBytes_newline (n : Nat) : takeBytes n [10] = [] ∨ takeBytes n [10] = [10] := by
  unfold takeBytes
  split_ifs with hsize hzero
  · exact .inr rfl
  · exact .inl rfl
  · exact absurd (Nat.pos_of_ne_zero hzero) hsize

/-! ## The child's line -/

theorem childMarker_oneLine : OneLine childMarker := by decide

theorem childMarker_plain : Plain childMarker := by decide

theorem childMarker_ne : childMarker ≠ [] := by decide

section

variable {F : Type} [Runtime F]

/-- The child's record is one line, and all of it is read. -/
def Survives (members : Dict F) : Prop :=
  OneLine (Json.obj members).encode
    ∧ utf8Len childMarker + utf8Len (Json.obj members).encode ≤ maxStreamBytes

/-- What the parent makes of a decoded line. -/
def lineProtocol (line : Str) : Except LoadError (Option (Dict F)) :=
  match (loads line : Except LoadError (Json F)) with
  | .error .decode => .ok none
  | .error e => .error e
  | .ok (.obj d) => .ok (some d)
  | .ok _ => .ok none

theorem parseChildProtocol_eq (content : Str) :
    parseChildProtocol (F := F) content
      = match lastMarked childMarker (readBounded content) with
        | none => .ok none
        | some line => lineProtocol line := rfl

/-- What the parent reads of a record that the child writes, if it can. -/
def readBack (members : Dict F) : Except LoadError (Option (Dict F)) :=
  parseChildProtocol (childOutput childMarker members)

theorem readBack_unwritten {members : Dict F} (hprint : canPrint members = false) :
    readBack members = .ok none := by
  unfold readBack childOutput
  rw [if_neg (by rw [hprint]; decide)]
  rfl

theorem readBack_survives {members : Dict F} (hprint : canPrint members = true)
    (h : Survives members) : readBack members = lineProtocol (Json.obj members).encode := by
  have hread : readBounded (childOutput childMarker members)
      = childMarker ++ (Json.obj members).encode
        ∨ readBounded (childOutput childMarker members)
          = childMarker ++ (Json.obj members).encode ++ [10] := by
    unfold childOutput readBounded
    rw [if_pos hprint, ← List.append_assoc, takeBytes_append (utf8Len_append _ _ ▸ h.2)]
    rcases takeBytes_newline (maxStreamBytes - utf8Len (childMarker ++ (Json.obj members).encode))
      with heq | heq
    · exact .inl (by rw [heq, List.append_nil])
    · exact .inr (by rw [heq])
  obtain ⟨h0, h1⟩ := lastMarked_whole childMarker_oneLine h.1
    (fun hnil => childMarker_ne (List.append_eq_nil_iff.mp hnil).1)
  rw [readBack, parseChildProtocol_eq]
  rcases hread with heq | heq
  · rw [heq, h0]
  · rw [heq, h1]

omit [Runtime F] in
/-- No key of the record stands between two of its literals. -/
theorem fragment_get {d : Dict F} (h : Json.AllStringsMembers (fun s => ∀ c ∈ s, c ∈ structural) d)
    {key : Str} {c : Nat} (hc : c ∈ key) (hplain : c ∉ structural) : Json.get key d = .null := by
  unfold Json.get
  cases hl : Json.lookup key d with
  | none => rfl
  | some v =>
      have hkey := allStringsMembers_keys h _ (Json.mem_keys_of_lookup hl)
      exact absurd (hkey c hc) hplain

/-- An object that was read between the literals of a record. -/
structure Fragment (d : Dict F) : Prop where
  ok : Json.get "ok" d = .null
  actual : Json.get "actual" d = .null
  category : Json.get "error_category" d = .null

/-- Of a record that is cut or not one line nothing is read that was written as a member. -/
theorem readBack_broken {members : Dict F} (hprint : canPrint members = true)
    (h : ¬Survives members) {d : Dict F} (hparse : readBack members = .ok (some d)) :
    Fragment d := by
  obtain ⟨rest, hrest⟩ : ∃ rest, (Json.obj members).encode = 123 :: rest := ⟨_, rfl⟩
  -- the opening brace is read whatever else is cut
  have hread : readBounded (childOutput childMarker members)
      = childMarker ++ (123 :: takeBytes (maxStreamBytes - utf8Len (childMarker ++ [123]))
          (rest ++ [10])) := by
    unfold childOutput readBounded
    rw [if_pos hprint, hrest, show childMarker ++ (123 :: rest ++ [10])
        = (childMarker ++ [123]) ++ (rest ++ [10]) by simp,
      takeBytes_append (by decide)]
    simp
  obtain ⟨u, w, tail, hrestw, hcut, htail, htake⟩ : ∃ u w tail, rest = u ++ w
      ∧ (w ≠ [] ∨ ¬OneLine (123 :: u)) ∧ Closing tail
      ∧ takeBytes (maxStreamBytes - utf8Len (childMarker ++ [123])) (rest ++ [10]) = u ++ tail := by
    by_cases hfits : utf8Len rest ≤ maxStreamBytes - utf8Len (childMarker ++ [123])
    · rw [takeBytes_append hfits]
      have hlines : ¬OneLine (123 :: rest) := by
        intro hone
        refine h ⟨hrest ▸ hone, ?_⟩
        rw [hrest, utf8Len_cons]
        rw [utf8Len_append] at hfits
        have hbrace : utf8Len [123] = 1 ∧ utf8Size 123 = 1 ∧ utf8Len childMarker = 13
            ∧ maxStreamBytes = 65536 := ⟨rfl, rfl, rfl, rfl⟩
        omega
      refine ⟨rest, [], _, (List.append_nil _).symm, .inr hlines, ?_, rfl⟩
      rcases takeBytes_newline (maxStreamBytes - utf8Len (childMarker ++ [123]) - utf8Len rest)
        with heq | heq
      · rw [heq]
        exact .none
      · rw [heq]
        exact .newline
    · obtain ⟨u, w, tail, hrestw, hw, htail, htake⟩ := takeBytes_cut (Nat.not_le.mp hfits) [10]
      exact ⟨u, w, tail, hrestw, .inl hw, htail, htake⟩
  rw [readBack, parseChildProtocol_eq, hread, htake] at hparse
  cases hline : lastMarked childMarker (childMarker ++ (123 :: (u ++ tail))) with
  | none =>
      rw [hline] at hparse
      cases hparse
  | some line =>
      rw [hline] at hparse
      dsimp only at hparse
      unfold lineProtocol at hparse
      split at hparse
      · cases hparse
      · cases hparse
      · rename_i d' hloads
        cases hparse
        have hstrings := loads_lastMarked (u := 123 :: u) childMarker_oneLine childMarker_plain
          childMarker_ne (by rw [hrest, hrestw]; rfl) (List.cons_ne_nil _ _) hcut htail hline hloads
        exact ⟨fragment_get hstrings (c := 111) (by decide) (by decide),
          fragment_get hstrings (c := 99) (by decide) (by decide),
          fragment_get hstrings (c := 111) (by decide) (by decide)⟩
      · cases hparse

/-! ## What `execute_test` returns -/

/-- The line of a record is encodable, one line, and within the bytes that
are read. -/
structure FitsLine (members : Dict F) : Prop where
  depth : (Json.obj members).depth ≤ Runtime.recursionLimit F
  encodable : isEncodable (Json.obj members).encode = true
  noBreak : (Json.obj members).AllStrings NoRawBreak
  size : utf8Len childMarker + utf8Len (Json.obj members).encode ≤ maxStreamBytes

theorem fitsLine_iff {members : Dict F} :
    FitsLine members ↔ canPrint members = true ∧ Survives members := by
  rw [canPrint, Bool.and_eq_true, decide_eq_true_iff, Survives, Json.oneLine_encode]
  exact ⟨fun h => ⟨⟨h.depth, h.encodable⟩, h.noBreak, h.size⟩,
    fun h => ⟨h.1.1, h.1.2, h.2.1, h.2.2⟩⟩

/-- The record of a lost line is itself one that is read back. -/
theorem fitsLine_protocolError (hlimit : 1 ≤ Runtime.recursionLimit F) :
    FitsLine (protocolError : Dict F) := by
  have htext : (Json.obj (protocolError : Dict F)).encode
      = (Json.obj (protocolError : Dict FloatConst)).encode := rfl
  refine ⟨hlimit, ?_, (Json.oneLine_encode _).mp ?_, ?_⟩
  · rw [htext]
    decide +kernel
  · rw [htext]
    decide +kernel
  · rw [htext]
    decide +kernel

theorem readBack_fits {members : Dict F} (hdigits : (Json.obj members).DigitsFit)
    (hkeys : (Json.obj members).DistinctKeys) (h : FitsLine members) :
    readBack members = .ok (some members) := by
  obtain ⟨hprint, hsurvives⟩ := fitsLine_iff.mp h
  rw [readBack_survives hprint hsurvives, lineProtocol,
    Json.loads_encode_of_distinct ⟨hdigits, h.depth⟩ hkeys]

/-- A record that does not fit is not read back. -/
theorem readBack_unfit {ok : Bool} {actual : Json F} {category : Option Str} {printed : Captured}
    (h : ¬FitsLine (protocolMembers ok actual category printed)) :
    readBack (protocolMembers ok actual category printed)
      ≠ .ok (some (protocolMembers ok actual category printed)) := by
  intro hread
  cases hprint : canPrint (protocolMembers ok actual category printed) with
  | false =>
      rw [readBack_unwritten hprint] at hread
      cases hread
  | true =>
      have hsurvives : ¬Survives (protocolMembers ok actual category printed) :=
        fun hsurvives => h (fitsLine_iff.mpr ⟨hprint, hsurvives⟩)
      cases (readBack_broken hprint hsurvives hread).ok

/-- The record that the ending of a child leaves. -/
theorem members_eq {category : DumpsError → Str} {printed : Captured} {ending : Ending F}
    {members : Dict F} (h : ending.members category printed = some members) :
    ∃ ok actual category, members = protocolMembers ok actual category printed
      ∧ actual.DigitsFit := by
  cases ending with
  | returns actual fits =>
      cases h
      exact ⟨true, actual, none, rfl, fits⟩
  | rejected e =>
      cases h
      exact ⟨false, .null, some (category e), rfl, trivial⟩
  | raises name =>
      cases h
      exact ⟨false, .null, some name, rfl, trivial⟩
  | exceeds => cases h

theorem protocolMembers_digitsFit (ok : Bool) {actual : Json F} (category : Option Str)
    (printed : Captured) (h : actual.DigitsFit) :
    (Json.obj (protocolMembers ok actual category printed)).DigitsFit := by
  refine ⟨trivial, h, ?_, trivial, trivial, trivial, trivial, trivial⟩
  cases category <;> trivial

/-- What `execute_test` makes of the child's output. -/
def returned (members : Dict F) : Except LoadError (Dict F) :=
  (readBack members).map fun protocol => protocol.getD protocolError

theorem executeTest_eq {sandbox : Sandbox F} {mode : Str} {index : Nat} {input : Json F}
    {call : Option (Call F)} {ending : Ending F} {printed : Captured} {members : Dict F}
    (hrun : sandbox.run index mode input = (call, ending, printed))
    (hmembers : ending.members DumpsError.category printed = some members) :
    executeTest sandbox mode index input = (call, returned members) := by
  unfold executeTest
  rw [hrun]
  dsimp only
  rw [hmembers]
  rfl

theorem returned_iff_fits (hlimit : 1 ≤ Runtime.recursionLimit F) {ok : Bool} {actual : Json F}
    {category : Option Str} {printed : Captured} (hactual : actual.DigitsFit)
    (hkeys : (Json.obj (protocolMembers ok actual category printed)).DistinctKeys) :
    returned (protocolMembers ok actual category printed)
        = .ok (protocolMembers ok actual category printed)
      ↔ FitsLine (protocolMembers ok actual category printed) := by
  constructor
  · intro heq
    obtain ⟨protocol, hread, hprotocol⟩ := map_eq_ok heq
    by_contra hunfit
    cases protocol with
    | none => exact hunfit (hprotocol ▸ fitsLine_protocolError hlimit)
    | some d => exact readBack_unfit hunfit (hread.trans (congrArg (Except.ok ∘ some) hprotocol))
  · intro hfits
    rw [returned, readBack_fits (protocolMembers_digitsFit ok category printed hactual) hkeys hfits]
    rfl

end

section

/-- The candidate answers `true` and prints a text. -/
def printing (stdout : Str) : Sandbox FloatConst where
  load _ := .ready noOutput
  call _ _ := (.returns (.bool true) trivial, ⟨stdout, [], false, false⟩)
  rawStderr _ := []
  exitCode _ := 0
  late _ := false
  late_zero := rfl

def printedRecord (stdout : Str) : Dict FloatConst :=
  protocolMembers true (.bool true) none ⟨stdout, [], false, false⟩

theorem printedRecord_distinctKeys (stdout : Str) :
    (Json.obj (printedRecord stdout)).DistinctKeys := by
  have hkeys : ((printedRecord stdout).map Prod.fst).Nodup := by
    change [("ok" : Str), "actual", "error_category", "stdout", "stderr", "stdout_truncated",
      "stderr_truncated"].Nodup
    decide
  exact ⟨hkeys, trivial, trivial, trivial, trivial, trivial, trivial, trivial, trivial⟩

end

end Rigor.PythonRunner
