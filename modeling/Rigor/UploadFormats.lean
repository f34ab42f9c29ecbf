import Rigor.PyEqual
import Rigor.PyJsonLimits
import Rigor.Uploads

/-!
# One JSON array, or one object a line

The same objects as a JSON array and as JSONL. `json.dumps` leaves three
characters in a text at which `str.splitlines` breaks a line, and an object that
is broken does not read; the two uploads agree exactly where no object has one
(`formats_agree_iff`).
-/

namespace Rigor.Uploads

open Py

/-! ## UTF-8 -/

theorem decodeUtf8_utf8Bytes {c : Nat} (hc : c < 0x110000) (rest : ByteText) :
    decodeUtf8 (utf8Bytes c ++ rest) = (decodeUtf8 rest).map (c :: ·) := by
  have htail : ∀ n : Nat, isTail (0x80 + n % 64) = true := by
    intro n
    simp [isTail]
    omega
  unfold utf8Bytes
  split_ifs with h1 h2 h3
  · rw [List.singleton_append, decodeUtf8.eq_def]
    simp [h1]
  · rw [List.cons_append, List.cons_append, List.nil_append, decodeUtf8.eq_def]
    dsimp only
    rw [if_neg (by omega), htail, if_neg (by simp), if_pos (by omega)]
    have : (0xC0 + c / 64 - 0xC0) * 64 + (0x80 + c % 64 - 0x80) = c := by omega
    rw [this]
  · rw [List.cons_append, List.cons_append, List.cons_append, List.nil_append, decodeUtf8.eq_def]
    dsimp only
    rw [if_neg (by omega), htail, if_neg (by simp), if_neg (by omega), htail, if_neg (by simp),
      if_pos (by omega)]
    have : (0xE0 + c / 4096 - 0xE0) * 4096 + (0x80 + c / 64 % 64 - 0x80) * 64
        + (0x80 + c % 64 - 0x80) = c := by omega
    rw [this, if_neg (by omega)]
  · rw [List.cons_append, List.cons_append, List.cons_append, List.cons_append, List.nil_append,
      decodeUtf8.eq_def]
    dsimp only
    rw [if_neg (by omega), htail, if_neg (by simp), if_neg (by omega), htail, if_neg (by simp),
      if_neg (by omega)]
    have : (0xF0 + c / 262144 - 0xF0) * 262144 + (0x80 + c / 4096 % 64 - 0x80) * 4096
        + (0x80 + c / 64 % 64 - 0x80) * 64 + (0x80 + c % 64 - 0x80) = c := by omega
    rw [this, htail, if_neg]
    rintro (h | h | h | h)
    · cases h
    · omega
    · omega
    · omega

theorem decodeUtf8_encode {s : Str} {b : ByteText} (hs : ∀ c ∈ s, c < 0x110000)
    (h : encodeUtf8 s = some b) : decodeUtf8 b = some s := by
  unfold encodeUtf8 at h
  split_ifs at h with hencodable
  cases h
  clear hencodable
  induction s with
  | nil => simp [decodeUtf8]
  | cons c s ih =>
      obtain ⟨hc, hs⟩ := List.forall_mem_cons.mp hs
      rw [List.flatMap_cons, decodeUtf8_utf8Bytes hc, ih hs]
      rfl

theorem detectEncoding_array {x : Nat} (hx : x ≠ 0) (rest : ByteText) :
    detectEncoding (91 :: x :: rest) = .utf8 := by
  unfold detectEncoding
  simp only [List.isPrefixOf]
  cases rest with
  | nil => simp [hx]
  | cons y rest => cases rest <;> simp [hx]

/-! ## The two texts -/

section Formats

variable {F : Type} [Runtime F]

def objectText (members : Dict F) : Str := (Json.obj members).encode

/-- The objects as one array. -/
def arrayText (values : List (Dict F)) : Str := (Json.arr (values.map Json.obj)).encode

/-- The objects one a line. -/
def linesText (values : List (Dict F)) : Str := [10].intercalate (values.map objectText)

theorem objectText_cons (members : Dict F) : ∃ t, objectText members = 123 :: t := ⟨_, rfl⟩

theorem linesText_cons_cons (members next : Dict F) (values : List (Dict F)) :
    linesText (members :: next :: values)
      = objectText members ++ 10 :: linesText (next :: values) := by
  simp [linesText]

/-- The lines of the text are the objects where none of them is broken. -/
theorem splitlines_linesText : ∀ {values : List (Dict F)},
    (∀ members ∈ values, OneLine (objectText members)) →
      splitlines (linesText values) = values.map objectText
  | [], _ => by simp [linesText, splitlines]
  | [members], h => by
      have hline := h members (by simp)
      obtain ⟨t, ht⟩ := objectText_cons members
      simp only [linesText, List.map_cons, List.map_nil, List.intercalate_singleton]
      exact splitlines_of_no_break hline (by simp [ht])
  | members :: next :: values, h => by
      obtain ⟨hline, hrest⟩ := List.forall_mem_cons.mp h
      rw [linesText_cons_cons, splitlines_append_break hline (by decide) (by decide),
        splitlines_linesText hrest]
      rfl

theorem encodeElements_bytes : ∀ values : List (Dict F),
    ((Json.encodeElements (values.map Json.obj)).flatMap utf8Bytes).length
      = ((linesText values).flatMap utf8Bytes).length
  | [] => rfl
  | [members] => by simp [linesText, Json.encodeElements, objectText]
  | members :: next :: values => by
      have ih := encodeElements_bytes (next :: values)
      rw [linesText_cons_cons]
      simp only [List.map_cons, Json.encodeElements, List.flatMap_append, List.flatMap_cons,
        List.length_append] at ih ⊢
      rw [ih]
      rfl

theorem encodeUtf8_some {s : Str} {b : ByteText} (h : encodeUtf8 s = some b) :
    isEncodable s = true ∧ b = s.flatMap utf8Bytes := by
  unfold encodeUtf8 at h
  split_ifs at h with hencodable
  exact ⟨hencodable, (Option.some.inj h).symm⟩

/-- The payloads of an upload that is taken. -/
def payloads (r : Except UploadFailure (Str × List (ParsedRecord F))) : Option (List (Dict F)) :=
  match r with
  | .ok (_, records) => some (records.map fun r => r.record.payload)
  | .error _ => none

/-- A filename that is taken, with the suffix. -/
def NamedAs (casefold : Str → Str) (suffix name : Str) : Prop :=
  name ≠ [] ∧ name.length ≤ 500 ∧ casefold (pathSuffix name) = suffix

/-- The two uploads of the objects, in UTF-8. -/
structure Written (values : List (Dict F)) (array lines : ByteText) : Prop where
  codePoints : ∀ c ∈ arrayText values ++ linesText values, c < 0x110000
  array_eq : encodeUtf8 (arrayText values) = some array
  lines_eq : encodeUtf8 (linesText values) = some lines

variable (F) in
/-- Both uploads give one list of payloads. -/
def SamePayloads (casefold : Str → Str) (lib : ZipLibrary) (jsonName jsonlName : Str)
    (array lines : ByteText) : Prop :=
  ∃ values : List (Dict F), payloads (parse casefold lib jsonName array) = some values
    ∧ payloads (parse casefold lib jsonlName lines) = some values

section Agree

variable {casefold : Str → Str} {lib : ZipLibrary} {values : List (Dict F)} {array lines : ByteText}

theorem Written.length_eq (h : Written values array lines) : array.length = lines.length + 2 := by
  rw [(encodeUtf8_some h.array_eq).2, (encodeUtf8_some h.lines_eq).2, ← encodeElements_bytes]
  simp [arrayText, Json.encode, utf8Bytes]

theorem Written.loads_array (h : Written values array lines) :
    loadsBytes array = (loads (F := F) (arrayText values)).mapError .load := by
  have hdecode : decodeUtf8 array = some (arrayText values) :=
    decodeUtf8_encode (fun c hc => h.codePoints c (List.mem_append_left _ hc)) h.array_eq
  have hencoding : detectEncoding array = .utf8 := by
    rw [(encodeUtf8_some h.array_eq).2]
    cases values with
    | nil => rfl
    | cons members values =>
        have hhead : ∃ t, Json.encodeElements ((members :: values).map Json.obj) = 123 :: t := by
          cases values <;> exact ⟨_, rfl⟩
        obtain ⟨t, ht⟩ := hhead
        rw [arrayText, Json.encode, ht]
        exact detectEncoding_array (by decide) _
  unfold loadsBytes
  rw [hencoding]
  have : Encoding.utf8.decode array = some (arrayText values) := hdecode
  rw [this]

omit [Runtime F] in
theorem objects_obj : ∀ values : List (Dict F), objects (values.map Json.obj) = some values
  | [] => rfl
  | members :: values => by
      have ih := objects_obj values
      unfold objects at ih ⊢
      rw [List.map_cons, List.mapM_cons, ih]
      rfl

omit [Runtime F] in
theorem payloads_zipIdx (values : List (Dict F)) (path : Nat → Str) (kind : RecordKind) (k : Nat) :
    (((values.zipIdx k).map fun x =>
      (⟨path x.2, ⟨x.1, kind⟩⟩ : ParsedRecord F)).map fun r => r.record.payload) = values := by
  rw [List.map_map]
  exact List.zipIdx_map_fst k values

theorem parse_json {name : Str} {content : ByteText} (hname : NamedAs casefold ".json" name)
    (hsize : content.length ≤ maxUploadBytes) : parse (F := F) casefold lib name content
      = (jsonRecords name content).map ((Str.ofString "json"), ·) := by
  obtain ⟨hne, hlength, hsuffix⟩ := hname
  unfold parse
  rw [if_neg (by simp [hne, hlength]), if_neg (by omega)]
  dsimp only
  rw [if_pos hsuffix]

/-- What is returned at all fits the size of an upload. -/
theorem fits_of_payloads {name : Str} {content : ByteText} {read : List (Dict F)}
    (hread : payloads (parse casefold lib name content) = some read) :
    content.length ≤ maxUploadBytes := by
  by_contra hsize
  unfold parse at hread
  rw [if_pos (show maxUploadBytes < content.length by omega)] at hread
  split_ifs at hread <;> cases hread

theorem payloads_json {name : Str} (hname : NamedAs casefold ".json" name)
    (h : Written values array lines) (hsize : array.length ≤ maxUploadBytes)
    (hprintable : (Json.arr (values.map Json.obj)).Printable)
    (hkeys : (Json.arr (values.map Json.obj)).DistinctKeys) :
    payloads (F := F) (parse casefold lib name array) = some values := by
  rw [parse_json hname hsize, jsonRecords, h.loads_array, arrayText,
    Json.loads_encode_of_distinct hprintable hkeys]
  simp only [Except.mapError, objects_obj]
  exact congrArg some (payloads_zipIdx values (recordPath name) .complete 1)

theorem printable_of_payloads {name : Str} {read : List (Dict F)}
    (hname : NamedAs casefold ".json" name) (h : Written values array lines)
    (hread : payloads (parse casefold lib name array) = some read) :
    (Json.arr (values.map Json.obj)).Printable := by
  rw [parse_json hname (fits_of_payloads hread), jsonRecords, h.loads_array] at hread
  cases hload : loads (F := F) (arrayText values) with
  | error e =>
      rw [hload] at hread
      cases hread
  | ok v => exact Json.loads_encode_isOk.mp ⟨v, hload⟩

/-- Where all lines are taken, no object is broken: the first line of one that
is broken is cut short. -/
theorem oneLine_of_taken {filename : Str} : ∀ {values : List (Dict F)} {k : Nat}
    {rs : List (Option (ParsedRecord F))},
    ((splitlines (linesText values)).zipIdx k).mapM (jsonlLine filename) = .ok rs →
      ∀ members ∈ values, OneLine (objectText members)
  | [], _, _, _ => nofun
  | members :: values, k, rs, h => by
      have hfirst : OneLine (objectText members) := by
        by_contra hbroken
        obtain ⟨a, b, w, hcut, ha, hb⟩ := exists_first_break hbroken
        obtain ⟨tail, htext⟩ : ∃ tail, linesText (members :: values) = a ++ b :: tail := by
          cases values with
          | nil => exact ⟨w, by simpa [linesText] using hcut⟩
          | cons next values =>
              rw [linesText_cons_cons, hcut, List.append_assoc, List.cons_append]
              exact ⟨_, rfl⟩
        rw [htext] at h
        cases hlines : splitlines (a ++ b :: tail) with
        | nil =>
            obtain ⟨c, t, hct⟩ : ∃ c t, a ++ b :: tail = c :: t := by
              cases a <;> exact ⟨_, _, rfl⟩
            exact splitlines_ne_nil c t (hct ▸ hlines)
        | cons line lines =>
            have hline : line = a := by
              rw [splitlines_head hlines,
                List.takeWhile_append_of_pos fun c hc => by simp [ha c hc],
                List.takeWhile_cons_of_neg (by simp [hb]), List.append_nil]
            subst hline
            rw [hlines, List.zipIdx_cons] at h
            rcases jsonlLine_ok.mp (FirstFailure.mapM_cons_ok h).1 with hblank | ⟨read, hread⟩
            · obtain ⟨t, ht⟩ := objectText_cons members
              rw [hcut] at ht
              cases line with
              | nil =>
                  obtain ⟨rfl, -⟩ := List.cons.inj ht
                  cases hb
              | cons c line =>
                  obtain ⟨rfl, -⟩ := List.cons.inj ht
                  rw [not_isBlank_cons (by decide)] at hblank
                  cases hblank
            · exact loads_cut hcut (List.cons_ne_nil _ _) _ hread
      refine List.forall_mem_cons.mpr ⟨hfirst, ?_⟩
      cases values with
      | nil => nofun
      | cons next values =>
          rw [linesText_cons_cons, splitlines_append_break hfirst (by decide) (by decide),
            List.zipIdx_cons] at h
          obtain ⟨rest, hrest⟩ := (FirstFailure.mapM_cons_ok h).2
          exact oneLine_of_taken hrest

theorem taken_of_objects {filename : Str} : ∀ {values : List (Dict F)} {k : Nat},
    (∀ members ∈ values, (Json.obj members).Printable ∧ (Json.obj members).DistinctKeys) →
      ((values.map objectText).zipIdx k).mapM (jsonlLine (F := F) filename)
        = .ok ((values.zipIdx k).map fun x =>
          some ⟨recordPath filename x.2, ⟨x.1, .complete⟩⟩)
  | [], _, _ => rfl
  | members :: values, k, h => by
      obtain ⟨⟨hprintable, hkeys⟩, hrest⟩ := List.forall_mem_cons.mp h
      have hline : jsonlLine (F := F) filename (objectText members, k)
          = .ok (some ⟨recordPath filename k, ⟨members, .complete⟩⟩) := by
        obtain ⟨t, ht⟩ := objectText_cons members
        unfold jsonlLine
        dsimp only
        rw [if_neg (by rw [ht, not_isBlank_cons (by decide)]; decide), objectText,
          Json.loads_encode_of_distinct hprintable hkeys]
      rw [List.map_cons, List.zipIdx_cons, List.zipIdx_cons, List.mapM_cons, hline,
        taken_of_objects hrest]
      rfl

theorem parse_jsonl {name : Str} {content : ByteText} (hname : NamedAs casefold ".jsonl" name)
    (hsize : content.length ≤ maxUploadBytes) : parse (F := F) casefold lib name content
      = (jsonlRecords name content).map ((Str.ofString "jsonl"), ·) := by
  obtain ⟨hne, hlength, hsuffix⟩ := hname
  unfold parse
  rw [if_neg (by simp [hne, hlength]), if_neg (by omega)]
  dsimp only
  rw [if_neg (by rw [hsuffix]; decide), if_pos hsuffix]

theorem Written.jsonlRecords_eq (h : Written values array lines) (name : Str) :
    jsonlRecords (F := F) name lines
      = (((splitlines (linesText values)).zipIdx 1).mapM (jsonlLine name)).map
        List.reduceOption := by
  have hdecode : decodeUtf8 lines = some (linesText values) :=
    decodeUtf8_encode (fun c hc => h.codePoints c (List.mem_append_right _ hc)) h.lines_eq
  have hstrict : decodeStrict lines = some (linesText values) := by
    unfold decodeStrict
    rw [hdecode, Option.filter_some, if_pos (encodeUtf8_some h.lines_eq).1]
  rw [jsonlRecords, hstrict]

theorem payloads_jsonl {name : Str} (hname : NamedAs casefold ".jsonl" name)
    (h : Written values array lines) (hsize : lines.length ≤ maxUploadBytes)
    (hobjects : ∀ members ∈ values,
      (Json.obj members).Printable ∧ (Json.obj members).DistinctKeys)
    (hlines : ∀ members ∈ values, OneLine (objectText members)) :
    payloads (F := F) (parse casefold lib name lines) = some values := by
  rw [parse_jsonl hname hsize, h.jsonlRecords_eq, splitlines_linesText hlines,
    taken_of_objects hobjects]
  have hreduce : ((values.zipIdx 1).map fun x =>
      some (⟨recordPath name x.2, ⟨x.1, .complete⟩⟩ : ParsedRecord F)).reduceOption
        = (values.zipIdx 1).map fun x => ⟨recordPath name x.2, ⟨x.1, .complete⟩⟩ := by
    change List.filterMap id (List.map _ _) = _
    rw [List.filterMap_map]
    exact congrFun List.filterMap_eq_map' _
  simp only [Except.map, payloads, hreduce]
  exact congrArg some (payloads_zipIdx values (recordPath name) .complete 1)

theorem oneLine_of_payloads {name : Str} {read : List (Dict F)}
    (hname : NamedAs casefold ".jsonl" name) (h : Written values array lines)
    (hsize : lines.length ≤ maxUploadBytes)
    (hread : payloads (parse casefold lib name lines) = some read) :
    ∀ members ∈ values, OneLine (objectText members) := by
  rw [parse_jsonl hname hsize, h.jsonlRecords_eq] at hread
  cases hrun : ((splitlines (linesText values)).zipIdx 1).mapM (jsonlLine (F := F) name) with
  | error e =>
      rw [hrun] at hread
      cases hread
  | ok rs => exact oneLine_of_taken hrun

/-- Both uploads give the same payloads exactly where the array fits the size of
an upload and the limits of the decoder, and no string has one of the characters
at which a line breaks. -/
theorem formats_agree_iff {jsonName jsonlName : Str} (hjson : NamedAs casefold ".json" jsonName)
    (hjsonl : NamedAs casefold ".jsonl" jsonlName) (h : Written values array lines)
    (hkeys : (Json.arr (values.map Json.obj)).DistinctKeys) :
    SamePayloads F casefold lib jsonName jsonlName array lines
      ↔ array.length ≤ maxUploadBytes ∧ (Json.arr (values.map Json.obj)).Printable
        ∧ ∀ members ∈ values, (Json.obj members).AllStrings NoRawBreak := by
  have hlength := h.length_eq
  have hbreaks : (∀ members ∈ values, OneLine (objectText members))
      ↔ ∀ members ∈ values, (Json.obj members).AllStrings NoRawBreak :=
    forall₂_congr fun members _ => Json.oneLine_encode (.obj members)
  rw [← hbreaks]
  constructor
  · rintro ⟨read, hread, hread'⟩
    exact ⟨fits_of_payloads hread, printable_of_payloads hjson h hread,
      oneLine_of_payloads hjsonl h (fits_of_payloads hread') hread'⟩
  · rintro ⟨hsize, hprintable, hlines⟩
    have hobjects : ∀ members ∈ values,
        (Json.obj members).Printable ∧ (Json.obj members).DistinctKeys := by
      intro members hmem
      have hmem' := List.mem_map_of_mem (f := Json.obj) hmem
      refine ⟨⟨Json.digitsFitElements_iff.mp hprintable.1 _ hmem', ?_⟩,
        Json.distinctKeys_elements hkeys _ hmem'⟩
      have hdepth := hprintable.2
      rw [Json.depth] at hdepth
      exact Json.depthElements_le.mp (by omega) _ hmem'
    exact ⟨values, payloads_json hjson h hsize hprintable hkeys,
      payloads_jsonl hjsonl h (by omega) hobjects hlines⟩

end Agree

end Formats

/-! ## The contract of the parser -/

/-- Every upload is decided exactly where it reaches no error that is not
caught, and the two forms of a list of objects agree exactly where the array
fits the limits and no string breaks a line. -/
theorem uploads_iff {F : Type} [Runtime F] (casefold : Str → Str) (lib : ZipLibrary) :
    (∀ filename content,
      Decided F casefold lib filename content ↔ ¬UploadEscapes F casefold lib filename content)
    ∧ ∀ (values : List (Dict F)) (array lines : ByteText) (jsonName jsonlName : Str),
      NamedAs casefold ".json" jsonName → NamedAs casefold ".jsonl" jsonlName →
        Written values array lines → (Json.arr (values.map Json.obj)).DistinctKeys →
          (SamePayloads F casefold lib jsonName jsonlName array lines
            ↔ array.length ≤ maxUploadBytes ∧ (Json.arr (values.map Json.obj)).Printable
              ∧ ∀ members ∈ values, (Json.obj members).AllStrings NoRawBreak) :=
  ⟨fun filename content => parse_decided_iff casefold lib filename content,
    fun _ _ _ _ _ hjson hjsonl h hkeys => formats_agree_iff hjson hjsonl h hkeys⟩

/-- A library that opens no archive. -/
def noZip : ZipLibrary := ⟨fun _ => .error .badZip, fun _ _ => .error .badZip⟩

theorem uploads_iff_empty : SamePayloads FloatConst (fun text => text) noZip "a.json" "a.jsonl"
    [91, 123, 125, 93] [123, 125] :=
  ((uploads_iff (F := FloatConst) (fun text => text) noZip).2 [[]] [91, 123, 125, 93]
    [123, 125] "a.json" "a.jsonl" ⟨by decide, by decide, by decide⟩
    ⟨by decide, by decide, by decide⟩ ⟨by decide, rfl, rfl⟩
    ⟨⟨List.nodup_nil, trivial⟩, trivial⟩).mpr
      ⟨by decide, ⟨⟨trivial, trivial⟩, by decide⟩, fun members hmem => by
        obtain rfl := List.mem_singleton.mp hmem
        trivial⟩

/-- The columns that are required, and a row with one cell more. -/
def raggedUpload : Str :=
  [44].intercalate requiredColumns ++ [10] ++ List.replicate 9 44 ++ [120, 10]

/-- An object with a line separator in a string. -/
def separatorObject : Dict FloatConst := [(Str.ofString "a", .str [0x2028])]

def separatorLine : ByteText := [123, 34, 97, 34, 58, 34, 0xE2, 0x80, 0xA8, 34, 125]

/-- The ragged row escapes as an `AttributeError`, and the object reads as the
element of an array only. -/
theorem raggedUpload_escapes :
    ¬Decided FloatConst (fun text => text) noZip "a.csv" raggedUpload
    ∧ ¬SamePayloads FloatConst (fun text => text) noZip "a.json" "a.jsonl"
      (91 :: separatorLine ++ [93]) separatorLine := by
  constructor
  · rw [parse_decided_iff, not_not]
    refine ⟨by decide, by decide, by decide, .inr (.inr (.inl ⟨by decide, ?_⟩))⟩
    exact ⟨raggedUpload, [requiredColumns, List.replicate 9 [] ++ [[120]]], none,
      by decide +kernel, by decide +kernel,
      .inr ⟨_, _, rfl, List.Subset.refl _, .inr ⟨_, List.mem_singleton_self _, by decide⟩⟩⟩
  · intro h
    have hwritten : Written [separatorObject] (91 :: separatorLine ++ [93]) separatorLine :=
      ⟨by decide, rfl, rfl⟩
    obtain ⟨-, -, hstrings⟩ := (formats_agree_iff ⟨by decide, by decide, by decide⟩
      ⟨by decide, by decide, by decide⟩ hwritten
      ⟨⟨List.nodup_singleton _, trivial, trivial⟩, trivial⟩).mp h
    have hraw := (hstrings separatorObject (List.mem_singleton_self _)).2.1
    exact absurd (hraw 0x2028 (List.mem_singleton_self _)) (by decide)

end Rigor.Uploads
