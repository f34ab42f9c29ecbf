import Rigor.PyJsonScan

/-!
# Bytes and `json.loads` of bytes

`json.loads` takes the first bytes of a body for a hint of its encoding and
decodes it with `surrogatepass`, so a lone surrogate is read as it is. Also
`int` of a text: white space around it, one sign, and the decimal digits of
any script with single underscores between them.
-/

namespace Py

/-- A Python `bytes`. -/
abbrev ByteText := List Nat

/-! ## Encoding -/

/-- The bytes of one code point. -/
def utf8Bytes (c : Nat) : ByteText :=
  if c < 0x80 then [c]
  else if c < 0x800 then [0xC0 + c / 64, 0x80 + c % 64]
  else if c < 0x10000 then [0xE0 + c / 4096, 0x80 + c / 64 % 64, 0x80 + c % 64]
  else [0xF0 + c / 262144, 0x80 + c / 4096 % 64, 0x80 + c / 64 % 64, 0x80 + c % 64]

/-- `s.encode()`; a lone surrogate raises `UnicodeEncodeError`. -/
def encodeUtf8 (s : Str) : Option ByteText :=
  if isEncodable s then some (s.flatMap utf8Bytes) else none

/-! ## Decoding -/

/-- A continuation byte. -/
def isTail (b : Nat) : Bool := 0x80 ≤ b && b < 0xC0

/-- `b.decode("utf-8", "surrogatepass")`. -/
def decodeUtf8 : ByteText → Option Str
  | [] => some []
  | b :: t =>
      if b < 0x80 then (decodeUtf8 t).map (b :: ·)
      else
        match t with
        | [] => none
        | b₁ :: t₁ =>
            if isTail b₁ = false then none
            else if 0xC2 ≤ b ∧ b < 0xE0 then
              (decodeUtf8 t₁).map (((b - 0xC0) * 64 + (b₁ - 0x80)) :: ·)
            else
              match t₁ with
              | [] => none
              | b₂ :: t₂ =>
                  if isTail b₂ = false then none
                  else if 0xE0 ≤ b ∧ b < 0xF0 then
                    let c := (b - 0xE0) * 4096 + (b₁ - 0x80) * 64 + (b₂ - 0x80)
                    if c < 0x800 then none else (decodeUtf8 t₂).map (c :: ·)
                  else
                    match t₂ with
                    | [] => none
                    | b₃ :: t₃ =>
                        let c := (b - 0xF0) * 262144 + (b₁ - 0x80) * 4096 + (b₂ - 0x80) * 64
                          + (b₃ - 0x80)
                        if isTail b₃ = false ∨ ¬(0xF0 ≤ b ∧ b < 0xF5) ∨ c < 0x10000 ∨ 0x10FFFF < c
                          then none
                        else (decodeUtf8 t₃).map (c :: ·)

inductive ByteOrder where
  | little | big
  deriving DecidableEq

def ByteOrder.pair : ByteOrder → Nat → Nat → Nat
  | .little, a, b => a + 256 * b
  | .big, a, b => 256 * a + b

def ByteOrder.quad : ByteOrder → Nat → Nat → Nat → Nat → Nat
  | .little, a, b, c, d => a + 256 * b + 65536 * c + 16777216 * d
  | .big, a, b, c, d => 16777216 * a + 65536 * b + 256 * c + d

/-- The 16-bit units. -/
def units (order : ByteOrder) : ByteText → Option (List Nat)
  | [] => some []
  | [_] => none
  | a :: b :: t => (units order t).map (order.pair a b :: ·)

/-- A surrogate pair is one code point. -/
def joinUnits : List Nat → Str
  | high :: low :: rest =>
      if 0xD800 ≤ high ∧ high < 0xDC00 ∧ 0xDC00 ≤ low ∧ low < 0xE000 then
        (0x10000 + (high - 0xD800) * 0x400 + (low - 0xDC00)) :: joinUnits rest
      else high :: joinUnits (low :: rest)
  | [unit] => [unit]
  | [] => []

def decodeUtf16 (order : ByteOrder) (b : ByteText) : Option Str := (units order b).map joinUnits

def decodeUtf32 (order : ByteOrder) : ByteText → Option Str
  | [] => some []
  | a :: b :: c :: d :: t =>
      if 0x10FFFF < order.quad a b c d then none
      else (decodeUtf32 order t).map (order.quad a b c d :: ·)
  | _ => none

inductive Encoding where
  | utf8 | utf8Sig
  | utf16 (order : ByteOrder)
  | utf16Bom (order : ByteOrder)
  | utf32 (order : ByteOrder)
  | utf32Bom (order : ByteOrder)
  deriving DecidableEq

/-- `json.detect_encoding`, with the byte order of the mark for `utf-16` and `utf-32`. -/
def detectEncoding (b : ByteText) : Encoding :=
  if [0, 0, 0xFE, 0xFF].isPrefixOf b then .utf32Bom .big
  else if [0xFF, 0xFE, 0, 0].isPrefixOf b then .utf32Bom .little
  else if [0xFE, 0xFF].isPrefixOf b then .utf16Bom .big
  else if [0xFF, 0xFE].isPrefixOf b then .utf16Bom .little
  else if [0xEF, 0xBB, 0xBF].isPrefixOf b then .utf8Sig
  else
    match b with
    | a :: b :: c :: d :: _ =>
        if a = 0 then if b ≠ 0 then .utf16 .big else .utf32 .big
        else if b = 0 then if c ≠ 0 ∨ d ≠ 0 then .utf16 .little else .utf32 .little
        else .utf8
    | [a, b] => if a = 0 then .utf16 .big else if b = 0 then .utf16 .little else .utf8
    | _ => .utf8

/-- `b.decode(encoding, "surrogatepass")`, the mark left out. -/
def Encoding.decode : Encoding → ByteText → Option Str
  | .utf8, b => decodeUtf8 b
  | .utf8Sig, b => decodeUtf8 (b.drop 3)
  | .utf16 order, b => decodeUtf16 order b
  | .utf16Bom order, b => decodeUtf16 order (b.drop 2)
  | .utf32 order, b => decodeUtf32 order b
  | .utf32Bom order, b => decodeUtf32 order (b.drop 4)

/-- How `json.loads` of bytes fails. -/
inductive BytesLoadError where
  | unicodeDecode
  | load (e : LoadError)
  deriving DecidableEq

/-- `json.loads(body)`. A text that begins with a byte order mark is refused
only where the text itself was given. -/
def loadsBytes {F : Type} [Runtime F] (b : ByteText) : Except BytesLoadError (Json F) :=
  match (detectEncoding b).decode b with
  | none => .error .unicodeDecode
  | some t => (loads t).mapError .load

/-! ## `int` of a text -/

/-- The zeros of the decimal digits. -/
def decimalZeros : List Nat :=
  [0x30, 0x660, 0x6f0, 0x7c0, 0x966, 0x9e6, 0xa66, 0xae6, 0xb66, 0xbe6, 0xc66, 0xce6, 0xd66, 0xde6,
    0xe50, 0xed0, 0xf20, 0x1040, 0x1090, 0x17e0, 0x1810, 0x1946, 0x19d0, 0x1a80, 0x1a90, 0x1b50,
    0x1bb0, 0x1c40, 0x1c50, 0xa620, 0xa8d0, 0xa900, 0xa9d0, 0xa9f0, 0xaa50, 0xabf0, 0xff10, 0x104a0,
    0x10d30, 0x11066, 0x110f0, 0x11136, 0x111d0, 0x112f0, 0x11450, 0x114d0, 0x11650, 0x116c0,
    0x11730, 0x118e0, 0x11950, 0x11c50, 0x11d50, 0x11da0, 0x11f50, 0x16a60, 0x16ac0, 0x16b50,
    0x1d7ce, 0x1d7d8, 0x1d7e2, 0x1d7ec, 0x1d7f6, 0x1e140, 0x1e2f0, 0x1e4f0, 0x1e950, 0x1fbf0]

def decimalDigit (c : Nat) : Option Nat :=
  (decimalZeros.find? fun first => first ≤ c && c < first + 10).map (c - ·)

/-- Digits, with single underscores between them. -/
def digitGroups : Str → Option (List Nat)
  | [] => none
  | [c] => (decimalDigit c).map ([·])
  | c :: 95 :: rest => do
      let d ← decimalDigit c
      let ds ← digitGroups rest
      some (d :: ds)
  | c :: rest => do
      let d ← decimalDigit c
      let ds ← digitGroups rest
      some (d :: ds)

/-- `int(s)`; `none` is a `ValueError`, also that of too many digits. -/
def pyInt (maxDigits : Nat) (s : Str) : Option Int :=
  let unsigned (t : Str) : Option Nat :=
    (digitGroups t).bind fun ds =>
      if maxDigits < ds.length then none else some (ds.foldl (fun n d => 10 * n + d) 0)
  match strip s with
  | 45 :: t => (unsigned t).map fun n => -(n : Int)
  | 43 :: t => (unsigned t).map fun n => (n : Int)
  | t => (unsigned t).map fun n => (n : Int)

/-! ## `strip` -/

theorem mem_strip {c : Nat} {s : Str} (hc : isSpace c = false) (h : c ∈ s) : c ∈ strip s := by
  have hdrop : ∀ t : Str, c ∈ t → c ∈ t.dropWhile isSpace := by
    intro t ht
    rw [← List.takeWhile_append_dropWhile (p := isSpace) (l := t)] at ht
    refine (List.mem_append.mp ht).resolve_left fun hspace => ?_
    rw [List.mem_takeWhile_imp hspace] at hc
    cases hc
  exact List.mem_reverse.mpr (hdrop _ (List.mem_reverse.mpr (hdrop s h)))

/-- A text that begins with a visible character is not blank. -/
theorem not_isBlank_cons {c : Nat} {t : Str} (hc : isSpace c = false) :
    isBlank (c :: t) = false := by
  have hmem := mem_strip hc (List.mem_cons_self (a := c) (l := t))
  unfold isBlank
  cases h : strip (c :: t) with
  | nil => rw [h] at hmem; cases hmem
  | cons d u => rfl

end Py
