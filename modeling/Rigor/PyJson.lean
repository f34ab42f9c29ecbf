import Mathlib.Data.Nat.Digits.Defs
import Rigor.PyText

/-!
# Python JSON: values, `json.dumps`, `json.loads`

JSON values as CPython's `json` module produces them, the compact encoder
(`separators=(",", ":")`, `ensure_ascii=False`) and the decoder.

Floats are an abstract type: `Runtime` carries their operations, the
documented `repr` round trip, and the two limits of the interpreter that
the decoder can run into - the integer digit limit (a plain
`ValueError`) and the recursion limit (`RecursionError`). Both are kept
apart from the syntax error `JSONDecodeError`, since callers catch only
the latter.

The decoder recurses on the recursion limit and loops on fuel: the length
of the text that follows the bracket, which no run exhausts.
-/

namespace Py

/-! ## Numbers as text -/

def isDigit (c : Nat) : Bool := 48 ≤ c && c ≤ 57

/-- `str(n)` for a natural number. -/
def natText (n : Nat) : Str :=
  if n = 0 then [48] else ((Nat.digits 10 n).map (· + 48)).reverse

theorem natText_ne_nil (n : Nat) : natText n ≠ [] := by
  unfold natText
  split_ifs with h
  · exact List.cons_ne_nil _ _
  · rw [Ne, List.reverse_eq_nil_iff, List.map_eq_nil_iff]
    exact Nat.digits_ne_nil_iff_ne_zero.mpr h

/-- `str(n)` for an integer. -/
def intText : Int → Str
  | .ofNat n => natText n
  | .negSucc n => 45 :: natText (n + 1)

/-- `int(digits)`. -/
def natOfDigits (ds : Str) : Nat := Nat.ofDigits 10 (ds.reverse.map (· - 48))

/-- A lower-case hexadecimal digit. -/
def hexDigit (n : Nat) : Nat := if n < 10 then 48 + n else 87 + n

/-- `n` as `width` hexadecimal digits. -/
def hexText : Nat → Nat → Str
  | 0, _ => []
  | width + 1, n => hexText width (n / 16) ++ [hexDigit (n % 16)]

/-- Digits of an integer, the sign not counted. -/
def digitCount (n : Int) : Nat := (natText n.natAbs).length

/-- The three constants the encoder writes for non-finite floats. -/
inductive FloatConst where
  | nan | infinity | negInfinity
  deriving DecidableEq

def FloatConst.text : FloatConst → Str
  | .nan => "NaN"
  | .infinity => "Infinity"
  | .negInfinity => "-Infinity"

/-- A float literal: an integer part, then a fraction or an exponent. -/
structure FloatLit where
  neg : Bool
  int : Str
  frac : Str
  exp : Str
  int_ok : int = [48] ∨ (∃ d ds, int = d :: ds ∧ d ≠ 48 ∧ ∀ c ∈ int, isDigit c = true)
  frac_ok : frac = [] ∨ ∃ ds, frac = 46 :: ds ∧ ds ≠ [] ∧ ∀ c ∈ ds, isDigit c = true
  exp_ok : exp = [] ∨ ∃ m s ds, exp = m :: (s ++ ds) ∧ (m = 101 ∨ m = 69)
    ∧ (s = [] ∨ s = [43] ∨ s = [45]) ∧ ds ≠ [] ∧ ∀ c ∈ ds, isDigit c = true
  isFloat : frac ≠ [] ∨ exp ≠ []

def FloatLit.text (l : FloatLit) : Str :=
  (if l.neg then [45] else []) ++ l.int ++ l.frac ++ l.exp

/-- What the modelled code uses of one interpreter: the float type `F`
and the limits of `json` and `int`. -/
class Runtime (F : Type) where
  /-- what `json.dumps` writes for a float -/
  floatText : F → Str
  /-- `float(literal)` -/
  ofLiteral : Str → F
  ofConst : FloatConst → F
  /-- `repr` of a float, read back by `float`, is that float -/
  floatText_read : ∀ x, (∃ k : FloatConst, floatText x = k.text ∧ ofConst k = x)
    ∨ ∃ l : FloatLit, floatText x = l.text ∧ ofLiteral l.text = x
  floatEq : F → F → Bool
  floatEqInt : F → Int → Bool
  floatIsZero : F → Bool
  /-- `str(x)`, which differs from the JSON text on the constants -/
  floatStr : F → Str
  floatStr_ne : ∀ x, floatStr x ≠ []
  /-- `str.isprintable` on one code point -/
  isPrintable : Nat → Bool
  /-- `str.isidentifier` -/
  isIdentifier : Str → Bool
  /-- `sys.get_int_max_str_digits()` -/
  maxStrDigits : Nat
  /-- nested containers the decoder enters before `RecursionError` -/
  recursionLimit : Nat

/-- An interpreter whose only floats are the non-finite ones: every literal
overflows. -/
instance : Runtime FloatConst where
  floatText k := k.text
  ofLiteral t := if t.head? = some 45 then .negInfinity else .infinity
  ofConst k := k
  floatText_read k := .inl ⟨k, rfl, rfl⟩
  floatEq a b := a != .nan && a == b
  floatEqInt _ _ := false
  floatIsZero _ := false
  floatStr
    | .nan => "nan"
    | .infinity => "inf"
    | .negInfinity => "-inf"
  floatStr_ne k := by cases k <;> exact List.cons_ne_nil _ _
  isPrintable c := 32 ≤ c && c ≤ 126
  isIdentifier s := s != [] && s.all fun c => c == 95 || isDigit c || 97 ≤ c && c ≤ 122
  maxStrDigits := 4300
  recursionLimit := 1000

/-! ## Values -/

/-- A JSON value; an object keeps the order of its keys. -/
inductive Json (F : Type) where
  | null
  | bool (b : Bool)
  | int (n : Int)
  | float (x : F)
  | str (s : Str)
  | arr (xs : List (Json F))
  | obj (kvs : List (Str × Json F))

namespace Json

variable {F : Type}

/-- `d.get(key)`, on the entries of an object. -/
def lookup (key : Str) : List (Str × Json F) → Option (Json F)
  | [] => none
  | (k, v) :: kvs => if k = key then some v else lookup key kvs

/-- `d[key] = value`: an existing key keeps its place. -/
def insert (key : Str) (value : Json F) : List (Str × Json F) → List (Str × Json F)
  | [] => [(key, value)]
  | (k, v) :: kvs => if k = key then (k, value) :: kvs else (k, v) :: insert key value kvs

/-- The `dict` of a list of pairs: the last value of a key wins. -/
def ofPairs (kvs : List (Str × Json F)) : List (Str × Json F) :=
  kvs.foldl (fun d kv => insert kv.1 kv.2 d) []

/-- `value.get(key)`, `None` when absent. -/
def get (key : Str) (kvs : List (Str × Json F)) : Json F := (lookup key kvs).getD .null

/-- `bool(value)`. -/
def truthy [Runtime F] : Json F → Bool
  | .null => false
  | .bool b => b
  | .int n => n != 0
  | .float x => !Runtime.floatIsZero x
  | .str s => !s.isEmpty
  | .arr xs => !xs.isEmpty
  | .obj kvs => !kvs.isEmpty

/-- `value == n`: `True` is `1` and a float may be integral. -/
def eqInt [Runtime F] (v : Json F) (n : Int) : Bool :=
  match v with
  | .bool b => (if b then 1 else 0) == n
  | .int m => m == n
  | .float x => Runtime.floatEqInt x n
  | _ => false

/-- `value == s` for a text `s`. -/
def eqStr (v : Json F) (s : Str) : Bool :=
  match v with
  | .str t => t == s
  | _ => false

theorem eqStr_iff {v : Json F} {s : Str} : v.eqStr s = true ↔ v = .str s := by
  cases v <;> simp [eqStr]

theorem insert_of_not_mem {key : Str} {value : Json F} :
    ∀ {kvs : List (Str × Json F)}, key ∉ kvs.map Prod.fst →
      insert key value kvs = kvs ++ [(key, value)]
  | [], _ => rfl
  | (k, v) :: kvs, h => by
      rw [List.map_cons, List.mem_cons, not_or] at h
      rw [insert, if_neg (Ne.symm h.1), insert_of_not_mem h.2, List.cons_append]

/-- Pairs with distinct keys are already the entries of their `dict`. -/
theorem ofPairs_of_nodup {kvs : List (Str × Json F)} (h : (kvs.map Prod.fst).Nodup) :
    ofPairs kvs = kvs := by
  have go : ∀ (rest acc : List (Str × Json F)),
      ((acc ++ rest).map Prod.fst).Nodup →
        rest.foldl (fun d kv => insert kv.1 kv.2 d) acc = acc ++ rest := by
    intro rest
    induction rest with
    | nil => intro acc _; rw [List.foldl_nil, List.append_nil]
    | cons kv rest ih =>
        intro acc hnd
        have hk : kv.1 ∉ acc.map Prod.fst := fun hm => by
          rw [List.map_append, List.nodup_append] at hnd
          exact hnd.2.2 _ hm _ (List.mem_cons_self ..) rfl
        rw [List.foldl_cons, insert_of_not_mem hk, ih, List.append_assoc]
        · rfl
        · rw [List.append_assoc]; exact hnd
  exact go kvs [] h

theorem mem_keys_of_lookup {key : Str} {v : Json F} : ∀ {kvs : List (Str × Json F)},
    lookup key kvs = some v → key ∈ kvs.map Prod.fst
  | (k, w) :: kvs, h => by
      rw [lookup] at h
      rw [List.map_cons, List.mem_cons]
      split_ifs at h with hk
      · exact .inl hk.symm
      · exact .inr (mem_keys_of_lookup h)

theorem keys_insert {key : Str} {value : Json F} : ∀ {kvs : List (Str × Json F)} {k : Str},
    k ∈ (insert key value kvs).map Prod.fst → k = key ∨ k ∈ kvs.map Prod.fst
  | [], k, h => .inl (List.mem_singleton.mp h)
  | (k', v) :: kvs, k, h => by
      rw [insert] at h
      split_ifs at h with hk
      · exact .inr h
      · rw [List.map_cons, List.mem_cons] at h ⊢
        rcases h with h | h
        · exact .inr (.inl h)
        · exact (keys_insert h).imp id .inr

/-! ## Repeated keys -/

mutual

/-- What is read back: of the members with one key the last one stays. A
`dict` with the keys `1` and `"1"` is written with such members. -/
def dedup : Json F → Json F
  | .arr xs => .arr (dedupElements xs)
  | .obj kvs => .obj (ofPairs (dedupMembers kvs))
  | v => v

def dedupElements : List (Json F) → List (Json F)
  | [] => []
  | x :: xs => dedup x :: dedupElements xs

def dedupMembers : List (Str × Json F) → List (Str × Json F)
  | [] => []
  | (k, v) :: kvs => (k, dedup v) :: dedupMembers kvs

end

mutual

/-- No object has two members with one key. -/
def DistinctKeys : Json F → Prop
  | .arr xs => DistinctKeysElements xs
  | .obj kvs => (kvs.map Prod.fst).Nodup ∧ DistinctKeysMembers kvs
  | _ => True

def DistinctKeysElements : List (Json F) → Prop
  | [] => True
  | x :: xs => DistinctKeys x ∧ DistinctKeysElements xs

def DistinctKeysMembers : List (Str × Json F) → Prop
  | [] => True
  | (_, v) :: kvs => DistinctKeys v ∧ DistinctKeysMembers kvs

end

theorem distinctKeys_lookup {key : Str} {v : Json F} {kvs : List (Str × Json F)}
    (hkeys : DistinctKeysMembers kvs) (h : lookup key kvs = some v) :
    v.DistinctKeys := by
  induction kvs with
  | nil => cases h
  | cons kv rest ih =>
      obtain ⟨k, w⟩ := kv
      obtain ⟨hw, hrest⟩ := hkeys
      unfold lookup at h
      split_ifs at h with hk
      · cases h
        exact hw
      · exact ih hrest h

theorem distinctKeys_get {key : Str} {kvs : List (Str × Json F)} (hkeys : DistinctKeysMembers kvs) :
    (get key kvs).DistinctKeys := by
  unfold get
  cases h : lookup key kvs with
  | none => trivial
  | some v => exact distinctKeys_lookup hkeys h

theorem distinctKeys_elements {xs : List (Json F)} (hkeys : DistinctKeysElements xs) :
    ∀ x ∈ xs, x.DistinctKeys := by
  induction xs with
  | nil => nofun
  | cons x rest ih =>
      obtain ⟨hx, hrest⟩ := hkeys
      exact List.forall_mem_cons.mpr ⟨hx, ih hrest⟩

mutual

theorem dedup_of_distinctKeys : ∀ v : Json F, DistinctKeys v → dedup v = v
  | .null, _ | .bool _, _ | .int _, _ | .float _, _ | .str _, _ => rfl
  | .arr xs, h => congrArg Json.arr (dedupElements_of_distinctKeys xs h)
  | .obj kvs, h => by
      rw [dedup, dedupMembers_of_distinctKeys kvs h.2, ofPairs_of_nodup h.1]

theorem dedupElements_of_distinctKeys : ∀ xs : List (Json F),
    DistinctKeysElements xs → dedupElements xs = xs
  | [], _ => rfl
  | x :: xs, h => by
      rw [dedupElements, dedup_of_distinctKeys x h.1, dedupElements_of_distinctKeys xs h.2]

theorem dedupMembers_of_distinctKeys : ∀ kvs : List (Str × Json F),
    DistinctKeysMembers kvs → dedupMembers kvs = kvs
  | [], _ => rfl
  | (k, v) :: kvs, h => by
      rw [dedupMembers, dedup_of_distinctKeys v h.1, dedupMembers_of_distinctKeys kvs h.2]

end

end Json

/-! ## `str(value)` -/

section Repr

variable {F : Type} [Runtime F]

/-- One code point of `repr` of a text quoted with `quote`. -/
def reprChar (F : Type) [Runtime F] (quote c : Nat) : Str :=
  if c = quote ∨ c = 92 then [92, c]
  else if c = 9 then [92, 116]
  else if c = 10 then [92, 110]
  else if c = 13 then [92, 114]
  else if c < 32 ∨ c = 127 then 92 :: 120 :: hexText 2 c
  else if c < 127 ∨ Runtime.isPrintable F c then [c]
  else if c ≤ 0xFF then 92 :: 120 :: hexText 2 c
  else if c ≤ 0xFFFF then 92 :: 117 :: hexText 4 c
  else 92 :: 85 :: hexText 8 c

/-- `repr(s)`: double quotes only for a text with a single and no double one. -/
def reprString (F : Type) [Runtime F] (s : Str) : Str :=
  let quote := if 39 ∈ s ∧ 34 ∉ s then 34 else 39
  quote :: (s.flatMap (reprChar F quote) ++ [quote])

mutual

/-- `repr(value)`. -/
def Json.repr : Json F → Str
  | .null => "None"
  | .bool true => "True"
  | .bool false => "False"
  | .int n => intText n
  | .float x => Runtime.floatStr x
  | .str s => reprString F s
  | .arr xs => 91 :: (reprElements xs ++ [93])
  | .obj kvs => 123 :: (reprMembers kvs ++ [125])

def reprElements : List (Json F) → Str
  | [] => []
  | [x] => x.repr
  | x :: y :: xs => x.repr ++ 44 :: 32 :: reprElements (y :: xs)

def reprMembers : List (Str × Json F) → Str
  | [] => []
  | [(k, v)] => reprString F k ++ 58 :: 32 :: v.repr
  | (k, v) :: kv :: kvs =>
      reprString F k ++ 58 :: 32 :: (v.repr ++ 44 :: 32 :: reprMembers (kv :: kvs))

end

/-- `str(value)`. -/
def Json.pyStr : Json F → Str
  | .str s => s
  | v => v.repr

/-- Only the empty text has an empty `str`. -/
theorem Json.pyStr_ne {v : Json F} (h : v ≠ .str []) : v.pyStr ≠ [] := by
  cases v with
  | null => exact List.cons_ne_nil _ _
  | bool b => cases b <;> exact List.cons_ne_nil _ _
  | int n =>
      rw [pyStr, repr]
      · cases n with
        | ofNat n => exact natText_ne_nil n
        | negSucc n => exact List.cons_ne_nil _ _
      · nofun
  | float x =>
      rw [pyStr, repr]
      · exact Runtime.floatStr_ne x
      · nofun
  | str s => exact fun hs => h (congrArg _ hs)
  | arr xs => exact List.cons_ne_nil _ _
  | obj kvs => exact List.cons_ne_nil _ _

end Repr

/-! ## `json.dumps(value, separators=(",", ":"), ensure_ascii=False)` -/

/-- One code point inside a string literal. -/
def escapeChar (c : Nat) : Str :=
  if c = 34 then [92, 34]
  else if c = 92 then [92, 92]
  else if c = 10 then [92, 110]
  else if c = 13 then [92, 114]
  else if c = 9 then [92, 116]
  else if c = 12 then [92, 102]
  else if c = 8 then [92, 98]
  else if c < 32 then [92, 117, 48, 48, hexDigit (c / 16), hexDigit (c % 16)]
  else [c]

def encodeString (s : Str) : Str := 34 :: (s.flatMap escapeChar ++ [34])

namespace Json

variable {F : Type} [Runtime F]

mutual

/-- The text `json.dumps` writes for a value. -/
def encode : Json F → Str
  | .null => "null"
  | .bool true => "true"
  | .bool false => "false"
  | .int n => intText n
  | .float x => Runtime.floatText x
  | .str s => encodeString s
  | .arr xs => 91 :: (encodeElements xs ++ [93])
  | .obj kvs => 123 :: (encodeMembers kvs ++ [125])

def encodeElements : List (Json F) → Str
  | [] => []
  | [x] => encode x
  | x :: y :: xs => encode x ++ 44 :: encodeElements (y :: xs)

def encodeMembers : List (Str × Json F) → Str
  | [] => []
  | [(k, v)] => encodeString k ++ 58 :: encode v
  | (k, v) :: kv :: kvs => encodeString k ++ 58 :: (encode v ++ 44 :: encodeMembers (kv :: kvs))

end

mutual

/-- Nesting depth in containers. -/
def depth : Json F → Nat
  | .arr xs => depthElements xs + 1
  | .obj kvs => depthMembers kvs + 1
  | _ => 0

def depthElements : List (Json F) → Nat
  | [] => 0
  | x :: xs => max (depth x) (depthElements xs)

def depthMembers : List (Str × Json F) → Nat
  | [] => 0
  | (_, v) :: kvs => max (depth v) (depthMembers kvs)

end

mutual

/-- The integers of the value are within the digit limit, which `str` and
`int` share. -/
def DigitsFit : Json F → Prop
  | .int n => digitCount n ≤ Runtime.maxStrDigits F
  | .arr xs => DigitsFitElements xs
  | .obj kvs => DigitsFitMembers kvs
  | _ => True

def DigitsFitElements : List (Json F) → Prop
  | [] => True
  | x :: xs => DigitsFit x ∧ DigitsFitElements xs

def DigitsFitMembers : List (Str × Json F) → Prop
  | [] => True
  | (_, v) :: kvs => DigitsFit v ∧ DigitsFitMembers kvs

end

/-- `json.dumps` writes the value and `json.loads` takes the text. -/
def Printable (v : Json F) : Prop := v.DigitsFit ∧ v.depth ≤ Runtime.recursionLimit F

mutual

/-- A property of every string of a value, the keys included. -/
def AllStrings (P : Str → Prop) : Json F → Prop
  | .str s => P s
  | .arr xs => AllStringsElements P xs
  | .obj kvs => AllStringsMembers P kvs
  | _ => True

def AllStringsElements (P : Str → Prop) : List (Json F) → Prop
  | [] => True
  | x :: xs => AllStrings P x ∧ AllStringsElements P xs

def AllStringsMembers (P : Str → Prop) : List (Str × Json F) → Prop
  | [] => True
  | (k, v) :: kvs => P k ∧ AllStrings P v ∧ AllStringsMembers P kvs

end

end Json

/-! ## `json.loads` -/

/-- How `json.loads` fails. -/
inductive LoadError where
  | decode      -- `JSONDecodeError`
  | intDigits   -- `ValueError`: the integer digit limit
  | recursion   -- `RecursionError`
  deriving DecidableEq

def isJsonSpace (c : Nat) : Bool := c == 32 || c == 9 || c == 10 || c == 13

def skipSpace (t : Str) : Str := t.dropWhile isJsonSpace

def hexValue (c : Nat) : Option Nat :=
  if 48 ≤ c ∧ c ≤ 57 then some (c - 48)
  else if 97 ≤ c ∧ c ≤ 102 then some (c - 87)
  else if 65 ≤ c ∧ c ≤ 70 then some (c - 55)
  else none

def hex4 (a b c d : Nat) : Option Nat := do
  let a ← hexValue a; let b ← hexValue b; let c ← hexValue c; let d ← hexValue d
  some (4096 * a + 256 * b + 16 * c + d)

/-- The character a one-letter escape stands for. -/
def unescape (c : Nat) : Option Nat :=
  if c = 34 then some 34 else if c = 92 then some 92 else if c = 47 then some 47
  else if c = 98 then some 8 else if c = 102 then some 12 else if c = 110 then some 10
  else if c = 114 then some 13 else if c = 116 then some 9 else none

/-- A `\u` escape at the head of the text. -/
def unicodeEscape? : Str → Option Nat
  | 92 :: 117 :: a :: b :: c :: d :: _ => hex4 a b c d
  | _ => none

/-- Push the code unit `u` of a `\u` escape in front of `s`, the decoding of
`t`: a high surrogate joins a low one that `t` opens with as an escape. -/
def joinSurrogate (u : Nat) (t s : Str) : Str :=
  match unicodeEscape? t, s with
  | some v, _ :: s' =>
      if 0xD800 ≤ u ∧ u ≤ 0xDBFF ∧ 0xDC00 ≤ v ∧ v ≤ 0xDFFF then
        (0x10000 + (u - 0xD800) * 0x400 + (v - 0xDC00)) :: s'
      else u :: s
  | _, _ => u :: s

/-- The rest of a string literal, its opening quote already read. -/
def scanString : Str → Except LoadError (Str × Str)
  | [] => .error .decode
  | c :: t =>
      if c = 34 then .ok ([], t)
      else if c = 92 then
        match t with
        | [] => .error .decode
        | e :: t =>
            if e = 117 then
              match t with
              | a :: b :: c :: d :: t =>
                  match hex4 a b c d with
                  | some u => (scanString t).map fun (s, r) => (joinSurrogate u t s, r)
                  | none => .error .decode
              | _ => .error .decode
            else match unescape e with
              | some x => (scanString t).map fun (s, r) => (x :: s, r)
              | none => .error .decode
      else if c < 32 then .error .decode
      else (scanString t).map fun (s, r) => (c :: s, r)

theorem scanString_quote (t : Str) : scanString (34 :: t) = .ok ([], t) := by
  rw [scanString.eq_def]; rfl

theorem scanString_plain {c : Nat} (h1 : c ≠ 34) (h2 : c ≠ 92) (h3 : ¬c < 32) (t : Str) :
    scanString (c :: t) = (scanString t).map fun (s, r) => (c :: s, r) := by
  rw [scanString.eq_def]
  simp only [if_neg h1, if_neg h2, if_neg h3]

theorem scanString_unescape {e x : Nat} (he : e ≠ 117) (hx : unescape e = some x) (t : Str) :
    scanString (92 :: e :: t) = (scanString t).map fun (s, r) => (x :: s, r) := by
  rw [scanString.eq_def]
  simp only [if_neg (by decide : ¬(92 = 34)), if_neg he, hx, if_true]

theorem scanString_unicode {a b c d u : Nat} (hx : hex4 a b c d = some u) (t : Str) :
    scanString (92 :: 117 :: a :: b :: c :: d :: t)
      = (scanString t).map fun (s, r) => (joinSurrogate u t s, r) := by
  rw [scanString.eq_def]
  simp only [if_neg (by decide : ¬(92 = 34)), hx, if_true]

/-- `0|[1-9][0-9]*`, the sign already read. -/
def scanUnsigned (sign : Str) : Str → Option (Str × Str)
  | [] => none
  | c :: r =>
      if c = 48 then some (sign ++ [48], r)
      else if isDigit c then
        some (sign ++ c :: r.takeWhile isDigit, r.dropWhile isDigit)
      else none

/-- `-?(0|[1-9][0-9]*)`. -/
def scanInt : Str → Option (Str × Str)
  | [] => none
  | c :: u => if c = 45 then scanUnsigned [45] u else scanUnsigned [] (c :: u)

/-- `(\.[0-9]+)?`. -/
def scanFrac (t : Str) : Str × Str :=
  match t with
  | 46 :: u =>
      if (u.takeWhile isDigit).isEmpty then ([], t)
      else (46 :: u.takeWhile isDigit, u.dropWhile isDigit)
  | _ => ([], t)

/-- `[-+]?`. -/
def expSign : Str → Str × Str
  | [] => ([], [])
  | c :: w => if c = 43 ∨ c = 45 then ([c], w) else ([], c :: w)

/-- `([eE][-+]?[0-9]+)?`. -/
def scanExp : Str → Str × Str
  | [] => ([], [])
  | m :: u =>
      if m = 101 ∨ m = 69 then
        if ((expSign u).2.takeWhile isDigit).isEmpty then ([], m :: u)
        else (m :: ((expSign u).1 ++ (expSign u).2.takeWhile isDigit),
          (expSign u).2.dropWhile isDigit)
      else ([], m :: u)

/-- `int(text)` of a scanned integer. -/
def readInt (t : Str) : Int :=
  match t with
  | 45 :: ds => -(natOfDigits ds : Int)
  | ds => natOfDigits ds

section Loads

variable {F : Type} [Runtime F]

/-- A number: an integer unless a fraction or an exponent follows. -/
def scanNumber (t : Str) : Except LoadError (Json F × Str) :=
  match scanInt t with
  | none => .error .decode
  | some (i, t) =>
      let (f, t) := scanFrac t
      let (e, t) := scanExp t
      if f.isEmpty && e.isEmpty then
        if (i.filter isDigit).length > Runtime.maxStrDigits F then .error .intDigits
        else .ok (.int (readInt i), t)
      else .ok (.float (Runtime.ofLiteral (i ++ f ++ e)), t)

/-- The elements of an array, from the first one on. -/
def scanElements (value : Str → Except LoadError (Json F × Str)) :
    Nat → Str → Except LoadError (List (Json F) × Str)
  | 0, _ => .error .decode
  | fuel + 1, t =>
      match value t with
      | .error e => .error e
      | .ok (v, t) =>
          match skipSpace t with
          | 93 :: t => .ok ([v], t)
          | 44 :: t => (scanElements value fuel (skipSpace t)).map fun (vs, r) => (v :: vs, r)
          | _ => .error .decode

/-- The members of an object, from the first key's quote on. -/
def scanMembers (value : Str → Except LoadError (Json F × Str)) :
    Nat → Str → Except LoadError (List (Str × Json F) × Str)
  | 0, _ => .error .decode
  | fuel + 1, t =>
      match t with
      | 34 :: t =>
          match scanString t with
          | .error e => .error e
          | .ok (k, t) =>
              match skipSpace t with
              | 58 :: t =>
                  match value (skipSpace t) with
                  | .error e => .error e
                  | .ok (v, t) =>
                      match skipSpace t with
                      | 125 :: t => .ok ([(k, v)], t)
                      | 44 :: t =>
                          (scanMembers value fuel (skipSpace t)).map
                            fun (kvs, r) => ((k, v) :: kvs, r)
                      | _ => .error .decode
              | _ => .error .decode
      | _ => .error .decode

/-- `rest` when `word` opens the text. -/
def dropWord (word t : Str) : Option Str :=
  if word.isPrefixOf t then some (t.drop word.length) else none

/-- The scalar words and numbers, tried in the scanner's order. -/
def scanScalar (t : Str) : Except LoadError (Json F × Str) :=
  match dropWord "null" t with
  | some r => .ok (.null, r)
  | none =>
    match dropWord "true" t with
    | some r => .ok (.bool true, r)
    | none =>
      match dropWord "false" t with
      | some r => .ok (.bool false, r)
      | none =>
        match dropWord "NaN" t with
        | some r => .ok (.float (Runtime.ofConst .nan), r)
        | none =>
          match dropWord "Infinity" t with
          | some r => .ok (.float (Runtime.ofConst .infinity), r)
          | none =>
            match dropWord "-Infinity" t with
            | some r => .ok (.float (Runtime.ofConst .negInfinity), r)
            | none => scanNumber t

/-- One value at the head of the text, at most `depth` containers deep. -/
def scanOnce : Nat → Str → Except LoadError (Json F × Str)
  | _, [] => .error .decode
  | depth, c :: t =>
      if c = 34 then (scanString t).map fun (s, r) => (.str s, r)
      else if c = 91 then
        match depth with
        | 0 => .error .recursion
        | depth + 1 =>
            match skipSpace t with
            | 93 :: t => .ok (.arr [], t)
            | t => (scanElements (scanOnce depth) t.length t).map fun (vs, r) => (.arr vs, r)
      else if c = 123 then
        match depth with
        | 0 => .error .recursion
        | depth + 1 =>
            match skipSpace t with
            | 125 :: t => .ok (.obj [], t)
            | t => (scanMembers (scanOnce depth) t.length t).map
                fun (kvs, r) => (.obj (Json.ofPairs kvs), r)
      else scanScalar (c :: t)

theorem scanOnce_quote (d : Nat) (t : Str) :
    scanOnce (F := F) d (34 :: t) = (scanString t).map fun (s, r) => (.str s, r) := by
  cases d <;> rw [scanOnce.eq_def] <;> rfl

theorem scanOnce_bracket (d : Nat) (t : Str) :
    scanOnce (F := F) (d + 1) (91 :: t) = match skipSpace t with
      | 93 :: t => .ok (.arr [], t)
      | t => (scanElements (scanOnce d) t.length t).map fun (vs, r) => (.arr vs, r) := by
  rw [scanOnce.eq_def]
  simp only [if_neg (by decide : ¬(91 = 34)), if_true]

theorem scanOnce_brace (d : Nat) (t : Str) :
    scanOnce (F := F) (d + 1) (123 :: t) = match skipSpace t with
      | 125 :: t => .ok (.obj [], t)
      | t => (scanMembers (scanOnce d) t.length t).map
          fun (kvs, r) => (.obj (Json.ofPairs kvs), r) := by
  rw [scanOnce.eq_def]
  simp only [if_neg (by decide : ¬(123 = 34)), if_neg (by decide : ¬(123 = 91)), if_true]

theorem scanOnce_scalar {c : Nat} (h1 : c ≠ 34) (h2 : c ≠ 91) (h3 : c ≠ 123) (d : Nat)
    (t : Str) : scanOnce (F := F) d (c :: t) = scanScalar (c :: t) := by
  cases d <;> rw [scanOnce.eq_def] <;> simp only [if_neg h1, if_neg h2, if_neg h3]

/-- `json.loads(text)`. -/
def loads (t : Str) : Except LoadError (Json F) :=
  match scanOnce (Runtime.recursionLimit F) (skipSpace t) with
  | .error e => .error e
  | .ok (v, t) => if (skipSpace t).isEmpty then .ok v else .error .decode

end Loads

end Py
