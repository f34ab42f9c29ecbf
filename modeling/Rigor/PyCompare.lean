import Mathlib.Data.List.Lex
import Mathlib.Data.List.Sort
import Rigor.PyJson

/-!
# Comparing Python values

The operations a grader compares JSON values with: `==`, the words of a
text, the encoder with sorted keys, and the float operations of a numeric
tolerance. `==` takes a `bool` or an integral float for the integer it
equals, and two objects for equal whatever the order of their keys.
-/

namespace Py

/-- The float operations of a numeric comparison. -/
class FloatArith (F : Type) extends Runtime F where
  /-- `float(n)`; `none` for `OverflowError` -/
  ofInt : Int → Option F
  /-- `math.isfinite` -/
  isFinite : F → Bool
  /-- `x < 0` -/
  isNegative : F → Bool
  /-- `math.isclose(a, b, rel_tol=0.0, abs_tol=tolerance)` -/
  isClose : F → F → F → Bool
  /-- `1e-9` -/
  nano : F
  nano_ok : isFinite nano = true ∧ isNegative nano = false
  /-- `repr` of a float opens with a digit, a sign, `inf` or `nan` -/
  floatStr_head : ∀ x t, floatStr x ≠ 116 :: t

/-- Floats with `1e-9` for their only finite value. -/
inductive NanoFloat where
  | const (k : FloatConst)
  | nano
  deriving DecidableEq

def NanoFloat.literal : FloatLit where
  neg := false
  int := [49]
  frac := []
  exp := [101, 45, 48, 57]
  int_ok := .inr ⟨49, [], rfl, by decide, by decide⟩
  frac_ok := .inl rfl
  exp_ok := .inr ⟨101, [45], [48, 57], rfl, .inl rfl, .inr (.inr rfl), by decide, by decide⟩
  isFloat := .inr (by decide)

instance : FloatArith NanoFloat where
  floatText
    | .const k => k.text
    | .nano => NanoFloat.literal.text
  ofLiteral t :=
    if t = NanoFloat.literal.text then .nano
    else if t.head? = some 45 then .const .negInfinity
    else .const .infinity
  ofConst k := .const k
  floatText_read
    | .const k => .inl ⟨k, rfl, rfl⟩
    | .nano => .inr ⟨NanoFloat.literal, rfl, if_pos rfl⟩
  floatEq a b := a != .const .nan && a == b
  floatEqInt _ _ := false
  floatIsZero _ := false
  floatStr
    | .const k => Runtime.floatStr k
    | .nano => NanoFloat.literal.text
  floatStr_ne
    | .const k => Runtime.floatStr_ne k
    | .nano => by decide
  isPrintable := Runtime.isPrintable FloatConst
  isIdentifier := Runtime.isIdentifier FloatConst
  maxStrDigits := 4300
  recursionLimit := 1000
  ofInt _ := none
  isFinite x := x == .nano
  isNegative x := x == .const .negInfinity
  isClose a b tolerance := a == b || tolerance == .const .infinity
  nano := .nano
  nano_ok := ⟨rfl, rfl⟩
  floatStr_head
    | .const k => by cases k <;> exact fun _ h => by cases h
    | .nano => fun _ h => by cases h

namespace Json

variable {F : Type}

@[simp] theorem lookup_insert_self (key : Str) (value : Json F) :
    ∀ kvs : List (Str × Json F), lookup key (insert key value kvs) = some value
  | [] => by rw [insert, lookup, if_pos rfl]
  | (k, v) :: kvs => by
      rw [insert]
      split_ifs with hk
      · rw [lookup, if_pos hk]
      · rw [lookup, if_neg hk, lookup_insert_self key value kvs]

theorem lookup_insert_of_ne {key k' : Str} (hne : key ≠ k') (value : Json F) :
    ∀ kvs : List (Str × Json F), lookup k' (insert key value kvs) = lookup k' kvs
  | [] => if_neg hne
  | (k, v) :: kvs => by
      rw [insert]
      split_ifs with hk
      · rw [lookup, lookup, if_neg (hk ▸ hne), if_neg (hk ▸ hne)]
      · rw [lookup, lookup, lookup_insert_of_ne hne value kvs]

section Equality

variable [Runtime F]

mutual

/-- `a == b`. Values read from text are distinct objects, so no identity
shortcut applies. -/
def pyEq : Json F → Json F → Bool
  | .null, .null => true
  | .bool a, v => v.eqInt (if a then 1 else 0)
  | .int a, v => v.eqInt a
  | .float x, .bool b => Runtime.floatEqInt x (if b then 1 else 0)
  | .float x, .int n => Runtime.floatEqInt x n
  | .float x, .float y => Runtime.floatEq x y
  | .str s, .str t => s == t
  | .arr xs, .arr ys => pyEqElements xs ys
  | .obj a, .obj b => a.length == b.length && pyEqMembers a b
  | _, _ => false

def pyEqElements : List (Json F) → List (Json F) → Bool
  | [], [] => true
  | x :: xs, y :: ys => pyEq x y && pyEqElements xs ys
  | _, _ => false

/-- Every member is among those of `b`, with an equal value. -/
def pyEqMembers : List (Str × Json F) → List (Str × Json F) → Bool
  | [], _ => true
  | (k, v) :: kvs, b =>
      (match lookup k b with
        | some w => pyEq v w
        | none => false) && pyEqMembers kvs b

end

end Equality

mutual

/-- The value with the members of every object in the order of their keys. -/
def sortKeys : Json F → Json F
  | .arr xs => .arr (sortKeysElements xs)
  | .obj kvs => .obj ((sortKeysMembers kvs).insertionSort fun a b => a.1 ≤ b.1)
  | v => v

def sortKeysElements : List (Json F) → List (Json F)
  | [] => []
  | x :: xs => sortKeys x :: sortKeysElements xs

def sortKeysMembers : List (Str × Json F) → List (Str × Json F)
  | [] => []
  | (k, v) :: kvs => (k, sortKeys v) :: sortKeysMembers kvs

end

/-- `float(value)` of a number; `none` for what is no number, `bool`
included. -/
def toFloat [FloatArith F] : Json F → Option (Option F)
  | .int n => some (FloatArith.ofInt n)
  | .float x => some (some x)
  | _ => none

end Json

/-- `sorted(texts)`. -/
def sortTexts (texts : List Str) : List Str := texts.insertionSort (· ≤ ·)

/-- `text.split()`. -/
def words (s : Str) : List Str := (s.splitOnP isSpace).filter (· ≠ [])

/-- `" ".join(text.split())`. -/
def normalizeSpace (s : Str) : Str := [32].intercalate (words s)

/-- `text.endswith(suffix)`. -/
def endsWith (suffix s : Str) : Bool := suffix.isSuffixOf s

end Py
