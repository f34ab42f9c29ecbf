import Rigor.PyCompare

/-!
# What PostgreSQL stores

The values a statement hands to PostgreSQL, by the type of the column they
are for, and which of them the column takes: `integer` is signed with 32
bits, `varchar(n)` takes texts of at most `n` characters, no text holds
U+0000 or a surrogate, and `jsonb` takes what `json.dumps` wrote unless a
number is not finite or an escape is no character.
-/

namespace Pg

open Py

/-- A value and the type of its column; `none` is `NULL`. -/
inductive Value (F : Type) where
  | integer (n : Int)
  | varchar (limit : Nat) (s : Option Str)
  | text (s : Str)
  | jsonb (v : Json F)

def intBound : Int := 2147483648

def textOk (s : Str) : Bool := s.all fun c => c != 0 && !isSurrogate c

/-- The escapes of a text written with `ensure_ascii`: a surrogate has to
come in a pair. -/
def escapedOk : Str → Bool
  | [] => true
  | [c] => c != 0 && !isSurrogate c
  | c :: d :: s =>
      if 0xD800 ≤ c ∧ c ≤ 0xDBFF ∧ 0xDC00 ≤ d ∧ d ≤ 0xDFFF then escapedOk s
      else c != 0 && !isSurrogate c && escapedOk (d :: s)

theorem escapedOk_of_textOk : ∀ {s : Str}, textOk s = true → escapedOk s = true
  | [], _ => rfl
  | [c], h => by simpa [textOk, escapedOk] using h
  | c :: d :: s, h => by
      rw [textOk, List.all_cons, Bool.and_eq_true] at h
      have hrest : escapedOk (d :: s) = true := escapedOk_of_textOk h.2
      rw [escapedOk]
      split_ifs with hpair
      · have htail : textOk s = true := by
          have := h.2
          rw [List.all_cons, Bool.and_eq_true] at this
          exact this.2
        exact escapedOk_of_textOk htail
      · rw [h.1, hrest]
        rfl

section Json

variable {F : Type} [FloatArith F]

mutual

def jsonOk : Json F → Bool
  | .float x => FloatArith.isFinite x
  | .str s => escapedOk s
  | .arr xs => jsonOkElements xs
  | .obj kvs => jsonOkMembers kvs
  | _ => true

def jsonOkElements : List (Json F) → Bool
  | [] => true
  | x :: xs => jsonOk x && jsonOkElements xs

def jsonOkMembers : List (Str × Json F) → Bool
  | [] => true
  | (k, v) :: kvs => escapedOk k && jsonOk v && jsonOkMembers kvs

end

theorem jsonOkElements_iff : ∀ {xs : List (Json F)},
    jsonOkElements xs = true ↔ ∀ x ∈ xs, jsonOk x = true
  | [] => iff_of_true rfl (by simp)
  | x :: xs => by
      rw [jsonOkElements, Bool.and_eq_true, jsonOkElements_iff, List.forall_mem_cons]

/-- The column takes the value. -/
def Value.accepted : Value F → Bool
  | .integer n => decide (-intBound ≤ n) && decide (n < intBound)
  | .varchar _ none => true
  | .varchar limit (some s) => decide (s.length ≤ limit) && textOk s
  | .text s => textOk s
  | .jsonb v => jsonOk v

theorem accepted_integer {n : Int} :
    (Value.integer n : Value F).accepted = true ↔ -intBound ≤ n ∧ n < intBound := by
  rw [Value.accepted, Bool.and_eq_true, decide_eq_true_eq, decide_eq_true_eq]

theorem accepted_varchar {limit : Nat} {s : Option Str} :
    (Value.varchar limit s : Value F).accepted = true
      ↔ ∀ t, s = some t → t.length ≤ limit ∧ textOk t = true := by
  cases s with
  | none => exact iff_of_true rfl nofun
  | some t =>
      rw [Value.accepted, Bool.and_eq_true, decide_eq_true_eq]
      exact ⟨fun h u hu => Option.some.inj hu ▸ h, fun h => h t rfl⟩

end Json

end Pg
