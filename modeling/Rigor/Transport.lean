import Mathlib.Data.List.Basic

/-!
# At-least-once transport

Messages are numbered in the order in which they are sent. Whoever removes a
message has sent a copy of it before, and the copy has the larger number; so
the last copy is never removed (`CarriedAfter.remove`), however many processes
copy and remove.
-/

namespace Transport

variable {β : Type}

structure Letter (β : Type) where
  number : Nat
  body : β
  deriving DecidableEq

/-- Some message has the body. -/
def Carried (b : β) (letters : List (Letter β)) : Prop := ∃ l ∈ letters, l.body = b

/-- Some message sent after the `n`-th has the body. -/
def CarriedAfter (n : Nat) (b : β) (letters : List (Letter β)) : Prop :=
  ∃ l ∈ letters, n < l.number ∧ l.body = b

variable {b : β} {n : Nat} {x : Letter β} {letters letters' : List (Letter β)}

theorem CarriedAfter.carried (h : CarriedAfter n b letters) : Carried b letters := by
  obtain ⟨l, hl, -, hb⟩ := h
  exact ⟨l, hl, hb⟩

theorem Carried.mono (h : Carried b letters) (hsub : ∀ l ∈ letters, l ∈ letters') :
    Carried b letters' := by
  obtain ⟨l, hl, hb⟩ := h
  exact ⟨l, hsub l hl, hb⟩

theorem CarriedAfter.mono (h : CarriedAfter n b letters) (hsub : ∀ l ∈ letters, l ∈ letters') :
    CarriedAfter n b letters' := by
  obtain ⟨l, hl, hb⟩ := h
  exact ⟨l, hsub l hl, hb⟩

/-- The message is gone, and no other. -/
def Removed (x : Letter β) (letters letters' : List (Letter β)) : Prop :=
  ∀ l ∈ letters, l = x ∨ l ∈ letters'

theorem Carried.removed_of_ne (h : Carried b letters) (hx : Removed x letters letters')
    (hne : x.body ≠ b) : Carried b letters' := by
  obtain ⟨l, hl, hb⟩ := h
  rcases hx l hl with rfl | hl'
  · exact absurd hb hne
  · exact ⟨l, hl', hb⟩

theorem CarriedAfter.removed_of_ne (h : CarriedAfter n b letters)
    (hx : Removed x letters letters') (hne : x.body ≠ b) : CarriedAfter n b letters' := by
  obtain ⟨l, hl, hn, hb⟩ := h
  rcases hx l hl with rfl | hl'
  · exact absurd hb hne
  · exact ⟨l, hl', hn, hb⟩

/-- A copy sent after the removed message is still there. -/
theorem CarriedAfter.removed_self (h : CarriedAfter x.number b letters)
    (hx : Removed x letters letters') : CarriedAfter x.number b letters' := by
  obtain ⟨l, hl, hn, hb⟩ := h
  rcases hx l hl with rfl | hl'
  · exact absurd hn (Nat.lt_irrefl _)
  · exact ⟨l, hl', hn, hb⟩

/-- A message that has a later copy is removed: the later copies of an
earlier one are not gone with it. -/
theorem CarriedAfter.removed (h : CarriedAfter n b letters) (hx : Removed x letters letters')
    (hcopy : x.body = b → CarriedAfter x.number b letters) : CarriedAfter n b letters' := by
  obtain ⟨l, hl, hn, hb⟩ := h
  rcases hx l hl with rfl | hl'
  · obtain ⟨l', hl', hn', hb'⟩ := (hcopy hb).removed_self hx
    exact ⟨l', hl', Nat.lt_trans hn hn', hb'⟩
  · exact ⟨l, hl', hn, hb⟩

theorem Carried.removed (h : Carried b letters) (hx : Removed x letters letters')
    (hcopy : x.body = b → CarriedAfter x.number b letters) : Carried b letters' := by
  obtain ⟨l, hl, hb⟩ := h
  rcases hx l hl with rfl | hl'
  · exact ((hcopy hb).removed_self hx).carried
  · exact ⟨l, hl', hb⟩

end Transport
