/-!
# Cancellation tokens

A token tells a running method that its answer is no longer wanted. Canceling is cooperative and
happens once: a canceled token stays canceled, and only the first cancellation reports success.

`Tokens` holds the state of every token that was made; a `Token` names one of them, and two handles
are the same token exactly when they have the same name.

Results: `isCanceled_fresh` and `isCanceled_cancel` (what making and canceling a token does to the
state of every token), `fst_cancel` (a cancellation succeeds exactly on a token that is not
canceled).
-/

namespace Switchboard

/-- Names one token. -/
structure Token where
  id : Nat
  deriving DecidableEq, Repr

/-- What a canceled method may give as its error. -/
def canceledText : String := "context canceled"

/-- The state of every token made so far: whether it is canceled. -/
structure Tokens where
  flags : List Bool
  deriving DecidableEq, Repr

namespace Tokens

/-- No tokens. -/
def empty : Tokens := ⟨[]⟩

/-- Whether the token was made here. -/
def Made (s : Tokens) (t : Token) : Prop := t.id < s.flags.length

/-- A new token, not canceled. -/
def fresh (s : Tokens) : Token × Tokens := (⟨s.flags.length⟩, ⟨s.flags ++ [false]⟩)

/-- Whether the token is canceled. -/
def isCanceled (s : Tokens) (t : Token) : Bool := s.flags.getD t.id false

/-- Cancels the token. Gives whether it was not canceled before. -/
def cancel (s : Tokens) (t : Token) : Bool × Tokens :=
  (!s.isCanceled t, ⟨s.flags.set t.id true⟩)

/-- The text by which a token describes itself. -/
def describe (s : Tokens) (t : Token) : String :=
  "Context \x7b canceled: " ++ toString (s.isCanceled t) ++ " \x7d"

/-- Making a token cancels none. -/
theorem isCanceled_fresh (s : Tokens) (t : Token) : s.fresh.2.isCanceled t = s.isCanceled t := by
  simp only [fresh, isCanceled, List.getD_eq_getElem?_getD, List.getElem?_append]
  split
  · rfl
  · rename_i h
    have hnone : s.flags[t.id]? = none := List.getElem?_eq_none (by omega)
    rw [hnone]
    cases t.id - s.flags.length <;> rfl

/-- A new token is none of those made before. -/
theorem not_made_fresh (s : Tokens) : ¬s.Made s.fresh.1 := by
  simp [Made, fresh]

/-- Making a token keeps those made before and adds the new one. -/
theorem made_fresh_iff (s : Tokens) (t : Token) :
    s.fresh.2.Made t ↔ s.Made t ∨ t = s.fresh.1 := by
  obtain ⟨id⟩ := t
  simp only [Made, fresh, List.length_append, List.length_cons, List.length_nil, Token.mk.injEq]
  omega

/-- Canceling a token cancels it and no other. -/
theorem isCanceled_cancel {s : Tokens} {t : Token} (h : s.Made t) (u : Token) :
    (s.cancel t).2.isCanceled u = (decide (u = t) || s.isCanceled u) := by
  obtain ⟨i⟩ := t
  obtain ⟨j⟩ := u
  simp only [cancel, isCanceled, List.getD_eq_getElem?_getD, List.getElem?_set, Made,
    Token.mk.injEq] at *
  by_cases hij : i = j
  · subst hij
    simp [h]
  · simp [hij, Ne.symm hij]

/-- A cancellation succeeds exactly on a token that is not canceled. -/
theorem fst_cancel (s : Tokens) (t : Token) : (s.cancel t).1 = !s.isCanceled t := rfl

end Tokens

end Switchboard
