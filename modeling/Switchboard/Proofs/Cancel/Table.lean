import Switchboard.Cancel.PendingTable

/-!
# What the operations do to tokens

Starting a number, canceling it and canceling a token, each told by what it does to the table and by
what it does to the tokens: which of them are made, and which are canceled.

`Pending.KnowsTokens` is what the table keeps throughout: every token in it was made.

Results:

* `Pending.token?_or_not_made`: a start gives the token that is bound, or a new one.
* `Pending.token?_cancel`, `Pending.KnowsTokens.isCanceled_cancel`: a number that is canceled is out
  of the table, and its token is canceled and no other.
-/

namespace Switchboard

theorem Tokens.isCanceled_of_not_made {s : Tokens} {t : Token} (h : ¬s.Made t) :
    s.isCanceled t = false := by
  unfold isCanceled
  rw [List.getD_eq_getElem?_getD, List.getElem?_eq_none (Nat.le_of_not_lt h)]
  rfl

namespace Pending

variable (p : Pending) (seq : UInt64)

/-! ## Starting and removing a number -/

theorem fst_remove : (p.remove seq).1 = p.token? seq := by
  unfold remove
  cases p.token? seq <;> rfl

theorem tokens_remove : (p.remove seq).2.2.tokens = p.tokens := by
  unfold remove
  cases p.token? seq <;> rfl

/-- A start gives the token that is bound already, or one that was never made before. -/
theorem token?_or_not_made :
    p.token? seq = some (p.start seq).1 ∨
      p.token? seq = none ∧ ¬p.tokens.Made (p.start seq).1 := by
  unfold start
  cases h : p.token? seq with
  | some t => exact .inl rfl
  | none => exact .inr ⟨rfl, p.tokens.not_made_fresh⟩

theorem isCanceled_start (t : Token) :
    (p.start seq).2.2.tokens.isCanceled t = p.tokens.isCanceled t := by
  unfold start
  cases p.token? seq with
  | some u => rfl
  | none => exact p.tokens.isCanceled_fresh t

theorem made_start {t : Token} (h : p.tokens.Made t) : (p.start seq).2.2.tokens.Made t := by
  unfold start
  cases p.token? seq with
  | some u => exact h
  | none => exact (p.tokens.made_fresh_iff t).2 (.inl h)

/-- The token that a start gives is made. -/
theorem made_fst_start (h : ∀ t, p.token? seq = some t → p.tokens.Made t) :
    (p.start seq).2.2.tokens.Made (p.start seq).1 := by
  unfold start
  cases hb : p.token? seq with
  | some t => exact h t hb
  | none => exact (p.tokens.made_fresh_iff _).2 (.inr rfl)

/-! ## Canceling a token or a number -/

theorem made_cancelToken (t u : Token) :
    (p.cancelToken t).2.tokens.Made u ↔ p.tokens.Made u := by
  change u.id < (p.tokens.flags.set t.id true).length ↔ u.id < p.tokens.flags.length
  rw [List.length_set]

/-- Canceling a token cancels it and no other. -/
theorem isCanceled_cancelToken {p : Pending} {t : Token} (h : p.tokens.Made t) (u : Token) :
    (p.cancelToken t).2.tokens.isCanceled u = (decide (u = t) || p.tokens.isCanceled u) :=
  Tokens.isCanceled_cancel h u

/-- Canceling a number takes it out of the table and cancels its token. -/
theorem cancel_eq : (p.cancel seq).2 =
    match p.token? seq with
    | some t => ((p.remove seq).2.2.cancelToken t).2
    | none => p := by
  unfold cancel remove
  cases p.token? seq <;> rfl

theorem token?_cancel (q : UInt64) :
    (p.cancel seq).2.token? q = if q = seq then none else p.token? q := by
  rw [cancel_eq]
  cases found : p.token? seq with
  | some t => exact p.token?_remove seq q
  | none =>
    by_cases hq : q = seq
    · rw [if_pos hq, hq]
      exact found
    · rw [if_neg hq]

theorem made_cancel (t : Token) : (p.cancel seq).2.tokens.Made t ↔ p.tokens.Made t := by
  rw [cancel_eq]
  cases p.token? seq with
  | some u => exact (made_cancelToken _ u t).trans (by rw [tokens_remove])
  | none => exact Iff.rfl

/-! ## The table knows tokens only that were made -/

/-- Every token in the table was made. -/
def KnowsTokens (p : Pending) : Prop := ∀ q t, p.token? q = some t → p.tokens.Made t

variable {p}

theorem KnowsTokens.start (known : p.KnowsTokens) (seq : UInt64) :
    (p.start seq).2.2.KnowsTokens := by
  intro q t ht
  rw [token?_start] at ht
  split at ht
  · cases ht
    exact p.made_fst_start seq fun t => known seq t
  · exact p.made_start seq (known q t ht)

theorem KnowsTokens.isCanceled_cancel (known : p.KnowsTokens) (seq : UInt64) (t : Token) :
    (p.cancel seq).2.tokens.isCanceled t =
      (decide (p.token? seq = some t) || p.tokens.isCanceled t) := by
  rw [cancel_eq]
  cases found : p.token? seq with
  | some u =>
    have made : (p.remove seq).2.2.tokens.Made u := by
      rw [tokens_remove]
      exact known seq u found
    dsimp only
    rw [isCanceled_cancelToken made, tokens_remove]
    simp [eq_comm]
  | none => simp

theorem KnowsTokens.cancel (known : p.KnowsTokens) (seq : UInt64) :
    (p.cancel seq).2.KnowsTokens := by
  intro q t ht
  rw [token?_cancel] at ht
  split at ht
  · cases ht
  · exact (p.made_cancel seq t).2 (known q t ht)

end Pending

end Switchboard
