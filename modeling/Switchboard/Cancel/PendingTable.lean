import Switchboard.Cancel.Token
import Switchboard.Event

/-!
# Pending tables

A pending table binds the sequence numbers of the calls in flight to their tokens.

* `start` binds a number to a fresh token; if it is bound already it gives the token it has.
* `cancel` is two steps: `remove` takes the number out of the table, and then the token is canceled.
  Between the two the table no longer knows the number, and the token is not canceled yet.

`Pending` is a table together with the tokens it hands out.

Results: `token?_start`, `token?_remove` (what the table binds afterwards).
-/

namespace Switchboard

/-- The tokens made so far, and those bound to a sequence number. -/
structure Pending where
  tokens : Tokens
  entries : List (UInt64 × Token)
  deriving DecidableEq, Repr

namespace Pending

/-- No tokens and nothing bound. -/
def empty : Pending := ⟨.empty, []⟩

/-- The token bound to a sequence number. -/
def token? (p : Pending) (seq : UInt64) : Option Token := p.entries.lookup seq

/-- Whether a sequence number is bound. -/
def contains (p : Pending) (seq : UInt64) : Bool := (p.token? seq).isSome

/-- How many sequence numbers are bound. -/
def size (p : Pending) : Nat := p.entries.length

/-- The bound sequence numbers, ascending. -/
def seqs (p : Pending) : List UInt64 := (p.entries.map (·.1)).mergeSort fun a b => a ≤ b

/-- A token that is bound to nothing. -/
def fresh (p : Pending) : Token × Pending :=
  let (t, tokens) := p.tokens.fresh
  (t, { p with tokens })

/-- Binds a sequence number and gives its token. Gives what was logged, too. -/
def start (p : Pending) (seq : UInt64) : Token × List Event × Pending :=
  match p.token? seq with
  | some t => (t, [.reused seq], p)
  | none =>
    let (t, tokens) := p.tokens.fresh
    (t, [], ⟨tokens, (seq, t) :: p.entries⟩)

/-- Takes a sequence number out of the table and gives the token it was bound to. Gives what was
logged, too. -/
def remove (p : Pending) (seq : UInt64) : Option Token × List Event × Pending :=
  match p.token? seq with
  | some t => (some t, [], { p with entries := p.entries.filter (·.1 ≠ seq) })
  | none => (none, [.unknownCancel seq], p)

/-- Cancels a token. Gives whether it was not canceled before. -/
def cancelToken (p : Pending) (t : Token) : Bool × Pending :=
  let (first, tokens) := p.tokens.cancel t
  (first, { p with tokens })

/-- Cancels a sequence number: takes it out of the table, then cancels its token. Gives what was
logged, too. -/
def cancel (p : Pending) (seq : UInt64) : List Event × Pending :=
  match p.remove seq with
  | (some t, log, p) => (log, (p.cancelToken t).2)
  | (none, log, p) => (log, p)

/-- Looking up in a list without a key finds the other keys as before. -/
theorem lookup_filter_ne (es : List (UInt64 × Token)) (seq q : UInt64) :
    (es.filter (·.1 ≠ seq)).lookup q = if q = seq then none else es.lookup q := by
  induction es with
  | nil => simp
  | cons e es ih =>
    obtain ⟨k, t⟩ := e
    by_cases hk : k = seq
    · subst hk
      by_cases hq : q = k
      · subst hq
        simpa using ih
      · simpa [hq, List.lookup_cons, beq_eq_false_iff_ne.2 hq] using ih
    · by_cases hq : q = k
      · subst hq
        simp [hk]
      · have hqk := beq_eq_false_iff_ne.2 hq
        simpa [hk, List.lookup_cons, hqk] using ih

/-- After a start the number is bound to the token it gave, and every other number is bound as
before. -/
theorem token?_start (p : Pending) (seq q : UInt64) :
    (p.start seq).2.2.token? q = if q = seq then some (p.start seq).1 else p.token? q := by
  unfold start
  cases h : p.token? seq with
  | some t =>
    by_cases hq : q = seq
    · simp [hq, h]
    · simp [hq]
  | none =>
    by_cases hq : q = seq
    · simp [token?, hq]
    · have hqk := beq_eq_false_iff_ne.2 hq
      simp [token?, List.lookup_cons, hq, hqk]

/-- After a removal the number is not bound, and every other number is bound as before. -/
theorem token?_remove (p : Pending) (seq q : UInt64) :
    (p.remove seq).2.2.token? q = if q = seq then none else p.token? q := by
  unfold remove
  cases h : p.token? seq with
  | some t => exact lookup_filter_ne p.entries seq q
  | none =>
    by_cases hq : q = seq
    · simp [hq, h]
    · simp [hq]

end Pending

end Switchboard
