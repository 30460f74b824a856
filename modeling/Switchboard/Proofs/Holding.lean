import Mathlib.Logic.Function.Basic
import Switchboard.Proofs.Connection.Grants
import Switchboard.Proofs.Message.Carrying

/-!
# Holders keep their type

A holder does not show the type of its value. What it was made with, a reader and the probe for the
pending table or a serializer, is for values of one type and serves only while the value is of that
type. Nothing in a holder enforces it: whoever replaces the value has to see to it.

The value is replaced when bytes are decoded into an argument, when an argument takes a pending
table, when a method takes its argument out or writes its reply, and when somebody writes through a
view of it. `Holders.after` is what any sequence of these makes of any number of holders. Each of
them leaves a holder the same but for its value (`SameButValue`), and the new value is of the type
that the holder was made for; so the whole sequence does.

Results:

* `Implementation.sameButValue_invoke`: an invocation leaves both holders the same but for their
  values, however it ends.
* `Reply.SameButValue.encode_eq`: a reply is encoded by the serializer of the value it holds.
* `Holders.Kept.use`, `Holders.Kept.after`: what one use of a holder keeps, and what many keep.
* `Holders.stay_typed`: what can be relied on after any sequence of uses.
-/

namespace Switchboard

variable {ι σ κ S : Type} [MessageFamily ι]

/-! ## The same but for the value -/

namespace Argument

variable {a b : Argument ι}

theorem refill_of_ok {bytes : Bytes} (h : a.decode bytes = .ok b) : a.refill bytes = b := by
  unfold refill
  rw [h]

/-- The argument once it was written through a view of its value. There is a view at the type of the
value and at no other. -/
def written (a : Argument ι) (h : Held ι) : Argument ι := (a.set? h).getD a

/-- `b` is the holder `a` with some value of the type that `a` was made for. -/
def SameButValue (a b : Argument ι) : Prop := ∃ v, b = { a with held := ⟨a.declared, v⟩ }

namespace SameButValue

variable (same : a.SameButValue b)
include same

theorem type_eq : b.held.type = a.declared := by
  obtain ⟨v, rfl⟩ := same
  rfl

theorem typeName_eq : b.typeName = a.typeName := by
  obtain ⟨v, rfl⟩ := same
  rfl

theorem byValue_eq : b.byValue = a.byValue := by
  obtain ⟨v, rfl⟩ := same
  rfl

/-- Whether a pending table is accepted was settled when the holder was made. -/
theorem acceptsPending_eq : b.acceptsPending = (a.privileged && a.declared.slot.isSome) := by
  obtain ⟨v, rfl⟩ := same
  unfold acceptsPending
  rw [Held.as?_self]
  rfl

/-- What accepts a table has it in its value once it was offered. -/
theorem pending?_offered (accepts : b.acceptsPending = true) (ref : TableRef) :
    (b.offered ref).held.pending? = some ref := by
  rw [same.acceptsPending_eq, Bool.and_eq_true] at accepts
  obtain ⟨v, rfl⟩ := same
  obtain ⟨w, taken, holds⟩ :=
    exists_offered (a := { a with held := ⟨a.declared, v⟩ }) accepts.1 accepts.2 rfl ref
  rw [taken]
  exact holds

/-- A value of the type that is found in the holder may take the place of the one that is. -/
theorem put {t : MessageType ι} (found : b.held.type = t) (v : t.Carrier) :
    a.SameButValue { b with held := ⟨t, v⟩ } := by
  obtain ⟨_, rfl⟩ := same
  cases found
  exact ⟨v, rfl⟩

/-- What bytes make of the holder depends on them alone, not on the value that is in it. -/
theorem decode_eq (bytes : Bytes) : b.decode bytes = a.decode bytes := by
  obtain ⟨v, rfl⟩ := same
  unfold decode
  cases a.declared.decode bytes <;> rfl

theorem refill (bytes : Bytes) : a.SameButValue (b.refill bytes) := by
  cases decoded : b.decode bytes with
  | error e =>
    rw [refill_of_error decoded]
    exact same
  | ok c =>
    rw [refill_of_ok decoded]
    obtain ⟨v, rfl⟩ := exists_of_decode decoded
    obtain ⟨_, rfl⟩ := same
    exact ⟨v, rfl⟩

theorem offered (ref : TableRef) : a.SameButValue (b.offered ref) := by
  obtain ⟨v, rfl⟩ := same
  unfold Argument.offered setPending?
  rw [Held.as?_self]
  split
  · -- The probe of a privileged holder finds its type, so what is left is whether that has a place.
    cases a.declared.slot with
    | none => exact ⟨v, rfl⟩
    | some slot => exact ⟨slot.set ref v, rfl⟩
  · exact ⟨v, rfl⟩

theorem written (h : Held ι) : a.SameButValue (b.written h) := by
  unfold Argument.written set?
  split
  · next view => exact same.put view h.value
  · exact same

/-- A method leaves the zero value in the place of an argument that it takes out. -/
theorem leave {i : Implementation ι σ κ} (fits : b.held.type = i.argument) :
    a.SameButValue (i.leave b) := by
  unfold Implementation.leave
  split
  · exact same.put fits i.argument.zero
  · exact same

end SameButValue

end Argument

namespace Reply

variable {r s : Reply ι}

/-- The reply once it was written through a view of its value. -/
def written (r : Reply ι) (h : Held ι) : Reply ι := (r.set? h).getD r

/-- `s` is the holder `r` with some value of the type that `r` was made for. -/
def SameButValue (r s : Reply ι) : Prop := ∃ v, s = { r with held := ⟨r.declared, v⟩ }

namespace SameButValue

variable (same : r.SameButValue s)
include same

theorem type_eq : s.held.type = r.declared := by
  obtain ⟨v, rfl⟩ := same
  rfl

theorem typeName_eq : s.typeName = r.typeName := by
  obtain ⟨v, rfl⟩ := same
  rfl

/-- The serializer that the holder was made with finds the type that it is for. -/
theorem isSome_as? : (s.as? s.declared).isSome = true := by
  obtain ⟨v, rfl⟩ := same
  unfold as?
  rw [Held.as?_self]
  rfl

/-- **A reply is encoded by the serializer of the value it holds**, and refused only by that. -/
theorem encode_eq :
    s.encode = (s.held.type.encode s.held.value).mapError (.encode s.typeName) := by
  obtain ⟨v, rfl⟩ := same
  unfold encode
  rw [Held.as?_self]
  dsimp only
  cases r.declared.encode v <;> rfl

theorem put {t : MessageType ι} (found : s.held.type = t) (v : t.Carrier) :
    r.SameButValue { s with held := ⟨t, v⟩ } := by
  obtain ⟨_, rfl⟩ := same
  cases found
  exact ⟨v, rfl⟩

theorem written (h : Held ι) : r.SameButValue (s.written h) := by
  unfold Reply.written set?
  split
  · next view => exact same.put view h.value
  · exact same

end SameButValue

end Reply

/-- **An invocation leaves both holders the same but for their values**, whether it is refused or
its body runs, and however the body ends. -/
theorem Implementation.sameButValue_invoke {i : Implementation ι σ κ} {a argument : Argument ι}
    {r reply : Reply ι} (sameArgument : a.SameButValue argument) (sameReply : r.SameButValue reply)
    (name : String) (client : Client κ) (handle : (a : Action σ) → S → a.Answer × S) (s : S) :
    let finished := ((i.invoke name client argument reply).run handle s).1
    a.SameButValue finished.argument ∧ r.SameButValue finished.reply := by
  have invoked := i.invocation name client argument reply
  generalize i.invoke name client argument reply = script at invoked
  cases invoked with
  | convention foreign => exact ⟨sameArgument, sameReply⟩
  | argumentType misfit => exact ⟨sameArgument, sameReply⟩
  | replyType fits misfit => exact ⟨sameArgument.leave fits, sameReply⟩
  | body v w specials argument_eq reply_eq =>
    -- The body was given values that were found at its types, and it leaves a reply of that type.
    simp only [Script.run, Script.run_bind]
    exact ⟨sameArgument.leave (congrArg Held.type argument_eq),
      sameReply.put (congrArg Held.type reply_eq) _⟩

/-! ## Where holders come from -/

/-- How a holder was made. -/
inductive Origin (ι : Type) [MessageFamily ι] where
  /-- By the factory of a method. -/
  | factory (f : Factory ι)
  /-- Around a value. -/
  | value (h : Held ι)

namespace Origin

/-- An argument holder as it was made. -/
def makeArgument : Origin ι → Argument ι
  | factory f => f.makeArgument
  | value h => .ofHeld h

/-- A reply holder as it was made. -/
def makeReply : Origin ι → Reply ι
  | factory f => f.makeReply
  | value h => .ofHeld h

/-- The holder was made by the factory of a privileged method. -/
def IsPrivileged : Origin ι → Prop
  | factory f => f.passing = .privileged
  | value _ => False

variable (o : Origin ι)

theorem sameButValue_makeArgument : o.makeArgument.SameButValue o.makeArgument := by
  cases o with
  | factory f =>
    obtain ⟨argument, reply, passing, slotted⟩ := f
    cases passing <;> exact ⟨argument.zero, rfl⟩
  | value h => exact ⟨h.value, rfl⟩

theorem sameButValue_makeReply : o.makeReply.SameButValue o.makeReply := by
  cases o with
  | factory f => exact ⟨f.reply.zero, rfl⟩
  | value h => exact ⟨h.value, rfl⟩

/-- An argument of a privileged method was made for a type with a place for the pending table, and
no other argument was made as privileged. -/
theorem isPrivileged_iff : o.IsPrivileged ↔
    (o.makeArgument.privileged && o.makeArgument.declared.slot.isSome) = true := by
  cases o with
  | factory f =>
    obtain ⟨argument, reply, passing, slotted⟩ := f
    cases passing with
    | pointer => exact iff_of_false nofun Bool.false_ne_true
    | value => exact iff_of_false nofun Bool.false_ne_true
    | privileged => exact iff_of_true rfl (slotted rfl)
  | value h => exact iff_of_false id Bool.false_ne_true

end Origin

/-! ## Holders in use -/

/-- Holders that are in use, the arguments told apart by `α` and the replies by `β`. -/
structure Holders (ι α β : Type) [MessageFamily ι] where
  argument : α → Argument ι
  reply : β → Reply ι

namespace Holders

/-- What is done with holders. -/
inductive Use (ι α β : Type) [MessageFamily ι] : Type 1 where
  /-- Bytes are decoded into an argument. -/
  | decode (k : α) (bytes : Bytes)
  /-- An argument is offered a pending table. -/
  | offer (k : α) (ref : TableRef)
  /-- A method is invoked, on whatever receiver and whatever its actions are answered there. -/
  | invoke {σ κ S : Type} (m : Method ι σ κ) (client : Client κ)
    (handle : (a : Action σ) → S → a.Answer × S) (s : S) (k : α) (j : β)
  /-- An argument is written through a view of its value. -/
  | write (k : α) (h : Held ι)
  /-- A reply is written through a view of its value. -/
  | writeReply (j : β) (h : Held ι)

/-- Holders as they were made. -/
def fresh {α β : Type} (arguments : α → Origin ι) (replies : β → Origin ι) : Holders ι α β :=
  ⟨fun k => (arguments k).makeArgument, fun j => (replies j).makeReply⟩

/-- Every holder is the one that was made, but for its value. -/
structure Kept {α β : Type} (made now : Holders ι α β) : Prop where
  argument : ∀ k, (made.argument k).SameButValue (now.argument k)
  reply : ∀ j, (made.reply j).SameButValue (now.reply j)

theorem kept_fresh {α β : Type} (arguments : α → Origin ι) (replies : β → Origin ι) :
    (fresh arguments replies).Kept (fresh arguments replies) :=
  ⟨fun k => (arguments k).sameButValue_makeArgument, fun j => (replies j).sameButValue_makeReply⟩

variable {α β : Type} [DecidableEq α] [DecidableEq β]

/-- The holders with another argument in the place of one. -/
def setArgument (s : Holders ι α β) (k : α) (a : Argument ι) : Holders ι α β :=
  { s with argument := Function.update s.argument k a }

/-- The holders with another reply in the place of one. -/
def setReply (s : Holders ι α β) (j : β) (r : Reply ι) : Holders ι α β :=
  { s with reply := Function.update s.reply j r }

/-- The holders after one use. -/
def use (s : Holders ι α β) : Use ι α β → Holders ι α β
  | .decode k bytes => s.setArgument k ((s.argument k).refill bytes)
  | .offer k ref => s.setArgument k ((s.argument k).offered ref)
  | .invoke m client handle w k j =>
    let finished := ((m.invoke client (s.argument k) (s.reply j)).run handle w).1
    (s.setArgument k finished.argument).setReply j finished.reply
  | .write k h => s.setArgument k ((s.argument k).written h)
  | .writeReply j h => s.setReply j ((s.reply j).written h)

/-- The holders after a sequence of uses. -/
def after (s : Holders ι α β) (uses : List (Use ι α β)) : Holders ι α β := uses.foldl use s

namespace Kept

variable {made now : Holders ι α β}

omit [DecidableEq β] in
theorem setArgument (kept : made.Kept now) {k : α} {a : Argument ι}
    (same : (made.argument k).SameButValue a) : made.Kept (now.setArgument k a) where
  argument :=
    (Function.forall_update_iff now.argument fun k a => (made.argument k).SameButValue a).2
      ⟨same, fun k' _ => kept.argument k'⟩
  reply := kept.reply

omit [DecidableEq α] in
theorem setReply (kept : made.Kept now) {j : β} {r : Reply ι}
    (same : (made.reply j).SameButValue r) : made.Kept (now.setReply j r) where
  argument := kept.argument
  reply :=
    (Function.forall_update_iff now.reply fun j r => (made.reply j).SameButValue r).2
      ⟨same, fun j' _ => kept.reply j'⟩

/-- **A use keeps every holder the same but for its value.** -/
theorem use (kept : made.Kept now) (u : Use ι α β) : made.Kept (now.use u) := by
  cases u with
  | decode k bytes => exact kept.setArgument ((kept.argument k).refill bytes)
  | offer k ref => exact kept.setArgument ((kept.argument k).offered ref)
  | invoke m client handle w k j =>
    obtain ⟨sameArgument, sameReply⟩ := m.implementation.sameButValue_invoke (kept.argument k)
      (kept.reply j) m.name client handle w
    exact (kept.setArgument sameArgument).setReply sameReply
  | write k h => exact kept.setArgument ((kept.argument k).written h)
  | writeReply j h => exact kept.setReply ((kept.reply j).written h)

/-- So does any sequence of uses. -/
theorem after (kept : made.Kept now) (uses : List (Use ι α β)) : made.Kept (now.after uses) := by
  induction uses generalizing now with
  | nil => exact kept
  | cons u uses ih => exact ih (kept.use u)

end Kept

omit [DecidableEq β] in
theorem argument_setArgument (s : Holders ι α β) (k : α) (a : Argument ι) :
    (s.setArgument k a).argument k = a := by
  simp only [setArgument, Function.update_self]

/-- A decode that fails changes nothing. -/
theorem use_decode_of_error {s : Holders ι α β} {k : α} {bytes : Bytes} {e : HolderError}
    (refused : (s.argument k).decode bytes = .error e) : s.use (.decode k bytes) = s := by
  change s.setArgument k ((s.argument k).refill bytes) = s
  rw [Argument.refill_of_error refused]
  unfold Holders.setArgument
  rw [Function.update_eq_self]

/-- **Holders keep their type.** Take any holders, each made by a factory or around a value, and any
sequence of uses of them.

* An argument holds a value of the type that it was made with, and has the name and the way of
  passing that it was made with.
* It decodes bytes as it would have done when it was made, and a decode that fails leaves everything
  as it was.
* It accepts a pending table exactly if it was made by the factory of a privileged method, and then
  its value has the table that it is offered.
* A reply holds a value of the type that it was made with, and has the name that it was made with.
* Its serializer is always given a value of the type that it is for. So a reply is encoded as the
  value in it is, and refused only if that is. -/
theorem stay_typed (arguments : α → Origin ι) (replies : β → Origin ι)
    (uses : List (Use ι α β)) :
    let made := fresh arguments replies
    let now := made.after uses
    (∀ k, (now.argument k).held.type = (made.argument k).held.type ∧
      (now.argument k).typeName = (made.argument k).typeName ∧
      (now.argument k).byValue = (made.argument k).byValue ∧
      (∀ bytes, (now.argument k).decode bytes = (made.argument k).decode bytes) ∧
      (∀ bytes e, (now.argument k).decode bytes = .error e → now.use (.decode k bytes) = now) ∧
      ((now.argument k).acceptsPending = true ↔ (arguments k).IsPrivileged) ∧
      ∀ ref, (now.argument k).acceptsPending = true →
        ((now.use (.offer k ref)).argument k).held.pending? = some ref) ∧
    ∀ j, (now.reply j).held.type = (made.reply j).held.type ∧
      (now.reply j).typeName = (made.reply j).typeName ∧
      ((now.reply j).as? (now.reply j).declared).isSome = true ∧
      (now.reply j).encode = ((now.reply j).held.type.encode (now.reply j).held.value).mapError
        (.encode (now.reply j).typeName) := by
  intro made now
  have first : made.Kept made := kept_fresh arguments replies
  have kept : made.Kept now := first.after uses
  refine ⟨fun k => ?_, fun j => ?_⟩
  · have same := kept.argument k
    refine ⟨same.type_eq.trans (first.argument k).type_eq.symm, same.typeName_eq, same.byValue_eq,
      same.decode_eq, fun bytes e => use_decode_of_error, ?_, fun ref accepts => ?_⟩
    · rw [same.acceptsPending_eq]
      exact (arguments k).isPrivileged_iff.symm
    · change ((now.setArgument k ((now.argument k).offered ref)).argument k).held.pending? = _
      rw [argument_setArgument]
      exact same.pending?_offered accepts ref
  · have same := kept.reply j
    exact ⟨same.type_eq.trans (first.reply j).type_eq.symm, same.typeName_eq, same.isSome_as?,
      same.encode_eq⟩

/-- The holders of the method that cancels. -/
def canceler : Origin Empty :=
  .factory (CancelService.implementation (σ := Unit) (κ := Empty)).toFactory

/-- Bytes for the number 7 are decoded, the argument is offered a table, and the method cancels. -/
def canceling : List (Use Empty Unit Unit) :=
  [.decode () (leBytes 8 7), .offer () ⟨3⟩,
    .invoke (σ := Unit) (κ := Empty) CancelService.method .none Desk.perform
      ⟨(), false, none, []⟩ () ()]

/-- Bytes that break off then leave the number and the table in the argument, which still accepts
another one; and the reply is encoded. -/
theorem stay_typed_canceling :
    let now := (fresh (fun _ => canceler) fun _ => canceler).after canceling
    (now.argument ()).as? .cancelArgs = some (⟨7, some ⟨3⟩⟩ : CancelArgs) ∧
      (now.argument ()).decode [7] = .error (.decode "birpc::svc::CancelArgs" .endOfInput) ∧
      now.use (.decode () [7]) = now ∧
      ((now.use (.offer () ⟨4⟩)).argument ()).held.pending? = some ⟨4⟩ ∧
      (now.reply ()).encode = .ok [1] := by
  intro now
  obtain ⟨argument, -⟩ := stay_typed (fun _ => canceler) (fun _ => canceler) canceling
  obtain ⟨-, -, -, -, refused, accepts, takes⟩ := argument ()
  have broken : (now.argument ()).decode [7] =
      .error (.decode "birpc::svc::CancelArgs" .endOfInput) := by rfl
  have accepting : (now.argument ()).acceptsPending = true := accepts.2 rfl
  exact ⟨by rfl, broken, refused [7] _ broken, takes ⟨4⟩ accepting, by rfl⟩

end Holders

end Switchboard
