import Switchboard.Method.Catalog

/-!
# Methods and the candidates they come from

A method of a catalog was a candidate of a receiver: it has the candidate's name and its body, and
the candidate keeps the calling convention. So the body is written for the special parameters that
methods are given and gives the result of the convention, and all that can go wrong when the method
is invoked is that a holder does not fit.

Results:

* `Implementation.invocation`: whoever made the holders, an invocation is refused by one of three
  checks or runs the body.
* `Candidate.isPrivileged_iff`: a method passes its argument as a privileged one exactly if it was
  listed as privileged.
* `Method.isOwn_run_runBody`: a call that runs the body has an outcome of its own, whatever the
  body's actions are answered.
* `Candidate.Becomes.invoke_eq`: a method whose holders fit runs its body, once, and ends as the
  body does; `Candidate.Becomes.invoke_cases`: any other refuses one of them.
-/

namespace Switchboard

variable {ι σ κ : Type} [MessageFamily ι]

/-! ## Invocations -/

namespace Held

variable {h : Held ι} {t : MessageType ι}

theorem as?_eq_some_iff {v : t.Carrier} : h.as? t = some v ↔ h = ⟨t, v⟩ := by
  obtain ⟨type, value⟩ := h
  by_cases same : type = t
  · subst same
    simp
  · simp [as?_of_ne (h := ⟨type, value⟩) same, same]

theorem as?_eq_none_iff : h.as? t = none ↔ h.type ≠ t := by
  by_cases same : h.type = t <;> simp [as?, same]

end Held

/-- The ways an invocation goes: one of the checks refuses it, in the order in which they are made,
or the body runs on what the holders hold. -/
inductive Invocation (i : Implementation ι σ κ) (name : String) (client : Client κ)
    (argument : Argument ι) (reply : Reply ι) : Script σ (Finished ι) → Prop where
  | convention (foreign : i.takesSpecials = false) :
    Invocation i name client argument reply
      (.done ⟨argument, reply, .failed (.holder (.convention name))⟩)
  | argumentType (misfit : argument.held.type ≠ i.argument) :
    Invocation i name client argument reply
      (.done ⟨argument, reply, .failed (.holder (.argumentType name i.argument.typeName))⟩)
  | replyType (fits : argument.held.type = i.argument) (misfit : reply.held.type ≠ i.reply) :
    Invocation i name client argument reply
      (.done ⟨i.leave argument, reply, .failed (.holder (.replyType name i.reply.typeName))⟩)
  | body (a : i.argument.Carrier) (r : i.reply.Carrier) (specials : i.takesSpecials = true)
    (argument_eq : argument.held = ⟨i.argument, a⟩) (reply_eq : reply.held = ⟨i.reply, r⟩) :
    Invocation i name client argument reply
      (.act .enter fun _ => (i.body client a r).bind fun (r, ending) =>
        .done ⟨i.leave argument, { reply with held := ⟨i.reply, r⟩ }, i.outcome name ending⟩)

/-- **An invocation is refused by one of three checks or runs the body.** -/
theorem Implementation.invocation (i : Implementation ι σ κ) (name : String) (client : Client κ)
    (argument : Argument ι) (reply : Reply ι) :
    Invocation i name client argument reply (i.invoke name client argument reply) := by
  unfold invoke
  cases specials : i.takesSpecials with
  | false => exact .convention specials
  | true =>
    simp only [Bool.not_true, Bool.false_eq_true, if_false]
    cases ha : argument.as? i.argument with
    | none => exact .argumentType (Held.as?_eq_none_iff.1 ha)
    | some a =>
      have hargument := Held.as?_eq_some_iff.1 ha
      cases hr : reply.as? i.reply with
      | none => exact .replyType (congrArg Held.type hargument) (Held.as?_eq_none_iff.1 hr)
      | some r => exact .body a r specials hargument (Held.as?_eq_some_iff.1 hr)

/-! ## Candidates -/

namespace Candidate

variable {c : Candidate ι σ κ} {m : Method ι σ κ}

/-- The candidate was listed as a method whose argument may be given the pending table. -/
def IsPrivileged (c : Candidate ι σ κ) : Prop :=
  ∃ (owner name : String) (argument reply : MessageType ι) (body : Body ι σ κ argument reply)
    (types : BodyTypes) (slotted : argument.slot.isSome = true),
    c = privileged owner name body types slotted

/-- What a method has from its candidate. -/
structure Becomes (c : Candidate ι σ κ) (m : Method ι σ κ) : Prop where
  conforms : c.Conforms
  shared : c.kind = .shared
  name : m.name = c.name
  work : c.work = .written m.implementation

theorem becomes_of_method? (h : c.method? = some m) : c.Becomes m := by
  unfold method? at h
  split at h
  · next i argument reply hrules hkind himplementation hinputs =>
    cases h
    refine ⟨exclusion?_eq_none_iff.1 hrules, hkind, rfl, ?_⟩
    unfold implementation? at himplementation
    split at himplementation
    · cases himplementation
    · next hwork =>
      cases himplementation
      exact hwork
  · cases h

/-- A method is written for the special parameters that it is given. -/
theorem Becomes.takesSpecials (h : c.Becomes m) : m.implementation.takesSpecials = true := by
  obtain ⟨_, _, _, _, _, _, hinputs, -, hcontext, hclient, -⟩ := h.conforms.types
  unfold inputs at hinputs
  rw [h.work] at hinputs
  cases hinputs
  unfold Implementation.takesSpecials
  rw [Bool.and_eq_true, decide_eq_true_eq, decide_eq_true_eq]
  exact ⟨hcontext, hclient⟩

/-- A method gives the result of the calling convention: its candidate was taken for that. -/
theorem Becomes.givesResult (h : c.Becomes m) :
    m.implementation.types.result = resultType.name := by
  obtain ⟨_, _, _, _, _, _, -, houtputs, -, -, -, -, -, hresult⟩ := h.conforms.types
  unfold outputs at houtputs
  rw [h.work] at houtputs
  dsimp only at houtputs
  split at houtputs
  · cases houtputs
  · cases houtputs
    exact hresult

/-- A method ends as its body does: its result is not of a foreign type. -/
theorem Becomes.outcome_eq (h : c.Becomes m) :
    m.implementation.outcome m.name = Ending.outcome := by
  funext ending
  unfold Implementation.outcome
  cases ending with
  | panicked payload => rfl
  | _ => exact if_pos h.givesResult

/-- The argument is passed as that of a privileged method exactly if the method was listed so. -/
theorem isPrivileged_iff (h : c.Becomes m) :
    c.IsPrivileged ↔ m.implementation.passing = .privileged := by
  constructor
  · rintro ⟨owner, name, argument, reply, body, types, slotted, rfl⟩
    have hwork := Work.written.inj h.work
    rw [← hwork]
  · intro hpassing
    obtain ⟨name, kind, owner, work⟩ := c
    obtain ⟨-, hkind, -, hwork⟩ := h
    generalize m.implementation = i at hwork hpassing
    cases hkind
    cases hwork
    obtain ⟨⟨argument, reply, passing, slotted⟩, types, body⟩ := i
    cases hpassing
    exact ⟨owner, name, argument, reply, body, types, slotted rfl, rfl⟩

end Candidate

/-! ## Running a body -/

/-- The outcome is the method's own: success, its error, or its panic. -/
def Outcome.IsOwn : Outcome → Prop
  | .ok | .failed (.method _) | .panicked _ => True
  | .failed _ => False

theorem Ending.isOwn_outcome (ending : Ending) : ending.outcome.IsOwn := by
  cases ending <;> trivial

/-- A call of the method that finds `a` and `r` in its holders: it enters the body, runs it once
from its beginning to its end, and ends as the body does. -/
def Method.runBody (m : Method ι σ κ) (client : Client κ) (argument : Argument ι) (reply : Reply ι)
    (a : m.implementation.argument.Carrier) (r : m.implementation.reply.Carrier) :
    Script σ (Finished ι) :=
  .act .enter fun _ => (m.implementation.body client a r).bind fun (left, ending) =>
    .done ⟨m.implementation.leave argument, { reply with held := ⟨m.implementation.reply, left⟩ },
      ending.outcome⟩

section Run

variable {S : Type} (handle : (a : Action σ) → S → a.Answer × S) (s : S) (m : Method ι σ κ)
  (client : Client κ) (argument : Argument ι) (reply : Reply ι)
  (a : m.implementation.argument.Carrier) (r : m.implementation.reply.Carrier)

/-- To run such a call is to run the body after it was entered. -/
theorem Method.run_runBody :
    (m.runBody client argument reply a r).run handle s =
      let ended := (m.implementation.body client a r).run handle (handle .enter s).2
      (⟨m.implementation.leave argument,
        { reply with held := ⟨m.implementation.reply, ended.1.1⟩ }, ended.1.2.outcome⟩, ended.2) :=
  Script.run_bind handle (m.implementation.body client a r) _ (handle .enter s).2

/-- Whatever its actions are answered, such a call has an outcome of its own. -/
theorem Method.isOwn_run_runBody :
    ((m.runBody client argument reply a r).run handle s).1.outcome.IsOwn := by
  rw [run_runBody]
  exact Ending.isOwn_outcome _

end Run

/-- **A method whose holders fit runs its body, once, and ends as the body does.** -/
theorem Candidate.Becomes.invoke_eq {c : Candidate ι σ κ} {m : Method ι σ κ} (h : c.Becomes m)
    {argument : Argument ι} {reply : Reply ι} {a : m.implementation.argument.Carrier}
    {r : m.implementation.reply.Carrier} (ha : argument.held = ⟨m.implementation.argument, a⟩)
    (hr : reply.held = ⟨m.implementation.reply, r⟩) (client : Client κ) :
    m.invoke client argument reply = m.runBody client argument reply a r := by
  have hfits : argument.as? m.implementation.argument = some a := by
    rw [Argument.as?, ha, Held.as?_self]
  have hwrites : reply.as? m.implementation.reply = some r := by
    rw [Reply.as?, hr, Held.as?_self]
  rw [Method.invoke,
    Implementation.invoke_of_fits m.name client h.takesSpecials hfits hwrites, h.outcome_eq]
  rfl

/-- **A method of a catalog is refused for a holder or runs its body.** -/
theorem Candidate.Becomes.invoke_cases {c : Candidate ι σ κ} {m : Method ι σ κ} (h : c.Becomes m)
    (client : Client κ) (argument : Argument ι) (reply : Reply ι) :
    (argument.held.type ≠ m.implementation.argument ∧
      m.invoke client argument reply = .done ⟨argument, reply,
        .failed (.holder (.argumentType m.name m.implementation.argument.typeName))⟩) ∨
    (argument.held.type = m.implementation.argument ∧ reply.held.type ≠ m.implementation.reply ∧
      m.invoke client argument reply = .done ⟨m.implementation.leave argument, reply,
        .failed (.holder (.replyType m.name m.implementation.reply.typeName))⟩) ∨
    ∃ a r, argument.held = ⟨m.implementation.argument, a⟩ ∧
      reply.held = ⟨m.implementation.reply, r⟩ ∧
      m.invoke client argument reply = m.runBody client argument reply a r := by
  have invoked := m.implementation.invocation m.name client argument reply
  rw [← Method.invoke] at invoked
  generalize hscript : m.invoke client argument reply = script at invoked
  cases invoked with
  | convention foreign => simp [h.takesSpecials] at foreign
  | argumentType misfit => exact .inl ⟨misfit, rfl⟩
  | replyType fits misfit => exact .inr (.inl ⟨fits, misfit, rfl⟩)
  | body a r specials argument_eq reply_eq =>
    refine .inr (.inr ⟨a, r, argument_eq, reply_eq, ?_⟩)
    rw [← hscript, h.invoke_eq argument_eq reply_eq]

end Switchboard
