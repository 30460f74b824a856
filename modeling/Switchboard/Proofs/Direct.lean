import Switchboard.Proofs.Registration

/-!
# Calls on the caller's thread

A call on the caller's thread wraps the argument and the caller's reply in holders, runs the method,
and takes the reply out of its holder. `Implementation.apply` is the method without holders: whoever
made them and however they were filled, fitting holders come to the same.

What a script comes to is its `Result` on a service: the reply, the ending and the service
afterwards. It depends on the state of the receiver and on the token, and on nothing else.

Results:

* `Service.resultOf_act`: a script comes to what is left of it comes to after its first action.
* `Service.resultOf_invoke_congr`: holders with the same values come to the same result.
* `Service.call_eq`: what a call on the caller's thread leaves is that result.
-/

namespace Switchboard

/-! ## The desk -/

namespace Desk

variable {σ α : Type}

/-- The desk when all of this was noted before. -/
def after (d : Desk σ) (es : List Effect) : Desk σ := { d with journal := es ++ d.journal }

theorem note_after (d : Desk σ) (es : List Effect) (e : Effect) :
    (d.after es).note e = (d.note e).after es := by
  unfold note after
  rw [List.append_assoc]

/-- What was noted before has no part in what an action does. -/
theorem perform_after (a : Action σ) (d : Desk σ) (es : List Effect) :
    perform a (d.after es) = ((perform a d).1, (perform a d).2.after es) := by
  cases a with
  | enter => exact congrArg (Prod.mk ()) (d.note_after es _)
  | tell n => exact congrArg (Prod.mk ()) (d.note_after es _)
  | log e => exact congrArg (Prod.mk ()) (d.note_after es _)
  | cancel seq =>
    refine congrArg (Prod.mk ()) ?_
    change (if d.grant.isSome then (d.after es).note _ else d.after es) =
      (if d.grant.isSome then d.note _ else d).after es
    split
    · exact d.note_after es _
    · rfl
  | _ => rfl

theorem run_after (p : Script σ α) (d : Desk σ) (es : List Effect) :
    p.run perform (d.after es) = ((p.run perform d).1, (p.run perform d).2.after es) := by
  induction p generalizing d with
  | done a => rfl
  | act a next ih =>
    unfold Script.run
    rw [perform_after]
    exact ih (perform a d).1 (perform a d).2

/-- No action brings a pending table. -/
theorem grant_perform (a : Action σ) (d : Desk σ) : (perform a d).2.grant = d.grant := by
  cases a with
  | cancel seq =>
    change (if d.grant.isSome then d.note _ else d).grant = d.grant
    split <;> rfl
  | _ => rfl

end Desk

variable {ι σ κ : Type} [MessageFamily ι]

/-- Going on twice is going on with what goes on. -/
theorem Script.bind_bind {α β γ : Type} (p : Script σ α) (f : α → Script σ β)
    (g : β → Script σ γ) : (p.bind f).bind g = p.bind fun a => (f a).bind g := by
  induction p with
  | done a => rfl
  | act a next ih => exact congrArg (Script.act a) (funext ih)

/-! ## What a script comes to -/

/-- What an invocation comes to. -/
structure Result (ι σ κ : Type) [MessageFamily ι] where
  reply : Reply ι
  outcome : Outcome
  /-- The service afterwards. -/
  service : Service ι σ κ

namespace Service

variable (service : Service ι σ κ) (canceled : Bool)

/-- The desk of a caller who has no pending table. -/
def desk : Desk σ := ⟨service.receiver, canceled, none, []⟩

/-- What a script comes to on the service, with a token of the caller and without a pending
table. -/
def resultOf (p : Script σ (Finished ι)) : Result ι σ κ :=
  let ended := p.run Desk.perform (service.desk canceled)
  ⟨ended.1.reply, ended.1.outcome, service.withState ended.2.receiver⟩

theorem resultOf_done (finished : Finished ι) :
    service.resultOf canceled (.done finished) = ⟨finished.reply, finished.outcome, service⟩ := rfl

theorem name_resultOf (p : Script σ (Finished ι)) :
    (service.resultOf canceled p).service.name = service.name := rfl

/-- **A script comes to what is left of it comes to after its first action.** -/
theorem resultOf_act (a : Action σ) (next : a.Answer → Script σ (Finished ι)) :
    service.resultOf canceled (.act a next) =
      (service.withState (Desk.perform a (service.desk canceled)).2.receiver).resultOf
        (Desk.perform a (service.desk canceled)).2.canceled
        (next (Desk.perform a (service.desk canceled)).1) := by
  have hgrant := Desk.grant_perform a (service.desk canceled)
  unfold resultOf
  rw [show (Script.act a next).run Desk.perform (service.desk canceled) =
    (next (Desk.perform a (service.desk canceled)).1).run Desk.perform
      (Desk.perform a (service.desk canceled)).2 from rfl]
  generalize Desk.perform a (service.desk canceled) = answered at hgrant ⊢
  obtain ⟨answer, ⟨receiver, canceled', grant, journal⟩⟩ := answered
  cases hgrant
  have hdesk : (⟨receiver, canceled', none, journal⟩ : Desk σ) =
      ((service.withState receiver).desk canceled').after journal := by
    unfold Desk.after desk
    rw [List.append_nil]
    rfl
  dsimp only
  rw [hdesk, Desk.run_after]
  rfl

end Service

/-! ## Methods without holders -/

namespace Implementation

variable (i : Implementation ι σ κ) (name : String) (client : Client κ)

/-- Calls the method with values in place of holders: gives the reply it leaves and how it ended. -/
def apply (a : i.argument.Carrier) (r : i.reply.Carrier) :
    Script σ (i.reply.Carrier × Outcome) :=
  if i.takesSpecials then
    .act .enter fun _ =>
      (i.body client a r).bind fun (r, ending) => .done (r, i.outcome name ending)
  else .done (r, .failed (.holder (.convention name)))

/-- Holders that fit are unwrapped before the method and filled after it. -/
theorem exists_invoke_eq {argument : Argument ι} {reply : Reply ι} {a : i.argument.Carrier}
    {r : i.reply.Carrier} (ha : argument.held = ⟨i.argument, a⟩)
    (hr : reply.held = ⟨i.reply, r⟩) :
    ∃ left, i.invoke name client argument reply = (i.apply name client a r).bind fun ended =>
      .done ⟨left, { reply with held := ⟨i.reply, ended.1⟩ }, ended.2⟩ := by
  unfold apply
  by_cases hspecials : i.takesSpecials = true
  · have hfits : argument.as? i.argument = some a := by rw [Argument.as?, ha, Held.as?_self]
    have hwrites : reply.as? i.reply = some r := by rw [Reply.as?, hr, Held.as?_self]
    refine ⟨i.leave argument, ?_⟩
    rw [i.invoke_of_fits name client hspecials hfits hwrites, if_pos hspecials]
    refine congrArg (Script.act .enter) (funext fun _ => ?_)
    dsimp only
    rw [Script.bind_bind]
    rfl
  · refine ⟨argument, ?_⟩
    rw [if_neg hspecials]
    unfold invoke
    rw [Bool.eq_false_iff.2 hspecials]
    obtain ⟨declared, held⟩ := reply
    cases hr
    rfl

end Implementation

namespace Service

variable {service : Service ι σ κ} {m : Method ι σ κ} (canceled : Bool) (client : Client κ)

theorem runScript_eq (p : Script σ (Finished ι)) :
    service.runScript canceled none p =
      ((p.run Desk.perform (service.desk canceled)).1,
        service.withState (p.run Desk.perform (service.desk canceled)).2.receiver,
        (p.run Desk.perform (service.desk canceled)).2.journal) := rfl

/-- What fitting holders come to is what their values come to. -/
theorem exists_run_invoke {argument : Argument ι} {reply : Reply ι}
    {a : m.implementation.argument.Carrier} {r : m.implementation.reply.Carrier}
    (ha : argument.held = ⟨m.implementation.argument, a⟩)
    (hr : reply.held = ⟨m.implementation.reply, r⟩) (d : Desk σ) :
    ∃ left, (m.invoke client argument reply).run Desk.perform d =
      let ended := (m.implementation.apply m.name client a r).run Desk.perform d
      (⟨left, { reply with held := ⟨m.implementation.reply, ended.1.1⟩ }, ended.1.2⟩, ended.2) := by
  obtain ⟨left, heq⟩ := m.implementation.exists_invoke_eq m.name client ha hr
  refine ⟨left, ?_⟩
  unfold Method.invoke
  rw [heq, Script.run_bind]
  rfl

/-- **Holders with the same values come to the same result**, whoever made them. -/
theorem resultOf_invoke_congr {argument argument' : Argument ι} {reply : Reply ι}
    {a : m.implementation.argument.Carrier} {r : m.implementation.reply.Carrier}
    (ha : argument.held = ⟨m.implementation.argument, a⟩) (ha' : argument'.held = argument.held)
    (hr : reply.held = ⟨m.implementation.reply, r⟩) :
    service.resultOf canceled (m.invoke client argument' reply) =
      service.resultOf canceled (m.invoke client argument reply) := by
  obtain ⟨left, hrun⟩ := exists_run_invoke client ha hr (service.desk canceled)
  obtain ⟨left', hrun'⟩ := exists_run_invoke client (ha'.trans ha) hr (service.desk canceled)
  unfold resultOf
  rw [hrun, hrun']

/-! ## The call -/

/-- **What a call on the caller's thread leaves**, the argument holding no pending table, is what
its script comes to. Only a panic keeps the reply from coming back. -/
theorem call_eq {address : String} (found : service.lookup address = .ok m)
    {a : m.implementation.argument.Carrier} (ungranted : Held.pending? ⟨_, a⟩ = none) :
    let report := service.call canceled client address ⟨_, a⟩ (.zero m.implementation.reply)
    let result := service.resultOf canceled
      (m.invoke client (.ofHeld ⟨_, a⟩) (.zero m.implementation.reply))
    report.outcome = result.outcome ∧ report.service = result.service ∧
      ((∀ payload, report.outcome ≠ .panicked payload) → result.reply = .ofHeld report.reply) := by
  obtain ⟨⟨⟨r, outcome⟩, desk⟩, hended⟩ : ∃ ended, (m.implementation.apply m.name client a
    m.implementation.reply.zero).run Desk.perform (service.desk canceled) = ended := ⟨_, rfl⟩
  obtain ⟨left, hrun⟩ : ∃ left, (m.invoke client (.ofHeld ⟨_, a⟩)
      (.ofHeld (.zero m.implementation.reply))).run Desk.perform (service.desk canceled) =
        (⟨left, .ofHeld ⟨m.implementation.reply, r⟩, outcome⟩, desk) := by
    obtain ⟨left, hrun⟩ := exists_run_invoke (m := m) client
      (show (Argument.ofHeld ⟨_, a⟩).held = _ from rfl)
      (show (Reply.ofHeld (.zero m.implementation.reply)).held = _ from rfl) (service.desk canceled)
    rw [hended] at hrun
    exact ⟨left, hrun⟩
  have hreply : (Reply.ofHeld ⟨m.implementation.reply, r⟩).as?
      (Held.zero m.implementation.reply).type = some r := Held.as?_self _ r
  have hzero : Reply.zero m.implementation.reply = .ofHeld (.zero m.implementation.reply) := rfl
  unfold call resultOf
  rw [found, hzero]
  dsimp only
  rw [ungranted, runScript_eq, hrun]
  dsimp only
  rw [hreply]
  cases outcome with
  | panicked payload => exact ⟨rfl, rfl, fun calm => absurd rfl (calm payload)⟩
  | _ => exact ⟨rfl, rfl, fun _ => rfl⟩

end Service

end Switchboard
