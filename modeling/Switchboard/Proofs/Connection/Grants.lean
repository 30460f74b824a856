import Switchboard.Proofs.Connection.Table
import Switchboard.Proofs.Registration

/-!
# What a call may do to the table

A call starts and releases its own number. Its body may cancel other numbers, but only through the
pending table that came with its argument; and the connection puts the table into the argument of a
call to the reserved service and of no other, if the method was listed as privileged.

Results:

* `Moves.touches`: what every move does to the table, and in which phase of the call.
* `Argument.exists_offered`: an argument of a privileged method that is offered the table holds it.
* `Exchange.carries_of_runs`: what a call was given when it came in stays with it, and so does what
  its body may cancel.
-/

namespace Switchboard

variable {ι σ κ : Type} [MessageFamily ι]

/-! ## Moves on the table -/

/-- What a move of a call with the number `q` does to the pending table: the phase before, the phase
after, and the table after. -/
inductive Touches (q : UInt64) (s : Station ι σ κ) :
    Phase ι σ κ → Phase ι σ κ → Pending → Prop where
  /-- Nothing. -/
  | keep {phase phase' : Phase ι σ κ} (token : phase'.token? = phase.token?)
    (hunted : phase'.hunted? = phase.hunted?) : Touches q s phase phase' s.connection.pending
  /-- The call starts its number. -/
  | start (call : PreparedCall ι κ) :
    Touches q s (.accepted call) (.registered call (s.connection.pending.start q).1)
      (s.connection.pending.start q).2.2
  /-- The body takes a number out. -/
  | remove (place : Place) (target : UInt64)
    (next : (Action.cancel (σ := σ) target).Answer → Script σ (Finished ι)) {phase' : Phase ι σ κ}
    (may : s.mayCancel place = true) (token : phase'.token? = some place.token)
    (hunted : phase'.hunted? = s.connection.pending.token? target) :
    Touches q s (.running place (.act (.cancel target) next)) phase'
      (s.connection.pending.remove target).2.2
  /-- The call takes its own number out at its end. -/
  | release (place : Place) (finished : Finished ι) :
    Touches q s (.running place (.done finished))
      (.releasing place.token (s.connection.pending.token? q) finished)
      (s.connection.pending.remove q).2.2
  /-- The call cancels the token that it took out. -/
  | flag {phase phase' : Phase ι σ κ} (victim : Token) (token : phase'.token? = phase.token?)
    (found : phase.hunted? = some victim) (hunted : phase'.hunted? = none) :
    Touches q s phase phase' (s.connection.pending.cancelToken victim).2
  /-- The body cancels its own token. -/
  | abandon (place : Place) (next : (Action.abandon (σ := σ)).Answer → Script σ (Finished ι))
    (rest : Script σ (Finished ι)) :
    Touches q s (.running place (.act .abandon next)) (.running place rest)
      (s.connection.pending.cancelToken place.token).2

section Moves

variable [Inhabited σ] {i : CallId} {r : Request} {guarded : Bool} {s s' : Station ι σ κ}
  {phase phase' : Phase ι σ κ}

/-- **What every move does to the table.** -/
theorem Moves.touches (h : Moves i r guarded s phase phase' s') :
    Touches r.seq s phase phase' s'.connection.pending := by
  have keep {c : Connection} (hc : c.pending = s.connection.pending)
      (ht : phase'.token? = phase.token?) (hh : phase'.hunted? = phase.hunted?) :
      Touches r.seq s phase phase' c.pending := by
    rw [hc]
    exact .keep ht hh
  cases h with
  | start call =>
    rw [Connection.start_eq]
    exact .start call
  | handOver call token =>
    obtain ⟨es, -, hs⟩ := s.handOver_snd i r call
    exact keep (by rw [hs]; rfl) rfl rfl
  | enter call token free =>
    exact keep (by rw [Station.take_connection]) (congrArg some (s.invoke_token i call token)) rfl
  | hunt place seq next victim may found =>
    rw [Connection.remove_eq]
    exact .remove place seq next may rfl (found.symm.trans (s.connection.fst_remove i seq))
  | miss place seq next may found =>
    rw [Connection.remove_eq]
    exact .remove place seq next may rfl (found.symm.trans (s.connection.fst_remove i seq))
  | refuse place seq next may => exact keep rfl rfl rfl
  | act place a next plain =>
    cases a with
    | abandon => exact .abandon place next _
    | cancel seq => cases plain
    | _ => exact keep rfl rfl rfl
  | giveBack place finished locks => exact keep (by rw [Station.giveBack_connection]) rfl rfl
  | release place finished locks =>
    rw [Connection.fst_remove, Connection.remove_eq]
    exact .release place finished
  | flag place victim rest => exact .flag victim rfl rfl rfl
  | settle token victim? finished =>
    cases victim? with
    | none => exact keep rfl rfl rfl
    | some victim => exact .flag victim rfl rfl rfl
  | report finished =>
    exact keep (by simp only [Station.onConnection, Connection.log_eq, Connection.record_pending])
      rfl rfl
  | lock reply error free =>
    refine keep ?_ rfl rfl
    simp only [Station.onConnection, Connection.log_eq, Connection.record_pending]
    rfl
  | write frame? piece rest => exact keep rfl rfl rfl
  | unlock frame? => cases frame? <;> exact keep rfl rfl rfl
  | forget => exact keep rfl rfl rfl
  | finish => split <;> exact keep rfl rfl rfl

end Moves

/-! ## The table in the argument -/

namespace Argument

variable {a b : Argument ι}

/-- The argument once it was offered the table, which it takes if it can. -/
def offered (a : Argument ι) (ref : TableRef) : Argument ι := (a.setPending? ref).getD a

theorem exists_of_decode {bytes : Bytes} (h : a.decode bytes = .ok b) :
    ∃ v, b = { a with held := ⟨a.declared, v⟩ } := by
  unfold decode at h
  split at h
  · next value _ =>
    cases h
    exact ⟨value, rfl⟩
  · cases h

/-- An argument that is not made for a privileged method does not take the table. -/
theorem offered_of_not_privileged (h : a.privileged = false) (ref : TableRef) :
    a.offered ref = a := by
  unfold offered setPending?
  rw [h]
  rfl

/-- One that is takes it, if its type has a place for it and it holds a value of that type. -/
theorem exists_offered (h : a.privileged = true) (slotted : a.declared.slot.isSome = true)
    {v : a.declared.Carrier} (hv : a.held = ⟨a.declared, v⟩) (ref : TableRef) :
    ∃ w, a.offered ref = { a with held := ⟨a.declared, w⟩ } ∧
      Held.pending? ⟨a.declared, w⟩ = some ref := by
  obtain ⟨slot, hslot⟩ := Option.isSome_iff_exists.1 slotted
  refine ⟨slot.set ref v, ?_, ?_⟩
  · unfold offered setPending?
    rw [h, hv, Held.as?_self, hslot]
    rfl
  · unfold Held.pending?
    rw [hslot]
    exact slot.get_set ref v

/-- The number to cancel stays in the argument when the table comes to it. -/
theorem seq_of_offered {ref : TableRef} {args : CancelArgs}
    (h : (a.offered ref).as? .cancelArgs = some args) :
    ∃ args', a.as? .cancelArgs = some args' ∧ args'.seq = args.seq := by
  unfold offered setPending? at h
  split at h
  · split at h
    · next value slot hvalue hslot =>
      obtain ⟨declared, ⟨type, held⟩, byValue, privileged⟩ := a
      unfold Held.as? at hvalue
      split at hvalue
      · next htype =>
        cases htype
        cases hvalue
        unfold as? Held.as? at h ⊢
        split at h
        · next hcancel =>
          cases hcancel
          cases hslot
          cases h
          exact ⟨held, rfl, rfl⟩
        · cases h
      · cases hvalue
    · exact ⟨args, h, rfl⟩
  · exact ⟨args, h, rfl⟩

end Argument

theorem Method.declared_makeArgument (m : Method ι σ κ) :
    m.makeArgument.declared = m.implementation.argument := by
  rw [makeArgument_eq]

theorem Method.privileged_makeArgument (m : Method ι σ κ) :
    m.makeArgument.privileged = decide (m.implementation.passing = .privileged) := by
  rw [makeArgument_eq]

namespace PreparedCall

variable {call : PreparedCall ι κ}

/-- The call as it goes on when it has started: a call to the reserved service was offered the
table. -/
def handed (call : PreparedCall ι κ) (ref : TableRef) : PreparedCall ι κ :=
  if call.service = CancelService.name then { call with argument := call.argument.offered ref }
  else call

theorem handed_of_ne (h : call.service ≠ CancelService.name) (ref : TableRef) :
    call.handed ref = call := if_neg h

theorem handed_of_eq (h : call.service = CancelService.name) (ref : TableRef) :
    call.handed ref = { call with argument := call.argument.offered ref } := if_pos h

theorem service_handed (call : PreparedCall ι κ) (ref : TableRef) :
    (call.handed ref).service = call.service := by
  unfold handed
  split <;> rfl

end PreparedCall

theorem Station.handOver_fst (s : Station ι σ κ) (i : CallId) (r : Request)
    (call : PreparedCall ι κ) : (s.handOver i r call).1 = call.handed s.connection.ref := by
  unfold handOver PreparedCall.handed Argument.offered
  split
  · cases call.argument.setPending? s.connection.ref <;> rfl
  · rfl

/-- A call to a service that is there enters its method. -/
theorem Station.invoke_of_service {s : Station ι σ κ} {call : PreparedCall ι κ}
    {service : Service ι σ κ} (h : s.server.service? call.service = some service) (i : CallId)
    (token : Token) :
    s.invoke i call token =
      (⟨i, call.service, token, call.argument.held.pending?, service.locksFor call.method⟩,
        service.invoke call.method call.client call.argument call.reply) := by
  unfold invoke
  rw [h]

/-- A request that is prepared was resolved and decoded. -/
theorem Station.exists_of_prepare {s : Station ι σ κ} {r : Request} {body : Bytes}
    {client : Client κ} {call : PreparedCall ι κ} (h : s.prepare r body client = .ok call) :
    ∃ service m argument, s.server.resolve r.address = .ok (service, m) ∧
      m.makeArgument.decode body = .ok argument ∧
      call = ⟨service.name, m.name, argument, m.makeReply, client⟩ := by
  unfold prepare at h
  split at h
  · cases h
  · next service m hresolve =>
    split at h
    · cases h
    · next argument hdecode =>
      cases h
      exact ⟨service, m, argument, hresolve, hdecode, rfl⟩

theorem Station.invoke_service (s : Station ι σ κ) (i : CallId) (call : PreparedCall ι κ)
    (token : Token) : (s.invoke i call token).1.service = call.service := by
  unfold invoke
  dsimp only
  split <;> rfl

/-- What a body has of the table came with its argument. -/
theorem Station.invoke_grant (s : Station ι σ κ) (i : CallId) (call : PreparedCall ι κ)
    (token : Token) : (s.invoke i call token).1.grant = call.argument.held.pending? := by
  unfold invoke
  dsimp only
  split <;> rfl

/-- A call whose holders fit its method enters the body, with what the holders hold. -/
theorem Station.exists_invoke {s : Station ι σ κ} {call : PreparedCall ι κ}
    {service : Service ι σ κ} {m : Method ι σ κ} {v : m.implementation.argument.Carrier}
    {w : m.implementation.reply.Carrier} (bound : s.server.service? call.service = some service)
    (hm : service.method? call.method = some m)
    (specials : m.implementation.takesSpecials = true)
    (hargument : call.argument.held = ⟨m.implementation.argument, v⟩)
    (hreply : call.reply.held = ⟨m.implementation.reply, w⟩) (i : CallId) (token : Token) :
    ∃ place next, s.invoke i call token =
        (place, .act .enter fun _ => (m.implementation.body call.client v w).bind next) ∧
      place.grant = Held.pending? ⟨m.implementation.argument, v⟩ := by
  have hv : call.argument.as? m.implementation.argument = some v := by
    rw [Argument.as?, hargument, Held.as?_self]
  have hw : call.reply.as? m.implementation.reply = some w := by
    rw [Reply.as?, hreply, Held.as?_self]
  rw [invoke_of_service bound, Service.invoke_of_method? hm, Method.invoke,
    Implementation.invoke_of_fits m.name call.client specials hv hw, hargument]
  exact ⟨_, _, rfl, rfl⟩

/-! ## What a body may cancel -/

namespace Script

variable {α β : Type} {Q : UInt64 → Prop}

/-- Whatever its actions give back, every number that the script cancels is in `Q`. -/
def Cancels (Q : UInt64 → Prop) : Script σ α → Prop
  | .done _ => True
  | .act a next => (∀ q, a = .cancel q → Q q) ∧ ∀ x, (next x).Cancels Q

theorem cancels_true (p : Script σ α) : p.Cancels fun _ => True := by
  induction p with
  | done a => trivial
  | act a next ih => exact ⟨fun _ _ => trivial, ih⟩

theorem Cancels.mono {R : UInt64 → Prop} {p : Script σ α} (hp : p.Cancels Q)
    (h : ∀ q, Q q → R q) : p.Cancels R := by
  induction p with
  | done a => trivial
  | act a next ih => exact ⟨fun q ha => h q (hp.1 q ha), fun x => ih x (hp.2 x)⟩

theorem Cancels.bind {p : Script σ α} {f : α → Script σ β} (hp : p.Cancels Q)
    (hf : ∀ a, (f a).Cancels Q) : (p.bind f).Cancels Q := by
  induction p with
  | done a => exact hf a
  | act a next ih => exact ⟨hp.1, fun x => ih x (hp.2 x)⟩

end Script

/-- The call is a request to the cancellation service to cancel the number `q`. -/
structure PreparedCall.Asks (call : PreparedCall ι κ) (q : UInt64) : Prop where
  service : call.service = CancelService.name
  method : call.method = "Cancel"
  argument : ∃ args, call.argument.as? .cancelArgs = some args ∧ args.seq = q

namespace CancelService

theorem cancels_body (client : Client κ) (args : CancelArgs) (reply : Bool) :
    ((body : Body ι σ κ .cancelArgs .bool) client args reply).Cancels (· = args.seq) := by
  unfold body
  cases args.pending with
  | none => exact ⟨fun _ h => (nomatch h), fun _ => trivial⟩
  | some ref =>
    refine ⟨fun _ h => (nomatch h), fun _ => ⟨?_, fun _ => trivial⟩⟩
    rintro _ ⟨⟩
    rfl

theorem method?_service (state : σ) (name : String) :
    (service state : Service ι σ κ).method? name =
      if "Cancel" = name then some method else none := by
  unfold Service.method? Catalog.find?
  by_cases h : "Cancel" = name
  · rw [if_pos h]
    exact List.find?_cons_of_pos (decide_eq_true h)
  · rw [if_neg h]
    exact List.find?_cons_of_neg fun hname => h (of_decide_eq_true hname)

theorem cancels_method (client : Client κ) (argument : Argument ι) (reply : Reply ι) :
    ((method : Method ι σ κ).invoke client argument reply).Cancels fun q =>
      ∃ args, argument.as? .cancelArgs = some args ∧ args.seq = q := by
  unfold Method.invoke Implementation.invoke
  split
  · trivial
  · split
    · trivial
    · next args hargs =>
      split
      · trivial
      · next value _ =>
        refine ⟨fun _ h => (nomatch h), fun _ => Script.Cancels.bind ?_ fun _ => trivial⟩
        refine (cancels_body client args value).mono ?_
        rintro q rfl
        exact ⟨args, hargs, rfl⟩

end CancelService

/-- A body of the cancellation service cancels the number that it was asked to cancel and no other. -/
theorem Station.cancels_invoke {s : Station ι σ κ} (offers : s.server.OffersCancel)
    {call : PreparedCall ι κ} (hservice : call.service = CancelService.name) (i : CallId)
    (ref : TableRef) (token : Token) :
    (s.invoke i (call.handed ref) token).2.Cancels call.Asks := by
  obtain ⟨state, bound⟩ := offers
  rw [← hservice, ← call.service_handed ref] at bound
  rw [invoke_of_service bound, PreparedCall.handed_of_eq hservice]
  unfold Service.invoke Service.methodOrError
  rw [CancelService.method?_service]
  by_cases hmethod : "Cancel" = call.method
  · rw [if_pos hmethod]
    refine (CancelService.cancels_method call.client _ call.reply).mono ?_
    rintro q ⟨args, hargs, rfl⟩
    exact ⟨hservice, hmethod.symm, Argument.seq_of_offered hargs⟩
  · rw [if_neg hmethod]
    trivial

/-! ## What stays with a call -/

/-- What a call that came in as `call` has in each phase: its holders, and then a body that cancels
no other numbers than those in `Q`, and the table only if it came with the argument. -/
def Phase.Carries (call : PreparedCall ι κ) (ref : TableRef) (Q : UInt64 → Prop) :
    Phase ι σ κ → Prop
  | .accepted c | .registered c _ => c = call
  | .ready c _ => c = call.handed ref
  | .running place rest => place.service = call.service ∧
    place.grant = (call.handed ref).argument.held.pending? ∧ rest.Cancels Q
  | .flagging place _ rest => place.service = call.service ∧
    place.grant = (call.handed ref).argument.held.pending? ∧ place.grant = some ref ∧ rest.Cancels Q
  | _ => True

section Runs

variable [Inhabited σ] {i : CallId} {r : Request} {guarded : Bool} {call : PreparedCall ι κ}
  {Q : UInt64 → Prop}

theorem Moves.carries {s s' : Station ι σ κ} {phase phase' : Phase ι σ κ}
    (h : Moves i r guarded s phase phase' s')
    (hbody : ∀ token, (s.invoke i (call.handed s.connection.ref) token).2.Cancels Q)
    (hp : phase.Carries call s.connection.ref Q) : phase'.Carries call s.connection.ref Q := by
  cases h with
  | start c => exact hp
  | handOver c token =>
    cases hp
    exact s.handOver_fst i r call
  | enter c token free =>
    cases hp
    refine ⟨?_, s.invoke_grant i _ token, hbody token⟩
    rw [s.invoke_service, PreparedCall.service_handed]
  | hunt place seq next victim may found =>
    obtain ⟨hservice, hgrant, hrest⟩ := hp
    exact ⟨hservice, hgrant, of_decide_eq_true may, hrest.2 ()⟩
  | miss place seq next may found => exact ⟨hp.1, hp.2.1, hp.2.2.2 ()⟩
  | refuse place seq next may => exact ⟨hp.1, hp.2.1, hp.2.2.2 ()⟩
  | act place a next plain => exact ⟨hp.1, hp.2.1, hp.2.2.2 _⟩
  | giveBack place finished locks => exact hp
  | flag place victim rest => exact ⟨hp.1, hp.2.1, hp.2.2.2⟩
  | _ => trivial

namespace Exchange

variable {x y : Exchange ι σ κ}

/-- Running methods leave the services alone, but for the states of the receivers. -/
theorem sameBut_of_runs (h : x.Runs y) : x.station.server.SameBut y.station.server := by
  refine h.invariant (P := fun y => x.station.server.SameBut y.station.server)
    x.station.server.sameBut_refl ?_
  intro y z hnext hy
  rcases hnext.server with heq | ⟨target, f, heq⟩
  · exact heq ▸ hy
  · exact heq ▸ hy.updateReceiver target f

theorem ref_of_runs (h : x.Runs y) : y.connection.ref = x.connection.ref :=
  h.invariant (P := fun y => y.connection.ref = x.connection.ref) rfl
    fun _ _ hnext hy => hnext.ref.trans hy

omit [Inhabited σ] in
/-- A request that is accepted was prepared, and is a call that has not started. -/
theorem exists_of_accepted {a b : Exchange ι σ κ} {inbound : Inbound κ}
    (h : a.accept inbound.request inbound.body inbound.client guarded = (.accepted i, b)) :
    ∃ service m argument,
      a.station.server.resolve inbound.request.address = .ok (service, m) ∧
      m.makeArgument.decode inbound.body = .ok argument ∧
      b.calls[i]? = some ⟨inbound.request, guarded,
        .accepted ⟨service.name, m.name, argument, m.makeReply, inbound.client⟩⟩ ∧
      b.station.server = a.station.server ∧ b.connection.pending = a.connection.pending := by
  unfold accept at h
  dsimp only at h
  split at h
  · next call hprepare =>
    cases h
    obtain ⟨service, m, argument, hresolve, hdecode, rfl⟩ := Station.exists_of_prepare hprepare
    rw [addGuard_server] at hresolve
    exact ⟨service, m, argument, hresolve, hdecode, List.getElem?_concat_length,
      a.addGuard_server guarded, a.addGuard_pending guarded⟩
  · cases h

/-- **What a call was given when it came in stays with it.** -/
theorem carries_of_runs (here : x.calls[i]? = some ⟨r, guarded, .accepted call⟩)
    (hbody : ∀ s : Station ι σ κ, x.station.server.SameBut s.server →
      ∀ token, (s.invoke i (call.handed x.connection.ref) token).2.Cancels Q)
    (h : x.Runs y) :
    ∃ phase, y.calls[i]? = some ⟨r, guarded, phase⟩ ∧ phase.Carries call x.connection.ref Q := by
  have hall : x.Runs y ∧ ∃ phase, y.calls[i]? = some ⟨r, guarded, phase⟩ ∧
      phase.Carries call x.connection.ref Q := by
    refine h.invariant (P := fun y => x.Runs y ∧ ∃ phase, y.calls[i]? = some ⟨r, guarded, phase⟩ ∧
      phase.Carries call x.connection.ref Q) ⟨.refl, _, here, rfl⟩ ?_
    rintro y z hnext ⟨hy, phase, here, hp⟩
    refine ⟨hy.tail hnext, ?_⟩
    obtain ⟨phase', here', moves | rfl⟩ := hnext.call here
    · have href : y.station.connection.ref = x.connection.ref := ref_of_runs hy
      rw [← href] at hp hbody ⊢
      exact ⟨phase', here', moves.carries (hbody _ (sameBut_of_runs hy)) hp⟩
    · exact ⟨phase', here', hp⟩
  exact hall.2

end Exchange

end Runs

end Switchboard
