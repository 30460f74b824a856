import Switchboard.Proofs.Connection.Privilege

/-!
# What preparing a request settles

A request is resolved to a service and the name of a method. After that everything goes by the name:
the service makes the argument, the bytes are decoded into it, the service makes the reply, and
later the service invokes the method on the two. Each of these steps looks the name up again, and
the method looks at the types of its holders and of what it was written for.

On a server none of that can fail. The name was found when the request was resolved; the catalog
took the method's candidate only because it is written for the special parameters and gives the
result of the calling convention; and the holders were made for the types that the body takes.

Results:

* `Station.prepareByName_eq`: looking the name up again finds the method that the request was
  resolved to, so preparing step by step is `Station.prepare`.
* `Service.ComesFrom.invoke_eq`: a method whose holders fit runs its body, once, and ends as the
  body does.
* `Station.prepareByName_sound`: preparing a request fails for its address or for its bytes and for
  nothing else, and what was prepared runs.
-/

namespace Switchboard

variable {ι σ κ : Type} [MessageFamily ι]

/-! ## Holders that fit -/

/-- A decoded argument holds a value of the type that the body takes. -/
theorem Method.exists_held {m : Method ι σ κ} {body : Bytes} {argument : Argument ι}
    (h : m.makeArgument.decode body = .ok argument) :
    ∃ a, argument.held = ⟨m.implementation.argument, a⟩ := by
  obtain ⟨v, rfl⟩ := Argument.exists_of_decode h
  have hdeclared := m.declared_makeArgument
  generalize m.makeArgument = fresh at v hdeclared
  obtain ⟨declared, held, byValue, privileged⟩ := fresh
  cases hdeclared
  exact ⟨v, rfl⟩

/-- So it does as the method gets it, with the pending table offered to it or not. -/
theorem Method.exists_ready {m : Method ι σ κ} {body : Bytes} {argument : Argument ι}
    (h : m.makeArgument.decode body = .ok argument) {service : String} {client : Client κ}
    {ready : PreparedCall ι κ}
    (hready : ready = ⟨service, m.name, argument, m.makeReply, client⟩ ∨
      ∃ ref, ready = PreparedCall.handed ⟨service, m.name, argument, m.makeReply, client⟩ ref) :
    ∃ argument' a, ready = ⟨service, m.name, argument', m.makeReply, client⟩ ∧
      argument'.held = ⟨m.implementation.argument, a⟩ := by
  rcases hready with rfl | ⟨ref, rfl⟩
  · obtain ⟨a, ha⟩ := m.exists_held h
    exact ⟨argument, a, rfl, ha⟩
  · obtain ⟨argument', a, hhanded, ha, -⟩ := m.exists_handed h service client ref
    exact ⟨argument', a, hhanded, ha⟩

/-- A fresh argument that cannot be decoded tells the type that the body takes. -/
theorem Method.exists_of_decode_error {m : Method ι σ κ} {body : Bytes} {e : HolderError}
    (h : m.makeArgument.decode body = .error e) :
    ∃ cause, e = .decode m.implementation.argument.typeName cause := by
  unfold Argument.decode at h
  split at h
  · cases h
  · next cause _ =>
    cases h
    exact ⟨cause, congrArg (HolderError.decode · cause)
      (congrArg MessageType.typeName m.declared_makeArgument)⟩

/-- A service whose method's holders fit runs the body of the method. -/
theorem Service.ComesFrom.invoke_eq {service : Service ι σ κ} {receiver : Receiver ι σ κ}
    {name? : Option String} (h : service.ComesFrom receiver name?) {m : Method ι σ κ}
    (hm : service.method? m.name = some m) {argument : Argument ι} {reply : Reply ι}
    {a : m.implementation.argument.Carrier} {r : m.implementation.reply.Carrier}
    (ha : argument.held = ⟨m.implementation.argument, a⟩)
    (hr : reply.held = ⟨m.implementation.reply, r⟩) (client : Client κ) :
    service.invoke m.name client argument reply = m.runBody client argument reply a r := by
  obtain ⟨c, -, becomes⟩ := h.exists_candidate hm
  rw [Service.invoke_of_method? hm, becomes.invoke_eq ha hr]

/-! ## Preparing a request -/

namespace Service

variable (service : Service ι σ κ) (name : String)

/-- A fresh argument for the method of a name. -/
def makeArgument : Except AddressError (Argument ι) :=
  (service.methodOrError name).map (·.makeArgument)

/-- A fresh reply for the method of a name. -/
def makeReply : Except AddressError (Reply ι) := (service.methodOrError name).map (·.makeReply)

variable {service name}

theorem makeArgument_of_method? {m : Method ι σ κ} (hm : service.method? name = some m) :
    service.makeArgument name = .ok m.makeArgument := by
  unfold makeArgument methodOrError
  rw [hm]
  rfl

theorem makeReply_of_method? {m : Method ι σ κ} (hm : service.method? name = some m) :
    service.makeReply name = .ok m.makeReply := by
  unfold makeReply methodOrError
  rw [hm]
  rfl

end Service

namespace Station

/-- Prepares a request step by step, each of which asks the service for the method of the name that
the request was resolved to. -/
def prepareByName (s : Station ι σ κ) (request : Request) (body : Bytes) (client : Client κ) :
    Except CallError (PreparedCall ι κ) :=
  match s.server.resolve request.address with
  | .error e => .error (.address e)
  | .ok (service, m) =>
    match service.makeArgument m.name with
    | .error e => .error (.address e)
    | .ok fresh =>
      match fresh.decode body with
      | .error e => .error (.holder e)
      | .ok argument =>
        match service.makeReply m.name with
        | .error e => .error (.address e)
        | .ok reply => .ok ⟨service.name, m.name, argument, reply, client⟩

/-- Looking the name up again finds the method that the request was resolved to. -/
theorem prepareByName_eq (s : Station ι σ κ) (request : Request) (body : Bytes)
    (client : Client κ) : s.prepareByName request body client = s.prepare request body client := by
  unfold prepareByName prepare
  cases hresolve : s.server.resolve request.address with
  | error e => rfl
  | ok found =>
    obtain ⟨service, m⟩ := found
    obtain ⟨-, hm⟩ := Server.exists_of_resolve hresolve
    have hargument := Service.makeArgument_of_method? hm
    have hreply := Service.makeReply_of_method? hm
    cases hdecode : m.makeArgument.decode body with
    | error e => simp only [hargument, hdecode]
    | ok argument => simp only [hargument, hdecode, hreply]

/-- A request that cannot be prepared was not resolved, or its bytes are no value of the type that
the body takes. -/
theorem exists_of_prepare_error {s : Station ι σ κ} {request : Request} {body : Bytes}
    {client : Client κ} {e : CallError} (h : s.prepare request body client = .error e) :
    (∃ cause, s.server.resolve request.address = .error cause ∧ e = .address cause) ∨
      ∃ service m cause, s.server.resolve request.address = .ok (service, m) ∧
        e = .holder (.decode m.implementation.argument.typeName cause) := by
  unfold prepare at h
  split at h
  · next cause hresolve =>
    cases h
    exact .inl ⟨cause, hresolve, rfl⟩
  · next service m hresolve =>
    split at h
    · next cause hdecode =>
      cases h
      obtain ⟨reason, rfl⟩ := m.exists_of_decode_error hdecode
      exact .inr ⟨service, m, reason, hresolve, rfl⟩
    · cases h

/-- **A request that was resolved does not fail for its types or its address.** On any server,
preparing a request fails only with the error that its address gives, or because its bytes are no
value of the type that the body takes. What was prepared, as it is or with the pending table offered
to its argument, runs the body of the method, once, on what the argument holds and on a zero reply;
and whatever the body's actions are answered, the call ends as the body does. -/
theorem prepareByName_sound [Inhabited σ] {config : ServerConfig} {s : Station ι σ κ}
    (built : s.server.Built config) (request : Request) (body : Bytes) (client : Client κ) :
    (∀ e, s.prepareByName request body client = .error e →
      (∃ cause, s.server.resolve request.address = .error cause ∧ e = .address cause) ∨
        ∃ service m cause, s.server.resolve request.address = .ok (service, m) ∧
          e = .holder (.decode m.implementation.argument.typeName cause)) ∧
    ∀ call, s.prepareByName request body client = .ok call →
      ∃ service m, s.server.resolve request.address = .ok (service, m) ∧
        m.makeArgument.decode body = .ok call.argument ∧
        call.service = service.name ∧ call.method = m.name ∧
        ∀ ready, (ready = call ∨ ∃ ref, ready = call.handed ref) → ∃ a,
          ready.argument.held = ⟨m.implementation.argument, a⟩ ∧
          service.invoke ready.method ready.client ready.argument ready.reply =
              m.runBody client ready.argument ready.reply a m.implementation.reply.zero ∧
          ∀ {S : Type} (handle : (a : Action σ) → S → a.Answer × S) (st : S),
            ((service.invoke ready.method ready.client ready.argument ready.reply).run handle
              st).1.outcome.IsOwn := by
  rw [prepareByName_eq]
  refine ⟨fun e => exists_of_prepare_error, ?_⟩
  intro call hcall
  obtain ⟨service, m, argument, hresolve, hdecode, rfl⟩ := exists_of_prepare hcall
  obtain ⟨bound, hm⟩ := Server.exists_of_resolve hresolve
  obtain ⟨receiver, name?, comes⟩ := built.comesFrom bound
  refine ⟨service, m, hresolve, hdecode, rfl, rfl, ?_⟩
  intro ready hready
  obtain ⟨argument', a, rfl, ha⟩ := m.exists_ready hdecode hready
  have hreply : m.makeReply.held = ⟨m.implementation.reply, m.implementation.reply.zero⟩ := rfl
  have hinvoke := comes.invoke_eq hm ha hreply client
  refine ⟨a, ha, hinvoke, ?_⟩
  intro S handle st
  rw [hinvoke]
  exact m.isOwn_run_runBody handle st client argument' m.makeReply a _

/-- A request to cancel under the second name of the cancellation service. -/
theorem prepareByName_sound_renamed :
    ∃ call service m a, (Exchange.new Server.renamed ⟨0⟩).station.prepareByName
        Inbound.toOther.request Inbound.toOther.body Inbound.toOther.client = .ok call ∧
      Server.renamed.resolve "Other.Cancel" = .ok (service, m) ∧
      service.invoke call.method call.client call.argument call.reply =
        m.runBody Inbound.toOther.client call.argument call.reply a
          m.implementation.reply.zero := by
  have run : ((Exchange.new Server.renamed ⟨0⟩).station.prepareByName Inbound.toOther.request
      Inbound.toOther.body Inbound.toOther.client).toOption.isSome = true := by
    decide +kernel
  cases hcall : (Exchange.new Server.renamed ⟨0⟩).station.prepareByName Inbound.toOther.request
      Inbound.toOther.body Inbound.toOther.client with
  | error e =>
    rw [hcall] at run
    cases run
  | ok call =>
    have built : (Exchange.new Server.renamed ⟨0⟩).station.server.Built {} := Server.built_renamed
    obtain ⟨-, hsound⟩ := prepareByName_sound built Inbound.toOther.request Inbound.toOther.body
      Inbound.toOther.client
    obtain ⟨service, m, hresolve, -, -, -, hready⟩ := hsound call hcall
    obtain ⟨a, -, hinvoke, -⟩ := hready call (.inl rfl)
    exact ⟨call, service, m, a, rfl, hresolve, hinvoke⟩

end Station

end Switchboard
