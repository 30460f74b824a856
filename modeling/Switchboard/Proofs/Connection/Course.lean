import Switchboard.Proofs.Connection.Cancelation
import Switchboard.Proofs.Connection.Completion

/-!
# The course of a call

What a call does to the world around it: it starts its number in the pending table and releases it,
it may have the table put into its argument, its body takes actions, and then it sends its response,
has the request forgotten and drops its guard. `Surroundings` is what does these things, and it can
be anything at all: whatever table and whatever transport, with whatever other calls do meanwhile
counted to the operations. `Service.serve` is the call, written once for all surroundings.

The order in which it does them does not depend on the surroundings, on the holders that the call
came with, or on the way its body ends. `Surroundings.recording` writes down what is done.

* `Service.serve` serves a call that is prepared, `Server.serve` a request.
* `Station.surroundings` are those of a call on a connection.

Results:

* `Service.serve_recording`: what is written down when a call is served.
* `Service.performs`: of the body of its method a call runs nothing, or all of it once.
* `Call.endAccepted_eq_serve`: to complete a call on a connection is to serve it.
* `Exchange.course_of_serving`: the course of every call and of every request that is rejected.
-/

namespace Switchboard

variable {ι σ κ S : Type} [MessageFamily ι]

/-! ## Surroundings -/

/-- What serves a call, with a state of its own. -/
structure Surroundings (ι σ S : Type) [MessageFamily ι] where
  /-- The pending table starts a number and gives its token. -/
  start : UInt64 → S → Token × S
  /-- The pending table is put into a value. -/
  inject : (t : MessageType ι) → t.Carrier → S → t.Carrier × S
  /-- A body takes an action. -/
  act : Place → (a : Action σ) → S → a.Answer × S
  /-- The pending table cancels a number. -/
  cancel : UInt64 → S → S
  /-- The transport sends a response. -/
  send : Request → Reply ι → String → S → S
  /-- The transport forgets a request. -/
  free : Request → S → S
  /-- The guard of the call is dropped. -/
  dropGuard : S → S
  log : List Event → S → S

/-- One thing that is done for a call; what is logged is not counted. -/
inductive Deed (ι σ : Type) [MessageFamily ι] where
  | started (seq : UInt64)
  | injected (type : MessageType ι)
  | acted (a : Action σ)
  | canceled (seq : UInt64)
  | sent (request : Request) (reply : Reply ι) (error : String)
  | freed (request : Request)
  | guardDropped

namespace Surroundings

variable (w : Surroundings ι σ S)

/-- The same surroundings, but all that is done is written down. -/
def recording : Surroundings ι σ (S × List (Deed ι σ)) where
  start seq s := ((w.start seq s.1).1, (w.start seq s.1).2, s.2 ++ [.started seq])
  inject t v s := ((w.inject t v s.1).1, (w.inject t v s.1).2, s.2 ++ [.injected t])
  act place a s := ((w.act place a s.1).1, (w.act place a s.1).2, s.2 ++ [.acted a])
  cancel seq s := (w.cancel seq s.1, s.2 ++ [.canceled seq])
  send r reply error s := (w.send r reply error s.1, s.2 ++ [.sent r reply error])
  free r s := (w.free r s.1, s.2 ++ [.freed r])
  dropGuard s := (w.dropGuard s.1, s.2 ++ [.guardDropped])
  log events s := (w.log events s.1, s.2)

/-- Answers a request and is done with it. -/
def answer (r : Request) (reply : Reply ι) (error : String) (guarded : Bool) (s : S) : S :=
  let s := w.free r (w.send r reply error s)
  if guarded then w.dropGuard s else s

/-- Releases a call whose method is over, and answers it. -/
def conclude (r : Request) (finished : Finished ι) (guarded : Bool) (s : S) : S :=
  let s := w.log (finished.outcome.events r) (w.cancel r.seq s)
  w.answer r finished.reply (finished.outcome.report r.address) guarded s

/-- Rejects a request that cannot be routed or decoded. -/
def reject (r : Request) (e : CallError) (guarded : Bool) (s : S) : S :=
  w.answer r .empty e.message guarded (w.log [.rejected r.seq e] s)

end Surroundings

/-- The value that a pending table can be put into, if the argument takes one. -/
def Argument.target? (a : Argument ι) : Option a.declared.Carrier :=
  if a.acceptsPending then a.as? a.declared else none

theorem Argument.isSome_target? (a : Argument ι) : a.target?.isSome = a.acceptsPending := by
  unfold target? acceptsPending as?
  cases a.privileged <;> cases a.held.as? a.declared <;> cases a.declared.slot <;> rfl

namespace Service

variable (service : Service ι σ κ) (w : Surroundings ι σ S)

/-- Has the pending table put into an argument that takes it, if the service has the reserved
name. -/
def offer (argument : Argument ι) (s : S) : Argument ι × S :=
  match if service.name = CancelService.name then argument.target? else none with
  | some value =>
    let (value, s) := w.inject argument.declared value s
    ({ argument with held := ⟨argument.declared, value⟩ }, s)
  | none => (argument, s)

/-- Runs the method of a call whose argument is ready, releases the call and answers it. -/
def enter (i : CallId) (r : Request) (call : PreparedCall ι κ) (argument : Argument ι)
    (token : Token) (guarded : Bool) (s : S) : S :=
  let place : Place :=
    ⟨i, service.name, token, argument.held.pending?, service.locksFor call.method⟩
  let script := service.invoke call.method call.client argument call.reply
  let (finished, s) := script.run (w.act place) (w.log [.calling r.address r.seq] s)
  w.conclude r finished guarded s

/-- Serves a call that is prepared, from its beginning to its end. -/
def serve (i : CallId) (r : Request) (call : PreparedCall ι κ) (guarded : Bool) (s : S) : S :=
  let (token, s) := w.start r.seq s
  let (argument, s) := service.offer w call.argument s
  service.enter w i r call argument token guarded s

end Service

namespace Server

/-- The service that a request is for, and the call that it becomes. -/
def prepare (server : Server ι σ κ) (r : Request) (body : Bytes) (client : Client κ) :
    Except CallError (Service ι σ κ × PreparedCall ι κ) :=
  match server.resolve r.address with
  | .error e => .error (.address e)
  | .ok (service, m) =>
    match m.makeArgument.decode body with
    | .error e => .error (.holder e)
    | .ok argument => .ok (service, ⟨service.name, m.name, argument, m.makeReply, client⟩)

/-- Serves a request as it was read. -/
def serve (server : Server ι σ κ) (w : Surroundings ι σ S) (i : CallId) (r : Request)
    (body : Bytes) (client : Client κ) (guarded : Bool) (s : S) : S :=
  match server.prepare r body client with
  | .error e => w.reject r e guarded s
  | .ok (service, call) => service.serve w i r call guarded s

variable {server : Server ι σ κ} {r : Request} {body : Bytes} {client : Client κ}

/-- A request is prepared for a service that is there. -/
theorem service?_of_prepare {service : Service ι σ κ} {call : PreparedCall ι κ}
    (h : server.prepare r body client = .ok (service, call)) :
    server.service? call.service = some service := by
  unfold prepare at h
  split at h
  · cases h
  · next found m resolved =>
    split at h
    · cases h
    · cases h
      exact (exists_of_resolve resolved).1

end Server

/-- A station prepares requests as its server does. -/
theorem Station.prepare_eq (s : Station ι σ κ) (r : Request) (body : Bytes) (client : Client κ) :
    s.prepare r body client = (s.server.prepare r body client).map Prod.snd := by
  unfold prepare Server.prepare
  cases s.server.resolve r.address with
  | error e => rfl
  | ok found =>
    dsimp only
    cases found.2.makeArgument.decode body <;> rfl

/-! ## What is written down -/

namespace Script

variable {α β : Type} (handle : (a : Action σ) → S → a.Answer × S)

/-- The actions that a script takes when it is run. -/
def actions : Script σ α → S → List (Action σ)
  | done _, _ => []
  | act a next, s => a :: (next (handle a s).1).actions (handle a s).2

theorem actions_bind (p : Script σ α) (f : α → Script σ β) (s : S) :
    (p.bind f).actions handle s =
      p.actions handle s ++ (f (p.run handle s).1).actions handle (p.run handle s).2 := by
  induction p generalizing s with
  | done a => rfl
  | act a next ih => exact congrArg (a :: ·) (ih (handle a s).1 (handle a s).2)

end Script

namespace Surroundings

variable (w : Surroundings ι σ S) (s : S) (ds : List (Deed ι σ))

theorem run_recording {α : Type} (p : Script σ α) (place : Place) :
    p.run (w.recording.act place) (s, ds) = ((p.run (w.act place) s).1,
      (p.run (w.act place) s).2, ds ++ (p.actions (w.act place) s).map .acted) := by
  induction p generalizing s ds with
  | done a => exact congrArg (fun ds => (a, s, ds)) (List.append_nil ds).symm
  | act a next ih =>
    refine (ih (w.act place a s).1 (w.act place a s).2 (ds ++ [.acted a])).trans ?_
    rw [List.append_assoc]
    rfl

/-- What is done to answer a request and to be done with it. -/
def closing (r : Request) (reply : Reply ι) (error : String) (guarded : Bool) :
    List (Deed ι σ) :=
  [.sent r reply error, .freed r] ++ if guarded then [.guardDropped] else []

theorem answer_recording (r : Request) (reply : Reply ι) (error : String) (guarded : Bool) :
    w.recording.answer r reply error guarded (s, ds) =
      (w.answer r reply error guarded s, ds ++ closing r reply error guarded) := by
  unfold answer closing
  cases guarded <;> simp [recording]

theorem conclude_recording (r : Request) (finished : Finished ι) (guarded : Bool) :
    w.recording.conclude r finished guarded (s, ds) = (w.conclude r finished guarded s,
      ds ++ .canceled r.seq :: closing r finished.reply (finished.outcome.report r.address)
        guarded) := by
  refine (w.answer_recording _ (ds ++ [.canceled r.seq]) r _ _ guarded).trans ?_
  rw [List.append_assoc]
  rfl

end Surroundings

open Surroundings (closing)

namespace Service

variable (service : Service ι σ κ) (w : Surroundings ι σ S) (s : S) (ds : List (Deed ι σ))

/-- What is done to put the pending table into an argument. -/
def injection (argument : Argument ι) : List (Deed ι σ) :=
  if service.name = CancelService.name ∧ argument.acceptsPending = true then
    [.injected argument.declared]
  else []

theorem offer_recording (argument : Argument ι) :
    service.offer w.recording argument (s, ds) = ((service.offer w argument s).1,
      (service.offer w argument s).2, ds ++ service.injection argument) := by
  unfold offer injection
  by_cases named : service.name = CancelService.name
  · rw [if_pos named]
    cases target : argument.target? with
    | some value =>
      rw [if_pos ⟨named, argument.isSome_target? ▸ target ▸ rfl⟩]
      rfl
    | none =>
      rw [if_neg fun both => ?_, List.append_nil]
      have taken := both.2
      rw [← argument.isSome_target?, target] at taken
      cases taken
  · rw [if_neg named, if_neg fun both => named both.1, List.append_nil]

/-- The pending table does not change the type of what it is put into. -/
theorem type_offer (argument : Argument ι) :
    (service.offer w argument s).1.held.type = argument.held.type := by
  unfold offer
  split
  · next value target =>
    have holds : argument.as? argument.declared = some value := by
      split at target
      · exact (Option.ite_none_right_eq_some.1 target).2
      · cases target
    rw [Held.as?_eq_some_iff.1 holds]
  · rfl

/-- How the invocation of a method goes, as far as the method's body is concerned: nothing of it runs
if the service has no such method or the holders do not fit, and otherwise all of it runs, once.
Relates the actions that are taken to what is left. -/
inductive Performs (name : String) (client : Client κ) (argument : Argument ι) (reply : Reply ι) :
    List (Action σ) → Finished ι → Prop where
  | unknown (absent : service.method? name = none) :
    Performs name client argument reply []
      ⟨argument, reply, .failed (.address (.unknownMethod (Address.text ⟨service.name, name⟩)))⟩
  | refused {m : Method ι σ κ} (found : service.method? name = some m)
    (misfit : ¬(m.implementation.takesSpecials = true ∧
      argument.held.type = m.implementation.argument ∧ reply.held.type = m.implementation.reply))
    (left : Argument ι) (e : HolderError) :
    Performs name client argument reply [] ⟨left, reply, .failed (.holder e)⟩
  | once {m : Method ι σ κ} (found : service.method? name = some m)
    {a : m.implementation.argument.Carrier} {v : m.implementation.reply.Carrier}
    (holds : argument.held = ⟨m.implementation.argument, a⟩)
    (writes : reply.held = ⟨m.implementation.reply, v⟩) (place : Place) (s : S)
    {left : m.implementation.reply.Carrier} {ending : Ending} {s' : S}
    (run : (m.implementation.body client a v).run (w.act place) s = ((left, ending), s')) :
    Performs name client argument reply
      (.enter :: (m.implementation.body client a v).actions (w.act place) s)
      ⟨m.implementation.leave argument, { reply with held := ⟨m.implementation.reply, left⟩ },
        m.implementation.outcome m.name ending⟩

/-- **Of the body of its method a call runs nothing, or all of it once.** -/
theorem performs (name : String) (client : Client κ) (argument : Argument ι) (reply : Reply ι)
    (place : Place) :
    let script := service.invoke name client argument reply
    service.Performs w name client argument reply (script.actions (w.act place) s)
      (script.run (w.act place) s).1 := by
  intro script
  cases found : service.method? name with
  | none =>
    have script_eq : script = .done ⟨argument, reply,
        .failed (.address (.unknownMethod (Address.text ⟨service.name, name⟩)))⟩ := by
      change service.invoke name client argument reply = _
      unfold invoke methodOrError
      rw [found]
    rw [script_eq]
    exact .unknown found
  | some m =>
    have invoked := m.implementation.invocation m.name client argument reply
    rw [← Method.invoke, ← Service.invoke_of_method? found] at invoked
    change Invocation m.implementation m.name client argument reply script at invoked
    generalize script = p at invoked
    cases invoked with
    | convention foreign => exact .refused found (by simp [foreign]) argument _
    | argumentType misfit => exact .refused found (fun fits => misfit fits.2.1) argument _
    | replyType fits misfit => exact .refused found (fun fits => misfit fits.2.2) _ _
    | body a v specials holds writes =>
      change service.Performs w name client argument reply
        (.enter :: ((m.implementation.body client a v).bind _).actions (w.act place)
          (w.act place .enter s).2) (((m.implementation.body client a v).bind _).run (w.act place)
          (w.act place .enter s).2).1
      rw [Script.actions_bind, Script.run_bind]
      obtain ⟨⟨⟨left, ending⟩, s'⟩, run⟩ : ∃ ended, (m.implementation.body client a v).run
        (w.act place) (w.act place .enter s).2 = ended := ⟨_, rfl⟩
      rw [run]
      change service.Performs w name client argument reply (.enter :: (_ ++ [])) _
      rw [List.append_nil]
      exact .once found holds writes place _ run

theorem enter_recording (i : CallId) (r : Request) (call : PreparedCall ι κ)
    (argument : Argument ι) (token : Token) (guarded : Bool) :
    ∃ ran finished,
      service.Performs w call.method call.client argument call.reply ran finished ∧
      service.enter w.recording i r call argument token guarded (s, ds) =
        (service.enter w i r call argument token guarded s,
          ds ++ (ran.map .acted ++ .canceled r.seq :: closing r finished.reply
            (finished.outcome.report r.address) guarded)) := by
  let place : Place :=
    ⟨i, service.name, token, argument.held.pending?, service.locksFor call.method⟩
  let script := service.invoke call.method call.client argument call.reply
  let ready := w.log [.calling r.address r.seq] s
  refine ⟨_, _, service.performs w ready call.method call.client argument call.reply place, ?_⟩
  change (let ended := script.run (w.recording.act place) (ready, ds)
    w.recording.conclude r ended.1 guarded ended.2) = _
  rw [w.run_recording]
  refine (w.conclude_recording _ _ r _ guarded).trans ?_
  rw [List.append_assoc]
  rfl

/-- **What is written down when a call is served.** -/
theorem serve_recording (i : CallId) (r : Request) (call : PreparedCall ι κ) (guarded : Bool) :
    ∃ argument ran finished, argument.held.type = call.argument.held.type ∧
      service.Performs w call.method call.client argument call.reply ran finished ∧
      service.serve w.recording i r call guarded (s, ds) =
        (service.serve w i r call guarded s,
          ds ++ .started r.seq :: (service.injection call.argument ++ (ran.map .acted ++
            .canceled r.seq :: closing r finished.reply (finished.outcome.report r.address)
              guarded))) := by
  obtain ⟨⟨token, started⟩, hstart⟩ : ∃ t, w.start r.seq s = t := ⟨_, rfl⟩
  obtain ⟨⟨argument, ready⟩, hoffer⟩ : ∃ t, service.offer w call.argument started = t := ⟨_, rfl⟩
  have starts : w.recording.start r.seq (s, ds) = (token, started, ds ++ [.started r.seq]) := by
    change ((w.start r.seq s).1, (w.start r.seq s).2, _) = _
    rw [hstart]
  have offers := service.offer_recording w started (ds ++ [.started r.seq]) call.argument
  rw [hoffer] at offers
  obtain ⟨ran, finished, performs, enters⟩ := service.enter_recording w ready
    (ds ++ [.started r.seq] ++ service.injection call.argument) i r call argument token guarded
  refine ⟨argument, ran, finished, ?_, performs, ?_⟩
  · have same := service.type_offer w started call.argument
    rw [hoffer] at same
    exact same
  · unfold serve
    simp only [starts, offers, hstart, hoffer, enters]
    simp only [List.append_assoc, List.cons_append, List.nil_append]

end Service

/-- A request that is rejected is answered, and nothing else is done for it. -/
theorem Surroundings.reject_recording (w : Surroundings ι σ S) (s : S) (ds : List (Deed ι σ))
    (r : Request) (e : CallError) (guarded : Bool) :
    w.recording.reject r e guarded (s, ds) =
      (w.reject r e guarded s, ds ++ closing r .empty e.message guarded) :=
  w.answer_recording _ ds r .empty e.message guarded

/-! ## Calls on a connection -/

section Connection

variable [Inhabited σ]

/-- The value with a pending table in it, if its type has a place for one. -/
def MessageType.put (t : MessageType ι) (ref : TableRef) (value : t.Carrier) : t.Carrier :=
  match t.slot with
  | some slot => slot.set ref value
  | none => value

/-- A pending table is put into the value that takes it. -/
theorem Argument.setPending?_eq (a : Argument ι) (ref : TableRef) :
    a.setPending? ref =
      a.target?.map fun value => { a with held := ⟨a.declared, a.declared.put ref value⟩ } := by
  unfold setPending? target? acceptsPending as? MessageType.put
  cases a.privileged with
  | false => rfl
  | true => cases a.held.as? a.declared <;> cases a.declared.slot <;> rfl

namespace Station

/-- What serves call `i` of a connection, while the others stand still. -/
def surroundings (i : CallId) : Surroundings ι σ (Station ι σ κ) where
  start seq s :=
    let (token, connection) := s.connection.start i seq
    (token, { s with connection })
  inject t value s := (t.put s.connection.ref value, s.onConnection (·.note i .granted))
  act := perform
  cancel seq s := s.onConnection (·.cancel i seq)
  send r reply error s :=
    let (events, frame) := r.compose reply error
    let (frame?, pieces) := frame.pieces
    s.onConnection fun k =>
      (pieces.foldl Connection.write ((k.lock i).log i events)).unlock i frame?
  free r s := s.onConnection (·.free i r.seq)
  dropGuard s := s.onConnection (·.dropGuard i)
  log events s := s.onConnection (·.log i events)

variable (s : Station ι σ κ) (p : Place)

/-- Bodies do not see the locks on the receivers. -/
theorem perform_take (a : Action σ) :
    perform p a (s.take p) = ((perform p a s).1, (perform p a s).2.take p) := by
  unfold take
  split
  · cases a with
    | cancel seq =>
      -- The table that came with the argument decides, and the locks have no part in that.
      by_cases may : s.mayCancel p = true
      · have performed : perform p (.cancel seq) s = ((), s.onConnection (·.cancel p.call seq)) :=
          congrArg (Prod.mk ()) (if_pos may)
        rw [performed]
        exact congrArg (Prod.mk ()) (if_pos may)
      · have performed : perform p (.cancel seq) s = ((), s) :=
          congrArg (Prod.mk ()) (if_neg may)
        rw [performed]
        exact congrArg (Prod.mk ()) (if_neg may)
    | _ => rfl
  · rfl

theorem run_take {α : Type} (script : Script σ α) :
    script.run (perform p) (s.take p) =
      ((script.run (perform p) s).1, (script.run (perform p) s).2.take p) := by
  induction script generalizing s with
  | done a => rfl
  | act a next ih =>
    unfold Script.run
    rw [perform_take]
    exact ih _ _

/-- The table is handed over as it is offered. -/
theorem handOver_eq_offer {service : Service ι σ κ} {call : PreparedCall ι κ}
    (named : service.name = call.service) (i : CallId) (r : Request) :
    s.handOver i r call =
      let offered := service.offer (surroundings i) call.argument s
      ({ call with argument := offered.1 },
        offered.2.onConnection (·.log i [.calling r.address r.seq])) := by
  unfold handOver Service.offer
  rw [named, Argument.setPending?_eq]
  by_cases reserved : call.service = CancelService.name
  · simp only [if_pos reserved]
    cases call.argument.target? <;> rfl
  · simp only [if_neg reserved]

end Station

namespace Call

variable (i : CallId) (c : Call ι σ κ) (s : Station ι σ κ)

theorem endAnswer_eq_answer (reply : Reply ι) (error : String) :
    c.endAnswer i reply error s =
      (Station.surroundings i).answer c.request reply error c.guarded s := by
  unfold endAnswer Surroundings.answer Station.surroundings
  dsimp only
  rfl

theorem endRelease_eq_conclude (finished : Finished ι) :
    c.endRelease i finished s =
      (Station.surroundings i).conclude c.request finished c.guarded s :=
  c.endAnswer_eq_answer i _ finished.reply (finished.outcome.report c.request.address)

theorem endReady_eq_enter {service : Service ι σ κ} {call : PreparedCall ι κ}
    (bound : s.server.service? call.service = some service) (argument : Argument ι)
    (token : Token) :
    c.endReady i { call with argument } token
        (s.onConnection (·.log i [.calling c.request.address c.request.seq])) =
      service.enter (Station.surroundings i) i c.request call argument token c.guarded s := by
  let place : Place :=
    ⟨i, service.name, token, argument.held.pending?, service.locksFor call.method⟩
  let script := service.invoke call.method call.client argument call.reply
  let ready := s.onConnection (·.log i [.calling c.request.address c.request.seq])
  let given : PreparedCall ι κ := { call with argument }
  have bound_given : ready.server.service? given.service = some service := bound
  have invoked : ready.invoke i given token = (place, script) := by
    refine (Station.invoke_of_service bound_given i token).trans ?_
    change ((⟨i, call.service, token, _, _⟩ : Place), script) = (place, script)
    rw [← Server.name_of_service? bound]
  have run : c.endRun i place script (ready.take place) =
      c.endRelease i (script.run (Station.perform place) ready).1
        (script.run (Station.perform place) ready).2 := by
    unfold endRun
    rw [Station.run_take]
    dsimp only
    rw [Station.giveBack_take]
  unfold endReady
  rw [invoked]
  exact run.trans (c.endRelease_eq_conclude i _ _)

/-- **To complete a call on a connection is to serve it.** -/
theorem endAccepted_eq_serve {service : Service ι σ κ} {call : PreparedCall ι κ}
    (bound : s.server.service? call.service = some service) :
    c.endAccepted i call s =
      service.serve (Station.surroundings i) i c.request call c.guarded s := by
  let token := (s.connection.start i c.request.seq).1
  let started : Station ι σ κ := { s with connection := (s.connection.start i c.request.seq).2 }
  obtain ⟨⟨argument, ready⟩, offered⟩ :
    ∃ t, service.offer (Station.surroundings i) call.argument started = t := ⟨_, rfl⟩
  have handed := started.handOver_eq_offer (Server.name_of_service? bound) i c.request
  rw [offered] at handed
  have bound' : ready.server.service? call.service = some service := by
    obtain ⟨es, -, kept⟩ := started.handOver_snd i c.request call
    rw [handed] at kept
    have same := congrArg Station.server kept
    change ready.server = s.server at same
    rw [same]
    exact bound
  have entered : c.endRegistered i call token started =
      service.enter (Station.surroundings i) i c.request call argument token c.guarded ready := by
    unfold endRegistered
    rw [handed]
    exact c.endReady_eq_enter i ready bound' argument token
  have served : service.serve (Station.surroundings i) i c.request call c.guarded s =
      service.enter (Station.surroundings i) i c.request call argument token c.guarded ready := by
    change (match service.offer (Station.surroundings i) call.argument started with
      | (argument, s) => service.enter (Station.surroundings i) i c.request call argument token
        c.guarded s) = _
    rw [offered]
  exact entered.trans served.symm

end Call

namespace Exchange

variable {x z : Exchange ι σ κ} {r : Request} {guarded : Bool}

/-- A request that is taken in becomes a call, and to complete it is to serve the request. -/
theorem exists_push_of_accept (x : Exchange ι σ κ) (r : Request) (body : Bytes) (client : Client κ)
    (guarded : Bool) :
    let i := x.calls.length
    ∃ (w : Exchange ι σ κ) (phase : Phase ι σ κ),
      (x.accept r body client guarded).2 = w.push r guarded phase ∧ w.calls = x.calls ∧
      phase.IsFirst ∧
      (x.station.taken = [] → x.connection.writer = none → phase.IsClear w.station) ∧
      (Call.complete i ⟨r, guarded, phase⟩ w.station).2 = x.station.server.serve
        (Station.surroundings i) i r body client guarded (x.addGuard guarded).station := by
  intro i
  have prepared := x.station.prepare_eq r body client
  have calls_eq := x.addGuard_calls guarded
  unfold Server.serve
  cases h : x.station.server.prepare r body client with
  | error e =>
    rw [h] at prepared
    refine ⟨_, _, congrArg Prod.snd (accept_of_prepare_error prepared guarded), calls_eq, trivial,
      ?_, ?_⟩
    · intro _ unwritten
      exact (Connection.silent_log _ _ _).writer.trans ((x.addGuard_writer guarded).trans unwritten)
    · let c : Call ι σ κ := ⟨r, guarded, .answering .empty e.message⟩
      exact c.endAnswer_eq_answer i _ .empty e.message
  | ok found =>
    obtain ⟨service, call⟩ := found
    rw [h] at prepared
    refine ⟨_, _, congrArg Prod.snd (accept_of_prepare prepared guarded), calls_eq, trivial, ?_, ?_⟩
    · intro unlocked unwritten
      refine ⟨?_, (x.addGuard_writer guarded).trans unwritten⟩
      rw [addGuard_taken, unlocked]
      exact List.not_mem_nil
    · have bound : (x.addGuard guarded).station.server.service? call.service = some service := by
        rw [addGuard_server]
        exact Server.service?_of_prepare h
      let c : Call ι σ κ := ⟨r, guarded, .accepted call⟩
      exact c.endAccepted_eq_serve i (x.addGuard guarded).station bound

/-- A request that is taken in and takes its turns alone is served as it was read. -/
theorem endsAlone_accept (x : Exchange ι σ κ) (r : Request) (body : Bytes) (client : Client κ)
    (guarded : Bool) :
    let i := x.calls.length
    let y := (x.accept r body client guarded).2
    (x.station.taken = [] → x.connection.writer = none → ∃ z, y.EndsAlone i z) ∧
    ∀ z, y.EndsAlone i z → z.station = x.station.server.serve (Station.surroundings i) i r body
      client guarded (x.addGuard guarded).station := by
  intro i y
  obtain ⟨w, phase, hy, same, first, clear, completed⟩ :=
    x.exists_push_of_accept r body client guarded
  obtain ⟨exists_end, ended⟩ := w.endsAlone_push r guarded first
  rw [same] at exists_end ended
  change y = _ at hy
  rw [hy]
  exact ⟨fun unlocked unwritten => exists_end (clear unlocked unwritten).ends,
    fun z alone => (ended z alone).trans completed⟩

theorem station_serveCall {service : Service ι σ κ} {call : PreparedCall ι κ}
    (bound : x.station.server.service? call.service = some service) :
    (x.serveCall r call guarded).station = service.serve (Station.surroundings x.calls.length)
      x.calls.length r call guarded (x.addGuard guarded).station := by
  have calls_eq := x.addGuard_calls guarded
  unfold serveCall
  rw [← calls_eq, station_complete_push]
  rw [← x.addGuard_server guarded] at bound
  let c : Call ι σ κ := ⟨r, guarded, .accepted call⟩
  exact c.endAccepted_eq_serve _ (x.addGuard guarded).station bound

/-- **The course of every call.** Whatever serves it, whatever holders it came with, whether there is
such a method or not and however its body ends: a call starts its number, it may have the pending
table put into its argument, it runs its body or does not, it releases its number, and then it sends
its response, has the request forgotten and drops its guard, each once and in this order. For a
request that cannot be routed or decoded only the last three are done, and the response is empty but
for the error. So it is on a connection, where a call that takes its turns alone is served in this
way. -/
theorem course_of_serving (x : Exchange ι σ κ) (r : Request) (guarded : Bool) :
    let i := x.calls.length
    (∀ {S : Type} (w : Surroundings ι σ S) (s : S),
      (∀ (service : Service ι σ κ) (call : PreparedCall ι κ), ∃ argument ran finished,
        argument.held.type = call.argument.held.type ∧
        service.Performs w call.method call.client argument call.reply ran finished ∧
        service.serve w.recording i r call guarded (s, []) =
          (service.serve w i r call guarded s,
            .started r.seq :: (service.injection call.argument ++ (ran.map .acted ++
              .canceled r.seq :: closing r finished.reply (finished.outcome.report r.address)
                guarded)))) ∧
      ∀ (server : Server ι σ κ) body (client : Client κ) e,
        server.prepare r body client = .error e →
        server.serve w.recording i r body client guarded (s, []) =
          (server.serve w i r body client guarded s, closing r .empty e.message guarded)) ∧
    (∀ body client,
      let y := (x.accept r body client guarded).2
      (x.station.taken = [] → x.connection.writer = none → ∃ z, y.EndsAlone i z) ∧
      ∀ z, y.EndsAlone i z → z.station = x.station.server.serve (Station.surroundings i) i r body
        client guarded (x.addGuard guarded).station) ∧
    ∀ (service : Service ι σ κ) (call : PreparedCall ι κ),
      x.station.server.service? call.service = some service →
      (x.serveCall r call guarded).station = service.serve (Station.surroundings i) i r call
        guarded (x.addGuard guarded).station := by
  intro i
  refine ⟨fun w s => ⟨fun service call => service.serve_recording w s [] i r call guarded, ?_⟩,
    fun body client => x.endsAlone_accept r body client guarded,
    fun service call => station_serveCall⟩
  intro server body client e h
  unfold Server.serve
  rw [h]
  exact w.reject_recording s [] r e guarded

/-- A request without a method, alone on a connection. -/
theorem course_of_serving_nowhere :
    let x : Exchange Empty Unit Empty := new .bare ⟨0⟩
    let r : Request := ⟨"nowhere", 3⟩
    ∃ e z, Server.bare.prepare r [] .none = .error e ∧ (x.accept r [] .none true).2.EndsAlone 0 z ∧
      Server.bare.serve (Station.surroundings 0).recording 0 r [] .none true
        ((x.addGuard true).station, []) =
          (z.station, [.sent r .empty e.message, .freed r, .guardDropped]) ∧
      ∃ service, Server.bare.service? CancelService.name = some service ∧
        (x.serveCall r (.cancel ⟨9, none⟩ .none) true).station =
          service.serve (Station.surroundings 0) 0 r (.cancel ⟨9, none⟩ .none) true
            (x.addGuard true).station := by
  intro x r
  obtain ⟨written, alone, prepared⟩ := course_of_serving x r true
  obtain ⟨⟨z, ends⟩, served⟩ := (alone [] .none).imp_left fun exists_end => exists_end rfl rfl
  obtain ⟨state, bound⟩ := (Server.Built.new : Server.bare.Built {}).offersCancel rfl
  have unroutable : (Server.bare.prepare r [] .none).toOption.isNone = true := by decide +kernel
  cases h : Server.bare.prepare r [] .none with
  | ok found =>
    rw [h] at unroutable
    cases unroutable
  | error e =>
    refine ⟨e, z, rfl, ends, ?_, _, bound, prepared _ _ bound⟩
    rw [served z ends]
    exact (written _ _).2 Server.bare [] .none e h

end Exchange

end Connection

end Switchboard
