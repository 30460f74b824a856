import Switchboard.Proofs.Registration

/-!
# Calling a receiver behind a mutex

Behind a mutex a receiver serves all that it lists for the convention: methods that share it and
methods that need it for themselves alone compete for their names in one catalog, and the lock gives
either kind the state. What such a service answers is told here by the receiver alone.
`Receiver.answer` knows no catalog, no methods and no holders. It looks for the last candidate of
the name in the list of the receiver and runs the body of that on the receiver's state; what the
caller has of it is written out for each way in which a body ends.

`Service.answer` is what the caller has of a call, and `inTurn` makes calls one after the other,
each on the state that the calls before it have left.

Results:

* `Receiver.body?_eq_some_iff`: which body a name leads to.
* `Catalog.find?_ofCandidates_of_shared`: the catalog leads there, if no candidate is left out of it
  for its kind.
* `Service.answer_of_runs`: a call that gets as far as a body leaves what the body leaves.
* `Service.answer_of_becomes`: a call that finds its method is the method's body on bare values.
* `Service.answers_eq`: calls in turn come to what the receiver says of them.
* `Service.behindMutex_exact`: so it is behind a mutex, for whatever the receiver lists, and in the
  open, for what it lists that shares it.
-/

namespace Switchboard

/-! ## Steps in turn -/

section InTurn

variable {α β S T : Type}

/-- Takes a step for each element, one after the other, and gives the answers. -/
def inTurn (step : α → S → β × S) : List α → S → List β × S
  | [], s => ([], s)
  | a :: as, s =>
    let (b, s) := step a s
    let (bs, s) := inTurn step as s
    (b :: bs, s)

/-- What one step has in common with another, all in turn have in common. -/
theorem inTurn_of_commutes {step : α → S → β × S} {step' : α → T → β × T} (f : S → T)
    (commutes : ∀ a s, step' a (f s) = ((step a s).1, f (step a s).2)) (as : List α) (s : S) :
    inTurn step' as (f s) = ((inTurn step as s).1, f (inTurn step as s).2) := by
  induction as generalizing s with
  | nil => rfl
  | cons a as ih =>
    unfold inTurn
    rw [commutes]
    dsimp only
    rw [ih]

end InTurn

variable {ι σ κ : Type} [MessageFamily ι]

/-! ## Calls and answers -/

/-- A call on the caller's thread, with all that the caller brings. -/
structure DirectCall (ι κ : Type) [MessageFamily ι] where
  /-- Whether the caller's token is canceled. -/
  canceled : Bool
  client : Client κ
  address : String
  argument : Held ι
  /-- What the caller's reply variable holds. -/
  reply : Held ι

/-- What the caller has of a call. -/
structure DirectAnswer (ι : Type) [MessageFamily ι] where
  outcome : Outcome
  /-- What the caller's reply variable holds now. -/
  reply : Held ι
  journal : List Effect

/-- Makes a call; gives the answer and the service afterwards. -/
def Service.answer (service : Service ι σ κ) (call : DirectCall ι κ) :
    DirectAnswer ι × Service ι σ κ :=
  let report := service.call call.canceled call.client call.address call.argument call.reply
  (⟨report.outcome, report.reply, report.journal⟩, report.service)

namespace DirectCall

/-- The answer to a call that runs nothing. -/
def refused (call : DirectCall ι κ) (e : CallError) : DirectAnswer ι :=
  ⟨.failed e, call.reply, []⟩

end DirectCall

/-- What the reply variable holds in the end, if this is in it when the body ends: a panic leaves no
time to move the reply back. -/
def Ending.keep (ending : Ending) (left : Held ι) : Held ι :=
  match ending with
  | .panicked _ => .zero left.type
  | _ => left

/-- The body on the values that the caller brings, if they are of its types. What the caller has of
it is the body's own result: success, its error, or its panic. -/
def Implementation.answer (i : Implementation ι σ κ) (name : String) (call : DirectCall ι κ)
    (state : σ) : DirectAnswer ι × σ :=
  match call.argument.as? i.argument, call.reply.as? i.reply with
  | none, _ => (call.refused (.holder (.argumentType name i.argument.typeName)), state)
  | some _, none => (call.refused (.holder (.replyType name i.reply.typeName)), state)
  | some a, some r =>
    let ended := (i.body call.client a r).run Desk.perform
      ⟨state, call.canceled, call.argument.pending?, [.entered]⟩
    let (left, ending) := ended.1
    -- The result is the body's own, not what an invocation would report of the ending.
    let result : Outcome :=
      match ending with
      | .ok => .ok
      | .failed text => .failed (.method text)
      | .panicked payload => .panicked payload
    (⟨result, ending.keep ⟨i.reply, left⟩, ended.2.journal⟩, ended.2.receiver)

namespace Receiver

/-- The last candidate of a name that conforms, of whatever kind. -/
def lastConforming? (r : Receiver ι σ κ) (name : String) : Option (Candidate ι σ κ) :=
  r.candidates.reverse.find? fun c => c.name = name && c.exclusion?.isNone

/-- The body of that candidate. -/
def body? (r : Receiver ι σ κ) (name : String) : Option (Implementation ι σ κ) :=
  (r.lastConforming? name).bind Candidate.implementation?

/-- A call to the receiver, registered as `serviceName` and in the given state. -/
def answer (r : Receiver ι σ κ) (serviceName : String) (call : DirectCall ι κ) (state : σ) :
    DirectAnswer ι × σ :=
  match Address.parse call.address with
  | .error e => (call.refused (.address e), state)
  | .ok a =>
    if a.service ≠ serviceName then
      (call.refused (.address (.unknownService call.address)), state)
    else
      match r.body? a.method with
      | none => (call.refused (.address (.unknownMethod call.address)), state)
      | some i => i.answer a.method call state

variable {r : Receiver ι σ κ} {name : String}

/-- That a candidate is the last of its name to conform, said of the list from its front. -/
theorem lastConforming?_eq_some_iff {c : Candidate ι σ κ} : r.lastConforming? name = some c ↔
    ∃ before after, r.candidates = before ++ c :: after ∧ c.name = name ∧ c.Conforms ∧
      ∀ d ∈ after, d.name = name → ¬d.Conforms := by
  unfold lastConforming?
  simp only [List.find?_eq_some_iff_append, Bool.and_eq_true, decide_eq_true_eq,
    Option.isNone_iff_eq_none, Candidate.exclusion?_eq_none_iff, Bool.not_eq_true',
    ← Bool.not_eq_true, not_and]
  constructor
  · rintro ⟨⟨hname, conforms⟩, later, earlier, hsplit, hlater⟩
    refine ⟨earlier.reverse, later.reverse, ?_, hname, conforms, ?_⟩
    · rw [← List.reverse_reverse r.candidates, hsplit]
      simp
    · intro d hd
      exact hlater d (List.mem_reverse.1 hd)
  · rintro ⟨before, after, hsplit, hname, conforms, hafter⟩
    refine ⟨⟨hname, conforms⟩, after.reverse, before.reverse, ?_, ?_⟩
    · rw [hsplit]
      simp
    · intro d hd
      exact hafter d (List.mem_reverse.1 hd)

/-- **A name leads to the body of the last candidate of that name that conforms.** -/
theorem body?_eq_some_iff {i : Implementation ι σ κ} : r.body? name = some i ↔
    ∃ before c after, r.candidates = before ++ c :: after ∧ c.name = name ∧ c.Conforms ∧
      c.work = .written i ∧ ∀ d ∈ after, d.name = name → ¬d.Conforms := by
  unfold body?
  simp only [Option.bind_eq_some_iff, lastConforming?_eq_some_iff]
  have written (c : Candidate ι σ κ) : c.implementation? = some i ↔ c.work = .written i := by
    unfold Candidate.implementation?
    cases c.work <;> simp
  constructor
  · rintro ⟨c, ⟨before, after, hsplit, hname, conforms, hafter⟩, hwork⟩
    exact ⟨before, c, after, hsplit, hname, conforms, (written c).1 hwork, hafter⟩
  · rintro ⟨before, c, after, hsplit, hname, conforms, hwork, hafter⟩
    exact ⟨c, ⟨before, after, hsplit, hname, conforms, hafter⟩, (written c).2 hwork⟩

/-- A mutex does not change where a name leads. -/
theorem body?_behindMutex (r : Receiver ι σ κ) : r.behindMutex.body? = r.body? := by
  funext name
  unfold body? lastConforming? behindMutex
  rw [← List.map_reverse, List.find?_map, Option.bind_map]
  rfl

theorem answer_behindMutex (r : Receiver ι σ κ) : r.behindMutex.answer = r.answer := by
  funext serviceName call state
  unfold answer
  rw [body?_behindMutex]

end Receiver

/-! ## One call -/

/-- **In the catalog of a receiver a name leads to that body**, if no candidate is left out of it for
its kind alone. -/
theorem Catalog.find?_ofCandidates_of_shared {r : Receiver ι σ κ}
    (shared : ∀ c ∈ r.candidates, c.Conforms → c.kind = .shared) (name : String) :
    (ofCandidates r.candidates).find? name = (r.body? name).map (·.listed name) := by
  ext m
  rw [find?_ofCandidates_iff, Option.map_eq_some_iff]
  simp only [Receiver.body?_eq_some_iff]
  constructor
  · rintro ⟨before, c, after, i, hsplit, hname, served, rfl, hafter⟩
    have conforms := served.conforms
    refine ⟨i, ⟨before, c, after, hsplit, hname, conforms, served.written, ?_⟩, rfl⟩
    intro d hd hname conforms
    have hshared := shared d (by simp [hsplit, hd]) conforms
    obtain ⟨j, hserved⟩ := Candidate.exists_isServed_iff.2 ⟨conforms, hshared⟩
    exact hafter d hd hname j hserved
  · rintro ⟨i, ⟨before, c, after, hsplit, hname, conforms, hwork, hafter⟩, rfl⟩
    have hshared := shared c (by simp [hsplit]) conforms
    refine ⟨before, c, after, i, hsplit, hname,
      Candidate.isServed_iff.2 ⟨conforms, hshared, hwork⟩, rfl, ?_⟩
    intro d hd hname j hserved
    exact hafter d hd hname hserved.conforms

namespace Service

variable {service : Service ι σ κ} {call : DirectCall ι κ} {m : Method ι σ κ}

theorem answer_of_error {e : AddressError} (lost : service.lookup call.address = .error e) :
    service.answer call = (call.refused (.address e), service) := by
  unfold answer Service.call
  rw [lost]
  rfl

/-- What the reply variable of a caller holds who gets back what is left of an invocation. -/
def kept (finished : Finished ι) (type : MessageType ι) : Held ι :=
  match finished.outcome, finished.reply.as? type with
  | .panicked _, _ | _, none => .zero type
  | _, some value => ⟨type, value⟩

theorem answer_of_run {finished : Finished ι} {desk : Desk σ}
    (found : service.lookup call.address = .ok m)
    (ran : (m.invoke call.client (.ofHeld call.argument) (.ofHeld call.reply)).run Desk.perform
      ⟨service.receiver, call.canceled, call.argument.pending?, []⟩ = (finished, desk)) :
    service.answer call = (⟨finished.outcome, kept finished call.reply.type, desk.journal⟩,
      service.withState desk.receiver) := by
  unfold answer Service.call runScript
  rw [found]
  dsimp only
  rw [ran]
  unfold kept
  dsimp only
  cases finished.reply.as? call.reply.type <;> cases finished.outcome <;> rfl

/-- A method that refuses a holder leaves the caller what there was. -/
theorem answer_of_refused {left : Argument ι} {e : CallError}
    (found : service.lookup call.address = .ok m)
    (script_eq : m.invoke call.client (.ofHeld call.argument) (.ofHeld call.reply) =
      .done ⟨left, .ofHeld call.reply, .failed e⟩) :
    service.answer call = (call.refused e, service) := by
  have seen : (Reply.ofHeld call.reply).as? call.reply.type = some call.reply.value :=
    Held.as?_self _ _
  rw [answer_of_run found (congrArg (Script.run Desk.perform · _) script_eq)]
  unfold kept Script.run
  rw [seen]
  rfl

/-- The call gets as far as the body of a method, on the argument `a` and the reply `r`. -/
structure Runs (service : Service ι σ κ) (call : DirectCall ι κ) (m : Method ι σ κ)
    (a : m.implementation.argument.Carrier) (r : m.implementation.reply.Carrier) : Prop where
  found : service.lookup call.address = .ok m
  specials : m.implementation.takesSpecials = true
  argument_eq : call.argument = ⟨m.implementation.argument, a⟩
  reply_eq : call.reply = ⟨m.implementation.reply, r⟩

/-- The desk at which a body begins that the call runs. -/
def entered (service : Service ι σ κ) (call : DirectCall ι κ) : Desk σ :=
  ⟨service.receiver, call.canceled, call.argument.pending?, [.entered]⟩

/-- The caller keeps what the body left, unless it panicked, whatever becomes of its result. -/
theorem kept_body (i : Implementation ι σ κ) (name : String) (argument : Argument ι)
    (left : i.reply.Carrier) (ending : Ending) :
    kept ⟨argument, ⟨i.reply, ⟨i.reply, left⟩⟩, i.outcome name ending⟩ i.reply =
      ending.keep ⟨i.reply, left⟩ := by
  unfold kept Reply.as? Implementation.outcome
  rw [Held.as?_self]
  by_cases result : i.types.result = resultType.name
  · simp only [if_pos result]
    cases ending <;> rfl
  · simp only [if_neg result]
    cases ending <;> rfl

/-- **A call that gets as far as a body** leaves what the body leaves, on the caller's desk. -/
theorem answer_of_runs {a : m.implementation.argument.Carrier} {r : m.implementation.reply.Carrier}
    (runs : service.Runs call m a r) :
    let ended := (m.implementation.body call.client a r).run Desk.perform (service.entered call)
    service.answer call = (⟨m.implementation.outcome m.name ended.1.2,
      ended.1.2.keep ⟨m.implementation.reply, ended.1.1⟩, ended.2.journal⟩,
      service.withState ended.2.receiver) := by
  intro ended
  obtain ⟨canceled, client, address, argument, reply⟩ := call
  obtain ⟨found, specials, argument_eq, reply_eq⟩ := runs
  obtain rfl : argument = ⟨m.implementation.argument, a⟩ := argument_eq
  obtain rfl : reply = ⟨m.implementation.reply, r⟩ := reply_eq
  have ran : (m.invoke client (.ofHeld ⟨_, a⟩) (.ofHeld ⟨_, r⟩)).run Desk.perform
      ⟨service.receiver, canceled, Held.pending? ⟨_, a⟩, []⟩ =
      (⟨m.implementation.leave (.ofHeld ⟨_, a⟩),
        ⟨m.implementation.reply, ⟨m.implementation.reply, ended.1.1⟩⟩,
        m.implementation.outcome m.name ended.1.2⟩, ended.2) := by
    have hargument : (Argument.ofHeld ⟨m.implementation.argument, a⟩).as?
        m.implementation.argument = some a := Held.as?_self _ _
    have hreply : (Reply.ofHeld ⟨m.implementation.reply, r⟩).as? m.implementation.reply = some r :=
      Held.as?_self _ _
    unfold Method.invoke
    rw [Implementation.invoke_of_fits m.name client specials hargument hreply]
    exact Script.run_bind Desk.perform (m.implementation.body client a r) _ _
  rw [answer_of_run found ran, kept_body]

/-- **A call that finds its method is the method's body on what the caller brings.** -/
theorem answer_of_becomes {c : Candidate ι σ κ} (found : service.lookup call.address = .ok m)
    (becomes : c.Becomes m) :
    service.answer call =
      ((m.implementation.answer m.name call service.receiver).1,
        service.withState (m.implementation.answer m.name call service.receiver).2) := by
  unfold Implementation.answer
  rcases becomes.invoke_cases call.client (.ofHeld call.argument) (.ofHeld call.reply) with
    ⟨misfit, script_eq⟩ | ⟨fits, misfit, script_eq⟩ | ⟨a, r, argument_eq, reply_eq, script_eq⟩
  · rw [answer_of_refused found script_eq,
      show call.argument.as? m.implementation.argument = none from Held.as?_eq_none_iff.2 misfit]
    rfl
  · rw [answer_of_refused found script_eq,
      show call.reply.as? m.implementation.reply = none from Held.as?_eq_none_iff.2 misfit]
    cases viewed : call.argument.as? m.implementation.argument with
    | none => exact absurd fits (Held.as?_eq_none_iff.1 viewed)
    | some a => rfl
  · have runs : service.Runs call m a r := ⟨found, becomes.takesSpecials, argument_eq, reply_eq⟩
    have hargument : call.argument.as? m.implementation.argument = some a :=
      Held.as?_eq_some_iff.2 argument_eq
    have hreply : call.reply.as? m.implementation.reply = some r := Held.as?_eq_some_iff.2 reply_eq
    rw [answer_of_runs runs, becomes.outcome_eq, hargument, hreply]
    unfold entered
    dsimp only
    generalize (m.implementation.body call.client a r).run Desk.perform _ = ended
    obtain ⟨⟨left, ending⟩, desk⟩ := ended
    -- What is reported of each ending is the result written for it.
    cases ending with
    | ok => rfl
    | failed text => rfl
    | panicked payload => rfl

/-- **A call comes to what the receiver says of it**, if no candidate of the receiver is left out of
the catalog for its kind. -/
theorem answer_eq {r : Receiver ι σ κ} (listed : service.catalog = .ofCandidates r.candidates)
    (shared : ∀ c ∈ r.candidates, c.Conforms → c.kind = .shared) (call : DirectCall ι κ) :
    service.answer call = ((r.answer service.name call service.receiver).1,
      service.withState (r.answer service.name call service.receiver).2) := by
  unfold Receiver.answer
  cases hparse : Address.parse call.address with
  | error e => exact answer_of_error (by unfold lookup; rw [hparse])
  | ok a =>
    dsimp only
    split
    · next hother => exact answer_of_error (lookup_of_parse hparse hother)
    · next hown =>
      have hlookup := lookup_of_parse_own hparse (Decidable.not_not.1 hown)
      have hmethod : service.method? a.method = (r.body? a.method).map (·.listed a.method) := by
        unfold method?
        rw [listed, Catalog.find?_ofCandidates_of_shared shared]
      rw [hmethod] at hlookup
      cases hbody : r.body? a.method with
      | none =>
        rw [hbody] at hlookup
        exact answer_of_error hlookup
      | some i =>
        rw [hbody] at hlookup hmethod
        unfold method? at hmethod
        rw [listed] at hmethod
        obtain ⟨c, -, becomes⟩ := Catalog.exists_candidate hmethod
        exact answer_of_becomes hlookup becomes

/-! ## Calls in turn -/

/-- Makes calls in turn. -/
def answers (service : Service ι σ κ) (calls : List (DirectCall ι κ)) :
    List (DirectAnswer ι) × Service ι σ κ :=
  inTurn (fun call service => service.answer call) calls service

end Service

/-- Calls to the receiver in turn. -/
def Receiver.answers (r : Receiver ι σ κ) (serviceName : String) (calls : List (DirectCall ι κ))
    (state : σ) : List (DirectAnswer ι) × σ :=
  inTurn (r.answer serviceName) calls state

namespace Service

/-- **Calls in turn come to what the receiver says of them**, if the service was built for it and
none of its candidates is left out for its kind. -/
theorem answers_eq {service : Service ι σ κ} {r : Receiver ι σ κ} {name? : Option String}
    {report : Bool} (built : (build r name? report).2 = .ok service)
    (shared : ∀ c ∈ r.candidates, c.Conforms → c.kind = .shared) (calls : List (DirectCall ι κ)) :
    service.answers calls = ((r.answers service.name calls r.initial).1,
      service.withState (r.answers service.name calls r.initial).2) := by
  obtain ⟨-, -, service_eq⟩ := build_eq_ok_iff.1 built
  have commutes (call : DirectCall ι κ) (state : σ) :
      (service.withState state).answer call = ((r.answer service.name call state).1,
        service.withState (r.answer service.name call state).2) := by
    have listed : (service.withState state).catalog = .ofCandidates r.candidates :=
      congrArg catalog service_eq
    exact answer_eq listed shared call
  have initial : service.withState r.initial = service := by
    rw [service_eq]
    rfl
  have run : (service.withState r.initial).answers calls =
      ((r.answers service.name calls r.initial).1,
        service.withState (r.answers service.name calls r.initial).2) :=
    inTurn_of_commutes service.withState commutes calls r.initial
  rw [initial] at run
  exact run

/-- **Behind a mutex a receiver does what it lists.** Calls in turn are answered, and leave the state,
as the receiver says: by the last candidate of the name that conforms, of whatever kind. The names
are those of the candidates that conform. If none that is written asks for the receiver for itself
alone, the receiver is built in the open as well and does the same there. -/
theorem behindMutex_exact {r : Receiver ι σ κ} {name? : Option String} {report : Bool}
    {locked : Service ι σ κ} (built : (build r.behindMutex name? report).2 = .ok locked) :
    (∀ calls, locked.answers calls = ((r.answers locked.name calls r.initial).1,
      locked.withState (r.answers locked.name calls r.initial).2)) ∧
    (∀ name, name ∈ locked.catalog.names ↔ ∃ c ∈ r.candidates, c.name = name ∧ c.Conforms) ∧
    ((∀ c ∈ r.candidates, c.kind = .exclusive → c.implementation? = none) →
      ∀ report', ∃ plain, (build r name? report').2 = .ok plain ∧ plain.name = locked.name ∧
        ∀ calls, (plain.answers calls).1 = (locked.answers calls).1 ∧
          (plain.answers calls).2.receiver = (locked.answers calls).2.receiver) := by
  have answers_locked (calls : List (DirectCall ι κ)) :
      locked.answers calls = ((r.answers locked.name calls r.initial).1,
        locked.withState (r.answers locked.name calls r.initial).2) := by
    have lifted : ∀ c ∈ r.behindMutex.candidates, c.Conforms → c.kind = .shared := by
      intro c hc _
      obtain ⟨d, -, rfl⟩ := List.mem_map.1 hc
      rfl
    have h := answers_eq built lifted calls
    unfold Receiver.answers at h ⊢
    rw [r.answer_behindMutex] at h
    exact h
  obtain ⟨named, serves, locked_eq⟩ := build_eq_ok_iff.1 built
  refine ⟨answers_locked, ?_, ?_⟩
  · intro name
    rw [locked_eq, Catalog.mem_names_ofCandidates_iff]
    simp only [Candidate.exists_isServed_iff]
    constructor
    · rintro ⟨_, listed, hname, conforms, -⟩
      obtain ⟨c, hc, rfl⟩ := List.mem_map.1 listed
      exact ⟨c, hc, hname, Candidate.conforms_lift.1 conforms⟩
    · rintro ⟨c, hc, hname, conforms⟩
      exact ⟨c.lift, List.mem_map_of_mem hc, hname, Candidate.conforms_lift.2 conforms, rfl⟩
  · intro noneExclusive report'
    have shared : ∀ c ∈ r.candidates, c.Conforms → c.kind = .shared := by
      intro c hc conforms
      cases hkind : c.kind with
      | shared => rfl
      | exclusive =>
        have written := conforms.written
        rw [noneExclusive c hc hkind] at written
        cases written
    have serves_plain : (Catalog.ofCandidates r.candidates).size ≠ 0 := by
      rw [Ne, Catalog.size_ofCandidates_eq_zero_iff]
      intro none
      refine serves (Catalog.size_ofCandidates_lift_eq_zero_iff.2 fun c hc conforms => ?_)
      exact none c hc ⟨conforms, shared c hc conforms⟩
    have named_plain : r.nameFor name? = .ok locked.name :=
      Receiver.nameFor_eq_ok_iff.2 (Receiver.nameFor_eq_ok_iff (r := r.behindMutex) |>.1 named)
    have plain : (build r name? report').2 = .ok
        ⟨locked.name, .ofCandidates r.candidates, r.initial, r.isLocked⟩ :=
      build_eq_ok_iff.2 ⟨named_plain, serves_plain, rfl⟩
    refine ⟨_, plain, rfl, fun calls => ?_⟩
    rw [answers_eq plain shared, answers_locked]
    exact ⟨rfl, rfl⟩

end Service

/-! ## Counting -/

/-- Three candidates of one name. The second one adds to the state, the third does not conform. -/
def Receiver.tally (kind : ReceiverKind) : Receiver Empty Nat Empty :=
  let keep : Body Empty Nat Empty .unit .bool := fun _ _ r => pure (r, .ok)
  let add : Body Empty Nat Empty .unit .bool :=
    fun _ _ _ => .act (.receiver (· + 1)) fun _ => pure (true, .ok)
  { typeName := "app::Tally"
    candidates := [.byPointer "app::Tally" "Add" keep,
      { Candidate.byPointer "app::Tally" "Add" add with kind },
      .byPointer "app::Tally" "Add" keep { client := "()" }]
    initial := 0 }

/-- A call of that name. -/
def DirectCall.add : DirectCall Empty Empty :=
  ⟨false, .none, "Tally.Add", .zero .unit, .zero .bool⟩

/-- Behind a mutex the second candidate answers, also if it asks for the receiver for itself alone;
and if it does not, the receiver counts in the open as well. -/
theorem Service.behindMutex_exact_tally :
    (∃ locked, (build (Receiver.tally .exclusive).behindMutex none true).2 = .ok locked ∧
      (locked.answers [.add, .add]).2.receiver = 2 ∧ "Add" ∈ locked.catalog.names) ∧
    ∃ locked plain, (build (Receiver.tally .shared).behindMutex none true).2 = .ok locked ∧
      (build (Receiver.tally .shared) none false).2 = .ok plain ∧
      (plain.answers [.add, .add]).1 = (locked.answers [.add, .add]).1 ∧
      (plain.answers [.add, .add]).2.receiver = 2 := by
  have exists_built (kind : ReceiverKind) : ∃ locked,
      (build (Receiver.tally kind).behindMutex none true).2 = .ok locked ∧
        locked.name = "Tally" := by
    have build_ok : (build (Receiver.tally kind).behindMutex none true).2.toOption.any
        (·.name = "Tally") := by
      cases kind <;> decide +kernel
    cases built : (build (Receiver.tally kind).behindMutex none true).2 with
    | error e =>
      rw [built] at build_ok
      cases build_ok
    | ok locked =>
      rw [built] at build_ok
      exact ⟨locked, rfl, of_decide_eq_true build_ok⟩
  have counted (kind : ReceiverKind) :
      ((Receiver.tally kind).answers "Tally" [.add, .add] 0).2 = 2 := by
    cases kind <;> decide +kernel
  obtain ⟨locked, built, named⟩ := exists_built .exclusive
  obtain ⟨locked', built', named'⟩ := exists_built .shared
  obtain ⟨answered, names, -⟩ := behindMutex_exact built
  obtain ⟨answered', -, agree⟩ := behindMutex_exact built'
  obtain ⟨plain, built_plain, -, same⟩ := agree (by decide +kernel) false
  refine ⟨⟨locked, built, ?_, (names "Add").2 ?_⟩, locked', plain, built', built_plain,
    (same _).1, ?_⟩
  · rw [answered, named]
    exact counted .exclusive
  · refine ⟨_, List.mem_cons_self, rfl, ?_⟩
    rw [← Candidate.exclusion?_eq_none_iff]
    decide +kernel
  · rw [(same _).2, answered', named']
    exact counted .shared

end Switchboard
