import Switchboard.Proofs.Connection.Alone
import Switchboard.Proofs.Connection.Heading
import Switchboard.Proofs.Connection.Lifetime

/-!
# Two ways to call a method

A method can be called on the caller's thread, with values and the caller's own reply, or by a
request on a connection, with bytes. The two build their holders differently, look the method up by
different functions, run the body on different tokens and report its ending differently. They agree:
the response to the request has the reply and the text that go with what the direct call leaves, and
the receiver ends up in the same state.

The request becomes a call that is heading for the result of the direct call. Its own turns keep
that, and so do the turns of others that leave alone what it runs on: the receiver and the token.

Results:

* `Exchange.Heading.follow`: a call that is left alone goes on heading for its result.
* `Exchange.transport_agrees`: a request is answered by what the direct call leaves.
-/

namespace Switchboard

variable {ι σ κ : Type} [MessageFamily ι]

namespace Method

/-- A body that decodes to `v` fills a fresh argument with it. -/
theorem decode_makeArgument (m : Method ι σ κ) {v : m.implementation.argument.Carrier}
    {body : Bytes} (decoded : m.implementation.argument.decode body = .ok v) :
    m.makeArgument.decode body = .ok { m.makeArgument with held := ⟨_, v⟩ } := by
  rw [makeArgument_eq, Argument.decode]
  dsimp only
  rw [decoded]

/-- A request for the method with the argument `v`, prepared. -/
def called (m : Method ι σ κ) (service : Service ι σ κ) (v : m.implementation.argument.Carrier)
    (client : Client κ) : PreparedCall ι κ :=
  ⟨service.name, m.name, { m.makeArgument with held := ⟨_, v⟩ }, m.makeReply, client⟩

end Method

namespace Exchange

variable [Inhabited σ] {x y z : Exchange ι σ κ} {i : CallId} {r : Request} {guarded : Bool}

/-! ## Calls that are left alone -/

/-- Going from `x` to `y` leaves alone what call `i` with the number `seq` runs on: the service of
this name with the state of its receiver, and the call's token or, before it has one, its number. -/
structure LeavesAlone (i : CallId) (name : String) (seq : UInt64) (x y : Exchange ι σ κ) :
    Prop where
  service : y.station.server.service? name = x.station.server.service? name
  unbound : x.connection.pending.token? seq = none → y.connection.pending.token? seq = none
  token : ∀ t, x.tableView.held i = some (seq, t) →
    y.connection.pending.tokens.isCanceled t = x.connection.pending.tokens.isCanceled t

/-- All choices of the schedule are turns of call `i`, or leave alone what the call runs on. -/
def Undisturbed (i : CallId) (name : String) (seq : UInt64) :
    Exchange ι σ κ → List (Choice ι κ) → Prop
  | _, [] => True
  | x, m :: ms => ∀ y, x.choose m = some y →
    ((∃ expired, m = .call i expired) ∨ LeavesAlone i name seq x y) ∧ Undisturbed i name seq y ms

/-- A call that has the exchange to itself is left alone. -/
theorem undisturbed_turns (x : Exchange ι σ κ) (i : CallId) (name : String) (seq : UInt64)
    (turns : List Bool) : Undisturbed i name seq x (turns.map (.call i)) := by
  induction turns generalizing x with
  | nil => trivial
  | cons expired turns ih => exact fun y _ => ⟨.inl ⟨expired, rfl⟩, ih y⟩

theorem Undisturbed.left {name : String} {seq : UInt64} {before after : List (Choice ι κ)}
    (h : Undisturbed i name seq x (before ++ after)) : Undisturbed i name seq x before := by
  induction before generalizing x with
  | nil => trivial
  | cons m before ih => exact fun y hy => ⟨(h y hy).1, ih (h y hy).2⟩

/-- What a call runs on is all that decides what it is heading for. -/
theorem heads_of_leavesAlone {phase : Phase ι σ κ} {result : Result ι σ κ}
    (hnext : x.Next y) (here : x.calls[i]? = some ⟨r, guarded, phase⟩)
    (alone : LeavesAlone i result.service.name r.seq x y) (hp : phase.Heads x.station r result) :
    phase.Heads y.station r result := by
  have hmade {t : Token} (made : x.connection.pending.tokens.Made t) :
      y.connection.pending.tokens.Made t :=
    TableView.made_step (step_tableView_of_next hnext) made
  have htoken {t : Token} (ht : phase.token? = some t) :
      y.connection.pending.tokens.isCanceled t = x.connection.pending.tokens.isCanceled t := by
    refine alone.token t ((held_of_getElem? here).trans ?_)
    rw [ht]
    rfl
  cases phase with
  | accepted call =>
    obtain ⟨ordinary, ungranted, unbound, foretold⟩ := hp
    exact ⟨ordinary, ungranted, alone.unbound unbound, foretold.congr alone.service⟩
  | registered call token =>
    obtain ⟨ordinary, ungranted, made, foretold⟩ := hp
    have hsame := htoken (t := token) rfl
    exact ⟨ordinary, ungranted, hmade made, hsame ▸ foretold.congr alone.service⟩
  | ready call token =>
    obtain ⟨ungranted, made, foretold⟩ := hp
    have hsame := htoken (t := token) rfl
    exact ⟨ungranted, hmade made, hsame ▸ foretold.congr alone.service⟩
  | running place rest =>
    obtain ⟨ungranted, made, foretold⟩ := hp
    have hsame := htoken (t := place.token) rfl
    exact ⟨ungranted, hmade made, hsame ▸ foretold.congr alone.service⟩
  | flagging place victim rest => exact hp.elim
  | _ => exact ⟨alone.service.trans hp.1, hp.2⟩

/-- A choice that is no turn of call `i` sends nothing for it. -/
theorem answers_of_other {m : Choice ι κ} (h : x.choose m = some y)
    (other : ∀ expired, m ≠ .call i expired) :
    y.connection.answers i = x.connection.answers i := by
  rcases turn_or_arrival h with ⟨j, expired, rfl⟩ | ⟨-, request, guarded, phase, -, hcalls⟩
  · obtain ⟨c, phase, -, moves, -⟩ := exists_of_step h
    rcases moves.responses with hresponses | ⟨f, -, hresponses⟩
    · exact Connection.answers_congr hresponses i
    · have hj : j ≠ i := fun hji => other expired (hji ▸ rfl)
      have hanswers := Connection.answers_append (i := i) hresponses
      rw [if_neg hj, List.append_nil] at hanswers
      exact hanswers
  · have hlength := congrArg List.length hcalls
    cases next_of_choose h with
    | arrive request guarded phase events first =>
      exact Connection.answers_congr (x.responses_arrive guarded x.calls.length events) i
    | move here moves =>
      rw [List.length_set, List.length_append, List.length_singleton] at hlength
      exact absurd hlength (Nat.ne_of_lt (Nat.lt_succ_self _))

/-! ## Going on undisturbed -/

/-- Call `i` is heading for `result`, and what it has sent and is going to send is `sent`. -/
def Heading (x : Exchange ι σ κ) (i : CallId) (r : Request) (guarded : Bool)
    (result : Result ι σ κ) (sent : List Frame) : Prop :=
  ∃ phase, x.calls[i]? = some ⟨r, guarded, phase⟩ ∧ phase.Heads x.station r result ∧
    x.connection.answers i ++
      phase.due (r.compose result.reply (result.outcome.report r.address)).2 = sent

theorem Heading.choose {result : Result ι σ κ} {sent : List Frame} {m : Choice ι κ}
    (h : x.Heading i r guarded result sent) (hy : x.choose m = some y)
    (alone : (∃ expired, m = .call i expired) ∨ LeavesAlone i result.service.name r.seq x y) :
    y.Heading i r guarded result sent := by
  obtain ⟨phase, here, hp, hsent⟩ := h
  by_cases own : ∃ expired, m = .call i expired
  · obtain ⟨expired, rfl⟩ := own
    obtain ⟨phase', hcall, moves⟩ := moves_of_turn hy here
    refine ⟨phase', hcall, moves.heads hp, (moves.answers_due ?_).trans hsent⟩
    rintro frame? rest rfl
    obtain ⟨-, finished, hreply, houtcome, hframe⟩ := hp
    rw [hframe, Request.response, hreply, houtcome]
  · have other : ∀ expired, m ≠ .call i expired := fun expired heq => own ⟨expired, heq⟩
    have hcall := (getElem?_of_choose hy here).resolve_left own
    refine ⟨phase, hcall, ?_, ?_⟩
    · exact heads_of_leavesAlone (next_of_choose hy) here (alone.resolve_left own) hp
    · rw [answers_of_other hy other]
      exact hsent

theorem Heading.follow {result : Result ι σ κ} {sent : List Frame} {ms : List (Choice ι κ)}
    (h : x.Heading i r guarded result sent) (hz : x.follow ms = some z)
    (alone : Undisturbed i result.service.name r.seq x ms) :
    z.Heading i r guarded result sent := by
  induction ms generalizing x with
  | nil =>
    cases hz
    exact h
  | cons m ms ih =>
    obtain ⟨y, hy, hrest⟩ := Option.bind_eq_some_iff.1 hz
    exact ih (h.choose hy (alone y hy).1) hrest (alone y hy).2

/-- Call `i` brings nothing of its answer out before it hands it over to be sent. -/
theorem exists_handing {ms : List (Choice ι κ)} {phase : Phase ι σ κ}
    (here : x.calls[i]? = some ⟨r, guarded, phase⟩) (hp : phase.isInside = true)
    (hz : x.follow ms = some z) (ended : z.calls[i]? = some ⟨r, guarded, .over⟩) :
    ∃ before expired after w reply error, ms = before ++ .call i expired :: after ∧
      x.follow before = some w ∧ w.calls[i]? = some ⟨r, guarded, .answering reply error⟩ := by
  have left : ¬∃ phase, z.calls[i]? = some ⟨r, guarded, phase⟩ ∧ phase.isInside = true := by
    rintro ⟨phase, hover, hinside⟩
    cases ended.symm.trans hover
    cases hinside
  obtain ⟨before, m, after, w, w', hms, hw, ⟨phase, hcall, hinside⟩, hstep, -, hleft⟩ :=
    exists_leaving (P := fun x => ∃ phase, x.calls[i]? = some ⟨r, guarded, phase⟩ ∧
      phase.isInside = true) ⟨phase, here, hp⟩ hz left
  rcases getElem?_of_choose hstep hcall with ⟨expired, rfl⟩ | same
  · obtain ⟨phase', hcall', moves⟩ := moves_of_turn hstep hcall
    generalize w'.station = s' at moves
    cases moves.outward with
    | silent _ inside _ => exact absurd ⟨phase', hcall', inside⟩ hleft
    | lock reply error free => exact ⟨before, expired, after, w, reply, error, hms, hw, hcall⟩
    | _ => cases hinside
  · exact absurd ⟨phase, same, hinside⟩ hleft

/-! ## Both ways agree -/

/-- On the schedule from `x` to `z` call `i` answers its request by what a direct call has left. -/
structure Delivers (x : Exchange ι σ κ) (i : CallId) (r : Request) (guarded : Bool)
    (report : CallReport ι σ κ) (error : String) (ms : List (Choice ι κ)) (z : Exchange ι σ κ) :
    Prop where
  /-- The text is empty if the direct call has gone well. -/
  ok : report.outcome = .ok → error = ""
  /-- It is the text of the error with which the direct call has failed. -/
  failed : ∀ e, report.outcome = .failed e → error = e.message
  /-- The response is handed over to be sent with this text and the caller's reply. -/
  handed : ∃ before expired after w, ms = before ++ .call i expired :: after ∧
    x.follow before = some w ∧
    w.calls[i]? = some ⟨r, guarded, .answering (.ofHeld report.reply) error⟩
  /-- It is sent, and nothing else is sent for the call. -/
  answers : z.connection.answers i =
    x.connection.answers i ++ [(r.compose (.ofHeld report.reply) error).2]
  /-- The service is as the direct call has left it. -/
  service : z.station.server.service? report.service.name = some report.service

/-- A call that is heading for what a direct call has left delivers that. -/
theorem Heading.delivers {result : Result ι σ κ} {call : PreparedCall ι κ}
    {report : CallReport ι σ κ} {ms : List (Choice ι κ)}
    (here : x.calls[i]? = some ⟨r, guarded, .accepted call⟩)
    (hp : Phase.Heads x.station r result (.accepted call))
    (outcome : report.outcome = result.outcome) (service : report.service = result.service)
    (reply : result.reply = .ofHeld report.reply)
    (hz : x.follow ms = some z)
    (alone : Undisturbed i result.service.name r.seq x ms)
    (ended : z.calls[i]? = some ⟨r, guarded, .over⟩) :
    Delivers x i r guarded report (result.outcome.report r.address) ms z := by
  have hx : x.Heading i r guarded result (x.connection.answers i ++
      [(r.compose result.reply (result.outcome.report r.address)).2]) := ⟨_, here, hp, rfl⟩
  obtain ⟨phase, hover, hheads, hanswers⟩ := hx.follow hz alone
  cases ended.symm.trans hover
  obtain ⟨bound, -⟩ := hheads
  obtain ⟨before, expired, after, w, reply', error, rfl, hw, hcall⟩ :=
    exists_handing here rfl hz ended
  obtain ⟨phase, hcall', hheads, -⟩ := hx.follow hw alone.left
  cases hcall.symm.trans hcall'
  obtain ⟨-, finished, hreply, houtcome, hreply', herror⟩ := hheads
  rw [reply] at hanswers hreply
  refine ⟨?_, ?_, ⟨before, expired, after, w, rfl, hw, ?_⟩, (List.append_nil _).symm.trans hanswers,
    service ▸ bound⟩
  · intro hok
    rw [← outcome, hok]
    rfl
  · intro e hfailed
    rw [← outcome, hfailed]
    rfl
  · rw [hcall, hreply', herror, hreply, houtcome]

omit [Inhabited σ] in
/-- A request for a method of a service becomes a call of it, if its body is an argument. -/
theorem accept_of_method? {service : Service ι σ κ} {m : Method ι σ κ}
    (bound : x.station.server.service? service.name = some service)
    (hm : service.method? m.name = some m) (plain : '.' ∉ m.name.toList)
    {v : m.implementation.argument.Carrier} {body : Bytes}
    (decoded : m.implementation.argument.decode body = .ok v) (seq : UInt64) (client : Client κ)
    (guarded : Bool) :
    x.accept ⟨Address.text ⟨service.name, m.name⟩, seq⟩ body client guarded =
      (.accepted x.calls.length, (x.addGuard guarded).push
        ⟨Address.text ⟨service.name, m.name⟩, seq⟩ guarded
        (.accepted (m.called service v client))) := by
  refine accept_of_prepare ?_ guarded
  unfold Station.prepare
  dsimp only
  rw [Server.resolve_of_method? bound hm plain]
  dsimp only
  rw [m.decode_makeArgument decoded]
  rfl

omit [Inhabited σ] in
/-- A call of a method heads for what its argument comes to. -/
theorem heads_called {s : Station ι σ κ} {service : Service ι σ κ} {m : Method ι σ κ}
    (bound : s.server.service? service.name = some service)
    (ordinary : service.name ≠ CancelService.name) (hm : service.method? m.name = some m)
    {v : m.implementation.argument.Carrier} (ungranted : Held.pending? ⟨_, v⟩ = none)
    (unbound : s.connection.pending.token? r.seq = none) (client : Client κ) :
    Phase.Heads s r (service.resultOf false
      (m.invoke client (.ofHeld ⟨_, v⟩) (.zero m.implementation.reply)))
      (.accepted (m.called service v client)) := by
  refine ⟨ordinary, ungranted, unbound, service, bound, ?_⟩
  have hscript : (m.called service v client).script service =
      m.invoke client { m.makeArgument with held := ⟨_, v⟩ } m.makeReply :=
    Service.invoke_of_method? hm client _ _
  rw [hscript]
  exact Service.resultOf_invoke_congr false client rfl rfl rfl

/-- **The direct path and the transport path agree.** The method `m` of a service that is registered
under a name other than the reserved one is called with the argument `v` on the caller's thread, on
a fresh token and with a reply that starts from the zero value, and does not panic. A request for it
comes in at `x`, under a number that is not pending and with a body that decodes to `v`. It becomes
a call. With free locks and the exchange to itself the call comes to its end, whatever turns it has
had, and answers by what the direct call has left; and so it does on every schedule that leaves
alone what it runs on. -/
theorem transport_agrees {service : Service ι σ κ} {m : Method ι σ κ}
    (bound : x.station.server.service? service.name = some service)
    (ordinary : service.name ≠ CancelService.name) (hm : service.method? m.name = some m)
    (plain : '.' ∉ m.name.toList) {v : m.implementation.argument.Carrier} {body : Bytes}
    (decoded : m.implementation.argument.decode body = .ok v) {seq : UInt64}
    (unbound : x.connection.pending.contains seq = false) (client : Client κ) (guarded : Bool)
    {report : CallReport ι σ κ}
    (direct : service.call false client (Address.text ⟨service.name, m.name⟩) ⟨_, v⟩
      (.zero m.implementation.reply) = report)
    (calm : ∀ payload, report.outcome ≠ .panicked payload) :
    let r : Request := ⟨Address.text ⟨service.name, m.name⟩, seq⟩
    let i := x.calls.length
    ∃ y, x.accept r body client guarded = (.accepted i, y) ∧
      (service.name ∉ x.station.taken → x.connection.writer = none →
        ∀ (turns : List Bool) w, y.follow (turns.map (.call i)) = some w →
          ∃ (more : List Bool) (z : Exchange ι σ κ) (error : String),
            w.follow (more.map (.call i)) = some z ∧ z.calls[i]? = some ⟨r, guarded, .over⟩ ∧
              Delivers y i r guarded report error ((turns ++ more).map (.call i)) z) ∧
      ∀ ms z, y.follow ms = some z → Undisturbed i service.name seq y ms →
        z.calls[i]? = some ⟨r, guarded, .over⟩ →
          ∃ error, Delivers y i r guarded report error ms z := by
  intro r i
  refine ⟨_, accept_of_method? bound hm plain decoded seq client guarded, ?_⟩
  generalize hy : (x.addGuard guarded).push r guarded (.accepted (m.called service v client)) = y
  have hserver : y.station.server = x.station.server := hy ▸ x.addGuard_server guarded
  have hpending : y.connection.pending = x.connection.pending := hy ▸ x.addGuard_pending guarded
  have here : y.calls[i]? = some ⟨r, guarded, .accepted (m.called service v client)⟩ := by
    rw [← hy, show i = (x.addGuard guarded).calls.length by rw [addGuard_calls]]
    exact List.getElem?_concat_length
  have ungranted : Held.pending? ⟨_, v⟩ = none :=
    Argument.pending?_of_decode (m.decode_makeArgument decoded)
  have hunbound : y.connection.pending.token? r.seq = none :=
    hpending ▸ Option.not_isSome_iff_eq_none.1 (Bool.eq_false_iff.1 unbound)
  have hheads := heads_called (hserver ▸ bound) ordinary hm ungranted hunbound client
  obtain ⟨houtcome, hservice, hreply⟩ :=
    Service.call_eq false client (Service.lookup_of_method? hm plain) ungranted
  rw [direct] at houtcome hservice hreply
  have delivers : ∀ ms z, y.follow ms = some z → Undisturbed i service.name seq y ms →
      z.calls[i]? = some ⟨r, guarded, .over⟩ →
        ∃ error, Delivers y i r guarded report error ms z := by
    intro ms z hz alone ended
    exact ⟨_, Heading.delivers here hheads houtcome hservice (hreply calm) hz alone ended⟩
  refine ⟨?_, delivers⟩
  intro free clear turns w hw
  have hclear : Phase.IsClear y.station (.accepted (m.called service v client)) := by
    rw [← hy]
    exact ⟨(x.addGuard_taken guarded).symm ▸ free, (x.addGuard_writer guarded).trans clear⟩
  obtain ⟨n, z, hz, ended⟩ := exists_end here hclear hw
  rw [← List.map_replicate] at hz
  have hall : y.follow ((turns ++ .replicate n true).map (.call i)) = some z := by
    rw [List.map_append]
    exact follow_trans hw hz
  obtain ⟨error, hdelivers⟩ := delivers _ z hall (undisturbed_turns y i service.name seq _) ended
  exact ⟨.replicate n true, z, error, hz, ended, hdelivers⟩

theorem transport_agrees_failing :
    ∃ (service : Service Empty Unit Empty) (m : Method Empty Unit Empty)
      (y z : Exchange Empty Unit Empty) (turns : List Bool),
      (Server.failing "no").service? "Failing" = some service ∧ service.method? "Fail" = some m ∧
        (new (.failing "no") ⟨0⟩).accept ⟨"Failing.Fail", 7⟩ [] .none true = (.accepted 0, y) ∧
        y.follow (turns.map (.call 0)) = some z ∧
        Delivers y 0 ⟨"Failing.Fail", 7⟩ true
          (service.call false .none "Failing.Fail" (.zero m.implementation.argument)
            (.zero m.implementation.reply)) "no" (turns.map (.call 0)) z := by
  have run : ((Server.failing "no").service? "Failing").any fun service =>
      (service.method? "Fail").any fun m => decide (m.implementation.argument = .unit ∧
        (service.call false .none "Failing.Fail" (.zero m.implementation.argument)
          (.zero m.implementation.reply)).outcome = .failed (.method "no")) := by decide +kernel
  simp only [Option.any_eq_true, decide_eq_true_eq] at run
  obtain ⟨service, bound, m, hm, hargument, hfailed⟩ := run
  have hservice : service.name = "Failing" := Server.name_of_service? bound
  have hmethod : m.name = "Fail" := Service.name_of_method? hm
  have decoded : ∀ t : MessageType Empty, t = .unit → t.decode [] = .ok t.zero := by
    rintro _ rfl
    rfl
  have haddress : Address.text ⟨service.name, m.name⟩ = "Failing.Fail" := by
    rw [hservice, hmethod]
    decide
  obtain ⟨y, hy, alone, -⟩ := transport_agrees (x := new (.failing "no") ⟨0⟩) (m := m)
    (hservice ▸ bound) (by rw [hservice]; decide) (hmethod ▸ hm) (by rw [hmethod]; decide)
    (decoded _ hargument) (show Pending.empty.contains 7 = false from rfl) .none true rfl
    (by
      rw [haddress]
      intro payload hpanicked
      cases hfailed.symm.trans hpanicked)
  obtain ⟨turns, z, error, hz, -, delivers⟩ := alone List.not_mem_nil rfl [] y rfl
  rw [haddress] at hy delivers
  rw [delivers.failed _ hfailed] at delivers
  exact ⟨service, m, y, z, turns, bound, hm, hy, hz, delivers⟩

end Exchange

end Switchboard
