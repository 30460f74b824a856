import Switchboard.Proofs.Connection.Grants
import Switchboard.Proofs.Connection.Reports
import Switchboard.Proofs.Direct

/-!
# What a call is heading for

A call that has come in goes through its phases to a response. In each phase before the end of its
body it is heading for a result: what the body would come to from there on the caller's thread, with
the receiver and the token as they are at the station. In each later phase it is on its way to tell
that result.

Results:

* `Station.Foretells.perform`: an action of a body keeps what the body comes to.
* `Moves.heads`: a call that is heading for a result stays so by its moves.
* `Moves.answers_due`: what a call has sent and what it is going to send are together the same.
-/

namespace Switchboard

variable {ι σ κ : Type} [MessageFamily ι]

/-! ## The answers of one call -/

/-- The responses that call `i` has sent. -/
def Connection.answers (c : Connection) (i : CallId) : List Frame :=
  c.responses.filterMap fun sent => if sent.1 = some i then some sent.2 else none

theorem Connection.answers_congr {c c' : Connection} (h : c'.responses = c.responses) (i : CallId) :
    c'.answers i = c.answers i := by
  unfold answers
  rw [h]

theorem Connection.answers_append {c c' : Connection} {i j : CallId} {f : Frame}
    (h : c'.responses = c.responses ++ [(some j, f)]) :
    c'.answers i = c.answers i ++ if j = i then [f] else [] := by
  unfold answers
  rw [h, List.filterMap_append]
  congr 1
  by_cases hji : j = i
  · subst hji
    rw [if_pos rfl]
    exact List.filterMap_cons_some (if_pos rfl)
  · rw [if_neg hji]
    exact List.filterMap_cons_none (if_neg fun hsome => hji (Option.some.inj hsome))

/-- What a call in this phase has still to send, if its response is `f`. -/
def Phase.due (f : Frame) : Phase ι σ κ → List Frame
  | .written | .forgotten | .over => []
  | _ => [f]

theorem Phase.due_of_isInside {phase : Phase ι σ κ} (h : phase.isInside = true) (f : Frame) :
    phase.due f = [f] := by
  cases phase with
  | written => cases h
  | forgotten => cases h
  | «over» => cases h
  | _ => rfl

section Moves

variable [Inhabited σ] {i : CallId} {r : Request} {guarded : Bool} {s s' : Station ι σ κ}
  {phase phase' : Phase ι σ κ}

/-- **What a call has sent and what it is going to send are together the same** before and after its
moves. -/
theorem Moves.answers_due (h : Moves i r guarded s phase phase' s') {f : Frame}
    (writes : ∀ frame? rest, phase = .writing frame? rest → frame? = some f) :
    s'.connection.answers i ++ phase'.due f = s.connection.answers i ++ phase.due f := by
  cases h.outward with
  | silent before after silent =>
    rw [Connection.answers_congr silent.responses, Phase.due_of_isInside before,
      Phase.due_of_isInside after]
  | lock reply error free =>
    have hsilent := s.connection.silent_lock i (r.compose reply error).1
    exact congrArg (· ++ [f]) (Connection.answers_congr hsilent.responses i)
  | write frame? piece rest => rfl
  | unlock frame? =>
    cases writes frame? [] rfl
    have hsent := Connection.answers_append (i := i) (s.connection.responses_unlock i (some f))
    rw [if_pos rfl] at hsent
    exact (List.append_nil _).trans hsent
  | forget =>
    have hresponses := s.connection.responses_free i r.seq
    exact congrArg (· ++ []) (Connection.answers_congr hresponses i)
  | finish =>
    cases guarded with
    | false => rfl
    | true =>
      have hresponses := s.connection.responses_dropGuard i
      exact congrArg (· ++ []) (Connection.answers_congr hresponses i)

/-! ## Heading for a result -/

/-- A move makes no token unmade. -/
theorem Moves.made {t : Token} (h : Moves i r guarded s phase phase' s')
    (made : s.connection.pending.tokens.Made t) : s'.connection.pending.tokens.Made t := by
  have touches := h.touches
  generalize s'.connection.pending = pending at touches ⊢
  cases touches with
  | keep token hunted => exact made
  | start call => exact s.connection.pending.made_start r.seq made
  | remove place target next may token hunted =>
    exact (s.connection.pending.tokens_remove target).symm ▸ made
  | release place finished => exact (s.connection.pending.tokens_remove r.seq).symm ▸ made
  | flag victim token found hunted => exact (s.connection.pending.made_cancelToken victim t).2 made
  | abandon place next rest => exact (s.connection.pending.made_cancelToken _ t).2 made

omit [Inhabited σ] in
theorem Station.take_server (s : Station ι σ κ) (p : Place) : (s.take p).server = s.server := by
  unfold Station.take
  split <;> rfl

omit [Inhabited σ] in
theorem Station.giveBack_server (s : Station ι σ κ) (p : Place) :
    (s.giveBack p).server = s.server := by
  unfold Station.giveBack
  split <;> rfl

/-- What the script of the service comes to, with a token that is canceled or not, is `result`. -/
def Station.Foretells (s : Station ι σ κ) (name : String) (canceled : Bool)
    (script : Service ι σ κ → Script σ (Finished ι)) (result : Result ι σ κ) : Prop :=
  ∃ service, s.server.service? name = some service ∧
    service.resultOf canceled (script service) = result

/-- The body of the call. -/
def PreparedCall.script (call : PreparedCall ι κ) (service : Service ι σ κ) :
    Script σ (Finished ι) :=
  service.invoke call.method call.client call.argument call.reply

/-- What the body of the call comes to from this phase on is `result`, or was. -/
def Phase.Heads (s : Station ι σ κ) (r : Request) (result : Result ι σ κ) : Phase ι σ κ → Prop
  | .accepted call =>
    call.service ≠ CancelService.name ∧ call.argument.held.pending? = none ∧
      s.connection.pending.token? r.seq = none ∧ s.Foretells call.service false call.script result
  | .registered call token =>
    call.service ≠ CancelService.name ∧ call.argument.held.pending? = none ∧
      s.connection.pending.tokens.Made token ∧
      s.Foretells call.service (s.connection.pending.tokens.isCanceled token) call.script result
  | .ready call token =>
    call.argument.held.pending? = none ∧ s.connection.pending.tokens.Made token ∧
      s.Foretells call.service (s.connection.pending.tokens.isCanceled token) call.script result
  | .running place rest =>
    place.grant = none ∧ s.connection.pending.tokens.Made place.token ∧
      s.Foretells place.service (s.connection.pending.tokens.isCanceled place.token)
        (fun _ => rest) result
  | .flagging .. => False
  | phase => s.server.service? result.service.name = some result.service ∧
    ∃ finished, finished.reply = result.reply ∧ finished.outcome = result.outcome ∧
      phase.Returned r finished

namespace Station.Foretells

variable {name : String} {canceled : Bool} {script : Service ι σ κ → Script σ (Finished ι)}
  {result : Result ι σ κ}

omit [Inhabited σ] in
/-- A result is one of the service that the script runs on. -/
theorem name_eq (h : s.Foretells name canceled script result) : name = result.service.name := by
  obtain ⟨service, bound, rfl⟩ := h
  rw [Service.name_resultOf, Server.name_of_service? bound]

omit [Inhabited σ] in
theorem congr (h : s.Foretells name canceled script result)
    (same : s'.server.service? result.service.name = s.server.service? result.service.name) :
    s'.Foretells name canceled script result := by
  have hname := h.name_eq
  obtain ⟨service, bound, hresult⟩ := h
  rw [← hname] at same
  exact ⟨service, same.trans bound, hresult⟩

/-- **An action of a body keeps what the body comes to.** -/
theorem perform {place : Place} {a : Action σ} {next : a.Answer → Script σ (Finished ι)}
    (h : s.Foretells place.service (s.connection.pending.tokens.isCanceled place.token)
      (fun _ => .act a next) result)
    (made : s.connection.pending.tokens.Made place.token) (plain : a.isCancel = false) :
    (Station.perform place a s).2.Foretells place.service
      ((Station.perform place a s).2.connection.pending.tokens.isCanceled place.token)
      (fun _ => next (Station.perform place a s).1) result := by
  obtain ⟨service, bound, hresult⟩ := h
  rw [Service.resultOf_act] at hresult
  cases a with
  | receiver f =>
    have hstate : s.receiver place.service = service.receiver := by
      unfold Station.receiver
      rw [bound]
      rfl
    refine ⟨service.withState (f service.receiver), ?_, ?_⟩
    · change (s.server.updateReceiver place.service f).service? place.service = _
      rw [Server.service?_updateReceiver, bound, Option.map_some,
        if_pos (Server.name_of_service? bound)]
      rfl
    · change (service.withState (f service.receiver)).resultOf _
        (next (s.receiver place.service)) = _
      rw [hstate]
      exact hresult
  | abandon =>
    refine ⟨service, bound, ?_⟩
    change service.resultOf ((s.connection.pending.cancelToken place.token).2.tokens.isCanceled
      place.token) _ = _
    rw [Pending.isCanceled_cancelToken made, decide_eq_true rfl, Bool.true_or]
    exact hresult
  | cancel seq => cases plain
  | _ => exact ⟨service, bound, hresult⟩

end Station.Foretells

/-- A move that is not of the body keeps the result once the body is over. -/
theorem Phase.Heads.returned {result : Result ι σ κ} (h : Moves i r guarded s phase phase' s')
    (hp : s.server.service? result.service.name = some result.service ∧
      ∃ finished, finished.reply = result.reply ∧ finished.outcome = result.outcome ∧
        phase.Returned r finished) (server : s'.server = s.server) :
    s'.server.service? result.service.name = some result.service ∧
      ∃ finished, finished.reply = result.reply ∧ finished.outcome = result.outcome ∧
        phase'.Returned r finished := by
  obtain ⟨bound, finished, hreply, houtcome, hreturned⟩ := hp
  exact ⟨server ▸ bound, finished, hreply, houtcome, h.returned hreturned⟩

/-- **A call that is heading for a result stays so by its moves.** -/
theorem Moves.heads {result : Result ι σ κ} (h : Moves i r guarded s phase phase' s')
    (hp : phase.Heads s r result) : phase'.Heads s' r result := by
  have moves := h
  cases h with
  | start call =>
    obtain ⟨ordinary, ungranted, unbound, service, bound, hresult⟩ := hp
    have hfresh : ¬s.connection.pending.tokens.Made (s.connection.pending.start r.seq).1 := by
      rcases s.connection.pending.token?_or_not_made r.seq with hold | ⟨-, hfresh⟩
      · cases unbound.symm.trans hold
      · exact hfresh
    have hmade := s.connection.pending.made_fst_start r.seq fun t ht =>
      nomatch unbound.symm.trans ht
    have hfalse := (s.connection.pending.isCanceled_start r.seq _).trans
      (Tokens.isCanceled_of_not_made hfresh)
    rw [Connection.start_eq]
    refine ⟨ordinary, ungranted, hmade, service, bound, ?_⟩
    rw [Connection.record_pending, hfalse]
    exact hresult
  | handOver call token =>
    obtain ⟨ordinary, ungranted, made, foretold⟩ := hp
    obtain ⟨es, -, hs⟩ := s.handOver_snd i r call
    rw [s.handOver_fst, PreparedCall.handed_of_ne ordinary, hs]
    exact ⟨ungranted, made, foretold⟩
  | enter call token free =>
    obtain ⟨ungranted, made, service, bound, hresult⟩ := hp
    rw [Station.invoke_of_service bound]
    refine ⟨ungranted, ?_, service, ?_, ?_⟩
    · rw [Station.take_connection]
      exact made
    · rw [Station.take_server]
      exact bound
    · rw [Station.take_connection]
      exact hresult
  | hunt place seq next victim may found => cases hp.1.symm.trans (of_decide_eq_true may)
  | miss place seq next may found => cases hp.1.symm.trans (of_decide_eq_true may)
  | refuse place seq next may =>
    obtain ⟨ungranted, made, service, bound, hresult⟩ := hp
    rw [Service.resultOf_act] at hresult
    exact ⟨ungranted, made, service, bound, hresult⟩
  | act place a next plain =>
    obtain ⟨ungranted, made, foretold⟩ := hp
    exact ⟨ungranted, moves.made made, foretold.perform made plain⟩
  | giveBack place finished locks =>
    obtain ⟨ungranted, made, service, bound, hresult⟩ := hp
    refine ⟨ungranted, moves.made made, service, ?_, ?_⟩
    · rw [Station.giveBack_server]
      exact bound
    · rw [Station.giveBack_connection]
      exact hresult
  | release place finished locks =>
    obtain ⟨-, -, service, bound, hresult⟩ := hp
    rw [Service.resultOf_done] at hresult
    subst hresult
    exact ⟨Server.name_of_service? bound ▸ bound, finished, rfl, rfl, rfl⟩
  | flag place victim rest => exact hp.elim
  | finish =>
    cases guarded with
    | false => exact Phase.Heads.returned moves hp rfl
    | true => exact Phase.Heads.returned moves hp rfl
  | _ => exact Phase.Heads.returned moves hp rfl

end Moves

end Switchboard
