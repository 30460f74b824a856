import Switchboard.Connection.Call
import Switchboard.Proofs.Framing

/-!
# The moves of a call

`Call.step` is a function of phases. `Moves` says the same as a relation, one constructor for each
kind of step, with what has to be the case for it: the proofs about runs go by its cases and do not
open the function again.

The operations on the connection are written as updates of its fields (`start_eq`, `remove_eq`,
`log_eq`), with what they add to the journal as a list.

Results:

* `Call.moves_of_step`: every step is one of the moves, and changes nothing of the call but its
  phase.
* `Call.step_of_moves`: every move is a step, at once or when the time of a wait is up.
* `Moves.ref`, `Moves.server`: the connection keeps its pending table, and the server keeps all but
  the states of its receivers.
-/

namespace Switchboard

/-! ## What the operations on a connection do -/

/-- What logging adds to the journal. -/
def logged (call : Option CallId) (events : List Event) : List Entry :=
  events.map fun e => ⟨call, .logged e⟩

namespace Connection

/-- Adds entries to the journal. -/
def record (c : Connection) (es : List Entry) : Connection := { c with journal := c.journal ++ es }

variable (c : Connection) (call : Option CallId)

@[simp] theorem record_ref (es : List Entry) : (c.record es).ref = c.ref := rfl
@[simp] theorem record_pending (es : List Entry) : (c.record es).pending = c.pending := rfl
@[simp] theorem record_journal (es : List Entry) : (c.record es).journal = c.journal ++ es := rfl

theorem record_nil : c.record [] = c := by
  unfold record
  rw [List.append_nil]

theorem record_record (es fs : List Entry) :
    (c.record es).record fs = c.record (es ++ fs) := by
  unfold record
  rw [List.append_assoc]

theorem note_eq (e : Effect) : c.note call e = c.record [⟨call, e⟩] := rfl

theorem log_eq (events : List Event) : c.log call events = c.record (logged call events) := by
  induction events generalizing c with
  | nil => simp [log, record, logged]
  | cons e events ih =>
    change (c.note call (.logged e)).log call events = _
    rw [ih, note_eq, record_record]
    rfl

theorem pending_log (events : List Event) : (c.log call events).pending = c.pending := by
  rw [log_eq]
  rfl

theorem start_eq (seq : UInt64) :
    c.start call seq = ((c.pending.start seq).1,
      { c with pending := (c.pending.start seq).2.2 }.record
        (⟨call, .started seq⟩ :: logged call (c.pending.start seq).2.1)) := by
  unfold start
  simp only [log_eq, note_eq, record_record]
  rfl

theorem remove_eq (seq : UInt64) :
    c.remove call seq = ((c.pending.remove seq).1,
      { c with pending := (c.pending.remove seq).2.2 }.record
        (⟨call, .canceled seq⟩ :: logged call (c.pending.remove seq).2.1)) := by
  unfold remove
  simp only [log_eq, note_eq, record_record]
  rfl

end Connection

/-! ## Remarks

Most of what a journal holds says nothing of the pending table, of the wire or of the transport.
-/

/-- Whether an effect is a mere remark. -/
def Effect.isRemark : Effect → Bool
  | .granted | .entered | .told _ | .logged _ => true
  | _ => false

/-- Whether entries are mere remarks. -/
def Remarks (es : List Entry) : Prop := ∀ e ∈ es, e.effect.isRemark = true

theorem remarks_nil : Remarks [] := fun _ h => absurd h List.not_mem_nil

theorem remarks_singleton {call : Option CallId} {e : Effect} (h : e.isRemark = true) :
    Remarks [⟨call, e⟩] := by
  intro f hf
  rw [List.mem_singleton] at hf
  rw [hf]
  exact h

theorem remarks_logged (call : Option CallId) (events : List Event) :
    Remarks (logged call events) := by
  intro f hf
  obtain ⟨e, -, rfl⟩ := List.mem_map.1 hf
  rfl

theorem Remarks.append {es fs : List Entry} (he : Remarks es) (hf : Remarks fs) :
    Remarks (es ++ fs) := by
  intro e h
  rcases List.mem_append.1 h with h | h
  · exact he e h
  · exact hf e h

section Station

variable {ι σ κ : Type} [MessageFamily ι]

/-- Handing the table over leaves remarks and nothing else. -/
theorem Station.handOver_snd (s : Station ι σ κ) (i : CallId) (r : Request)
    (call : PreparedCall ι κ) :
    ∃ es, Remarks es ∧ (s.handOver i r call).2 = s.onConnection (·.record es) := by
  unfold Station.handOver
  dsimp only
  split
  · refine ⟨⟨i, .granted⟩ :: logged i [.calling r.address r.seq], ?_, ?_⟩
    · exact (remarks_singleton rfl).append (remarks_logged _ _)
    · simp only [Station.onConnection, Connection.log_eq, Connection.note_eq,
        Connection.record_record, List.singleton_append]
  · refine ⟨logged i [.calling r.address r.seq], remarks_logged _ _, ?_⟩
    simp only [Station.onConnection, Connection.log_eq]

theorem Station.invoke_token (s : Station ι σ κ) (i : CallId) (call : PreparedCall ι κ)
    (token : Token) : (s.invoke i call token).1.token = token := by
  unfold Station.invoke
  dsimp only
  split <;> rfl

theorem Station.take_connection (s : Station ι σ κ) (p : Place) :
    (s.take p).connection = s.connection := by
  unfold Station.take
  split <;> rfl

theorem Station.giveBack_connection (s : Station ι σ κ) (p : Place) :
    (s.giveBack p).connection = s.connection := by
  unfold Station.giveBack
  split <;> rfl

/-- Whether an action is a cancellation by number. -/
def Action.isCancel : Action σ → Bool
  | .cancel _ => true
  | _ => false

variable [Inhabited σ] in
/-- An action that cancels nothing by number leaves remarks, or cancels the own token. -/
theorem Station.perform_connection (p : Place) {a : Action σ} (plain : a.isCancel = false)
    (s : Station ι σ κ) :
    (∃ es, Remarks es ∧ (Station.perform p a s).2.connection = s.connection.record es) ∨
      (Station.perform p a s).2.connection = s.connection.flag p.token := by
  cases a with
  | enter => exact .inl ⟨_, remarks_singleton rfl, rfl⟩
  | tell n => exact .inl ⟨_, remarks_singleton rfl, rfl⟩
  | log e => exact .inl ⟨_, remarks_singleton rfl, rfl⟩
  | receiver f => exact .inl ⟨[], remarks_nil, (s.connection.record_nil).symm⟩
  | poll => exact .inl ⟨[], remarks_nil, (s.connection.record_nil).symm⟩
  | wait n => exact .inl ⟨[], remarks_nil, (s.connection.record_nil).symm⟩
  | abandon => exact .inr rfl
  | cancel seq => cases plain

end Station

/-- Every frame goes onto the wire, cut into pieces. -/
theorem Frame.pieces_eq (f : Frame) : f.pieces = (some f, chunks f.bytes) := by
  unfold pieces
  rw [f.encode_eq]

/-! ## Moves -/

variable {ι σ κ : Type} [MessageFamily ι] [Inhabited σ]

/-- What the next step of call `i` may be at the station `s`, the request being `r`: the phase
before, and phase and station after. -/
inductive Moves (i : CallId) (r : Request) (guarded : Bool) (s : Station ι σ κ) :
    Phase ι σ κ → Phase ι σ κ → Station ι σ κ → Prop where
  /-- The sequence number is registered. -/
  | start (call : PreparedCall ι κ) :
    Moves i r guarded s (.accepted call) (.registered call (s.connection.start i r.seq).1)
      { s with connection := (s.connection.start i r.seq).2 }
  /-- The argument is given the pending table, if it is to have it. -/
  | handOver (call : PreparedCall ι κ) (token : Token) :
    Moves i r guarded s (.registered call token) (.ready (s.handOver i r call).1 token)
      (s.handOver i r call).2
  /-- The method is entered, under the lock on its receiver if it needs it. -/
  | enter (call : PreparedCall ι κ) (token : Token)
    (free : s.isBarred (s.invoke i call token).1 = false) :
    Moves i r guarded s (.ready call token)
      (.running (s.invoke i call token).1 (s.invoke i call token).2)
      (s.take (s.invoke i call token).1)
  /-- The body cancels a number: the first half, which takes it out of the table. -/
  | hunt (place : Place) (seq : UInt64)
    (next : (Action.cancel (σ := σ) seq).Answer → Script σ (Finished ι)) (victim : Token)
    (may : s.mayCancel place = true) (found : (s.connection.remove i seq).1 = some victim) :
    Moves i r guarded s (.running place (.act (.cancel seq) next))
      (.flagging place victim (next ())) { s with connection := (s.connection.remove i seq).2 }
  /-- The body cancels a number that is not in the table. -/
  | miss (place : Place) (seq : UInt64)
    (next : (Action.cancel (σ := σ) seq).Answer → Script σ (Finished ι))
    (may : s.mayCancel place = true) (found : (s.connection.remove i seq).1 = none) :
    Moves i r guarded s (.running place (.act (.cancel seq) next))
      (.running place (next ())) { s with connection := (s.connection.remove i seq).2 }
  /-- The body would cancel a number but was not given the connection's table. -/
  | refuse (place : Place) (seq : UInt64)
    (next : (Action.cancel (σ := σ) seq).Answer → Script σ (Finished ι))
    (may : s.mayCancel place = false) :
    Moves i r guarded s (.running place (.act (.cancel seq) next)) (.running place (next ())) s
  /-- The body takes a step of another kind. -/
  | act (place : Place) (a : Action σ) (next : a.Answer → Script σ (Finished ι))
    (plain : a.isCancel = false) :
    Moves i r guarded s (.running place (.act a next))
      (.running place (next (Station.perform place a s).1)) (Station.perform place a s).2
  /-- The body is over and gives the lock on its receiver back. -/
  | giveBack (place : Place) (finished : Finished ι) (locks : place.locks = true) :
    Moves i r guarded s (.running place (.done finished))
      (.running { place with locks := false } (.done finished)) (s.giveBack place)
  /-- The body is over, and the number is taken out of the table. -/
  | release (place : Place) (finished : Finished ι) (locks : place.locks = false) :
    Moves i r guarded s (.running place (.done finished))
      (.releasing place.token (s.connection.remove i r.seq).1 finished)
      { s with connection := (s.connection.remove i r.seq).2 }
  /-- The body cancels a number: the second half, which cancels the token. -/
  | flag (place : Place) (victim : Token) (rest : Script σ (Finished ι)) :
    Moves i r guarded s (.flagging place victim rest) (.running place rest)
      (s.onConnection (·.flag victim))
  /-- The token that the call took out of the table at its end is canceled. -/
  | settle (token : Token) (victim? : Option Token) (finished : Finished ι) :
    Moves i r guarded s (.releasing token victim? finished) (.released finished)
      (s.onConnection (·.flag? victim?))
  /-- The outcome becomes a text. -/
  | report (finished : Finished ι) :
    Moves i r guarded s (.released finished)
      (.answering finished.reply (finished.outcome.report r.address))
      (s.onConnection (·.log i (finished.outcome.events r)))
  /-- The lock on the wire is taken for a response. -/
  | lock (reply : Reply ι) (error : String) (free : s.connection.writer = none) :
    Moves i r guarded s (.answering reply error)
      (.writing (some (r.compose reply error).2) (chunks (r.compose reply error).2.bytes))
      (s.onConnection fun k => (k.lock i).log i (r.compose reply error).1)
  /-- A piece of the response goes onto the wire. -/
  | write (frame? : Option Frame) (piece : Bytes) (rest : List Bytes) :
    Moves i r guarded s (.writing frame? (piece :: rest)) (.writing frame? rest)
      (s.onConnection (·.write piece))
  /-- The response is out, and the lock on the wire is given back. -/
  | unlock (frame? : Option Frame) :
    Moves i r guarded s (.writing frame? []) .written (s.onConnection (·.unlock i frame?))
  /-- The transport forgets the request. -/
  | forget : Moves i r guarded s .written .forgotten (s.onConnection (·.free i r.seq))
  /-- The guard is dropped, if the call has one. -/
  | finish :
    Moves i r guarded s .forgotten .over (if guarded then s.onConnection (·.dropGuard i) else s)

namespace Moves

variable {i : CallId} {r : Request} {guarded : Bool} {s s' : Station ι σ κ}
  {phase phase' : Phase ι σ κ}

/-- A connection keeps its pending table. -/
theorem ref (h : Moves i r guarded s phase phase' s') :
    s'.connection.ref = s.connection.ref := by
  cases h with
  | start call => rw [Connection.start_eq, Connection.record_ref]
  | handOver call token =>
    obtain ⟨es, -, hs⟩ := s.handOver_snd i r call
    rw [hs]
    rfl
  | enter call token free => rw [Station.take_connection]
  | hunt place seq next victim may found => rw [Connection.remove_eq, Connection.record_ref]
  | miss place seq next may found => rw [Connection.remove_eq, Connection.record_ref]
  | refuse place seq next may => rfl
  | act place a next plain =>
    rcases Station.perform_connection place plain s with ⟨es, -, hs⟩ | hs
    · rw [hs, Connection.record_ref]
    · rw [hs]
      rfl
  | giveBack place finished locks => rw [Station.giveBack_connection]
  | release place finished locks => rw [Connection.remove_eq, Connection.record_ref]
  | flag place victim rest => rfl
  | settle token victim? finished => cases victim? <;> rfl
  | report finished => simp only [Station.onConnection, Connection.log_eq, Connection.record_ref]
  | lock reply error free =>
    simp only [Station.onConnection, Connection.log_eq, Connection.record_ref]
    rfl
  | write frame? piece rest => rfl
  | unlock frame? => cases frame? <;> rfl
  | forget => rfl
  | finish => split <;> rfl

/-- The most that a move does to the server is to change the state of a receiver. -/
theorem server (h : Moves i r guarded s phase phase' s') :
    s'.server = s.server ∨ ∃ target f, s'.server = s.server.updateReceiver target f := by
  cases h with
  | act place a next plain =>
    cases a with
    | receiver f => exact .inr ⟨place.service, f, rfl⟩
    | cancel seq => cases plain
    | _ => exact .inl rfl
  | handOver call token =>
    obtain ⟨es, -, hs⟩ := s.handOver_snd i r call
    rw [hs]
    exact .inl rfl
  | enter call token free =>
    unfold Station.take
    split <;> exact .inl rfl
  | giveBack place finished locks =>
    unfold Station.giveBack
    split <;> exact .inl rfl
  | finish => split <;> exact .inl rfl
  | _ => exact .inl rfl

end Moves

namespace Call

variable {i : CallId} {expired : Bool} {c c' : Call ι σ κ} {s s' : Station ι σ κ}

/-- A step of a body is a move. -/
theorem moves_of_running {place : Place} {a : Action σ} {next : a.Answer → Script σ (Finished ι)}
    (hp : c.phase = .running place (.act a next)) (h : c.step i expired s = some (c', s')) :
    ∃ phase, c' = { c with phase } ∧
      Moves i c.request c.guarded s (.running place (.act a next)) phase s' := by
  by_cases hc : a.isCancel = true
  · cases a with
    | cancel seq =>
      unfold step at h
      simp only [hp] at h
      by_cases may : s.mayCancel place = true
      · rw [if_pos may] at h
        split at h
        · rename_i victim connection hr
          cases h
          have hfst := congrArg Prod.fst hr
          have hsnd := congrArg Prod.snd hr
          subst hsnd
          exact ⟨_, rfl, .hunt place seq next victim may hfst⟩
        · rename_i connection hr
          cases h
          have hfst := congrArg Prod.fst hr
          have hsnd := congrArg Prod.snd hr
          subst hsnd
          exact ⟨_, rfl, .miss place seq next may hfst⟩
      · rw [if_neg may] at h
        cases h
        exact ⟨_, rfl, .refuse place seq next (Bool.eq_false_iff.2 may)⟩
    | _ => cases hc
  · have hplain : a.isCancel = false := Bool.eq_false_iff.2 hc
    have hstep : c.step i expired s =
        if a.isWait && !expired && !s.connection.pending.tokens.isCanceled place.token then none
        else some ({ c with
          phase := .running place (next (Station.perform place a s).1) },
          (Station.perform place a s).2) := by
      unfold step
      simp only [hp]
      cases a with
      | cancel seq => cases hplain
      | _ => rfl
    rw [hstep] at h
    split at h
    · cases h
    · cases h
      exact ⟨_, rfl, .act place a next hplain⟩

/-- **Every step is one of the moves**, and changes nothing of the call but its phase. -/
theorem moves_of_step (h : c.step i expired s = some (c', s')) :
    ∃ phase, c' = { c with phase } ∧ Moves i c.request c.guarded s c.phase phase s' := by
  cases hp : c.phase with
  | running place script =>
    cases script with
    | act a next => exact moves_of_running hp h
    | done finished =>
      unfold step at h
      simp only [hp] at h
      by_cases hl : place.locks = true
      · rw [if_pos hl] at h
        cases h
        exact ⟨_, rfl, .giveBack place finished hl⟩
      · rw [if_neg hl] at h
        cases h
        exact ⟨_, rfl, .release place finished (Bool.eq_false_iff.2 hl)⟩
  | accepted call =>
    unfold step at h
    simp only [hp] at h
    cases h
    exact ⟨_, rfl, .start call⟩
  | registered call token =>
    unfold step at h
    simp only [hp] at h
    cases h
    exact ⟨_, rfl, .handOver call token⟩
  | ready call token =>
    unfold step at h
    simp only [hp] at h
    split at h
    · cases h
    · rename_i hb
      cases h
      exact ⟨_, rfl, .enter call token (Bool.eq_false_iff.2 hb)⟩
  | flagging place victim rest =>
    unfold step at h
    simp only [hp] at h
    cases h
    exact ⟨_, rfl, .flag place victim rest⟩
  | releasing token victim? finished =>
    unfold step at h
    simp only [hp] at h
    cases h
    exact ⟨_, rfl, .settle token victim? finished⟩
  | released finished =>
    unfold step at h
    simp only [hp] at h
    cases h
    exact ⟨_, rfl, .report finished⟩
  | answering reply error =>
    unfold step at h
    simp only [hp, Frame.pieces_eq] at h
    split at h
    · cases h
    · rename_i hw
      cases h
      exact ⟨_, rfl, .lock reply error (Option.not_isSome_iff_eq_none.1 hw)⟩
  | writing frame? pieces =>
    unfold step at h
    simp only [hp] at h
    cases pieces with
    | nil =>
      cases h
      exact ⟨_, rfl, .unlock frame?⟩
    | cons piece rest =>
      cases h
      exact ⟨_, rfl, .write frame? piece rest⟩
  | written =>
    unfold step at h
    simp only [hp] at h
    cases h
    exact ⟨_, rfl, .forget⟩
  | forgotten =>
    unfold step at h
    simp only [hp] at h
    cases h
    exact ⟨_, rfl, .finish⟩
  | «over» =>
    unfold step at h
    simp only [hp] at h
    cases h

/-- **Every move is a step**, once the time of a body that waits is up. -/
theorem step_of_moves {r : Request} {guarded : Bool} {phase phase' : Phase ι σ κ}
    (h : Moves i r guarded s phase phase' s') :
    step i true ⟨r, guarded, phase⟩ s = some (⟨r, guarded, phase'⟩, s') := by
  unfold step
  cases h with
  | start call => rfl
  | handOver call token => rfl
  | enter call token free => simp only [free, Bool.false_eq_true, if_false]
  | hunt place seq next victim may found =>
    have hr : s.connection.remove i seq = (some victim, (s.connection.remove i seq).2) := by
      rw [← found]
    simp only [may, if_true]
    rw [hr]
  | miss place seq next may found =>
    have hr : s.connection.remove i seq = (none, (s.connection.remove i seq).2) := by
      rw [← found]
    simp only [may, if_true]
    rw [hr]
  | refuse place seq next may => simp only [may, Bool.false_eq_true, if_false]
  | act place a next plain =>
    cases a with
    | cancel seq => cases plain
    | _ => rfl
  | giveBack place finished locks => simp only [locks, if_true]
  | release place finished locks => simp only [locks, Bool.false_eq_true, if_false]
  | flag place victim rest => rfl
  | settle token victim? finished => rfl
  | report finished => rfl
  | lock reply error free => simp only [free, Frame.pieces_eq, Option.isSome_none,
      Bool.false_eq_true, if_false]
  | write frame? piece rest => rfl
  | unlock frame? => rfl
  | forget => rfl
  | finish => rfl

end Call

end Switchboard
