import Switchboard.Proofs.Connection.Schedule

/-!
# Moves seen from outside

Until a call has its answer, nothing it does can be seen from outside: not on the wire, not in what
the transport has forgotten, not in the count of the guards. Seen from there a move is silent or one
of the five that bring the answer out and end the call.

Results:

* `Moves.outward`: every move is silent or one of the five.
* `Connection.mem_responses_iff`: the responses sent are those the journal tells of.
-/

namespace Switchboard

/-- The response whose last byte an entry put onto the wire, and the call that sent it. -/
def Entry.response? (e : Entry) : Option (Option CallId × Frame) :=
  match e.effect with
  | .sent frame => some (e.call, frame)
  | _ => none

theorem Remarks.responses {es : List Entry} (h : Remarks es) :
    es.filterMap Entry.response? = [] := by
  rw [List.filterMap_eq_nil_iff]
  rintro ⟨call, effect⟩ he
  have hr := h _ he
  cases effect with
  | sent frame => cases hr
  | _ => rfl

namespace Connection

/-- The responses sent, in order, with the calls that sent them. -/
def responses (c : Connection) : List (Option CallId × Frame) :=
  c.journal.filterMap Entry.response?

/-- The responses sent, in order. -/
def sent (c : Connection) : List Frame := c.responses.map Prod.snd

theorem responses_record (c : Connection) (es : List Entry) :
    (c.record es).responses = c.responses ++ es.filterMap Entry.response? :=
  List.filterMap_append

theorem mem_responses_iff {c : Connection} {call : Option CallId} {f : Frame} :
    (call, f) ∈ c.responses ↔ ⟨call, .sent f⟩ ∈ c.journal := by
  unfold responses
  rw [List.mem_filterMap]
  constructor
  · rintro ⟨⟨call', effect⟩, he, hf⟩
    cases effect with
    | sent frame =>
      cases hf
      exact he
    | _ => cases hf
  · intro he
    exact ⟨_, he, rfl⟩

end Connection

variable {ι σ κ : Type} [MessageFamily ι]

/-- Two connections that look the same from outside. -/
structure Connection.Silent (c c' : Connection) : Prop where
  writer : c'.writer = c.writer
  wire : c'.wire = c.wire
  responses : c'.responses = c.responses
  freed : c'.freed = c.freed
  guards : c'.guards = c.guards

namespace Connection

variable (c : Connection)

theorem Silent.sent {c c' : Connection} (h : c.Silent c') : c'.sent = c.sent :=
  congrArg (List.map Prod.snd) h.responses

theorem silent_refl : c.Silent c := ⟨rfl, rfl, rfl, rfl, rfl⟩

theorem Silent.trans {c c' c'' : Connection} (h : c.Silent c') (h' : c'.Silent c'') : c.Silent c'' :=
  ⟨h'.writer.trans h.writer, h'.wire.trans h.wire, h'.responses.trans h.responses,
    h'.freed.trans h.freed, h'.guards.trans h.guards⟩

theorem silent_record (es : List Entry) (h : es.filterMap Entry.response? = []) :
    c.Silent (c.record es) :=
  ⟨rfl, rfl, by rw [responses_record, h, List.append_nil], rfl, rfl⟩

theorem silent_log (call : Option CallId) (events : List Event) : c.Silent (c.log call events) := by
  rw [log_eq]
  exact c.silent_record _ (remarks_logged call events).responses

theorem silent_start (call : Option CallId) (seq : UInt64) : c.Silent (c.start call seq).2 := by
  rw [start_eq]
  have hlog := (remarks_logged call (c.pending.start seq).2.1).responses
  exact ⟨rfl, rfl, (silent_record { c with pending := (c.pending.start seq).2.2 }
    (⟨call, .started seq⟩ :: _) hlog).responses, rfl, rfl⟩

theorem silent_remove (call : Option CallId) (seq : UInt64) : c.Silent (c.remove call seq).2 := by
  rw [remove_eq]
  have hlog := (remarks_logged call (c.pending.remove seq).2.1).responses
  exact ⟨rfl, rfl, (silent_record { c with pending := (c.pending.remove seq).2.2 }
    (⟨call, .canceled seq⟩ :: _) hlog).responses, rfl, rfl⟩

theorem silent_flag? (t? : Option Token) : c.Silent (c.flag? t?) := by
  cases t? with
  | none => exact c.silent_refl
  | some t => exact ⟨rfl, rfl, rfl, rfl, rfl⟩

end Connection

theorem Station.silent_perform [Inhabited σ] (p : Place) {a : Action σ}
    (plain : a.isCancel = false) (s : Station ι σ κ) :
    s.connection.Silent (Station.perform p a s).2.connection := by
  rcases Station.perform_connection p plain s with ⟨es, hes, h⟩ | h
  · rw [h]
    exact s.connection.silent_record es hes.responses
  · rw [h]
    exact ⟨rfl, rfl, rfl, rfl, rfl⟩

/-- Whether nothing of the answer is out in this phase. -/
def Phase.isInside : Phase ι σ κ → Bool
  | .writing .. | .written | .forgotten | .over => false
  | _ => true

/-- A move of call `i` as seen from outside. -/
inductive Outward (i : CallId) (r : Request) (guarded : Bool) (s : Station ι σ κ) :
    Phase ι σ κ → Phase ι σ κ → Station ι σ κ → Prop where
  | silent {phase phase' : Phase ι σ κ} {s' : Station ι σ κ} (before : phase.isInside = true)
    (after : phase'.isInside = true) (same : s.connection.Silent s'.connection) :
    Outward i r guarded s phase phase' s'
  | lock (reply : Reply ι) (error : String) (free : s.connection.writer = none) :
    Outward i r guarded s (.answering reply error)
      (.writing (some (r.compose reply error).2) (chunks (r.compose reply error).2.bytes))
      (s.onConnection fun k => (k.lock i).log i (r.compose reply error).1)
  | write (frame? : Option Frame) (piece : Bytes) (rest : List Bytes) :
    Outward i r guarded s (.writing frame? (piece :: rest)) (.writing frame? rest)
      (s.onConnection (·.write piece))
  | unlock (frame? : Option Frame) :
    Outward i r guarded s (.writing frame? []) .written (s.onConnection (·.unlock i frame?))
  | forget : Outward i r guarded s .written .forgotten (s.onConnection (·.free i r.seq))
  | finish :
    Outward i r guarded s .forgotten .over (if guarded then s.onConnection (·.dropGuard i) else s)

/-- A call that has begun to bring its answer out goes on with that. -/
theorem Outward.isInside_eq_false {i : CallId} {r : Request} {guarded : Bool}
    {s s' : Station ι σ κ} {phase phase' : Phase ι σ κ}
    (h : Outward i r guarded s phase phase' s') (hp : phase.isInside = false) :
    phase'.isInside = false := by
  cases h with
  | silent before _ _ =>
    rw [hp] at before
    cases before
  | _ => rfl

theorem Moves.outward [Inhabited σ] {i : CallId} {r : Request} {guarded : Bool}
    {s s' : Station ι σ κ} {phase phase' : Phase ι σ κ}
    (h : Moves i r guarded s phase phase' s') : Outward i r guarded s phase phase' s' := by
  cases h with
  | start call => exact .silent rfl rfl (s.connection.silent_start i r.seq)
  | handOver call token =>
    obtain ⟨es, hes, h⟩ := s.handOver_snd i r call
    rw [h]
    exact .silent rfl rfl (s.connection.silent_record es hes.responses)
  | enter call token free =>
    refine .silent rfl rfl ?_
    rw [Station.take_connection]
    exact s.connection.silent_refl
  | hunt place seq next victim may found =>
    exact .silent rfl rfl (s.connection.silent_remove i seq)
  | miss place seq next may found => exact .silent rfl rfl (s.connection.silent_remove i seq)
  | refuse place seq next may => exact .silent rfl rfl s.connection.silent_refl
  | act place a next plain => exact .silent rfl rfl (Station.silent_perform place plain s)
  | giveBack place finished locks =>
    refine .silent rfl rfl ?_
    rw [Station.giveBack_connection]
    exact s.connection.silent_refl
  | release place finished locks => exact .silent rfl rfl (s.connection.silent_remove i r.seq)
  | flag place victim rest => exact .silent rfl rfl (s.connection.silent_flag? (some victim))
  | settle token victim? finished => exact .silent rfl rfl (s.connection.silent_flag? victim?)
  | report finished => exact .silent rfl rfl (s.connection.silent_log i _)
  | lock reply error free => exact .lock reply error free
  | write frame? piece rest => exact .write frame? piece rest
  | unlock frame? => exact .unlock frame?
  | forget => exact .forget
  | finish => exact .finish

namespace Connection

variable (c : Connection)

theorem responses_free (call : CallId) (seq : UInt64) :
    (c.free call seq).responses = c.responses :=
  (c.silent_record [⟨call, .freed seq⟩] rfl).responses

theorem responses_dropGuard (call : CallId) : (c.dropGuard call).responses = c.responses :=
  (c.silent_record [⟨call, .guardDropped⟩] rfl).responses

theorem responses_unlock (call : CallId) (frame? : Option Frame) :
    (c.unlock call frame?).responses = c.responses ++ frame?.toList.map (some call, ·) := by
  cases frame? with
  | none => exact (List.append_nil _).symm
  | some f => exact responses_record { c with writer := none } [⟨call, .sent f⟩]

theorem sent_free (call : CallId) (seq : UInt64) : (c.free call seq).sent = c.sent :=
  congrArg (List.map Prod.snd) (c.responses_free call seq)

theorem sent_dropGuard (call : CallId) : (c.dropGuard call).sent = c.sent :=
  congrArg (List.map Prod.snd) (c.responses_dropGuard call)

theorem sent_unlock (call : CallId) (frame? : Option Frame) :
    (c.unlock call frame?).sent = c.sent ++ frame?.toList := by
  rw [sent, responses_unlock, List.map_append, List.map_map]
  exact congrArg (c.sent ++ ·) (List.map_id _)

theorem silent_lock (call : CallId) (events : List Event) :
    (c.lock call).Silent ((c.lock call).log call events) := (c.lock call).silent_log call events

end Connection

theorem Phase.IsFirst.isInside {phase : Phase ι σ κ} (h : phase.IsFirst) :
    phase.isInside = true := by
  cases phase with
  | accepted call => rfl
  | answering reply error => rfl
  | _ => cases h

end Switchboard
