import Switchboard.Proofs.Connection.Outward

/-!
# Responses on the wire

A response goes onto the wire in pieces of at most 16 bytes, and between two pieces any other call
may take a step. What keeps responses apart is the lock: `WireView` is what matters of an exchange
for it, and `WireView.Step` has the three steps that change it.

`WireView.Sound` is the invariant. While nobody holds the lock, the wire is whole frames; while
call `i` holds it, the wire is whole frames and, behind them, the pieces that `i` has written so
far, and nobody but `i` has pieces left.

Results:

* `Exchange.sound_wireView`: the invariant holds on every schedule.
* `Exchange.frames_eq_sent`: while nobody writes, the wire reads back as the responses sent, in the
  order in which they were sent.
-/

namespace Switchboard

/-! ## The wire by itself -/

/-- What matters of an exchange for what is on the wire. -/
structure WireView where
  writer : Option CallId
  wire : Bytes
  sent : List Frame
  /-- The response that a call writes, and the pieces of it that are not on the wire yet. -/
  writing : CallId → Option (Option Frame × List Bytes)

namespace WireView

/-- The steps that change what is on the wire, or who writes to it. -/
inductive Step (v : WireView) : WireView → Prop where
  /-- A call takes the lock, with a response to write. -/
  | lock (i : CallId) (f : Frame) (free : v.writer = none) :
    Step v { v with
      writer := some i
      writing := Function.update v.writing i (some (some f, chunks f.bytes)) }
  /-- A call puts a piece of its response onto the wire. -/
  | write (i : CallId) (frame? : Option Frame) (piece : Bytes) (rest : List Bytes)
    (here : v.writing i = some (frame?, piece :: rest)) :
    Step v { v with
      wire := v.wire ++ piece
      writing := Function.update v.writing i (some (frame?, rest)) }
  /-- A call whose response is out gives the lock back. -/
  | unlock (i : CallId) (frame? : Option Frame) (here : v.writing i = some (frame?, [])) :
    Step v { v with
      writer := none
      sent := v.sent ++ frame?.toList
      writing := Function.update v.writing i none }

/-- The invariant of the wire. -/
inductive Sound (v : WireView) : Prop where
  /-- Nobody writes, and the wire is whole frames. -/
  | idle (free : v.writer = none) (none_writes : ∀ i, v.writing i = none)
    (wire : v.wire = v.sent.flatMap Frame.bytes)
  /-- Call `i` writes, and behind the whole frames is what it has written so far. -/
  | busy (i : CallId) (f : Frame) (written rest : List Bytes) (held : v.writer = some i)
    (writes : v.writing i = some (some f, rest)) (none_else : ∀ j, j ≠ i → v.writing j = none)
    (pieces : chunks f.bytes = written ++ rest)
    (wire : v.wire = v.sent.flatMap Frame.bytes ++ written.flatten)

variable {v w : WireView}

/-- Only the call that holds the lock has anything to write. -/
theorem Sound.writes (h : v.Sound) {i : CallId} {frame? : Option Frame} {rest : List Bytes}
    (hi : v.writing i = some (frame?, rest)) :
    ∃ f written, frame? = some f ∧ v.writer = some i ∧ (∀ j, j ≠ i → v.writing j = none) ∧
      chunks f.bytes = written ++ rest ∧
      v.wire = v.sent.flatMap Frame.bytes ++ written.flatten := by
  cases h with
  | idle free none_writes wire =>
    rw [none_writes] at hi
    cases hi
  | busy k f written rest' held writes none_else pieces wire =>
    have hik : i = k := by
      by_contra hne
      rw [none_else i hne] at hi
      cases hi
    subst hik
    rw [writes] at hi
    cases hi
    exact ⟨f, written, rfl, held, none_else, pieces, wire⟩

/-- While nobody holds the lock, the wire is whole frames. -/
theorem Sound.wire_of_free (h : v.Sound) (free : v.writer = none) :
    v.wire = v.sent.flatMap Frame.bytes := by
  cases h with
  | busy i f written rest held _ _ _ _ =>
    rw [free] at held
    cases held
  | idle _ _ wire => exact wire

/-- **Every step on the wire keeps the invariant.** -/
theorem Sound.step (h : v.Sound) (hstep : Step v w) : w.Sound := by
  cases hstep with
  | lock i f free =>
    cases h with
    | busy k f' written rest held _ _ _ _ =>
      rw [free] at held
      cases held
    | idle _ none_writes wire =>
      refine .busy i f [] (chunks f.bytes) rfl (Function.update_self ..) ?_ rfl ?_
      · intro j hj
        exact (Function.update_of_ne hj ..).trans (none_writes j)
      · rw [List.flatten_nil, List.append_nil]
        exact wire
  | write i frame? piece rest here =>
    obtain ⟨f, written, rfl, held, none_else, pieces, wire⟩ := h.writes here
    refine .busy i f (written ++ [piece]) rest held (Function.update_self ..) ?_ ?_ ?_
    · intro j hj
      exact (Function.update_of_ne hj ..).trans (none_else j hj)
    · rw [pieces, List.append_assoc, List.singleton_append]
    · change v.wire ++ piece = _
      rw [wire, List.flatten_append, List.flatten_singleton, List.append_assoc]
  | unlock i frame? here =>
    obtain ⟨f, written, rfl, held, none_else, pieces, wire⟩ := h.writes here
    have hwritten : written.flatten = f.bytes := by
      rw [List.append_nil] at pieces
      rw [← pieces, flatten_chunks]
    refine .idle rfl ?_ ?_
    · intro j
      by_cases hj : j = i
      · subst hj
        exact Function.update_self ..
      · exact (Function.update_of_ne hj ..).trans (none_else j hj)
    · change v.wire = (v.sent ++ [f]).flatMap Frame.bytes
      rw [wire, hwritten, List.flatMap_append, List.flatMap_singleton]

end WireView

variable {ι σ κ : Type} [MessageFamily ι]

/-! ## The wire of an exchange -/

/-- The response a call writes in this phase, and the pieces of it that are not on the wire yet. -/
def Phase.writing? : Phase ι σ κ → Option (Option Frame × List Bytes)
  | .writing frame? rest => some (frame?, rest)
  | _ => none

theorem Phase.writing?_of_isInside {phase : Phase ι σ κ} (h : phase.isInside = true) :
    phase.writing? = none := by
  cases phase with
  | writing frame? rest => cases h
  | _ => rfl

namespace Exchange

/-- What matters of an exchange for what is on the wire. -/
def wireView (x : Exchange ι σ κ) : WireView :=
  ⟨x.connection.writer, x.connection.wire, x.connection.sent, aspect (·.phase.writing?) x.calls⟩

variable {x y : Exchange ι σ κ} {i : CallId} {c : Call ι σ κ}

theorem wireView_set (here : x.calls[i]? = some c) (phase : Phase ι σ κ) (s : Station ι σ κ) :
    wireView ⟨s, x.calls.set i { c with phase }⟩ =
      ⟨s.connection.writer, s.connection.wire, s.connection.sent,
        Function.update x.wireView.writing i phase.writing?⟩ := by
  unfold wireView
  rw [aspect_set _ here]
  rfl

/-- A move that leaves the wire and its own writing alone is none for the wire. -/
theorem wireView_of_same (here : x.calls[i]? = some c) {phase : Phase ι σ κ} {s : Station ι σ κ}
    (hp : phase.writing? = c.phase.writing?) (hwriter : s.connection.writer = x.connection.writer)
    (hwire : s.connection.wire = x.connection.wire)
    (hsent : s.connection.sent = x.connection.sent) :
    wireView ⟨s, x.calls.set i { c with phase }⟩ = x.wireView := by
  have hat : x.wireView.writing i = c.phase.writing? := aspect_of_getElem? _ here
  rw [wireView_set here, hwriter, hwire, hsent, hp, ← hat, Function.update_eq_self]
  rfl

/-- A move does nothing to the wire or takes a step on it. -/
theorem wireView_of_outward {phase : Phase ι σ κ} {s : Station ι σ κ}
    (here : x.calls[i]? = some c)
    (h : Outward i c.request c.guarded x.station c.phase phase s) :
    wireView ⟨s, x.calls.set i { c with phase }⟩ = x.wireView ∨
      x.wireView.Step (wireView ⟨s, x.calls.set i { c with phase }⟩) := by
  have hat : x.wireView.writing i = c.phase.writing? := aspect_of_getElem? _ here
  have same := @wireView_of_same _ _ _ _ x i c here
  generalize c.phase = p at h hat same
  cases h with
  | silent before after hs =>
    have hp := (Phase.writing?_of_isInside after).trans (Phase.writing?_of_isInside before).symm
    exact .inl (same hp hs.writer hs.wire hs.sent)
  | forget => exact .inl (same rfl rfl rfl (Connection.sent_free _ _ _))
  | finish =>
    refine .inl ?_
    split
    · exact same rfl rfl rfl (Connection.sent_dropGuard _ _)
    · exact same rfl rfl rfl rfl
  | lock reply error free =>
    have hlog := x.station.connection.silent_lock i (c.request.compose reply error).1
    refine .inr ?_
    rw [wireView_set here]
    simp only [Station.onConnection]
    rw [hlog.writer, hlog.wire, hlog.sent]
    exact .lock i (c.request.compose reply error).2 free
  | write frame? piece rest =>
    refine .inr ?_
    rw [wireView_set here]
    exact .write i frame? piece rest hat
  | unlock frame? =>
    refine .inr ?_
    rw [wireView_set here]
    simp only [Station.onConnection]
    rw [Connection.sent_unlock]
    have hstep := WireView.Step.unlock i frame? hat
    cases frame? with
    | none => exact hstep
    | some f => exact hstep

/-- On an exchange on which nothing has happened nobody writes. -/
theorem sound_wireView_new (server : Server ι σ κ) (ref : TableRef) :
    (new server ref).wireView.Sound := .idle rfl (fun _ => rfl) rfl

/-- A call that arrives is nothing for the wire. -/
theorem wireView_arrive (x : Exchange ι σ κ) (request : Request) (guarded : Bool)
    {phase : Phase ι σ κ} (events : List Event) (first : phase.IsFirst) :
    wireView ⟨x.station.onConnection fun c =>
        (if guarded then c.addGuard else c).record (logged x.calls.length events),
      x.calls ++ [⟨request, guarded, phase⟩]⟩ = x.wireView := by
  have hp : phase.writing? = none := Phase.writing?_of_isInside first.isInside
  unfold wireView
  rw [aspect_append (c := ⟨request, guarded, phase⟩) _ hp]
  simp only [connection, Station.onConnection]
  have hlog := (if guarded then x.station.connection.addGuard
    else x.station.connection).silent_record _
      (remarks_logged x.calls.length events).responses
  rw [hlog.writer, hlog.wire, hlog.sent]
  cases guarded <;> rfl

variable [Inhabited σ]

theorem wireView_of_next (h : x.Next y) : y.wireView = x.wireView ∨ x.wireView.Step y.wireView := by
  cases h with
  | arrive request guarded phase events first =>
    exact .inl (x.wireView_arrive request guarded events first)
  | move here moves => exact wireView_of_outward here moves.outward

theorem Next.sound_wireView (h : x.Next y) (sound : x.wireView.Sound) : y.wireView.Sound := by
  rcases wireView_of_next h with heq | hstep
  · rw [heq]
    exact sound
  · exact sound.step hstep

/-- **The invariant of the wire holds on every schedule.** -/
theorem sound_wireView {server : Server ι σ κ} {ref : TableRef} (h : (new server ref).Runs x) :
    x.wireView.Sound :=
  h.invariant (P := fun x => x.wireView.Sound) (sound_wireView_new server ref)
    fun _ _ hnext hx => hnext.sound_wireView hx

/-- While nobody writes, the wire reads back as the responses sent, in the order in which they were
sent. -/
theorem frames_eq_sent {server : Server ι σ κ} {ref : TableRef} (h : (new server ref).Runs x)
    (free : x.connection.writer = none) (hfit : ∀ f ∈ x.connection.sent, f.Fits) :
    x.connection.frames = .ok x.connection.sent := by
  have wire : x.connection.wire = x.connection.sent.flatMap Frame.bytes :=
    (sound_wireView h).wire_of_free free
  rw [Connection.frames, wire]
  exact Frame.decodeAll_frames hfit

end Exchange

end Switchboard
