import Switchboard.Proofs.Connection.Alone

/-!
# Turns and completion

A call that has the exchange to itself takes its turns one after the other. `Call.complete` goes
through all that is left of it in one go, without phases in between. Both do the same: a move leaves
what completing the call comes to as it was, so a call that has made all its moves has done what
completing it at the beginning would have done.

Results:

* `Call.answered_endAnswer`: what a call that has its answer still does to the connection.
* `Moves.complete_eq`: a move leaves what completing the call comes to.
* `Exchange.follow_eq_complete`: turns that bring a call to its end complete it.
* `Exchange.endsAlone_iff`, `Exchange.endsAlone_push`: a call that can come to its end comes to one
  end alone, and so does a call that has just come in.
-/

namespace Switchboard

variable {ι σ κ : Type} [MessageFamily ι] [Inhabited σ]

omit [Inhabited σ] in
/-- The whole response goes onto the wire, piece by piece. -/
theorem Call.endAnswer_eq (i : CallId) (c : Call ι σ κ) (reply : Reply ι) (error : String)
    (s : Station ι σ κ) :
    c.endAnswer i reply error s =
      let composed := c.request.compose reply error
      c.endWrite i (some composed.2) (chunks composed.2.bytes)
        (s.onConnection fun k => (k.lock i).log i composed.1) := by
  unfold endAnswer
  simp only [Frame.pieces_eq]

/-! ## The end of a call -/

/-- The request number `q` is answered with this frame and forgotten. -/
structure Connection.Answered (k : Connection) (q : UInt64) (frame : Frame) (k' : Connection) :
    Prop where
  wire : k'.wire = k.wire ++ frame.bytes
  sent : k'.sent = k.sent ++ [frame]
  freed : k'.freed = k.freed ++ [q]

/-- What cannot be seen from outside may come before. -/
theorem Connection.Silent.answered {k k' k'' : Connection} {q : UInt64} {frame : Frame}
    (h : k.Silent k') (answered : k'.Answered q frame k'') : k.Answered q frame k'' :=
  ⟨answered.wire.trans (congrArg (· ++ frame.bytes) h.wire),
    answered.sent.trans (congrArg (· ++ [frame]) h.sent),
    answered.freed.trans (congrArg (· ++ [q]) h.freed)⟩

theorem Connection.foldl_write (k : Connection) (pieces : List Bytes) :
    pieces.foldl write k = { k with wire := k.wire ++ pieces.flatten } := by
  induction pieces generalizing k with
  | nil => simp
  | cons piece pieces ih =>
    rw [List.foldl_cons, ih, List.flatten_cons]
    unfold write
    rw [List.append_assoc]

omit [Inhabited σ] in
/-- **A call that has its answer puts it onto the wire and is forgotten.** -/
theorem Call.answered_endAnswer (i : CallId) (c : Call ι σ κ) (reply : Reply ι) (error : String)
    (s : Station ι σ κ) :
    s.connection.Answered c.request.seq (c.request.compose reply error).2
      (c.endAnswer i reply error s).connection ∧
    (c.endAnswer i reply error s).connection.pending = s.connection.pending := by
  rw [endAnswer_eq]
  generalize c.request.compose reply error = composed
  obtain ⟨events, frame⟩ := composed
  have hlog := s.connection.silent_lock i events
  have hpending := (s.connection.lock i).pending_log i events
  unfold endWrite endFree
  dsimp only [Station.onConnection]
  rw [Connection.foldl_write, flatten_chunks]
  have answered : s.connection.Answered c.request.seq frame
      (({ (s.connection.lock i).log i events with
        wire := ((s.connection.lock i).log i events).wire ++ frame.bytes }.unlock i
          (some frame)).free i c.request.seq) := by
    refine ⟨congrArg (· ++ frame.bytes) hlog.wire, ?_, congrArg (· ++ [c.request.seq]) hlog.freed⟩
    rw [Connection.sent_free, Connection.sent_unlock]
    exact congrArg (· ++ [frame]) hlog.sent
  -- The guard is dropped last, and that touches nothing else.
  unfold endGuard
  split
  · exact ⟨⟨answered.wire, (Connection.sent_dropGuard _ i).trans answered.sent, answered.freed⟩,
      hpending⟩
  · exact ⟨answered, hpending⟩

/-! ## Moves and completion -/

/-- A body that runs for the call notes its cancellations as the call's. -/
def Phase.IsOf (i : CallId) : Phase ι σ κ → Prop
  | .running place _ | .flagging place _ _ => place.call = i
  | _ => True

namespace Moves

variable {i : CallId} {r : Request} {guarded : Bool} {s s' : Station ι σ κ}
  {phase phase' : Phase ι σ κ}

theorem isOf (moves : Moves i r guarded s phase phase' s') (own : phase.IsOf i) :
    phase'.IsOf i := by
  cases moves with
  | enter call token free =>
    change (s.invoke i call token).1.call = i
    unfold Station.invoke
    dsimp only
    split <;> rfl
  | hunt => exact own
  | miss => exact own
  | refuse => exact own
  | act => exact own
  | giveBack => exact own
  | flag => exact own
  | _ => trivial

/-- **A move leaves what completing the call comes to.** -/
theorem complete_eq (moves : Moves i r guarded s phase phase' s') (own : phase.IsOf i) :
    Call.complete i ⟨r, guarded, phase'⟩ s' = Call.complete i ⟨r, guarded, phase⟩ s := by
  refine congrArg (Prod.mk _) ?_
  cases moves with
  | hunt place seq next victim may found =>
    have canceled : (Station.perform place (.cancel seq) s).2 =
        s.onConnection fun k => (k.remove i seq).2.flag victim := by
      refine (if_pos may).trans ?_
      unfold Station.onConnection Connection.cancel
      rw [show place.call = i from own]
      simp only [found, Connection.flag?]
    exact congrArg (Call.endRun i _ place (next ())) canceled.symm
  | miss place seq next may found =>
    have canceled : (Station.perform place (.cancel seq) s).2 =
        s.onConnection fun k => (k.remove i seq).2 := by
      refine (if_pos may).trans ?_
      unfold Station.onConnection Connection.cancel
      rw [show place.call = i from own]
      simp only [found, Connection.flag?]
    exact congrArg (Call.endRun i _ place (next ())) canceled.symm
  | refuse place seq next may =>
    have refused : (Station.perform place (.cancel seq) s).2 = s :=
      if_neg (Bool.eq_false_iff.1 may)
    exact congrArg (Call.endRun i _ place (next ())) refused.symm
  | giveBack place finished locks => rfl
  | release place finished locks =>
    have kept : s.giveBack place = s := by
      unfold Station.giveBack
      rw [locks]
      rfl
    change _ = Call.endRelease i _ finished (s.giveBack place)
    rw [kept]
    rfl
  | lock reply error free => exact (Call.endAnswer_eq i ⟨r, guarded, _⟩ reply error s).symm
  | _ => rfl

end Moves

namespace Exchange

variable {x z : Exchange ι σ κ} {i : CallId} {r : Request} {guarded : Bool} {phase : Phase ι σ κ}

/-- Call `i` is the only one to take turns, until it is over. -/
def EndsAlone (x : Exchange ι σ κ) (i : CallId) (z : Exchange ι σ κ) : Prop :=
  ∃ turns : List Bool, x.follow (turns.map (.call i)) = some z ∧
    ∃ c, z.calls[i]? = some c ∧ c.phase = .over

/-- Turns that bring a call to its end complete it. -/
theorem follow_eq_complete (here : x.calls[i]? = some ⟨r, guarded, phase⟩) (own : phase.IsOf i)
    {turns : List Bool} (hz : x.follow (turns.map (.call i)) = some z) {c : Call ι σ κ}
    (there : z.calls[i]? = some c) (ended : c.phase = .over) : z = x.complete i := by
  induction turns generalizing x phase with
  | nil =>
    obtain rfl := Option.some.inj hz
    cases here.symm.trans there
    obtain rfl : phase = .over := ended
    obtain ⟨hi, hc⟩ := List.getElem?_eq_some_iff.1 here
    have same : x.calls.set i ⟨r, guarded, .over⟩ = x.calls := by
      rw [← hc, List.set_getElem_self]
    unfold complete onCall
    rw [here]
    exact (congrArg (Exchange.mk x.station) same).symm
  | cons expired turns ih =>
    obtain ⟨y, hy, hrest⟩ := Option.bind_eq_some_iff.1 hz
    obtain ⟨d, phase', hd, moves, hcalls⟩ := exists_of_step hy
    cases here.symm.trans hd
    obtain ⟨hi, -⟩ := List.getElem?_eq_some_iff.1 here
    have here' : y.calls[i]? = some ⟨r, guarded, phase'⟩ := by
      rw [hcalls, List.getElem?_set_self hi]
    rw [ih here' (moves.isOf own) hrest]
    unfold complete onCall
    rw [here', here, hcalls]
    dsimp only
    rw [moves.complete_eq own, List.set_set]

/-- **A call that can come to its end comes to one end alone, its completion.** -/
theorem endsAlone_iff (here : x.calls[i]? = some ⟨r, guarded, phase⟩) (own : phase.IsOf i)
    (ends : Ends i r guarded phase x.station) : x.EndsAlone i z ↔ z = x.complete i := by
  obtain ⟨n, w, hw, hover⟩ := exists_follow_of_ends ends here rfl
  have turns_eq : List.replicate n (Choice.call i true) =
      (List.replicate n true).map (.call (ι := ι) (κ := κ) i) := (List.map_replicate ..).symm
  rw [turns_eq] at hw
  constructor
  · rintro ⟨turns, hz, c, there, ended⟩
    exact follow_eq_complete here own hz there ended
  · rintro rfl
    rw [← follow_eq_complete here own hw hover rfl]
    exact ⟨_, hw, _, hover, rfl⟩

theorem station_complete_push (x : Exchange ι σ κ) (r : Request) (guarded : Bool)
    (phase : Phase ι σ κ) : ((x.push r guarded phase).complete x.calls.length).station =
      (Call.complete x.calls.length ⟨r, guarded, phase⟩ x.station).2 := by
  have here : (x.push r guarded phase).calls[x.calls.length]? = some ⟨r, guarded, phase⟩ :=
    List.getElem?_concat_length
  unfold complete onCall
  rw [here]
  rfl

/-- **A call that has just come in and takes its turns alone ends as completing it does.** It comes
to its end if no lock that it needs is held. -/
theorem endsAlone_push (x : Exchange ι σ κ) (r : Request) (guarded : Bool)
    (first : phase.IsFirst) :
    (Ends x.calls.length r guarded phase x.station →
      ∃ z, (x.push r guarded phase).EndsAlone x.calls.length z) ∧
    ∀ z, (x.push r guarded phase).EndsAlone x.calls.length z →
      z.station = (Call.complete x.calls.length ⟨r, guarded, phase⟩ x.station).2 := by
  have here : (x.push r guarded phase).calls[x.calls.length]? = some ⟨r, guarded, phase⟩ :=
    List.getElem?_concat_length
  have own : phase.IsOf x.calls.length := by
    cases phase with
    | running => cases first
    | flagging => cases first
    | _ => trivial
  refine ⟨fun ends => ⟨_, (endsAlone_iff here own ends).2 rfl⟩, ?_⟩
  rintro z ⟨turns, hz, c, there, ended⟩
  rw [follow_eq_complete here own hz there ended, station_complete_push]

end Exchange

end Switchboard
