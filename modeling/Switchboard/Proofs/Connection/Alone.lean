import Switchboard.Proofs.Connection.Grants
import Switchboard.Proofs.Connection.Outward

/-!
# Calls that have the exchange to themselves

What can hold a call up is the lock on its receiver, the lock on the wire, and the wait of its body.
A wait is over when its time is up, and the locks are held by other calls: a call whose locks are
free comes to its end by taking its turns, whatever the others are about.

Results:

* `Moves.isClear`: a call keeps its way clear by itself.
* `Phase.IsClear.ends`: a call whose way is clear comes to its end, from every phase.
* `Exchange.exists_end`: the turns that it takes are a schedule.
-/

namespace Switchboard

variable {ι σ κ : Type} [MessageFamily ι] [Inhabited σ]

/-! ## The way of one call -/

/-- The call comes to its end from this phase and station when it makes the moves it can make. -/
inductive Ends (i : CallId) (r : Request) (guarded : Bool) :
    Phase ι σ κ → Station ι σ κ → Prop where
  | ended (s : Station ι σ κ) : Ends i r guarded .over s
  | move {phase phase' : Phase ι σ κ} {s s' : Station ι σ κ}
    (moves : Moves i r guarded s phase phase' s') (rest : Ends i r guarded phase' s') :
    Ends i r guarded phase s

/-- No lock that the call still needs is held. -/
def Phase.IsClear (s : Station ι σ κ) : Phase ι σ κ → Prop
  | .accepted call | .registered call _ | .ready call _ =>
    call.service ∉ s.taken ∧ s.connection.writer = none
  | .running .. | .flagging .. | .releasing .. | .released _ | .answering .. =>
    s.connection.writer = none
  | _ => True

variable {i : CallId} {r : Request} {guarded : Bool}

section Ends

variable {s : Station ι σ κ}

theorem ends_written : Ends i r guarded .written s :=
  .move .forget (.move .finish (.ended _))

theorem ends_writing (frame? : Option Frame) (pieces : List Bytes) :
    Ends i r guarded (.writing frame? pieces) s := by
  induction pieces generalizing s with
  | nil => exact .move (.unlock frame?) ends_written
  | cons piece rest ih => exact .move (.write frame? piece rest) ih

theorem ends_answering (reply : Reply ι) (error : String) (clear : s.connection.writer = none) :
    Ends i r guarded (.answering reply error) s :=
  .move (.lock reply error clear) (ends_writing _ _)

theorem ends_released (finished : Finished ι) (clear : s.connection.writer = none) :
    Ends i r guarded (.released finished) s := by
  refine .move (.report finished) (ends_answering _ _ ?_)
  exact (s.connection.silent_log i _).writer.trans clear

theorem ends_releasing (token : Token) (victim? : Option Token) (finished : Finished ι)
    (clear : s.connection.writer = none) :
    Ends i r guarded (.releasing token victim? finished) s := by
  refine .move (.settle token victim? finished) (ends_released finished ?_)
  exact (s.connection.silent_flag? victim?).writer.trans clear

theorem ends_unlocked (place : Place) (finished : Finished ι) (locks : place.locks = false)
    (clear : s.connection.writer = none) :
    Ends i r guarded (.running place (.done finished)) s := by
  refine .move (.release place finished locks) (ends_releasing _ _ finished ?_)
  exact (s.connection.silent_remove i r.seq).writer.trans clear

/-- A body that is over gives its lock back, if it has one, and is released. -/
theorem ends_done (place : Place) (finished : Finished ι) (clear : s.connection.writer = none) :
    Ends i r guarded (.running place (.done finished)) s := by
  by_cases locks : place.locks = true
  · refine .move (.giveBack place finished locks) (ends_unlocked _ finished rfl ?_)
    rw [Station.giveBack_connection]
    exact clear
  · exact ends_unlocked place finished (Bool.eq_false_iff.2 locks) clear

/-- Every body ends, whatever its actions give back. -/
theorem ends_running (place : Place) (rest : Script σ (Finished ι))
    (clear : s.connection.writer = none) : Ends i r guarded (.running place rest) s := by
  induction rest generalizing s with
  | done finished => exact ends_done place finished clear
  | act a next ih =>
    by_cases plain : a.isCancel = false
    · refine .move (.act place a next plain) (ih _ ?_)
      exact (Station.silent_perform place plain s).writer.trans clear
    · cases a with
      | cancel seq =>
        have hremove := (s.connection.silent_remove i seq).writer.trans clear
        by_cases may : s.mayCancel place = true
        · cases found : (s.connection.remove i seq).1 with
          | none => exact .move (.miss place seq next may found) (ih () hremove)
          | some victim =>
            exact .move (.hunt place seq next victim may found)
              (.move (.flag place victim (next ())) (ih () hremove))
        · exact .move (.refuse place seq next (Bool.eq_false_iff.2 may)) (ih () clear)
      | _ => exact absurd rfl plain

theorem ends_ready (call : PreparedCall ι κ) (token : Token) (free : call.service ∉ s.taken)
    (clear : s.connection.writer = none) : Ends i r guarded (.ready call token) s := by
  have hbarred : s.isBarred (s.invoke i call token).1 = false := by
    unfold Station.isBarred
    rw [s.invoke_service, Bool.and_eq_false_iff]
    exact .inr (Bool.eq_false_iff.2 fun h => free (List.contains_iff_mem.1 h))
  refine .move (.enter call token hbarred) (ends_running _ _ ?_)
  rw [Station.take_connection]
  exact clear

theorem ends_registered (call : PreparedCall ι κ) (token : Token) (free : call.service ∉ s.taken)
    (clear : s.connection.writer = none) : Ends i r guarded (.registered call token) s := by
  obtain ⟨es, hes, hs⟩ := s.handOver_snd i r call
  refine .move (.handOver call token) (ends_ready _ token ?_ ?_)
  · rw [s.handOver_fst, PreparedCall.service_handed, hs]
    exact free
  · rw [hs]
    exact clear

/-- **A call whose way is clear comes to its end.** -/
theorem Phase.IsClear.ends {phase : Phase ι σ κ} (h : phase.IsClear s) :
    Ends i r guarded phase s := by
  cases phase with
  | accepted call =>
    refine .move (.start call) (ends_registered call _ h.1 ?_)
    exact (s.connection.silent_start i r.seq).writer.trans h.2
  | registered call token => exact ends_registered call token h.1 h.2
  | ready call token => exact ends_ready call token h.1 h.2
  | running place rest => exact ends_running place rest h
  | flagging place victim rest => exact .move (.flag place victim rest) (ends_running place rest h)
  | releasing token victim? finished => exact ends_releasing token victim? finished h
  | released finished => exact ends_released finished h
  | answering reply error => exact ends_answering reply error h
  | writing frame? pieces => exact ends_writing frame? pieces
  | written => exact ends_written
  | forgotten => exact .move .finish (.ended _)
  | «over» => exact .ended s

end Ends

/-- A call keeps its way clear by itself. -/
theorem Moves.isClear {s s' : Station ι σ κ} {phase phase' : Phase ι σ κ}
    (h : Moves i r guarded s phase phase' s') (hp : phase.IsClear s) : phase'.IsClear s' := by
  cases h with
  | start call => exact ⟨hp.1, (s.connection.silent_start i r.seq).writer.trans hp.2⟩
  | handOver call token =>
    obtain ⟨es, hes, hs⟩ := s.handOver_snd i r call
    rw [hs, s.handOver_fst]
    exact ⟨(call.service_handed _).symm ▸ hp.1, hp.2⟩
  | enter call token free => exact (congrArg Connection.writer (s.take_connection _)).trans hp.2
  | hunt place seq next victim may found =>
    exact (s.connection.silent_remove i seq).writer.trans hp
  | miss place seq next may found => exact (s.connection.silent_remove i seq).writer.trans hp
  | refuse place seq next may => exact hp
  | act place a next plain => exact (Station.silent_perform place plain s).writer.trans hp
  | giveBack place finished locks =>
    exact (congrArg Connection.writer (s.giveBack_connection place)).trans hp
  | release place finished locks => exact (s.connection.silent_remove i r.seq).writer.trans hp
  | flag place victim rest => exact hp
  | settle token victim? finished =>
    exact (s.connection.silent_flag? victim?).writer.trans hp
  | report finished => exact (s.connection.silent_log i _).writer.trans hp
  | _ => trivial

namespace Exchange

variable {x y : Exchange ι σ κ} {phase : Phase ι σ κ}

/-- A move of call `i` is a turn of it. -/
theorem step_of_moves (here : x.calls[i]? = some ⟨r, guarded, phase⟩) {phase' : Phase ι σ κ}
    {s : Station ι σ κ} (moves : Moves i r guarded x.station phase phase' s) :
    x.step i true = some ⟨s, x.calls.set i ⟨r, guarded, phase'⟩⟩ := by
  unfold step
  rw [here]
  dsimp only
  rw [Call.step_of_moves moves]

theorem exists_follow_of_ends {s : Station ι σ κ} (h : Ends i r guarded phase s)
    (here : x.calls[i]? = some ⟨r, guarded, phase⟩) (hs : x.station = s) :
    ∃ n z, x.follow (.replicate n (.call i true)) = some z ∧
      z.calls[i]? = some ⟨r, guarded, .over⟩ := by
  induction h generalizing x with
  | ended s => exact ⟨0, x, rfl, here⟩
  | @move phase phase' s s' moves rest ih =>
    subst hs
    obtain ⟨hi, -⟩ := List.getElem?_eq_some_iff.1 here
    obtain ⟨n, z, hz, hover⟩ := ih (x := ⟨s', x.calls.set i ⟨r, guarded, phase'⟩⟩)
      (List.getElem?_set_self hi) rfl
    refine ⟨n + 1, z, ?_, hover⟩
    rw [List.replicate_succ, follow_cons]
    exact Option.bind_eq_some_iff.2 ⟨_, step_of_moves here moves, hz⟩

/-- **However far a call has come while it had the exchange to itself, it comes to its end**, if its
way was clear at the beginning. -/
theorem exists_end (here : x.calls[i]? = some ⟨r, guarded, phase⟩) (clear : phase.IsClear x.station)
    {turns : List Bool} (hy : x.follow (turns.map (.call i)) = some y) :
    ∃ n z, y.follow (.replicate n (.call i true)) = some z ∧
      z.calls[i]? = some ⟨r, guarded, .over⟩ := by
  induction turns generalizing x phase with
  | nil =>
    cases hy
    exact exists_follow_of_ends clear.ends here rfl
  | cons expired turns ih =>
    obtain ⟨w, hw, hrest⟩ := Option.bind_eq_some_iff.1 hy
    obtain ⟨phase', here', moves⟩ := moves_of_turn hw here
    exact ih here' (moves.isClear clear) hrest

end Exchange

end Switchboard
