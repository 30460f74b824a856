import Switchboard.Proofs.Connection.Table

/-!
# The release of a call

A call that ends takes its number out of the pending table and cancels the token it found there.
Between its start and its end, though, a cancellation may have taken the number out, and another
call may have started it again: the token that the release finds is then that other call's.

Results:

* `Exchange.canceled_by_release`: a release cancels the token under the call's number and no other,
  and that is its own unless the number was taken out and started again in the meantime.
* `Exchange.foreign_canceled_by_release`: in that case it cancels the token of another call.
-/

namespace Switchboard

variable {ι σ κ : Type} [MessageFamily ι]

/-- The call was given `t` if it has started, and no other token. -/
def Phase.Given (t : Token) : Phase ι σ κ → Prop
  | .accepted _ => False
  | .registered _ token | .ready _ token => token = t
  | .running place _ | .flagging place _ _ => place.token = t
  | .releasing token _ _ => token = t
  | _ => True

variable [Inhabited σ] {i : CallId} {r : Request} {guarded : Bool}

/-- The token a call is given stays its token. -/
theorem Moves.given {s s' : Station ι σ κ} {phase phase' : Phase ι σ κ} {t : Token}
    (h : Moves i r guarded s phase phase' s') (hp : phase.Given t) : phase'.Given t := by
  cases h with
  | start call => exact hp.elim
  | enter call token free => exact (s.invoke_token i call token).trans hp
  | handOver call token => exact hp
  | hunt place seq next victim may found => exact hp
  | miss place seq next may found => exact hp
  | refuse place seq next may => exact hp
  | act place a next plain => exact hp
  | giveBack place finished locks => exact hp
  | release place finished locks => exact hp
  | flag place victim rest => exact hp
  | settle token victim? finished => trivial
  | report finished => trivial
  | lock reply error free => trivial
  | write frame? piece rest => trivial
  | unlock frame? => trivial
  | forget => trivial
  | finish => trivial

namespace Exchange

variable {w x y z : Exchange ι σ κ} {t own : Token} {victim? : Option Token}
  {finished : Finished ι} {expired : Bool}

/-- A call that was given a token holds it or no longer holds one. -/
theorem given_of_runs {call : PreparedCall ι κ}
    (started : w.calls[i]? = some ⟨r, guarded, .registered call t⟩) (h : w.Runs x) :
    ∃ phase, x.calls[i]? = some ⟨r, guarded, phase⟩ ∧ phase.Given t := by
  refine h.invariant (P := fun x => ∃ phase, x.calls[i]? = some ⟨r, guarded, phase⟩ ∧
    phase.Given t) ⟨_, started, rfl⟩ ?_
  rintro x y hnext ⟨phase, here, hp⟩
  obtain ⟨phase', here', moves | rfl⟩ := hnext.call here
  · exact ⟨phase', here', moves.given hp⟩
  · exact ⟨phase', here', hp⟩

/-- The first half of a release: the number is taken out of the table. -/
theorem exists_of_removal (h : x.step i expired = some y)
    (removed : y.calls[i]? = some ⟨r, guarded, .releasing own victim? finished⟩) :
    ∃ place, x.calls[i]? = some ⟨r, guarded, .running place (.done finished)⟩ ∧
      victim? = x.tableView.token? r.seq ∧
      y.station.connection = (x.connection.remove i r.seq).2 := by
  obtain ⟨⟨request, guarded', phase⟩, phase', here, moves, hcalls⟩ := exists_of_step h
  obtain ⟨hi, -⟩ := List.getElem?_eq_some_iff.1 here
  rw [hcalls, List.getElem?_set_self hi] at removed
  cases removed
  generalize y.station = s' at moves
  cases moves with
  | release place finished locks =>
    exact ⟨place, here, x.connection.fst_remove i request.seq, rfl⟩

/-- The second half of a release: the token that was found is canceled. -/
theorem connection_of_settling (h : x.step i expired = some y)
    (here : x.calls[i]? = some ⟨r, guarded, .releasing own victim? finished⟩) :
    y.connection = x.connection.flag? victim? := by
  obtain ⟨phase', -, moves⟩ := moves_of_turn h here
  unfold connection
  generalize y.station = s' at moves
  cases moves with
  | settle token victim? finished => rfl

/-- **What the release of a call cancels.** Call `i` has started at `w`, with the token `t`. The
step from `x` to `y` is the first half of its release, the others go on from `y` to `z`, and the step
from `z` to `z'` is the second half. The first half cancels no token. The second cancels the token
that the table had under the number and no other; and that is `t`, unless some call took the number
out after `i` had started and another call started it again, whose token it is then. -/
theorem canceled_by_release {server : Server ι σ κ} {ref : TableRef}
    {before since between : List (Choice ι κ)} {call : PreparedCall ι κ} {z' : Exchange ι σ κ}
    {expired' : Bool} (hw : (new server ref).follow before = some w)
    (started : w.calls[i]? = some ⟨r, guarded, .registered call t⟩)
    (hx : w.follow since = some x) (hy : x.step i expired = some y)
    (removed : y.calls[i]? = some ⟨r, guarded, .releasing own victim? finished⟩)
    (hz : y.follow between = some z) (others : ∀ expired, Choice.call i expired ∉ between)
    (hz' : z.step i expired' = some z') :
    (∀ u, y.tableView.isCanceled u = x.tableView.isCanceled u) ∧
      (∀ u, z'.tableView.isCanceled u =
        (decide (x.tableView.token? r.seq = some u) || z.tableView.isCanceled u)) ∧
      ∀ u, x.tableView.token? r.seq = some u → u = t ∨ ∃ j k, j ≠ i ∧
        x.tableView.held j = some (r.seq, u) ∧
        [⟨some i, .started r.seq⟩, ⟨some k, .canceled r.seq⟩, ⟨some j, .started r.seq⟩].Sublist
          x.connection.journal := by
  have hruns : (new server ref).Runs x := (runs_of_follow hw).trans (runs_of_follow hx)
  obtain ⟨place, running, hvictim, hconn⟩ := exists_of_removal hy removed
  have still := getElem?_of_follow hz removed others
  have hsound : z.tableView.Sound :=
    sound_tableView ((hruns.tail (next_step hy)).trans (runs_of_follow hz))
  refine ⟨?_, ?_, ?_⟩
  · intro u
    unfold TableView.isCanceled tableView connection
    rw [hconn, Connection.remove_eq]
    exact congrArg (Tokens.isCanceled · u) (x.connection.pending.tokens_remove r.seq)
  · intro u
    have hconn' := connection_of_settling hz' still
    subst hvictim
    change z'.connection.pending.tokens.isCanceled u = _
    rw [hconn']
    cases hfound : x.tableView.token? r.seq with
    | none => rfl
    | some v =>
      rw [hfound] at still
      have hmade := hsound.made_hunted i v (hunted_of_getElem? still)
      have heq : decide (some v = some u) = decide (u = v) := by
        rw [decide_eq_decide, Option.some.injEq, eq_comm]
      rw [heq]
      exact Pending.isCanceled_cancelToken hmade u
  · intro u hu
    have hheld : x.tableView.held i = some (r.seq, place.token) := held_of_getElem? running
    obtain ⟨phase, here, hgiven⟩ := given_of_runs started (runs_of_follow hx)
    cases running.symm.trans here
    have hown : place.token = t := hgiven
    cases (sound_tableView hruns).fate i r.seq place.token hheld with
    | bound _ bound =>
      rw [bound] at hu
      exact .inl ((Option.some.inj hu).symm.trans hown)
    | gone _ _ _ restarted =>
      obtain ⟨j, k, hj, hsub⟩ := restarted u hu
      by_cases hji : j = i
      · -- the only token that `i` holds is its own
        subst hji
        cases hheld.symm.trans hj
        exact .inl hown
      · exact .inr ⟨j, k, hji, hj, hsub⟩

/-! ### A token of somebody else -/

/-- Call 0 starts the number 1; call 1 is to cancel it, and call 2 to start it as well. -/
def opening : List (Choice Empty Empty) :=
  [.accept (.cancel 1 99) false, .accept (.cancel 2 1) false, .accept (.cancel 1 98) false,
    .call 0 true]

/-- The body of call 0 goes on to its end; then call 1 cancels the number 1, and call 2 starts it. -/
def reusing : List (Choice Empty Empty) :=
  .replicate 5 (.call 0 true) ++ .replicate 7 (.call 1 true) ++ [.call 2 true]

theorem canceled_by_release_reusing :
    ∃ x y z : Exchange Empty Unit Empty,
      (new .bare ⟨0⟩).follow (opening ++ reusing) = some x ∧ x.step 0 true = some y ∧
      y.step 0 true = some z ∧
      (∀ u, z.tableView.isCanceled u =
        (decide (x.tableView.token? 1 = some u) || y.tableView.isCanceled u)) ∧
      ∃ j k, j ≠ 0 ∧ x.tableView.held j = some (1, ⟨2⟩) ∧
        [⟨some 0, .started 1⟩, ⟨some k, .canceled 1⟩, ⟨some j, .started 1⟩].Sublist
          x.connection.journal := by
  have run : ((new Server.bare ⟨0⟩).follow opening).any fun w => (w.follow reusing).any fun x =>
      (x.step 0 true).any fun y => (y.step 0 true).any fun _ => decide
        (w.started? 0 = some (⟨"_goRPC_.Cancel", 1⟩, false, ⟨0⟩) ∧
          y.found? 0 = some (⟨"_goRPC_.Cancel", 1⟩, false, some ⟨2⟩) ∧
          x.tableView.token? 1 = some ⟨2⟩) := by decide +kernel
  simp only [Option.any_eq_true, decide_eq_true_eq] at run
  obtain ⟨w, hw, x, hx, y, hy, z, hz, hstarted, hfound, hbound⟩ := run
  obtain ⟨call, started⟩ := exists_of_started? hstarted
  obtain ⟨own, finished, removed⟩ := exists_of_found? hfound
  obtain ⟨-, hcanceled, hwhose⟩ :=
    canceled_by_release hw started hx hy removed rfl (fun _ => List.not_mem_nil) hz
  have hrun : (new Server.bare ⟨0⟩).follow (opening ++ reusing) = some x := by
    rw [follow_append, hw]
    exact hx
  rcases hwhose ⟨2⟩ hbound with heq | hother
  · cases heq
  · exact ⟨x, y, z, hrun, hy, hz, hcanceled, hother⟩

/-- **A release may cancel a call that has nothing to do with it.** Call 0 was given the token 0 and
call 2 the token 2; both have the number 1. Nothing but the release of call 0 happens from `x` to
`z`, and it cancels the token of call 2, which is under way. -/
theorem foreign_canceled_by_release :
    ∃ x z : Exchange Empty Unit Empty, (new .bare ⟨0⟩).follow (opening ++ reusing) = some x ∧
      x.follow [.call 0 true, .call 0 true] = some z ∧
      x.tableView.held 0 = some (1, ⟨0⟩) ∧ z.tableView.held 0 = none ∧
      z.tableView.held 2 = some (1, ⟨2⟩) ∧ x.tableView.isCanceled ⟨2⟩ = false ∧
      z.tableView.isCanceled ⟨2⟩ = true := by
  have run : ((new Server.bare ⟨0⟩).follow (opening ++ reusing)).any fun x =>
      (x.follow [.call 0 true, .call 0 true]).any fun z => decide
        (x.tableView.held 0 = some (1, ⟨0⟩) ∧ z.tableView.held 0 = none ∧
          z.tableView.held 2 = some (1, ⟨2⟩) ∧ x.tableView.isCanceled ⟨2⟩ = false ∧
          z.tableView.isCanceled ⟨2⟩ = true) := by decide +kernel
  simp only [Option.any_eq_true, decide_eq_true_eq] at run
  obtain ⟨x, hx, z, hz, hview⟩ := run
  exact ⟨x, z, hx, hz, hview⟩

end Exchange

end Switchboard
