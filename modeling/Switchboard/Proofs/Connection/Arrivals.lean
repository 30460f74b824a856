import Switchboard.Proofs.Connection.Grants
import Switchboard.Proofs.Connection.Reports

/-!
# Arrivals

Every call that is on its way to its answer came in at some choice of the schedule, as the call that
it still is. From there a condition on requests as they come in becomes one on calls under way: if no
number is used again before the response to it is out, no two calls under way have one number.

Results:

* `Exchange.exists_arrival`: the choice at which a call came in.
* `Exchange.pending?_of_arrival`: a call that comes in brings no pending table.
* `Exchange.WellBehaved.exclusive`: with peers that behave well, calls that are not answered yet have
  different numbers.
-/

namespace Switchboard

variable {ι σ κ : Type} [MessageFamily ι]

theorem Phase.isInside_of_isUnanswered {phase : Phase ι σ κ} (h : phase.isUnanswered = true) :
    phase.isInside = true := by
  cases phase with
  | writing | written | forgotten | «over» => cases h
  | _ => rfl

/-- Whether a body is about to cancel its own token. -/
def Phase.abandons : Phase ι σ κ → Bool
  | .running _ (.act .abandon _) => true
  | _ => false

variable [Inhabited σ]

/-- A call does not become unanswered again. -/
theorem Moves.isUnanswered_of_after {i : CallId} {r : Request} {guarded : Bool}
    {s s' : Station ι σ κ} {phase phase' : Phase ι σ κ} (h : Moves i r guarded s phase phase' s')
    (hp : phase'.isUnanswered = true) : phase.isUnanswered = true := by
  cases h with
  | release | settle | report | lock | write | unlock | forget | finish => cases hp
  | _ => rfl

namespace Exchange

variable {x y z : Exchange ι σ κ} {ms ns : List (Choice ι κ)} {i j : CallId} {r : Request}
  {guarded : Bool} {call : PreparedCall ι κ}

/-! ## Calls along a run -/

/-- Call `i` is on its way to its answer. -/
def IsUnanswered (x : Exchange ι σ κ) (i : CallId) : Prop :=
  ∃ c, x.calls[i]? = some c ∧ c.phase.isUnanswered = true

/-- A call keeps its request and its guard. -/
theorem exists_phase_of_runs {phase : Phase ι σ κ} (here : x.calls[i]? = some ⟨r, guarded, phase⟩)
    (h : x.Runs y) : ∃ phase', y.calls[i]? = some ⟨r, guarded, phase'⟩ := by
  refine h.invariant (P := fun y => ∃ phase', y.calls[i]? = some ⟨r, guarded, phase'⟩)
    ⟨phase, here⟩ ?_
  rintro y z hnext ⟨phase', here'⟩
  obtain ⟨phase'', hafter, -⟩ := hnext.call here'
  exact ⟨phase'', hafter⟩

/-- Once a call is there and answered it stays answered. -/
theorem not_isUnanswered_of_runs (hi : i < x.calls.length) (answered : ¬x.IsUnanswered i)
    (h : x.Runs y) : ¬y.IsUnanswered i := by
  have hboth : i < y.calls.length ∧ ¬y.IsUnanswered i := by
    refine h.invariant (P := fun y => i < y.calls.length ∧ ¬y.IsUnanswered i) ⟨hi, answered⟩ ?_
    rintro y z hnext ⟨hi, hy⟩
    obtain ⟨phase', hafter, -⟩ := hnext.call (List.getElem?_eq_getElem hi)
    refine ⟨(List.getElem?_eq_some_iff.1 hafter).1, ?_⟩
    rintro ⟨⟨r, guarded, phase⟩, here, hp⟩
    rcases hnext.origin here with ⟨hlength, -⟩ | ⟨before, hbefore, moves | rfl⟩
    · exact absurd hi (hlength ▸ Nat.lt_irrefl _)
    · exact hy ⟨_, hbefore, moves.isUnanswered_of_after hp⟩
    · exact hy ⟨_, hbefore, hp⟩
  exact hboth.2

/-- What the journal has it keeps. -/
theorem journal_subset_of_runs (h : x.Runs y) : x.connection.journal ⊆ y.connection.journal := by
  refine h.invariant (P := fun y => x.connection.journal ⊆ y.connection.journal)
    (List.Subset.refl _) ?_
  intro y z hnext hy
  have hstep := step_tableView_of_next hnext
  generalize hv : y.tableView = v at hstep
  generalize hw : z.tableView = w at hstep
  have hv' : y.connection.journal = v.journal := congrArg TableView.journal hv
  have hw' : z.connection.journal = w.journal := congrArg TableView.journal hw
  rw [hv'] at hy
  rw [hw']
  cases hstep with
  | flag | abandon => exact hy
  | quiet | start | hunt | release => exact fun e he => List.mem_append_left _ (hy he)

/-! ## Coming in -/

/-- On the schedule `ms` from `x` the request `r` came in as call `i`, prepared as `call`. -/
def CameIn (x : Exchange ι σ κ) (ms : List (Choice ι κ)) (i : CallId) (r : Request)
    (call : PreparedCall ι κ) : Prop :=
  ∃ (before after : List (Choice ι κ)) (y : Exchange ι σ κ) (guarded : Bool),
    ms = before ++ after ∧ x.follow before = some y ∧
      y.calls[i]? = some ⟨r, guarded, .accepted call⟩

/-- **Every call that is on its way to its answer came in** at some choice of the schedule. -/
theorem exists_arrival {server : Server ι σ κ} {ref : TableRef} {phase : Phase ι σ κ}
    (hx : (new server ref).follow ms = some x) (here : x.calls[i]? = some ⟨r, guarded, phase⟩)
    (hp : phase.isUnanswered = true) :
    ∃ before m after y y' call, ms = before ++ m :: after ∧
      (new server ref).follow before = some y ∧ y.choose m = some y' ∧ y'.follow after = some x ∧
      i = y.calls.length ∧ y'.calls[i]? = some ⟨r, guarded, .accepted call⟩ := by
  have hnew : ¬(new server ref).IsUnanswered i := by
    rintro ⟨c, hc, -⟩
    cases hc
  obtain ⟨before, m, after, y, y', hms, hy, hold, hstep, hafter, hleft⟩ :=
    exists_leaving (P := fun w => ¬w.IsUnanswered i) hnew hx fun hnot => hnot ⟨_, here, hp⟩
  obtain ⟨⟨r', guarded', phase'⟩, here', hp'⟩ := Classical.not_not.1 hleft
  obtain ⟨_, hlast⟩ := exists_phase_of_runs here' (runs_of_follow hafter)
  cases here.symm.trans hlast
  rcases (next_of_choose hstep).origin here' with ⟨hi, hfirst⟩ | ⟨_, hbefore, moves | rfl⟩
  · cases phase' with
    | accepted call => exact ⟨before, m, after, y, y', call, hms, hy, hstep, hafter, hi, here'⟩
    | answering => cases hp'
    | _ => exact hfirst.elim
  · exact absurd ⟨_, hbefore, moves.isUnanswered_of_after hp'⟩ hold
  · exact absurd ⟨_, hbefore, hp'⟩ hold

theorem cameIn_of_unanswered {server : Server ι σ κ} {ref : TableRef} {phase : Phase ι σ κ}
    (hx : (new server ref).follow ms = some x) (here : x.calls[i]? = some ⟨r, guarded, phase⟩)
    (hp : phase.isUnanswered = true) : ∃ call, (new server ref).CameIn ms i r call := by
  obtain ⟨before, m, after, y, y', call, rfl, hy, hstep, -, -, here'⟩ := exists_arrival hx here hp
  refine ⟨call, before ++ [m], after, y', guarded, List.append_cons .., ?_, here'⟩
  exact follow_trans hy ((follow_singleton y m).trans hstep)

/-- A call that comes in brings no table: one that was decoded has none, and one that was prepared
elsewhere has none by assumption. -/
theorem pending?_of_arrival {m : Choice ι κ}
    (plain : ∀ request call guarded, m = .dispatch request call guarded →
      call.argument.held.pending? = none)
    (h : x.choose m = some y)
    (here : y.calls[x.calls.length]? = some ⟨r, guarded, .accepted call⟩) :
    call.argument.held.pending? = none := by
  cases m with
  | accept inbound guarded' =>
    cases h
    change (x.accept inbound.request inbound.body inbound.client guarded').2.calls[_]? = _ at here
    have hcalls := x.addGuard_calls guarded'
    unfold accept at here
    dsimp only at here
    split at here
    · next call' hprepare =>
      obtain ⟨service, m, argument, -, hdecode, rfl⟩ := Station.exists_of_prepare hprepare
      rw [← hcalls] at here
      cases List.getElem?_concat_length.symm.trans here
      exact Argument.pending?_of_decode hdecode
    · rw [← hcalls] at here
      cases List.getElem?_concat_length.symm.trans here
  | dispatch request call' guarded' =>
    cases h
    rw [← x.addGuard_calls guarded'] at here
    cases List.getElem?_concat_length.symm.trans here
    exact plain _ _ _ rfl
  | reject request error =>
    cases h
    cases List.getElem?_concat_length.symm.trans here
  | call j expired =>
    obtain ⟨c, phase, -, -, hcalls⟩ := exists_of_step h
    rw [hcalls, List.getElem?_eq_none (Nat.le_of_eq (List.length_set ..))] at here
    cases here

/-! ## Peers that behave well -/

/-- What holds at every point of a schedule; `P` is told what led there. -/
def Along (x : Exchange ι σ κ) (ms : List (Choice ι κ))
    (P : List (Choice ι κ) → Exchange ι σ κ → Prop) : Prop :=
  ∀ before after y, ms = before ++ after → x.follow before = some y → P before y

/-- The peers and the bodies behave well on a schedule. -/
structure WellBehaved (x : Exchange ι σ κ) (ms : List (Choice ι κ)) : Prop where
  /-- No request is accepted before the response to every earlier one of its number is out. -/
  orderly : x.Along ms fun before y => ∀ i j r r' guarded call call',
    x.CameIn before i r call → y.calls[j]? = some ⟨r', guarded, .accepted call'⟩ → i < j →
    r.seq = r'.seq → ∃ f, ⟨some i, .sent f⟩ ∈ y.connection.journal
  /-- No body cancels its own token. -/
  keeps : x.Along ms fun _ y => ∀ c ∈ y.calls, c.phase.abandons = false
  /-- Calls that come in prepared bring no pending table with them. -/
  plain : ∀ request call guarded, .dispatch request call guarded ∈ ms →
    call.argument.held.pending? = none

/-- No two calls that are on their way to their answers have one number. -/
def Exclusive (x : Exchange ι σ κ) : Prop :=
  ∀ (i j : CallId) (c d : Call ι σ κ), x.calls[i]? = some c → x.calls[j]? = some d →
    c.phase.isUnanswered = true → d.phase.isUnanswered = true →
    c.request.seq = d.request.seq → i = j

theorem WellBehaved.not_lt {server : Server ι σ κ} {ref : TableRef}
    (h : (new server ref).WellBehaved (ms ++ ns)) (hx : (new server ref).follow ms = some x)
    {c d : Call ι σ κ} (hc : x.calls[i]? = some c) (hd : x.calls[j]? = some d)
    (hcp : c.phase.isUnanswered = true) (hdp : d.phase.isUnanswered = true)
    (hseq : c.request.seq = d.request.seq) : ¬i < j := by
  intro hij
  obtain ⟨before, m, after, y, y', call, rfl, hy, hstep, hafter, rfl, here⟩ :=
    exists_arrival hx hd hdp
  have hy' : (new server ref).follow (before ++ [m]) = some y' :=
    follow_trans hy ((follow_singleton y m).trans hstep)
  -- the earlier call is there when the later one comes in, and on its way to its answer
  have hlater : y.Runs x := .head (next_of_choose hstep) (runs_of_follow hafter)
  have hyi : y.IsUnanswered i := by
    by_contra hnot
    exact not_isUnanswered_of_runs hij hnot hlater ⟨c, hc, hcp⟩
  obtain ⟨⟨r, guarded, phase⟩, hyc, hyp⟩ := hyi
  obtain ⟨_, hxc⟩ := exists_phase_of_runs hyc hlater
  cases hc.symm.trans hxc
  obtain ⟨call', before', after', w, guarded', hms, hw, hcame⟩ := cameIn_of_unanswered hy hyc hyp
  obtain ⟨f, hsent⟩ := h.orderly (before ++ [m]) (after ++ ns) y'
    (by rw [List.append_cons, List.append_assoc]) hy' i y.calls.length r d.request d.guarded
    call' call ⟨before', after' ++ [m], w, guarded', by rw [hms, List.append_assoc], hw, hcame⟩ here hij hseq
  have hsent' := journal_subset_of_runs (runs_of_follow hafter) hsent
  exact not_mem_responses (runs_of_follow hx) hc (Phase.isInside_of_isUnanswered hcp) f
    (Connection.mem_responses_iff.2 hsent')

/-- **With peers that behave well, calls on their way to their answers have different numbers.** -/
theorem WellBehaved.exclusive {server : Server ι σ κ} {ref : TableRef}
    (h : (new server ref).WellBehaved (ms ++ ns)) (hx : (new server ref).follow ms = some x) :
    x.Exclusive := by
  intro i j c d hc hd hcp hdp hseq
  rcases Nat.lt_trichotomy i j with hij | hij | hij
  · exact absurd hij (h.not_lt hx hc hd hcp hdp hseq)
  · exact hij
  · exact absurd hij (h.not_lt hx hd hc hdp hcp hseq.symm)

/-- Whether no body on a schedule comes to cancel its own token. -/
def keepsTokens (x : Exchange ι σ κ) : List (Choice ι κ) → Bool
  | [] => x.calls.all fun c => !c.phase.abandons
  | m :: ms => (x.calls.all fun c => !c.phase.abandons) && (x.choose m).all (·.keepsTokens ms)

theorem along_of_keepsTokens (h : x.keepsTokens ms = true) :
    x.Along ms fun _ y => ∀ c ∈ y.calls, c.phase.abandons = false := by
  have hall : ∀ {x : Exchange ι σ κ}, (x.calls.all fun c => !c.phase.abandons) = true →
      ∀ c ∈ x.calls, c.phase.abandons = false := by
    intro x hx c hc
    have hkept := List.all_eq_true.1 hx c hc
    cases hphase : c.phase.abandons with
    | false => rfl
    | true =>
      rw [hphase] at hkept
      cases hkept
  rintro before after y rfl hy
  induction before generalizing x with
  | nil =>
    cases hy
    cases after with
    | nil => exact hall h
    | cons m after => exact hall (Bool.and_eq_true_iff.1 h).1
  | cons m before ih =>
    obtain ⟨z, hz, hrest⟩ := Option.bind_eq_some_iff.1 hy
    have hlater := (Bool.and_eq_true_iff.1 h).2
    rw [hz] at hlater
    exact ih hlater hrest

/-- Peers that use no number twice behave well. -/
theorem wellBehaved_of_nodup (hx : x.follow ms = some y)
    (distinct : (y.calls.map (·.request.seq)).Nodup) (keeps : x.keepsTokens ms = true)
    (plain : ∀ request call guarded, .dispatch request call guarded ∈ ms →
      call.argument.held.pending? = none) : x.WellBehaved ms := by
  refine ⟨?_, along_of_keepsTokens keeps, plain⟩
  rintro before after w rfl hw i j r r' guarded call call'
    ⟨first, rest, z, guarded', rfl, hz, hi⟩ hj hij hseq
  rw [follow_append, hw] at hx
  rw [follow_append, hz] at hw
  -- both calls are still there at the end, with their numbers
  obtain ⟨_, hi'⟩ := exists_phase_of_runs hi ((runs_of_follow hw).trans (runs_of_follow hx))
  obtain ⟨_, hj'⟩ := exists_phase_of_runs hj (runs_of_follow hx)
  have hnumbers : (y.calls.map (·.request.seq))[i]? = (y.calls.map (·.request.seq))[j]? := by
    rw [List.getElem?_map, List.getElem?_map, hi', hj']
    exact congrArg some hseq
  obtain ⟨hlength, -⟩ := List.getElem?_eq_some_iff.1 hi'
  rw [← List.length_map (fun c => c.request.seq)] at hlength
  exact absurd ((List.getElem?_inj hlength distinct).1 hnumbers) (Nat.ne_of_lt hij)

end Exchange

end Switchboard
