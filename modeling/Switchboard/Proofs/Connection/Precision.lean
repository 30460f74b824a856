import Switchboard.Proofs.Connection.Arrivals
import Switchboard.Proofs.Connection.Lifetime
import Switchboard.Proofs.Connection.Release

/-!
# Cancellation is precise

Where peers wait for a response before they use its number again, and bodies leave their own tokens
alone, a token means what a method takes it to mean. Every call has a token to itself; while the call
is under way the token is canceled only after somebody asked for it by the call's number; and once
somebody has, it is, as soon as he is through.

The proof follows one token through the schedule. It is `Intact` from its start on: in the table,
not canceled, and nobody about to cancel it. As no other call has the number, nothing but a
cancellation by that number can put an end to this.

Results:

* `Exchange.Owns.next`: a call that has a token to itself keeps it to itself.
* `Exchange.Intact.exists_removal`: what puts an end to an intact token.
* `Exchange.asks_of_removing`: who takes a number out of the table was asked to cancel it.
* `Exchange.precise_cancelation`: all that together, for every call and every schedule.
-/

namespace Switchboard

variable {ι σ κ : Type} [MessageFamily ι]

theorem Phase.isUnanswered_of_token? {phase : Phase ι σ κ} {t : Token}
    (h : phase.token? = some t) : phase.isUnanswered = true := by
  cases phase with
  | registered | ready | running | flagging => rfl
  | _ => cases h

theorem Phase.Given.token? {phase : Phase ι σ κ} {t : Token} (h : phase.Given t)
    (hp : phase.isUnanswered = true) : phase.token? = some t := by
  cases phase with
  | accepted => exact h.elim
  | registered | ready | running | flagging => exact congrArg some h
  | _ => cases hp

theorem Server.SameBut.offersCancel [Inhabited σ] {s s' : Server ι σ κ} (h : s.SameBut s')
    (offers : s.OffersCancel) : s'.OffersCancel := by
  obtain ⟨state, bound⟩ := offers
  obtain ⟨state', bound'⟩ := h.exists_state bound
  exact ⟨state', bound'⟩

namespace Exchange

variable [Inhabited σ] {w x y y' : Exchange ι σ κ} {ms ns : List (Choice ι κ)} {i k : CallId}
  {r : Request} {guarded expired : Bool} {call : PreparedCall ι κ} {q : UInt64} {t : Token}

/-! ## A token of one's own -/

/-- No call but `i` holds the token. -/
def Owns (x : Exchange ι σ κ) (i : CallId) (t : Token) : Prop :=
  ∀ j q, x.tableView.held j = some (q, t) → j = i

/-- **A call that has a token to itself keeps it to itself**: to get it, another call would have to
start the number while it is in use. -/
theorem Owns.next (own : x.Owns i t) (hsound : x.tableView.Sound)
    (hmade : x.connection.pending.tokens.Made t) (alone : x.Exclusive) (hnext : x.Next y) :
    y.Owns i t := by
  intro j q hj
  obtain ⟨⟨r, guarded, phase'⟩, here, rfl, htoken⟩ := exists_of_held hj
  have old : ∀ {phase : Phase ι σ κ}, x.calls[j]? = some ⟨r, guarded, phase⟩ →
      phase'.token? = phase.token? → j = i := by
    intro phase hbefore heq
    refine own j r.seq ((held_of_getElem? hbefore).trans ?_)
    rw [← heq]
    exact congrArg (Option.map _) htoken
  rcases hnext.origin here with ⟨-, hfirst⟩ | ⟨phase, hbefore, moves | rfl⟩
  · exact nomatch hfirst.token?.symm.trans htoken
  · have touches := moves.touches
    generalize y.station.connection.pending = p at touches
    cases touches with
    | keep htok => exact old hbefore htok
    | start call =>
      cases htoken
      rcases x.connection.pending.token?_or_not_made r.seq with bound | ⟨-, fresh⟩
      · obtain ⟨k, hk⟩ := hsound.holder r.seq _ bound
        cases own k _ hk
        obtain ⟨c, hc, hseq, hp⟩ := exists_of_held hk
        exact alone j i _ c hbefore hc rfl (Phase.isUnanswered_of_token? hp) hseq.symm
      · exact absurd hmade fresh
    | remove place target next may htok => exact old hbefore htok
    | release place finished => cases htoken
    | flag victim htok => exact old hbefore htok
    | abandon place next rest => exact old hbefore rfl
  · exact old hbefore rfl

theorem WellBehaved.left {x : Exchange ι σ κ} (h : x.WellBehaved (ms ++ ns)) :
    x.WellBehaved ms := by
  refine ⟨?_, ?_, ?_⟩
  · rintro before after y rfl hy
    exact h.orderly before (after ++ ns) y (List.append_assoc ..) hy
  · rintro before after y rfl hy
    exact h.keeps before (after ++ ns) y (List.append_assoc ..) hy
  · intro request call guarded hmem
    exact h.plain request call guarded (List.mem_append_left _ hmem)

theorem Owns.follow {server : Server ι σ κ} {ref : TableRef} (own : w.Owns i t)
    (behaved : (new server ref).WellBehaved (ms ++ ns)) (hw : (new server ref).follow ms = some w)
    (hmade : w.connection.pending.tokens.Made t) (hx : w.follow ns = some x) : x.Owns i t := by
  induction ns generalizing ms w with
  | nil =>
    cases hx
    exact own
  | cons m ns ih =>
    obtain ⟨y, hy, hrest⟩ := Option.bind_eq_some_iff.1 hx
    have hnext := next_of_choose hy
    have hsound : w.tableView.Sound := sound_tableView (runs_of_follow hw)
    rw [List.append_cons] at behaved
    refine ih (own.next hsound hmade ?_ hnext) behaved
      (follow_trans hw ((follow_singleton w m).trans hy)) ?_ hrest
    · rw [List.append_assoc] at behaved
      exact behaved.exclusive hw
    · exact TableView.made_step (step_tableView_of_next hnext) hmade

/-! ## The end of an intact token -/

/-- The token is in the table under the number `q`, not canceled, and nobody is about to cancel it. -/
structure Intact (x : Exchange ι σ κ) (q : UInt64) (t : Token) : Prop where
  bound : x.connection.pending.token? q = some t
  uncanceled : x.connection.pending.tokens.isCanceled t = false
  unhunted : ∀ k, x.tableView.hunted k ≠ some t

/-- The body of call `k` is about to take the number `q` out of the table. -/
def Removing (x : Exchange ι σ κ) (k : CallId) (q : UInt64) : Prop :=
  ∃ (r : Request) (guarded : Bool) (place : Place)
    (next : (Action.cancel (σ := σ) q).Answer → Script σ (Finished ι)),
    x.calls[k]? = some ⟨r, guarded, .running place (.act (.cancel q) next)⟩ ∧
      x.station.mayCancel place = true

omit [Inhabited σ] in
/-- A call makes a move that leaves the token in the table, does not cancel it, and does not take it
out under another number. -/
theorem Intact.move {c : Call ι σ κ} {phase : Phase ι σ κ} (h : y.Intact q t)
    (here : y.calls[k]? = some c) (hcalls : y'.calls = y.calls.set k { c with phase })
    (hbound : y'.connection.pending.token? q = some t)
    (huncanceled : y'.connection.pending.tokens.isCanceled t = false)
    (hhunted : phase.hunted? ≠ some t) : y'.Intact q t := by
  refine ⟨hbound, huncanceled, ?_⟩
  intro j hj
  change aspect (·.phase.hunted?) y'.calls j = some t at hj
  rw [hcalls, aspect_set _ here] at hj
  by_cases hjk : j = k
  · subst hjk
    rw [Function.update_self] at hj
    exact hhunted hj
  · rw [Function.update_of_ne hjk] at hj
    exact h.unhunted j hj

/-- **What puts an end to an intact token**: while call `i` holds it, and nobody else does, only a body
that takes the number of `i` out of the table. -/
theorem Intact.exists_removal {m : Choice ι κ} (h : y.Intact q t) (hsound : y.tableView.Sound)
    (own : y.Owns i t) (alone : y.Exclusive) (keeps : ∀ c ∈ y.calls, c.phase.abandons = false)
    (held : y.tableView.held i = some (q, t)) (held' : y'.tableView.held i = some (q, t))
    (hstep : y.choose m = some y') (lost : ¬y'.Intact q t) :
    ∃ k expired, m = .call k expired ∧ y.Removing k q ∧ y'.tableView.hunted k = some t := by
  -- under another number the token is not in the table
  have other : ∀ {q'}, q' ≠ q → y.connection.pending.token? q' ≠ some t := by
    intro q' hq' hbound
    obtain ⟨j, hj⟩ := hsound.holder q' t hbound
    cases own j q' hj
    cases held.symm.trans hj
    exact hq' rfl
  rcases turn_or_arrival hstep with
    ⟨k, expired, rfl⟩ | ⟨hpending, r, guarded, phase, hfirst, hcalls⟩
  · obtain ⟨c, phase, here, moves, hcalls⟩ := exists_of_step hstep
    have stays := fun hbound huncanceled hhunted =>
      lost (h.move here hcalls hbound huncanceled hhunted)
    have hhunted : c.phase.hunted? ≠ some t := fun hk =>
      h.unhunted k ((hunted_of_getElem? here).trans hk)
    obtain ⟨hk, -⟩ := List.getElem?_eq_some_iff.1 here
    have hafter : y'.calls[k]? = some { c with phase } := by
      rw [hcalls, List.getElem?_set_self hk]
    have touches := moves.touches
    generalize hpending : y'.station.connection.pending = p at touches
    change y'.connection.pending = p at hpending
    rw [hpending] at stays
    have apart : ∀ {q'}, q' ≠ q → p = (y.connection.pending.remove q').2.2 →
        phase.hunted? = y.connection.pending.token? q' → False := by
      rintro q' hq' rfl hfound
      refine stays ?_ ?_ ?_
      · rw [Pending.token?_remove, if_neg (Ne.symm hq')]
        exact h.bound
      · rw [Pending.tokens_remove]
        exact h.uncanceled
      · rw [hfound]
        exact other hq'
    obtain ⟨r, guarded, before⟩ := c
    dsimp only at touches hhunted
    cases touches with
    | keep htok hsame => exact (stays h.bound h.uncanceled (hsame ▸ hhunted)).elim
    | start call =>
      refine (stays (y.tableView.token?_start_of_bound r.seq h.bound) ?_ hhunted).elim
      exact (y.connection.pending.isCanceled_start r.seq t).trans h.uncanceled
    | remove place target next may htok hfound =>
      by_cases htarget : target = q
      · subst htarget
        refine ⟨k, expired, rfl, ⟨r, guarded, place, next, here, may⟩, ?_⟩
        exact (hunted_of_getElem? hafter).trans (hfound.trans h.bound)
      · exact (apart htarget rfl hfound).elim
    | release place finished =>
      by_cases hr : r.seq = q
      · -- the number is that of `i` alone, and `i` goes on holding its token
        obtain ⟨d, hd, hseq, hp⟩ := exists_of_held held
        cases alone k i _ d here hd rfl (Phase.isUnanswered_of_token? hp) (hr.trans hseq.symm)
        rw [held_of_getElem? hafter] at held'
        cases held'
      · exact (apart hr rfl rfl).elim
    | flag victim htok hfound hnone =>
      have hmade := hsound.made_hunted k victim ((hunted_of_getElem? here).trans hfound)
      have hne : t ≠ victim := fun heq => hhunted (heq ▸ hfound)
      refine (stays h.bound ?_ ?_).elim
      · refine (Pending.isCanceled_cancelToken hmade t).trans ?_
        rw [decide_eq_false hne]
        exact h.uncanceled
      · rw [hnone]
        exact fun h => nomatch h
    | abandon place next rest => exact nomatch keeps _ (List.mem_of_getElem? here)
  · refine (lost ⟨hpending ▸ h.bound, hpending ▸ h.uncanceled, ?_⟩).elim
    intro j hj
    change aspect (·.phase.hunted?) y'.calls j = some t at hj
    rw [hcalls, aspect_append _ hfirst.hunted?] at hj
    exact h.unhunted j hj

/-! ## From the start of a call on -/

/-- On the schedule `ns` from `w` the body of call `k` takes the number `q` out of the table; what is
left of the schedule then is `after`. -/
def RemovedBy (w : Exchange ι σ κ) (ns : List (Choice ι κ)) (k : CallId) (q : UInt64)
    (after : List (Choice ι κ)) : Prop :=
  ∃ before expired y, ns = before ++ .call k expired :: after ∧ w.follow before = some y ∧
    y.Removing k q

/-- A call that was given a token and holds it later held it all the time. -/
theorem held_of_between (started : w.calls[i]? = some ⟨r, guarded, .registered call t⟩)
    (hy : w.Runs y) (hx : y.Runs x) (held : x.tableView.held i = some (r.seq, t)) :
    y.tableView.held i = some (r.seq, t) := by
  obtain ⟨c, hc, -, hp⟩ := exists_of_held held
  obtain ⟨phase, here, given⟩ := given_of_runs started hy
  have hunanswered : y.IsUnanswered i := by
    by_contra hnot
    exact not_isUnanswered_of_runs (List.getElem?_eq_some_iff.1 here).1 hnot hx
      ⟨c, hc, Phase.isUnanswered_of_token? hp⟩
  obtain ⟨d, hd, hdp⟩ := hunanswered
  cases here.symm.trans hd
  rw [held_of_getElem? here, given.token? hdp]
  rfl

theorem isCanceled_of_runs (hsound : x.tableView.Sound) (h : x.Runs y)
    (ht : x.tableView.isCanceled t = true) : y.tableView.isCanceled t = true := by
  have hboth : y.tableView.Sound ∧ y.tableView.isCanceled t = true := by
    refine h.invariant (P := fun y => y.tableView.Sound ∧ y.tableView.isCanceled t = true)
      ⟨hsound, ht⟩ ?_
    rintro y z hnext ⟨hy, ht⟩
    have hstep := step_tableView_of_next hnext
    exact ⟨hy.step hstep, hy.isCanceled_step hstep ht⟩
  exact hboth.2

/-- Whoever has taken a token out of the table cancels it with his next turn. -/
theorem isCanceled_of_turn (hsound : x.tableView.Sound) (hunted : x.tableView.hunted k = some t)
    (h : x.step k expired = some y) : y.tableView.isCanceled t = true := by
  obtain ⟨c, phase, here, moves, -⟩ := exists_of_step h
  have hfound := (hunted_of_getElem? here).symm.trans hunted
  have hcancel : y.connection.pending = (x.connection.pending.cancelToken t).2 := by
    change y.station.connection.pending = _
    generalize c.phase = before at moves hfound
    generalize y.station = s at moves
    cases moves with
    | flag => cases hfound; rfl
    | settle => cases hfound; rfl
    | _ => cases hfound
  change y.connection.pending.tokens.isCanceled t = true
  rw [hcancel]
  refine (Pending.isCanceled_cancelToken (hsound.made_hunted k t hunted) t).trans ?_
  rw [decide_eq_true rfl, Bool.true_or]

/-- Whoever has taken a token out of the table has not had a turn since, or has canceled it. -/
theorem idle_or_isCanceled (hsound : x.tableView.Sound) (hunted : x.tableView.hunted k = some t)
    (hy : x.follow ns = some y) :
    (y.tableView.hunted k = some t ∧ ∀ expired, Choice.call k expired ∉ ns) ∨
      y.tableView.isCanceled t = true := by
  obtain ⟨c, here, hc⟩ := exists_of_aspect _ hunted
  induction ns generalizing x with
  | nil =>
    cases hy
    exact .inl ⟨hunted, fun _ => List.not_mem_nil⟩
  | cons m ns ih =>
    obtain ⟨z, hz, hrest⟩ := Option.bind_eq_some_iff.1 hy
    have hsound' := hsound.step (step_tableView_of_next (next_of_choose hz))
    by_cases hm : ∃ expired, m = .call k expired
    · obtain ⟨expired, rfl⟩ := hm
      exact .inr (isCanceled_of_runs hsound' (runs_of_follow hrest)
        (isCanceled_of_turn hsound hunted hz))
    · have here' := (getElem?_of_choose hz here).resolve_left hm
      rcases ih hsound' ((aspect_of_getElem? _ here').trans hc) hrest here' with ⟨hlast, hnone⟩ | h
      · refine .inl ⟨hlast, ?_⟩
        intro expired hmem
        rcases List.mem_cons.1 hmem with heq | hmem
        · exact hm ⟨expired, heq.symm⟩
        · exact hnone expired hmem
      · exact .inr h

/-! ## Who takes a number out of the table -/

/-- **Who takes a number out of the table was asked to cancel it**, as a call of the service under the
reserved name; and if that is the cancellation service, as a call of its method with that number. -/
theorem asks_of_removing {server : Server ι σ κ} {ref : TableRef}
    (behaved : (new server ref).WellBehaved ms) (hy : (new server ref).follow ms = some y)
    (removing : y.Removing k q) :
    ∃ r call, (new server ref).CameIn ms k r call ∧ call.service = CancelService.name ∧
      (server.OffersCancel → call.Asks q) := by
  obtain ⟨r, guarded, place, next, here, may⟩ := removing
  obtain ⟨before, m, after, z, z', call, rfl, hz, hstep, hafter, rfl, arrived⟩ :=
    exists_arrival hy here rfl
  have hz' : (new server ref).follow (before ++ [m]) = some z' :=
    follow_trans hz ((follow_singleton z m).trans hstep)
  have hnone : call.argument.held.pending? = none := by
    refine pending?_of_arrival ?_ hstep arrived
    rintro request call guarded rfl
    exact behaved.plain request call guarded
      (List.mem_append_right _ (List.mem_cons_self ..))
  have hbody : ∀ s : Station ι σ κ, z'.station.server.SameBut s.server → ∀ token,
      (s.invoke z.calls.length (call.handed z'.connection.ref) token).2.Cancels fun q =>
        server.OffersCancel → call.service = CancelService.name → call.Asks q := by
    intro s hsame token
    by_cases h : server.OffersCancel ∧ call.service = CancelService.name
    · have offers := hsame.offersCancel ((sameBut_of_runs (runs_of_follow hz')).offersCancel h.1)
      exact (Station.cancels_invoke offers h.2 _ _ token).mono fun _ hq _ _ => hq
    · exact (Script.cancels_true _).mono fun _ _ offers hservice => absurd ⟨offers, hservice⟩ h
  obtain ⟨phase, here', carries⟩ := carries_of_runs arrived hbody (runs_of_follow hafter)
  cases here.symm.trans here'
  obtain ⟨-, hgrant, hcancels⟩ := carries
  have hmay : place.grant = some y.connection.ref := of_decide_eq_true may
  have hservice : call.service = CancelService.name := by
    by_contra hne
    rw [PreparedCall.handed_of_ne hne, hnone] at hgrant
    exact nomatch hgrant.symm.trans hmay
  refine ⟨r, call, ⟨before ++ [m], after, z', guarded, List.append_cons .., hz', arrived⟩,
    hservice, ?_⟩
  intro offers
  exact hcancels.1 q rfl offers hservice

/-! ## The whole life of a token -/

section Life

variable {server : Server ι σ κ} {ref : TableRef}

/-- A call whose number is not in use starts with a token that was never made before. -/
theorem exists_start (hy : (new server ref).follow ms = some y) (alone : y.Exclusive)
    (here : y.calls[i]? = some ⟨r, guarded, .accepted call⟩) (hw : y.step i expired = some w) :
    ∃ t, w.calls[i]? = some ⟨r, guarded, .registered call t⟩ ∧
      ¬y.connection.pending.tokens.Made t ∧ w.connection.pending.tokens.Made t ∧
      w.Intact r.seq t ∧ w.Owns i t := by
  have hsound : y.tableView.Sound := sound_tableView (runs_of_follow hy)
  have hidle : y.tableView.held i = none := held_of_getElem? here
  have hfree : y.connection.pending.token? r.seq = none := by
    rw [Option.eq_none_iff_forall_ne_some]
    intro u hu
    obtain ⟨k, hk⟩ := hsound.holder r.seq u hu
    obtain ⟨c, hc, hseq, hp⟩ := exists_of_held hk
    cases alone k i c _ hc here (Phase.isUnanswered_of_token? hp) rfl hseq
    cases hidle.symm.trans hk
  obtain ⟨-, hfresh⟩ := (y.connection.pending.token?_or_not_made r.seq).resolve_left
    fun hbound => nomatch hfree.symm.trans hbound
  obtain ⟨c, phase, here', moves, hcalls⟩ := exists_of_step hw
  cases here.symm.trans here'
  obtain ⟨station, calls⟩ := w
  cases hcalls
  dsimp only at moves
  cases moves with
  | start call =>
    rw [Connection.start_eq]
    obtain ⟨hi, -⟩ := List.getElem?_eq_some_iff.1 here
    refine ⟨(y.connection.pending.start r.seq).1, List.getElem?_set_self hi, hfresh,
      y.connection.pending.made_fst_start r.seq fun _ => hsound.made_token?, ⟨?_, ?_, ?_⟩, ?_⟩
    · exact (y.connection.pending.token?_start r.seq r.seq).trans (if_pos rfl)
    · exact (y.connection.pending.isCanceled_start r.seq _).trans
        (Tokens.isCanceled_of_not_made hfresh)
    · -- whoever hunts a token hunts one that was made before
      intro k hk
      rw [tableView_set here] at hk
      exact hfresh (hsound.made_hunted k _ (of_update_none hk))
    · intro j q hj
      rw [tableView_set here] at hj
      by_contra hji
      exact hfresh (hsound.made_held j q _ ((Function.update_of_ne hji ..).symm.trans hj))

/-- **A token that is not intact any more was taken out** by a body that was to cancel its number, and
whoever did so was about to cancel the token. -/
theorem exists_removal_of_lost (behaved : (new server ref).WellBehaved (ms ++ ns))
    (hw : (new server ref).follow ms = some w)
    (started : w.calls[i]? = some ⟨r, guarded, .registered call t⟩) (intact : w.Intact r.seq t)
    (own : w.Owns i t) (hx : w.follow ns = some x)
    (held : x.tableView.held i = some (r.seq, t)) (lost : ¬x.Intact r.seq t) :
    ∃ (k : CallId) (after : List (Choice ι κ)) (y : Exchange ι σ κ),
      w.RemovedBy ns k r.seq after ∧ y.tableView.Sound ∧ y.tableView.hunted k = some t ∧
        y.follow after = some x := by
  obtain ⟨before, m, after, y, y', rfl, hy, hintact, hstep, hafter, hlost⟩ :=
    exists_leaving (P := fun y => y.Intact r.seq t) intact hx lost
  have hrun : (new server ref).follow (ms ++ before) = some y := follow_trans hw hy
  have hsound : y.tableView.Sound := sound_tableView (runs_of_follow hrun)
  have hsplit : ms ++ (before ++ m :: after) = ms ++ before ++ m :: after :=
    (List.append_assoc ..).symm
  rw [hsplit] at behaved
  have hmade : w.connection.pending.tokens.Made t :=
    (sound_tableView (runs_of_follow hw)).made_held i r.seq t (held_of_getElem? started)
  have hnext := next_of_choose hstep
  have hlater := runs_of_follow hafter
  obtain ⟨k, expired, rfl, removing, hunted⟩ := hintact.exists_removal hsound
    (own.follow behaved.left hw hmade hy) (behaved.exclusive hrun)
    (behaved.keeps (ms ++ before) _ y rfl hrun)
    (held_of_between started (runs_of_follow hy) (.head hnext hlater) held)
    (held_of_between started ((runs_of_follow hy).tail hnext) hlater held) hstep hlost
  exact ⟨k, after, y', ⟨before, expired, y, rfl, hy, removing⟩,
    hsound.step (step_tableView_of_next hnext), hunted, hafter⟩

/-- Who is about to take a number out of the table finds there what was in it. -/
theorem Removing.hunted (removing : y.Removing k q) (hstep : y.step k expired = some y') :
    y'.tableView.hunted k = y.tableView.token? q := by
  obtain ⟨r, guarded, place, next, here, may⟩ := removing
  obtain ⟨phase, hafter, moves⟩ := moves_of_turn hstep here
  rw [hunted_of_getElem? hafter]
  generalize y'.station = s at moves
  cases moves with
  | hunt place q next victim may found => exact found.symm.trans (y.connection.fst_remove k q)
  | miss place q next may found => exact found.symm.trans (y.connection.fst_remove k q)
  | refuse place q next refused => exact nomatch may.symm.trans refused
  | act place a next plain => cases plain

/-- After the number of a call was taken out of the table, the token that the call was given is
canceled or about to be. -/
theorem doomed_of_removedBy {after : List (Choice ι κ)} (hw : (new server ref).follow ms = some w)
    (started : w.calls[i]? = some ⟨r, guarded, .registered call t⟩)
    (hx : w.follow ns = some x) (removed : w.RemovedBy ns k r.seq after) :
    x.tableView.Doomed t := by
  obtain ⟨before, expired, y, rfl, hy, removing⟩ := removed
  rw [follow_append, hy, Option.bind_some, follow_cons] at hx
  obtain ⟨y', hstep, hafter⟩ := Option.bind_eq_some_iff.1 hx
  have hrun := follow_trans hw hy
  have hsound : y.tableView.Sound := sound_tableView (runs_of_follow hrun)
  have hnext := step_tableView_of_next (next_of_choose hstep)
  have hdoomed : y'.tableView.Doomed t := by
    rcases accounted_of_issued hrun ⟨ms, before, w, i, r, guarded, call, rfl, hw, started, rfl⟩ with
      bound | doomed
    · exact .inr ⟨k, (removing.hunted hstep).trans bound⟩
    · exact hsound.doomed_step hnext doomed
  exact doomed_of_runs (hsound.step hnext) (runs_of_follow hafter) hdoomed

/-- **Cancellation is precise.** Peers and bodies behave well; call `i` starts with the step from `y`
to `w`, and `x` is any later point.

* The start gives a token that was never made before, is not canceled, and is held by no other call
  at any time.
* While `i` is under way, its token is canceled only if the body of some call has taken the number of
  `i` out of the table after the start.
* While `i` is under way and some body has done so, the token is canceled, or one of those that did
  is still about to cancel it: it has not had a turn since.
* Whoever takes the number out is a call of the service under the reserved name; and if that is the
  cancellation service, it was asked to cancel that number. -/
theorem precise_cancelation (behaved : (new server ref).WellBehaved (ms ++ .call i expired :: ns))
    (hy : (new server ref).follow ms = some y)
    (here : y.calls[i]? = some ⟨r, guarded, .accepted call⟩) (hw : y.step i expired = some w)
    (hx : w.follow ns = some x) :
    ∃ t, w.calls[i]? = some ⟨r, guarded, .registered call t⟩ ∧
      ¬y.connection.pending.tokens.Made t ∧ w.tableView.isCanceled t = false ∧ x.Owns i t ∧
      (x.tableView.held i = some (r.seq, t) →
        (x.tableView.isCanceled t = true → ∃ k after, w.RemovedBy ns k r.seq after) ∧
        ((∃ k after, w.RemovedBy ns k r.seq after) → x.tableView.isCanceled t = true ∨
          ∃ k after, w.RemovedBy ns k r.seq after ∧ x.tableView.hunted k = some t ∧
            ∀ expired, Choice.call k expired ∉ after)) ∧
      ∀ k after, w.RemovedBy ns k r.seq after → ∃ r' call',
        (new server ref).CameIn (ms ++ .call i expired :: ns) k r' call' ∧
        call'.service = CancelService.name ∧ (server.OffersCancel → call'.Asks r.seq) := by
  obtain ⟨t, started, hfresh, hmade, intact, own⟩ := exists_start hy (behaved.exclusive hy) here hw
  have hwrun : (new server ref).follow (ms ++ [.call i expired]) = some w :=
    follow_trans hy ((follow_singleton y _).trans hw)
  rw [List.append_cons] at behaved ⊢
  have lost := fun held hlost =>
    exists_removal_of_lost behaved hwrun started intact own hx held hlost
  refine ⟨t, started, hfresh, intact.uncanceled, own.follow behaved hwrun hmade hx, ?_, ?_⟩
  · intro held
    refine ⟨?_, ?_⟩
    · intro canceled
      obtain ⟨k, after, -, removed, -⟩ :=
        lost held fun h => nomatch h.uncanceled.symm.trans canceled
      exact ⟨k, after, removed⟩
    · rintro ⟨k, after, removed⟩
      have doomed := doomed_of_removedBy hwrun started hx removed
      have hlost : ¬x.Intact r.seq t := by
        intro hintact
        rcases doomed with canceled | ⟨k, hunted⟩
        · exact nomatch hintact.uncanceled.symm.trans canceled
        · exact hintact.unhunted k hunted
      obtain ⟨k, after, z, removed, hsound, hunted, hafter⟩ := lost held hlost
      rcases idle_or_isCanceled hsound hunted hafter with ⟨hunted', idle⟩ | canceled
      · exact .inr ⟨k, after, removed, hunted', idle⟩
      · exact .inl canceled
  · rintro k after ⟨before, expired', z, rfl, hz, removing⟩
    rw [← List.append_assoc] at behaved
    obtain ⟨r', call', ⟨first, rest, u, guarded', hms, hu, hcame⟩, hasked⟩ :=
      asks_of_removing behaved.left (follow_trans hwrun hz) removing
    refine ⟨r', call',
      ⟨first, rest ++ .call k expired' :: after, u, guarded', ?_, hu, hcame⟩, hasked⟩
    rw [← List.append_assoc, ← List.append_assoc, hms]

end Life

/-- Call 1 comes in and cancels the number 1. -/
def canceling : List (Choice Empty Empty) :=
  .accept (.cancel 2 1) false :: .replicate 8 (.call 1 true)

theorem precise_cancelation_canceled :
    ∃ y w x : Exchange Empty Unit Empty,
      (new .bare ⟨0⟩).follow [.accept (.cancel 1 99) false] = some y ∧ y.step 0 true = some w ∧
      w.follow canceling = some x ∧ x.tableView.held 0 = some (1, ⟨0⟩) ∧
      x.tableView.isCanceled ⟨0⟩ = true ∧ ∃ k after r call, w.RemovedBy canceling k 1 after ∧
        (new .bare ⟨0⟩).CameIn ([.accept (.cancel 1 99) false] ++ .call 0 true :: canceling) k r
          call ∧ call.Asks 1 := by
  have run : ((new Server.bare ⟨0⟩).follow [.accept (.cancel 1 99) false]).any fun y =>
      (y.step 0 true).any fun w => (w.follow canceling).any fun x => decide
        (((new Server.bare ⟨0⟩).accept (Inbound.cancel 1 99).request (Inbound.cancel 1 99).body
            (Inbound.cancel 1 99).client false).1 = .accepted 0 ∧
          w.started? 0 = some (⟨"_goRPC_.Cancel", 1⟩, false, ⟨0⟩) ∧
          x.tableView.held 0 = some (1, ⟨0⟩) ∧ x.tableView.isCanceled ⟨0⟩ = true ∧
          (x.calls.map (·.request.seq)).Nodup ∧
          (new Server.bare ⟨0⟩).keepsTokens
            ([.accept (.cancel 1 99) false] ++ .call 0 true :: canceling) = true) := by
    decide +kernel
  simp only [Option.any_eq_true, decide_eq_true_eq] at run
  obtain ⟨y, hy, w, hw, x, hx, haccepted, hstarted, hheld, hcanceled, hnumbers, hkeeps⟩ := run
  have haccept : (new Server.bare ⟨0⟩).accept (Inbound.cancel 1 99).request
      (Inbound.cancel 1 99).body (Inbound.cancel 1 99).client false = (.accepted 0, y) :=
    Prod.ext haccepted (Option.some.inj ((follow_singleton _ _).symm.trans hy))
  obtain ⟨service, m, argument, -, -, here, -, -⟩ := exists_of_accepted haccept
  have hrun : (new Server.bare ⟨0⟩).follow
      ([.accept (.cancel 1 99) false] ++ .call 0 true :: canceling) = some x := by
    refine follow_trans hy ?_
    rw [follow_cons]
    exact Option.bind_eq_some_iff.2 ⟨w, hw, hx⟩
  have behaved := wellBehaved_of_nodup hrun hnumbers hkeeps (by
    intro request call guarded hmem
    simp [canceling] at hmem)
  obtain ⟨t, started, -, -, -, hlife, hasked⟩ := precise_cancelation behaved hy here hw hx
  have ht : t = ⟨0⟩ := by
    obtain ⟨_, started'⟩ := exists_of_started? hstarted
    cases started.symm.trans started'
    rfl
  subst ht
  obtain ⟨k, after, removed⟩ := (hlife hheld).1 hcanceled
  obtain ⟨r, call, hcame, -, hasks⟩ := hasked k after removed
  exact ⟨y, w, x, hy, hw, hx, hheld, hcanceled, k, after, r, call, removed, hcame,
    hasks (Server.Built.new.offersCancel rfl)⟩

end Exchange

end Switchboard
