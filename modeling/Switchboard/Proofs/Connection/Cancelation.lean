import Switchboard.Proofs.Cancel.Service
import Switchboard.Proofs.Connection.Table

/-!
# Cancellations that reach their call

A request to cancel goes through the phases of any call: it is routed to the cancellation service,
it is given the pending table, and its body takes the number it was asked to cancel out of the table
and cancels the token that was there.

The number of a call is in the table from the call's own first step on, and not from when the
request was read. A cancellation that is faster than that step finds nothing, and the call never
learns of it. From that step on a cancellation reaches the call: when the body of the cancellation
is over, the token is canceled, or another cancellation has taken it out of the table before and is
about to cancel it.

Results:

* `Moves.seeks`: a call on its way to cancel a number stays on it until it takes the number out.
* `Exchange.canceled_by_cancel`: a cancellation reaches every call that holds its number when it
  takes the number out of the table.
* `Exchange.uncanceled_by_cancel`: it may miss one that was taken in and has not started.
-/

namespace Switchboard

variable {ι σ κ : Type} [MessageFamily ι] [Inhabited σ]

/-! ## From the request to the cancellation -/

/-- Whatever its actions give back, the script cancels the number `seq` before it ends, and no
number before that. -/
def Script.Seeks {α : Type} (seq : UInt64) : Script σ α → Prop
  | .done _ => False
  | .act (.cancel q) _ => q = seq
  | .act _ next => ∀ x, (next x).Seeks seq

omit [Inhabited σ] in
theorem Script.Seeks.next {α : Type} {seq : UInt64} {a : Action σ} {next : a.Answer → Script σ α}
    (h : (act a next).Seeks seq) (plain : a.isCancel = false) (x : a.Answer) :
    (next x).Seeks seq := by
  cases a with
  | cancel q => cases plain
  | _ => exact h x

/-- A call of the cancellation service. -/
def PreparedCall.cancel (args : CancelArgs) (client : Client κ) : PreparedCall ι κ :=
  ⟨CancelService.name, "Cancel", ⟨.cancelArgs, ⟨.cancelArgs, args⟩, false, true⟩, .zero .bool,
    client⟩

namespace Station

variable {s : Station ι σ κ}

omit [Inhabited σ] in
theorem prepare_cancel (offers : s.server.OffersCancel) (seq : UInt64) {body : Bytes}
    {args : CancelArgs} (hbody : Wire.decode body = .ok args) (client : Client κ) :
    s.prepare ⟨"_goRPC_.Cancel", seq⟩ body client = .ok (.cancel args client) := by
  obtain ⟨state, hresolve⟩ := offers.resolve
  have hdecode : (CancelService.method : Method ι σ κ).makeArgument.decode body =
      .ok ⟨.cancelArgs, ⟨.cancelArgs, args⟩, false, true⟩ := by
    have hvalue : (MessageType.cancelArgs : MessageType ι).decode body = .ok args := hbody
    change Argument.decode (.forPrivileged .cancelArgs) body = _
    unfold Argument.decode Argument.forPrivileged
    rw [hvalue]
  unfold prepare
  simp only [hresolve, hdecode]
  rfl

omit [Inhabited σ] in
/-- The method is given the pending table. -/
theorem handOver_cancel (i : CallId) (r : Request) (args : CancelArgs) (client : Client κ) :
    (s.handOver i r (.cancel args client)).1 =
      .cancel { args with pending := some s.connection.ref } client := rfl

omit [Inhabited σ] in
/-- Given the pending table, the method cancels the number that it was asked to cancel. -/
theorem seeks_invoke_cancel (offers : s.server.OffersCancel) (i : CallId) (args : CancelArgs)
    (ref : TableRef) (client : Client κ) (token : Token) :
    (s.invoke i (.cancel { args with pending := some ref } client) token).1.grant = some ref ∧
      (s.invoke i (.cancel { args with pending := some ref } client) token).2.Seeks args.seq := by
  obtain ⟨state, bound⟩ := offers
  have hservice : s.server.service?
      (PreparedCall.cancel { args with pending := some ref } client : PreparedCall ι κ).service =
        some (CancelService.service state) := bound
  unfold invoke
  simp only [hservice]
  refine ⟨rfl, ?_⟩
  intro _ _
  rfl

end Station

/-- The call is on its way to cancel the number `seq` in the table `ref`. -/
def Phase.Seeks (seq : UInt64) (ref : TableRef) : Phase ι σ κ → Prop
  | .accepted call | .registered call _ =>
    ∃ args client, call = .cancel args client ∧ args.seq = seq
  | .ready call _ =>
    ∃ (args : CancelArgs) (client : Client κ),
      call = .cancel { args with pending := some ref } client ∧ args.seq = seq
  | .running place rest => place.grant = some ref ∧ rest.Seeks seq
  | _ => False

/-- The call takes the number `seq` out of the table. What it finds there, it is about to cancel. -/
structure Removes (i : CallId) (seq : UInt64) (s s' : Station ι σ κ) (phase' : Phase ι σ κ) :
    Prop where
  connection : s'.connection = (s.connection.remove i seq).2
  hunted : phase'.hunted? = (s.connection.remove i seq).1

/-- **A call that is on its way to cancel a number stays on it, or takes the number out.** -/
theorem Moves.seeks {i : CallId} {r : Request} {guarded : Bool} {s s' : Station ι σ κ}
    {phase phase' : Phase ι σ κ} {seq : UInt64} (h : Moves i r guarded s phase phase' s')
    (offers : s.server.OffersCancel) (hp : phase.Seeks seq s.connection.ref) :
    phase'.Seeks seq s.connection.ref ∨ Removes i seq s s' phase' := by
  cases h with
  | start call => exact .inl hp
  | handOver call token =>
    obtain ⟨args, client, rfl, hseq⟩ := hp
    exact .inl ⟨args, client, s.handOver_cancel i r args client, hseq⟩
  | enter call token free =>
    obtain ⟨args, client, rfl, rfl⟩ := hp
    exact .inl (s.seeks_invoke_cancel offers i args s.connection.ref client token)
  | hunt place q next victim may found =>
    obtain ⟨-, rfl⟩ := hp
    exact .inr ⟨rfl, found.symm⟩
  | miss place q next may found =>
    obtain ⟨-, rfl⟩ := hp
    exact .inr ⟨rfl, found.symm⟩
  | refuse place q next may =>
    have hgrant : s.mayCancel place = true := decide_eq_true hp.1
    rw [may] at hgrant
    cases hgrant
  | act place a next plain =>
    exact .inl ⟨hp.1, hp.2.next plain _⟩
  | giveBack place finished locks => exact hp.2.elim
  | release place finished locks => exact hp.2.elim
  | _ => exact hp.elim

namespace Exchange

variable {x y z : Exchange ι σ κ} {j : CallId} {r : Request} {guarded : Bool} {seq : UInt64}

/-- Call `j` is on its way to cancel the number `seq` in the connection's table. -/
structure Seeks (x : Exchange ι σ κ) (j : CallId) (r : Request) (guarded : Bool) (seq : UInt64) :
    Prop where
  offers : x.station.server.OffersCancel
  call : ∃ phase, x.calls[j]? = some ⟨r, guarded, phase⟩ ∧ phase.Seeks seq x.connection.ref

theorem offersCancel_next (h : x.Next y) (hx : x.station.server.OffersCancel) :
    y.station.server.OffersCancel := by
  rcases h.server with heq | ⟨target, f, heq⟩
  · exact heq ▸ hx
  · exact heq ▸ hx.updateReceiver target f

/-- While a call is on its way to cancel a number, what happens next leaves it there, or it is the
call's turn and the call takes the number out of the table. -/
theorem Seeks.choose {m : Choice ι κ} (h : x.Seeks j r guarded seq) (hy : x.choose m = some y) :
    y.Seeks j r guarded seq ∨ ∃ expired phase, m = .call j expired ∧
      y.calls[j]? = some ⟨r, guarded, phase⟩ ∧ Removes j seq x.station y.station phase := by
  obtain ⟨offers, phase, here, hp⟩ := h
  have hnext := next_of_choose hy
  have offers' := offersCancel_next hnext offers
  rcases getElem?_of_choose hy here with ⟨expired, rfl⟩ | same
  · obtain ⟨phase', here', moves | rfl⟩ := hnext.call here
    · rcases moves.seeks offers hp with hp' | removes
      · exact .inl ⟨offers', phase', here', hnext.ref.symm ▸ hp'⟩
      · exact .inr ⟨expired, phase', rfl, here', removes⟩
    · exact .inl ⟨offers', phase', here', hnext.ref.symm ▸ hp⟩
  · exact .inl ⟨offers', phase, same, hnext.ref.symm ▸ hp⟩

/-- A call that was on its way to cancel a number and is not any more has taken it out. -/
theorem Seeks.exists_removal (h : x.Seeks j r guarded seq) {ms : List (Choice ι κ)}
    (hz : x.follow ms = some z) (ended : ¬z.Seeks j r guarded seq) :
    ∃ before expired after y y' phase, ms = before ++ .call j expired :: after ∧
      x.follow before = some y ∧ y.step j expired = some y' ∧ y'.follow after = some z ∧
      y'.calls[j]? = some ⟨r, guarded, phase⟩ ∧ Removes j seq y.station y'.station phase := by
  obtain ⟨before, m, after, y, y', rfl, hy, hseeks, hstep, hafter, left⟩ :=
    exists_leaving (P := fun x => x.Seeks j r guarded seq) h hz ended
  rcases hseeks.choose hstep with hy' | ⟨expired, phase, rfl, here, removes⟩
  · exact absurd hy' left
  · exact ⟨before, expired, after, y, y', phase, rfl, hy, hstep, hafter, here, removes⟩

omit [Inhabited σ] in
/-- A request to cancel that is taken in becomes a call on its way to cancel. -/
theorem seeks_of_accept (offers : x.station.server.OffersCancel) {q : UInt64} {body : Bytes}
    {args : CancelArgs} (hbody : Wire.decode body = .ok args) {client : Client κ}
    (h : x.accept ⟨"_goRPC_.Cancel", q⟩ body client guarded = (.accepted j, y)) :
    y.Seeks j ⟨"_goRPC_.Cancel", q⟩ guarded args.seq := by
  rw [accept_of_prepare (Station.prepare_cancel offers q hbody client)] at h
  cases h
  refine ⟨?_, .accepted (.cancel args client), ?_, args, client, rfl, rfl⟩
  · exact (x.addGuard_server guarded).symm ▸ offers
  · rw [← x.addGuard_calls guarded]
    exact List.getElem?_concat_length

/-- **A cancellation reaches every call that has started.** On a connection to a server that was set
up with the cancellation service, call `j` is a request to cancel the number in `args`, and its body
is over at `z`. Somewhere before, at `x`, it took the number out of the table. Every call that held a
token under that number then, that is, had started and was not released yet, has its token canceled
at `z`, unless another call took the token out of the table and is about to cancel it. -/
theorem canceled_by_cancel {config : ServerConfig} {server : Server ι σ κ}
    (built : server.Built config) (offers : config.registerCancelService = true) {ref : TableRef}
    {before ms : List (Choice ι κ)} {a b : Exchange ι σ κ} {q : UInt64} {body : Bytes}
    {args : CancelArgs} {client : Client κ} {place : Place} {finished : Finished ι}
    (ha : (new server ref).follow before = some a)
    (hb : a.accept ⟨"_goRPC_.Cancel", q⟩ body client guarded = (.accepted j, b))
    (hbody : Wire.decode body = .ok args) (hz : b.follow ms = some z)
    (ended : z.calls[j]? =
      some ⟨⟨"_goRPC_.Cancel", q⟩, guarded, .running place (.done finished)⟩) :
    ∃ before expired after x y, ms = before ++ .call j expired :: after ∧
      b.follow before = some x ∧ x.step j expired = some y ∧ y.follow after = some z ∧
      y.connection = (x.connection.remove j args.seq).2 ∧
      ∀ i t, x.tableView.held i = some (args.seq, t) →
        z.tableView.isCanceled t = true ∨ ∃ k, k ≠ j ∧ z.tableView.hunted k = some t := by
  have hruns := runs_of_follow ha
  have hoffers : a.station.server.OffersCancel :=
    hruns.invariant (P := fun x => x.station.server.OffersCancel) (built.offersCancel offers)
      fun _ _ hnext hx => offersCancel_next hnext hx
  have hnotseeks : ¬z.Seeks j ⟨"_goRPC_.Cancel", q⟩ guarded args.seq := by
    rintro ⟨-, phase, here, hp⟩
    cases ended.symm.trans here
    exact hp.2
  obtain ⟨before, expired, after, x, y, phase, hms, hx, hstep, hafter, here, removes⟩ :=
    (seeks_of_accept hoffers hbody hb).exists_removal hz hnotseeks
  have hbruns : (new server ref).Runs b := by
    have hnext := a.next_accept ⟨"_goRPC_.Cancel", q⟩ body client guarded
    rw [hb] at hnext
    exact hruns.tail hnext
  have hxsound : x.tableView.Sound := sound_tableView (hbruns.trans (runs_of_follow hx))
  have hysound := hxsound.step (step_tableView_of_next (next_step hstep))
  refine ⟨before, expired, after, x, y, hms, hx, hstep, hafter, removes.connection, ?_⟩
  intro i t hi
  have hdoomed : y.tableView.Doomed t := by
    cases hxsound.fate i args.seq t hi with
    | gone k doomed removed restarted =>
      exact hxsound.doomed_step (step_tableView_of_next (next_step hstep)) doomed
    | bound started bound =>
      -- the call finds the token under the number and is the one about to cancel it
      refine .inr ⟨j, ?_⟩
      rw [hunted_of_getElem? here, removes.hunted]
      exact (x.connection.fst_remove j args.seq).trans bound
  rcases doomed_of_runs hysound (runs_of_follow hafter) hdoomed with hcanceled | ⟨k, hk⟩
  · exact .inl hcanceled
  · refine .inr ⟨k, ?_, hk⟩
    rintro rfl
    rw [hunted_of_getElem? ended] at hk
    cases hk

theorem canceled_by_cancel_started :
    ∃ a z : Exchange Empty Unit Empty,
      (new .bare ⟨0⟩).follow [.accept (.cancel 1 99) false, .call 0 true] = some a ∧
      (a.accept ⟨"_goRPC_.Cancel", 2⟩ (leBytes 8 1) .none false).2.follow
        (.replicate 7 (.call 1 true)) = some z ∧
      (z.tableView.isCanceled ⟨0⟩ = true ∨ ∃ k, k ≠ 1 ∧ z.tableView.hunted k = some ⟨0⟩) := by
  have run : ((new Server.bare ⟨0⟩).follow [.accept (.cancel 1 99) false, .call 0 true]).any
      fun a => ((a.accept ⟨"_goRPC_.Cancel", 2⟩ (leBytes 8 1) .none false).2.follow
        (.replicate 7 (.call 1 true))).any fun z => decide
          ((a.accept ⟨"_goRPC_.Cancel", 2⟩ (leBytes 8 1) .none false).1 = .accepted 1 ∧
            (a.accept ⟨"_goRPC_.Cancel", 2⟩ (leBytes 8 1) .none false).2.tableView.held 0 =
              some (1, ⟨0⟩) ∧
            z.ended? 1 = some (⟨"_goRPC_.Cancel", 2⟩, false, .ok)) := by decide +kernel
  simp only [Option.any_eq_true, decide_eq_true_eq] at run
  obtain ⟨a, ha, z, hz, haccepted, hheld, hended⟩ := run
  obtain ⟨place, finished, ended, -⟩ := exists_of_ended? hended
  have hbody : Wire.decode (leBytes 8 1) = .ok (⟨1, none⟩ : CancelArgs) := by rfl
  obtain ⟨before, expired, after, x, y, hms, hx, -, -, -, hreached⟩ :=
    canceled_by_cancel (Server.Built.new : Server.bare.Built {}) rfl ha (Prod.ext haccepted rfl)
      hbody hz ended
  -- call 0 has no turn, so it still holds its token when call 1 takes it out
  obtain ⟨c, here, hc⟩ := exists_of_aspect _ hheld
  have others : ∀ expired, Choice.call 0 expired ∉ before := by
    intro expired hmem
    have hall : Choice.call 0 expired ∈ List.replicate 7 (Choice.call 1 true) :=
      hms ▸ List.mem_append_left _ hmem
    cases List.eq_of_mem_replicate hall
  have still := getElem?_of_follow hx here others
  exact ⟨a, z, ha, hz, hreached 0 ⟨0⟩ ((aspect_of_getElem? _ still).trans hc)⟩

/-- **A cancellation may come too early, or be overtaken by another.** In the first run call 0 was
taken in before call 1, which cancels its number 1. The body of call 1 is over before call 0 starts;
then call 0 starts, and its token is canceled neither then nor when its body is over. In the second
run calls 1 and 2 both cancel the number. Call 1 has taken the token of call 0 out of the table and
not yet canceled it; the body of call 2 is over, and the token is not canceled. -/
theorem uncanceled_by_cancel :
    (∃ y z : Exchange Empty Unit Empty, (new .bare ⟨0⟩).follow
        ([.accept (.cancel 1 99) false, .accept (.cancel 2 1) false] ++
          .replicate 6 (.call 1 true) ++ [.call 0 true]) = some y ∧
      y.ended? 1 = some (⟨"_goRPC_.Cancel", 2⟩, false, .ok) ∧
      y.started? 0 = some (⟨"_goRPC_.Cancel", 1⟩, false, ⟨1⟩) ∧
      y.tableView.isCanceled ⟨1⟩ = false ∧
      y.follow (.replicate 5 (.call 0 true)) = some z ∧
      z.ended? 0 = some (⟨"_goRPC_.Cancel", 1⟩, false, .ok) ∧
      z.tableView.isCanceled ⟨1⟩ = false) ∧
    ∃ y : Exchange Empty Unit Empty, (new .bare ⟨0⟩).follow
        ([.accept (.cancel 1 99) false, .accept (.cancel 2 1) false, .accept (.cancel 3 1) false,
          .call 0 true] ++ .replicate 6 (.call 1 true) ++ .replicate 6 (.call 2 true)) = some y ∧
      y.ended? 2 = some (⟨"_goRPC_.Cancel", 3⟩, false, .ok) ∧
      y.started? 0 = some (⟨"_goRPC_.Cancel", 1⟩, false, ⟨0⟩) ∧
      y.tableView.isCanceled ⟨0⟩ = false := by
  have early : ((new Server.bare ⟨0⟩).follow
      ([.accept (.cancel 1 99) false, .accept (.cancel 2 1) false] ++
        .replicate 6 (.call 1 true) ++ [.call 0 true])).any fun y =>
      (y.follow (.replicate 5 (.call 0 true))).any fun z => decide
        (y.ended? 1 = some (⟨"_goRPC_.Cancel", 2⟩, false, .ok) ∧
          y.started? 0 = some (⟨"_goRPC_.Cancel", 1⟩, false, ⟨1⟩) ∧
          y.tableView.isCanceled ⟨1⟩ = false ∧
          z.ended? 0 = some (⟨"_goRPC_.Cancel", 1⟩, false, .ok) ∧
          z.tableView.isCanceled ⟨1⟩ = false) := by decide +kernel
  have overtaken : ((new Server.bare ⟨0⟩).follow
      ([.accept (.cancel 1 99) false, .accept (.cancel 2 1) false, .accept (.cancel 3 1) false,
        .call 0 true] ++ .replicate 6 (.call 1 true) ++ .replicate 6 (.call 2 true))).any fun y =>
      decide (y.ended? 2 = some (⟨"_goRPC_.Cancel", 3⟩, false, .ok) ∧
        y.started? 0 = some (⟨"_goRPC_.Cancel", 1⟩, false, ⟨0⟩) ∧
        y.tableView.isCanceled ⟨0⟩ = false) := by decide +kernel
  simp only [Option.any_eq_true, decide_eq_true_eq] at early overtaken
  obtain ⟨y, hy, z, hz, hended, hstarted, hfirst, hover, hlast⟩ := early
  exact ⟨⟨y, z, hy, hended, hstarted, hfirst, hz, hover, hlast⟩, overtaken⟩

end Exchange

end Switchboard
