import Switchboard.Proofs.Cancel.Service
import Switchboard.Proofs.Connection.Alone
import Switchboard.Proofs.Connection.Cancelation
import Switchboard.Proofs.Connection.Completion
import Switchboard.Proofs.Connection.Reports
import Switchboard.Proofs.Wire.Canonical

/-!
# A request to cancel, from end to end

A request to cancel passes through everything the library has: it is routed and decoded, it starts
its own number, it is given the pending table, it cancels a number there, it releases its own, and
it is answered. Served alone it comes to one end, whatever is in the table: it may find its own
number there, or name it, or name a number that is not there.

Results:

* `Pending.KnowsTokens.loses`: what a number does to the table that is started, cancels another one
  and is released.
* `CancelArgs.exists_decode`, `CancelArgs.decode_of_lt`: eight bytes are an argument, fewer are not.
* `Call.endAccepted_cancel`: what completing a call of the cancellation service does.
* `Exchange.cancel_served`: what is left of a request to cancel that was served alone, for every
  table and every body.
-/

namespace Switchboard

/-! ## Canceling in the table -/

namespace Pending

/-- The numbers `s` and `q` are no longer in the table, and the tokens they were bound to are
canceled; all else is as it was. -/
structure Loses (p : Pending) (s q : UInt64) (p' : Pending) : Prop where
  token? : ∀ n, p'.token? n = if n = s ∨ n = q then none else p.token? n
  isCanceled : ∀ t, p.tokens.Made t → (p'.tokens.isCanceled t = true ↔
    p.tokens.isCanceled t = true ∨ p.token? s = some t ∨ p.token? q = some t)

/-- **A number that is started, cancels another one and is released is lost together with it**,
whether the two are in the table or not, and also if they are the same. -/
theorem KnowsTokens.loses {p : Pending} (known : p.KnowsTokens) (s q : UInt64) :
    p.Loses s q (((p.start q).2.2.cancel s).2.cancel q).2 := by
  have knows := known.start q
  refine ⟨?_, ?_⟩
  · intro n
    rw [token?_cancel, token?_cancel, token?_start]
    by_cases hq : n = q
    · rw [if_pos hq, if_pos (.inr hq)]
    · by_cases hs : n = s
      · rw [if_neg hq, if_pos hs, if_pos (.inl hs)]
      · rw [if_neg hq, if_neg hs, if_neg hq, if_neg (not_or.2 ⟨hs, hq⟩)]
  · intro t made
    -- Of the tokens that were made before, the start gives the one that is bound to `q`.
    have given : (p.start q).1 = t ↔ p.token? q = some t := by
      rcases p.token?_or_not_made q with bound | ⟨free, fresh⟩
      · rw [bound, Option.some.injEq]
      · rw [free]
        exact ⟨fun h => absurd (h ▸ made) fresh, fun h => nomatch h⟩
    rw [(knows.cancel s).isCanceled_cancel q, knows.isCanceled_cancel s, p.isCanceled_start q,
      token?_cancel, token?_start, token?_start, if_pos rfl]
    simp only [Bool.or_eq_true, decide_eq_true_eq]
    by_cases same : q = s
    · rw [if_pos same, if_pos same.symm, Option.some.injEq, given, same]
      simp only [reduceCtorEq, false_or, or_self, or_comm]
    · rw [if_neg same, if_neg (Ne.symm same), Option.some.injEq, given]
      simp only [or_comm, or_left_comm, or_assoc]

end Pending

namespace Connection

variable (c : Connection) (call : Option CallId) (seq : UInt64)

theorem pending_cancel : (c.cancel call seq).pending = (c.pending.cancel seq).2 := by
  unfold cancel Pending.cancel
  rw [remove_eq]
  rcases c.pending.remove seq with ⟨_ | t, log, p⟩ <;> rfl

theorem silent_cancel : c.Silent (c.cancel call seq) :=
  (c.silent_remove call seq).trans ((c.remove call seq).2.silent_flag? (c.remove call seq).1)

end Connection

/-! ## What is read off the body -/

namespace CancelArgs

variable {body : Bytes}

/-- The argument is read off the first eight bytes, and what follows them is ignored. -/
theorem exists_decode (long : 8 ≤ body.length) :
    ∃ s : UInt64, s.toNat = leValue (body.take 8) ∧
      Wire.decode body = .ok (⟨s, none⟩ : CancelArgs) := by
  have hlength : (body.take 8).length = 8 := by rw [List.length_take]; omega
  have hsplit := splitExactly?_append (body.take 8) (body.drop 8)
  rw [hlength, List.take_append_drop] at hsplit
  refine ⟨.ofNat (leValue (body.take 8)), ?_, ?_⟩
  · have hlt := leValue_lt_capacity (body.take 8)
    rw [hlength, show capacity 8 = 2 ^ 64 by decide] at hlt
    exact UInt64.toNat_ofNat_of_lt' hlt
  · refine Wire.decode_eq_ok_iff.2 ⟨body.drop 8, ?_⟩
    change (readWord 8 body >>= _) >>= _ = _
    unfold readWord
    rw [hsplit]
    rfl

/-- Fewer bytes are no argument. -/
theorem decode_of_lt (short : body.length < 8) :
    (Wire.decode body : Except WireError CancelArgs) = .error .endOfInput := by
  have hsplit : splitExactly? 8 body = none := by
    cases hs : splitExactly? 8 body with
    | none => rfl
    | some parts =>
      obtain ⟨rfl, hlength⟩ := eq_of_splitExactly? (b := parts.2) hs
      rw [List.length_append] at short
      omega
  change Except.map _ ((readWord 8 body >>= _) >>= _) = _
  unfold readWord
  rw [hsplit]
  rfl

end CancelArgs

/-! ## The request -/

variable {ι σ κ : Type} [MessageFamily ι] [Inhabited σ]

/-- What the cancellation service leaves when it has cancelled. -/
def CancelService.finished (args : CancelArgs) (ref : TableRef) : Finished ι :=
  ⟨⟨.cancelArgs, ⟨.cancelArgs, { args with pending := some ref }⟩, false, true⟩,
    .ofHeld ⟨.bool, true⟩, .ok⟩

/-- What the method does that was given the pending table. -/
def CancelService.script (args : CancelArgs) (ref : TableRef) : Script σ (Finished ι) :=
  .act .enter fun _ => .act (.log (.cancelGranted args.seq)) fun _ =>
    .act (.cancel args.seq) fun _ => .done (finished args ref)

namespace Station

variable {s : Station ι σ κ}

omit [Inhabited σ] in
theorem invoke_cancel (offers : s.server.OffersCancel) (i : CallId) (args : CancelArgs)
    (ref : TableRef) (client : Client κ) (token : Token) :
    s.invoke i (.cancel { args with pending := some ref } client) token =
      (⟨i, CancelService.name, token, some ref, false⟩, CancelService.script args ref) := by
  obtain ⟨state, bound⟩ := offers
  have hservice : s.server.service?
      (PreparedCall.cancel { args with pending := some ref } client : PreparedCall ι κ).service =
        some (CancelService.service state) := bound
  unfold invoke
  simp only [hservice]
  rfl

omit [Inhabited σ] in
theorem prepare_cancel_error (offers : s.server.OffersCancel) (seq : UInt64) {body : Bytes}
    (short : body.length < 8) (client : Client κ) :
    s.prepare ⟨"_goRPC_.Cancel", seq⟩ body client =
      .error (.holder (.decode "birpc::svc::CancelArgs" .endOfInput)) := by
  obtain ⟨state, hresolve⟩ := offers.resolve
  have hvalue : (MessageType.cancelArgs : MessageType ι).decode body = .error .endOfInput :=
    CancelArgs.decode_of_lt short
  have hdecode : (CancelService.method : Method ι σ κ).makeArgument.decode body =
      .error (.decode "birpc::svc::CancelArgs" .endOfInput) := by
    change Argument.decode (.forPrivileged .cancelArgs) body = _
    unfold Argument.decode Argument.forPrivileged
    rw [hvalue]
    rfl
  unfold prepare
  simp only [hresolve, hdecode]

end Station

namespace Connection

/-- The connection when a request to cancel `target` is over but for its answer: the number was
canceled for the peer, and after it the request's own. -/
def canceling (k : Connection) (i : CallId) (r : Request) (target : UInt64) : Connection :=
  let granted := ((k.start i r.seq).2.note i .granted).log i [.calling r.address r.seq]
  let entered := (granted.note i .entered).note i (.logged (.cancelGranted target))
  ((entered.cancel i target).cancel i r.seq).log i (Outcome.ok.events r)

variable (k : Connection) (i : CallId) (r : Request) (target : UInt64)

theorem silent_canceling : k.Silent (k.canceling i r target) := by
  let granted := ((k.start i r.seq).2.note i .granted).log i [.calling r.address r.seq]
  let entered := (granted.note i .entered).note i (.logged (.cancelGranted target))
  have grants : (k.start i r.seq).2.Silent granted :=
    ((k.start i r.seq).2.silent_record [⟨i, .granted⟩] rfl).trans (silent_log _ i _)
  have enters : granted.Silent entered :=
    (granted.silent_record [⟨i, .entered⟩] rfl).trans (silent_record _ [⟨i, _⟩] rfl)
  have cancels : entered.Silent ((entered.cancel i target).cancel i r.seq) :=
    (entered.silent_cancel i target).trans (silent_cancel _ i r.seq)
  exact ((k.silent_start i r.seq).trans grants).trans
    ((enters.trans cancels).trans (silent_log _ i _))

theorem pending_canceling : (k.canceling i r target).pending =
    (((k.pending.start r.seq).2.2.cancel target).2.cancel r.seq).2 := by
  have started : (k.start i r.seq).2.pending = (k.pending.start r.seq).2.2 := by
    rw [start_eq]
    rfl
  have entered : (((k.start i r.seq).2.note i .granted).log i [.calling r.address r.seq]).pending =
      (k.pending.start r.seq).2.2 := (pending_log _ i _).trans started
  unfold canceling
  rw [pending_log, pending_cancel, pending_cancel]
  exact congrArg (fun p => ((p.cancel target).2.cancel r.seq).2) entered

end Connection

/-- **A request to cancel cancels two numbers**: the one it names, and then its own, which it started
before. -/
theorem Call.endAccepted_cancel {s : Station ι σ κ} (offers : s.server.OffersCancel) (i : CallId)
    (c : Call ι σ κ) (args : CancelArgs) (client : Client κ) :
    c.endAccepted i (.cancel args client) s = c.endAnswer i (.ofHeld ⟨.bool, true⟩) ""
      { s with connection := s.connection.canceling i c.request args.seq } := by
  obtain ⟨⟨token, k⟩, started⟩ : ∃ t, s.connection.start i c.request.seq = t := ⟨_, rfl⟩
  let place : Place := ⟨i, CancelService.name, token, some k.ref, false⟩
  let granted := (k.note i .granted).log i [.calling c.request.address c.request.seq]
  let entered := (granted.note i .entered).note i (.logged (.cancelGranted args.seq))
  have invoked : Station.invoke { s with connection := granted } i
      (.cancel { args with pending := some k.ref } client) token =
        (place, CancelService.script args k.ref) :=
    Station.invoke_cancel offers i args k.ref client token
  have canceled : Station.perform place (.cancel args.seq) { s with connection := entered } =
      ((), { s with connection := entered.cancel i args.seq }) :=
    congrArg (Prod.mk ()) (if_pos (decide_eq_true rfl))
  unfold endAccepted Connection.canceling
  rw [started]
  change c.endReady i (.cancel { args with pending := some k.ref } client) token
    { s with connection := granted } = _
  unfold endReady
  rw [invoked]
  change c.endRelease i (CancelService.finished args k.ref)
    ((Station.perform place (.cancel args.seq) { s with connection := entered }).2.giveBack place)
      = _
  rw [canceled]
  rfl

namespace Exchange

variable {x : Exchange ι σ κ}

theorem ends_ready_cancel {s : Station ι σ κ} (offers : s.server.OffersCancel)
    (free : s.connection.writer = none) (i : CallId) (r : Request) (guarded : Bool)
    (args : CancelArgs) (ref : TableRef) (client : Client κ) (token : Token) :
    Ends i r guarded (.ready (.cancel { args with pending := some ref } client) token) s := by
  refine .move (.enter _ token ?_) (ends_running _ _ ?_)
  · rw [Station.invoke_cancel offers]
    rfl
  · rw [Station.take_connection]
    exact free

/-- A call of the cancellation service needs no lock but the one on the wire. -/
theorem ends_cancel {s : Station ι σ κ} (offers : s.server.OffersCancel)
    (free : s.connection.writer = none) (i : CallId) (r : Request) (guarded : Bool)
    (args : CancelArgs) (client : Client κ) :
    Ends i r guarded (.accepted (.cancel args client)) s := by
  obtain ⟨es, -, handed⟩ := Station.handOver_snd
    { s with connection := (s.connection.start i r.seq).2 } i r (.cancel args client)
  refine .move (.start _) (.move (.handOver _ _) ?_)
  rw [Station.handOver_cancel, handed]
  refine ends_ready_cancel ?_ ?_ ..
  · exact offers
  · exact (s.connection.silent_start i r.seq).writer.trans free

/-- A request to cancel that was read is served. -/
theorem served_of_decode (offers : x.station.server.OffersCancel)
    (known : x.connection.pending.KnowsTokens) (free : x.connection.writer = none) (r : Request)
    (guarded : Bool) (args : CancelArgs) (client : Client κ) :
    let y := x.push r guarded (.accepted (.cancel args client))
    (∃ z, y.EndsAlone x.calls.length z) ∧ ∀ z, y.EndsAlone x.calls.length z →
      x.connection.pending.Loses args.seq r.seq z.connection.pending ∧
      x.connection.Answered r.seq ⟨⟨r.address, r.seq, ""⟩, [1]⟩ z.connection := by
  have first : (Phase.accepted (.cancel args client) : Phase ι σ κ).IsFirst := trivial
  obtain ⟨exists_end, ends⟩ := x.endsAlone_push r guarded first
  refine ⟨exists_end (ends_cancel offers free x.calls.length r guarded args client), ?_⟩
  intro z alone
  let c : Call ι σ κ := ⟨r, guarded, .accepted (.cancel args client)⟩
  have hz : z.station = c.endAccepted x.calls.length (.cancel args client) x.station := ends z alone
  rw [Call.endAccepted_cancel offers] at hz
  obtain ⟨answered, kept⟩ := c.answered_endAnswer x.calls.length (.ofHeld ⟨.bool, true⟩) ""
    { x.station with
      connection := x.station.connection.canceling x.calls.length r args.seq }
  have silent := x.station.connection.silent_canceling x.calls.length r args.seq
  unfold Exchange.connection
  rw [hz, kept, Connection.pending_canceling]
  exact ⟨known.loses args.seq r.seq, silent.answered answered⟩

/-- A request that cannot be read, or is rejected for something else, is answered with the error. -/
theorem served_of_error (free : x.connection.writer = none) (r : Request) (guarded : Bool)
    {error : String} (text : error ≠ "") :
    let y := x.push r guarded (.answering .empty error)
    (∃ z, y.EndsAlone x.calls.length z) ∧ ∀ z, y.EndsAlone x.calls.length z →
      z.connection.pending = x.connection.pending ∧
      x.connection.Answered r.seq ⟨⟨r.address, r.seq, error⟩, []⟩ z.connection := by
  have first : (Phase.answering .empty error : Phase ι σ κ).IsFirst := trivial
  obtain ⟨exists_end, ends⟩ := x.endsAlone_push r guarded first
  refine ⟨exists_end (ends_answering .empty error free), ?_⟩
  intro z alone
  have hz : z.connection = _ := congrArg Station.connection (ends z alone)
  obtain ⟨answered, kept⟩ := Call.answered_endAnswer x.calls.length
    ⟨r, guarded, .answering .empty error⟩ .empty error x.station
  rw [hz, ← r.compose_of_error (.empty : Reply ι) text]
  exact ⟨kept, answered⟩

omit [Inhabited σ] in
/-- A guard has no part in what goes onto the wire. -/
theorem answered_of_addGuard {guarded : Bool} {q : UInt64} {frame : Frame} {k : Connection}
    (h : (x.addGuard guarded).connection.Answered q frame k) :
    x.connection.Answered q frame k := by
  cases guarded <;> exact ⟨h.wire, h.sent, h.freed⟩

/-- The tables that come up on a connection know their tokens. -/
theorem knowsTokens_of_runs {server : Server ι σ κ} {ref : TableRef}
    (h : (new server ref).Runs x) : x.connection.pending.KnowsTokens :=
  fun _ _ bound => (sound_tableView h).made_token? bound

/-- **A request to cancel, from end to end.** Whatever is in the pending table, a request to the
cancellation service that is served alone comes to an end, and to one end only. If its body has eight
bytes, the number that they stand for and its own number are lost from the table and their tokens
canceled, and the answer is `true`. If the body is shorter, nothing happens to the table, and the
answer is the error. Either way one frame is written, and one request forgotten. -/
theorem cancel_served (offers : x.station.server.OffersCancel)
    (known : x.connection.pending.KnowsTokens) (free : x.connection.writer = none) (q : UInt64)
    (body : Bytes) (client : Client κ) (guarded : Bool) :
    let r : Request := ⟨"_goRPC_.Cancel", q⟩
    let y := (x.accept r body client guarded).2
    (∃ z, y.EndsAlone x.calls.length z) ∧ ∀ z, y.EndsAlone x.calls.length z →
      (8 ≤ body.length → ∃ s : UInt64, s.toNat = leValue (body.take 8) ∧
        x.connection.pending.Loses s q z.connection.pending ∧
        x.connection.Answered q ⟨⟨r.address, q, ""⟩, [1]⟩ z.connection) ∧
      (body.length < 8 → z.connection.pending = x.connection.pending ∧
        x.connection.Answered q ⟨⟨r.address, q,
          (HolderError.decode "birpc::svc::CancelArgs" .endOfInput).message⟩, []⟩
          z.connection) := by
  intro r y
  -- Whether a guard is taken for the request has no part in what follows.
  obtain ⟨w, hw⟩ : ∃ w, x.addGuard guarded = w := ⟨_, rfl⟩
  have offers_w : w.station.server.OffersCancel := hw ▸ x.addGuard_server guarded ▸ offers
  have free_w : w.connection.writer = none := hw ▸ (x.addGuard_writer guarded).trans free
  have pending_w : w.connection.pending = x.connection.pending := hw ▸ x.addGuard_pending guarded
  have calls_w : w.calls = x.calls := hw ▸ x.addGuard_calls guarded
  have answered_w {frame : Frame} {k : Connection} (h : w.connection.Answered q frame k) :
      x.connection.Answered q frame k := answered_of_addGuard (hw ▸ h)
  rw [← calls_w]
  by_cases long : 8 ≤ body.length
  · obtain ⟨s, hs, hdecode⟩ := CancelArgs.exists_decode long
    have hy : y = w.push r guarded (.accepted (.cancel ⟨s, none⟩ client)) := by
      change (x.accept r body client guarded).2 = _
      rw [accept_of_prepare (Station.prepare_cancel offers q hdecode client), hw]
    obtain ⟨exists_end, served⟩ :=
      served_of_decode offers_w (pending_w ▸ known) free_w r guarded ⟨s, none⟩ client
    rw [hy]
    refine ⟨exists_end, fun z alone => ⟨fun _ => ⟨s, hs, ?_⟩, fun short => by omega⟩⟩
    obtain ⟨loses, answered⟩ := served z alone
    exact ⟨pending_w ▸ loses, answered_w answered⟩
  · have short := Nat.lt_of_not_le long
    let e := HolderError.decode "birpc::svc::CancelArgs" .endOfInput
    let v := w.onConnection (·.log x.calls.length [.rejected q (.holder e)])
    have hy : y = v.push r guarded (.answering .empty e.message) := by
      change (x.accept r body client guarded).2 = _
      rw [accept_of_prepare_error (Station.prepare_cancel_error offers q short client), hw]
      rfl
    have silent : w.connection.Silent v.connection := w.connection.silent_log _ _
    obtain ⟨exists_end, served⟩ :=
      served_of_error (silent.writer.trans free_w) r guarded e.message_ne_empty
    rw [hy]
    refine ⟨exists_end, fun z alone => ⟨fun long => by omega, fun _ => ?_⟩⟩
    obtain ⟨kept, answered⟩ := served z alone
    refine ⟨?_, answered_w (silent.answered answered)⟩
    rw [kept, ← pending_w]
    exact w.connection.pending_log _ _

/-- Two calls have started the numbers 1 and 2, and a request with the number 2 cancels 1. -/
theorem cancel_served_sharing :
    ∃ x z : Exchange Empty Unit Empty, (new .bare ⟨0⟩).follow
        [.accept (.cancel 1 99) false, .accept (.cancel 2 99) false, .call 0 true,
          .call 1 true] = some x ∧
      x.connection.pending.entries = [(2, ⟨1⟩), (1, ⟨0⟩)] ∧
      (x.accept ⟨"_goRPC_.Cancel", 2⟩ (leBytes 8 1) .none false).2.EndsAlone 2 z ∧
      (∀ n, z.connection.pending.token? n =
        if n = 1 ∨ n = 2 then none else x.connection.pending.token? n) ∧
      z.connection.pending.tokens.isCanceled ⟨0⟩ = true ∧
      z.connection.pending.tokens.isCanceled ⟨1⟩ = true ∧
      x.connection.Answered 2 ⟨⟨"_goRPC_.Cancel", 2, ""⟩, [1]⟩ z.connection := by
  have run : ((new Server.bare ⟨0⟩).follow
      [.accept (.cancel 1 99) false, .accept (.cancel 2 99) false, .call 0 true,
        .call 1 true]).any fun x => decide (x.connection.pending = ⟨⟨[false, false]⟩,
          [(2, ⟨1⟩), (1, ⟨0⟩)]⟩ ∧ x.connection.writer = none ∧ x.calls.length = 2) := by
    decide +kernel
  simp only [Option.any_eq_true, decide_eq_true_eq] at run
  obtain ⟨x, hx, table, free, count⟩ := run
  have runs := runs_of_follow hx
  have offers : x.station.server.OffersCancel :=
    runs.invariant (P := fun x => x.station.server.OffersCancel)
      ((Server.Built.new : Server.bare.Built {}).offersCancel rfl)
      fun _ _ hnext hx => offersCancel_next hnext hx
  obtain ⟨⟨z, alone⟩, served⟩ :=
    cancel_served offers (knowsTokens_of_runs runs) free 2 (leBytes 8 1) .none false
  obtain ⟨s, hs, loses, answered⟩ := (served z alone).1 (by decide)
  obtain rfl : s = 1 := UInt64.toNat_inj.1 hs
  rw [count] at alone
  refine ⟨x, z, hx, by rw [table], alone, loses.token?, ?_, ?_, answered⟩
  · refine (loses.isCanceled ⟨0⟩ ?_).2 (.inr (.inl ?_))
    · rw [table]
      exact Nat.zero_lt_two
    · rw [table]
      rfl
  · refine (loses.isCanceled ⟨1⟩ ?_).2 (.inr (.inr ?_))
    · rw [table]
      exact Nat.one_lt_two
    · rw [table]
      rfl

end Exchange

end Switchboard
