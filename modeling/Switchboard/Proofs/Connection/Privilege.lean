import Switchboard.Proofs.Connection.Grants
import Switchboard.Proofs.Connection.Lifetime

/-!
# Who is given the pending table

The connection gives its pending table away in one place: to a method that was listed as privileged,
of the service under the reserved name. Any other method sees an argument without a table, however it
was listed and whatever the bytes of the request were; and then nothing that its call does reaches
further than the call's own number.

To tell whose number a step reaches, every token is given the number that it was made for. Calls of
one number may share a token; no token ever belongs to two numbers.

Results:

* `Exchange.exists_numbers`: every token that starts gave belongs to one number.
* `Exchange.confined_step`, `Exchange.confined_run`: what a call without the table leaves alone.
* `Exchange.confined_privilege`: which methods are given the table, and what serving a request to any
  other service leaves alone.
-/

namespace Switchboard

/-! ## The number of a token -/

namespace TableView

variable {v w : TableView} {number : Token → UInt64}

/-- A step gives a number to the token that it makes, and leaves the numbers of the others. -/
theorem Sound.exists_number (h : v.Sound) (hstep : Step v w)
    (hnumber : ∀ i q t, v.held i = some (q, t) → number t = q) :
    ∃ number' : Token → UInt64, (∀ t, v.pending.tokens.Made t → number' t = number t) ∧
      ∀ i q t, w.held i = some (q, t) → number' t = q := by
  cases hstep with
  | start i q es new =>
    rcases v.pending.token?_or_not_made q with bound | ⟨-, hfresh⟩
    · refine ⟨number, fun _ _ => rfl, ?_⟩
      intro j q' t hj
      by_cases hji : j = i
      · subst hji
        cases (Function.update_self ..).symm.trans hj
        obtain ⟨k, hk⟩ := h.holder q _ bound
        exact hnumber k q _ hk
      · exact hnumber j q' t ((Function.update_of_ne hji ..).symm.trans hj)
    · have hothers : ∀ t, v.pending.tokens.Made t →
          Function.update number (v.pending.start q).1 q t = number t := by
        intro t ht
        refine Function.update_of_ne ?_ ..
        rintro rfl
        exact hfresh ht
      refine ⟨_, hothers, ?_⟩
      intro j q' t hj
      by_cases hji : j = i
      · subst hji
        cases (Function.update_self ..).symm.trans hj
        exact Function.update_self ..
      · have hold := (Function.update_of_ne hji ..).symm.trans hj
        exact (hothers t (h.made_held j q' t hold)).trans (hnumber j q' t hold)
  | release i q u es own idle =>
    exact ⟨number, fun _ _ => rfl, fun j q' t hj => hnumber j q' t (of_update_none hj)⟩
  | quiet es => exact ⟨number, fun _ _ => rfl, hnumber⟩
  | hunt i q es idle => exact ⟨number, fun _ _ => rfl, hnumber⟩
  | flag i u own => exact ⟨number, fun _ _ => rfl, hnumber⟩
  | abandon i q u own => exact ⟨number, fun _ _ => rfl, hnumber⟩

end TableView

variable {ι σ κ : Type} [MessageFamily ι]

namespace Exchange

variable [Inhabited σ] {x y z : Exchange ι σ κ} {number : Token → UInt64}

/-- The numbers that the tokens belong to: that of every call that holds one, and of every call that
is half released and has yet to cancel what it found. -/
structure Numbers (x : Exchange ι σ κ) (number : Token → UInt64) : Prop where
  held : ∀ i q t, x.tableView.held i = some (q, t) → number t = q
  found : ∀ (i : CallId) (r : Request) (guarded : Bool) (own u : Token) (finished : Finished ι),
    x.calls[i]? = some ⟨r, guarded, .releasing own (some u) finished⟩ → number u = r.seq

theorem Numbers.next (hx : x.Numbers number) (hsound : x.tableView.Sound) (hnext : x.Next y) :
    ∃ number' : Token → UInt64,
      (∀ t, x.connection.pending.tokens.Made t → number' t = number t) ∧ y.Numbers number' := by
  obtain ⟨number', hsame, hheld⟩ :=
    hsound.exists_number (step_tableView_of_next hnext) hx.held
  refine ⟨number', hsame, hheld, ?_⟩
  intro i r guarded own u finished here
  rcases hnext.origin here with ⟨-, hfirst⟩ | ⟨phase, hbefore, moves | rfl⟩
  · exact hfirst.elim
  · generalize hu : some u = victim? at moves
    generalize y.station = s' at moves
    cases moves with
    | release place finished locks =>
      have hbound : x.tableView.token? r.seq = some u :=
        (x.connection.fst_remove i r.seq).symm.trans hu.symm
      obtain ⟨k, hk⟩ := hsound.holder r.seq u hbound
      exact (hsame u (hsound.made_held k r.seq u hk)).trans (hx.held k r.seq u hk)
  · have hmade := hsound.made_hunted i u (hunted_of_getElem? hbefore)
    exact (hsame u hmade).trans (hx.found i r guarded own u finished hbefore)

theorem Numbers.follow {ms : List (Choice ι κ)} (hx : x.Numbers number)
    (hsound : x.tableView.Sound) (hz : x.follow ms = some z) :
    ∃ number' : Token → UInt64,
      (∀ t, x.connection.pending.tokens.Made t → number' t = number t) ∧ z.Numbers number' ∧
      ∀ q t, x.Issued ms q t → number' t = q := by
  induction ms generalizing x number with
  | nil =>
    cases hz
    refine ⟨number, fun _ _ => rfl, hx, ?_⟩
    rintro q t ⟨before, after, y, i, r, guarded, call, hnil, hy, here, rfl⟩
    obtain ⟨rfl, -⟩ := List.append_eq_nil_iff.1 hnil.symm
    cases hy
    exact hx.held i r.seq t (held_of_getElem? here)
  | cons m ms ih =>
    obtain ⟨y, hy, hrest⟩ := Option.bind_eq_some_iff.1 hz
    have hnext := next_of_choose hy
    have hstep := step_tableView_of_next hnext
    obtain ⟨number₁, hsame₁, hy'⟩ := hx.next hsound hnext
    obtain ⟨number', hsame, hz', hissued⟩ := ih hy' (hsound.step hstep) hrest
    have hsame' : ∀ t, x.connection.pending.tokens.Made t → number' t = number t := fun t ht =>
      (hsame t (TableView.made_step hstep ht)).trans (hsame₁ t ht)
    refine ⟨number', hsame', hz', ?_⟩
    rintro q t ⟨before, after, w, i, r, guarded, call, hms, hw, here, rfl⟩
    cases before with
    | nil =>
      cases hw
      have hheld : x.tableView.held i = some (r.seq, t) := held_of_getElem? here
      exact (hsame' t (hsound.made_held i r.seq t hheld)).trans (hx.held i r.seq t hheld)
    | cons m' before =>
      cases hms
      rw [follow_cons, hy] at hw
      exact hissued r.seq t ⟨before, after, w, i, r, guarded, call, rfl, hw, here, rfl⟩

/-- **Every token that starts gave belongs to one number.** -/
theorem exists_numbers {server : Server ι σ κ} {ref : TableRef} {ms : List (Choice ι κ)}
    (hx : (new server ref).follow ms = some x) :
    ∃ number, x.Numbers number ∧ ∀ q t, (new server ref).Issued ms q t → number t = q := by
  have hnew : (new server ref).Numbers fun _ => 0 := by
    refine ⟨?_, ?_⟩
    · intro i q t hi
      cases hi
    · intro i r guarded own u finished here
      cases here
  obtain ⟨number, -, hnumbers, hissued⟩ := hnew.follow (sound_tableView .refl) hx
  exact ⟨number, hnumbers, hissued⟩

/-! ## What a call without the table leaves alone -/

section Confined

variable {server : Server ι σ κ} {ref : TableRef} {ms ns : List (Choice ι κ)} {i : CallId}
  {r : Request} {guarded expired : Bool} {call : PreparedCall ι κ}

/-- The exchanges do not differ in the table's entries for other numbers than `q`, and not in the
tokens issued for other numbers on the schedule `ms` that led to the first of them. -/
structure Spares (server : Server ι σ κ) (ref : TableRef) (ms : List (Choice ι κ)) (q : UInt64)
    (x y : Exchange ι σ κ) : Prop where
  entries : ∀ q', q' ≠ q → y.connection.pending.token? q' = x.connection.pending.token? q'
  tokens : ∀ q' t, q' ≠ q → (new server ref).Issued ms q' t →
    y.connection.pending.tokens.isCanceled t = x.connection.pending.tokens.isCanceled t

/-- **A step of a call that was not given the table spares all other numbers.** -/
theorem confined_step {phase : Phase ι σ κ} {Q : UInt64 → Prop}
    (hx : (new server ref).follow ms = some x) (here : x.calls[i]? = some ⟨r, guarded, phase⟩)
    (carries : phase.Carries call x.connection.ref Q)
    (without : (call.handed x.connection.ref).argument.held.pending? = none)
    (hy : x.step i expired = some y) : Spares server ref ms r.seq x y := by
  have hsound : x.tableView.Sound := sound_tableView (runs_of_follow hx)
  obtain ⟨number, hnumbers, hissued⟩ := exists_numbers hx
  have hheld := held_of_getElem? here
  have hhunted := hunted_of_getElem? here
  have hspare : ∀ {u}, x.connection.pending.tokens.Made u → number u = r.seq →
      y.connection.pending = (x.connection.pending.cancelToken u).2 →
      Spares server ref ms r.seq x y := by
    intro u hmade hu hpending
    refine ⟨fun q hq => by rw [hpending]; rfl, ?_⟩
    intro q t hq issued
    have hne : t ≠ u := by
      rintro rfl
      exact hq ((hissued q t issued).symm.trans hu)
    rw [hpending, Pending.isCanceled_cancelToken hmade, decide_eq_false hne, Bool.false_or]
  obtain ⟨phase', -, moves⟩ := moves_of_turn hy here
  have touches := moves.touches
  generalize hpending : y.station.connection.pending = p at touches
  change y.connection.pending = p at hpending
  cases touches with
  | keep => exact ⟨fun _ _ => by rw [hpending]; rfl, fun _ _ _ _ => by rw [hpending]; rfl⟩
  | start c =>
    refine ⟨?_, ?_⟩
    · intro q hq
      rw [hpending, Pending.token?_start, if_neg hq]
      rfl
    · intro q t hq issued
      rw [hpending, Pending.isCanceled_start]
      rfl
  | remove place target next may =>
    obtain ⟨-, hgrant, -⟩ := carries
    have hmay : place.grant = some x.connection.ref := of_decide_eq_true may
    rw [hgrant, without] at hmay
    cases hmay
  | release place finished =>
    refine ⟨?_, ?_⟩
    · intro q hq
      rw [hpending, Pending.token?_remove, if_neg hq]
      rfl
    · intro q t hq issued
      rw [hpending, Pending.tokens_remove]
      rfl
  | flag victim token found =>
    have hmade := hsound.made_hunted i victim (hhunted.trans found)
    refine hspare hmade ?_ hpending
    cases phase with
    | flagging place u rest =>
      obtain ⟨-, hgrant, hown, -⟩ := carries
      rw [hgrant, without] at hown
      cases hown
    | releasing own victim? finished =>
      cases found
      exact hnumbers.found i r guarded own victim finished here
    | _ => cases found
  | abandon place next rest =>
    exact hspare (hsound.made_held i r.seq place.token hheld)
      (hnumbers.held i r.seq place.token hheld) hpending

theorem Issued.append {server : Server ι σ κ} {ref : TableRef} {ms : List (Choice ι κ)}
    {q : UInt64} {t : Token} (h : (new server ref).Issued ms q t) (ns : List (Choice ι κ)) :
    (new server ref).Issued (ms ++ ns) q t := by
  obtain ⟨before, after, y, i, r, guarded, call, rfl, rest⟩ := h
  exact ⟨before, after ++ ns, y, i, r, guarded, call, List.append_assoc .., rest⟩

theorem Spares.trans {q : UInt64} (hxy : Spares server ref ms q x y)
    (hyz : Spares server ref (ms ++ ns) q y z) : Spares server ref ms q x z := by
  refine ⟨?_, ?_⟩
  · intro q' hq
    exact (hyz.entries q' hq).trans (hxy.entries q' hq)
  · intro q' t hq issued
    exact (hyz.tokens q' t hq (issued.append ns)).trans (hxy.tokens q' t hq issued)

/-- **All steps of a call that is not given the table spare the other numbers**, from wherever they
go on. -/
theorem confined_run {y : Exchange ι σ κ}
    (hx : (new server ref).follow ms = some x)
    (arrived : x.calls[i]? = some ⟨r, guarded, .accepted call⟩)
    (without : (call.handed x.connection.ref).argument.held.pending? = none)
    (hy : x.follow ns = some y) {turns : List Bool}
    (hz : y.follow (turns.map (.call i)) = some z) :
    Spares server ref (ms ++ ns) r.seq y z := by
  induction turns generalizing y ns with
  | nil =>
    cases hz
    exact ⟨fun _ _ => rfl, fun _ _ _ _ => rfl⟩
  | cons expired turns ih =>
    obtain ⟨w, hw, hrest⟩ := Option.bind_eq_some_iff.1 hz
    obtain ⟨phase, here, carries⟩ := carries_of_runs arrived
      (fun _ _ _ => Script.cancels_true _) (runs_of_follow hy)
    have href : y.connection.ref = x.connection.ref := ref_of_runs (runs_of_follow hy)
    have hfirst := confined_step (follow_trans hx hy) here (href.symm ▸ carries)
      (href.symm ▸ without) hw
    have hy' : x.follow (ns ++ [.call i expired]) = some w :=
      follow_trans hy ((follow_singleton y _).trans hw)
    have hothers := ih hy' hrest
    rw [← List.append_assoc] at hothers
    exact hfirst.trans hothers

end Confined

/-! ## Which methods are given the table -/

end Exchange

/-- The argument of a call that is about to enter its method holds the table exactly if the service
has the reserved name and the method is privileged. -/
theorem Method.exists_handed {m : Method ι σ κ} {body : Bytes} {argument : Argument ι}
    (hdecode : m.makeArgument.decode body = .ok argument) (service : String) (client : Client κ)
    (ref : TableRef) :
    ∃ a v, (⟨service, m.name, argument, m.makeReply, client⟩ : PreparedCall ι κ).handed ref =
        ⟨service, m.name, a, m.makeReply, client⟩ ∧ a.held = ⟨m.implementation.argument, v⟩ ∧
      Held.pending? ⟨m.implementation.argument, v⟩ =
        if service = CancelService.name ∧ m.implementation.passing = .privileged then some ref
        else none := by
  have hnone := Argument.pending?_of_decode hdecode
  obtain ⟨v, rfl⟩ := Argument.exists_of_decode hdecode
  have hdeclared := m.declared_makeArgument
  have hprivileged := m.privileged_makeArgument
  have hslotted := m.implementation.slotted
  generalize m.makeArgument = a at v hnone hdeclared hprivileged
  obtain ⟨declared, held, byValue, privileged⟩ := a
  cases hdeclared
  by_cases hservice : service = CancelService.name
  · rw [PreparedCall.handed_of_eq hservice]
    by_cases hpassing : m.implementation.passing = .privileged
    · obtain ⟨w, hoffered, hpending⟩ := Argument.exists_offered
        (a := ⟨m.implementation.argument, ⟨_, v⟩, byValue, privileged⟩)
        (hprivileged.trans (decide_eq_true hpassing)) (hslotted hpassing) rfl ref
      refine ⟨_, w, rfl, congrArg Argument.held hoffered, ?_⟩
      rw [hpending, if_pos ⟨hservice, hpassing⟩]
    · have hoffered := Argument.offered_of_not_privileged
        (a := ⟨m.implementation.argument, ⟨_, v⟩, byValue, privileged⟩)
        (hprivileged.trans (decide_eq_false hpassing)) ref
      refine ⟨_, v, rfl, congrArg Argument.held hoffered, ?_⟩
      rw [if_neg fun h => hpassing h.2]
      exact hnone
  · rw [PreparedCall.handed_of_ne hservice]
    refine ⟨_, v, rfl, rfl, ?_⟩
    rw [if_neg fun h => hservice h.1]
    exact hnone

namespace Exchange

variable [Inhabited σ]

/-- With the step from `x` to `y` call `i` enters the body of the method `m`, which is given the
argument `v`. What the body has of the pending table is what is in `v`. -/
def Enters (x y : Exchange ι σ κ) (i : CallId) (m : Method ι σ κ)
    (v : m.implementation.argument.Carrier) : Prop :=
  ∃ (r : Request) (guarded : Bool) (call : PreparedCall ι κ) (token : Token) (place : Place)
    (reply : m.implementation.reply.Carrier)
    (next : m.implementation.reply.Carrier × Ending → Script σ (Finished ι)),
    x.calls[i]? = some ⟨r, guarded, .ready call token⟩ ∧
    y.calls[i]? = some ⟨r, guarded, .running place
      (.act .enter fun _ => (m.implementation.body call.client v reply).bind next)⟩ ∧
    place.grant = Held.pending? ⟨m.implementation.argument, v⟩

/-- A call that was accepted for the method `m` enters `m`, with an argument that holds the table
exactly if the service has the reserved name and the method is privileged. -/
theorem enters_of_accepted {x y z : Exchange ι σ κ} {i : CallId} {r : Request}
    {guarded expired : Bool} {service : Service ι σ κ} {m : Method ι σ κ} {body : Bytes}
    {argument : Argument ι} {client : Client κ}
    (bound : x.station.server.service? service.name = some service)
    (hm : service.method? m.name = some m) (specials : m.implementation.takesSpecials = true)
    (hdecode : m.makeArgument.decode body = .ok argument)
    (arrived : x.calls[i]? = some ⟨r, guarded,
      .accepted ⟨service.name, m.name, argument, m.makeReply, client⟩⟩)
    (hy : x.Runs y) {c : Call ι σ κ} (here : y.calls[i]? = some c) (ready : c.isReady = true)
    (hz : y.step i expired = some z) :
    ∃ v, Enters y z i m v ∧ Held.pending? ⟨m.implementation.argument, v⟩ =
      if service.name = CancelService.name ∧ m.implementation.passing = .privileged then
        some z.connection.ref
      else none := by
  obtain ⟨a, v, hhanded, hheld, hpending⟩ :=
    Method.exists_handed hdecode service.name client x.connection.ref
  have href : z.connection.ref = x.connection.ref :=
    (next_step hz).ref.trans (ref_of_runs hy)
  obtain ⟨phase, here', carries⟩ := carries_of_runs arrived
    (fun _ _ _ => Script.cancels_true _) hy
  cases here.symm.trans here'
  cases phase with
  | ready call token =>
    cases carries
    obtain ⟨state, bound'⟩ := (sameBut_of_runs hy).exists_state bound
    rw [hhanded] at here
    have hservice : y.station.server.service?
        (⟨service.name, m.name, a, m.makeReply, client⟩ : PreparedCall ι κ).service =
          some (service.withState state) := bound'
    obtain ⟨place, next, hinvoke, hgrant⟩ :=
      Station.exists_invoke hservice hm specials hheld rfl i token
    obtain ⟨phase', hafter, moves⟩ := moves_of_turn hz here
    rw [← href] at hpending
    refine ⟨v, ?_, hpending⟩
    generalize z.station = s' at moves
    cases moves with
    | enter call token free =>
      rw [hinvoke] at hafter
      exact ⟨r, guarded, _, token, place, _, next, here, hafter, hgrant⟩
  | _ => cases ready

/-- **Who is given the table, and what the others leave alone.** Take a server with any
registrations, any schedule that leads to `a`, where a request is accepted as call `i`, and any
schedule that leads on from there to `z`. The request was resolved to a method `m` of a service; the
service comes from a receiver, which listed `m` as the candidate `c`.

* If call `i` enters its method with the next step, the argument that the body is given holds a
  pending table exactly if the service has the reserved name and `c` was listed as privileged; and
  it is the table of this connection.
* If the service has another name, the arrival of the request leaves the table alone, and all steps
  of call `i`, from `z` on, spare all other numbers: the entries of the table and the tokens that
  were ever issued for them. -/
theorem confined_privilege {config : ServerConfig} {server : Server ι σ κ}
    (built : server.Built config) {ref : TableRef} {ms ns : List (Choice ι κ)}
    {a b z : Exchange ι σ κ} {inbound : Inbound κ} {guarded : Bool} {i : CallId}
    (ha : (new server ref).follow ms = some a)
    (hb : a.accept inbound.request inbound.body inbound.client guarded = (.accepted i, b))
    (hz : b.follow ns = some z) :
    ∃ service m receiver name? c,
      a.station.server.resolve inbound.request.address = .ok (service, m) ∧
      service.ComesFrom receiver name? ∧ c ∈ receiver.candidates ∧ c.Becomes m ∧
      (∀ d expired w, z.calls[i]? = some d → d.isReady = true → z.step i expired = some w →
        ∃ v, Enters z w i m v ∧
          ((Held.pending? ⟨m.implementation.argument, v⟩).isSome = true ↔
            service.name = CancelService.name ∧ c.IsPrivileged) ∧
          ∀ t, Held.pending? ⟨m.implementation.argument, v⟩ = some t → t = w.connection.ref) ∧
      (service.name ≠ CancelService.name →
        b.connection.pending = a.connection.pending ∧
        ∀ (turns : List Bool) w, z.follow (turns.map (.call i)) = some w →
          Spares server ref (ms ++ .accept inbound guarded :: ns) inbound.request.seq z w) := by
  obtain ⟨service, m, argument, hresolve, hdecode, arrived, hserver, hpending⟩ :=
    exists_of_accepted hb
  obtain ⟨bound, hm⟩ := Server.exists_of_resolve hresolve
  obtain ⟨origin, state, horigin, rfl⟩ :=
    (sameBut_of_runs (runs_of_follow ha)).exists_origin bound
  obtain ⟨receiver, name?, hfrom⟩ := built.comesFrom horigin
  obtain ⟨c, hc, becomes⟩ := hfrom.exists_candidate hm
  refine ⟨_, m, receiver, name?, c, hresolve, hfrom.withState state, hc, becomes, ?_, ?_⟩
  · intro d expired w here ready hw
    obtain ⟨v, henters, hv⟩ := enters_of_accepted (hserver ▸ bound) hm becomes.takesSpecials
      hdecode arrived (runs_of_follow hz) here ready hw
    refine ⟨v, henters, ?_, ?_⟩
    · rw [hv, Candidate.isPrivileged_iff becomes]
      split
      · next hboth => exact ⟨fun _ => hboth, fun _ => rfl⟩
      · next hneither => exact ⟨fun h => (nomatch h), fun h => absurd h hneither⟩
    · intro t ht
      rw [hv] at ht
      split at ht
      · exact (Option.some.inj ht).symm
      · cases ht
  · intro hname
    refine ⟨hpending, ?_⟩
    intro turns w hw
    have hbrun : (new server ref).follow (ms ++ [.accept inbound guarded]) = some b := by
      refine follow_trans ha ((follow_singleton a _).trans ?_)
      exact congrArg (fun p => some p.2) hb
    have without : (PreparedCall.handed ⟨(origin.withState state).name, m.name, argument,
        m.makeReply, inbound.client⟩ b.connection.ref).argument.held.pending? = none := by
      rw [PreparedCall.handed_of_ne hname]
      exact Argument.pending?_of_decode hdecode
    have hspares := confined_run hbrun arrived without hz hw
    rw [List.append_assoc] at hspares
    exact hspares

end Exchange

/-- A server that has the receiver of the cancellation service under a second name. -/
def Server.renamed : Server Empty Unit Empty :=
  match (Server.bare.register CancelService.receiver (some "Other")).2 with
  | .ok server => server
  | .error _ => .bare

theorem Server.built_renamed : Server.renamed.Built {} := by
  unfold renamed
  split
  · next server registered => exact .register _ _ .new registered
  · exact .new

/-- A request to cancel the number 1 by the second name. -/
def Inbound.toOther : Inbound Empty := ⟨⟨"Other.Cancel", 2⟩, leBytes 8 1, .none⟩

namespace Exchange

theorem confined_privilege_renamed :
    ∃ a b z : Exchange Empty Unit Empty,
      (new .renamed ⟨0⟩).follow [.accept (.cancel 1 99) false, .call 0 true] = some a ∧
      a.accept Inbound.toOther.request Inbound.toOther.body Inbound.toOther.client false =
        (.accepted 1, b) ∧
      b.follow (.replicate 2 (.call 1 true)) = some z ∧
      (∃ w m v, z.step 1 true = some w ∧ Enters z w 1 m v ∧
        Held.pending? ⟨m.implementation.argument, v⟩ = none) ∧
      ∃ w, z.follow ((List.replicate 8 true).map (.call 1)) = some w ∧
        w.connection.pending.token? 1 = some ⟨0⟩ ∧
        w.connection.pending.tokens.isCanceled ⟨0⟩ = false := by
  have run : ((new Server.renamed ⟨0⟩).follow
      [.accept (.cancel 1 99) false, .call 0 true]).any fun a =>
      ((a.accept Inbound.toOther.request Inbound.toOther.body Inbound.toOther.client false).2.follow
        (.replicate 2 (.call 1 true))).any fun z => (z.step 1 true).any fun _ =>
      (z.follow ((List.replicate 8 true).map (.call 1))).any fun _ => decide
        (a.started? 0 = some (⟨"_goRPC_.Cancel", 1⟩, false, ⟨0⟩) ∧
          (a.accept Inbound.toOther.request Inbound.toOther.body Inbound.toOther.client
            false).1 = .accepted 1 ∧
          (a.station.server.resolve Inbound.toOther.request.address).toOption.map (·.1.name) =
            some "Other" ∧
          z.calls[1]?.any Call.isReady = true ∧ z.connection.pending.token? 1 = some ⟨0⟩ ∧
          z.connection.pending.tokens.isCanceled ⟨0⟩ = false) := by decide +kernel
  simp only [Option.any_eq_true, decide_eq_true_eq] at run
  obtain ⟨a, ha, z, hz, w, hw, w', hw', hstarted, haccepted, hother, ⟨d, here, ready⟩, hbound,
    huncanceled⟩ := run
  obtain ⟨call, started⟩ := exists_of_started? hstarted
  obtain ⟨service, m, receiver, name?, c, hresolve, -, -, -, hgiven, hspared⟩ :=
    confined_privilege Server.built_renamed ha (Prod.ext haccepted rfl) hz
  have hname : service.name = "Other" := by
    rw [hresolve] at hother
    exact Option.some.inj hother
  have hne : service.name ≠ CancelService.name := by
    rw [hname]
    decide
  obtain ⟨v, henters, hiff, -⟩ := hgiven d true w here ready hw
  obtain ⟨-, hspares⟩ := hspared hne
  have hspare := hspares (.replicate 8 true) w' hw'
  have issued : (new Server.renamed ⟨0⟩).Issued ([.accept (.cancel 1 99) false, .call 0 true] ++
      .accept Inbound.toOther false :: .replicate 2 (.call 1 true)) 1 ⟨0⟩ :=
    ⟨_, _, a, 0, _, _, call, rfl, ha, started, rfl⟩
  refine ⟨a, _, z, ha, Prod.ext haccepted rfl, hz, ⟨w, m, v, hw, henters, ?_⟩, w', hw', ?_, ?_⟩
  · exact Option.not_isSome_iff_eq_none.1 fun h => hne (hiff.1 h).1
  · exact (hspare.entries 1 (by decide)).trans hbound
  · exact (hspare.tokens 1 ⟨0⟩ (by decide) issued).trans huncanceled

end Exchange

end Switchboard
