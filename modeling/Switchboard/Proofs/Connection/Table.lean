import Switchboard.Proofs.Cancel.Table
import Switchboard.Proofs.Connection.Schedule

/-!
# Who holds which token

Calls share the pending table, and it knows them by their numbers alone: two calls with one number
get one token, a call that cancels a number may hit whoever started it last, and a call that ends
takes out what it finds under its number. `TableView` is what matters of an exchange for that, and
`TableView.Step` has the steps that change it.

`TableView.Sound` is the invariant. What is in the table is held by a call under way. And a token
that a call holds is in the table under the call's number; or it was taken out, and then it is
canceled or somebody is about to cancel it, and the table may know the number again only because
another call started it later.

Results:

* `Exchange.sound_tableView`: the invariant holds on every schedule.
* `Exchange.doomed_of_runs`: a token that is canceled or about to be stays so.
-/

namespace Switchboard

theorem Connection.fst_remove (c : Connection) (call : Option CallId) (seq : UInt64) :
    (c.remove call seq).1 = c.pending.token? seq := by
  rw [remove_eq]
  exact c.pending.fst_remove seq

/-! ## What one call has -/

section Update

variable {α : Type} {f : CallId → Option α} {i j : CallId} {a : α}

/-- A call that had nothing gets something; the others keep what they have. -/
theorem update_of_none (free : f i = none) (hj : f j = some a) (b : Option α) :
    Function.update f i b j = some a := by
  by_cases hji : j = i
  · subst hji
    rw [free] at hj
    cases hj
  · rw [Function.update_of_ne hji]
    exact hj

/-- A call loses what it had; what the others have they had before. -/
theorem of_update_none (h : Function.update f i none j = some a) : f j = some a := by
  by_cases hji : j = i
  · subst hji
    rw [Function.update_self] at h
    cases h
  · rw [Function.update_of_ne hji] at h
    exact h

end Update

/-! ## The table by itself -/

/-- What matters of an exchange for its pending table. -/
structure TableView where
  pending : Pending
  /-- The number and the token of a call, from its start to its release. -/
  held : CallId → Option (UInt64 × Token)
  /-- The token that a call has taken out of the table and not yet canceled. -/
  hunted : CallId → Option Token
  journal : List Entry

namespace TableView

/-- The token bound to a number. -/
def token? (v : TableView) (q : UInt64) : Option Token := v.pending.token? q

/-- Whether a token is canceled. -/
def isCanceled (v : TableView) (t : Token) : Bool := v.pending.tokens.isCanceled t

/-- A token is canceled, or a call has taken it out of the table and is about to cancel it. -/
def Doomed (v : TableView) (t : Token) : Prop :=
  v.isCanceled t = true ∨ ∃ k, v.hunted k = some t

/-- The steps on the table. Each may leave more behind in the journal. -/
inductive Step (v : TableView) : TableView → Prop where
  /-- Nothing happens to the table. -/
  | quiet (es : List Entry) : Step v { v with journal := v.journal ++ es }
  /-- A call starts its number. -/
  | start (i : CallId) (q : UInt64) (es : List Entry) (new : v.held i = none) :
    Step v { v with
      pending := (v.pending.start q).2.2
      held := Function.update v.held i (some (q, (v.pending.start q).1))
      journal := v.journal ++ ⟨some i, .started q⟩ :: es }
  /-- The body of a call takes a number out of the table. -/
  | hunt (i : CallId) (q : UInt64) (es : List Entry) (idle : v.hunted i = none) :
    Step v { v with
      pending := (v.pending.remove q).2.2
      hunted := Function.update v.hunted i (v.token? q)
      journal := v.journal ++ ⟨some i, .canceled q⟩ :: es }
  /-- A call that ends takes its own number out of the table. -/
  | release (i : CallId) (q : UInt64) (t : Token) (es : List Entry) (own : v.held i = some (q, t))
    (idle : v.hunted i = none) :
    Step v {
      pending := (v.pending.remove q).2.2
      held := Function.update v.held i none
      hunted := Function.update v.hunted i (v.token? q)
      journal := v.journal ++ ⟨some i, .canceled q⟩ :: es }
  /-- A call cancels the token that it took out of the table. -/
  | flag (i : CallId) (t : Token) (own : v.hunted i = some t) :
    Step v { v with
      pending := (v.pending.cancelToken t).2
      hunted := Function.update v.hunted i none }
  /-- The body of a call cancels its own token. -/
  | abandon (i : CallId) (q : UInt64) (t : Token) (own : v.held i = some (q, t)) :
    Step v { v with pending := (v.pending.cancelToken t).2 }

/-- What has become of the token `t` that call `i` was given for its number `q`. -/
inductive Fate (v : TableView) (i : CallId) (q : UInt64) (t : Token) : Prop where
  /-- It is in the table. -/
  | bound (started : ⟨some i, .started q⟩ ∈ v.journal) (here : v.token? q = some t)
  /-- It was taken out since. If the number is in the table, another call started it later. -/
  | gone (k : CallId) (doomed : v.Doomed t)
    (removed : [⟨some i, .started q⟩, ⟨some k, .canceled q⟩].Sublist v.journal)
    (restarted : ∀ u, v.token? q = some u → ∃ j l, v.held j = some (q, u) ∧
      [⟨some i, .started q⟩, ⟨some l, .canceled q⟩, ⟨some j, .started q⟩].Sublist v.journal)

/-- The invariant of the table. -/
structure Sound (v : TableView) : Prop where
  made_held : ∀ i q t, v.held i = some (q, t) → v.pending.tokens.Made t
  made_hunted : ∀ i t, v.hunted i = some t → v.pending.tokens.Made t
  /-- What is in the table is held by a call under way. -/
  holder : ∀ q t, v.token? q = some t → ∃ i, v.held i = some (q, t)
  fate : ∀ i q t, v.held i = some (q, t) → v.Fate i q t

variable {v w : TableView} {i k : CallId} {q : UInt64} {t : Token}

theorem Sound.made_token? (h : v.Sound) (ht : v.token? q = some t) :
    v.pending.tokens.Made t := by
  obtain ⟨i, hi⟩ := h.holder q t ht
  exact h.made_held i q t hi

/-! ### Tokens stay doomed -/

theorem Sound.isCanceled_step (h : v.Sound) (hstep : Step v w) (ht : v.isCanceled t = true) :
    w.isCanceled t = true := by
  cases hstep with
  | quiet es => exact ht
  | start i q es new => exact (v.pending.isCanceled_start q t).trans ht
  | hunt i q es idle =>
    unfold isCanceled
    rw [v.pending.tokens_remove q]
    exact ht
  | release i q u es own idle =>
    unfold isCanceled
    rw [v.pending.tokens_remove q]
    exact ht
  | flag i u own =>
    refine (Pending.isCanceled_cancelToken (h.made_hunted i u own) t).trans ?_
    rw [show v.pending.tokens.isCanceled t = true from ht, Bool.or_true]
  | abandon i q u own =>
    refine (Pending.isCanceled_cancelToken (h.made_held i q u own) t).trans ?_
    rw [show v.pending.tokens.isCanceled t = true from ht, Bool.or_true]

/-- **A token that is canceled or about to be stays so.** -/
theorem Sound.doomed_step (h : v.Sound) (hstep : Step v w) (ht : v.Doomed t) : w.Doomed t := by
  rcases ht with ht | ⟨k, hk⟩
  · exact .inl (h.isCanceled_step hstep ht)
  · cases hstep with
    | quiet es => exact .inr ⟨k, hk⟩
    | start i q es new => exact .inr ⟨k, hk⟩
    | hunt i q es idle => exact .inr ⟨k, update_of_none idle hk _⟩
    | release i q u es own idle => exact .inr ⟨k, update_of_none idle hk _⟩
    | flag i u own =>
      by_cases hki : k = i
      · -- the one that was about to cancel it does so
        subst hki
        rw [own] at hk
        cases hk
        refine .inl ((Pending.isCanceled_cancelToken (h.made_hunted k t own) t).trans ?_)
        rw [decide_eq_true rfl, Bool.true_or]
      · exact .inr ⟨k, (Function.update_of_ne hki ..).trans hk⟩
    | abandon i q u own => exact .inr ⟨k, hk⟩

/-! ### Every step keeps the invariant -/

/-- Steps on other numbers, and steps that only cancel, leave the fate of a token as it is. -/
theorem Fate.keep (h : v.Fate i q t) (htoken : w.token? q = v.token? q)
    (hdoomed : v.Doomed t → w.Doomed t)
    (hheld : ∀ j u, v.held j = some (q, u) → w.held j = some (q, u))
    (hjournal : v.journal.Sublist w.journal) : w.Fate i q t := by
  cases h with
  | bound started here => exact .bound (hjournal.subset started) (htoken.trans here)
  | gone k doomed removed restarted =>
    refine .gone k (hdoomed doomed) (removed.trans hjournal) ?_
    intro u hu
    obtain ⟨j, l, hj, hsub⟩ := restarted u (htoken ▸ hu)
    exact ⟨j, l, hheld j u hj, hsub.trans hjournal⟩

/-- When the number is taken out of the table, the token is found there, or was taken out before. -/
theorem Fate.remove {es : List Entry} (h : v.Fate i q t) (htoken : w.token? q = none)
    (hdoomed : v.Doomed t → w.Doomed t) (hfound : v.token? q = some t → w.Doomed t)
    (hjournal : w.journal = v.journal ++ ⟨some k, .canceled q⟩ :: es) : w.Fate i q t := by
  have hnone : ∀ {P : Token → Prop} u, w.token? q = some u → P u := by
    intro P u hu
    rw [htoken] at hu
    cases hu
  cases h with
  | bound started here =>
    refine .gone k (hfound here) ?_ hnone
    rw [hjournal]
    exact (List.singleton_sublist.2 started).append
      (List.singleton_sublist.2 (List.mem_cons_self ..))
  | gone l doomed removed restarted =>
    refine .gone l (hdoomed doomed) (removed.trans ?_) hnone
    rw [hjournal]
    exact List.sublist_append_left ..

/-- When another call starts the number, it finds the token, or is the one that starts it later. -/
theorem Fate.start {j : CallId} {es : List Entry} (h : v.Fate i q t) (new : v.held j = none)
    (htoken : w.token? q = some (v.pending.start q).1) (hdoomed : v.Doomed t → w.Doomed t)
    (hheld : w.held = Function.update v.held j (some (q, (v.pending.start q).1)))
    (hjournal : w.journal = v.journal ++ ⟨some j, .started q⟩ :: es) : w.Fate i q t := by
  have hsub : v.journal.Sublist w.journal := by
    rw [hjournal]
    exact List.sublist_append_left ..
  rcases v.pending.token?_or_not_made q with hsame | ⟨hfree, -⟩
  · refine h.keep (htoken.trans hsame.symm) hdoomed ?_ hsub
    intro l u hl
    rw [hheld]
    exact update_of_none new hl _
  · cases h with
    | bound started here =>
      rw [token?, hfree] at here
      cases here
    | gone k doomed removed restarted =>
      refine .gone k (hdoomed doomed) (removed.trans hsub) ?_
      intro u hu
      cases htoken.symm.trans hu
      refine ⟨j, k, by rw [hheld, Function.update_self], ?_⟩
      rw [hjournal]
      exact removed.append (List.singleton_sublist.2 (List.mem_cons_self ..))

theorem Sound.start (h : v.Sound) (es : List Entry) (new : v.held i = none) :
    Sound { v with
      pending := (v.pending.start q).2.2
      held := Function.update v.held i (some (q, (v.pending.start q).1))
      journal := v.journal ++ ⟨some i, .started q⟩ :: es } := by
  have htoken : ∀ q', (v.pending.start q).2.2.token? q' =
      if q' = q then some (v.pending.start q).1 else v.token? q' := v.pending.token?_start q
  refine ⟨?_, ?_, ?_, ?_⟩
  · intro j q' t hj
    by_cases hji : j = i
    · subst hji
      cases (Function.update_self ..).symm.trans hj
      exact v.pending.made_fst_start q fun t => h.made_token?
    · exact v.pending.made_start q (h.made_held j q' t ((Function.update_of_ne hji ..).symm.trans hj))
  · intro k t hk
    exact v.pending.made_start q (h.made_hunted k t hk)
  · intro q' t ht
    have ht' := (htoken q').symm.trans ht
    by_cases hq : q' = q
    · subst hq
      rw [if_pos rfl] at ht'
      cases ht'
      exact ⟨i, Function.update_self ..⟩
    · rw [if_neg hq] at ht'
      obtain ⟨j, hj⟩ := h.holder q' t ht'
      exact ⟨j, update_of_none new hj _⟩
  · intro j q' t hj
    have hdoomed := h.doomed_step (t := t) (.start i q es new)
    by_cases hji : j = i
    · subst hji
      cases (Function.update_self ..).symm.trans hj
      refine .bound ?_ ((htoken q).trans (if_pos rfl))
      exact List.mem_append_right _ (List.mem_cons_self ..)
    · have hfate := h.fate j q' t ((Function.update_of_ne hji ..).symm.trans hj)
      by_cases hq : q' = q
      · subst hq
        exact hfate.start new ((htoken q').trans (if_pos rfl)) hdoomed rfl rfl
      · exact hfate.keep ((htoken q').trans (if_neg hq)) hdoomed
          (fun _ _ hl => update_of_none new hl _) (List.sublist_append_left ..)

theorem Sound.hunt (h : v.Sound) (es : List Entry) (idle : v.hunted i = none) :
    Sound { v with
      pending := (v.pending.remove q).2.2
      hunted := Function.update v.hunted i (v.token? q)
      journal := v.journal ++ ⟨some i, .canceled q⟩ :: es } := by
  have htoken : ∀ q', (v.pending.remove q).2.2.token? q' =
      if q' = q then none else v.token? q' := v.pending.token?_remove q
  have htokens := v.pending.tokens_remove q
  refine ⟨?_, ?_, ?_, ?_⟩
  · intro j q' t hj
    rw [htokens]
    exact h.made_held j q' t hj
  · intro k t hk
    rw [htokens]
    by_cases hki : k = i
    · subst hki
      change Function.update v.hunted k (v.token? q) k = some t at hk
      rw [Function.update_self] at hk
      exact h.made_token? hk
    · exact h.made_hunted k t ((Function.update_of_ne hki ..).symm.trans hk)
  · intro q' t ht
    have ht' := (htoken q').symm.trans ht
    by_cases hq : q' = q
    · rw [if_pos hq] at ht'
      cases ht'
    · rw [if_neg hq] at ht'
      exact h.holder q' t ht'
  · intro j q' t hj
    have hdoomed := h.doomed_step (t := t) (.hunt i q es idle)
    have hfate := h.fate j q' t hj
    by_cases hq : q' = q
    · subst hq
      refine hfate.remove ((htoken q').trans (if_pos rfl)) hdoomed ?_ rfl
      intro here
      exact .inr ⟨i, (Function.update_self ..).trans here⟩
    · exact hfate.keep ((htoken q').trans (if_neg hq)) hdoomed (fun _ _ hl => hl)
        (List.sublist_append_left ..)

/-- A call may stop holding a token once its number is out of the table. -/
theorem Sound.drop (h : v.Sound) (own : v.held i = some (q, t)) (gone : v.token? q = none) :
    Sound { v with held := Function.update v.held i none } := by
  have hold : ∀ {j q' u}, v.token? q' ≠ none → v.held j = some (q', u) →
      Function.update v.held i none j = some (q', u) := by
    intro j q' u hq hj
    rw [Function.update_of_ne ?_]
    · exact hj
    · rintro rfl
      cases own.symm.trans hj
      exact hq gone
  refine ⟨fun j q' u hj => h.made_held j q' u (of_update_none hj), h.made_hunted, ?_, ?_⟩
  · intro q' u hu
    obtain ⟨j, hj⟩ := h.holder q' u hu
    exact ⟨j, hold (fun hnone => nomatch hnone.symm.trans hu) hj⟩
  · intro j q' u hj
    cases h.fate j q' u (of_update_none hj) with
    | bound started here => exact .bound started here
    | gone k doomed removed restarted =>
      refine .gone k doomed removed ?_
      intro u' hu'
      obtain ⟨l, m, hl, hsub⟩ := restarted u' hu'
      exact ⟨l, m, hold (fun hnone => nomatch hnone.symm.trans hu') hl, hsub⟩

/-- Canceling a token changes neither the table nor who holds what. -/
theorem Sound.cancelToken (h : v.Sound) (t : Token) {hunted : CallId → Option Token}
    (hback : ∀ {k u}, hunted k = some u → v.hunted k = some u)
    (hdoomed : ∀ u, v.Doomed u →
      Doomed { v with pending := (v.pending.cancelToken t).2, hunted } u) :
    Sound { v with pending := (v.pending.cancelToken t).2, hunted } := by
  refine ⟨?_, ?_, h.holder, ?_⟩
  · intro j q u hj
    exact (v.pending.made_cancelToken t u).2 (h.made_held j q u hj)
  · intro k u hk
    exact (v.pending.made_cancelToken t u).2 (h.made_hunted k u (hback hk))
  · intro j q u hj
    exact (h.fate j q u hj).keep rfl (hdoomed u) (fun _ _ hl => hl) (List.Sublist.refl _)

/-- **Every step on the table keeps the invariant.** -/
theorem Sound.step (h : v.Sound) (hstep : Step v w) : w.Sound := by
  have hdoomed := fun t => h.doomed_step (t := t) hstep
  cases hstep with
  | quiet es =>
    refine ⟨h.made_held, h.made_hunted, h.holder, ?_⟩
    intro i q t hi
    exact (h.fate i q t hi).keep rfl (hdoomed t) (fun _ _ hl => hl) (List.sublist_append_left ..)
  | start i q es new => exact h.start es new
  | hunt i q es idle => exact h.hunt es idle
  | release i q t es own idle =>
    exact (h.hunt es idle).drop own ((v.pending.token?_remove q q).trans (if_pos rfl))
  | flag i t own =>
    exact h.cancelToken t (fun hk => of_update_none hk) hdoomed
  | abandon i q t own => exact h.cancelToken t (fun hk => hk) hdoomed

end TableView

variable {ι σ κ : Type} [MessageFamily ι]

/-! ## The table of an exchange -/

/-- The token a call was given, from its start to its release. -/
def Phase.token? : Phase ι σ κ → Option Token
  | .registered _ token | .ready _ token => some token
  | .running place _ | .flagging place _ _ => some place.token
  | _ => none

/-- The token that a call in this phase has taken out of the table and not yet canceled. -/
def Phase.hunted? : Phase ι σ κ → Option Token
  | .flagging _ victim _ => some victim
  | .releasing _ victim? _ => victim?
  | _ => none

/-- The number and the token of a call, from its start to its release. -/
def Call.held? (c : Call ι σ κ) : Option (UInt64 × Token) :=
  c.phase.token?.map fun t => (c.request.seq, t)

theorem Phase.IsFirst.token? {phase : Phase ι σ κ} (h : phase.IsFirst) : phase.token? = none := by
  cases phase with
  | accepted call => rfl
  | answering reply error => rfl
  | _ => exact h.elim

theorem Phase.IsFirst.hunted? {phase : Phase ι σ κ} (h : phase.IsFirst) :
    phase.hunted? = none := by
  cases phase with
  | accepted call => rfl
  | answering reply error => rfl
  | _ => exact h.elim

namespace Exchange

/-- What matters of an exchange for its pending table. -/
def tableView (x : Exchange ι σ κ) : TableView :=
  ⟨x.connection.pending, aspect Call.held? x.calls, aspect (·.phase.hunted?) x.calls,
    x.connection.journal⟩

variable {x y : Exchange ι σ κ} {i : CallId} {c : Call ι σ κ}

theorem tableView_set (here : x.calls[i]? = some c) (phase : Phase ι σ κ) (s : Station ι σ κ) :
    tableView ⟨s, x.calls.set i { c with phase }⟩ =
      ⟨s.connection.pending,
        Function.update x.tableView.held i (phase.token?.map fun t => (c.request.seq, t)),
        Function.update x.tableView.hunted i phase.hunted?, s.connection.journal⟩ := by
  unfold tableView
  rw [aspect_set _ here, aspect_set _ here]
  rfl

theorem held_of_getElem? (here : x.calls[i]? = some c) :
    x.tableView.held i = c.phase.token?.map fun t => (c.request.seq, t) :=
  aspect_of_getElem? _ here

theorem hunted_of_getElem? (here : x.calls[i]? = some c) :
    x.tableView.hunted i = c.phase.hunted? :=
  aspect_of_getElem? _ here

/-- A move that leaves the tokens of its call and the table alone is none for the table. -/
theorem quiet_of_same (here : x.calls[i]? = some c) {phase : Phase ι σ κ} {s : Station ι σ κ}
    {es : List Entry} (ht : phase.token? = c.phase.token?) (hh : phase.hunted? = c.phase.hunted?)
    (hpending : s.connection.pending = x.connection.pending)
    (hjournal : s.connection.journal = x.connection.journal ++ es) :
    x.tableView.Step (tableView ⟨s, x.calls.set i { c with phase }⟩) := by
  rw [tableView_set here, ht, hh, ← held_of_getElem? here, ← hunted_of_getElem? here,
    Function.update_eq_self, Function.update_eq_self, hpending, hjournal]
  exact .quiet es

/-- A call whose body takes a number out of the table is about to cancel what it found. -/
theorem hunt_of_remove (here : x.calls[i]? = some c) {phase : Phase ι σ κ} (seq : UInt64)
    (ht : phase.token? = c.phase.token?) (idle : c.phase.hunted? = none)
    (found : (x.connection.remove i seq).1 = phase.hunted?) :
    x.tableView.Step (tableView ⟨{ x.station with connection := (x.connection.remove i seq).2 },
      x.calls.set i { c with phase }⟩) := by
  have hfound : phase.hunted? = x.tableView.token? seq :=
    found.symm.trans (x.connection.fst_remove i seq)
  have hidle : x.tableView.hunted i = none := (hunted_of_getElem? here).trans idle
  rw [tableView_set here, ht, ← held_of_getElem? here, Function.update_eq_self, hfound,
    Connection.remove_eq]
  exact .hunt i seq _ hidle

variable [Inhabited σ]

/-- **A move of a call is one of the steps on the table.** -/
theorem step_tableView {phase : Phase ι σ κ} {s : Station ι σ κ} (here : x.calls[i]? = some c)
    (h : Moves i c.request c.guarded x.station c.phase phase s) :
    x.tableView.Step (tableView ⟨s, x.calls.set i { c with phase }⟩) := by
  have hheld := held_of_getElem? here
  have hhunted := hunted_of_getElem? here
  have quiet := fun phase s es => @quiet_of_same _ _ _ _ x i c here phase s es
  have hunt := fun phase => @hunt_of_remove _ _ _ _ x i c here phase
  generalize c.phase = p at h hheld hhunted quiet hunt
  cases h with
  | start call =>
    have hidle : Function.update x.tableView.hunted i none = x.tableView.hunted :=
      Function.update_eq_self_iff.2 hhunted.symm
    have hstep := TableView.Step.start i c.request.seq
      (logged i (x.connection.pending.start c.request.seq).2.1) hheld
    rw [← hidle] at hstep
    rw [tableView_set here, Connection.start_eq]
    exact hstep
  | handOver call token =>
    obtain ⟨es, -, hs⟩ := x.station.handOver_snd i c.request call
    exact quiet _ _ es rfl rfl (by rw [hs]; rfl) (by rw [hs]; rfl)
  | enter call token free =>
    have hconn := x.station.take_connection (x.station.invoke i call token).1
    have htoken := x.station.invoke_token i call token
    refine quiet _ _ [] (congrArg some htoken) rfl (by rw [hconn]; rfl) ?_
    rw [hconn, List.append_nil]
    rfl
  | hunt place seq next victim may found => exact hunt _ seq rfl rfl found
  | miss place seq next may found => exact hunt _ seq rfl rfl found
  | refuse place seq next may =>
    exact quiet _ _ [] rfl rfl rfl (List.append_nil _).symm
  | act place a next plain =>
    rcases Station.perform_connection place plain x.station with ⟨es, -, hs⟩ | hs
    · exact quiet _ _ es rfl rfl (by rw [hs]; rfl) (by rw [hs]; rfl)
    · rw [tableView_set here, hs, Function.update_eq_self_iff.2 hheld.symm,
        Function.update_eq_self_iff.2 hhunted.symm]
      exact .abandon i c.request.seq place.token hheld
  | giveBack place finished locks =>
    have hconn := x.station.giveBack_connection place
    refine quiet _ _ [] rfl rfl (by rw [hconn]; rfl) ?_
    rw [hconn, List.append_nil]
    rfl
  | release place finished locks =>
    have hfound : (x.station.connection.remove i c.request.seq).1 =
        x.tableView.token? c.request.seq := x.connection.fst_remove i c.request.seq
    rw [tableView_set here, hfound, Connection.remove_eq]
    exact .release i c.request.seq place.token _ hheld hhunted
  | flag place victim rest =>
    rw [tableView_set here, Function.update_eq_self_iff.2 hheld.symm]
    exact .flag i victim hhunted
  | settle token victim? finished =>
    cases victim? with
    | none => exact quiet _ _ [] rfl rfl rfl (List.append_nil _).symm
    | some victim =>
      rw [tableView_set here, Function.update_eq_self_iff.2 hheld.symm]
      exact .flag i victim hhunted
  | report finished =>
    refine quiet _ _ (logged i (finished.outcome.events c.request)) rfl rfl ?_ ?_
    · simp only [Station.onConnection, Connection.log_eq, Connection.record_pending]
      rfl
    · simp only [Station.onConnection, Connection.log_eq, Connection.record_journal]
      rfl
  | lock reply error free =>
    refine quiet _ _ (logged i (c.request.compose reply error).1) rfl rfl ?_ ?_
    · simp only [Station.onConnection, Connection.log_eq, Connection.record_pending]
      rfl
    · simp only [Station.onConnection, Connection.log_eq, Connection.record_journal]
      rfl
  | write frame? piece rest => exact quiet _ _ [] rfl rfl rfl (List.append_nil _).symm
  | unlock frame? =>
    cases frame? with
    | none => exact quiet _ _ [] rfl rfl rfl (List.append_nil _).symm
    | some frame => exact quiet _ _ [⟨i, .sent frame⟩] rfl rfl rfl rfl
  | forget => exact quiet _ _ [⟨i, .freed c.request.seq⟩] rfl rfl rfl rfl
  | finish =>
    split
    · exact quiet _ _ [⟨i, .guardDropped⟩] rfl rfl rfl rfl
    · exact quiet _ _ [] rfl rfl rfl (List.append_nil _).symm

theorem step_tableView_of_next (h : x.Next y) : x.tableView.Step y.tableView := by
  cases h with
  | arrive request guarded phase events first =>
    have hheld : Call.held? (⟨request, guarded, phase⟩ : Call ι σ κ) = none := by
      rw [Call.held?, first.token?, Option.map_none]
    unfold tableView
    rw [aspect_append _ hheld, aspect_append (c := ⟨request, guarded, phase⟩) _ first.hunted?]
    have hstep := TableView.Step.quiet (v := x.tableView) (logged x.calls.length events)
    cases guarded with
    | false => exact hstep
    | true => exact hstep
  | move here moves => exact step_tableView here moves

/-- **The invariant of the table holds on every schedule.** -/
theorem sound_tableView {server : Server ι σ κ} {ref : TableRef} (h : (new server ref).Runs x) :
    x.tableView.Sound := by
  refine h.invariant (P := fun x => x.tableView.Sound) ⟨?_, ?_, ?_, ?_⟩ ?_
  · intro i q t hi
    cases hi
  · intro i t hi
    cases hi
  · intro q t ht
    cases ht
  · intro i q t hi
    cases hi
  · intro x y hnext hx
    exact hx.step (step_tableView_of_next hnext)

/-- A token that is canceled or about to be stays so on every schedule. -/
theorem doomed_of_runs (hx : x.tableView.Sound) (h : x.Runs y) {t : Token}
    (ht : x.tableView.Doomed t) : y.tableView.Doomed t := by
  have hboth : y.tableView.Sound ∧ y.tableView.Doomed t := by
    refine h.invariant (P := fun x => x.tableView.Sound ∧ x.tableView.Doomed t) ⟨hx, ht⟩ ?_
    rintro x y hnext ⟨hx, ht⟩
    have hstep := step_tableView_of_next hnext
    exact ⟨hx.step hstep, hx.doomed_step hstep ht⟩
  exact hboth.2

end Exchange

end Switchboard
