import Switchboard.Proofs.Connection.Table

/-!
# The lifetime of a token

A token begins when a call starts its number while the number is not in the pending table. From then
on it is in the table under that number, or it was taken out; and whoever took it out cancels it in
his next step. Calls of one number share a token, and the first of them to end takes it away from
the others, but none of this loses a token: when no call is under way nothing is left in the table,
and all tokens are canceled.

Results:

* `TableView.Sound.accounted_step`: a token in the table under its number, canceled or about to be
  stays one of the three.
* `Exchange.accounted_of_issued`: every token that a start gave is one of the three.
* `Exchange.lifetime_of_tokens`: what is in the table, what became of the tokens that are not, and
  what is left when all calls have come to rest.
-/

namespace Switchboard

theorem Pending.entries_eq_nil {p : Pending} (h : ∀ q, p.token? q = none) : p.entries = [] := by
  cases he : p.entries with
  | nil => rfl
  | cons e es =>
    have hfirst := h e.1
    rw [token?, he, List.lookup_cons_self] at hfirst
    cases hfirst

namespace TableView

variable {v w : TableView} {q : UInt64} {t : Token}

/-- The token is in the table under the number, or it is canceled, or about to be. -/
def Accounted (v : TableView) (q : UInt64) (t : Token) : Prop := v.token? q = some t ∨ v.Doomed t

/-- Starting a number that has a token does not change the token. -/
theorem token?_start_of_bound (v : TableView) (q' : UInt64) (h : v.token? q = some t) :
    (v.pending.start q').2.2.token? q = some t := by
  rw [Pending.token?_start]
  split
  · next hq =>
    subst hq
    rcases v.pending.token?_or_not_made q with hsame | ⟨hfree, -⟩
    · exact hsame.symm.trans h
    · exact nomatch hfree.symm.trans h
  · exact h

/-- Whoever takes a number out of the table is about to cancel the token he found there. -/
theorem accounted_of_remove {i : CallId} {q' : UInt64} (h : v.token? q = some t)
    (htoken : w.token? q = (v.pending.remove q').2.2.token? q)
    (hhunted : w.hunted i = v.token? q') : w.Accounted q t := by
  rw [Pending.token?_remove] at htoken
  by_cases hq : q = q'
  · subst hq
    exact .inr (.inr ⟨i, hhunted.trans h⟩)
  · rw [if_neg hq] at htoken
    exact .inl (htoken.trans h)

/-- **No step on the table loses a token.** -/
theorem Sound.accounted_step (h : v.Sound) (hstep : Step v w) (ht : v.Accounted q t) :
    w.Accounted q t := by
  rcases ht with bound | doomed
  · cases hstep with
    | quiet es => exact .inl bound
    | start i q' es new => exact .inl (v.token?_start_of_bound q' bound)
    | hunt i q' es idle => exact accounted_of_remove bound rfl (Function.update_self ..)
    | release i q' u es own idle => exact accounted_of_remove bound rfl (Function.update_self ..)
    | flag i u own => exact .inl bound
    | abandon i q' u own => exact .inl bound
  · exact .inr (h.doomed_step hstep doomed)

/-- A token that was made stays made. -/
theorem made_step (hstep : Step v w) (ht : v.pending.tokens.Made t) :
    w.pending.tokens.Made t := by
  cases hstep with
  | quiet es => exact ht
  | start i q es new => exact v.pending.made_start q ht
  | hunt i q es idle => exact (v.pending.tokens_remove q).symm ▸ ht
  | release i q u es own idle => exact (v.pending.tokens_remove q).symm ▸ ht
  | flag i u own => exact (v.pending.made_cancelToken u t).2 ht
  | abandon i q u own => exact (v.pending.made_cancelToken u t).2 ht

/-- A token that a call holds is accounted for under the call's number. -/
theorem Sound.accounted_of_held {i : CallId} (h : v.Sound) (hi : v.held i = some (q, t)) :
    v.Accounted q t := by
  cases h.fate i q t hi with
  | bound _ here => exact .inl here
  | gone _ doomed _ _ => exact .inr doomed

end TableView

variable {ι σ κ : Type} [MessageFamily ι]

/-- Whether a call is between its start and the end of its release. -/
def Phase.isUnderWay : Phase ι σ κ → Bool
  | .registered .. | .ready .. | .running .. | .flagging .. | .releasing .. => true
  | _ => false

theorem Phase.token?_of_not_isUnderWay {phase : Phase ι σ κ} (h : phase.isUnderWay = false) :
    phase.token? = none := by
  cases phase with
  | registered | ready | running | flagging | releasing => cases h
  | _ => rfl

theorem Phase.hunted?_of_not_isUnderWay {phase : Phase ι σ κ} (h : phase.isUnderWay = false) :
    phase.hunted? = none := by
  cases phase with
  | registered | ready | running | flagging | releasing => cases h
  | _ => rfl

namespace Exchange

/-- Whoever holds a token has started and is not released yet. -/
theorem exists_of_held {x : Exchange ι σ κ} {i : CallId} {q : UInt64} {t : Token}
    (h : x.tableView.held i = some (q, t)) :
    ∃ c, x.calls[i]? = some c ∧ c.request.seq = q ∧ c.phase.token? = some t := by
  obtain ⟨c, here, hc⟩ := exists_of_aspect _ h
  obtain ⟨u, hu, heq⟩ := Option.map_eq_some_iff.1 hc
  cases heq
  exact ⟨c, here, rfl, hu⟩

variable [Inhabited σ] {x : Exchange ι σ κ} {ms : List (Choice ι κ)} {q : UInt64} {t : Token}

/-- On the schedule `ms` from `x` some call with the number `q` starts and is given the token `t`. -/
def Issued (x : Exchange ι σ κ) (ms : List (Choice ι κ)) (q : UInt64) (t : Token) : Prop :=
  ∃ (before after : List (Choice ι κ)) (y : Exchange ι σ κ) (i : CallId) (r : Request)
    (guarded : Bool) (call : PreparedCall ι κ), ms = before ++ after ∧
      x.follow before = some y ∧ y.calls[i]? = some ⟨r, guarded, .registered call t⟩ ∧ r.seq = q

/-- Every token that a start gave is in the table under its number, canceled or about to be. -/
theorem accounted_of_issued {server : Server ι σ κ} {ref : TableRef}
    (hx : (new server ref).follow ms = some x) (issued : (new server ref).Issued ms q t) :
    x.tableView.Accounted q t := by
  obtain ⟨before, after, y, i, r, guarded, call, rfl, hy, here, rfl⟩ := issued
  rw [follow_append, hy] at hx
  have hsound := sound_tableView (runs_of_follow hy)
  have hheld : y.tableView.held i = some (r.seq, t) := held_of_getElem? here
  have hboth : x.tableView.Sound ∧ x.tableView.Accounted r.seq t := by
    refine (runs_of_follow hx).invariant
      (P := fun x => x.tableView.Sound ∧ x.tableView.Accounted r.seq t)
      ⟨hsound, hsound.accounted_of_held hheld⟩ ?_
    rintro x y hnext ⟨hx, ht⟩
    have hstep := step_tableView_of_next hnext
    exact ⟨hx.step hstep, hx.accounted_step hstep ht⟩
  exact hboth.2

/-- **The lifetime of the tokens.** On every schedule of any calls, with any numbers and bodies:

* every number in the table is that of a call which has started and is not released yet;
* every token that a start gave is in the table under its number, or it is canceled, or a call has
  taken it out of the table and is about to cancel it;
* when no call is between its start and the end of its release, the table is empty and all those
  tokens are canceled. -/
theorem lifetime_of_tokens {server : Server ι σ κ} {ref : TableRef}
    (hx : (new server ref).follow ms = some x) :
    (∀ q, x.connection.pending.contains q = true →
      ∃ c ∈ x.calls, c.request.seq = q ∧ c.phase.token?.isSome = true) ∧
    (∀ q t, (new server ref).Issued ms q t → x.connection.pending.token? q = some t ∨
      x.connection.pending.tokens.isCanceled t = true ∨
        ∃ c ∈ x.calls, c.phase.hunted? = some t) ∧
    ((∀ c ∈ x.calls, c.phase.isUnderWay = false) → x.connection.pending.entries = [] ∧
      ∀ q t, (new server ref).Issued ms q t →
        x.connection.pending.tokens.isCanceled t = true) := by
  have hsound := sound_tableView (runs_of_follow hx)
  have hkeys : ∀ q t, x.connection.pending.token? q = some t →
      ∃ c ∈ x.calls, c.request.seq = q ∧ c.phase.token? = some t := by
    intro q t ht
    obtain ⟨i, hi⟩ := hsound.holder q t ht
    obtain ⟨c, here, hc⟩ := exists_of_held hi
    exact ⟨c, List.mem_of_getElem? here, hc⟩
  have hissued : ∀ q t, (new server ref).Issued ms q t →
      x.connection.pending.token? q = some t ∨
        x.connection.pending.tokens.isCanceled t = true ∨
          ∃ c ∈ x.calls, c.phase.hunted? = some t := by
    intro q t issued
    rcases accounted_of_issued hx issued with bound | canceled | ⟨k, hk⟩
    · exact .inl bound
    · exact .inr (.inl canceled)
    · obtain ⟨c, here, hc⟩ := exists_of_aspect _ hk
      exact .inr (.inr ⟨c, List.mem_of_getElem? here, hc⟩)
  refine ⟨?_, hissued, ?_⟩
  · intro q hq
    obtain ⟨t, ht⟩ := Option.isSome_iff_exists.1 hq
    obtain ⟨c, hc, hseq, hphase⟩ := hkeys q t ht
    exact ⟨c, hc, hseq, Option.isSome_iff_exists.2 ⟨t, hphase⟩⟩
  · intro rest
    have hempty : ∀ q, x.connection.pending.token? q = none := by
      intro q
      rw [Option.eq_none_iff_forall_ne_some]
      intro t ht
      obtain ⟨c, hc, -, hphase⟩ := hkeys q t ht
      rw [Phase.token?_of_not_isUnderWay (rest c hc)] at hphase
      cases hphase
    refine ⟨Pending.entries_eq_nil hempty, ?_⟩
    intro q t issued
    rcases hissued q t issued with bound | canceled | ⟨c, hc, hphase⟩
    · rw [hempty q] at bound
      cases bound
    · exact canceled
    · rw [Phase.hunted?_of_not_isUnderWay (rest c hc)] at hphase
      cases hphase

/-- Calls 0 and 1 both start the number 1. -/
def sharing : List (Choice Empty Empty) :=
  [.accept (.cancel 1 99) false, .accept (.cancel 1 98) false, .accept (.cancel 2 1) false,
    .call 0 true, .call 1 true]

theorem lifetime_of_tokens_sharing :
    ∃ y z : Exchange Empty Unit Empty,
      (new .bare ⟨0⟩).follow (sharing ++ .replicate 6 (.call 2 true)) = some y ∧
      (∃ c ∈ y.calls, c.phase.hunted? = some ⟨0⟩) ∧
      y.follow (.replicate 4 (.call 2 true) ++ .replicate 8 (.call 0 true) ++
        .replicate 8 (.call 1 true)) = some z ∧
      z.connection.pending.entries = [] ∧
      z.connection.pending.tokens.isCanceled ⟨0⟩ = true := by
  have run : ((new Server.bare ⟨0⟩).follow sharing).any fun x =>
      (x.follow (.replicate 6 (.call 2 true))).any fun y =>
        (y.follow (.replicate 4 (.call 2 true) ++ .replicate 8 (.call 0 true) ++
          .replicate 8 (.call 1 true))).any fun z => decide
            (x.started? 0 = some (⟨"_goRPC_.Cancel", 1⟩, false, ⟨0⟩) ∧
              x.started? 1 = some (⟨"_goRPC_.Cancel", 1⟩, false, ⟨0⟩) ∧
              y.connection.pending.token? 1 = none ∧
              y.connection.pending.tokens.isCanceled ⟨0⟩ = false ∧
              ∀ c ∈ z.calls, c.phase.isUnderWay = false) := by decide +kernel
  simp only [Option.any_eq_true, decide_eq_true_eq] at run
  obtain ⟨x, hx, y, hy, z, hz, hstarted, -, hfree, huncanceled, hrest⟩ := run
  obtain ⟨call, started⟩ := exists_of_started? hstarted
  have hrun : (new Server.bare ⟨0⟩).follow (sharing ++ .replicate 6 (.call 2 true)) = some y :=
    follow_trans hx hy
  obtain ⟨-, hissued, -⟩ := lifetime_of_tokens hrun
  have hhunted : ∃ c ∈ y.calls, c.phase.hunted? = some ⟨0⟩ := by
    rcases hissued 1 ⟨0⟩ ⟨_, _, x, 0, _, _, call, rfl, hx, started, rfl⟩ with bound | h | h
    · exact nomatch hfree.symm.trans bound
    · exact nomatch huncanceled.symm.trans h
    · exact h
  obtain ⟨-, -, hlast⟩ := lifetime_of_tokens (follow_trans hrun hz)
  obtain ⟨hempty, hcanceled⟩ := hlast hrest
  refine ⟨y, z, hrun, hhunted, hz, hempty, ?_⟩
  exact hcanceled 1 ⟨0⟩ ⟨sharing, .replicate 6 (.call 2 true) ++
    (.replicate 4 (.call 2 true) ++ .replicate 8 (.call 0 true) ++ .replicate 8 (.call 1 true)),
    x, 0, _, _, call, List.append_assoc .., hx, started, rfl⟩

end Exchange

end Switchboard
