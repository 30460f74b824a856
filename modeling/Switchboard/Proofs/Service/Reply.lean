import Switchboard.Proofs.Direct
import Switchboard.Proofs.Service.Lifting

/-!
# What becomes of the caller's reply

The caller's reply is moved into a holder for the call and moved back after it. A body that runs
writes to what is in the holder, none or many times, and may look at it in between. A script shows
nothing of that but what is left in the end, so bodies are told here as a `Draft`, write by write:
every body can be told in this way, and what it leaves is the last of its writes, or what there was.

Every way out of a call brings the reply back, but one. A panic passes over the line that moves it,
and the caller is left with the zero value that took its place.

Results:

* `Draft.run_script`: what is left of a reply is the last value written, or the first one.
* `Service.answer_of_not_runs`: a call that gets to no body leaves the reply alone.
* `Service.entered_mem_journal_iff`: whether it got to one can be seen in the journal.
* `Service.keepsReply_iff`: the caller has what the body wrote, or what there was, if and only if it
  is not the case that the body panicked and left something.
-/

namespace Switchboard

/-! ## Bodies, write by write -/

/-- A method body with its accesses to the reply. -/
inductive Draft (σ ρ : Type) where
  | done (ending : Ending)
  | act (a : Action σ) (next : a.Answer → Draft σ ρ)
  /-- Look at the reply. -/
  | look (next : ρ → Draft σ ρ)
  /-- Write the reply. -/
  | write (value : ρ) (next : Draft σ ρ)

/-- What a draft has done when it is over. -/
structure Written (ρ S : Type) where
  /-- What was written to the reply, first write first. -/
  writes : List ρ
  ending : Ending
  state : S

namespace Draft

variable {σ ρ S : Type}

/-- The script of a draft, on what the reply holds. -/
def script : Draft σ ρ → ρ → Script σ (ρ × Ending)
  | done ending, r => .done (r, ending)
  | act a next, r => .act a fun x => (next x).script r
  | look next, r => (next r).script r
  | write value next, _ => next.script value

/-- Runs a draft on what the reply holds. -/
def run (handle : (a : Action σ) → S → a.Answer × S) : Draft σ ρ → ρ → S → Written ρ S
  | done ending, _, s => ⟨[], ending, s⟩
  | act a next, r, s => (next (handle a s).1).run handle r (handle a s).2
  | look next, r, s => (next r).run handle r s
  | write value next, _, s =>
    let rest := next.run handle value s
    { rest with writes := value :: rest.writes }

/-- **What is left of a reply is the last value written to it**, or what it held. -/
theorem run_script (handle : (a : Action σ) → S → a.Answer × S) (draft : Draft σ ρ) (r : ρ)
    (s : S) : (draft.script r).run handle s =
      (((draft.run handle r s).writes.getLastD r, (draft.run handle r s).ending),
        (draft.run handle r s).state) := by
  induction draft generalizing r s with
  | done ending => rfl
  | act a next ih => exact ih (handle a s).1 r (handle a s).2
  | look next ih => exact ih r r s
  | write value next ih =>
    unfold script run
    rw [ih, List.getLastD_cons]

/-- The draft tells the body: it does what this does, and shows what this writes. -/
def Tells (draft : Draft σ ρ) (body : ρ → Script σ (ρ × Ending)) : Prop :=
  ∀ r, draft.script r = body r

/-- The draft that writes once, at the end. -/
def ofScript : Script σ (ρ × Ending) → Draft σ ρ
  | .done (r, ending) => write r (done ending)
  | .act a next => act a fun x => ofScript (next x)

theorem script_ofScript (p : Script σ (ρ × Ending)) (r : ρ) : (ofScript p).script r = p := by
  induction p with
  | done ended => rfl
  | act a next ih => exact congrArg (Script.act a) (funext ih)

/-- Every body can be told. -/
theorem exists_tells (body : ρ → Script σ (ρ × Ending)) : ∃ draft : Draft σ ρ, draft.Tells body :=
  ⟨look fun r => ofScript (body r), fun r => script_ofScript (body r) r⟩

end Draft

variable {ι σ κ : Type} [MessageFamily ι]

namespace Service

variable {service : Service ι σ κ} {call : DirectCall ι κ}

/-! ## Calls that run no body -/

/-- **A call that runs no body** leaves the caller's variable alone, and has no effects. -/
theorem answer_of_not_runs (unrun : ∀ m a r, ¬service.Runs call m a r) :
    (service.answer call).1.reply = call.reply ∧ (service.answer call).1.journal = [] := by
  cases found : service.lookup call.address with
  | error e =>
    rw [answer_of_error found]
    exact ⟨rfl, rfl⟩
  | ok m =>
    have invoked := m.implementation.invocation m.name call.client (.ofHeld call.argument)
      (.ofHeld call.reply)
    generalize hscript : m.implementation.invoke m.name call.client (.ofHeld call.argument)
      (.ofHeld call.reply) = script at invoked
    cases invoked with
    | convention | argumentType | replyType =>
      rw [answer_of_refused found hscript]
      exact ⟨rfl, rfl⟩
    | body a r specials argument_eq reply_eq =>
      exact absurd ⟨found, specials, argument_eq, reply_eq⟩ (unrun m a r)

/-- Whether a call runs a body can be seen in the journal. -/
theorem entered_mem_journal_iff :
    .entered ∈ (service.answer call).1.journal ↔ ∃ m a r, service.Runs call m a r := by
  constructor
  · intro entered
    by_cases ran : ∃ m a r, service.Runs call m a r
    · exact ran
    · rw [(answer_of_not_runs fun m a r runs => ran ⟨m, a, r, runs⟩).2] at entered
      cases entered
  · rintro ⟨m, a, r, runs⟩
    have started := Desk.run_after (m.implementation.body call.client a r)
      ⟨service.receiver, call.canceled, call.argument.pending?, []⟩ [.entered]
    change Script.run Desk.perform _ (service.entered call) = _ at started
    rw [answer_of_runs runs, started]
    exact List.mem_cons_self

/-! ## What the caller keeps -/

/-- The caller's variable holds what the body wrote to it last, or what there was, if it wrote
nothing or did not run. -/
structure KeepsReply (service : Service ι σ κ) (call : DirectCall ι κ) : Prop where
  unrun : (∀ m a r, ¬service.Runs call m a r) → (service.answer call).1.reply = call.reply
  run : ∀ m a r, service.Runs call m a r → ∀ draft : Draft σ m.implementation.reply.Carrier,
    draft.Tells (m.implementation.body call.client a) →
    (service.answer call).1.reply = ⟨m.implementation.reply,
      (draft.run Desk.perform r (service.entered call)).writes.getLastD r⟩

/-- The call runs a body that panics, and there is something in the reply by then: the body wrote it
or the caller brought it. -/
def LosesReply (service : Service ι σ κ) (call : DirectCall ι κ) : Prop :=
  ∃ m a r left payload, service.Runs call m a r ∧
    ((m.implementation.body call.client a r).run Desk.perform (service.entered call)).1 =
      (left, .panicked payload) ∧ left ≠ m.implementation.reply.zero

theorem not_keepsReply_of_losesReply (loses : service.LosesReply call) :
    ¬service.KeepsReply call := by
  obtain ⟨m, a, r, left, payload, runs, ended, something⟩ := loses
  intro keeps
  obtain ⟨draft, tells⟩ := Draft.exists_tells (m.implementation.body call.client a)
  have kept := keeps.run m a r runs draft tells
  rw [answer_of_runs runs, ended] at kept
  have told := draft.run_script Desk.perform r (service.entered call)
  rw [tells] at told
  rw [told] at ended
  obtain ⟨-, zero_eq⟩ := Held.mk.inj kept
  exact something ((congrArg Prod.fst ended).symm.trans (eq_of_heq zero_eq).symm)

theorem keepsReply_of_not_losesReply (safe : ¬service.LosesReply call) :
    service.KeepsReply call where
  unrun unrun := (answer_of_not_runs unrun).1
  run m a r runs draft tells := by
    have told := draft.run_script Desk.perform r (service.entered call)
    rw [tells] at told
    rw [answer_of_runs runs, told]
    generalize draft.run Desk.perform r (service.entered call) = written at told
    dsimp only
    cases hending : written.ending with
    | ok => rfl
    | failed text => rfl
    | panicked payload =>
      -- A panic that leaves the zero value takes nothing away.
      have nothing : written.writes.getLastD r = m.implementation.reply.zero := by
        refine Classical.byContradiction fun something => ?_
        exact safe ⟨m, a, r, _, payload, runs, by rw [told, hending], something⟩
      rw [nothing]
      rfl

/-- **The caller's reply is lost to a panic, and to nothing else.** -/
theorem keepsReply_iff (service : Service ι σ κ) (call : DirectCall ι κ) :
    service.KeepsReply call ↔ ¬service.LosesReply call :=
  ⟨fun keeps loses => not_keepsReply_of_losesReply loses keeps, keepsReply_of_not_losesReply⟩

end Service

/-- A body that writes its reply and then panics. -/
def Implementation.spilling : Implementation Empty Unit Empty where
  argument := .unit
  reply := .bool
  passing := .pointer
  types := {}
  body := fun _ _ _ => pure (true, .panicked (.text "dry"))

/-- The candidate with that body. -/
def Candidate.spilling : Candidate Empty Unit Empty :=
  ⟨"Draw", .shared, "app::Well", .written .spilling⟩

/-- The service of that candidate. -/
def Service.well : Service Empty Unit Empty := ⟨"Well", .ofCandidates [.spilling], (), false⟩

/-- A call to it, by a caller who has nothing yet. -/
def DirectCall.drawing : DirectCall Empty Empty :=
  ⟨false, .none, "Well.Draw", .zero .unit, .zero .bool⟩

/-- The body has written `true`, and the caller still has nothing. -/
theorem Service.not_keepsReply_drawing :
    (well.answer .drawing).1.reply = ⟨.bool, false⟩ ∧ ¬well.KeepsReply .drawing := by
  have served : Candidate.spilling.IsServed .spilling :=
    ⟨rfl, rfl, ⟨'D', _, rfl, by decide +kernel⟩, rfl, rfl, rfl, by decide +kernel,
      by decide +kernel⟩
  have method : well.method? "Draw" = some (Implementation.spilling.listed "Draw") :=
    Catalog.find?_ofCandidates_iff.2
      ⟨[], .spilling, [], .spilling, rfl, rfl, served, rfl, fun d hd => nomatch hd⟩
  have found : well.lookup "Well.Draw" = .ok (Implementation.spilling.listed "Draw") :=
    lookup_of_method? (m := Implementation.spilling.listed "Draw") method (by decide)
  have runs : well.Runs .drawing (Implementation.spilling.listed "Draw") () false :=
    ⟨found, by decide +kernel, rfl, rfl⟩
  refine ⟨congrArg (·.1.reply) (answer_of_runs runs), not_keepsReply_of_losesReply ?_⟩
  exact ⟨Implementation.spilling.listed "Draw", (), false, true, .text "dry", runs, rfl,
    fun h => Bool.false_ne_true h.symm⟩

end Switchboard
