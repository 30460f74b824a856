import Switchboard.Proofs.Method.Catalog
import Switchboard.Service.Basic

/-!
# Refused invocations

A method of a catalog is refused for its holders alone, and before its body begins: the argument is
looked at first, then the reply. So a refusal has run nothing, and what it can have touched is one
of the holders. A method that takes its argument by value takes it as soon as that fits. The reply is
looked at after that, and a refusal then has emptied the argument.

Results:

* `Candidate.Becomes.refusal`: the two ways a method of a catalog is refused, with what is left.
* `Implementation.held_leave_eq_iff`: when a method that got its argument leaves it as it was.
* `Catalog.hasNoEffect_iff_of_refused`: a refused invocation has no effect, unless it had taken an
  argument by value, and that was not zero.
-/

namespace Switchboard

variable {ι σ κ : Type} [MessageFamily ι]

/-- A method that got its argument leaves it as it was unless it takes arguments by value; a zero
value is left as it was by any method. -/
theorem Implementation.held_leave_eq_iff {i : Implementation ι σ κ} {argument : Argument ι}
    (fits : argument.held.type = i.argument) : (i.leave argument).held = argument.held ↔
      ¬(i.passing = .value ∧ argument.held ≠ .zero argument.held.type) := by
  unfold leave
  rw [fits]
  split
  · next byValue => simp only [byValue, true_and, ne_eq, Classical.not_not, eq_comm]
  · next kept => simp only [kept, false_and, not_false_eq_true]

section Refusal

variable {c : Candidate ι σ κ} {m : Method ι σ κ} {client : Client κ} {argument : Argument ι}
  {reply : Reply ι} {S : Type} {handle : (a : Action σ) → S → a.Answer × S} {s : S}
  {e : HolderError}

/-- **A method of a catalog is refused for its argument or for its reply**, and what is left is what
there was or, in the second case, what the method leaves of its argument. -/
theorem Candidate.Becomes.refusal (becomes : c.Becomes m)
    (refused : ((m.invoke client argument reply).run handle s).1.outcome = .failed (.holder e)) :
    (argument.held.type ≠ m.implementation.argument ∧
      m.invoke client argument reply = .done ⟨argument, reply, .failed (.holder e)⟩) ∨
    (argument.held.type = m.implementation.argument ∧
      reply.held.type ≠ m.implementation.reply ∧
      m.invoke client argument reply =
        .done ⟨m.implementation.leave argument, reply, .failed (.holder e)⟩) := by
  rcases becomes.invoke_cases client argument reply with
    ⟨misfit, script_eq⟩ | ⟨fits, misfit, script_eq⟩ | ⟨a, r, -, -, script_eq⟩
  · rw [script_eq] at refused ⊢
    cases refused
    exact .inl ⟨misfit, rfl⟩
  · rw [script_eq] at refused ⊢
    cases refused
    exact .inr ⟨fits, misfit, rfl⟩
  · -- The body runs, and ends in a way of its own.
    have own := m.isOwn_run_runBody handle s client argument reply a r
    rw [← script_eq, refused] at own
    exact own.elim

/-- What a script works on and the values in both holders are after it what they were before. -/
def Script.HasNoEffect (handle : (a : Action σ) → S → a.Answer × S) (s : S) (argument : Argument ι)
    (reply : Reply ι) (p : Script σ (Finished ι)) : Prop :=
  let ended := p.run handle s
  ended.1.argument.held = argument.held ∧ ended.1.reply.held = reply.held ∧ ended.2 = s

/-- The method takes its argument by value and finds in the holder what it takes, and that is not the
zero value, which it would leave behind. -/
def Method.Empties (m : Method ι σ κ) (argument : Argument ι) : Prop :=
  m.implementation.passing = .value ∧ argument.held.type = m.implementation.argument ∧
    argument.held ≠ .zero argument.held.type

/-- **A refused invocation has no effect, unless it empties the argument.** Whatever made the
holders and whatever the actions of bodies would be answered: a method of a catalog that is refused
for a holder has run nothing and has left the reply. Everything is as it was, exactly if the method
has not emptied its argument. A service with that catalog invokes methods in no other way. -/
theorem Catalog.hasNoEffect_iff_of_refused {cs : List (Candidate ι σ κ)} {name : String}
    (found : (ofCandidates cs).find? name = some m)
    (refused : ((m.invoke client argument reply).run handle s).1.outcome = .failed (.holder e)) :
    (∃ left, m.invoke client argument reply = .done ⟨left, reply, .failed (.holder e)⟩) ∧
    ((m.invoke client argument reply).HasNoEffect handle s argument reply ↔
      ¬m.Empties argument) ∧
    ∀ service : Service ι σ κ, service.catalog = ofCandidates cs →
      service.invoke name client argument reply = m.invoke client argument reply := by
  obtain ⟨c, -, becomes⟩ := exists_candidate found
  have refusal (left : Argument ι) : (Script.done ⟨left, reply, .failed (.holder e)⟩).HasNoEffect
      handle s argument reply ↔ left.held = argument.held :=
    and_iff_left ⟨rfl, rfl⟩
  have reached : ∀ service : Service ι σ κ, service.catalog = ofCandidates cs →
      service.invoke name client argument reply = m.invoke client argument reply := by
    intro service same
    unfold Service.invoke Service.methodOrError Service.method?
    rw [same, found]
  rcases becomes.refusal refused with ⟨misfit, script_eq⟩ | ⟨fits, -, script_eq⟩
  · refine ⟨⟨argument, script_eq⟩, ?_, reached⟩
    rw [script_eq, refusal]
    exact iff_of_true rfl fun ⟨_, fits, _⟩ => misfit fits
  · refine ⟨⟨m.implementation.leave argument, script_eq⟩, ?_, reached⟩
    rw [script_eq, refusal, Implementation.held_leave_eq_iff fits]
    exact not_congr (and_congr_right fun _ => (and_iff_right fits).symm)

end Refusal

namespace Catalog

/-- A method that copies its argument into its reply, listed for each way to pass the argument. -/
def copying : List (Candidate Empty Unit Empty) :=
  let body : Body Empty Unit Empty .bool .bool := fun _ a _ => pure (a, .ok)
  [.byPointer "Math" "Look" body, .byValue "Math" "Take" body]

/-- Calls a method with `true` and a reply of another type. -/
def mistaken (m : Method Empty Unit Empty) : Script Unit (Finished Empty) :=
  m.invoke .none (.ofHeld ⟨.bool, true⟩) .empty

/-- A desk on which nothing was done. -/
def idleDesk : Desk Unit := ⟨(), false, none, []⟩

/-- By reference: the method is refused for the reply, and the argument stays. -/
theorem hasNoEffect_iff_of_refused_copying :
    ∃ m, (ofCandidates copying).find? "Look" = some m ∧
      ((mistaken m).run Desk.perform idleDesk).1.outcome =
        .failed (.holder (.replyType "Look" "bool")) ∧
      (mistaken m).HasNoEffect Desk.perform idleDesk (.ofHeld ⟨.bool, true⟩) .empty := by
  have run : ((ofCandidates copying).find? "Look").any fun m => decide
      (((mistaken m).run Desk.perform idleDesk).1.outcome =
          .failed (.holder (.replyType "Look" "bool")) ∧
        m.implementation.passing = .pointer) := by
    decide +kernel
  simp only [Option.any_eq_true, decide_eq_true_eq] at run
  obtain ⟨m, found, refused, byReference⟩ := run
  refine ⟨m, found, refused, (hasNoEffect_iff_of_refused found refused).2.1.2 ?_⟩
  rintro ⟨byValue, -⟩
  rw [byReference] at byValue
  cases byValue

/-- By value: the method is refused for the reply as well, and the argument is gone. -/
theorem hasEffect_refused_copying :
    ∃ m, (ofCandidates copying).find? "Take" = some m ∧
      ((mistaken m).run Desk.perform idleDesk).1.outcome =
        .failed (.holder (.replyType "Take" "bool")) ∧
      ¬(mistaken m).HasNoEffect Desk.perform idleDesk (.ofHeld ⟨.bool, true⟩) .empty := by
  have run : ((ofCandidates copying).find? "Take").any fun m => decide
      (((mistaken m).run Desk.perform idleDesk).1.outcome =
          .failed (.holder (.replyType "Take" "bool")) ∧
        (((mistaken m).run Desk.perform idleDesk).1.argument.as? .bool).all fun a : Bool =>
          !a) := by
    decide +kernel
  simp only [Option.any_eq_true, decide_eq_true_eq] at run
  obtain ⟨m, found, refused, emptied⟩ := run
  refine ⟨m, found, refused, ?_⟩
  rintro ⟨same, -⟩
  rw [Argument.as?, same] at emptied
  exact Bool.false_ne_true emptied

end Catalog

end Switchboard
