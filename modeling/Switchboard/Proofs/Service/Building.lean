import Switchboard.Proofs.Method.Catalog
import Switchboard.Server

/-!
# Building a service

A receiver becomes a service if there is a name for it and one of its candidates is served.
`Receiver.nameFor` is the first half: the given name, or the declared one if that is exported. The
second half is the catalog. If that is empty, the error says whether the receiver would have methods
behind a mutex. There every candidate shares the receiver, so it is enough to conform; without a
mutex a candidate that conforms may still need the receiver for itself alone. What the hint says is
read off the candidates by themselves, so that it agrees with the other catalog is to be proved.

Results:

* `Service.build_eq`: building is to find the name and then to look at the catalog;
  `Service.build_eq_ok_iff`: what is built.
* `Catalog.size_lift_eq_zero_iff`: behind a mutex a receiver is without methods exactly if it is so
  in the open and no candidate of it needs it for itself alone.
* `Server.register_eq`: registering is to build a service and then to look for its name.
* `Service.build_behindMutex`: the hint that a mutex would help tells the truth.
-/

namespace Switchboard

variable {ι σ κ : Type} [MessageFamily ι]

/-! ## Receivers that get a name -/

namespace Receiver

/-- The name a receiver is registered under, or why there is none. -/
def nameFor (r : Receiver ι σ κ) (name? : Option String) : Except RegisterError String :=
  let name := name?.getD r.declaredName
  if name = "" then .error (.noServiceName r.typeName)
  else if name?.isNone && !TypeName.isExported name then .error (.notExported name)
  else .ok name

/-- A receiver is registered under the given name or its declared one, which is not empty and, if it
is the declared one, is exported. -/
theorem nameFor_eq_ok_iff {r : Receiver ι σ κ} {name? : Option String} {name : String} :
    r.nameFor name? = .ok name ↔ name?.getD r.declaredName = name ∧ name ≠ "" ∧
      (name? = none → TypeName.isExported name = true) := by
  unfold nameFor
  constructor
  · intro h
    dsimp only at h
    split at h
    · cases h
    · next named =>
      split at h
      · cases h
      · next visible =>
        cases h
        refine ⟨rfl, named, ?_⟩
        rintro rfl
        simpa using visible
  · rintro ⟨rfl, named, exported⟩
    dsimp only
    rw [if_neg named, if_neg]
    rw [Bool.and_eq_true, Option.isNone_iff_eq_none]
    rintro ⟨undeclared, hidden⟩
    simp [exported undeclared] at hidden

/-- A mutex has no part in the name: both receivers are without one, or both have one that is not
exported, or both are registered under the same name. -/
theorem nameFor_behindMutex (r : Receiver ι σ κ) (name? : Option String) :
    (r.nameFor name? = .error (.noServiceName r.typeName) ∧
      r.behindMutex.nameFor name? = .error (.noServiceName (mutexName r.typeName))) ∨
    (∃ name, r.nameFor name? = .error (.notExported name) ∧
      r.behindMutex.nameFor name? = .error (.notExported name)) ∨
    ∃ name, r.nameFor name? = .ok name ∧ r.behindMutex.nameFor name? = .ok name := by
  by_cases unnamed : name?.getD r.declaredName = ""
  · exact .inl ⟨if_pos unnamed, if_pos unnamed⟩
  · have named {typeName : String} {rest : Except RegisterError String} :
        (if name?.getD r.declaredName = "" then .error (.noServiceName typeName) else rest) = rest :=
      if_neg unnamed
    by_cases hidden : (name?.isNone && !TypeName.isExported (name?.getD r.declaredName)) = true
    · exact .inr (.inl ⟨_, named.trans (if_pos hidden), named.trans (if_pos hidden)⟩)
    · exact .inr (.inr ⟨_, named.trans (if_neg hidden), named.trans (if_neg hidden)⟩)

end Receiver

/-! ## Services -/

namespace Service

variable {service : Service ι σ κ} {r : Receiver ι σ κ} {name? : Option String}

/-- Building is to find the name and then to look at the catalog. -/
theorem build_eq (r : Receiver ι σ κ) (name? : Option String) (report : Bool) :
    (build r name? report).2 = (r.nameFor name?).bind fun name =>
      if (Catalog.ofCandidates r.candidates).size = 0 then
        .error (.noSuitableMethods name (Catalog.hasExclusive r.candidates))
      else .ok ⟨name, .ofCandidates r.candidates, r.initial, r.isLocked⟩ := by
  unfold build Receiver.nameFor
  dsimp only
  split
  · rfl
  · split
    · rfl
    · simp only [Except.bind]
      split <;> rfl

/-- A receiver becomes a service if it has a name and a method. -/
theorem build_eq_ok_iff {report : Bool} : (build r name? report).2 = .ok service ↔
    r.nameFor name? = .ok service.name ∧ (Catalog.ofCandidates r.candidates).size ≠ 0 ∧
      service = ⟨service.name, .ofCandidates r.candidates, r.initial, r.isLocked⟩ := by
  rw [build_eq]
  cases r.nameFor name? with
  | error e => simp [Except.bind]
  | ok name =>
    simp only [Except.bind, Except.ok.injEq]
    split
    · simp_all
    · constructor
      · intro h
        cases h
        exact ⟨rfl, ‹_›, rfl⟩
      · rintro ⟨rfl, -, h⟩
        rw [← h]

end Service

/-! ## Services that get a place -/

namespace Server

variable {s s' : Server ι σ κ} {r : Receiver ι σ κ} {name? : Option String}

/-- Binds a service if its name is free. -/
def bindIfFree (s : Server ι σ κ) (service : Service ι σ κ) : Except RegisterError (Server ι σ κ) :=
  if (s.service? service.name).isSome then .error (.alreadyDefined service.name)
  else .ok (s.bind service)

/-- Registering is to build a service and then to look for its name. -/
theorem register_eq (s : Server ι σ κ) (r : Receiver ι σ κ) (name? : Option String) :
    (s.register r name?).2 =
      (Service.build r name? s.config.reportInvalidMethods).2.bind s.bindIfFree := by
  unfold register
  split
  · next hbuild => rw [hbuild]; rfl
  · next hbuild =>
    rw [hbuild]
    simp only [Except.bind, bindIfFree]
    split <;> rfl

theorem bindIfFree_eq_ok_iff {service : Service ι σ κ} :
    s.bindIfFree service = .ok s' ↔ s.service? service.name = none ∧ s' = s.bind service := by
  unfold bindIfFree
  cases s.service? service.name <;> simp [eq_comm]

/-- A registration that succeeds adds the service it builds, under a name that was free. -/
theorem exists_of_register (h : (s.register r name?).2 = .ok s') :
    ∃ service, (Service.build r name? s.config.reportInvalidMethods).2 = .ok service ∧
      s.service? service.name = none ∧ s' = s.bind service := by
  rw [register_eq] at h
  cases hbuild : (Service.build r name? s.config.reportInvalidMethods).2 with
  | error e =>
    rw [hbuild] at h
    cases h
  | ok service =>
    rw [hbuild] at h
    exact ⟨service, rfl, bindIfFree_eq_ok_iff.1 h⟩

end Server

/-! ## Receivers behind a mutex -/

/-- A mutex changes nothing of what the convention asks of a candidate. -/
theorem Candidate.conforms_lift {c : Candidate ι σ κ} : c.lift.Conforms ↔ c.Conforms := by
  rw [← exclusion?_eq_none_iff, ← exclusion?_eq_none_iff]
  rfl

namespace Catalog

variable {cs : List (Candidate ι σ κ)}

theorem hasExclusive_eq_true_iff :
    hasExclusive cs = true ↔ ∃ c ∈ cs, c.Conforms ∧ c.kind = .exclusive := by
  unfold hasExclusive
  simp only [List.any_eq_true, Bool.and_eq_true, decide_eq_true_eq, Option.isNone_iff_eq_none,
    Candidate.exclusion?_eq_none_iff]
  refine exists_congr fun c => and_congr_right fun _ => ⟨?_, ?_⟩
  · rintro ⟨⟨exclusive, -⟩, conforms⟩
    exact ⟨conforms, exclusive⟩
  · rintro ⟨conforms, exclusive⟩
    exact ⟨⟨exclusive, conforms.written⟩, conforms⟩

/-- Behind a mutex no candidate needs the receiver for itself alone. -/
theorem hasExclusive_lift (cs : List (Candidate ι σ κ)) :
    hasExclusive (cs.map Candidate.lift) = false := by
  simp [hasExclusive, Candidate.lift]

/-- Behind a mutex a receiver has methods exactly if some candidate conforms. -/
theorem size_ofCandidates_lift_eq_zero_iff :
    (ofCandidates (cs.map Candidate.lift)).size = 0 ↔ ∀ c ∈ cs, ¬c.Conforms := by
  rw [size_ofCandidates_eq_zero_iff, List.forall_mem_map]
  simp only [Candidate.conforms_lift]
  exact forall₂_congr fun c _ => not_congr (and_iff_left rfl)

/-- That is, if some candidate is served or needs the receiver for itself alone. -/
theorem size_lift_eq_zero_iff : (ofCandidates (cs.map Candidate.lift)).size = 0 ↔
    (ofCandidates cs).size = 0 ∧ hasExclusive cs = false := by
  rw [size_ofCandidates_lift_eq_zero_iff, size_ofCandidates_eq_zero_iff, ← Bool.not_eq_true,
    hasExclusive_eq_true_iff]
  constructor
  · intro h
    exact ⟨fun c hc served => h c hc served.1, fun ⟨c, hc, conforms, _⟩ => h c hc conforms⟩
  · rintro ⟨unserved, noneExclusive⟩ c hc conforms
    cases hkind : c.kind with
    | shared => exact unserved c hc ⟨conforms, hkind⟩
    | exclusive => exact noneExclusive ⟨c, hc, conforms, hkind⟩

end Catalog

/-- **The hint that a mutex would help tells the truth.** Behind a mutex a receiver is built exactly
if it is built in the open or fails there with the hint; it fails for want of methods exactly if it
does so in the open without the hint, and never with it; and it fails for its name exactly if it does
so in the open. -/
theorem Service.build_behindMutex (r : Receiver ι σ κ) (name? : Option String)
    (report report' : Bool) :
    let plain := (build r name? report).2
    let locked := (build r.behindMutex name? report').2
    ((∃ service, locked = .ok service) ↔
      (∃ service, plain = .ok service) ∨ ∃ name, plain = .error (.noSuitableMethods name true)) ∧
    (∀ name, locked = .error (.noSuitableMethods name false) ↔
      plain = .error (.noSuitableMethods name false)) ∧
    (∀ name, locked ≠ .error (.noSuitableMethods name true)) ∧
    ((∃ typeName, locked = .error (.noServiceName typeName)) ↔
      ∃ typeName, plain = .error (.noServiceName typeName)) ∧
    ∀ name, locked = .error (.notExported name) ↔ plain = .error (.notExported name) := by
  intro plain locked
  have hplain : plain = (r.nameFor name?).bind _ := build_eq r name? report
  have hlocked : locked = (r.behindMutex.nameFor name?).bind _ :=
    build_eq r.behindMutex name? report'
  rcases r.nameFor_behindMutex name? with ⟨h, h'⟩ | ⟨name, h, h'⟩ | ⟨name, h, h'⟩
  · rw [h] at hplain
    rw [h'] at hlocked
    simp [hplain, hlocked, Except.bind]
  · rw [h] at hplain
    rw [h'] at hlocked
    simp [hplain, hlocked, Except.bind]
  · rw [h] at hplain
    rw [h'] at hlocked
    simp only [Except.bind, Receiver.behindMutex, Catalog.hasExclusive_lift] at hplain hlocked
    -- With a name, what is left to tell is who has methods.
    by_cases bare : (Catalog.ofCandidates r.candidates).size = 0
    · rw [if_pos bare] at hplain
      cases exclusive : Catalog.hasExclusive r.candidates with
      | false =>
        rw [if_pos (Catalog.size_lift_eq_zero_iff.2 ⟨bare, exclusive⟩)] at hlocked
        simp [hplain, hlocked, exclusive]
      | true =>
        rw [if_neg (by simp [Catalog.size_lift_eq_zero_iff, exclusive])] at hlocked
        simp [hplain, hlocked, exclusive]
    · rw [if_neg bare] at hplain
      rw [if_neg (by simp [Catalog.size_lift_eq_zero_iff, bare])] at hlocked
      simp [hplain, hlocked]

/-- A receiver whose only method needs it for itself alone. -/
def Receiver.counter : Receiver Empty Nat Empty where
  typeName := "app::Counter"
  candidates := [.exclusive "app::Counter" "Add"
    (fun _ _ r => .act (.receiver (· + 1)) fun _ => pure (r, .ok) :
      Body Empty Nat Empty .unit .bool)]
  initial := 0

-- It cannot be registered, and is told what would help.
example : (match (Service.build Receiver.counter none true).2 with
      | .ok _ => none
      | .error e => some e) = some (.noSuitableMethods "Counter" true) ∧
    (Service.build Receiver.counter.behindMutex none true).2.toOption.map (·.catalog.size) =
      some 1 := by
  decide +kernel

end Switchboard
