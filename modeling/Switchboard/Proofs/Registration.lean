import Switchboard.Proofs.Cancel.Service

/-!
# What registration leaves of a receiver

A request is routed to a service and a method of its catalog. Both go back to a receiver: the service
has its name and its methods from the registration, and each method is a candidate that the receiver
listed. Running methods change nothing of that.

Results:

* `Server.Built.exists_build`: what a server has was built, so (`Server.Built.comesFrom`) every
  service of it comes from a receiver.
* `Service.ComesFrom.exists_candidate`: every method of such a service is one of the receiver's
  candidates.
* `Server.resolve_eq_ok_iff`: an address leads to a service and a method exactly if it is made of
  their names.
* `Service.lookup_of_method?`, `Server.resolve_of_method?`: a method is found by its address, if its
  name has no dot.
-/

namespace Switchboard

variable {ι σ κ : Type} [MessageFamily ι]

/-! ## Services -/

theorem Address.parse_text {a : Address} (plain : '.' ∉ a.method.toList) :
    Address.parse a.text = .ok a := parse_eq_ok_iff.2 ⟨rfl, plain⟩

namespace Service

variable {service : Service ι σ κ} {receiver : Receiver ι σ κ} {name? : Option String}

/-- What a service has from registering the receiver, under its own name or the given one. -/
structure ComesFrom (service : Service ι σ κ) (receiver : Receiver ι σ κ)
    (name? : Option String) : Prop where
  name : service.name = name?.getD receiver.declaredName
  catalog : service.catalog = .ofCandidates receiver.candidates
  isLocked : service.isLocked = receiver.isLocked

theorem comesFrom_of_build {report : Bool}
    (h : (Service.build receiver name? report).2 = .ok service) :
    service.ComesFrom receiver name? := by
  obtain ⟨hname, -, heq⟩ := build_eq_ok_iff.1 h
  rw [heq]
  exact ⟨(Receiver.nameFor_eq_ok_iff.1 hname).1.symm, rfl, rfl⟩

theorem ComesFrom.exists_candidate (h : service.ComesFrom receiver name?) {name : String}
    {m : Method ι σ κ} (hm : service.method? name = some m) :
    ∃ c ∈ receiver.candidates, c.Becomes m := by
  unfold method? at hm
  rw [h.catalog] at hm
  exact Catalog.exists_candidate hm

/-- The service with its receiver in another state. -/
def withState (service : Service ι σ κ) (state : σ) : Service ι σ κ :=
  { service with receiver := state }

theorem ComesFrom.withState (h : service.ComesFrom receiver name?) (state : σ) :
    (service.withState state).ComesFrom receiver name? := ⟨h.name, h.catalog, h.isLocked⟩

theorem invoke_of_method? {name : String} {m : Method ι σ κ} (h : service.method? name = some m)
    (client : Client κ) (argument : Argument ι) (reply : Reply ι) :
    service.invoke name client argument reply = m.invoke client argument reply := by
  unfold invoke methodOrError
  rw [h]

theorem name_of_method? {name : String} {m : Method ι σ κ} (h : service.method? name = some m) :
    m.name = name := by
  have hname := List.find?_some h
  exact of_decide_eq_true hname

/-- A service takes an address that names another one for unknown. -/
theorem lookup_of_parse {text : String} {a : Address} (hparse : Address.parse text = .ok a)
    (hother : a.service ≠ service.name) :
    service.lookup text = .error (.unknownService text) := by
  unfold lookup
  rw [hparse]
  exact if_pos hother

/-- An address that names the service is looked up in its catalog. -/
theorem lookup_of_parse_own {text : String} {a : Address} (hparse : Address.parse text = .ok a)
    (hown : a.service = service.name) :
    service.lookup text = match service.method? a.method with
      | some m => .ok m
      | none => .error (.unknownMethod text) := by
  unfold lookup
  rw [hparse]
  exact if_neg (not_not_intro hown)

/-- The address of a method leads to it, if the method's name has no dot. -/
theorem lookup_of_method? {m : Method ι σ κ} (hm : service.method? m.name = some m)
    (plain : '.' ∉ m.name.toList) :
    service.lookup (Address.text ⟨service.name, m.name⟩) = .ok m := by
  rw [lookup_of_parse_own (Address.parse_text plain) rfl, hm]

end Service

namespace Server

variable {s s' : Server ι σ κ} {name : String} {service : Service ι σ κ}

theorem name_of_service? (h : s.service? name = some service) : service.name = name := by
  have hname := List.find?_some h
  exact of_decide_eq_true hname

/-- An address leads to a service and a method of it exactly if it is made of their names. -/
theorem resolve_eq_ok_iff {address : String} {m : Method ι σ κ} :
    s.resolve address = .ok (service, m) ↔
      Address.parse address = .ok ⟨service.name, m.name⟩ ∧
        s.service? service.name = some service ∧ service.method? m.name = some m := by
  constructor
  · intro h
    unfold resolve at h
    split at h
    · cases h
    · next a hparse =>
      split at h
      · cases h
      · next found hservice =>
        split at h
        · cases h
        · next hmethod =>
          cases h
          rw [name_of_service? hservice, Service.name_of_method? hmethod]
          exact ⟨hparse, hservice, hmethod⟩
  · rintro ⟨hparse, hservice, hmethod⟩
    unfold resolve
    rw [hparse]
    simp only [hservice, hmethod]

/-- An address leads to a service by its name, and to a method of it. -/
theorem exists_of_resolve {address : String} {m : Method ι σ κ}
    (h : s.resolve address = .ok (service, m)) :
    s.service? service.name = some service ∧ service.method? m.name = some m :=
  (resolve_eq_ok_iff.1 h).2

/-- The address of a method leads to it and its service, if the method's name has no dot. -/
theorem resolve_of_method? {m : Method ι σ κ} (found : s.service? service.name = some service)
    (hm : service.method? m.name = some m) (plain : '.' ∉ m.name.toList) :
    s.resolve (Address.text ⟨service.name, m.name⟩) = .ok (service, m) :=
  resolve_eq_ok_iff.2 ⟨Address.parse_text plain, found, hm⟩

variable [Inhabited σ]

/-- What a server has was built. -/
theorem Built.exists_build {config : ServerConfig} (built : Built config s)
    (held : service ∈ s.services) :
    ∃ receiver name? report, (Service.build receiver name? report).2 = .ok service := by
  induction built with
  | new =>
    rw [new_eq] at held
    dsimp only at held
    split at held
    · obtain rfl := List.mem_singleton.1 held
      exact ⟨CancelService.receiver, some CancelService.name, true, CancelService.build_receiver _⟩
    · cases held
  | register receiver name? _ registered ih =>
    obtain ⟨added, hbuild, -, rfl⟩ := exists_of_register registered
    rcases List.mem_append.1 held with old | new
    · exact ih old
    · obtain rfl := List.mem_singleton.1 new
      exact ⟨receiver, name?, _, hbuild⟩

/-- **Every service of a server comes from a receiver.** -/
theorem Built.comesFrom {config : ServerConfig} (built : Built config s)
    (found : s.service? name = some service) :
    ∃ receiver name?, service.ComesFrom receiver name? := by
  obtain ⟨receiver, name?, _, hbuild⟩ := built.exists_build (List.mem_of_find?_eq_some found)
  exact ⟨receiver, name?, Service.comesFrom_of_build hbuild⟩

/-! ### What running methods leave alone -/

/-- The servers have the same services, but for the states of the receivers. -/
def SameBut (s s' : Server ι σ κ) : Prop :=
  ∀ name, ∃ state, s'.service? name = (s.service? name).map (·.withState state)

theorem sameBut_refl (s : Server ι σ κ) : s.SameBut s := by
  intro name
  cases s.service? name with
  | none => exact ⟨default, rfl⟩
  | some service => exact ⟨service.receiver, rfl⟩

omit [Inhabited σ] in
/-- A method that changes its receiver changes nothing else. -/
theorem SameBut.updateReceiver (h : s.SameBut s') (target : String) (f : σ → σ) :
    s.SameBut (s'.updateReceiver target f) := by
  intro name
  obtain ⟨state, heq⟩ := h name
  rw [service?_updateReceiver, heq]
  cases found : s.service? name with
  | none => exact ⟨state, rfl⟩
  | some service =>
    by_cases htarget : service.name = target
    · exact ⟨f state, congrArg some (if_pos htarget)⟩
    · exact ⟨state, congrArg some (if_neg htarget)⟩

omit [Inhabited σ] in
theorem SameBut.exists_state (h : s.SameBut s') (found : s.service? name = some service) :
    ∃ state, s'.service? name = some (service.withState state) := by
  obtain ⟨state, heq⟩ := h name
  rw [found] at heq
  exact ⟨state, heq⟩

omit [Inhabited σ] in
theorem SameBut.exists_origin (h : s.SameBut s') (found : s'.service? name = some service) :
    ∃ origin state, s.service? name = some origin ∧ service = origin.withState state := by
  obtain ⟨state, heq⟩ := h name
  obtain ⟨origin, horigin, hstate⟩ := Option.map_eq_some_iff.1 (heq.symm.trans found)
  exact ⟨origin, state, horigin, hstate.symm⟩

end Server

end Switchboard
