import Switchboard.Proofs.Service.Building

/-!
# The cancellation service of a server

A server that is set up with the cancellation service has it for good: registrations bind other
names, and running methods change no more of a service than its receiver.

Results:

* `Server.new_eq`: a new server has the cancellation service, if it is set up with it, and no other.
* `Server.Built.offersCancel`: whatever is registered with such a server, the reserved name leads to
  the cancellation service.
* `Server.OffersCancel.updateReceiver`: a running method does not change that.
* `Server.OffersCancel.resolve`: a request to cancel is routed to the method of the service.
-/

namespace Switchboard

variable {ι σ κ : Type} [MessageFamily ι] [Inhabited σ]

namespace CancelService

/-! ## The service as it is built -/

theorem slotted {ι : Type} [MessageFamily ι] :
    (MessageType.cancelArgs : MessageType ι).slot.isSome = true := rfl

/-- The candidate that the receiver lists. -/
def candidate : Candidate ι σ κ := .privileged typeName "Cancel" body {} slotted

/-- What the candidate does. -/
def implementation : Implementation ι σ κ :=
  { argument := .cancelArgs, reply := .bool, passing := .privileged, slotted := fun _ => slotted,
    types := {}, body }

/-- The only method of the service. -/
def method : Method ι σ κ :=
  ⟨"Cancel", .pointer "birpc::svc::CancelArgs", .pointer "bool", implementation⟩

/-- The service with its receiver in the given state. -/
def service (state : σ) : Service ι σ κ := ⟨name, ⟨[method]⟩, state, false⟩

omit [Inhabited σ] in
theorem conforms_candidate : (candidate : Candidate ι σ κ).Conforms where
  exported := show TypeName.isExported "Cancel" = true by decide +kernel
  types := ⟨_, _, _, .pointer "birpc::svc::CancelArgs", .pointer "bool", _, rfl, rfl, rfl, rfl,
    by decide +kernel, by decide +kernel, rfl, rfl⟩
  written := rfl

omit [Inhabited σ] in
theorem method?_candidate : (candidate : Candidate ι σ κ).method? = some method := by
  unfold Candidate.method?
  rw [Candidate.exclusion?_eq_none_iff.2 conforms_candidate]
  rfl

theorem ofCandidates_receiver :
    Catalog.ofCandidates (receiver : Receiver ι σ κ).candidates = ⟨[method]⟩ := by
  change ([candidate].filterMap Candidate.method?).foldl Catalog.insert Catalog.empty = _
  rw [List.filterMap_cons, method?_candidate]
  rfl

theorem build_receiver (report : Bool) :
    (Service.build (receiver : Receiver ι σ κ) (some name) report).2 = .ok (service default) := by
  unfold Service.build
  simp only [Option.getD_some]
  rw [if_neg (show ¬name = "" by decide), if_neg (fun h => nomatch h), ofCandidates_receiver]
  rfl

end CancelService

/-! ## Servers that offer it -/

namespace Server

/-- A server that comes from a new one by registrations. -/
inductive Built (config : ServerConfig) : Server ι σ κ → Prop where
  | new : Built config (Server.new config).2
  | register {s s' : Server ι σ κ} (r : Receiver ι σ κ) (name? : Option String)
    (built : Built config s) (registered : (s.register r name?).2 = .ok s') : Built config s'

/-- The reserved name leads to the cancellation service. -/
def OffersCancel (s : Server ι σ κ) : Prop :=
  ∃ state, s.service? CancelService.name = some (CancelService.service state)

theorem register_cancel {s : Server ι σ κ} (free : s.service? CancelService.name = none) :
    (s.register CancelService.receiver (some CancelService.name)).2 =
      .ok (s.bind (CancelService.service default)) := by
  rw [register_eq, CancelService.build_receiver]
  exact bindIfFree_eq_ok_iff.2 ⟨free, rfl⟩

/-- A new server has the cancellation service, if it is set up with it, and no other. -/
theorem new_eq (config : ServerConfig) : (Server.new config : List Event × Server ι σ κ).2 =
    ⟨config, if config.registerCancelService then [CancelService.service default] else []⟩ := by
  have hregister := register_cancel (s := (⟨config, []⟩ : Server ι σ κ)) rfl
  unfold new
  dsimp only
  split
  · split
    · next hr =>
      rw [hr] at hregister
      cases hregister
      rfl
    · next hr =>
      rw [hr] at hregister
      cases hregister
  · rfl

theorem offersCancel_new {config : ServerConfig} (h : config.registerCancelService = true) :
    (Server.new config : List Event × Server ι σ κ).2.OffersCancel := by
  rw [new_eq, if_pos h]
  exact ⟨default, rfl⟩

omit [Inhabited σ] in
/-- A name that is bound stays bound to the same service. -/
theorem service?_of_register {s s' : Server ι σ κ} {r : Receiver ι σ κ} {name? : Option String}
    (h : (s.register r name?).2 = .ok s') {name : String} {service : Service ι σ κ}
    (bound : s.service? name = some service) : s'.service? name = some service := by
  obtain ⟨added, -, -, rfl⟩ := exists_of_register h
  rw [s.service?_bind, bound, Option.some_or]

/-- **Whatever is registered with a server that was set up with the cancellation service, the
reserved name leads to it.** -/
theorem Built.offersCancel {config : ServerConfig} {s : Server ι σ κ} (built : Built config s)
    (h : config.registerCancelService = true) : s.OffersCancel := by
  induction built with
  | new => exact offersCancel_new h
  | register r name? _ registered ih =>
    obtain ⟨state, bound⟩ := ih
    exact ⟨state, service?_of_register registered bound⟩

omit [Inhabited σ] in
/-- A method that changes its receiver changes no other part of a service. -/
theorem service?_updateReceiver (s : Server ι σ κ) (target : String) (f : σ → σ) (name : String) :
    (s.updateReceiver target f).service? name = (s.service? name).map fun service =>
      if service.name = target then { service with receiver := f service.receiver } else service := by
  unfold updateReceiver service?
  rw [List.find?_map]
  congr 2
  funext service
  simp only [Function.comp_apply]
  split <;> rfl

omit [Inhabited σ] in
theorem OffersCancel.updateReceiver {s : Server ι σ κ} (h : s.OffersCancel) (target : String)
    (f : σ → σ) : (s.updateReceiver target f).OffersCancel := by
  obtain ⟨state, bound⟩ := h
  unfold OffersCancel
  rw [s.service?_updateReceiver, bound, Option.map_some]
  split
  · exact ⟨f state, rfl⟩
  · exact ⟨state, rfl⟩

omit [Inhabited σ] in
/-- A request to cancel is routed to the method of the service. -/
theorem OffersCancel.resolve {s : Server ι σ κ} (h : s.OffersCancel) :
    ∃ state, s.resolve "_goRPC_.Cancel" =
      .ok (CancelService.service state, CancelService.method) := by
  obtain ⟨state, bound⟩ := h
  have hparse : Address.parse "_goRPC_.Cancel" = .ok ⟨CancelService.name, "Cancel"⟩ :=
    Address.parse_eq_ok_iff.2 ⟨by decide +kernel, by decide +kernel⟩
  refine ⟨state, ?_⟩
  unfold Server.resolve
  rw [hparse]
  simp only [bound]
  rfl

end Server

end Switchboard
