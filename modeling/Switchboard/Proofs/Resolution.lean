import Switchboard.Proofs.Reaching

/-!
# Where an address leads

A server splits an address at its last dot, finds the service by what stands before it and the method
by what stands behind. There are four ways this can go, and each is told here by how the address is
written and by what is registered, without a word of how it is split. A service looks an address up
by itself; it takes what stands before the dot for its own name or does not.

Results:

* `Server.exists_resolve_iff`: which addresses lead to a method; `Server.resolve_eq_error_iff`: what
  can be wrong with the others.
* `Server.resolve_eq_lookup`: a service and its server agree on the addresses that are the service's.
* `Server.Built.resolve_exact`: all of that of a server that was built, told by its names.
-/

namespace Switchboard

variable {ι σ κ : Type} [MessageFamily ι]

/-- An address is split where its last dot is. -/
theorem Address.parse_eq_mk_iff {text front last : String} :
    Address.parse text = .ok ⟨front, last⟩ ↔ text = front ++ "." ++ last ∧ '.' ∉ last.toList :=
  parse_eq_ok_iff

namespace Server

variable {s : Server ι σ κ} {service : Service ι σ κ} {address : String}

theorem service?_eq_some_iff (hnodup : (s.services.map (·.name)).Nodup) {name : String} :
    s.service? name = some service ↔ service ∈ s.services ∧ service.name = name := by
  constructor
  · intro found
    exact ⟨List.mem_of_find?_eq_some found, name_of_service? found⟩
  · rintro ⟨held, rfl⟩
    exact service?_of_mem hnodup held

theorem service?_eq_none_iff {name : String} :
    s.service? name = none ↔ ∀ service ∈ s.services, service.name ≠ name := by
  simp [service?]

/-- What can be wrong with an address: it has no dot, or no service has its name, or the service has
no such method. -/
theorem resolve_eq_error_iff {e : AddressError} : s.resolve address = .error e ↔
    (e = .illFormed address ∧ '.' ∉ address.toList) ∨
    (e = .unknownService address ∧
      ∃ a, Address.parse address = .ok a ∧ s.service? a.service = none) ∨
    (e = .unknownMethod address ∧ ∃ a found, Address.parse address = .ok a ∧
      s.service? a.service = some found ∧ found.method? a.method = none) := by
  cases hparse : Address.parse address with
  | error e' =>
    obtain ⟨rfl, plain⟩ := Address.parse_eq_error_iff.1 hparse
    simp [resolve, hparse, plain, eq_comm]
  | ok a =>
    have dotted : '.' ∈ address.toList := by
      by_contra plain
      rw [Address.parse_eq_error_iff.2 ⟨rfl, plain⟩] at hparse
      cases hparse
    cases hservice : s.service? a.service with
    | none => simp [resolve, hparse, hservice, dotted, eq_comm]
    | some found =>
      cases hmethod : found.method? a.method <;>
        simp [resolve, hparse, hservice, hmethod, dotted, eq_comm]

/-- On its own addresses, and on those that are nobody's for want of a dot, a service agrees with the
server that has it. -/
theorem resolve_eq_lookup (hnodup : (s.services.map (·.name)).Nodup) (held : service ∈ s.services)
    (own : ∀ a, Address.parse address = .ok a → a.service = service.name) :
    s.resolve address = (service.lookup address).map fun m => (service, m) := by
  unfold resolve Service.lookup
  cases hparse : Address.parse address with
  | error e => rfl
  | ok a =>
    have hname := own a hparse
    simp only [hname, service?_of_mem hnodup held, ne_eq, not_true, if_false]
    cases service.method? a.method <;> rfl

/-- An address leads to a service and the method of a name exactly if it is made of the two names,
splits where they meet, and the service has the method. -/
theorem exists_resolve_iff (hnodup : (s.services.map (·.name)).Nodup) {name : String} :
    (∃ m, s.resolve address = .ok (service, m) ∧ m.name = name) ↔
      service ∈ s.services ∧ address = service.name ++ "." ++ name ∧ '.' ∉ name.toList ∧
        name ∈ service.catalog.names := by
  simp only [resolve_eq_ok_iff, service?_eq_some_iff hnodup, Address.parse_eq_mk_iff,
    Catalog.mem_names_iff]
  constructor
  · rintro ⟨m, ⟨⟨hsplit, plain⟩, ⟨held, -⟩, hm⟩, rfl⟩
    exact ⟨held, hsplit, plain, Option.isSome_of_eq_some hm⟩
  · rintro ⟨held, hsplit, plain, hfound⟩
    obtain ⟨m, hm⟩ := Option.isSome_iff_exists.1 hfound
    obtain rfl := Service.name_of_method? hm
    exact ⟨m, ⟨⟨hsplit, plain⟩, ⟨held, trivial⟩, hm⟩, rfl⟩

/-- A server knows no service for an address if none has the name before the last dot. -/
theorem resolve_eq_unknownService_iff : s.resolve address = .error (.unknownService address) ↔
    ∃ front last, address = front ++ "." ++ last ∧ '.' ∉ last.toList ∧
      ∀ service ∈ s.services, service.name ≠ front := by
  simp only [resolve_eq_error_iff, reduceCtorEq, false_and, true_and, false_or, or_false,
    service?_eq_none_iff]
  constructor
  · rintro ⟨⟨front, last⟩, hparse, unbound⟩
    obtain ⟨hsplit, plain⟩ := Address.parse_eq_mk_iff.1 hparse
    exact ⟨front, last, hsplit, plain, unbound⟩
  · rintro ⟨front, last, hsplit, plain, unbound⟩
    exact ⟨⟨front, last⟩, Address.parse_eq_mk_iff.2 ⟨hsplit, plain⟩, unbound⟩

/-- A server knows no method for an address if the service of the name before the last dot has none
of the name behind it. -/
theorem resolve_eq_unknownMethod_iff (hnodup : (s.services.map (·.name)).Nodup) :
    s.resolve address = .error (.unknownMethod address) ↔
      ∃ service ∈ s.services, ∃ last, address = service.name ++ "." ++ last ∧
        '.' ∉ last.toList ∧ last ∉ service.catalog.names := by
  simp only [resolve_eq_error_iff, reduceCtorEq, false_and, true_and, false_or,
    service?_eq_some_iff hnodup, Catalog.mem_names_iff, Option.not_isSome_iff_eq_none]
  constructor
  · rintro ⟨⟨front, last⟩, service, hparse, ⟨held, rfl⟩, missing⟩
    obtain ⟨hsplit, plain⟩ := Address.parse_eq_mk_iff.1 hparse
    exact ⟨service, held, last, hsplit, plain, missing⟩
  · rintro ⟨service, held, last, hsplit, plain, missing⟩
    exact ⟨⟨service.name, last⟩, service, Address.parse_eq_mk_iff.2 ⟨hsplit, plain⟩, ⟨held, rfl⟩,
      missing⟩

variable [Inhabited σ]

/-- **Where an address leads.** To a method exactly if it is the method's name after the name of the
service that has it, joined by a dot, and the method's name has none; otherwise it has no dot, or
there is no service of the name before the last dot, or that service has no such method. On the
addresses that are a service's own, and on those without a dot, the service says the same. -/
theorem Built.resolve_exact {config : ServerConfig} (built : Built config s) (address : String) :
    (∀ service name, (∃ m, s.resolve address = .ok (service, m) ∧ m.name = name) ↔
      service ∈ s.services ∧ address = service.name ++ "." ++ name ∧ '.' ∉ name.toList ∧
        name ∈ service.catalog.names) ∧
    (∀ service m, s.resolve address = .ok (service, m) → service.method? m.name = some m) ∧
    (s.resolve address = .error (.illFormed address) ↔ '.' ∉ address.toList) ∧
    (s.resolve address = .error (.unknownService address) ↔
      ∃ front last, address = front ++ "." ++ last ∧ '.' ∉ last.toList ∧
        ∀ service ∈ s.services, service.name ≠ front) ∧
    (s.resolve address = .error (.unknownMethod address) ↔
      ∃ service ∈ s.services, ∃ last, address = service.name ++ "." ++ last ∧ '.' ∉ last.toList ∧
        last ∉ service.catalog.names) ∧
    (∀ e, s.resolve address = .error e →
      e = .illFormed address ∨ e = .unknownService address ∨ e = .unknownMethod address) ∧
    ∀ service ∈ s.services,
      ('.' ∉ address.toList ∨
        ∃ last, address = service.name ++ "." ++ last ∧ '.' ∉ last.toList) →
      s.resolve address = (service.lookup address).map fun m => (service, m) := by
  have hnodup := built.nodup_names
  refine ⟨?_, ?_, ?_, ?_, ?_, ?_, ?_⟩
  · intro service name
    exact exists_resolve_iff hnodup
  · intro service m h
    exact (exists_of_resolve h).2
  · simp [resolve_eq_error_iff]
  · exact resolve_eq_unknownService_iff
  · exact resolve_eq_unknownMethod_iff hnodup
  · intro e h
    rcases resolve_eq_error_iff.1 h with ⟨h, -⟩ | ⟨h, -⟩ | ⟨h, -⟩ <;> simp [h]
  · rintro service held own
    refine resolve_eq_lookup hnodup held ?_
    rintro a hparse
    rcases own with plain | ⟨last, rfl, plain⟩
    · rw [Address.parse_eq_error_iff.2 ⟨rfl, plain⟩] at hparse
      cases hparse
    · rw [Address.parse_eq_mk_iff.2 ⟨rfl, plain⟩] at hparse
      cases hparse
      rfl

/-! ## Names that begin alike -/

/-- A server with a service whose name is another's and more. -/
def nested : Server Empty Unit Empty :=
  match (Server.dotted.register .dotted (some "Acme")).2 with
  | .ok server => server
  | .error _ => .dotted

theorem built_nested : nested.Built {} := by
  unfold nested
  split
  · next server registered => exact .register _ _ built_dotted registered
  · exact built_dotted

/-- An address is split at its last dot, whoever else has a name that it begins with. -/
theorem resolve_exact_nested : nested.Built {} ∧
    (∃ service m, nested.resolve "Acme.Math.Sum" = .ok (service, m) ∧ service.name = "Acme.Math") ∧
    nested.resolve "Acme.Math" = .error (.unknownMethod "Acme.Math") ∧
    nested.resolve "Acme.Math.Sum.Fast" = .error (.unknownService "Acme.Math.Sum.Fast") ∧
    nested.resolve "Acme" = .error (.illFormed "Acme") := by
  have has : nested.services.any fun service => decide
      (service.name = "Acme.Math" ∧ (service.catalog.find? "Sum").isSome = true) := by
    decide +kernel
  have lacks : nested.services.any fun service => decide
      (service.name = "Acme" ∧ ¬(service.catalog.find? "Math").isSome = true) := by
    decide +kernel
  have unbound : ∀ service ∈ nested.services, service.name ≠ "Acme.Math.Sum" := by
    decide +kernel
  simp only [List.any_eq_true, decide_eq_true_eq] at has lacks
  obtain ⟨service, held, hname, hfound⟩ := has
  obtain ⟨other, held', hname', hmissing⟩ := lacks
  refine ⟨built_nested, ?_, ?_, ?_, ?_⟩
  · obtain ⟨m, hresolve, -⟩ := ((built_nested.resolve_exact "Acme.Math.Sum").1 service "Sum").2
      ⟨held, by rw [hname]; rfl, by decide, Catalog.mem_names_iff.2 hfound⟩
    exact ⟨service, m, hresolve, hname⟩
  · exact (built_nested.resolve_exact "Acme.Math").2.2.2.2.1.2
      ⟨other, held', "Math", by rw [hname']; rfl, by decide,
        fun advertised => hmissing (Catalog.mem_names_iff.1 advertised)⟩
  · exact (built_nested.resolve_exact "Acme.Math.Sum.Fast").2.2.2.1.2
      ⟨"Acme.Math.Sum", "Fast", rfl, by decide, unbound⟩
  · exact (built_nested.resolve_exact "Acme").2.2.1.2 (by decide)

end Server

end Switchboard
