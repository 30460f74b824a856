import Mathlib.Data.List.Nodup
import Switchboard.Proofs.Connection.Schedule
import Switchboard.Proofs.Registration

/-!
# Reaching what a service advertises

A service advertises the names of its catalog. A name gets into the catalog by its first character,
and a service may be registered under any name at all; an address, the two joined by a dot, is split
at its last dot. So it leads back to the two names exactly if the method's has no dot.

Results:

* `Server.Built.nodup_names`: a server has one service for each name, so what it holds is found
  (`Server.service?_of_mem`).
* `Address.exists_parse_text`: an address whose method has a dot is split elsewhere.
* `Server.Built.reaches_advertised`: what is advertised without a dot in its name is reached by its
  address, on the server and on the service; and what has a dot in its name is not.
-/

namespace Switchboard

variable {ι σ κ : Type} [MessageFamily ι]

/-- Among things of different names each one is found by its name. -/
theorem find?_eq_some_of_nodup {α : Type} {name : α → String} {xs : List α}
    (hnodup : (xs.map name).Nodup) {a : α} (ha : a ∈ xs) :
    xs.find? (fun b => name b = name a) = some a := by
  cases hfound : xs.find? (fun b => name b = name a) with
  | none =>
    have hnone := List.find?_eq_none.1 hfound a ha
    exact absurd (decide_eq_true rfl) hnone
  | some b =>
    have hname := List.find?_some hfound
    rw [decide_eq_true_eq] at hname
    rw [List.inj_on_of_nodup_map hnodup (List.mem_of_find?_eq_some hfound) ha hname]

namespace Address

/-- An address whose method has a dot is split elsewhere: the service it leads to has another
name. -/
theorem exists_parse_text {a : Address} (dotted : '.' ∈ a.method.toList) :
    ∃ b, Address.parse a.text = .ok b ∧ b.service ≠ a.service := by
  cases hparse : Address.parse a.text with
  | error e =>
    obtain ⟨-, hno⟩ := parse_eq_error_iff.1 hparse
    refine absurd ?_ hno
    unfold text
    rw [String.toList_append]
    exact List.mem_append_right _ dotted
  | ok b =>
    obtain ⟨htext, plain⟩ := parse_eq_ok_iff.1 hparse
    refine ⟨b, rfl, ?_⟩
    intro hservice
    have hmethod : a.method = b.method := by
      rw [text, text, hservice] at htext
      exact String.append_right_inj _ |>.1 htext
    exact plain (hmethod ▸ dotted)

end Address

namespace Server

variable {s : Server ι σ κ} {service : Service ι σ κ}

/-- What a server holds is found by its name. -/
theorem service?_of_mem (hnodup : (s.services.map (·.name)).Nodup) (h : service ∈ s.services) :
    s.service? service.name = some service := find?_eq_some_of_nodup hnodup h

/-- A service under a new name keeps the names apart. -/
theorem nodup_names_bind (hnodup : (s.services.map (·.name)).Nodup)
    (free : s.service? service.name = none) :
    ((s.bind service).services.map (·.name)).Nodup := by
  change ((s.services ++ [service]).map (·.name)).Nodup
  rw [List.map_append, List.map_singleton]
  refine List.concat_eq_append ▸ hnodup.concat ?_
  intro hmem
  obtain ⟨other, hother, hname⟩ := List.mem_map.1 hmem
  have hne := List.find?_eq_none.1 free other hother
  exact hne (decide_eq_true hname)

/-- A text leads to no service but the one it names. -/
theorem name_of_resolve {text : String} {a : Address} {m : Method ι σ κ}
    (hparse : Address.parse text = .ok a) (h : s.resolve text = .ok (service, m)) :
    service.name = a.service := by
  obtain ⟨hnames, -⟩ := resolve_eq_ok_iff.1 h
  rw [hparse] at hnames
  cases hnames
  rfl

/-- A text that names no service leads nowhere. -/
theorem resolve_of_unbound {text : String} {a : Address} (hparse : Address.parse text = .ok a)
    (unbound : s.service? a.service = none) : s.resolve text = .error (.unknownService text) := by
  unfold resolve
  rw [hparse]
  simp only [unbound]

variable [Inhabited σ]

/-- **A server has one service for each name.** -/
theorem Built.nodup_names {config : ServerConfig} (built : Built config s) :
    (s.services.map (·.name)).Nodup := by
  induction built with
  | new =>
    rw [new_eq]
    dsimp only
    split
    · exact List.nodup_singleton _
    · exact .nil
  | register r name? _ registered ih =>
    obtain ⟨service, -, free, rfl⟩ := exists_of_register registered
    exact nodup_names_bind ih free

/-- **What a service advertises is reached by its address, unless its name has a dot.** Then the
address is split elsewhere: the service takes it for another's, and on the server it leads to
another service or nowhere. -/
theorem Built.reaches_advertised {config : ServerConfig} (built : Built config s)
    (held : service ∈ s.services) {name : String} (advertised : name ∈ service.catalog.names) :
    ∃ m, service.method? name = some m ∧ m.name = name ∧
      ('.' ∉ name.toList →
        s.resolve (service.name ++ "." ++ name) = .ok (service, m) ∧
          service.lookup (service.name ++ "." ++ name) = .ok m) ∧
      ('.' ∈ name.toList →
        service.lookup (service.name ++ "." ++ name) =
            .error (.unknownService (service.name ++ "." ++ name)) ∧
          ∀ found m', s.resolve (service.name ++ "." ++ name) = .ok (found, m') →
            found.name ≠ service.name) := by
  obtain ⟨m, hm⟩ := Option.isSome_iff_exists.1 (Catalog.mem_names_iff.1 advertised)
  obtain rfl := Service.name_of_method? hm
  have hfound : s.service? service.name = some service := service?_of_mem built.nodup_names held
  refine ⟨m, hm, rfl, ?_, ?_⟩
  · intro plain
    exact ⟨resolve_of_method? hfound hm plain, Service.lookup_of_method? hm plain⟩
  · intro dotted
    obtain ⟨a, hparse, hother⟩ := Address.exists_parse_text (a := ⟨service.name, m.name⟩) dotted
    refine ⟨Service.lookup_of_parse hparse hother, ?_⟩
    intro found m' hresolve
    rw [name_of_resolve hparse hresolve]
    exact hother

end Server

/-! ## Two methods of one receiver -/

/-- A receiver with two methods, the second with a dot in its name. -/
def Receiver.dotted : Receiver Empty Unit Empty where
  typeName := "Math"
  candidates := ["Sum", "Sum.Fast"].map fun name => .byPointer "Math" name
    (fun _ _ r => pure (r, .ok) : Body Empty Unit Empty .unit .bool)
  initial := ()

/-- A server that offers it. -/
def Server.dotted : Server Empty Unit Empty :=
  match (Server.bare.register .dotted (some "Acme.Math")).2 with
  | .ok server => server
  | .error _ => .bare

namespace Server

theorem built_dotted : Server.dotted.Built {} := by
  unfold dotted
  split
  · next server registered => exact .register _ _ .new registered
  · exact .new

theorem reaches_advertised_dotted :
    ∃ service ∈ Server.dotted.services, service.name = "Acme.Math" ∧
      "Sum" ∈ service.catalog.names ∧
      ∃ m, service.method? "Sum" = some m ∧
        Server.dotted.resolve (service.name ++ "." ++ "Sum") = .ok (service, m) ∧
        service.lookup (service.name ++ "." ++ "Sum") = .ok m := by
  have run : Server.dotted.services.any fun service => decide
      (service.name = "Acme.Math" ∧ (service.catalog.find? "Sum").isSome = true) := by
    decide +kernel
  simp only [List.any_eq_true, decide_eq_true_eq] at run
  obtain ⟨service, held, hname, hfound⟩ := run
  have advertised : "Sum" ∈ service.catalog.names := Catalog.mem_names_iff.2 hfound
  obtain ⟨m, hm, -, hreached, -⟩ := built_dotted.reaches_advertised held advertised
  exact ⟨service, held, hname, advertised, m, hm, hreached (by decide)⟩

/-- The other method is advertised, and its address leads nowhere. -/
theorem unreached_dotted :
    Server.dotted.Built {} ∧ ∃ service ∈ Server.dotted.services,
      "Sum.Fast" ∈ service.catalog.names ∧
      Server.dotted.resolve (service.name ++ "." ++ "Sum.Fast") =
        .error (.unknownService (service.name ++ "." ++ "Sum.Fast")) ∧
      service.lookup (service.name ++ "." ++ "Sum.Fast") =
        .error (.unknownService (service.name ++ "." ++ "Sum.Fast")) := by
  have run : Server.dotted.services.any fun service => decide
      (service.name = "Acme.Math" ∧ (service.catalog.find? "Sum.Fast").isSome = true ∧
        (Server.dotted.service? "Acme.Math.Sum").isNone) := by
    decide +kernel
  simp only [List.any_eq_true, decide_eq_true_eq, Option.isNone_iff_eq_none] at run
  obtain ⟨service, held, hname, hfound, unbound⟩ := run
  have hparse : Address.parse (service.name ++ "." ++ "Sum.Fast") =
      .ok ⟨"Acme.Math.Sum", "Fast"⟩ := by
    rw [hname]
    exact Address.parse_eq_ok_iff.2 ⟨by decide, by decide⟩
  refine ⟨built_dotted, service, held, Catalog.mem_names_iff.2 hfound,
    resolve_of_unbound hparse unbound, ?_⟩
  refine Service.lookup_of_parse hparse ?_
  rw [hname]
  decide

end Server

end Switchboard
