import Switchboard.Method.Convention

/-!
# Catalogs

The methods of a service, by name. `Catalog.ofCandidates` keeps the candidates that conform and
share the receiver; of several with one name the last stays. What is left out is reported, except
names that are not exported and conforming methods that only need a receiver for themselves alone.

Results: `find?_insert`, `nodup_names_ofCandidates` (a catalog has one method for each name).
-/

namespace Switchboard

/-- A method of a service. -/
structure Method (ι σ κ : Type) [MessageFamily ι] where
  name : String
  argument : TypeInfo
  reply : TypeInfo
  implementation : Implementation ι σ κ

variable {ι σ κ : Type} [MessageFamily ι]

namespace Method

/-- A fresh argument for the method. -/
def makeArgument (m : Method ι σ κ) : Argument ι := m.implementation.makeArgument

/-- A fresh reply for the method. -/
def makeReply (m : Method ι σ κ) : Reply ι := m.implementation.makeReply

/-- Calls the method with type-erased holders. -/
def invoke (m : Method ι σ κ) (client : Client κ) (argument : Argument ι) (reply : Reply ι) :
    Script σ (Finished ι) :=
  m.implementation.invoke m.name client argument reply

end Method

/-- The method a candidate becomes, if it conforms and shares its receiver. -/
def Candidate.method? (c : Candidate ι σ κ) : Option (Method ι σ κ) :=
  match c.exclusion?, c.kind, c.implementation?, c.inputs with
  | none, .shared, some i, [_, _, _, argument, reply] => some ⟨c.name, argument, reply, i⟩
  | _, _, _, _ => none

/-- Methods by name. -/
structure Catalog (ι σ κ : Type) [MessageFamily ι] where
  methods : List (Method ι σ κ)

namespace Catalog

/-- The catalog without methods. -/
def empty : Catalog ι σ κ := ⟨[]⟩

/-- Puts a method in; one of the same name gives way. -/
def insert (c : Catalog ι σ κ) (m : Method ι σ κ) : Catalog ι σ κ :=
  ⟨c.methods.filter (·.name ≠ m.name) ++ [m]⟩

/-- The method of a name. -/
def find? (c : Catalog ι σ κ) (name : String) : Option (Method ι σ κ) :=
  c.methods.find? (·.name = name)

/-- How many methods there are. -/
def size (c : Catalog ι σ κ) : Nat := c.methods.length

/-- The names of the methods, ascending. -/
def names (c : Catalog ι σ κ) : List String :=
  (c.methods.map (·.name)).mergeSort fun a b => a ≤ b

/-- The methods among the candidates. -/
def ofCandidates (cs : List (Candidate ι σ κ)) : Catalog ι σ κ :=
  (cs.filterMap Candidate.method?).foldl insert empty

/-- What is reported of the candidates that break the calling convention. -/
def diagnostics (cs : List (Candidate ι σ κ)) : List Event :=
  (cs.filterMap Candidate.exclusion?).filter Exclusion.isReported |>.map Event.excluded

/-- Whether a receiver behind a mutex would have methods that the plain one cannot have: some
candidate conforms but needs the receiver for itself alone. -/
def hasExclusive (cs : List (Candidate ι σ κ)) : Bool :=
  cs.any fun c => c.kind = .exclusive && c.implementation?.isSome && c.exclusion?.isNone

/-- After an insertion a name leads to the new method if it is the method's, and where it led before
if it is not. -/
theorem find?_insert (c : Catalog ι σ κ) (m : Method ι σ κ) (name : String) :
    (c.insert m).find? name = if m.name = name then some m else c.find? name := by
  unfold insert find?
  simp only
  generalize c.methods = ms
  induction ms with
  | nil => by_cases h : m.name = name <;> simp [h]
  | cons a ms ih =>
    by_cases ha : a.name = m.name
    · by_cases h : m.name = name <;> simp_all
    · by_cases h : a.name = name
      · simp_all [Ne.symm]
      · simp_all

/-- An insertion keeps the names apart. -/
theorem nodup_names_insert {c : Catalog ι σ κ} (m : Method ι σ κ)
    (h : (c.methods.map (·.name)).Nodup) : ((c.insert m).methods.map (·.name)).Nodup := by
  unfold insert
  simp only [List.map_append, List.map_cons, List.map_nil]
  rw [List.nodup_append]
  refine ⟨?_, by simp, ?_⟩
  · exact h.sublist (List.filter_sublist.map _)
  · intro a ha b hb
    simp only [List.mem_map, List.mem_filter, decide_eq_true_eq, List.mem_singleton] at ha hb
    obtain ⟨x, ⟨-, hx⟩, rfl⟩ := ha
    exact hb ▸ hx

/-- A catalog has one method for each of its names. -/
theorem nodup_names_ofCandidates (cs : List (Candidate ι σ κ)) :
    ((ofCandidates cs).methods.map (·.name)).Nodup := by
  unfold ofCandidates
  suffices h : ∀ (ms : List (Method ι σ κ)) (c : Catalog ι σ κ),
      (c.methods.map (·.name)).Nodup → ((ms.foldl insert c).methods.map (·.name)).Nodup from
    h _ _ (by simp [empty])
  intro ms
  induction ms with
  | nil => exact fun c h => h
  | cons m ms ih => exact fun c h => ih _ (nodup_names_insert m h)

end Catalog

end Switchboard
