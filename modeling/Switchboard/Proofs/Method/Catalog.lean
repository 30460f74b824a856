import Switchboard.Proofs.Method.Invocation

/-!
# What a catalog keeps

A receiver lists candidates, under any names and for any types. The catalog takes those that are to
be served, in the order of the list, and of several with one name the last stays. A candidate that
is not served is passed over wherever it stands: it neither gets into the catalog nor keeps an
earlier one of its name out of it.

`Candidate.IsServed` says directly what being served takes, in terms of what the candidate was
listed with; the rules of the convention work on the signature made of that. `Catalog.collect` goes
through the list once and logs on its way, where `Catalog.ofCandidates` and `Catalog.diagnostics`
each make a part of that.

Results:

* `Candidate.isServed_iff`: to be served is to conform, to share the receiver and to have a body.
* `Catalog.collect_eq`: going through the list once gives the catalog, whatever is logged.
* `Catalog.find?_ofCandidates_iff`: a name leads to the last candidate of that name that is served.
* `Catalog.ofCandidates_exact`: what a catalog has in it, and what has no part in that.
-/

namespace Switchboard

/-- A name is exported exactly if it starts with an uppercase character. -/
theorem TypeName.isExported_iff {name : String} : TypeName.isExported name = true ↔
    ∃ first rest, name.toList = first :: rest ∧ Text.isUpper first = true := by
  unfold isExported
  cases name.toList with
  | nil => simp [isExportedChars]
  | cons first rest => simp [isExportedChars]

variable {ι σ κ : Type} [MessageFamily ι]

/-- The method that a body becomes under a name. -/
def Implementation.listed (i : Implementation ι σ κ) (name : String) : Method ι σ κ :=
  ⟨name, if i.passing = .value then .value i.argument.typeName else .pointer i.argument.typeName,
    .pointer i.reply.typeName, i⟩

/-- A fresh argument for a method is the zero value, passed the way the method takes it. -/
theorem Method.makeArgument_eq (m : Method ι σ κ) :
    m.makeArgument = ⟨m.implementation.argument, .zero m.implementation.argument,
      decide (m.implementation.passing = .value),
      decide (m.implementation.passing = .privileged)⟩ := by
  unfold makeArgument Factory.makeArgument
  cases m.implementation.passing <;> rfl

/-! ## Candidates that are served -/

namespace Candidate

variable {c : Candidate ι σ κ} {i : Implementation ι σ κ} {m : Method ι σ κ}

/-- The candidate is to be served, and `i` is its body. -/
structure IsServed (c : Candidate ι σ κ) (i : Implementation ι σ κ) : Prop where
  shared : c.kind = .shared
  written : c.work = .written i
  uppercase : ∃ first rest, c.name.toList = first :: rest ∧ Text.isUpper first = true
  context : i.types.context = contextType.name
  client : i.types.client = clientType.name
  result : i.types.result = resultType.name
  argument : TypeName.visible i.argument.typeName = true
  reply : TypeName.visible i.reply.typeName = true

/-- A body conforms that is written for the types of the convention. -/
theorem IsServed.conforms (h : c.IsServed i) : c.Conforms where
  exported := TypeName.isExported_iff.2 h.uppercase
  types := by
    refine ⟨.pointer c.owner, .value i.types.context, .value i.types.client,
      if i.passing = .value then .value i.argument.typeName else .pointer i.argument.typeName,
      .pointer i.reply.typeName, .value i.types.result, ?_, ?_, h.context, h.client, ?_, h.reply,
      rfl, h.result⟩
    · unfold inputs
      rw [h.written]
    · unfold outputs
      rw [h.written]
      refine if_neg ?_
      rw [h.result]
      decide +kernel
    · split <;> exact h.argument
  written := by
    unfold implementation?
    rw [h.written]
    rfl

/-- To be served is to conform, to share the receiver and to have a body. -/
theorem isServed_iff : c.IsServed i ↔ c.Conforms ∧ c.kind = .shared ∧ c.work = .written i := by
  constructor
  · intro h
    exact ⟨h.conforms, h.shared, h.written⟩
  · rintro ⟨conforms, shared, written⟩
    obtain ⟨_, _, _, _, _, _, hinputs, houtputs, hcontext, hclient, hargument, hreply, -, hresult⟩ :=
      conforms.types
    unfold inputs at hinputs
    rw [written] at hinputs
    unfold outputs at houtputs
    rw [written] at houtputs
    dsimp only at houtputs
    cases hinputs
    split at houtputs
    · cases houtputs
    · cases houtputs
      refine ⟨shared, written, TypeName.isExported_iff.1 conforms.exported, hcontext, hclient,
        hresult, ?_, hreply⟩
      split at hargument <;> exact hargument

theorem Becomes.isServed (h : c.Becomes m) : c.IsServed m.implementation :=
  isServed_iff.2 ⟨h.conforms, h.shared, h.work⟩

/-- A candidate becomes a method exactly if it is served: its body, under its name. -/
theorem method?_eq_some_iff : c.method? = some m ↔ ∃ i, c.IsServed i ∧ m = i.listed c.name := by
  constructor
  · intro h
    have becomes := becomes_of_method? h
    refine ⟨m.implementation, becomes.isServed, ?_⟩
    unfold method? implementation? inputs at h
    rw [exclusion?_eq_none_iff.2 becomes.conforms, becomes.shared, becomes.work] at h
    exact (Option.some.inj h).symm
  · rintro ⟨i, served, rfl⟩
    unfold method? implementation? inputs
    rw [exclusion?_eq_none_iff.2 served.conforms, served.shared, served.written]
    rfl

theorem method?_eq_none_iff : c.method? = none ↔ ∀ i, ¬c.IsServed i := by
  rw [Option.eq_none_iff_forall_ne_some]
  constructor
  · intro h i served
    exact h _ (method?_eq_some_iff.2 ⟨i, served, rfl⟩)
  · intro h m hm
    obtain ⟨i, served, -⟩ := method?_eq_some_iff.1 hm
    exact h i served

theorem exists_isServed_iff : (∃ i, c.IsServed i) ↔ c.Conforms ∧ c.kind = .shared := by
  constructor
  · rintro ⟨i, served⟩
    exact ⟨served.conforms, served.shared⟩
  · rintro ⟨conforms, shared⟩
    obtain ⟨i, hi⟩ := Option.isSome_iff_exists.1 conforms.written
    unfold implementation? at hi
    split at hi
    · cases hi
    · next hwork =>
      cases hi
      exact ⟨i, isServed_iff.2 ⟨conforms, shared, hwork⟩⟩

/-- A candidate that breaks a rule becomes no method. -/
theorem method?_of_exclusion? {reason : Exclusion} (h : c.exclusion? = some reason) :
    c.method? = none := by
  unfold method?
  rw [h]

end Candidate

namespace Catalog

/-! ## Going through the list once -/

/-- Goes through the candidates: those that break a rule are left out, and with `report` that is
logged; of the others those that share the receiver get into the catalog. -/
def collect (report : Bool) (cs : List (Candidate ι σ κ)) : List Event × Catalog ι σ κ :=
  cs.foldl (fun (log, catalog) c =>
    match c.exclusion? with
    | some reason =>
      (if report && reason.isReported then log ++ [.excluded reason] else log, catalog)
    | none =>
      match c.method? with
      | some m => (log, catalog.insert m)
      | none => (log, catalog)) ([], empty)

/-- That gives the catalog, whatever is logged. -/
theorem collect_eq (report : Bool) (cs : List (Candidate ι σ κ)) :
    collect report cs = (if report then diagnostics cs else [], ofCandidates cs) := by
  unfold collect
  -- The induction is on the list for every state of the log and of the catalog.
  suffices h : ∀ log (catalog : Catalog ι σ κ),
      cs.foldl _ (log, catalog) = (log ++ if report then diagnostics cs else [],
        (cs.filterMap Candidate.method?).foldl insert catalog) from h [] empty
  induction cs with
  | nil =>
    intro log catalog
    cases report <;> simp [diagnostics]
  | cons c cs ih =>
    intro log catalog
    rw [List.foldl_cons]
    cases hrules : c.exclusion? with
    | some reason =>
      dsimp only
      rw [ih, List.filterMap_cons, Candidate.method?_of_exclusion? hrules]
      cases report <;> cases hreported : reason.isReported <;>
        simp [diagnostics, hrules, hreported]
    | none =>
      have hlog : diagnostics (c :: cs) = diagnostics cs := by
        unfold diagnostics
        rw [List.filterMap_cons, hrules]
      rw [hlog, List.filterMap_cons]
      cases c.method? with
      | none => exact ih log catalog
      | some m => exact ih log (catalog.insert m)

/-! ## What is found -/

/-- A catalog advertises the names it finds a method for. -/
theorem mem_names_iff {c : Catalog ι σ κ} {name : String} :
    name ∈ c.names ↔ (c.find? name).isSome = true := by
  unfold names find?
  rw [List.mem_mergeSort, List.mem_map, List.find?_isSome]
  simp only [decide_eq_true_eq]

theorem size_eq_zero_iff {c : Catalog ι σ κ} : c.size = 0 ↔ ∀ name, name ∉ c.names := by
  simp [size, names, List.eq_nil_iff_forall_not_mem]

/-- After insertions a name leads to the last method of that name, or where it led before. -/
theorem find?_foldl_insert (ms : List (Method ι σ κ)) (c : Catalog ι σ κ) (name : String) :
    (ms.foldl insert c).find? name = (ms.reverse.find? (·.name = name)).or (c.find? name) := by
  induction ms generalizing c with
  | nil => rfl
  | cons m ms ih =>
    rw [List.foldl_cons, ih, c.find?_insert, List.reverse_cons, List.find?_append, Option.or_assoc]
    congr 1
    by_cases h : m.name = name <;> simp [h]

variable {cs : List (Candidate ι σ κ)} {name : String} {m : Method ι σ κ}

/-- The methods of a list are the candidates that are served. -/
theorem mem_methods_iff : m ∈ cs.filterMap Candidate.method? ↔
    ∃ c ∈ cs, ∃ i, c.IsServed i ∧ m = i.listed c.name := by
  simp only [List.mem_filterMap, Candidate.method?_eq_some_iff]

/-- In a catalog a name leads to the last of the methods that bear it. -/
theorem find?_ofCandidates (cs : List (Candidate ι σ κ)) (name : String) :
    (ofCandidates cs).find? name =
      (cs.filterMap Candidate.method?).reverse.find? (·.name = name) := by
  unfold ofCandidates
  rw [find?_foldl_insert]
  exact Option.or_none

/-- **A name leads to the last candidate of that name that is served.** -/
theorem find?_ofCandidates_iff : (ofCandidates cs).find? name = some m ↔
    ∃ before c after i, cs = before ++ c :: after ∧ c.name = name ∧ c.IsServed i ∧
      m = i.listed name ∧ ∀ d ∈ after, d.name = name → ∀ j, ¬d.IsServed j := by
  rw [find?_ofCandidates, List.find?_eq_some_iff_append, decide_eq_true_eq]
  constructor
  · rintro ⟨rfl, later, earlier, hsplit, hlater⟩
    -- Splitting the methods splits the candidates that they were.
    have hmethods : cs.filterMap Candidate.method? = earlier.reverse ++ m :: later.reverse := by
      rw [← List.reverse_reverse (cs.filterMap _), hsplit, List.reverse_append, List.reverse_cons,
        List.append_assoc, List.singleton_append]
    obtain ⟨before, rest, rfl, -, hrest⟩ := List.filterMap_eq_append_iff.1 hmethods
    obtain ⟨skipped, c, after, rfl, -, hm, hafter⟩ := List.filterMap_eq_cons_iff.1 hrest
    obtain ⟨i, served, rfl⟩ := Candidate.method?_eq_some_iff.1 hm
    refine ⟨before ++ skipped, c, after, i, (List.append_assoc ..).symm, rfl, served, rfl, ?_⟩
    intro d hd hname j hserved
    have hmem : j.listed d.name ∈ later.reverse := by
      rw [← hafter]
      exact mem_methods_iff.2 ⟨d, hd, j, hserved, rfl⟩
    have hother := hlater _ (List.mem_reverse.1 hmem)
    rw [Bool.not_eq_true', decide_eq_false_iff_not] at hother
    exact hother hname
  · rintro ⟨before, c, after, i, rfl, rfl, served, rfl, hafter⟩
    refine ⟨rfl, (after.filterMap Candidate.method?).reverse,
      (before.filterMap Candidate.method?).reverse, ?_, ?_⟩
    · rw [List.filterMap_append, List.filterMap_cons_some
          (Candidate.method?_eq_some_iff.2 ⟨i, served, rfl⟩),
        List.reverse_append, List.reverse_cons, List.append_assoc, List.singleton_append]
    · intro a ha
      obtain ⟨d, hd, j, hserved, rfl⟩ := mem_methods_iff.1 (List.mem_reverse.1 ha)
      rw [Bool.not_eq_true', decide_eq_false_iff_not]
      intro hname
      exact hafter d hd hname j hserved

/-- A catalog has the names of the candidates that are served. -/
theorem mem_names_ofCandidates_iff :
    name ∈ (ofCandidates cs).names ↔ ∃ c ∈ cs, c.name = name ∧ ∃ i, c.IsServed i := by
  rw [mem_names_iff, find?_ofCandidates, List.find?_isSome]
  simp only [List.mem_reverse, mem_methods_iff, decide_eq_true_eq]
  constructor
  · rintro ⟨_, ⟨c, hc, i, served, rfl⟩, hname⟩
    exact ⟨c, hc, hname, i, served⟩
  · rintro ⟨c, hc, hname, i, served⟩
    exact ⟨i.listed c.name, ⟨c, hc, i, served, rfl⟩, hname⟩

/-- A catalog is empty exactly if no candidate is served. -/
theorem size_ofCandidates_eq_zero_iff :
    (ofCandidates cs).size = 0 ↔ ∀ c ∈ cs, ¬(c.Conforms ∧ c.kind = .shared) := by
  rw [size_eq_zero_iff]
  simp only [mem_names_ofCandidates_iff, Candidate.exists_isServed_iff]
  constructor
  · intro h c hc served
    exact h c.name ⟨c, hc, rfl, served⟩
  · rintro h name ⟨c, hc, -, served⟩
    exact h c hc served

/-- Every method of a catalog is one of the candidates. -/
theorem exists_candidate (h : (ofCandidates cs).find? name = some m) : ∃ c ∈ cs, c.Becomes m := by
  rw [find?_ofCandidates] at h
  obtain ⟨c, hc, hm⟩ := List.mem_filterMap.1 (List.mem_reverse.1 (List.mem_of_find?_eq_some h))
  exact ⟨c, hc, Candidate.becomes_of_method? hm⟩

/-- A candidate that is not served has no part in the catalog. -/
theorem ofCandidates_skip {c : Candidate ι σ κ} (h : ∀ i, ¬c.IsServed i)
    (before after : List (Candidate ι σ κ)) :
    ofCandidates (before ++ c :: after) = ofCandidates (before ++ after) := by
  unfold ofCandidates
  rw [List.filterMap_append, List.filterMap_cons_none (Candidate.method?_eq_none_iff.2 h),
    List.filterMap_append]

/-- **A catalog is exact.** It has the names of the candidates that are served, each once; a name
leads to the last of these that bears it, as it was listed: under its name, making holders for its
types, and running its body. Candidates that are not served have no part in it, wherever they stand,
and neither has the logging. -/
theorem ofCandidates_exact (cs : List (Candidate ι σ κ)) :
    (∀ name, name ∈ (ofCandidates cs).names ↔ ∃ c ∈ cs, c.name = name ∧ ∃ i, c.IsServed i) ∧
    (ofCandidates cs).names.Nodup ∧
    (∀ name m, (ofCandidates cs).find? name = some m ↔
      ∃ before c after i, cs = before ++ c :: after ∧ c.name = name ∧ c.IsServed i ∧
        m = i.listed name ∧ ∀ d ∈ after, d.name = name → ∀ j, ¬d.IsServed j) ∧
    (∀ name m, (ofCandidates cs).find? name = some m →
      m.makeArgument = ⟨m.implementation.argument, .zero m.implementation.argument,
        decide (m.implementation.passing = .value),
        decide (m.implementation.passing = .privileged)⟩ ∧
      m.makeReply = .zero m.implementation.reply ∧
      ∀ (client : Client κ) (argument : Argument ι) (reply : Reply ι)
        (a : m.implementation.argument.Carrier) (r : m.implementation.reply.Carrier),
        argument.held = ⟨m.implementation.argument, a⟩ →
        reply.held = ⟨m.implementation.reply, r⟩ →
        m.invoke client argument reply = m.runBody client argument reply a r) ∧
    (∀ before c after, cs = before ++ c :: after → (∀ i, ¬c.IsServed i) →
      ofCandidates (before ++ after) = ofCandidates cs) ∧
    ∀ report, (collect report cs).2 = ofCandidates cs := by
  refine ⟨?_, ?_, ?_, ?_, ?_, ?_⟩
  · intro name
    exact mem_names_ofCandidates_iff
  · exact (List.mergeSort_perm _ _).nodup_iff.2 (nodup_names_ofCandidates cs)
  · intro name m
    exact find?_ofCandidates_iff
  · intro name m found
    obtain ⟨c, -, becomes⟩ := exists_candidate found
    refine ⟨m.makeArgument_eq, rfl, ?_⟩
    intro client argument reply a r ha hr
    exact becomes.invoke_eq ha hr client
  · rintro before c after rfl unserved
    exact (ofCandidates_skip unserved before after).symm
  · intro report
    rw [collect_eq]

/-- Candidates of one name, most of which are not served. -/
def namesakes : List (Candidate Empty Unit Empty) :=
  let body : Body Empty Unit Empty .unit .bool := fun _ _ r => pure (r, .ok)
  [.byPointer "Math" "Sum" body, .byValue "Math" "Sum" body, .exclusive "Math" "Sum" body,
    .declared "Math" "Sum" ⟨.shared, [], []⟩, .byPointer "Math" "Sum" body { client := "()" }]

-- The second one stays: it is the last that is served.
example : ((ofCandidates namesakes).find? "Sum").map (·.implementation.passing) = some .value := by
  decide +kernel

end Catalog

end Switchboard
