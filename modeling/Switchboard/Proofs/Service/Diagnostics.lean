import Switchboard.Proofs.Service.Building

/-!
# What is reported of what is left out

A candidate is left out of the catalog because it breaks a rule of the calling convention or because
it needs the receiver for itself alone. `Rule` lists the rules in the order in which they are
checked, each by itself; `Candidate.exclusion?` reports the first that is broken.

`Diagnosed due cs log` says what a complete report is: the log has one entry for each candidate that
is due, in the order of the list, with the first rule that it breaks, and no other entry. The report
is complete for the candidates that break a rule. A candidate that keeps them all and needs the
receiver for itself alone is left out too, and of that nothing is said.

Results:

* `Candidate.exclusion?_eq_findSome?`: what is found is the first broken rule.
* `Catalog.diagnosed_rules`: whoever is exported and breaks a rule is reported, and nobody else.
* `Server.warnings_register`: registering warns of just that, if the receiver has a name at all.
* `Receiver.diagnosed_iff`: the report covers whatever the catalog leaves out if and only if every
  candidate that conforms shares the receiver.
-/

namespace Switchboard

variable {ι σ κ : Type} [MessageFamily ι]

/-! ## The rules, one by one -/

/-- The rules of the calling convention. -/
inductive Rule where
  | name
  | parameters
  | context
  | client
  | argument
  | replyPointer
  | reply
  | results
  | result
  | body
  deriving DecidableEq, Repr

namespace Rule

/-- The rules in the order in which they are checked. -/
def all : List Rule :=
  [name, parameters, context, client, argument, replyPointer, reply, results, result, body]

/-- What a type has to be, in the place of a list that it stands in. -/
def typeAt (types : List TypeInfo) (place : Nat) (fit : TypeInfo → Bool)
    (reason : String → Exclusion) : Option Exclusion :=
  (types[place]?).bind fun t => if fit t then none else some (reason t.name)

/-- How a candidate breaks a rule, whatever it does to the others. A rule about a parameter that
is not there is kept. -/
def broken? (c : Candidate ι σ κ) : Rule → Option Exclusion
  | name => if TypeName.isExported c.name then none else some (.notExported c.name)
  | parameters =>
    if c.inputs.length = 5 then none else some (.paramCount c.name c.inputs.length)
  | context => typeAt c.inputs 1 (·.isSame contextType) (.contextType c.name)
  | client => typeAt c.inputs 2 (·.isSame clientType) (.clientType c.name)
  | argument => typeAt c.inputs 3 (·.isVisible) (.argNotExported c.name)
  | replyPointer => typeAt c.inputs 4 (·.shape = .pointer) (.replyNotPointer c.name)
  | reply => typeAt c.inputs 4 (·.isVisible) (.replyNotExported c.name)
  | results => if c.outputs.length = 1 then none else some (.resultCount c.name c.outputs.length)
  | result => typeAt c.outputs 0 (·.isSame resultType) (.resultType c.name)
  | body => if c.implementation?.isSome then none else some (.notImplemented c.name)

end Rule

/-- The method that a reason is about. -/
def Exclusion.method : Exclusion → String
  | notExported m => m
  | paramCount m _ => m
  | contextType m _ => m
  | clientType m _ => m
  | argNotExported m _ => m
  | replyNotPointer m _ => m
  | replyNotExported m _ => m
  | resultCount m _ => m
  | resultType m _ => m
  | notImplemented m => m

namespace Rule

variable {c : Candidate ι σ κ} {reason : Exclusion}

theorem exists_of_typeAt {types : List TypeInfo} {place : Nat} {fit : TypeInfo → Bool}
    {reasonFor : String → Exclusion} (h : typeAt types place fit reasonFor = some reason) :
    ∃ t ∈ types, fit t = false ∧ reason = reasonFor t.name := by
  obtain ⟨t, ht, hfit⟩ := Option.bind_eq_some_iff.1 h
  refine ⟨t, List.mem_of_getElem? ht, ?_⟩
  cases hcase : fit t with
  | true =>
    rw [hcase] at hfit
    cases hfit
  | false =>
    rw [hcase] at hfit
    cases hfit
    exact ⟨rfl, rfl⟩

theorem typeAt_eq {types : List TypeInfo} {place : Nat} {t : TypeInfo} (h : types[place]? = some t)
    (fit : TypeInfo → Bool) (reasonFor : String → Exclusion) :
    typeAt types place fit reasonFor = if fit t then none else some (reasonFor t.name) := by
  unfold typeAt
  rw [h]
  rfl

/-- A reason is about the candidate that breaks the rule, and it is reported unless the rule is that
names are exported. -/
theorem of_broken? {rule : Rule} (h : rule.broken? c = some reason) :
    reason.method = c.name ∧ (reason.isReported = true ↔ rule ≠ .name) := by
  cases rule with
  | name | parameters | results | body =>
    unfold broken? at h
    dsimp only at h
    split at h
    · cases h
    · cases h
      simp [Exclusion.method, Exclusion.isReported]
  | context | client | argument | replyPointer | reply | result =>
    obtain ⟨t, -, -, rfl⟩ := exists_of_typeAt h
    simp [Exclusion.method, Exclusion.isReported]

/-! Checking rule after rule: the next rule is looked at, and the rest if it is kept. -/

variable {f : Rule → Option Exclusion} {rule : Rule} {rules : List Rule} {rest : Option Exclusion}

theorem check_eq {kept broken : Prop} [Decidable kept] [Decidable broken]
    (hrule : f rule = if kept then none else some reason) (hbroken : broken ↔ ¬kept)
    (hrest : rest = rules.findSome? f) :
    (if broken then some reason else rest) = (rule :: rules).findSome? f := by
  rw [List.findSome?_cons, hrule, hrest]
  by_cases h : kept <;> simp [h, hbroken]

theorem kept_eq (hrule : f rule = none) (hrest : rest = rules.findSome? f) :
    rest = (rule :: rules).findSome? f := by
  rw [List.findSome?_cons, hrule, hrest]

theorem broken_eq (hrule : f rule = some reason) : some reason = (rule :: rules).findSome? f := by
  rw [List.findSome?_cons, hrule]

end Rule

namespace Candidate

variable {c : Candidate ι σ κ} {reason : Exclusion}

/-- **What is found is the first broken rule.** -/
theorem exclusion?_eq_findSome? (c : Candidate ι σ κ) :
    c.exclusion? = Rule.all.findSome? (·.broken? c) := by
  unfold exclusion? Rule.all
  refine Rule.check_eq rfl (by simp) ?_
  split
  · next receiver context client argument reply hin =>
    -- Each parameter is in the place in which its rule looks for it.
    have place {i : Nat} {t : TypeInfo}
        (h : [receiver, context, client, argument, reply][i]? = some t)
        (fit : TypeInfo → Bool) (reasonFor : String → Exclusion) :
        Rule.typeAt c.inputs i fit reasonFor = if fit t then none else some (reasonFor t.name) :=
      Rule.typeAt_eq (hin ▸ h) fit reasonFor
    refine Rule.kept_eq (if_pos (by rw [hin]; rfl)) ?_
    refine Rule.check_eq (place rfl _ _) (by simp) ?_
    refine Rule.check_eq (place rfl _ _) (by simp) ?_
    refine Rule.check_eq (place rfl _ _) (by simp) ?_
    refine Rule.check_eq (place rfl _ _) (by simp) ?_
    refine Rule.check_eq (place rfl _ _) (by simp) ?_
    split
    · next result hout =>
      refine Rule.kept_eq (if_pos (by rw [hout]; rfl)) ?_
      refine Rule.check_eq (Rule.typeAt_eq (by rw [hout]; rfl) _ _) (by simp) ?_
      exact Rule.check_eq rfl (by simp) rfl
    · next hother =>
      have hlength : c.outputs.length ≠ 1 := by
        intro h
        obtain ⟨result, hout⟩ := List.length_eq_one_iff.1 h
        exact hother result hout
      exact Rule.broken_eq (if_neg hlength)
  · next hother =>
    have hlength : c.inputs.length ≠ 5 := by
      intro h
      match hin : c.inputs, h with
      | [_, _, _, _, _], _ => exact hother _ _ _ _ _ hin
    exact Rule.broken_eq (if_neg hlength)

/-- The reason is how the candidate breaks a rule, and it keeps the rules before that. -/
def BreaksFirst (c : Candidate ι σ κ) (reason : Exclusion) : Prop :=
  ∃ earlier rule later, Rule.all = earlier ++ rule :: later ∧
    rule.broken? c = some reason ∧ ∀ r ∈ earlier, r.broken? c = none

theorem exclusion?_eq_some_iff : c.exclusion? = some reason ↔ c.BreaksFirst reason := by
  rw [exclusion?_eq_findSome?, List.findSome?_eq_some_iff]
  rfl

/-- The reason for which a candidate is left out names it. -/
theorem method_of_exclusion? (h : c.exclusion? = some reason) : reason.method = c.name := by
  obtain ⟨_, _, _, _, hrule, _⟩ := exclusion?_eq_some_iff.1 h
  exact (Rule.of_broken? hrule).1

/-- The candidate has a name that starts with an uppercase character. -/
def IsOffered (c : Candidate ι σ κ) : Prop :=
  ∃ first rest, c.name.toList = first :: rest ∧ Text.isUpper first = true

/-- Of a candidate that breaks a rule, the reason is reported exactly if it is offered: that is the
first of the rules. -/
theorem isReported_iff (h : c.exclusion? = some reason) :
    reason.isReported = true ↔ c.IsOffered := by
  unfold IsOffered
  rw [← TypeName.isExported_iff]
  cases hname : TypeName.isExported c.name with
  | false =>
    unfold exclusion? at h
    rw [hname] at h
    cases h
    simp [Exclusion.isReported]
  | true =>
    obtain ⟨_, rule, _, _, hrule, _⟩ := exclusion?_eq_some_iff.1 h
    have hother : rule ≠ .name := by
      rintro rfl
      rw [Rule.broken?, hname] at hrule
      cases hrule
    simp [(Rule.of_broken? hrule).2, hother]

/-- The reason is one for which the catalog can leave the candidate out: it names the candidate,
and if some rule is broken, it is how the first of these is. -/
structure IsLeftOutFor (c : Candidate ι σ κ) (reason : Exclusion) : Prop where
  method : reason.method = c.name
  first : ¬c.Conforms → c.BreaksFirst reason

end Candidate

/-! ## Complete reports -/

/-- The log has one entry for each of the candidates that are due, in their order, and no other. -/
inductive Diagnosed (due : Candidate ι σ κ → Prop) : List (Candidate ι σ κ) → List Event → Prop
  | nil : Diagnosed due [] []
  | silent {c cs log} (skipped : ¬due c) (rest : Diagnosed due cs log) : Diagnosed due (c :: cs) log
  | reported {c cs log reason} (left : due c) (names : c.IsLeftOutFor reason)
    (rest : Diagnosed due cs log) : Diagnosed due (c :: cs) (.excluded reason :: log)

namespace Catalog

theorem diagnostics_cons (c : Candidate ι σ κ) (cs : List (Candidate ι σ κ)) :
    diagnostics (c :: cs) = ((c.exclusion?.filter (·.isReported)).map Event.excluded).toList ++
      diagnostics cs := by
  unfold diagnostics
  cases h : c.exclusion? with
  | none => simp [h]
  | some reason => cases hr : reason.isReported <;> simp [h, hr, Option.filter]

/-- **Whoever is offered and breaks a rule is reported**, and nobody else. -/
theorem diagnosed_rules (cs : List (Candidate ι σ κ)) :
    Diagnosed (fun c => c.IsOffered ∧ ¬c.Conforms) cs (diagnostics cs) := by
  induction cs with
  | nil => exact .nil
  | cons c cs ih =>
    rw [diagnostics_cons]
    cases h : c.exclusion? with
    | none =>
      refine .silent ?_ ih
      rintro ⟨-, broken⟩
      exact broken (Candidate.exclusion?_eq_none_iff.1 h)
    | some reason =>
      have broken : ¬c.Conforms := by
        rw [← Candidate.exclusion?_eq_none_iff, h]
        simp
      by_cases offered : c.IsOffered
      · have reported := (Candidate.isReported_iff h).2 offered
        simp only [Option.filter_some, reported, if_true, Option.map_some, Option.toList_some,
          List.singleton_append]
        refine .reported ⟨offered, broken⟩ ⟨Candidate.method_of_exclusion? h, fun _ => ?_⟩ ih
        exact Candidate.exclusion?_eq_some_iff.1 h
      · have unreported : reason.isReported = false := by
          rw [← Bool.not_eq_true, Candidate.isReported_iff h]
          exact offered
        simp only [Option.filter_some, unreported]
        exact .silent (fun left => offered left.1) ih

end Catalog

namespace Diagnosed

variable {due due' : Candidate ι σ κ → Prop} {cs : List (Candidate ι σ κ)} {log log' : List Event}

theorem congr (h : Diagnosed due cs log) (same : ∀ c ∈ cs, due c ↔ due' c) :
    Diagnosed due' cs log := by
  induction h with
  | nil => exact .nil
  | @silent c cs log skipped _ ih =>
    exact .silent (mt (same c List.mem_cons_self).2 skipped)
      (ih fun d hd => same d (List.mem_cons_of_mem c hd))
  | @reported c cs log reason left names _ ih =>
    exact .reported ((same c List.mem_cons_self).1 left) names
      (ih fun d hd => same d (List.mem_cons_of_mem c hd))

/-- Where more is due, the log is longer, unless nothing more is. -/
theorem length_le (h : Diagnosed due cs log) (h' : Diagnosed due' cs log')
    (wider : ∀ c ∈ cs, due c → due' c) :
    log.length ≤ log'.length ∧
      (log.length = log'.length → ∀ c ∈ cs, due' c → due c) := by
  induction h generalizing log' with
  | nil =>
    cases h'
    exact ⟨Nat.le_refl _, fun _ c hc => absurd hc List.not_mem_nil⟩
  | @silent c cs log skipped _ ih =>
    cases h' with
    | silent skipped' rest' =>
      obtain ⟨hle, hsame⟩ := ih rest' fun d hd => wider d (List.mem_cons_of_mem c hd)
      exact ⟨hle, fun hlength => List.forall_mem_cons.2
        ⟨fun left => absurd left skipped', hsame hlength⟩⟩
    | reported left' names' rest' =>
      obtain ⟨hle, -⟩ := ih rest' fun d hd => wider d (List.mem_cons_of_mem c hd)
      simp only [List.length_cons]
      exact ⟨by omega, fun hlength => by omega⟩
  | @reported c cs log reason left names _ ih =>
    cases h' with
    | silent skipped' rest' => exact absurd (wider c List.mem_cons_self left) skipped'
    | reported left' names' rest' =>
      obtain ⟨hle, hsame⟩ := ih rest' fun d hd => wider d (List.mem_cons_of_mem c hd)
      simp only [List.length_cons]
      exact ⟨by omega, fun hlength => List.forall_mem_cons.2 ⟨fun _ => left, hsame (by omega)⟩⟩

end Diagnosed

/-! ## What the catalog leaves out -/

namespace Catalog

variable {cs : List (Candidate ι σ κ)}

/-- A report of whatever is left out is one of the broken rules, so nothing else is left out. -/
theorem shared_of_diagnosed
    (h : Diagnosed (fun c => c.IsOffered ∧ ∀ i, ¬c.IsServed i) cs (diagnostics cs)) :
    ∀ c ∈ cs, c.Conforms → c.kind = .shared := by
  have narrower : ∀ c ∈ cs, c.IsOffered ∧ ¬c.Conforms → c.IsOffered ∧ ∀ i, ¬c.IsServed i := by
    rintro c - ⟨offered, broken⟩
    exact ⟨offered, fun i served => broken served.conforms⟩
  obtain ⟨-, hsame⟩ := (diagnosed_rules cs).length_le h narrower
  intro c hc conforms
  cases hkind : c.kind with
  | shared => rfl
  | exclusive =>
    have offered : c.IsOffered := TypeName.isExported_iff.1 conforms.exported
    have unserved : ∀ i, ¬c.IsServed i := by
      intro i served
      rw [served.shared] at hkind
      cases hkind
    exact absurd conforms (hsame rfl c hc ⟨offered, unserved⟩).2

theorem diagnosed_of_shared (shared : ∀ c ∈ cs, c.Conforms → c.kind = .shared) :
    Diagnosed (fun c => c.IsOffered ∧ ∀ i, ¬c.IsServed i) cs (diagnostics cs) := by
  refine (diagnosed_rules cs).congr fun c hc => and_congr_right fun _ => ?_
  rw [← not_exists, Candidate.exists_isServed_iff]
  exact not_congr ⟨fun conforms => ⟨conforms, shared c hc conforms⟩, And.left⟩

end Catalog

/-- Registering logs what building the service does. -/
theorem Server.log_register (s : Server ι σ κ) (r : Receiver ι σ κ) (name? : Option String) :
    (s.register r name?).1 = (Service.build r name? s.config.reportInvalidMethods).1 := by
  unfold register
  split
  · next hbuild => rw [hbuild]
  · next hbuild =>
    rw [hbuild]
    split <;> rfl

/-- Every report is a warning. -/
theorem Catalog.filter_diagnostics (cs : List (Candidate ι σ κ)) :
    (diagnostics cs).filter (·.level = .warn) = diagnostics cs := by
  refine List.filter_eq_self.2 fun e he => ?_
  obtain ⟨reason, -, rfl⟩ := List.mem_map.1 he
  rfl

/-- Registering warns of what the catalog reports, once the receiver has a name. -/
theorem Server.warnings_register (s : Server ι σ κ) (r : Receiver ι σ κ) (name? : Option String) :
    (s.register r name?).1.filter (·.level = .warn) =
      match r.nameFor name? with
      | .ok _ => if s.config.reportInvalidMethods then Catalog.diagnostics r.candidates else []
      | .error _ => [] := by
  rw [log_register]
  unfold Service.build Receiver.nameFor
  dsimp only
  split
  · rfl
  split
  · rfl
  cases s.config.reportInvalidMethods with
  | false => split <;> rfl
  | true =>
    simp only [if_true]
    split
    · exact Catalog.filter_diagnostics _
    · rw [List.filter_append, Catalog.filter_diagnostics]
      exact List.append_nil _

/-- **The report covers what the catalog leaves out if and only if whatever conforms shares the
receiver.** -/
theorem Receiver.diagnosed_iff (r : Receiver ι σ κ) :
    (Catalog.collect false r.candidates).1 = [] ∧
    Diagnosed (fun c => c.IsOffered ∧ ¬c.Conforms) r.candidates
      (Catalog.collect true r.candidates).1 ∧
    (Diagnosed (fun c => c.IsOffered ∧ ∀ i, ¬c.IsServed i) r.candidates
        (Catalog.collect true r.candidates).1 ↔
      ∀ c ∈ r.candidates, c.Conforms → c.kind = .shared) ∧
    ∀ (s : Server ι σ κ) (name? : Option String),
      (s.register r name?).1.filter (·.level = .warn) =
        match r.nameFor name? with
        | .ok _ => (Catalog.collect s.config.reportInvalidMethods r.candidates).1
        | .error _ => [] := by
  simp only [Catalog.collect_eq]
  exact ⟨rfl, Catalog.diagnosed_rules _,
    ⟨Catalog.shared_of_diagnosed, Catalog.diagnosed_of_shared⟩,
    fun s name? => s.warnings_register r name?⟩

/-- A receiver with a method that shares it and one that needs it for itself alone. -/
def Receiver.meter : Receiver Empty Nat Empty where
  typeName := "app::Meter"
  candidates :=
    [.byPointer "app::Meter" "Read"
      (fun _ _ r => .act (.receiver id) fun _ => pure (r, .ok) : Body Empty Nat Empty .unit .bool),
     .exclusive "app::Meter" "Reset"
      (fun _ _ r => .act (.receiver fun _ => 0) fun _ => pure (r, .ok) :
        Body Empty Nat Empty .unit .bool)]
  initial := 0

/-- The second is left out, and the report says nothing. -/
theorem Receiver.not_diagnosed_meter :
    (Catalog.collect true meter.candidates).2.names = ["Read"] ∧
      (Catalog.collect true meter.candidates).1 = [] ∧
      ¬Diagnosed (fun c => c.IsOffered ∧ ∀ i, ¬c.IsServed i) meter.candidates
        (Catalog.collect true meter.candidates).1 := by
  simp only [Catalog.collect_eq, if_true]
  refine ⟨by decide +kernel, by decide +kernel, fun h => ?_⟩
  have shared := Catalog.shared_of_diagnosed h
  have conforms : (meter.candidates[1]).Conforms :=
    Candidate.exclusion?_eq_none_iff.1 (by decide +kernel)
  cases shared _ (List.getElem_mem _) conforms

end Switchboard
