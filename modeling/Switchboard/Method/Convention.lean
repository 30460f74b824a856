import Switchboard.Method.Candidate

/-!
# The calling convention

A candidate can be called if it is exported, takes exactly receiver, token, client, argument and
reply, gives exactly the result type, and has a body. The argument and reply types must be visible
to foreign decoders, and the reply must be a pointer, so that the method can write it.

`Candidate.exclusion?` is the first rule that a candidate breaks; `Candidate.Conforms` says directly
what conforming means.

Results: `exclusion?_eq_none_iff` (no rule is broken exactly when the candidate conforms).
-/

namespace Switchboard.Candidate

variable {ι σ κ : Type} [MessageFamily ι]

/-- The first rule of the calling convention that a candidate breaks. -/
def exclusion? (c : Candidate ι σ κ) : Option Exclusion :=
  if !TypeName.isExported c.name then some (.notExported c.name)
  else match c.inputs with
    | [_, context, client, argument, reply] =>
      if !context.isSame contextType then some (.contextType c.name context.name)
      else if !client.isSame clientType then some (.clientType c.name client.name)
      else if !argument.isVisible then some (.argNotExported c.name argument.name)
      else if reply.shape ≠ .pointer then some (.replyNotPointer c.name reply.name)
      else if !reply.isVisible then some (.replyNotExported c.name reply.name)
      else match c.outputs with
        | [result] =>
          if !result.isSame resultType then some (.resultType c.name result.name)
          else if c.implementation?.isNone then some (.notImplemented c.name)
          else none
        | outputs => some (.resultCount c.name outputs.length)
    | inputs => some (.paramCount c.name inputs.length)

/-- What the calling convention asks of a candidate. -/
structure Conforms (c : Candidate ι σ κ) : Prop where
  exported : TypeName.isExported c.name = true
  /-- Five parameters and one result, each fit for its part. -/
  types : ∃ receiver context client argument reply result,
    c.inputs = [receiver, context, client, argument, reply] ∧ c.outputs = [result] ∧
      context.name = contextType.name ∧ client.name = clientType.name ∧
      argument.isVisible = true ∧ reply.isVisible = true ∧ reply.shape = .pointer ∧
      result.name = resultType.name
  written : c.implementation?.isSome = true

/-- A chain of rules finds nothing exactly when its first rule is kept and the rest finds nothing. -/
theorem guard_eq_none_iff {α : Type} {p : Prop} [Decidable p] {a : α} {b : Option α} :
    (if p then some a else b) = none ↔ ¬p ∧ b = none := by
  by_cases h : p <;> simp [h]

/-- A candidate conforms exactly when it breaks no rule. -/
theorem exclusion?_eq_none_iff {c : Candidate ι σ κ} : c.exclusion? = none ↔ c.Conforms := by
  constructor
  · intro h
    unfold exclusion? at h
    rw [guard_eq_none_iff] at h
    obtain ⟨hexp, h⟩ := h
    split at h
    · rename_i receiver context client argument reply hin
      simp only [guard_eq_none_iff] at h
      obtain ⟨h1, h2, h3, h4, h5, h⟩ := h
      split at h
      · rename_i result hout
        simp only [guard_eq_none_iff] at h
        obtain ⟨h6, h7, -⟩ := h
        refine ⟨by simpa using hexp, ⟨receiver, context, client, argument, reply, result, hin,
          hout, ?_⟩, ?_⟩
        · simp_all [TypeInfo.isSame]
        · simpa [Option.isSome_iff_ne_none] using h7
      · cases h
    · cases h
  · rintro ⟨hexp, ⟨receiver, context, client, argument, reply, result, hin, hout, h⟩, hw⟩
    obtain ⟨h1, h2, h3, h4, h5, h6⟩ := h
    have hw' : c.implementation?.isNone = false := by
      cases hi : c.implementation? <;> simp_all
    simp [exclusion?, TypeInfo.isSame, hexp, hin, hout, h1, h2, h3, h4, h5, h6, hw']

end Switchboard.Candidate
