/-!
# Addresses

A request names what it wants as `Service.Method`. Service names may contain dots, method names in
an address may not: the text is split at its last dot.

* `Address.parse` splits a text, `Address.text` writes the address back.
* `AddressError` has one constructor for each way an address can fail to lead to a method.

Results: `splitLast_append` and `eq_of_splitLast` (splitting inverts joining exactly when the last
part has no separator), `parse_eq_ok_iff`, `parse_eq_error_iff`.
-/

namespace Switchboard

/-- Splits at the last `sep`; nothing if there is none. -/
def splitLast (sep : Char) : List Char → Option (List Char × List Char)
  | [] => none
  | c :: cs =>
    match splitLast sep cs with
    | some (l, r) => some (c :: l, r)
    | none => if c = sep then some ([], cs) else none

/-- Only a text without the separator cannot be split. -/
theorem splitLast_eq_none_iff {sep : Char} {cs : List Char} :
    splitLast sep cs = none ↔ sep ∉ cs := by
  induction cs with
  | nil => simp [splitLast]
  | cons c cs ih =>
    unfold splitLast
    cases h : splitLast sep cs with
    | some p =>
      have : sep ∈ cs := by
        rcases Decidable.em (sep ∈ cs) with h' | h'
        · exact h'
        · rw [ih.2 h'] at h; cases h
      simp [this]
    | none =>
      have hn := ih.1 h
      by_cases hc : c = sep
      · simp [hc]
      · simp [hc, hn, Ne.symm hc]

/-- A separator followed by a text without it is where the split falls. -/
theorem splitLast_append {sep : Char} (l : List Char) {r : List Char} (h : sep ∉ r) :
    splitLast sep (l ++ sep :: r) = some (l, r) := by
  induction l with
  | nil => simp [splitLast, splitLast_eq_none_iff.2 h]
  | cons c l ih => simp [splitLast, ih]

/-- The two parts of a split, joined again, are the text; the last part is free of the separator. -/
theorem eq_of_splitLast {sep : Char} {cs l r : List Char} (h : splitLast sep cs = some (l, r)) :
    cs = l ++ sep :: r ∧ sep ∉ r := by
  induction cs generalizing l with
  | nil => simp [splitLast] at h
  | cons c cs ih =>
    unfold splitLast at h
    cases hs : splitLast sep cs with
    | some p =>
      rw [hs] at h
      obtain ⟨l', r'⟩ := p
      simp only [Option.some.injEq, Prod.mk.injEq] at h
      obtain ⟨rfl, rfl⟩ := h
      obtain ⟨rfl, hr⟩ := ih hs
      exact ⟨rfl, hr⟩
    | none =>
      rw [hs] at h
      by_cases hc : c = sep
      · simp only [hc, ↓reduceIte, Option.some.injEq, Prod.mk.injEq] at h
        obtain ⟨rfl, rfl⟩ := h
        exact ⟨by simp [hc], splitLast_eq_none_iff.1 hs⟩
      · simp [hc] at h

/-- Why an address leads to no method. Each cause carries the address as it was written. -/
inductive AddressError where
  /-- The address has no dot. -/
  | illFormed (address : String)
  /-- No such service. -/
  | unknownService (address : String)
  /-- The service has no such method. -/
  | unknownMethod (address : String)
  deriving DecidableEq, Repr

/-- The text of an address error. -/
def AddressError.message : AddressError → String
  | .illFormed a => "rpc: service/method request ill-formed: " ++ a
  | .unknownService a => "rpc: can't find service " ++ a
  | .unknownMethod a => "rpc: can't find method " ++ a

/-- A service name and a method name. -/
structure Address where
  service : String
  method : String
  deriving DecidableEq, Repr

/-- The address as a request writes it. -/
def Address.text (a : Address) : String := a.service ++ "." ++ a.method

/-- Splits an address at its last dot. -/
def Address.parse (text : String) : Except AddressError Address :=
  match splitLast '.' text.toList with
  | some (service, method) => .ok ⟨String.ofList service, String.ofList method⟩
  | none => .error (.illFormed text)

/-- An address parses to `a` exactly when it is `a` written out and the method has no dot. -/
theorem Address.parse_eq_ok_iff {text : String} {a : Address} :
    Address.parse text = .ok a ↔ text = a.text ∧ '.' ∉ a.method.toList := by
  unfold Address.parse Address.text
  constructor
  · intro h
    split at h
    · rename_i l r hs
      obtain ⟨ht, hr⟩ := eq_of_splitLast hs
      cases h
      refine ⟨?_, by simpa using hr⟩
      apply String.ext
      simpa using ht
    · cases h
  · rintro ⟨rfl, hm⟩
    have : (a.service ++ "." ++ a.method).toList = a.service.toList ++ '.' :: a.method.toList := by
      simp
    rw [this, splitLast_append _ hm]
    simp

/-- An address is ill-formed exactly when it has no dot. -/
theorem Address.parse_eq_error_iff {text : String} {e : AddressError} :
    Address.parse text = .error e ↔ e = .illFormed text ∧ '.' ∉ text.toList := by
  unfold Address.parse
  rw [← splitLast_eq_none_iff]
  cases h : splitLast '.' text.toList <;> simp [eq_comm]

end Switchboard
