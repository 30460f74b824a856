import Switchboard.Text.Uppercase
import Switchboard.Text.Alphabetic
import Switchboard.Text.Numeric
import Switchboard.Text.Extending
import Switchboard.Text.Ignorable
import Switchboard.Text.Unprintable

/-!
# Character classes

Membership in the ascending range tables, which are those of Unicode 17, and the classes the program
asks for:

* `isUpper`: what an exported name starts with;
* `isAlphabetic`, `isAlphanumeric`: what identifiers are made of;
* `isPrintable`, `isIgnorable`, `isExtending`: what quoted text shows as it stands.

Results: `inRanges_iff` (the early exit of `inRanges` loses nothing on ascending ranges).
-/

namespace Switchboard.Text

/-- Whether `n` lies in one of the ranges `rs`. The ranges are ascending, so the search stops at the
first one that starts beyond `n`. -/
def inRanges : List (Nat × Nat) → Nat → Bool
  | [], _ => false
  | (lo, hi) :: rs, n => if n < lo then false else decide (n ≤ hi) || inRanges rs n

/-- Each range starts beyond the end of the one before it. -/
def Ascending : List (Nat × Nat) → Prop
  | [] => True
  | [_] => True
  | (_, hi) :: (lo', hi') :: rs => hi < lo' ∧ lo' ≤ hi' ∧ Ascending ((lo', hi') :: rs)

/-- No range of an ascending list starts before its first one. -/
theorem Ascending.le_fst {lo hi : Nat} {rs : List (Nat × Nat)}
    (h : Ascending ((lo, hi) :: rs)) (hle : lo ≤ hi) : ∀ r ∈ rs, lo < r.1 := by
  induction rs generalizing lo hi with
  | nil => simp
  | cons r rs ih =>
    obtain ⟨lo', hi'⟩ := r
    obtain ⟨h1, h2, h3⟩ := h
    intro s hs
    rcases List.mem_cons.1 hs with rfl | hs
    · exact Nat.lt_of_le_of_lt hle h1
    · exact Nat.lt_trans (Nat.lt_of_le_of_lt hle h1) (ih h3 h2 s hs)

/-- On ascending ranges the search finds a range exactly when there is one. -/
theorem inRanges_iff {lo hi : Nat} {rs : List (Nat × Nat)} (h : Ascending ((lo, hi) :: rs))
    (hle : lo ≤ hi) (n : Nat) :
    inRanges ((lo, hi) :: rs) n = true ↔ ∃ r ∈ (lo, hi) :: rs, r.1 ≤ n ∧ n ≤ r.2 := by
  induction rs generalizing lo hi with
  | nil =>
    by_cases hn : n < lo
    · have below : ¬lo ≤ n := by omega
      simp [inRanges, hn, below]
    · have above : lo ≤ n := by omega
      simp [inRanges, hn, above]
  | cons r rs ih =>
    obtain ⟨lo', hi'⟩ := r
    obtain ⟨h1, h2, h3⟩ := h
    rw [inRanges]
    split
    · rename_i hn
      constructor
      · simp
      · rintro ⟨s, hs, hs1, _⟩
        rcases List.mem_cons.1 hs with rfl | hs
        · exact absurd hs1 (by omega)
        · have := (show Ascending ((lo, hi) :: (lo', hi') :: rs) from ⟨h1, h2, h3⟩).le_fst hle s hs
          omega
    · rename_i hn
      rw [Bool.or_eq_true, ih h3 h2, decide_eq_true_iff]
      constructor
      · rintro (hle' | ⟨s, hs, hs'⟩)
        · exact ⟨(lo, hi), List.mem_cons_self .., by omega, hle'⟩
        · exact ⟨s, List.mem_cons_of_mem _ hs, hs'⟩
      · rintro ⟨s, hs, hs1, hs2⟩
        rcases List.mem_cons.1 hs with rfl | hs
        · exact Or.inl hs2
        · exact Or.inr ⟨s, hs, hs1, hs2⟩

/-- A character with the property Uppercase. -/
def isUpper (c : Char) : Bool := inRanges uppercaseRanges c.toNat

/-- A character with the property Alphabetic. -/
def isAlphabetic (c : Char) : Bool := inRanges alphabeticRanges c.toNat

/-- A character that is alphabetic or stands for a number. -/
def isAlphanumeric (c : Char) : Bool := isAlphabetic c || inRanges numericRanges c.toNat

/-- A character that attaches to the one before it. -/
def isExtending (c : Char) : Bool := inRanges extendingRanges c.toNat

/-- A character that takes up no room unless a renderer knows it. -/
def isIgnorable (c : Char) : Bool := inRanges ignorableRanges c.toNat

/-- A character other than controls, separators and code points without a character. -/
def isPrintable (c : Char) : Bool := !inRanges unprintableRanges c.toNat

end Switchboard.Text
