/-!
# Maps with ordered keys

A `KeyMap` lists its entries in strictly ascending order of their keys, so two maps with the same
entries are equal and are written the same. The order is part of the type: `insert` keeps it.

Results: `lookup_insert` (what a map holds after an insertion).
-/

namespace Switchboard

/-- Keys with a strict linear order. -/
class Key (κ : Type) where
  lt : κ → κ → Bool
  irrefl : ∀ a, lt a a = false
  trans : ∀ a b c, lt a b = true → lt b c = true → lt a c = true
  total : ∀ a b, lt a b = false → lt b a = false → a = b

instance : Key UInt32 where
  lt a b := decide (a < b)
  irrefl a := by simp
  trans a b c hab hbc := by
    simp only [decide_eq_true_eq, UInt32.lt_iff_toNat_lt] at *
    omega
  total a b hab hba := by
    simp only [decide_eq_false_iff_not, UInt32.lt_iff_toNat_lt] at *
    exact UInt32.toNat_inj.1 (by omega)

instance : Key String where
  lt a b := decide (a < b)
  irrefl a := by simp
  trans a b c hab hbc := by
    simp only [decide_eq_true_eq] at *
    exact String.lt_trans hab hbc
  total a b hab hba := by
    simp only [decide_eq_false_iff_not, String.not_lt] at *
    exact String.le_antisymm hba hab

/-- A map whose entries are listed in ascending order of their keys. -/
structure KeyMap (κ ν : Type) [Key κ] where
  entries : List (κ × ν)
  ascending : entries.Pairwise fun a b => Key.lt a.1 b.1 = true

namespace KeyMap

variable {κ ν : Type} [Key κ]

/-- The map without entries. -/
def empty : KeyMap κ ν := ⟨[], List.Pairwise.nil⟩

/-- Puts an entry where its key belongs; an entry of the same key gives way. -/
def insertEntry (k : κ) (v : ν) : List (κ × ν) → List (κ × ν)
  | [] => [(k, v)]
  | (k', v') :: rest =>
    if Key.lt k k' then (k, v) :: (k', v') :: rest
    else if Key.lt k' k then (k', v') :: insertEntry k v rest
    else (k, v) :: rest

/-- The keys after an insertion are the new one and some of the old. -/
theorem mem_insertEntry {k : κ} {v : ν} {es : List (κ × ν)} {e : κ × ν}
    (h : e ∈ insertEntry k v es) : e = (k, v) ∨ e ∈ es := by
  induction es with
  | nil => simpa [insertEntry] using h
  | cons a es ih =>
    obtain ⟨k', v'⟩ := a
    rw [insertEntry] at h
    split at h
    · simpa using h
    · split at h
      · rcases List.mem_cons.1 h with rfl | h
        · simp
        · rcases ih h with h | h <;> simp [h]
      · rcases List.mem_cons.1 h with rfl | h
        · simp
        · simp [h]

/-- Insertion keeps the keys ascending. -/
theorem pairwise_insertEntry (k : κ) (v : ν) {es : List (κ × ν)}
    (h : es.Pairwise fun a b => Key.lt a.1 b.1 = true) :
    (insertEntry k v es).Pairwise fun a b => Key.lt a.1 b.1 = true := by
  induction es with
  | nil => simp [insertEntry]
  | cons a es ih =>
    obtain ⟨k', v'⟩ := a
    obtain ⟨hhead, htail⟩ := List.pairwise_cons.1 h
    rw [insertEntry]
    split
    · rename_i hlt
      refine List.pairwise_cons.2 ⟨fun e he => ?_, h⟩
      rcases List.mem_cons.1 he with rfl | he
      · exact hlt
      · exact Key.trans _ _ _ hlt (hhead e he)
    · rename_i hge
      split
      · rename_i hgt
        refine List.pairwise_cons.2 ⟨fun e he => ?_, ih htail⟩
        rcases mem_insertEntry he with rfl | he
        · exact hgt
        · exact hhead e he
      · rename_i hle
        have hk : k = k' := Key.total k k' (by simpa using hge) (by simpa using hle)
        subst hk
        exact List.pairwise_cons.2 ⟨hhead, htail⟩

/-- The map with `k` bound to `v`. -/
def insert (m : KeyMap κ ν) (k : κ) (v : ν) : KeyMap κ ν :=
  ⟨insertEntry k v m.entries, pairwise_insertEntry k v m.ascending⟩

/-- What `k` is bound to. -/
def lookup? (m : KeyMap κ ν) (k : κ) : Option ν :=
  (m.entries.find? fun e => !Key.lt e.1 k && !Key.lt k e.1).map (·.2)

/-- The map that binds the entries of a list one after the other, so the last of a key stays. -/
def ofList (es : List (κ × ν)) : KeyMap κ ν := es.foldl (fun m e => m.insert e.1 e.2) empty

/-- After an insertion the key holds the new value and every other key what it held. -/
theorem lookup_insert (m : KeyMap κ ν) (k k' : κ) (v : ν) :
    (m.insert k v).lookup? k' =
      if !Key.lt k k' && !Key.lt k' k then some v else m.lookup? k' := by
  unfold lookup? insert
  simp only
  generalize m.entries = es
  induction es with
  | nil => by_cases h : (!Key.lt k k' && !Key.lt k' k) = true <;> simp [insertEntry, h]
  | cons a es ih =>
    obtain ⟨k'', v''⟩ := a
    rw [insertEntry]
    split
    · by_cases h : (!Key.lt k k' && !Key.lt k' k) = true <;> simp [List.find?_cons, h]
    · rename_i hge
      split
      · rename_i hgt
        by_cases h : (!Key.lt k'' k' && !Key.lt k' k'') = true
        · have hne : ¬(!Key.lt k k' && !Key.lt k' k) = true := by
            intro h'
            simp only [Bool.and_eq_true, Bool.not_eq_true'] at h h'
            have h1 := Key.total _ _ h.1 h.2
            have h2 := Key.total _ _ h'.1 h'.2
            rw [h1, h2, Key.irrefl] at hgt
            cases hgt
          simp [h, hne]
        · simp only [List.find?_cons, h]
          exact ih
      · rename_i hle
        have hk : k = k'' := Key.total k k'' (by simpa using hge) (by simpa using hle)
        subst hk
        by_cases h : (!Key.lt k k' && !Key.lt k' k) = true <;> simp [h]

end KeyMap

end Switchboard
