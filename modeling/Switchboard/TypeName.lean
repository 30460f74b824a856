import Switchboard.Text.Classes

/-!
# Type names

What the catalog reads off the full name of a type, such as `app::math::Table<u32>`:

* `declaredName`: the identifier the type was declared under (`Table`), empty for types without one;
* `pointee`: the type that references and owning pointers lead to;
* `isVisible`: whether a foreign decoder can see values of the type.

A name is *exported* when it starts with an uppercase character. All of this works on the text of
the name alone. Names are lists of characters here; `TypeName.declared` and `TypeName.visible` are
the same on strings.
-/

namespace Switchboard.TypeName

open Switchboard.Text

/-- Whether a name starts with an uppercase character. -/
def isExportedChars : List Char → Bool
  | [] => false
  | c :: _ => isUpper c

/-- Everything before the first `<`. -/
def stripGenerics (s : List Char) : List Char := s.takeWhile (· ≠ '<')

/-- Tuples, arrays, slices, references, raw pointers and dynamic types have no declared name. -/
def isAnonymous (s : List Char) : Bool :=
  (match s with
    | [] => false
    | c :: _ => c = '(' || c = '[' || c = '&' || c = '*')
  || "dyn ".toList.isPrefixOf s

/-- What follows the last `::`, if there is one. -/
def afterLastSeparator? : List Char → Option (List Char)
  | [] => none
  | c :: cs =>
    match afterLastSeparator? cs with
    | some r => some r
    | none =>
      match c, cs with
      | ':', ':' :: r => some r
      | _, _ => none

/-- The last segment of a path. -/
def lastSegment (s : List Char) : List Char := (afterLastSeparator? s).getD s

/-- The first segment of a path of at least two. -/
def rootSegment? : List Char → Option (List Char)
  | [] => none
  | ':' :: ':' :: _ => some []
  | c :: cs => (rootSegment? cs).map (c :: ·)

/-- A character that may stand anywhere in an identifier. -/
def isIdentChar (c : Char) : Bool := isAlphanumeric c || c = '_'

/-- A character that may start an identifier. -/
def isIdentStart (c : Char) : Bool := isAlphabetic c || c = '_'

/-- Whether a text is an identifier. -/
def isIdent : List Char → Bool
  | [] => false
  | c :: cs => isIdentStart c && (c :: cs).all isIdentChar

/-- The declared name of a type: the last segment of its path without generic arguments, or nothing
where that is no identifier or the type is anonymous. -/
def declaredName (s : List Char) : List Char :=
  if isAnonymous s then []
  else
    let last := lastSegment (stripGenerics s)
    if isIdent last then last else []

/-- The openings of the owning pointers that are looked through. -/
def owners : List (List Char) :=
  ["alloc::boxed::Box<".toList, "alloc::sync::Arc<".toList, "alloc::rc::Rc<".toList,
    "core::option::Option<".toList]

/-- Drops one closing bracket at the end, if there is one. -/
def dropClosing (s : List Char) : List Char :=
  if s.getLast? = some '>' then s.dropLast else s

/-- One reference or owning pointer taken off, if the name starts with one. -/
def stripPointer? (s : List Char) : Option (List Char) :=
  match "&mut ".toList.isPrefixOf? s with
  | some r => some r
  | none =>
    match ['&'].isPrefixOf? s with
    | some r => some r
    | none => (owners.findSome? (·.isPrefixOf? s)).map dropClosing

/-- What is left after a prefix is shorter by the prefix. -/
theorem length_of_isPrefixOf? {p s r : List Char} (h : p.isPrefixOf? s = some r) :
    r.length + p.length = s.length := by
  induction p generalizing s with
  | nil =>
    cases s with
    | nil =>
      cases h
      rfl
    | cons b s =>
      cases h
      rfl
  | cons a p ih =>
    cases s with
    | nil => cases h
    | cons b s =>
      change (if a == b then p.isPrefixOf? s else none) = some r at h
      split at h
      · have := ih h
        simp only [List.length_cons]
        omega
      · cases h

/-- Dropping a bracket never makes a text longer. -/
theorem length_dropClosing_le (s : List Char) : (dropClosing s).length ≤ s.length := by
  unfold dropClosing
  split <;> simp

/-- Taking a pointer off makes the name shorter, so looking through pointers ends. -/
theorem length_of_stripPointer? {s r : List Char} (h : stripPointer? s = some r) :
    r.length < s.length := by
  unfold stripPointer? at h
  split at h
  · rename_i r' h'
    cases h
    have := length_of_isPrefixOf? h'
    simp at this
    omega
  · split at h
    · rename_i r' h'
      cases h
      have := length_of_isPrefixOf? h'
      simp at this
      omega
    · obtain ⟨u, hu, rfl⟩ := Option.map_eq_some_iff.1 h
      obtain ⟨p, hp, hpu⟩ := List.exists_of_findSome?_eq_some hu
      have h1 := length_of_isPrefixOf? hpu
      have h2 := length_dropClosing_le u
      have h3 : 0 < p.length := by
        simp only [owners, List.mem_cons, List.not_mem_nil, or_false] at hp
        rcases hp with rfl | rfl | rfl | rfl <;> simp
      omega

/-- The type that references and owning pointers lead to. -/
def pointee (s : List Char) : List Char :=
  match _h : stripPointer? s with
  | some r => pointee r
  | none => s
termination_by s.length
decreasing_by exact length_of_stripPointer? _h

/-- The path roots whose types every decoder knows. -/
def builtinRoots : List (List Char) := ["core".toList, "alloc".toList, "std".toList]

/-- Whether a foreign decoder can see values of a type: primitives, anonymous types and the types
under a builtin root always, any other type if its declared name is exported. Pointers are judged
by what they point to. -/
def isVisible (s : List Char) : Bool :=
  let p := pointee s
  isAnonymous p ||
    match rootSegment? (stripGenerics p) with
    | none => true
    | some root => builtinRoots.contains root || isExportedChars (declaredName p)

/-- Whether a name is exported: it starts with an uppercase character. -/
def isExported (name : String) : Bool := isExportedChars name.toList

/-- The declared name of the type with the full name `full`. -/
def declared (full : String) : String := String.ofList (declaredName full.toList)

/-- Whether a foreign decoder can see values of the type with the full name `full`. -/
def visible (full : String) : Bool := isVisible full.toList

end Switchboard.TypeName
