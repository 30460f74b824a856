import Mathlib.Data.List.Infix
import Switchboard.Proofs.TypeName.Declared

/-!
# Which types can be seen

`TypeExpr` is the type that a name stands for: primitive types, tuples, arrays, slices, raw pointers,
dynamic types, paths with generic arguments, and any of these behind references and owning pointers,
nested without bound. `TypeExpr.chars` is its name, and `TypeExpr.isVisible` whether values of it can
be seen, by its structure: all that are built in can, a path if it is under a builtin root or its last
identifier is exported, and a pointer if what it points to can.

The name alone tells that, without parsing it. A pointer is recognized by how its name begins, and if
an owner is taken off the front, the one bracket at the very end is the owner's own. All else is
decided by the front of the name as far as the first `<`; so what stands between brackets, whatever
types or texts these are, is never looked at.

Results:

* `TypeName.stripPointer?_settled`: only pointers are looked through, whatever stands in the name.
* `TypeName.isVisible_path`: how a path is judged.
* `TypeName.TypeExpr.visible_text`: the name of a type tells whether it is visible.
-/

namespace Switchboard.TypeName

open Switchboard.Text

/-! ## Type expressions -/

/-- The owning pointers that are looked through. -/
inductive Owner where
  | box
  | arc
  | rc
  | option
  deriving DecidableEq, Repr

/-- The path of an owning pointer. -/
def Owner.chars : Owner → List Char
  | box => "alloc::boxed::Box".toList
  | arc => "alloc::sync::Arc".toList
  | rc => "alloc::rc::Rc".toList
  | option => "core::option::Option".toList

/-- The path of a type: at least two identifiers, the first of which names its crate. -/
structure TypePath where
  root : Ident
  middle : List Ident
  last : Ident

/-- The text of a path: its identifiers joined by `::`. -/
def TypePath.chars (p : TypePath) : List Char :=
  (p.root :: p.middle).flatMap (·.chars ++ "::".toList) ++ p.last.chars

mutual

/-- A type. -/
inductive TypeExpr where
  | primitive (name : Ident)
  | never
  | tuple (parts : List TypeExpr)
  | array (part : TypeExpr) (length : Nat)
  | slice (part : TypeExpr)
  | constPointer (target : TypeExpr)
  | mutPointer (target : TypeExpr)
  | dynamic (bounds : List TypeArg)
  | path (p : TypePath)
  /-- A path with generic arguments that is not one of the owning pointers. -/
  | generic (p : TypePath) (arguments : List TypeArg)
    (other : ∀ o : Owner, p.chars ≠ o.chars)
  | ref (target : TypeExpr)
  | refMut (target : TypeExpr)
  | owner (o : Owner) (target : TypeExpr)

/-- A generic argument, or a bound of a dynamic type. -/
inductive TypeArg where
  | type (t : TypeExpr)
  /-- A lifetime, a constant, or what else can stand there. -/
  | other (text : List Char)

end

mutual

/-- The name of a type. -/
def TypeExpr.chars : TypeExpr → List Char
  | .primitive name => name.chars
  | .never => ['!']
  | .tuple parts =>
    '(' :: [',', ' '].intercalate (TypeExpr.charsOf parts) ++
      (if parts.length = 1 then [','] else []) ++ [')']
  | .array part length => '[' :: part.chars ++ [';', ' '] ++ (Nat.repr length).toList ++ [']']
  | .slice part => '[' :: part.chars ++ [']']
  | .constPointer target => ['*', 'c', 'o', 'n', 's', 't', ' '] ++ target.chars
  | .mutPointer target => ['*', 'm', 'u', 't', ' '] ++ target.chars
  | .dynamic bounds => ['d', 'y', 'n', ' '] ++ [' ', '+', ' '].intercalate (TypeArg.charsOf bounds)
  | .path p => p.chars
  | .generic p arguments _ =>
    p.chars ++ '<' :: [',', ' '].intercalate (TypeArg.charsOf arguments) ++ ['>']
  | .ref target => '&' :: target.chars
  | .refMut target => ['&', 'm', 'u', 't', ' '] ++ target.chars
  | .owner o target => o.chars ++ '<' :: target.chars ++ ['>']

/-- The names of types. -/
def TypeExpr.charsOf : List TypeExpr → List (List Char)
  | [] => []
  | t :: ts => t.chars :: TypeExpr.charsOf ts

/-- The text of a generic argument or a bound. -/
def TypeArg.chars : TypeArg → List Char
  | .type t => t.chars
  | .other text => text

/-- The texts of generic arguments or bounds. -/
def TypeArg.charsOf : List TypeArg → List (List Char)
  | [] => []
  | a :: as => a.chars :: TypeArg.charsOf as

end

/-- The name of a type. -/
def TypeExpr.text (t : TypeExpr) : String := String.ofList t.chars

/-- A path can be seen if it is under a builtin root or its last identifier begins with an uppercase
character. -/
def TypePath.isVisible (p : TypePath) : Bool :=
  ["core".toList, "alloc".toList, "std".toList].contains p.root.chars || isUpper p.last.first

/-- Whether values of a type can be seen. -/
def TypeExpr.isVisible : TypeExpr → Bool
  | .path p | .generic p _ _ => p.isVisible
  | .ref target | .refMut target | .owner _ target => target.isVisible
  | .primitive _ | .never | .tuple _ | .array _ _ | .slice _ | .constPointer _ | .mutPointer _
  | .dynamic _ => true

/-! ## Looking through a pointer -/

theorem isPrefixOf?_append (a b : List Char) : a.isPrefixOf? (a ++ b) = some b :=
  List.isPrefixOf?_eq_some_iff_append_eq.2 rfl

theorem isPrefixOf?_eq_none {a b : List Char} (h : ¬a <+: b) : a.isPrefixOf? b = none :=
  Option.eq_none_iff_forall_ne_some.2 fun r hr =>
    h ⟨r, List.isPrefixOf?_eq_some_iff_append_eq.1 hr⟩

theorem pointee_of_some {s r : List Char} (h : stripPointer? s = some r) :
    pointee s = pointee r := by
  rw [pointee]
  split
  · next r' h' => rw [Option.some.inj (h.symm.trans h')]
  · next h' => cases h.symm.trans h'

theorem pointee_of_none {s : List Char} (h : stripPointer? s = none) : pointee s = s := by
  rw [pointee]
  split
  · next r h' => cases h.symm.trans h'
  · rfl

/-- The openings of the owning pointers are their paths with a bracket. -/
theorem owners_eq : owners = [Owner.box, .arc, .rc, .option].map (·.chars ++ ['<']) := by
  decide +kernel

/-- What the name of a mutable reference begins with. -/
theorem refMut_eq : "&mut ".toList = '&' :: ['m', 'u', 't', ' '] := by decide +kernel

namespace Owner

variable (o : Owner)

theorem mem_owners : o.chars ++ ['<'] ∈ owners := by
  rw [owners_eq]
  exact List.mem_map_of_mem (by cases o <;> simp)

theorem bracket_not_mem : '<' ∉ o.chars := by
  cases o <;> decide +kernel

theorem exists_cons : ∃ c rest, o.chars = c :: rest ∧ (c = 'a' ∨ c = 'c') := by
  cases o
  · exact ⟨'a', "lloc::boxed::Box".toList, by decide +kernel⟩
  · exact ⟨'a', "lloc::sync::Arc".toList, by decide +kernel⟩
  · exact ⟨'a', "lloc::rc::Rc".toList, by decide +kernel⟩
  · exact ⟨'c', "ore::option::Option".toList, by decide +kernel⟩

/-- A name without a bracket is no owning pointer. -/
theorem not_isPrefix_of_not_mem {s : List Char} (h : '<' ∉ s) : ¬o.chars ++ ['<'] <+: s := by
  rintro ⟨more, rfl⟩
  exact h (by simp)

end Owner

/-- A text begins with a character only if that is its first. -/
theorem not_isPrefix_of_ne {c d : Char} (h : c ≠ d) (s t : List Char) : ¬c :: s <+: d :: t :=
  fun hp => h (List.cons_prefix_cons.1 hp).1

/-- The text before the first bracket is the same if one text begins the other. -/
theorem eq_of_bracket_isPrefix {a b more : List Char} (ha : '<' ∉ a) (hb : '<' ∉ b)
    (h : a ++ ['<'] <+: b ++ '<' :: more) : a = b := by
  have before {s : List Char} (hs : '<' ∉ s) (rest : List Char) :
      stripGenerics (s ++ '<' :: rest) = s := by
    rw [stripGenerics_append hs]
    exact List.append_nil s
  obtain ⟨rest, heq⟩ := h
  rw [← before ha rest, ← before hb more, ← heq, List.append_assoc]
  rfl

/-- A name is no pointer if it begins neither like a reference nor like an owning pointer. -/
theorem stripPointer?_settled {s : List Char} (href : ¬['&'] <+: s)
    (howner : ∀ o : Owner, ¬o.chars ++ ['<'] <+: s) : stripPointer? s = none := by
  have hmut : ¬"&mut ".toList <+: s := by
    rw [refMut_eq]
    exact fun h => href ((List.prefix_append ['&'] _).trans h)
  unfold stripPointer?
  rw [isPrefixOf?_eq_none hmut, isPrefixOf?_eq_none href]
  dsimp only
  rw [List.findSome?_eq_none_iff.2, Option.map_none]
  intro opening h
  rw [owners_eq] at h
  obtain ⟨o, -, rfl⟩ := List.mem_map.1 h
  exact isPrefixOf?_eq_none (howner o)

theorem stripPointer?_refMut (s : List Char) :
    stripPointer? (['&', 'm', 'u', 't', ' '] ++ s) = some s := by
  unfold stripPointer?
  rw [refMut_eq, isPrefixOf?_append]

theorem stripPointer?_ref {s : List Char} (h : ¬['m', 'u', 't', ' '] <+: s) :
    stripPointer? ('&' :: s) = some s := by
  unfold stripPointer?
  rw [refMut_eq, isPrefixOf?_eq_none fun hp => h (List.cons_prefix_cons.1 hp).2]
  rfl

/-- Of an owning pointer exactly its own bracket is dropped. -/
theorem stripPointer?_owner (o : Owner) (s : List Char) :
    stripPointer? (o.chars ++ '<' :: (s ++ ['>'])) = some s := by
  obtain ⟨c, rest, hchars, hc⟩ := o.exists_cons
  have href (more : List Char) : ¬ '&' :: more <+: o.chars ++ '<' :: (s ++ ['>']) := by
    rw [hchars]
    refine not_isPrefix_of_ne ?_ _ _
    rcases hc with rfl | rfl <;> decide
  -- The opening that is found may be another one, but then it reads the same.
  have found : owners.findSome? (·.isPrefixOf? (o.chars ++ '<' :: (s ++ ['>']))) =
      some (s ++ ['>']) := by
    have own := isPrefixOf?_append (o.chars ++ ['<']) (s ++ ['>'])
    rw [List.append_assoc, List.singleton_append] at own
    have isSome : (owners.findSome?
        (·.isPrefixOf? (o.chars ++ '<' :: (s ++ ['>'])))).isSome = true :=
      List.findSome?_isSome_iff.2 ⟨_, o.mem_owners, by rw [own]; rfl⟩
    obtain ⟨u, hu⟩ := Option.isSome_iff_exists.1 isSome
    obtain ⟨opening, hmem, hprefix⟩ := List.exists_of_findSome?_eq_some hu
    rw [owners_eq] at hmem
    obtain ⟨w, -, rfl⟩ := List.mem_map.1 hmem
    have same := eq_of_bracket_isPrefix w.bracket_not_mem o.bracket_not_mem
      ⟨u, List.isPrefixOf?_eq_some_iff_append_eq.1 hprefix⟩
    rw [same, own] at hprefix
    rw [hu, hprefix]
  unfold stripPointer?
  rw [refMut_eq, isPrefixOf?_eq_none (href _), isPrefixOf?_eq_none (href _)]
  dsimp only
  rw [found]
  simp [dropClosing]

/-! ## How a path is judged -/

namespace TypePath

variable (p : TypePath)

theorem bracket_not_mem : '<' ∉ p.chars := by
  unfold chars
  rw [List.mem_append, List.mem_flatMap]
  rintro (⟨n, -, h⟩ | h)
  · rcases List.mem_append.1 h with h | h
    · exact n.not_mem isIdentChar_bracket h
    · exact absurd h (by decide)
  · exact p.last.not_mem isIdentChar_bracket h

/-- Behind the root of a path there is a separator. -/
theorem exists_chars : ∃ rest, p.chars = p.root.chars ++ ("::".toList ++ rest) :=
  ⟨p.middle.flatMap (·.chars ++ "::".toList) ++ p.last.chars, by simp [chars]⟩

/-- The declared name of a path, with generic arguments or without, is its last identifier. -/
theorem declaredName_append (generics : Option (List Char)) :
    declaredName (p.chars ++ generics.elim [] fun arguments => '<' :: arguments ++ ['>']) =
      p.last.chars := by
  let path : Path := ⟨(p.root :: p.middle).map (.ident · none), .ident p.last generics⟩
  have hchars : path.chars =
      p.chars ++ generics.elim [] fun arguments => '<' :: arguments ++ ['>'] := by
    have plain (n : Ident) : (Segment.ident n none).chars = n.chars := Segment.chars_of_none _ rfl
    simp only [path, Path.chars, chars, List.flatMap_map, plain, List.append_assoc]
    rfl
  have hnamed : path.named = .ident p.last generics := by
    unfold Path.named
    rw [List.find?_eq_none.2]
    · rfl
    · intro s hs
      obtain ⟨n, -, rfl⟩ := List.mem_map.1 hs
      exact Bool.false_ne_true
  rw [← hchars, path.declaredName_chars, hnamed]
  rfl

end TypePath

theorem rootSegment?_cons {c : Char} (h : ':' ≠ c) (s : List Char) :
    rootSegment? (c :: s) = (rootSegment? s).map (c :: ·) := by
  rw [rootSegment?]
  exact fun _ hc => absurd hc.symm h

theorem rootSegment?_of_not_mem {s : List Char} (h : ':' ∉ s) : rootSegment? s = none := by
  induction s with
  | nil => rfl
  | cons c s ih =>
    rw [List.mem_cons, not_or] at h
    rw [rootSegment?_cons h.1, ih h.2]
    rfl

theorem rootSegment?_append {root : List Char} (h : ':' ∉ root) (rest : List Char) :
    rootSegment? (root ++ ("::".toList ++ rest)) = some root := by
  induction root with
  | nil => rfl
  | cons c root ih =>
    rw [List.mem_cons, not_or] at h
    rw [List.cons_append, rootSegment?_cons h.1, ih h.2]
    rfl

/-- How a name that is no pointer is judged. -/
def judged (s : List Char) : Bool :=
  isAnonymous s ||
    match rootSegment? (stripGenerics s) with
    | none => true
    | some root => builtinRoots.contains root || isExportedChars (declaredName s)

theorem isVisible_eq (s : List Char) : TypeName.isVisible s = judged (pointee s) := rfl

/-- A name that is no pointer is judged as it is. -/
theorem isVisible_of_settled {s : List Char} (settled : stripPointer? s = none) :
    TypeName.isVisible s = judged s := by
  rw [isVisible_eq, pointee_of_none settled]

/-- A pointer is judged by what it points to. -/
theorem isVisible_of_some {s r : List Char} (h : stripPointer? s = some r) :
    TypeName.isVisible s = TypeName.isVisible r := by
  rw [isVisible_eq, isVisible_eq, pointee_of_some h]

theorem isVisible_of_isAnonymous {s : List Char} (settled : stripPointer? s = none)
    (h : isAnonymous s = true) : TypeName.isVisible s = true := by
  rw [isVisible_of_settled settled, judged, h, Bool.true_or]

/-- A path is judged by its root and its last identifier, whatever its generic arguments are. -/
theorem isVisible_path (p : TypePath) (generics : Option (List Char))
    (settled : stripPointer?
      (p.chars ++ generics.elim [] fun arguments => '<' :: arguments ++ ['>']) = none) :
    TypeName.isVisible (p.chars ++ generics.elim [] fun arguments => '<' :: arguments ++ ['>']) =
      p.isVisible := by
  obtain ⟨rest, hchars⟩ := p.exists_chars
  have named : isAnonymous
      (p.chars ++ generics.elim [] fun arguments => '<' :: arguments ++ ['>']) = false := by
    rw [hchars, List.append_assoc, List.append_assoc]
    exact isAnonymous_ident p.root (endsName_separator _)
  have stripped : stripGenerics
      (p.chars ++ generics.elim [] fun arguments => '<' :: arguments ++ ['>']) = p.chars := by
    rw [stripGenerics_append p.bracket_not_mem]
    cases generics <;> exact List.append_nil _
  have root : rootSegment? p.chars = some p.root.chars := by
    rw [hchars]
    exact rootSegment?_append (p.root.not_mem isIdentChar_colon) rest
  rw [isVisible_of_settled settled, judged, named, stripped, root, p.declaredName_append,
    Bool.false_or]
  rfl

/-! ## Every type is judged by its structure -/

/-- A name that begins with none of three characters is no pointer. -/
theorem stripPointer?_of_head {c : Char} (href : '&' ≠ c) (ha : 'a' ≠ c) (hc : 'c' ≠ c)
    (rest : List Char) : stripPointer? (c :: rest) = none := by
  refine stripPointer?_settled (not_isPrefix_of_ne href _ _) fun o => ?_
  obtain ⟨d, more, heq, hd⟩ := o.exists_cons
  rw [heq]
  refine not_isPrefix_of_ne ?_ _ _
  rcases hd with rfl | rfl
  · exact ha
  · exact hc

namespace Ident

variable (n : Ident)

/-- A name that begins with an identifier is no reference. -/
theorem not_ref_isPrefix (more : List Char) : ¬['&'] <+: n.chars ++ more := by
  refine not_isPrefix_of_ne ?_ _ _
  rintro h
  exact n.not_mem (by decide +kernel : isIdentChar '&' = false) (h ▸ List.mem_cons_self ..)

theorem stripPointer?_chars : stripPointer? n.chars = none := by
  refine stripPointer?_settled ?_ fun o => ?_
  · simpa using n.not_ref_isPrefix []
  · exact o.not_isPrefix_of_not_mem (n.not_mem isIdentChar_bracket)

/-- A primitive type has no root. -/
theorem isVisible_chars : TypeName.isVisible n.chars = true := by
  have named := isAnonymous_ident n endsName_nil
  rw [List.append_nil] at named
  rw [isVisible_of_settled n.stripPointer?_chars, judged, named,
    stripGenerics_of_not_mem (n.not_mem isIdentChar_bracket),
    rootSegment?_of_not_mem (n.not_mem isIdentChar_colon)]
  rfl

end Ident

namespace TypePath

variable (p : TypePath)

theorem not_ref_isPrefix (more : List Char) : ¬['&'] <+: p.chars ++ more := by
  obtain ⟨rest, heq⟩ := p.exists_chars
  rw [heq, List.append_assoc]
  exact p.root.not_ref_isPrefix _

theorem stripPointer?_chars : stripPointer? p.chars = none := by
  refine stripPointer?_settled ?_ fun o => ?_
  · simpa using p.not_ref_isPrefix []
  · exact o.not_isPrefix_of_not_mem p.bracket_not_mem

/-- Only the path of an owner makes one. -/
theorem stripPointer?_append (other : ∀ o : Owner, p.chars ≠ o.chars) (more : List Char) :
    stripPointer? (p.chars ++ '<' :: more) = none := by
  refine stripPointer?_settled (p.not_ref_isPrefix _) fun o h => ?_
  exact other o (eq_of_bracket_isPrefix o.bracket_not_mem p.bracket_not_mem h).symm

end TypePath

namespace TypeExpr

/-- No name of a type begins like what follows the `&` in the name of a mutable reference. -/
theorem not_mut_isPrefix (t : TypeExpr) : ¬['m', 'u', 't', ' '] <+: t.chars := by
  have word : ['m', 'u', 't'].all isIdentChar = true := by decide +kernel
  have path (p : TypePath) (more : List Char) : ¬['m', 'u', 't', ' '] <+: p.chars ++ more := by
    obtain ⟨rest, heq⟩ := p.exists_chars
    rw [heq, List.append_assoc, List.append_assoc]
    exact not_word_isPrefix word p.root (endsName_separator _)
  cases t with
  | primitive n => simpa [chars] using not_word_isPrefix word n endsName_nil
  | path p => simpa [chars] using path p []
  | generic p arguments other =>
    rw [chars, List.append_assoc]
    exact path p _
  | owner o target =>
    obtain ⟨c, rest, heq, hc⟩ := o.exists_cons
    rw [chars, heq]
    refine not_isPrefix_of_ne ?_ _ _
    rcases hc with rfl | rfl <;> decide
  | _ => exact not_isPrefix_of_ne (by decide) _ _

/-- The name of a type tells whether it is visible: a pointer's name leads to that of its target, and
any other is judged as it stands. -/
theorem isVisible_chars : ∀ t : TypeExpr, TypeName.isVisible t.chars = t.isVisible
  | .primitive n => n.isVisible_chars
  | .never => isVisible_of_settled (stripPointer?_of_head (by decide) (by decide) (by decide) [])
  | .tuple _ | .array _ _ | .slice _ | .constPointer _ | .mutPointer _ =>
    isVisible_of_isAnonymous (stripPointer?_of_head (by decide) (by decide) (by decide) _) rfl
  | .dynamic _ =>
    isVisible_of_isAnonymous (stripPointer?_of_head (by decide) (by decide) (by decide) _)
      (isAnonymous_append (by simp) _)
  | .path p => by
    have judged := isVisible_path p none
    rw [Option.elim_none, List.append_nil] at judged
    exact judged p.stripPointer?_chars
  | .generic p arguments other => by
    rw [chars, List.append_assoc]
    exact isVisible_path p (some _) (p.stripPointer?_append other _)
  | .ref t => (isVisible_of_some (stripPointer?_ref t.not_mut_isPrefix)).trans t.isVisible_chars
  | .refMut t => (isVisible_of_some (stripPointer?_refMut t.chars)).trans t.isVisible_chars
  | .owner o t => by
    rw [chars, List.append_assoc]
    exact (isVisible_of_some (stripPointer?_owner o t.chars)).trans t.isVisible_chars

/-- **Types are judged by their structure, though only their names are looked at.** -/
theorem visible_text (t : TypeExpr) : visible t.text = t.isVisible := by
  rw [visible, text, String.toList_ofList, t.isVisible_chars]

/-- A reference to an optional pair of a byte and a type that is not exported. -/
example :
    let kit := Ident.ofChars 'k' "it".toList (by decide +kernel)
    let hidden := Ident.ofChars 'h' "idden".toList (by decide +kernel)
    let byte := Ident.ofChars 'u' ['8'] (by decide +kernel)
    (ref (.owner .option (.tuple [.primitive byte, .path ⟨kit, [], hidden⟩]))).text =
      "&core::option::Option<(u8, kit::hidden)>" := by
  decide +kernel

end TypeExpr

end Switchboard.TypeName
