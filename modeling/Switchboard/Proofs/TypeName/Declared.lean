import Switchboard.TypeName

/-!
# The declared name of a path

The full name of a type that was declared somewhere is a path: identifiers joined by `::`, each of
which may have generic arguments, and markers for closures, which have no name. The declared name is
cut out of the text: what follows the first `<` is dropped, and of the rest what follows the last
`::` is taken, if that is an identifier. The generic arguments may be any text whatsoever, since it is
dropped before anything else is looked at.

So the segment that gives its name is the first one with generic arguments (`Path.named`), and only if
there is none, the last one. For a path with generic arguments before its last segment this is the
wrong one: a closure in a generic function is not anonymous but has the name of the function.

Results:

* `TypeName.Path.declaredName_chars`: the declared name of a path is that of its segment `Path.named`.
* `TypeName.declared_of_opening`: a name that begins like a tuple, an array, a reference, a pointer
  or a dynamic type has none.
* `TypeName.isDeclared_iff`: for which paths the declared name is that of the last segment.
-/

namespace Switchboard.TypeName

open Switchboard.Text

/-! ## Identifiers -/

/-- An identifier. -/
structure Ident where
  first : Char
  rest : List Char
  starts : isAlphabetic first = true ∨ first = '_'
  continues : ∀ c ∈ rest, isAlphanumeric c = true ∨ c = '_'

namespace Ident

/-- The identifier with a given text. -/
def ofChars (first : Char) (rest : List Char) (h : isIdent (first :: rest) = true) : Ident where
  first := first
  rest := rest
  starts := by simpa [isIdentStart] using (Bool.and_eq_true_iff.1 h).1
  continues c hc := by
    have all := List.all_eq_true.1 (Bool.and_eq_true_iff.1 h).2 c (List.mem_cons_of_mem first hc)
    simpa [isIdentChar] using all

variable (n : Ident)

/-- The text of an identifier. -/
def chars : List Char := n.first :: n.rest

theorem isIdentChar_of_mem {c : Char} (h : c ∈ n.chars) : isIdentChar c = true := by
  unfold isIdentChar
  rcases List.mem_cons.1 h with rfl | h
  · rcases n.starts with alphabetic | underscore
    · simp [isAlphanumeric, alphabetic]
    · simp [underscore]
  · simpa using n.continues c h

theorem isIdent_chars : isIdent n.chars = true := by
  have all : n.chars.all isIdentChar = true := List.all_eq_true.2 fun c => n.isIdentChar_of_mem
  have starts : isIdentStart n.first = true := by simpa [isIdentStart] using n.starts
  exact Bool.and_eq_true_iff.2 ⟨starts, all⟩

/-- What is no part of identifiers is not in one. -/
theorem not_mem {c : Char} (h : isIdentChar c = false) : c ∉ n.chars :=
  fun hc => Bool.false_ne_true (h.symm.trans (n.isIdentChar_of_mem hc))

end Ident

theorem isIdentChar_bracket : isIdentChar '<' = false := by decide +kernel

theorem isIdentChar_colon : isIdentChar ':' = false := by decide +kernel

theorem isIdentChar_space : isIdentChar ' ' = false := by decide +kernel

/-! ## Paths -/

/-- A segment of a path. -/
inductive Segment where
  /-- An identifier, perhaps with generic arguments; their text is arbitrary. -/
  | ident (name : Ident) (generics : Option (List Char))
  | closure

namespace Segment

/-- The generic arguments of a segment. -/
def generics : Segment → Option (List Char)
  | ident _ generics => generics
  | closure => none

/-- The text of a segment without its generic arguments. -/
def bare : Segment → List Char
  | ident name _ => name.chars
  | closure => "\x7b\x7bclosure\x7d\x7d".toList

/-- The text of a segment. -/
def chars (s : Segment) : List Char :=
  s.bare ++ (s.generics.elim [] fun arguments => '<' :: arguments ++ ['>'])

/-- The name of a segment: closures have none. -/
def name : Segment → List Char
  | ident name _ => name.chars
  | closure => []

variable (s : Segment)

theorem not_mem_bare {c : Char} (h : isIdentChar c = false) (hclosure : c ∉ closure.bare) :
    c ∉ s.bare := by
  cases s with
  | ident name generics => exact name.not_mem h
  | closure => exact hclosure

theorem bracket_not_mem_bare : '<' ∉ s.bare := s.not_mem_bare isIdentChar_bracket (by decide)

theorem colon_not_mem_bare : ':' ∉ s.bare := s.not_mem_bare isIdentChar_colon (by decide)

theorem chars_of_none (h : s.generics = none) : s.chars = s.bare := by
  rw [chars, h]
  exact List.append_nil _

/-- The name of a segment is its bare text if that is an identifier. -/
theorem name_eq : s.name = if isIdent s.bare then s.bare else [] := by
  cases s with
  | ident n generics => exact (if_pos n.isIdent_chars).symm
  | closure => decide +kernel

end Segment

/-- A path: its segments before the last one, and the last one. -/
structure Path where
  init : List Segment
  last : Segment

namespace Path

/-- The text of a path: its segments joined by `::`. -/
def chars (p : Path) : List Char := p.init.flatMap (·.chars ++ "::".toList) ++ p.last.chars

/-- The text of a path. -/
def text (p : Path) : String := String.ofList p.chars

/-- The first segment with generic arguments, or the last segment if there is none. -/
def named (p : Path) : Segment := (p.init.find? (·.generics.isSome)).getD p.last

variable (p : Path)

/-- The segments before the one that gives its name. -/
def plain : List Segment := p.init.takeWhile (·.generics.isNone)

end Path

/-! ## Cutting at the first bracket -/

/-- A text without a bracket is kept. -/
theorem stripGenerics_append {a : List Char} (h : '<' ∉ a) (b : List Char) :
    stripGenerics (a ++ b) = a ++ stripGenerics b := by
  refine List.takeWhile_append_of_pos fun c hc => decide_eq_true ?_
  rintro rfl
  exact h hc

theorem stripGenerics_of_not_mem {a : List Char} (h : '<' ∉ a) : stripGenerics a = a := by
  simpa [stripGenerics] using stripGenerics_append h []

/-- The generic arguments of a segment are dropped, with all that follows. -/
theorem Segment.stripGenerics_chars {s : Segment} (h : s.generics.isSome = true)
    (more : List Char) : stripGenerics (s.chars ++ more) = s.bare := by
  obtain ⟨arguments, h⟩ := Option.isSome_iff_exists.1 h
  rw [Segment.chars, h, List.append_assoc, stripGenerics_append s.bracket_not_mem_bare]
  exact List.append_nil _

namespace Path

/-- What follows the first `<` is dropped, and with it the segments behind the one that gives its
name. -/
theorem stripGenerics_chars (p : Path) :
    stripGenerics p.chars = p.plain.flatMap (·.bare ++ "::".toList) ++ p.named.bare := by
  obtain ⟨init, last⟩ := p
  unfold chars plain named
  induction init with
  | nil =>
    cases h : last.generics with
    | none =>
      rw [last.chars_of_none h]
      exact stripGenerics_of_not_mem last.bracket_not_mem_bare
    | some arguments =>
      simpa using last.stripGenerics_chars (by rw [h]; rfl) []
  | cons s init ih =>
    cases h : s.generics with
    | none =>
      have separated : '<' ∉ s.bare ++ "::".toList := by
        rw [List.mem_append]
        exact not_or.2 ⟨s.bracket_not_mem_bare, by decide⟩
      dsimp only at ih
      simp only [List.flatMap_cons, List.append_assoc, List.takeWhile_cons, h, Option.isNone_none,
        if_true, List.find?_cons, Option.isSome_none, s.chars_of_none h]
      rw [← List.append_assoc, stripGenerics_append separated, ih]
      simp
    | some arguments =>
      simp only [List.flatMap_cons, List.append_assoc, List.takeWhile_cons, h, Option.isNone_some,
        List.find?_cons, Option.isSome_some, Option.getD_some]
      exact s.stripGenerics_chars (by rw [h]; rfl) _

end Path

/-! ## Taking what follows the last separator -/

/-- Whether a separator begins here matters only if there is none further on. -/
theorem afterLastSeparator?_cons (c : Char) (s : List Char) : afterLastSeparator? (c :: s) =
    match afterLastSeparator? s with
    | some r => some r
    | none =>
      match c, s with
      | ':', ':' :: r => some r
      | _, _ => none := rfl

theorem afterLastSeparator?_of_not_mem {s : List Char} (h : ':' ∉ s) :
    afterLastSeparator? s = none := by
  induction s with
  | nil => rfl
  | cons c s ih =>
    rw [List.mem_cons, not_or] at h
    rw [afterLastSeparator?_cons, ih h.2]
    dsimp only
    split
    · exact absurd rfl h.1
    · rfl

theorem afterLastSeparator?_append (s : List Char) {r : List Char} (h : ':' ∉ r) :
    afterLastSeparator? (s ++ "::".toList ++ r) = some r := by
  induction s with
  | nil =>
    have inner : afterLastSeparator? (':' :: r) = none := by
      rw [afterLastSeparator?_cons, afterLastSeparator?_of_not_mem h]
      dsimp only
      split
      · exact absurd (List.mem_cons_self ..) h
      · rfl
    change afterLastSeparator? (':' :: ':' :: r) = some r
    rw [afterLastSeparator?_cons, inner]
    rfl
  | cons c s ih =>
    change afterLastSeparator? (c :: (s ++ "::".toList ++ r)) = some r
    rw [afterLastSeparator?_cons, ih]

/-- What follows the last of some separated segments is found. -/
theorem lastSegment_flatMap (segments : List Segment) {r : List Char} (h : ':' ∉ r) :
    lastSegment (segments.flatMap (·.bare ++ "::".toList) ++ r) = r := by
  unfold lastSegment
  rcases segments.eq_nil_or_concat with rfl | ⟨front, s, rfl⟩
  · rw [List.flatMap_nil, List.nil_append, afterLastSeparator?_of_not_mem h]
    rfl
  · rw [List.concat_eq_append, List.flatMap_append, List.flatMap_singleton, ← List.append_assoc,
      afterLastSeparator?_append _ h]
    rfl

/-! ## Anonymous names -/

/-- What can follow the name at the front of a path: generic arguments, or a separator. -/
def EndsName (rest : List Char) : Prop := ∀ c ∈ rest.head?, c = '<' ∨ c = ':'

theorem endsName_nil : EndsName [] := fun _ h => nomatch h

theorem endsName_separator (rest : List Char) : EndsName ("::".toList ++ rest) := by
  rintro c ⟨⟩
  exact .inr rfl

/-- A text that begins with a name does not begin with a word and a blank. -/
theorem not_word_isPrefix {word rest : List Char} (hword : word.all isIdentChar = true)
    (n : Ident) (ends : EndsName rest) : ¬word ++ [' '] <+: n.chars ++ rest := by
  rintro ⟨more, heq⟩
  -- Both texts end their first word at the same place, and there the next characters differ.
  have left : (word ++ [' '] ++ more).dropWhile isIdentChar = ' ' :: more := by
    rw [List.append_assoc, List.dropWhile_append_of_pos (List.all_eq_true.1 hword)]
    exact List.dropWhile_cons_of_neg (by rw [isIdentChar_space]; exact Bool.false_ne_true)
  have right : (n.chars ++ rest).dropWhile isIdentChar = rest := by
    rw [List.dropWhile_append_of_pos fun c => n.isIdentChar_of_mem]
    cases rest with
    | nil => rfl
    | cons c rest =>
      refine List.dropWhile_cons_of_neg ?_
      rcases ends c rfl with rfl | rfl
      · rw [isIdentChar_bracket]
        exact Bool.false_ne_true
      · rw [isIdentChar_colon]
        exact Bool.false_ne_true
  rw [heq, right] at left
  rcases ends ' ' (by rw [left]; rfl) with h | h <;> cases h

/-- What begins with a name is not anonymous. -/
theorem isAnonymous_ident (n : Ident) {rest : List Char} (ends : EndsName rest) :
    isAnonymous (n.chars ++ rest) = false := by
  have first : ∀ c, isIdentChar c = false → n.first ≠ c := fun c hc heq =>
    n.not_mem hc (heq ▸ List.mem_cons_self ..)
  have noDyn : "dyn ".toList.isPrefixOf (n.chars ++ rest) = false := by
    have word : "dyn".toList.all isIdentChar = true := by decide +kernel
    rw [Bool.eq_false_iff, Ne, List.isPrefixOf_iff_prefix]
    exact not_word_isPrefix word n ends
  unfold isAnonymous
  rw [noDyn]
  simp [Ident.chars, first _ (by decide +kernel : isIdentChar '(' = false),
    first _ (by decide +kernel : isIdentChar '[' = false),
    first _ (by decide +kernel : isIdentChar '&' = false),
    first _ (by decide +kernel : isIdentChar '*' = false)]

/-- What begins like a tuple, an array, a reference, a pointer or a dynamic type is anonymous. -/
theorem isAnonymous_append {opening : List Char}
    (h : opening ∈ ["(".toList, "[".toList, "&".toList, "*".toList, "dyn ".toList])
    (rest : List Char) : isAnonymous (opening ++ rest) = true := by
  simp only [List.mem_cons, List.not_mem_nil, or_false] at h
  rcases h with rfl | rfl | rfl | rfl | rfl
  · rfl
  · rfl
  · rfl
  · rfl
  · simp [isAnonymous]

theorem declaredName_of_isAnonymous {s : List Char} (h : isAnonymous s = true) :
    declaredName s = [] := if_pos h

/-- A segment begins with a name, or is the marker of a closure. -/
theorem Segment.chars_cases (s : Segment) {tail : List Char} (ends : EndsName tail) :
    (∃ n : Ident, ∃ rest, EndsName rest ∧ s.chars ++ tail = n.chars ++ rest) ∨
      ∃ rest, s.chars ++ tail = '\x7b' :: rest := by
  cases s with
  | ident n generics =>
    refine .inl ⟨n, (generics.elim [] fun arguments => '<' :: arguments ++ ['>']) ++ tail, ?_,
      List.append_assoc ..⟩
    cases generics with
    | none => exact ends
    | some arguments =>
      rintro c ⟨⟩
      exact .inl rfl
  | closure => exact .inr ⟨_, rfl⟩

namespace Path

variable (p : Path)

/-- A path begins with a name, or with the marker of a closure. -/
theorem chars_cases : (∃ n : Ident, ∃ rest, EndsName rest ∧ p.chars = n.chars ++ rest) ∨
    ∃ rest, p.chars = '\x7b' :: rest := by
  obtain ⟨init, last⟩ := p
  cases init with
  | nil => simpa [chars] using last.chars_cases endsName_nil
  | cons s init =>
    have ends := endsName_separator (init.flatMap (·.chars ++ "::".toList) ++ last.chars)
    simpa [chars] using s.chars_cases ends

theorem isAnonymous_chars : isAnonymous p.chars = false := by
  rcases p.chars_cases with ⟨n, rest, ends, heq⟩ | ⟨rest, heq⟩ <;> rw [heq]
  · exact isAnonymous_ident n ends
  · rfl

/-- **The declared name of a path is the name of its first segment with generic arguments**, or of its
last segment if there is none. -/
theorem declaredName_chars : declaredName p.chars = p.named.name := by
  unfold declaredName
  rw [p.isAnonymous_chars, if_neg Bool.false_ne_true, p.stripGenerics_chars,
    lastSegment_flatMap p.plain p.named.colon_not_mem_bare]
  exact p.named.name_eq.symm

theorem declared_text : declared p.text = String.ofList p.named.name := by
  rw [declared, text, String.toList_ofList, p.declaredName_chars]

/-- The declared name is the name of the last segment: its identifier, or nothing for a closure. -/
def IsDeclared : Prop := declared p.text = String.ofList p.last.name

/-- The segment that gives its name is the last one, or the first that has generic arguments. -/
theorem name_named_iff : p.named.name = p.last.name ↔
    (∀ s ∈ p.init, s.generics = none) ∨
      ∃ s, p.init.find? (·.generics.isSome) = some s ∧ s.name = p.last.name := by
  unfold named
  cases h : p.init.find? (·.generics.isSome) with
  | none =>
    have plain : ∀ s ∈ p.init, s.generics = none := by simpa using h
    exact iff_of_true rfl (.inl plain)
  | some s =>
    have generic := List.find?_some h
    constructor
    · exact fun heq => .inr ⟨s, rfl, heq⟩
    · rintro (plain | ⟨_, ⟨⟩, heq⟩)
      · rw [plain s (List.mem_of_find?_eq_some h)] at generic
        cases generic
      · exact heq

end Path

/-- What begins like a tuple, an array, a reference, a pointer or a dynamic type has no name. -/
theorem declared_of_opening {opening : String} (h : opening.toList ∈
    ["(".toList, "[".toList, "&".toList, "*".toList, "dyn ".toList]) (rest : String) :
    declared (opening ++ rest) = "" := by
  rw [declared, String.toList_append, declaredName_of_isAnonymous (isAnonymous_append h _)]

/-- **Which names are declared.** The declared name of a path is that of its first segment with generic
arguments, if there is one before the last segment. So it is that of the last segment exactly if none
of those before it has generic arguments, or the first that has bears the same name. What begins like a
tuple, an array, a reference, a pointer or a dynamic type has no declared name. -/
theorem isDeclared_iff (p : Path) (rest : String) :
    declared p.text = String.ofList p.named.name ∧
      (p.IsDeclared ↔ (∀ s ∈ p.init, s.generics = none) ∨
        ∃ s, p.init.find? (·.generics.isSome) = some s ∧ s.name = p.last.name) ∧
      declared ("(" ++ rest) = "" ∧ declared ("[" ++ rest) = "" ∧ declared ("&" ++ rest) = "" ∧
      declared ("*" ++ rest) = "" ∧ declared ("dyn " ++ rest) = "" := by
  refine ⟨p.declared_text, ?_, declared_of_opening (by simp) rest, declared_of_opening (by simp) rest,
    declared_of_opening (by simp) rest, declared_of_opening (by simp) rest,
    declared_of_opening (by simp) rest⟩
  rw [← p.name_named_iff, Path.IsDeclared, p.declared_text]
  exact ⟨fun h => String.ofList_injective h, congrArg String.ofList⟩

/-- A closure in a generic function, `app::run<u32>::\x7b\x7bclosure\x7d\x7d`. -/
def Path.genericClosure : Path where
  init := [
    .ident (.ofChars 'a' "pp".toList (by decide +kernel)) none,
    .ident (.ofChars 'r' "un".toList (by decide +kernel)) (some "u32".toList)]
  last := .closure

/-- It has a declared name, that of the function. -/
theorem Path.not_isDeclared_genericClosure :
    genericClosure.text = "app::run<u32>::\x7b\x7bclosure\x7d\x7d" ∧
      declared genericClosure.text = "run" ∧ ¬genericClosure.IsDeclared := by
  have name : declared genericClosure.text = "run" := genericClosure.declared_text
  refine ⟨rfl, name, ?_⟩
  rw [IsDeclared, name]
  decide

end Switchboard.TypeName
