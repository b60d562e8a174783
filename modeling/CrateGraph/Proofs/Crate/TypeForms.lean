import CrateGraph.Crate.Types
import CrateGraph.Proofs.Text.Characters
import CrateGraph.Text.Alphanumeric

/-!
How types are put together, and how that is read off their display names.

The form of a type is all that its display name depends on: the names at its leaves, and what stands
around them. What starts a display name tells what kind of form follows, except that a shared
reference starts like a mutable one; what ends a part of it is a mark that no name holds.

Main statement: as long as names consist of letters, digits, low lines and colons, types have the
same display name only if they have the same form.
-/

namespace CrateGraph

/-- What makes a type of one other type. -/
inductive Wrapper where
  | slice
  | array (length : String)
  | reference (isMutable : Bool)
  | pointer (isMutable : Bool)
deriving DecidableEq

/-- How a type is put together. It is left open what kind of type a leaf is. -/
inductive TypeForm where
  | leaf (name : String)
  | tuple (elements : List TypeForm)
  | wrapped (wrapper : Wrapper) (inner : TypeForm)

mutual

/-- Lifetimes of references, and ids and arguments of paths, do not belong to the form. Types that
have no name of their own are leaves, all called unknown. -/
def RustType.form : RustType → TypeForm
  | .primitive name => .leaf name
  | .path reference => .leaf reference.path
  | .generic name => .leaf name
  | .tuple elements => .tuple (RustType.forms elements)
  | .slice element => .wrapped .slice element.form
  | .array element length => .wrapped (.array length) element.form
  | .borrowed target isMutable _ => .wrapped (.reference isMutable) target.form
  | .rawPointer target isMutable => .wrapped (.pointer isMutable) target.form
  | .functionPointer .. => .leaf "unknown"
  | .qualified .. => .leaf "unknown"
  | .implTrait _ => .leaf "unknown"
  | .dynTrait .. => .leaf "unknown"
  | .infer => .leaf "unknown"
  | .unknown _ => .leaf "unknown"

def RustType.forms : List RustType → List TypeForm
  | [] => []
  | element :: rest => element.form :: RustType.forms rest

end

/-! ### What is written -/

namespace Wrapper

def opening : Wrapper → List Char
  | slice => ['[']
  | array _ => ['[']
  | reference isMutable => if isMutable then ['&', 'm', 'u', 't', ' '] else ['&']
  | pointer isMutable =>
      if isMutable then ['*', 'm', 'u', 't', ' '] else ['*', 'c', 'o', 'n', 's', 't', ' ']

def closing : Wrapper → List Char
  | slice => [']']
  | array length => ';' :: (length.toList ++ [']'])
  | reference _ => []
  | pointer _ => []

/-- Does it stand on both sides of the inner type? -/
def IsBracket : Wrapper → Prop
  | slice => True
  | array _ => True
  | reference _ => False
  | pointer _ => False

/-- What follows two openings is told apart from them, except that brackets open alike and that a
mutable reference goes on from a shared one. -/
theorem opening_append_cases {wrapper other : Wrapper} {rest otherRest : List Char}
    (same : wrapper.opening ++ rest = other.opening ++ otherRest) :
    rest = otherRest ∧ (wrapper = other ∨ wrapper.IsBracket ∧ other.IsBracket) ∨
      wrapper = reference false ∧ other = reference true ∧
        rest = ['m', 'u', 't'] ++ ' ' :: otherRest ∨
      wrapper = reference true ∧ other = reference false ∧
        otherRest = ['m', 'u', 't'] ++ ' ' :: rest := by
  -- The first character sorts out all but references and pointers, for which the second does.
  rcases wrapper with _ | _ | (_ | _) | (_ | _) <;>
    rcases other with _ | _ | (_ | _) | (_ | _) <;>
      simp_all [opening, IsBracket]

end Wrapper

namespace TypeForm

mutual

def text : TypeForm → List Char
  | leaf name => name.toList
  | tuple [] => ['(', ')']
  | tuple (first :: rest) => '(' :: (first.text ++ furtherText rest)
  | wrapped wrapper inner => wrapper.opening ++ (inner.text ++ wrapper.closing)

def furtherText : List TypeForm → List Char
  | [] => [')']
  | next :: rest => ',' :: (next.text ++ furtherText rest)

end

end TypeForm

namespace RustType

mutual

/-- The display name of a type is the text of its form. -/
theorem toList_displayName (type : RustType) : type.displayName.toList = type.form.text := by
  cases type with
  | tuple elements =>
      cases elements with
      | nil => rfl
      | cons first rest =>
          have listed := toList_intercalate_displayNames first.displayName rest
          rw [toList_displayName first] at listed
          simp [displayName, displayNames, form, forms, TypeForm.text, ← listed]
  | slice element | array element =>
      simp [displayName, form, TypeForm.text, Wrapper.opening, Wrapper.closing,
        toList_displayName element]
  | borrowed target isMutable | rawPointer target isMutable =>
      cases isMutable <;>
        simp [displayName, form, TypeForm.text, Wrapper.opening, Wrapper.closing,
          toList_displayName target]
  | _ => rfl

theorem toList_intercalate_displayNames (name : String) (rest : List RustType) :
    (String.intercalate "," (name :: displayNames rest)).toList ++ [')'] =
      name.toList ++ TypeForm.furtherText (forms rest) := by
  cases rest with
  | nil => simp [displayNames, forms, TypeForm.furtherText]
  | cons next others =>
      have listed := toList_intercalate_displayNames next.displayName others
      rw [toList_displayName next] at listed
      simp [displayNames, forms, TypeForm.furtherText, String.intercalate_cons_cons, ← listed]

end

end RustType

/-! ### Names -/

namespace TypeForm

def isNameCharacter (character : Char) : Bool :=
  Text.isAlphanumeric character || character == '_' || character == ':'

/-- Letters, digits, low lines and colons, at least one. -/
structure IsName (name : String) : Prop where
  nonempty : name ≠ ""
  plain : ∀ character ∈ name.toList, isNameCharacter character

instance (name : String) : Decidable (IsName name) :=
  decidable_of_iff (name ≠ "" ∧ name.toList.all isNameCharacter = true)
    ⟨fun both => ⟨both.1, List.all_eq_true.mp both.2⟩,
      fun isName => ⟨isName.1, List.all_eq_true.mpr isName.2⟩⟩

end TypeForm

/-- Lengths of arrays are written like names. -/
def Wrapper.Named : Wrapper → Prop
  | array length => TypeForm.IsName length
  | _ => True

namespace TypeForm

/-- All that the form gives a name to has a proper one. -/
inductive Named : TypeForm → Prop
  | leaf {name : String} (isName : IsName name) : Named (.leaf name)
  | tuple {elements : List TypeForm} (each : ∀ element ∈ elements, Named element) :
      Named (.tuple elements)
  | wrapped {wrapper : Wrapper} {inner : TypeForm} (lengths : wrapper.Named)
      (within : Named inner) : Named (.wrapped wrapper inner)

/-! ### Starts and ends -/

/-- The marks that display names of tuples and of wrapped types start with. -/
def openers : List Char := ['(', '[', '&', '*']

def closers : List Char := [',', ';', ')', ']']

theorem isNameCharacter_of_mark {mark : Char} (isMark : mark ∈ openers ++ ' ' :: closers) :
    isNameCharacter mark = false := by
  have each : (openers ++ ' ' :: closers).all fun mark => !isNameCharacter mark := by
    decide +kernel
  simpa using List.all_eq_true.mp each mark isMark

theorem isNameCharacter_of_opener {mark : Char} (isOpener : mark ∈ openers) :
    isNameCharacter mark = false :=
  isNameCharacter_of_mark (List.mem_append_left _ isOpener)

theorem isNameCharacter_of_closer {mark : Char} (isCloser : mark ∈ closers) :
    isNameCharacter mark = false :=
  isNameCharacter_of_mark (List.mem_append_right _ (List.mem_cons_of_mem _ isCloser))

theorem not_mem_openers_of_closer {mark : Char} (isCloser : mark ∈ closers) : mark ∉ openers := by
  have each : closers.all fun mark => !openers.contains mark := by decide
  simpa using List.all_eq_true.mp each mark isCloser

/-- What stands behind a part of a display name does not go on with that part. -/
def Ends (rest : List Char) : Prop :=
  ∀ next ∈ rest.head?, next ∈ closers

def StartsWith (first : Char) : TypeForm → Prop
  | leaf _ => isNameCharacter first
  | tuple _ => first = '('
  | wrapped _ _ => first ∈ ['[', '&', '*']

theorem ends_nil : Ends [] := by simp [Ends]

theorem ends_cons {mark : Char} (isCloser : mark ∈ closers) (rest : List Char) :
    Ends (mark :: rest) := by
  rintro next ⟨⟩
  exact isCloser

theorem Ends.furtherText (elements : List TypeForm) (rest : List Char) :
    Ends (furtherText elements ++ rest) := by
  cases elements with
  | nil => exact ends_cons (by decide) rest
  | cons next others => exact ends_cons (by decide) _

theorem Ends.closing {rest : List Char} (ends : Ends rest) (wrapper : Wrapper) :
    Ends (wrapper.closing ++ rest) := by
  cases wrapper with
  | slice => exact ends_cons (by decide) rest
  | array length => exact ends_cons (by decide) _
  | reference => exact ends
  | pointer => exact ends

variable {form other inner : TypeForm} {rest otherRest : List Char}

theorem Named.exists_start (named : form.Named) :
    ∃ first tail, form.text = first :: tail ∧ form.StartsWith first := by
  cases named with
  | @leaf name isName =>
      cases split : name.toList with
      | nil => exact absurd (String.toList_eq_nil_iff.mp split) isName.nonempty
      | cons first tail =>
          exact ⟨first, tail, split, isName.plain first (split ▸ List.mem_cons_self)⟩
  | @tuple elements =>
      cases elements with
      | nil => exact ⟨'(', _, rfl, rfl⟩
      | cons first rest => exact ⟨'(', _, rfl, rfl⟩
  | @wrapped wrapper inner =>
      cases wrapper with
      | slice | array => exact ⟨'[', _, rfl, by simp [StartsWith]⟩
      | reference isMutable => cases isMutable <;> exact ⟨'&', _, rfl, by simp [StartsWith]⟩
      | pointer isMutable => cases isMutable <;> exact ⟨'*', _, rfl, by simp [StartsWith]⟩

/-- Are the forms both leaves, both tuples or both made of one other form? -/
inductive Alike : TypeForm → TypeForm → Prop
  | leaves (name otherName : String) : Alike (leaf name) (leaf otherName)
  | tuples (elements others : List TypeForm) : Alike (tuple elements) (tuple others)
  | wrapped (wrapper otherWrapper : Wrapper) (inner otherInner : TypeForm) :
      Alike (wrapped wrapper inner) (wrapped otherWrapper otherInner)

theorem alike_of_startsWith {first : Char} (starts : form.StartsWith first)
    (otherStarts : other.StartsWith first) : Alike form other := by
  have noName : first ∈ openers → ¬isNameCharacter first := fun isOpener => by
    simp [isNameCharacter_of_opener isOpener]
  have noTuple : first ∈ ['[', '&', '*'] → first ≠ '(' := by
    rintro isMark rfl
    exact absurd isMark (by decide)
  cases form with
  | leaf name =>
      cases other with
      | leaf otherName => exact .leaves name otherName
      | tuple => exact absurd starts (noName (List.mem_cons.mpr (.inl otherStarts)))
      | wrapped => exact absurd starts (noName (List.mem_cons.mpr (.inr otherStarts)))
  | tuple elements =>
      cases other with
      | leaf => exact absurd otherStarts (noName (List.mem_cons.mpr (.inl starts)))
      | tuple others => exact .tuples elements others
      | wrapped => exact absurd starts (noTuple otherStarts)
  | wrapped wrapper inner =>
      cases other with
      | leaf => exact absurd otherStarts (noName (List.mem_cons.mpr (.inr starts)))
      | tuple => exact absurd otherStarts (noTuple starts)
      | wrapped otherWrapper otherInner => exact .wrapped wrapper otherWrapper inner otherInner

/-- The start of a text tells what kind of form is written there. -/
theorem Named.alike (named : form.Named) (otherNamed : other.Named)
    (same : form.text ++ rest = other.text ++ otherRest) : Alike form other := by
  rcases named.exists_start with ⟨first, tail, split, starts⟩
  rcases otherNamed.exists_start with ⟨otherFirst, otherTail, otherSplit, otherStarts⟩
  rw [split, otherSplit, List.cons_append, List.cons_append, List.cons.injEq] at same
  exact alike_of_startsWith starts (same.1 ▸ otherStarts)

theorem Named.text_append_ne_closer (named : form.Named) {mark : Char} (isCloser : mark ∈ closers)
    (behind : List Char) : form.text ++ rest ≠ mark :: behind := by
  intro same
  rcases named.exists_start with ⟨first, tail, split, starts⟩
  rw [split, List.cons_append, List.cons.injEq] at same
  rw [same.1] at starts
  cases form with
  | leaf name =>
      have ofName : isNameCharacter mark := starts
      simp [isNameCharacter_of_closer isCloser] at ofName
  | tuple elements => exact not_mem_openers_of_closer isCloser (List.mem_cons.mpr (.inl starts))
  | wrapped wrapper inner =>
      exact not_mem_openers_of_closer isCloser (List.mem_cons.mpr (.inr starts))

/-! ### Names end where something else starts -/

theorem Ends.stops (ends : Ends rest) : ∀ next ∈ rest.head?, isNameCharacter next = false :=
  fun next member => isNameCharacter_of_closer (ends next member)

theorem IsName.append_inj {name otherName : String} (isName : IsName name)
    (otherIsName : IsName otherName) (ends : Ends rest) (otherEnds : Ends otherRest)
    (same : name.toList ++ rest = otherName.toList ++ otherRest) :
    name = otherName ∧ rest = otherRest := by
  rcases Text.append_inj_of_stops isName.plain otherIsName.plain ends.stops otherEnds.stops same
    with ⟨names, rests⟩
  exact ⟨String.toList_inj.mp names, rests⟩

/-- What a shared reference leads to is not taken for the rest of a mutable reference. -/
theorem Named.text_append_ne_mut (named : form.Named) (ends : Ends rest) (behind : List Char) :
    form.text ++ rest ≠ ['m', 'u', 't'] ++ ' ' :: behind := by
  intro same
  have mutName : IsName "mut" := by decide +kernel
  cases named.alike (.leaf mutName) same with
  | leaves name =>
      cases named with
      | leaf isName =>
          have stops : ∀ next ∈ (' ' :: behind).head?, isNameCharacter next = false := by
            rintro next ⟨⟩
            exact isNameCharacter_of_mark (by decide)
          rcases Text.append_inj_of_stops isName.plain mutName.plain ends.stops stops same with
            ⟨_, rfl⟩
          exact absurd (ends ' ' rfl) (by decide)

/-! ### Reading a form from the start of a text -/

/-- Whatever follows, the text of the form is not taken for that of another form. -/
def ReadsApart (form : TypeForm) : Prop :=
  ∀ {other : TypeForm} {rest otherRest : List Char}, other.Named → Ends rest → Ends otherRest →
    form.text ++ rest = other.text ++ otherRest → form = other ∧ rest = otherRest

theorem IsName.readsApart {name : String} (isName : IsName name) : (leaf name).ReadsApart := by
  intro other rest otherRest otherNamed ends otherEnds same
  cases (Named.leaf isName).alike otherNamed same with
  | leaves _ otherName =>
      cases otherNamed with
      | leaf otherIsName =>
          rcases isName.append_inj otherIsName ends otherEnds same with ⟨rfl, rests⟩
          exact ⟨rfl, rests⟩

theorem furtherText_append_inj {elements others : List TypeForm}
    (each : ∀ element ∈ elements, element.ReadsApart) (otherNamed : ∀ other ∈ others, other.Named)
    (same : furtherText elements ++ rest = furtherText others ++ otherRest) :
    elements = others ∧ rest = otherRest := by
  induction elements generalizing others with
  | nil =>
      cases others with
      | nil => exact ⟨rfl, (List.cons.inj same).2⟩
      | cons => cases same
  | cons next elements induction =>
      cases others with
      | nil => cases same
      | cons otherNext others =>
          rw [List.forall_mem_cons] at each otherNamed
          simp only [furtherText, List.cons_append, List.append_assoc, List.cons.injEq,
            true_and] at same
          rcases each.1 otherNamed.1 (.furtherText _ _) (.furtherText _ _) same with ⟨rfl, further⟩
          rcases induction each.2 otherNamed.2 further with ⟨rfl, rests⟩
          exact ⟨rfl, rests⟩

theorem text_append_ne_unit {first : TypeForm} (named : first.Named) (elements : List TypeForm) :
    (tuple (first :: elements)).text ++ rest ≠ (tuple []).text ++ otherRest := by
  intro same
  have closed : first.text ++ (furtherText elements ++ rest) = ')' :: otherRest := by
    simpa [text] using same
  exact named.text_append_ne_closer (by decide) _ closed

theorem tuple_text_append_inj {elements others : List TypeForm}
    (named : ∀ element ∈ elements, element.Named) (each : ∀ element ∈ elements, element.ReadsApart)
    (otherNamed : ∀ other ∈ others, other.Named)
    (same : (tuple elements).text ++ rest = (tuple others).text ++ otherRest) :
    elements = others ∧ rest = otherRest := by
  cases elements with
  | nil =>
      cases others with
      | nil => exact ⟨rfl, List.append_cancel_left same⟩
      | cons otherFirst others =>
          exact absurd same.symm (text_append_ne_unit (otherNamed _ List.mem_cons_self) others)
  | cons first elements =>
      cases others with
      | nil => exact absurd same (text_append_ne_unit (named _ List.mem_cons_self) elements)
      | cons otherFirst others =>
          rw [List.forall_mem_cons] at each otherNamed
          simp only [text, List.cons_append, List.append_assoc, List.cons.injEq, true_and] at same
          rcases each.1 otherNamed.1 (.furtherText _ _) (.furtherText _ _) same with ⟨rfl, further⟩
          rcases furtherText_append_inj each.2 otherNamed.2 further with ⟨rfl, rests⟩
          exact ⟨rfl, rests⟩

theorem ReadsApart.tuple {elements : List TypeForm} (named : ∀ element ∈ elements, element.Named)
    (each : ∀ element ∈ elements, element.ReadsApart) : (tuple elements).ReadsApart := by
  -- A tuple is closed by its own mark, so it does not matter what ends the texts.
  intro other rest otherRest otherNamed _ _ same
  cases (Named.tuple named).alike otherNamed same with
  | tuples _ others =>
      cases otherNamed with
      | tuple otherNamed =>
          rcases tuple_text_append_inj named each otherNamed same with ⟨rfl, rests⟩
          exact ⟨rfl, rests⟩

theorem bracket_closing_inj {wrapper otherWrapper : Wrapper} (isBracket : wrapper.IsBracket)
    (otherIsBracket : otherWrapper.IsBracket) (named : wrapper.Named)
    (otherNamed : otherWrapper.Named)
    (same : wrapper.closing ++ rest = otherWrapper.closing ++ otherRest) :
    wrapper = otherWrapper ∧ rest = otherRest := by
  cases wrapper with
  | slice =>
      cases otherWrapper with
      | slice => exact ⟨rfl, (List.cons.inj same).2⟩
      | array => simp [Wrapper.closing] at same
      | reference | pointer => cases otherIsBracket
  | array length =>
      cases otherWrapper with
      | slice => simp [Wrapper.closing] at same
      | array otherLength =>
          simp only [Wrapper.closing, List.cons_append, List.append_assoc, List.nil_append,
            List.cons.injEq, true_and] at same
          rcases IsName.append_inj named otherNamed (ends_cons (by decide) _)
            (ends_cons (by decide) _) same with ⟨rfl, closed⟩
          exact ⟨rfl, (List.cons.inj closed).2⟩
      | reference | pointer => cases otherIsBracket
  | reference | pointer => cases isBracket

theorem ReadsApart.wrapped {wrapper : Wrapper} (lengths : wrapper.Named) (named : inner.Named)
    (within : inner.ReadsApart) : (wrapped wrapper inner).ReadsApart := by
  intro other rest otherRest otherNamed ends otherEnds same
  cases (Named.wrapped lengths named).alike otherNamed same with
  | wrapped _ otherWrapper _ otherInner =>
      cases otherNamed with
      | wrapped otherLengths otherWithin =>
          have inside := ends.closing wrapper
          have otherInside := otherEnds.closing otherWrapper
          simp only [text, List.append_assoc] at same
          rcases Wrapper.opening_append_cases same with
            ⟨opened, wrappers⟩ | ⟨_, _, isMut⟩ | ⟨_, _, isMut⟩
          · rcases within otherWithin inside otherInside opened with ⟨rfl, closed⟩
            rcases wrappers with rfl | ⟨isBracket, otherIsBracket⟩
            · exact ⟨rfl, List.append_cancel_left closed⟩
            · rcases bracket_closing_inj isBracket otherIsBracket lengths otherLengths closed with
                ⟨rfl, rests⟩
              exact ⟨rfl, rests⟩
          · exact absurd isMut (named.text_append_ne_mut inside _)
          · exact absurd isMut (otherWithin.text_append_ne_mut otherInside _)

/-- By induction on the form: what is written around its parts ends each of them. -/
theorem Named.readsApart (named : form.Named) : form.ReadsApart := by
  induction named with
  | leaf isName => exact isName.readsApart
  | tuple named each => exact ReadsApart.tuple named each
  | wrapped lengths named within => exact ReadsApart.wrapped lengths named within

theorem Named.text_inj (named : form.Named) (otherNamed : other.Named) :
    form.text = other.text ↔ form = other := by
  refine ⟨fun same => ?_, congrArg text⟩
  apply (named.readsApart otherNamed ends_nil ends_nil _).1
  rw [same]

end TypeForm

/-- Types whose names are proper have the same display name exactly if they have the same form. -/
theorem RustType.displayName_eq_iff {left right : RustType} (named : left.form.Named)
    (otherNamed : right.form.Named) :
    left.displayName = right.displayName ↔ left.form = right.form := by
  rw [← String.toList_inj, toList_displayName, toList_displayName, named.text_inj otherNamed]

end CrateGraph
