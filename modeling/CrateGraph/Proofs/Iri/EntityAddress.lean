import CrateGraph.Iri.Minter
import CrateGraph.Proofs.Iri.PercentDecoding

/-!
No two entities of a crate have the same address.

An address is a base and segments after slashes. The first segment names the category of a crate,
module, type or implementation and so tells how many segments belong to it; from there on segments
come in pairs of a category and a component, one pair for each step from an owner to what it owns.
Components are escaped, so that no slash and no parenthesis in them is taken for one of the
address. This makes addresses readable, and an address that is read as one entity cannot belong to
another.
-/

namespace CrateGraph.Iri

/-- What has an address of its own, with the names and numbers that identify it. -/
inductive Entity where
  | crate (name version : String)
  | module (crateName version path : String)
  | type (crateName version path : String)
  | implementation (crateName version id : String)
  | member (owner : Entity) (name signature : String)
  | parameter (owner : Entity) (ordinal : Nat)
  | typeParameter (owner : Entity) (ordinal : Nat)
  | lifetime (owner : Entity) (name : String)
  | variant (owner : Entity) (name : String)
deriving DecidableEq

namespace Entity

def iri (minter : Minter) : Entity → String
  | crate name version => minter.crate name version
  | module crateName version path => minter.module crateName version path
  | type crateName version path => minter.type crateName version path
  | implementation crateName version id => minter.implementation crateName version id
  | member owner name signature => Iri.member (owner.iri minter) name signature
  | parameter owner ordinal => Iri.parameter (owner.iri minter) ordinal
  | typeParameter owner ordinal => Iri.typeParameter (owner.iri minter) ordinal
  | lifetime owner name => Iri.lifetime (owner.iri minter) name
  | variant owner name => Iri.variant (owner.iri minter) name

/-- The entity with every lifetime in it named without its apostrophe. -/
def bare : Entity → Entity
  | member owner name signature => member owner.bare name signature
  | parameter owner ordinal => parameter owner.bare ordinal
  | typeParameter owner ordinal => typeParameter owner.bare ordinal
  | lifetime owner name => lifetime owner.bare (bareLifetime name)
  | variant owner name => variant owner.bare name
  | entity => entity

/-! ### Segments -/

def memberSegment (name signature : String) : String :=
  if signature = "" then escape name else escape name ++ "(" ++ escape signature ++ ")"

/-- The segments of the address of an entity whose lifetimes are bare. -/
def segments : Entity → List String
  | crate name version => ["crate", escape name, escape version]
  | module crateName version path => ["module", escape crateName, escape version, escape path]
  | type crateName version path => ["type", escape crateName, escape version, escape path]
  | implementation crateName version id => ["impl", escape crateName, escape version, escape id]
  | member owner name signature => owner.segments ++ ["member", memberSegment name signature]
  | parameter owner ordinal => owner.segments ++ ["param", ordinal.repr]
  | typeParameter owner ordinal => owner.segments ++ ["typeparam", ordinal.repr]
  | lifetime owner name => owner.segments ++ ["lifetime", escape name]
  | variant owner name => owner.segments ++ ["variant", escape name]

def afterSlash (segment : String) : List Char :=
  '/' :: segment.toList

theorem member_eq (owner name signature : String) :
    Iri.member owner name signature = owner ++ "/member/" ++ memberSegment name signature := by
  rw [Iri.member, memberSegment]
  split
  · rfl
  · simp only [String.append_assoc]

theorem toString_ordinal (ordinal : Nat) : toString (ordinal : Int) = ordinal.repr :=
  rfl

theorem toList_iri (minter : Minter) (entity : Entity) :
    (entity.iri minter).toList =
      minter.base.toList ++ entity.bare.segments.flatMap afterSlash := by
  induction entity with
  | crate name version => simp [iri, bare, segments, afterSlash, Minter.crate]
  | module crateName version path => simp [iri, bare, segments, afterSlash, Minter.module]
  | type crateName version path => simp [iri, bare, segments, afterSlash, Minter.type]
  | implementation crateName version id =>
      simp [iri, bare, segments, afterSlash, Minter.implementation]
  | member owner name signature induction =>
      simp [iri, bare, segments, afterSlash, member_eq, induction]
  | parameter owner ordinal induction =>
      rw [iri, Iri.parameter, toString_ordinal]
      simp [bare, segments, afterSlash, induction]
  | typeParameter owner ordinal induction =>
      rw [iri, Iri.typeParameter, toString_ordinal]
      simp [bare, segments, afterSlash, induction]
  | lifetime owner name induction =>
      simp [iri, bare, segments, afterSlash, Iri.lifetime, induction]
  | variant owner name induction =>
      simp [iri, bare, segments, afterSlash, Iri.variant, induction]

/-! ### Slashes stand between segments only -/

theorem slash_not_mem_memberSegment (name signature : String) :
    '/' ∉ (memberSegment name signature).toList := by
  have inName : '/' ∉ (escape name).toList := not_mem_escape (by decide) name
  have inSignature : '/' ∉ (escape signature).toList := not_mem_escape (by decide) signature
  rw [memberSegment]
  split
  · exact inName
  · simp [inName, inSignature]

theorem slash_not_mem_repr (ordinal : Nat) : '/' ∉ ordinal.repr.toList := by
  intro slash
  rw [Nat.toList_repr] at slash
  exact absurd (Nat.isDigit_of_mem_toDigits (by decide) (by decide) slash) (by decide)

theorem slash_not_mem_segments (entity : Entity) :
    ∀ segment ∈ entity.segments, '/' ∉ segment.toList := by
  have inEscape : ∀ text, '/' ∉ (escape text).toList := not_mem_escape (by decide)
  induction entity with
  | crate | module | type | implementation => simp [segments, inEscape]
  | member owner name signature induction =>
      simpa [segments, or_imp, forall_and, slash_not_mem_memberSegment] using induction
  | parameter owner ordinal induction | typeParameter owner ordinal induction =>
      have inOrdinal := slash_not_mem_repr ordinal
      simp only [segments, List.forall_mem_append, List.forall_mem_cons]
      exact ⟨induction, by decide, inOrdinal, by simp⟩
  | lifetime owner name induction | variant owner name induction =>
      simpa [segments, or_imp, forall_and, inEscape] using induction

def segmentsAfter (base address : String) : List String :=
  (((address.toList.drop base.toList.length).splitOn '/').drop 1).map String.ofList

/-- The text before the first slash counts as a segment. -/
theorem splitOn_afterSlash {front : List Char} {segments : List String} (first : '/' ∉ front)
    (single : ∀ segment ∈ segments, '/' ∉ segment.toList) :
    (front ++ segments.flatMap afterSlash).splitOn '/' = front :: segments.map String.toList := by
  induction segments generalizing front with
  | nil => rw [List.flatMap_nil, List.append_nil, List.splitOn_eq_singleton first, List.map_nil]
  | cons segment rest induction =>
      have next := single segment List.mem_cons_self
      have further := fun other member => single other (List.mem_cons_of_mem segment member)
      rw [List.flatMap_cons, afterSlash, List.cons_append,
        List.splitOn_append_cons_self_of_not_mem first, induction next further, List.map_cons]

theorem segmentsAfter_iri (minter : Minter) (entity : Entity) :
    segmentsAfter minter.base (entity.iri minter) = entity.bare.segments := by
  have split := splitOn_afterSlash List.not_mem_nil (slash_not_mem_segments entity.bare)
  rw [List.nil_append] at split
  rw [segmentsAfter, toList_iri, List.drop_left, split, List.drop_one, List.tail_cons, List.map_map]
  simp

/-! ### Reading an entity from its segments -/

/-- The name and the signature in a member's segment. -/
def readMember? (segment : String) : Option (String × String) :=
  let name := segment.toList.takeWhile (· != '(')
  match segment.toList.dropWhile (· != '(') with
  | [] => (unescape? name).map (·, "")
  | _ :: signature =>
      if signature.getLast? = some ')' then
        (unescape? name).bind fun name => (unescape? signature.dropLast).map (name, ·)
      else none

def readOrdinal? (segment : String) : Option Nat :=
  if segment.toList.all Char.isDigit then some (Nat.ofDigitChars 10 segment.toList 0) else none

/-- What an owner has under a category, from the segment after the category. -/
def readOwned? (owner : Entity) (category component : String) : Option Entity :=
  match category with
  | "member" => (readMember? component).map fun read => member owner read.1 read.2
  | "param" => (readOrdinal? component).map (parameter owner)
  | "typeparam" => (readOrdinal? component).map (typeParameter owner)
  | "lifetime" => (unescape? component.toList).map (lifetime owner)
  | "variant" => (unescape? component.toList).map (variant owner)
  | _ => none

def readOnward? (owner : Entity) : List String → Option Entity
  | [] => some owner
  | [_] => none
  | category :: component :: rest =>
      (readOwned? owner category component).bind fun entity => readOnward? entity rest

def readSegments? : List String → Option Entity
  | "crate" :: name :: version :: rest => do
      readOnward? (crate (← unescape? name.toList) (← unescape? version.toList)) rest
  | category :: crateName :: version :: last :: rest => do
      let crateName ← unescape? crateName.toList
      let version ← unescape? version.toList
      let last ← unescape? last.toList
      match category with
      | "module" => readOnward? (module crateName version last) rest
      | "type" => readOnward? (type crateName version last) rest
      | "impl" => readOnward? (implementation crateName version last) rest
      | _ => none
  | _ => none

theorem readMember?_memberSegment (name signature : String) :
    readMember? (memberSegment name signature) = some (name, signature) := by
  have plain : ∀ character ∈ (escape name).toList, (character != '(') = true := by
    intro character member
    rw [bne_iff_ne]
    intro parenthesis
    exact not_mem_escape (by decide) name (parenthesis ▸ member)
  rw [memberSegment]
  split
  next empty =>
    rw [readMember?, ← List.append_nil (escape name).toList, List.takeWhile_append_of_pos plain,
      List.dropWhile_append_of_pos plain, List.takeWhile_nil, List.dropWhile_nil, List.append_nil,
      unescape?_escape, empty]
    rfl
  next present =>
    have parts : (escape name ++ "(" ++ escape signature ++ ")").toList =
        (escape name).toList ++ '(' :: ((escape signature).toList ++ [')']) := by
      simp
    rw [readMember?, parts, List.takeWhile_append_of_pos plain, List.dropWhile_append_of_pos plain,
      List.takeWhile_cons_of_neg (by decide), List.dropWhile_cons_of_neg (by decide),
      List.append_nil]
    simp [unescape?_escape]

theorem readOrdinal?_repr (ordinal : Nat) : readOrdinal? ordinal.repr = some ordinal := by
  have digits : ordinal.repr.toList.all Char.isDigit = true := by
    rw [Nat.toList_repr, List.all_eq_true]
    intro digit member
    exact Nat.isDigit_of_mem_toDigits (by decide) (by decide) member
  rw [readOrdinal?, if_pos digits, Nat.toList_repr, Nat.ofDigitChars_ten_toDigits]

theorem readSegments?_append (entity : Entity) (rest : List String) :
    readSegments? (entity.segments ++ rest) = readOnward? entity rest := by
  induction entity generalizing rest with
  | crate name version => simp [segments, readSegments?, unescape?_escape]
  | module crateName version path => simp [segments, readSegments?, unescape?_escape]
  | type crateName version path => simp [segments, readSegments?, unescape?_escape]
  | implementation crateName version id => simp [segments, readSegments?, unescape?_escape]
  | member owner name signature induction =>
      rw [segments, List.append_assoc, induction]
      simp [readOnward?, readOwned?, readMember?_memberSegment]
  | parameter owner ordinal induction =>
      rw [segments, List.append_assoc, induction]
      simp [readOnward?, readOwned?, readOrdinal?_repr]
  | typeParameter owner ordinal induction =>
      rw [segments, List.append_assoc, induction]
      simp [readOnward?, readOwned?, readOrdinal?_repr]
  | lifetime owner name induction =>
      rw [segments, List.append_assoc, induction]
      simp [readOnward?, readOwned?, unescape?_escape]
  | variant owner name induction =>
      rw [segments, List.append_assoc, induction]
      simp [readOnward?, readOwned?, unescape?_escape]

def readAddress? (minter : Minter) (address : String) : Option Entity :=
  readSegments? (segmentsAfter minter.base address)

theorem readAddress?_iri (minter : Minter) (entity : Entity) :
    readAddress? minter (entity.iri minter) = some entity.bare := by
  have whole := readSegments?_append entity.bare []
  rw [List.append_nil] at whole
  rw [readAddress?, segmentsAfter_iri, whole, readOnward?]

theorem bare_eq_of_iri_eq {minter : Minter} {left right : Entity}
    (same : left.iri minter = right.iri minter) : left.bare = right.bare := by
  apply Option.some.inj
  rw [← readAddress?_iri minter left, ← readAddress?_iri minter right, same]

/-- Members without a signature that share an address share their owner and their name. -/
theorem owner_and_name_eq_of_member_eq {minter : Minter} {left right : Entity}
    {leftName rightName : String}
    (same : Iri.member (left.iri minter) leftName "" = Iri.member (right.iri minter) rightName "") :
    left.bare = right.bare ∧ leftName = rightName := by
  have bare : (member left leftName "").bare = (member right rightName "").bare :=
    bare_eq_of_iri_eq same
  simpa [Entity.bare] using bare

/-- Whatever the base, entities with the same address are the same entity: of one category, with
the same names and numbers and, all the way up, the same owners. Only the apostrophe in front of a
lifetime's name, which the address leaves out, may differ. -/
theorem same_address_iff_same_entity (base : String) (left right : Entity) :
    left.iri (Minter.ofBase base) = right.iri (Minter.ofBase base) ↔ left.bare = right.bare := by
  constructor
  · intro same
    have readLeft := readAddress?_iri (Minter.ofBase base) left
    rw [same, readAddress?_iri] at readLeft
    exact (Option.some.inj readLeft).symm
  · intro same
    rw [← String.toList_inj, toList_iri, toList_iri, same]

-- Parentheses in a name are not taken for those of a signature.
example : (member (crate "a" "1") "f(x)" "").iri (Minter.ofBase "b/") =
    "b/crate/a/1/member/f%28x%29" := by
  decide +kernel

end Entity

end CrateGraph.Iri
