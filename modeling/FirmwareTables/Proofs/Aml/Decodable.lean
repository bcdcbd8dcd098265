import FirmwareTables.Proofs.Aml.RoundTrip

set_option autoImplicit false

namespace FirmwareTables.Aml

def readFirst (bytes : Bytes) : Option (Term × Bytes) := readTerm bytes.length bytes

theorem readFirst_encode {term : Term} {bytes : Bytes} (legal : term.Legal)
    (writable : Writable term.packages) (encoded : term.encode = .ok bytes) (rest : Bytes) :
    readFirst (bytes ++ rest) = some (term, rest) := by
  apply (read_encode (bytes ++ rest).length).1 term bytes rest legal encoded writable
  rw [List.length_append]
  exact Nat.le_add_right _ _

def Path.Short (path : Path) : Prop := path.segments.length ≤ 255

namespace Term

mutual

def paths : Term → List Path
  | .integer _ => []
  | .string _ => []
  | .path target => [target]
  | .name target value => target :: value.paths
  | .device target children => target :: pathsAll children
  | .scope target children => target :: pathsAll children
  | .method target _ _ body => target :: pathsAll body
  | .ret value => value.paths

def pathsAll : List Term → List Path
  | [] => []
  | term :: rest => term.paths ++ pathsAll rest

end

theorem IsData.legal {value : Term} (data : value.IsData) : value.Legal := by
  cases value with
  | integer _ => trivial
  | string content => exact data
  | _ => exact absurd data id

end Term

-- Encoding goes well when the paths are short, and otherwise it is a path that it complains of.
structure Settles (short : Prop) (encoded : Except PathError Bytes) : Prop where
  succeeds : short → ∃ bytes, encoded = .ok bytes
  fails : ¬short → encoded = .error .segmentLength

section Settles

variable {p q : Prop} {x y : Except PathError Bytes}

theorem settles_ok (bytes : Bytes) (short : p) : Settles p (.ok bytes) where
  succeeds _ := ⟨bytes, rfl⟩
  fails long := absurd short long

theorem Settles.map (settles : Settles p x) (f : Bytes → Bytes) :
    Settles p (do let bytes ← x; return f bytes) where
  succeeds short := by
    obtain ⟨bytes, rfl⟩ := settles.succeeds short
    exact ⟨f bytes, rfl⟩
  fails long := by
    rw [settles.fails long]
    rfl

theorem Settles.join (first : Settles p x) (second : Settles q y) (f : Bytes → Bytes → Bytes) :
    Settles (p ∧ q) (do let front ← x; let back ← y; return f front back) where
  succeeds short := by
    obtain ⟨front, rfl⟩ := first.succeeds short.1
    obtain ⟨back, rfl⟩ := second.succeeds short.2
    exact ⟨f front back, rfl⟩
  fails long := by
    by_cases short : p
    · have later : ¬q := fun rest => long ⟨short, rest⟩
      obtain ⟨front, rfl⟩ := first.succeeds short
      rw [second.fails later]
      rfl
    · rw [first.fails short]
      rfl

end Settles

theorem Path.segmentMark_of_long {path : Path} (long : ¬path.Short) :
    segmentMark path.segments.length = .error .segmentLength := by
  unfold Short at long
  rw [segmentMark, if_neg (by omega), if_neg (by omega), if_neg (by omega), if_neg (by omega)]

theorem Path.encode_of_long {path : Path} (long : ¬path.Short) :
    path.encode = .error .segmentLength := by
  rw [encode, segmentMark_of_long long]
  rfl

theorem Path.settles_encode {path : Path} (legal : path.Legal) : Settles path.Short path.encode := by
  have some_segment : path.segments.length ≠ 0 := by
    rw [ne_eq, List.length_eq_zero_iff]
    exact legal.some_segment
  have mark : Settles path.Short (segmentMark path.segments.length) := by
    constructor
    · intro short
      unfold Short at short
      unfold segmentMark
      rw [if_neg some_segment]
      split
      · exact ⟨_, rfl⟩
      split
      · exact ⟨_, rfl⟩
      · rw [if_pos (by omega)]
        exact ⟨_, rfl⟩
    · exact segmentMark_of_long
  exact mark.map _

namespace Term

mutual

theorem settles_encode : ∀ {term : Term}, term.Legal →
    Settles (∀ path ∈ term.paths, path.Short) term.encode
  | .integer value, _ => settles_ok value.encode nofun
  | .string content, _ => settles_ok _ nofun
  | .path _, legal => absurd legal id
  | .name target value, legal => by
    rw [paths, List.forall_mem_cons]
    exact (Path.settles_encode legal.1).join (settles_encode legal.2.legal) _
  | .device target children, legal => by
    rw [paths, List.forall_mem_cons]
    exact (Path.settles_encode legal.1).join (settles_encodeAll legal.2) _
  | .scope target children, legal => by
    rw [paths, List.forall_mem_cons]
    exact (Path.settles_encode legal.1).join (settles_encodeAll legal.2) _
  | .method target arguments serialized body, legal => by
    rw [paths, List.forall_mem_cons]
    exact (Path.settles_encode legal.1).join (settles_encodeAll legal.2.2) _
  | .ret value, legal => (settles_encode (IsData.legal legal)).map _

theorem settles_encodeAll : ∀ {terms : List Term}, AllLegal terms →
    Settles (∀ path ∈ pathsAll terms, path.Short) (encodeAll terms)
  | [], _ => settles_ok [] nofun
  | term :: rest, legal => by
    rw [pathsAll, List.forall_mem_append]
    exact (settles_encode legal.1).join (settles_encodeAll legal.2) _

end

end Term

theorem eq_of_encode_append {one two : Term} {front back rest more : Bytes} (legal : one.Legal)
    (legalTwo : two.Legal) (writable : Writable one.packages) (writableTwo : Writable two.packages)
    (encoded : one.encode = .ok front) (encodedTwo : two.encode = .ok back)
    (same : front ++ rest = back ++ more) : one = two ∧ rest = more := by
  have read := readFirst_encode legal writable encoded rest
  have readTwo := readFirst_encode legalTwo writableTwo encodedTwo more
  rw [same, readTwo, Option.some.injEq, Prod.mk.injEq] at read
  exact ⟨read.1.symm, read.2.symm⟩

-- Byte code that a reader takes for this term alone and knows the end of.
structure Decodes (bytes : Bytes) (term : Term) : Prop where
  encoded : term.encode = .ok bytes
  read : ∀ rest, readFirst (bytes ++ rest) = some (term, rest)
  only : ∀ (other : Term) (code rest more : Bytes), other.Legal → Writable other.packages →
    other.encode = .ok code → bytes ++ rest = code ++ more → term = other ∧ rest = more

/-- Legal terms with short paths and packages of writable lengths have byte code, which a reader tells
apart from whatever follows. A path that is too long is refused, alone and in a term. -/
theorem encode_decodable :
    (∀ term : Term, term.Legal → (∀ path ∈ term.paths, path.Short) → Writable term.packages →
      ∃ bytes, Decodes bytes term) ∧
    (∀ n : UInt64, (Integer.ofWord n).value = n.toNat) ∧
    (∀ path : Path, ¬path.Short → path.encode = .error .segmentLength) ∧
    ∀ term : Term, term.Legal → (∃ path ∈ term.paths, ¬path.Short) →
      term.encode = .error .segmentLength := by
  refine ⟨?_, Integer.value_ofWord, fun _ => Path.encode_of_long, ?_⟩
  · intro term legal short writable
    obtain ⟨bytes, encoded⟩ := (Term.settles_encode legal).succeeds short
    refine ⟨bytes, encoded, readFirst_encode legal writable encoded, ?_⟩
    intro other code rest more otherLegal otherWritable otherEncoded same
    exact eq_of_encode_append legal otherLegal writable otherWritable encoded otherEncoded same
  · intro term legal long
    obtain ⟨path, member, tooLong⟩ := long
    exact (Term.settles_encode legal).fails fun short => tooLong (short path member)

def coreSegment : FixedBytes 4 := ⟨[0x43, 0x30, 0x30, 0x41], rfl⟩

def pathOf (rooted : Bool) (count : Nat) : Path where
  rooted
  segments := List.replicate count coreSegment

theorem legal_pathOf (rooted : Bool) {count : Nat} (some_segment : count ≠ 0) :
    (pathOf rooted count).Legal where
  some_segment := by simpa [pathOf] using some_segment
  segments := by
    intro segment member
    rw [List.eq_of_mem_replicate member]
    rfl

theorem short_pathOf (rooted : Bool) (count : Nat) : (pathOf rooted count).Short ↔ count ≤ 255 := by
  rw [Path.Short, pathOf, List.length_replicate]

theorem size_pathOf (rooted : Bool) (count : Nat) :
    (pathOf rooted count).size = (if rooted then 1 else 0) + Path.markSize count + 4 * count := by
  rw [Path.size, pathOf, List.length_replicate]

def nested : Term :=
  .scope (pathOf true 1) [
    .device (pathOf false 2) [
      .name (pathOf false 3) (.string [0x41, 0x42]),
      .method (pathOf false 1) 7 true [.ret (.integer (.word 1))]],
    .name (pathOf true 255) (.integer (.byte 1))]

theorem encode_decodable_nested :
    nested.Legal ∧ (∀ path ∈ nested.paths, path.Short) ∧ Writable nested.packages ∧
      (∃ bytes, Decodes bytes nested) ∧
      ¬(pathOf false 256).Short ∧ (pathOf false 256).encode = .error .segmentLength ∧
      (Term.name (pathOf false 256) (.integer (.byte 1))).encode = .error .segmentLength := by
  have path (rooted : Bool) {count : Nat} (some_segment : count ≠ 0) := legal_pathOf rooted some_segment
  have closed : (Term.string [0x41, 0x42]).IsData := by
    simp [Term.IsData]
  have legal : nested.Legal :=
    ⟨path true (by decide), ⟨path false (by decide), ⟨path false (by decide), closed⟩,
      ⟨path false (by decide), by decide, trivial, trivial⟩, trivial⟩,
      ⟨path true (by decide), trivial⟩, trivial⟩
  have short : ∀ path ∈ nested.paths, path.Short := by
    simp [nested, Term.paths, Term.pathsAll, short_pathOf]
  have writable : Writable nested.packages := by
    simp only [Writable, nested, Term.packages, Term.packagesAll, Term.size, Term.sizeAll,
      size_pathOf, List.append_nil, List.nil_append]
    decide
  have long : ¬(pathOf false 256).Short := by
    rw [short_pathOf]
    decide
  exact ⟨legal, short, writable, encode_decodable.1 nested legal short writable, long,
    encode_decodable.2.2.1 _ long, encode_decodable.2.2.2 _ ⟨path false (by decide), trivial⟩
      ⟨_, List.mem_cons_self .., long⟩⟩

end FirmwareTables.Aml
