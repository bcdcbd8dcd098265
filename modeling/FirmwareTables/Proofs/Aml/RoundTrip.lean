import FirmwareTables.Proofs.Aml.Reader

set_option autoImplicit false

namespace FirmwareTables.Aml

namespace Term

mutual

def Legal : Term → Prop
  | .integer _ => True
  | .string content => 0 ∉ content
  | .path _ => False
  | .name target value => target.Legal ∧ value.IsData
  | .device target children => target.Legal ∧ AllLegal children
  | .scope target children => target.Legal ∧ AllLegal children
  | .method target arguments _ body => target.Legal ∧ arguments ≤ 7 ∧ AllLegal body
  | .ret value => value.IsData

def AllLegal : List Term → Prop
  | [] => True
  | term :: rest => term.Legal ∧ AllLegal rest

end

theorem allLegal_iff {terms : List Term} : AllLegal terms ↔ ∀ term ∈ terms, term.Legal := by
  induction terms with
  | nil => simp [AllLegal]
  | cons term rest ih => simp [AllLegal, ih]

end Term

theorem readMethodFlags_methodFlags {arguments : UInt8} (few : arguments ≤ 7) (serialized : Bool) :
    readMethodFlags (Term.methodFlags arguments serialized) = some (arguments, serialized) := by
  have small : arguments.toNat < 8 := Nat.lt_succ_of_le (UInt8.le_iff_toNat_le.mp few)
  have table : ∀ n : Fin 8, readMethodFlags (Term.methodFlags (UInt8.ofNat n) serialized) =
      some (UInt8.ofNat n, serialized) := by
    cases serialized <;> decide
  have same := table ⟨arguments.toNat, small⟩
  rwa [UInt8.ofNat_toNat] at same

theorem Integer.length_encode_pos (value : Integer) : 1 ≤ value.encode.length := by
  cases value with
  | byte v =>
    simp only [encode]
    split <;> simp
  | word v => simp [encode]
  | dword v => simp [encode]
  | qword v => simp [encode]

theorem Term.size_pos {term : Term} (legal : term.Legal) : 1 ≤ term.size := by
  cases term with
  | integer value => exact value.length_encode_pos
  | path target => exact absurd legal id
  | _ =>
    simp only [size]
    omega

theorem readTerm_of_data (term : Term) (data : term.IsData) {bytes : Bytes}
    (encoded : term.encode = .ok bytes) (fuel : Nat) (rest : Bytes) :
    readTerm (fuel + 1) (bytes ++ rest) = some (term, rest) := by
  have read := readData_append data encoded rest
  -- The reader looks for the operators of terms with parts before it takes a term for data.
  obtain ⟨operator, more, rfl, listed⟩ : ∃ operator more, bytes = operator :: more ∧
      operator ≠ 0x08 ∧ operator ≠ 0xA4 ∧ operator ≠ 0x10 ∧ operator ≠ 0x14 ∧ operator ≠ 0x5B := by
    match term, data with
    | .integer (.byte v), _ =>
      cases encoded
      simp only [Integer.encode]
      by_cases small : v = 0 ∨ v = 1
      · rw [if_pos small]
        refine ⟨v, [], rfl, ?_⟩
        rcases small with rfl | rfl <;> decide
      · rw [if_neg small]
        exact ⟨0x0A, [v], rfl, by decide⟩
    | .integer (.word v), _ =>
      cases encoded
      exact ⟨0x0B, _, rfl, by decide⟩
    | .integer (.dword v), _ =>
      cases encoded
      exact ⟨0x0C, _, rfl, by decide⟩
    | .integer (.qword v), _ =>
      cases encoded
      exact ⟨0x0E, _, rfl, by decide⟩
    | .string content, _ =>
      cases encoded
      exact ⟨0x0D, _, rfl, by decide⟩
  obtain ⟨h1, h2, h3, h4, h5⟩ := listed
  rw [List.cons_append] at read ⊢
  simp [readTerm, h1, h2, h3, h4, h5, read]

def Writable (lengths : List Nat) : Prop := ∀ length ∈ lengths, length < 2 ^ 28

def ReadsBack (fuel : Nat) (term : Term) : Prop :=
  ∀ bytes rest, term.Legal → term.encode = .ok bytes → Writable term.packages →
    bytes.length ≤ fuel → readTerm fuel (bytes ++ rest) = some (term, rest)

def ReadsAllBack (fuel : Nat) (terms : List Term) : Prop :=
  ∀ bytes, Term.AllLegal terms → Term.encodeAll terms = .ok bytes →
    Writable (Term.packagesAll terms) → bytes.length < fuel → readAll fuel bytes = some terms

theorem readPackage_of_writable {body : Bytes} {size : Nat} {inner : List Nat}
    (length : body.length = size) (writable : Writable (declaredLength size :: inner)) (rest : Bytes) :
    readPackage (packageLength body.length ++ (body ++ rest)) = some (body, rest) := by
  have fits := writable _ (List.mem_cons_self ..)
  rw [declaredLength, ← length] at fits
  exact readPackage_append body rest fits

theorem Writable.inner {outer : Nat} {inner : List Nat} (writable : Writable (outer :: inner)) :
    Writable inner :=
  fun length member => writable length (List.mem_cons_of_mem _ member)

theorem length_block_lt {operator body block : Bytes} {fuel : Nat} (some_byte : 0 < operator.length)
    (enough : (package operator body).length ≤ fuel + 1) (inside : block.length ≤ body.length) :
    block.length < fuel := by
  have lead := (packageLengthSize_bounds body.length).1
  rw [length_package] at enough
  omega

theorem read_scoped {fuel : Nat} {operator front block : Bytes} {target : Path} {children : List Term}
    (inner : ReadsAllBack fuel children) (legal : target.Legal ∧ Term.AllLegal children)
    (target_ok : target.encode = .ok front) (block_ok : Term.encodeAll children = .ok block)
    (writable : Writable
      (declaredLength (target.size + Term.sizeAll children) :: Term.packagesAll children))
    (some_byte : 0 < operator.length)
    (enough : (package operator (front ++ block)).length ≤ fuel + 1) (rest : Bytes) :
    readPackage (packageLength (front ++ block).length ++ ((front ++ block) ++ rest)) =
        some (front ++ block, rest) ∧
      readPath (front ++ block) = some (target, block) ∧ readAll fuel block = some children := by
  have size : (front ++ block).length = target.size + Term.sizeAll children := by
    rw [List.length_append, Path.length_encode target_ok, Term.length_encodeAll block_ok]
  have less : block.length < fuel := length_block_lt some_byte enough (by simp)
  exact ⟨readPackage_of_writable size writable rest, readPath_append legal.1 target_ok block,
    inner block legal.2 block_ok writable.inner less⟩

theorem readsBack_device {fuel : Nat} {children : List Term} (inner : ReadsAllBack fuel children)
    (target : Path) : ReadsBack (fuel + 1) (.device target children) := by
  intro bytes rest legal encoded writable enough
  obtain ⟨front, block, target_ok, block_ok, rfl⟩ := Term.encode_device_eq_ok.mp encoded
  have read := read_scoped inner legal target_ok block_ok writable (by decide) enough rest
  generalize front ++ block = body at *
  simp [readTerm, package, List.append_assoc, read]

theorem readsBack_scope {fuel : Nat} {children : List Term} (inner : ReadsAllBack fuel children)
    (target : Path) : ReadsBack (fuel + 1) (.scope target children) := by
  intro bytes rest legal encoded writable enough
  obtain ⟨front, block, target_ok, block_ok, rfl⟩ := Term.encode_scope_eq_ok.mp encoded
  have read := read_scoped inner legal target_ok block_ok writable (by decide) enough rest
  generalize front ++ block = body at *
  simp [readTerm, package, List.append_assoc, read]

theorem readsBack_method {fuel : Nat} {terms : List Term} (inner : ReadsAllBack fuel terms)
    (target : Path) (arguments : UInt8) (serialized : Bool) :
    ReadsBack (fuel + 1) (.method target arguments serialized terms) := by
  intro bytes rest legal encoded writable enough
  obtain ⟨front, block, target_ok, block_ok, rfl⟩ := Term.encode_method_eq_ok.mp encoded
  have size : (front ++ Term.methodFlags arguments serialized :: block).length =
      target.size + 1 + Term.sizeAll terms := by
    rw [Term.length_methodBody, Path.length_encode target_ok, Term.length_encodeAll block_ok]
  have body := readPackage_of_writable size writable rest
  have path := readPath_append legal.1 target_ok (Term.methodFlags arguments serialized :: block)
  have flags := readMethodFlags_methodFlags legal.2.1 serialized
  have inside : block.length ≤ (front ++ Term.methodFlags arguments serialized :: block).length := by
    rw [Term.length_methodBody]
    omega
  have less : block.length < fuel := length_block_lt (by decide) enough inside
  have later := inner block legal.2.2 block_ok writable.inner less
  generalize front ++ Term.methodFlags arguments serialized :: block = whole at *
  simp [readTerm, package, List.append_assoc, body, path, flags, later]

theorem readsBack_name (fuel : Nat) (target : Path) (value : Term) :
    ReadsBack (fuel + 1) (.name target value) := by
  intro bytes rest legal encoded _ _
  obtain ⟨front, back, target_ok, value_ok, rfl⟩ := Term.encode_name_eq_ok.mp encoded
  have path := readPath_append legal.1 target_ok (back ++ rest)
  have data := readData_append legal.2 value_ok rest
  simp [readTerm, List.append_assoc, path, data]

theorem readsBack_ret (fuel : Nat) (value : Term) : ReadsBack (fuel + 1) (.ret value) := by
  intro bytes rest legal encoded _ _
  obtain ⟨back, value_ok, rfl⟩ := Term.encode_ret_eq_ok.mp encoded
  have data := readData_append legal value_ok rest
  simp [readTerm, data]

theorem readsBack_succ {fuel : Nat} (inner : ∀ terms, ReadsAllBack fuel terms) (term : Term) :
    ReadsBack (fuel + 1) term := by
  cases term with
  | integer v =>
    intro bytes rest _ encoded _ _
    exact readTerm_of_data (.integer v) trivial encoded fuel rest
  | string content =>
    intro bytes rest legal encoded _ _
    exact readTerm_of_data (.string content) legal encoded fuel rest
  | path p => exact fun _ _ legal => absurd legal id
  | name target value => exact readsBack_name fuel target value
  | device target children => exact readsBack_device (inner children) target
  | scope target children => exact readsBack_scope (inner children) target
  | method target arguments serialized body =>
    exact readsBack_method (inner body) target arguments serialized
  | ret value => exact readsBack_ret fuel value

theorem readsAllBack_succ {fuel : Nat} (single : ∀ term, ReadsBack fuel term)
    (many : ∀ terms, ReadsAllBack fuel terms) (terms : List Term) :
    ReadsAllBack (fuel + 1) terms := by
  intro bytes legal encoded writable enough
  cases terms with
  | nil =>
    cases encoded
    rfl
  | cons term rest =>
    obtain ⟨front, back, front_ok, back_ok, rfl⟩ := Term.encodeAll_cons_eq_ok.mp encoded
    have positive : 1 ≤ front.length := by
      rw [Term.length_encode front_ok]
      exact Term.size_pos legal.1
    have writableNow : Writable term.packages :=
      fun length member => writable length (List.mem_append_left _ member)
    have writableLater : Writable (Term.packagesAll rest) :=
      fun length member => writable length (List.mem_append_right _ member)
    rw [List.length_append] at enough
    have now := single term front back legal.1 front_ok writableNow (by omega)
    have later := many rest back legal.2 back_ok writableLater (by omega)
    match front, positive, now with
    | b :: more, _, now =>
      rw [List.cons_append] at now ⊢
      simp [readAll, now, later]

theorem read_encode (fuel : Nat) :
    (∀ term, ReadsBack fuel term) ∧ (∀ terms, ReadsAllBack fuel terms) := by
  -- What fuel does for a term it does for the lists inside it and the other way round, so both are shown
  -- together. A package is longer than the block in it, hence the block needs less fuel.
  induction fuel with
  | zero =>
    constructor
    · intro term bytes rest legal encoded _ enough
      have positive := Term.size_pos legal
      have size := Term.length_encode encoded
      omega
    · intro terms bytes _ _ _ enough
      omega
  | succ fuel ih =>
    obtain ⟨single, many⟩ := ih
    exact ⟨readsBack_succ many, readsAllBack_succ single many⟩

theorem readBlock_encodeAll {terms : List Term} {bytes : Bytes} (legal : Term.AllLegal terms)
    (encoded : Term.encodeAll terms = .ok bytes) (small : bytes.length ≤ 2 ^ 28) :
    readBlock bytes = some terms := by
  have writable : Writable (Term.packagesAll terms) := by
    intro length member
    have inside := Term.lt_sizeAll_of_mem_packagesAll member
    rw [← Term.length_encodeAll encoded] at inside
    omega
  exact (read_encode (bytes.length + 1)).2 terms bytes legal encoded writable (Nat.lt_succ_self _)

end FirmwareTables.Aml
