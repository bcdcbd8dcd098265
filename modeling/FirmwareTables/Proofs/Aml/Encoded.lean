import FirmwareTables.Action
import FirmwareTables.Aml.Term
import Mathlib

set_option autoImplicit false

namespace FirmwareTables.Aml

namespace Term

section Encoded

variable {bytes : Bytes}

theorem encode_name_eq_ok {target : Path} {value : Term} :
    (Term.name target value).encode = .ok bytes ↔ ∃ front back,
      target.encode = .ok front ∧ value.encode = .ok back ∧ 0x08 :: (front ++ back) = bytes := by
  simp [encode, Action.bind_eq_ok, pure, Except.pure]

theorem encode_ret_eq_ok {value : Term} :
    (Term.ret value).encode = .ok bytes ↔ ∃ back, value.encode = .ok back ∧ 0xA4 :: back = bytes := by
  simp [encode, Action.bind_eq_ok, pure, Except.pure]

theorem encode_device_eq_ok {target : Path} {children : List Term} :
    (Term.device target children).encode = .ok bytes ↔ ∃ front block,
      target.encode = .ok front ∧ encodeAll children = .ok block ∧
        package [0x5B, 0x82] (front ++ block) = bytes := by
  simp [encode, Action.bind_eq_ok, pure, Except.pure]

theorem encode_scope_eq_ok {target : Path} {children : List Term} :
    (Term.scope target children).encode = .ok bytes ↔ ∃ front block,
      target.encode = .ok front ∧ encodeAll children = .ok block ∧
        package [0x10] (front ++ block) = bytes := by
  simp [encode, Action.bind_eq_ok, pure, Except.pure]

theorem encode_method_eq_ok {target : Path} {arguments : UInt8} {serialized : Bool}
    {body : List Term} :
    (Term.method target arguments serialized body).encode = .ok bytes ↔ ∃ front block,
      target.encode = .ok front ∧ encodeAll body = .ok block ∧
        package [0x14] (front ++ methodFlags arguments serialized :: block) = bytes := by
  simp [encode, Action.bind_eq_ok, pure, Except.pure]

theorem encodeAll_cons_eq_ok {term : Term} {rest : List Term} :
    encodeAll (term :: rest) = .ok bytes ↔ ∃ front back,
      term.encode = .ok front ∧ encodeAll rest = .ok back ∧ front ++ back = bytes := by
  simp [encodeAll, Action.bind_eq_ok, pure, Except.pure]

end Encoded

end Term

theorem Integer.value_ofWord (n : UInt64) : (Integer.ofWord n).value = n.toNat := by
  have small := n.toNat_lt
  unfold Integer.ofWord
  split
  · simp only [value, UInt64.toNat_toUInt8]
    omega
  · split
    · simp only [value, UInt64.toNat_toUInt16]
      omega
    · split
      · simp only [value, UInt64.toNat_toUInt32]
        omega
      · rfl

theorem Path.encode_eq_ok {path : Path} {bytes : Bytes} (encoded : path.encode = .ok bytes) :
    ∃ mark, segmentMark path.segments.length = .ok mark ∧
      bytes = (if path.rooted then [rootByte] else []) ++ mark ++ path.segments.flatMap (·.bytes) := by
  match marked : segmentMark path.segments.length with
  | .error cause => simp [Path.encode, marked, bind, Except.bind] at encoded
  | .ok mark =>
    simp only [Path.encode, marked, bind, Except.bind, pure, Except.pure, Except.ok.injEq] at encoded
    exact ⟨mark, rfl, encoded.symm⟩

theorem length_package (operator body : Bytes) :
    (package operator body).length =
      operator.length + packageLengthSize body.length + body.length := by
  simp [package, length_packageLength, Nat.add_assoc]

def declaredLength (body : Nat) : Nat := body + packageLengthSize body

def Path.markSize (count : Nat) : Nat := if count = 1 then 0 else if count = 2 then 1 else 2

def Path.size (path : Path) : Nat :=
  (if path.rooted then 1 else 0) + markSize path.segments.length + 4 * path.segments.length

theorem Path.length_segmentMark {count : Nat} {mark : Bytes} (marked : segmentMark count = .ok mark) :
    mark.length = markSize count := by
  unfold segmentMark at marked
  unfold markSize
  split at marked
  · cases marked
  split at marked
  · cases marked
    simp [*]
  split at marked
  · cases marked
    simp [*]
  split at marked
  · cases marked
    simp [*]
  · cases marked

theorem Path.length_encode {path : Path} {bytes : Bytes} (encoded : path.encode = .ok bytes) :
    bytes.length = path.size := by
  obtain ⟨mark, marked, rfl⟩ := Path.encode_eq_ok encoded
  have root : (if path.rooted then [rootByte] else []).length = if path.rooted then 1 else 0 := by
    split <;> rfl
  have segments : (path.segments.flatMap (·.bytes)).length = 4 * path.segments.length := by
    induction path.segments with
    | nil => rfl
    | cons segment rest ih =>
      simp only [List.flatMap_cons, List.length_append, List.length_cons, ih, FixedBytes.length_eq]
      omega
  rw [List.length_append, List.length_append, root, length_segmentMark marked, segments, size]

namespace Term

mutual

def size : Term → Nat
  | .integer value => value.encode.length
  | .string content => content.length + 2
  | .path target => target.size
  | .name target value => 1 + target.size + value.size
  | .device target children => 2 + declaredLength (target.size + sizeAll children)
  | .scope target children => 1 + declaredLength (target.size + sizeAll children)
  | .method target _ _ body => 1 + declaredLength (target.size + 1 + sizeAll body)
  | .ret value => 1 + value.size

def sizeAll : List Term → Nat
  | [] => 0
  | term :: rest => term.size + sizeAll rest

end

mutual

-- What the packages of a term declare, an outer one before those in it.
def packages : Term → List Nat
  | .integer _ => []
  | .string _ => []
  | .path _ => []
  | .name _ value => value.packages
  | .device target children => declaredLength (target.size + sizeAll children) :: packagesAll children
  | .scope target children => declaredLength (target.size + sizeAll children) :: packagesAll children
  | .method target _ _ body => declaredLength (target.size + 1 + sizeAll body) :: packagesAll body
  | .ret value => value.packages

def packagesAll : List Term → List Nat
  | [] => []
  | term :: rest => term.packages ++ packagesAll rest

end

theorem length_methodBody (front block : Bytes) (arguments : UInt8) (serialized : Bool) :
    (front ++ methodFlags arguments serialized :: block).length =
      front.length + 1 + block.length := by
  rw [List.length_append, List.length_cons]
  omega

mutual

theorem length_encode : ∀ {term : Term} {bytes : Bytes},
    term.encode = .ok bytes → bytes.length = term.size
  | .integer value, _, rfl => rfl
  | .string content, _, rfl => by
    simp [size]
  | .path target, _, encoded => Path.length_encode encoded
  | .name target value, _, encoded => by
    obtain ⟨front, back, target_ok, value_ok, rfl⟩ := encode_name_eq_ok.mp encoded
    simp only [List.length_cons, List.length_append, Path.length_encode target_ok,
      length_encode value_ok, size]
    omega
  | .device target children, _, encoded => by
    obtain ⟨front, block, target_ok, block_ok, rfl⟩ := encode_device_eq_ok.mp encoded
    simp only [length_package, List.length_cons, List.length_nil, List.length_append,
      Path.length_encode target_ok, length_encodeAll block_ok, size, declaredLength]
    omega
  | .scope target children, _, encoded => by
    obtain ⟨front, block, target_ok, block_ok, rfl⟩ := encode_scope_eq_ok.mp encoded
    simp only [length_package, List.length_cons, List.length_nil, List.length_append,
      Path.length_encode target_ok, length_encodeAll block_ok, size, declaredLength]
    omega
  | .method target arguments serialized body, _, encoded => by
    obtain ⟨front, block, target_ok, block_ok, rfl⟩ := encode_method_eq_ok.mp encoded
    rw [length_package, length_methodBody, Path.length_encode target_ok, length_encodeAll block_ok,
      size, declaredLength]
    simp only [List.length_cons, List.length_nil]
    omega
  | .ret value, _, encoded => by
    obtain ⟨back, value_ok, rfl⟩ := encode_ret_eq_ok.mp encoded
    rw [List.length_cons, length_encode value_ok, size]
    omega

theorem length_encodeAll : ∀ {terms : List Term} {bytes : Bytes},
    encodeAll terms = .ok bytes → bytes.length = sizeAll terms
  | [], _, rfl => rfl
  | term :: rest, _, encoded => by
    obtain ⟨front, back, front_ok, back_ok, rfl⟩ := encodeAll_cons_eq_ok.mp encoded
    rw [List.length_append, length_encode front_ok, length_encodeAll back_ok, sizeAll]

end

-- A package is longer than what it declares, and what it declares is longer than the body.
theorem lt_of_mem_package {operator body length : Nat} {inner : List Nat} (some_byte : 0 < operator)
    (inside : ∀ length ∈ inner, length < body) (member : length ∈ declaredLength body :: inner) :
    length < operator + declaredLength body := by
  cases member with
  | head => omega
  | tail _ member =>
    have small := inside length member
    rw [declaredLength]
    omega

mutual

theorem lt_size_of_mem_packages : ∀ {term : Term} {length : Nat},
    length ∈ term.packages → length < term.size
  | .integer _, _, member => nomatch member
  | .string _, _, member => nomatch member
  | .path _, _, member => nomatch member
  | .name target value, length, member => by
    have inside : length < value.size := lt_size_of_mem_packages member
    rw [size]
    omega
  | .device target children, _, member => by
    refine lt_of_mem_package (by decide) (fun length inner => ?_) member
    have inside := lt_sizeAll_of_mem_packagesAll inner
    omega
  | .scope target children, _, member => by
    refine lt_of_mem_package (by decide) (fun length inner => ?_) member
    have inside := lt_sizeAll_of_mem_packagesAll inner
    omega
  | .method target _ _ body, _, member => by
    refine lt_of_mem_package (by decide) (fun length inner => ?_) member
    have inside := lt_sizeAll_of_mem_packagesAll inner
    omega
  | .ret value, length, member => by
    have inside : length < value.size := lt_size_of_mem_packages member
    rw [size]
    omega

theorem lt_sizeAll_of_mem_packagesAll : ∀ {terms : List Term} {length : Nat},
    length ∈ packagesAll terms → length < sizeAll terms
  | [], _, member => nomatch member
  | term :: rest, _, member => by
    rw [sizeAll]
    cases List.mem_append.mp member with
    | inl first =>
      have inside := lt_size_of_mem_packages first
      omega
    | inr later =>
      have inside := lt_sizeAll_of_mem_packagesAll later
      omega

end

end Term

end FirmwareTables.Aml
