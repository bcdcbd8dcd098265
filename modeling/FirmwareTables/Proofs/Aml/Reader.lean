import FirmwareTables.Proofs.Aml.Encoded
import FirmwareTables.Proofs.Bytes.LittleEndian

set_option autoImplicit false

namespace FirmwareTables.Aml

def readPackageLength : Bytes → Option (Nat × Bytes)
  | [] => none
  | lead :: rest =>
    let count := lead.toNat / 64
    if count = 0 then some (lead.toNat, rest)
    else if lead.toNat / 16 % 4 = 0 then
      (Bytes.splitExact count rest).map fun (high, rest) =>
        (lead.toNat % 16 + 16 * Bytes.ofLittleEndian high, rest)
    else none

def readPackage (bytes : Bytes) : Option (Bytes × Bytes) := do
  let (length, rest) ← readPackageLength bytes
  let own := bytes.length - rest.length
  if own ≤ length then Bytes.splitExact (length - own) rest else none

def isLeadByte (b : UInt8) : Bool := (0x41 ≤ b && b ≤ 0x5A) || b == 0x5F

def isNameByte (b : UInt8) : Bool := isLeadByte b || (0x30 ≤ b && b ≤ 0x39)

def isSegment : Bytes → Bool
  | [a, b, c, d] => isLeadByte a && isNameByte b && isNameByte c && isNameByte d
  | _ => false

def readSegment (bytes : Bytes) : Option (FixedBytes 4 × Bytes) := do
  let (segment, rest) ← FixedBytes.read 4 bytes
  if isSegment segment.bytes then some (segment, rest) else none

def readSegments : Nat → Bytes → Option (List (FixedBytes 4) × Bytes)
  | 0, bytes => some ([], bytes)
  | count + 1, bytes => do
    let (segment, rest) ← readSegment bytes
    let (segments, rest) ← readSegments count rest
    return (segment :: segments, rest)

def readRoot : Bytes → Bool × Bytes
  | [] => (false, [])
  | b :: rest => if b = 0x5C then (true, rest) else (false, b :: rest)

def readCount : Bytes → Option (Nat × Bytes)
  | [] => none
  | mark :: rest =>
    if mark = 0x2E then some (2, rest)
    else if mark = 0x2F then
      match rest with
      | [] => none
      | count :: rest => if count = 0 then none else some (count.toNat, rest)
    else some (1, mark :: rest)

def readPath (bytes : Bytes) : Option (Path × Bytes) := do
  let (rooted, rest) := readRoot bytes
  let (count, rest) ← readCount rest
  let (segments, rest) ← readSegments count rest
  return ({ rooted, segments }, rest)

def readText : Bytes → Option (Bytes × Bytes)
  | [] => none
  | b :: rest =>
    if b = 0 then some ([], rest)
    else (readText rest).map fun (content, rest) => (b :: content, rest)

def readData : Bytes → Option (Term × Bytes)
  | [] => none
  | operator :: rest =>
    if operator = 0x00 ∨ operator = 0x01 then some (.integer (.byte operator), rest)
    else if operator = 0x0A then
      (Bytes.splitExact 1 rest).map fun (bytes, rest) =>
        (.integer (.byte (UInt8.ofNat (Bytes.ofLittleEndian bytes))), rest)
    else if operator = 0x0B then
      (Bytes.splitExact 2 rest).map fun (bytes, rest) =>
        (.integer (.word (Bytes.toWord16 bytes)), rest)
    else if operator = 0x0C then
      (Bytes.splitExact 4 rest).map fun (bytes, rest) =>
        (.integer (.dword (Bytes.toWord32 bytes)), rest)
    else if operator = 0x0E then
      (Bytes.splitExact 8 rest).map fun (bytes, rest) =>
        (.integer (.qword (Bytes.toWord64 bytes)), rest)
    else if operator = 0x0D then
      (readText rest).map fun (content, rest) => (.string content, rest)
    else none

-- Three bits for the number of arguments and one for being serialized; the others are zero.
def readMethodFlags (flags : UInt8) : Option (UInt8 × Bool) :=
  if flags.toNat < 16 then some (UInt8.ofNat (flags.toNat % 8), flags.toNat / 8 = 1) else none

mutual

def readTerm : Nat → Bytes → Option (Term × Bytes)
  | 0, _ => none
  | _ + 1, [] => none
  | fuel + 1, operator :: rest =>
    if operator = 0x08 then do
      let (target, rest) ← readPath rest
      let (value, rest) ← readData rest
      return (.name target value, rest)
    else if operator = 0xA4 then do
      let (value, rest) ← readData rest
      return (.ret value, rest)
    else if operator = 0x10 then do
      let (body, rest) ← readPackage rest
      let (target, block) ← readPath body
      let children ← readAll fuel block
      return (.scope target children, rest)
    else if operator = 0x14 then do
      let (body, rest) ← readPackage rest
      let (target, flagged) ← readPath body
      let flags ← flagged.head?
      let (arguments, serialized) ← readMethodFlags flags
      let terms ← readAll fuel flagged.tail
      return (.method target arguments serialized terms, rest)
    else if operator = 0x5B then do
      let extension ← rest.head?
      if extension = 0x82 then do
        let (body, rest) ← readPackage rest.tail
        let (target, block) ← readPath body
        let children ← readAll fuel block
        return (.device target children, rest)
      else none
    else readData (operator :: rest)

def readAll : Nat → Bytes → Option (List Term)
  | 0, _ => none
  | _ + 1, [] => some []
  | fuel + 1, b :: more => do
    let (term, rest) ← readTerm fuel (b :: more)
    let terms ← readAll fuel rest
    return term :: terms

end

def readBlock (bytes : Bytes) : Option (List Term) := readAll (bytes.length + 1) bytes

-- `length` in a lead byte and `count` more bytes.
def lengthForm : Nat → Nat → Bytes
  | 0, length => [UInt8.ofNat length]
  | count + 1, length =>
    UInt8.ofNat (64 * (count + 1) + length % 16) :: Bytes.littleEndian (count + 1) (length / 16)

def formRoom : Nat → Nat
  | 0 => 64
  | count + 1 => 16 * 256 ^ (count + 1)

@[simp] theorem length_lengthForm (count length : Nat) :
    (lengthForm count length).length = count + 1 := by
  cases count <;> simp [lengthForm]

theorem packageLength_eq_lengthForm {body count : Nat} (size : packageLengthSize body = count + 1) :
    packageLength body = lengthForm count (body + (count + 1)) := by
  cases count <;> simp [packageLength, size, lengthForm]

theorem packageLengthSize_room {body : Nat} (fits : body + packageLengthSize body < 2 ^ 28) :
    ∃ count, count ≤ 3 ∧ packageLengthSize body = count + 1 ∧
      body + (count + 1) < formRoom count := by
  unfold packageLengthSize at fits ⊢
  by_cases one : body + 1 < 0x40
  · exact ⟨0, by decide, if_pos one, one⟩
  by_cases two : body + 2 < 0x1000
  · exact ⟨1, by decide, by simp only [if_neg one, if_pos two], two⟩
  by_cases three : body + 3 < 0x100000
  · exact ⟨2, by decide, by simp only [if_neg one, if_neg two, if_pos three], three⟩
  · simp only [if_neg one, if_neg two, if_neg three] at fits ⊢
    exact ⟨3, by decide, rfl, fits⟩

theorem splitExact_littleEndian (count n : Nat) (rest : Bytes) :
    Bytes.splitExact count (Bytes.littleEndian count n ++ rest) =
      some (Bytes.littleEndian count n, rest) := by
  have split := Bytes.splitExact_append (Bytes.littleEndian count n) rest
  rwa [Bytes.length_littleEndian] at split

theorem readPackageLength_lengthForm {count length : Nat} (few : count ≤ 3)
    (room : length < formRoom count) (rest : Bytes) :
    readPackageLength (lengthForm count length ++ rest) = some (length, rest) := by
  cases count with
  | zero =>
    rw [formRoom] at room
    have lead : (UInt8.ofNat length).toNat = length := by
      rw [UInt8.toNat_ofNat']
      omega
    have single : length / 64 = 0 := by omega
    simp only [lengthForm, List.cons_append, List.nil_append, readPackageLength, lead, single, if_true]
  | succ count =>
    rw [formRoom] at room
    have lead : (UInt8.ofNat (64 * (count + 1) + length % 16)).toNat =
        64 * (count + 1) + length % 16 := by
      rw [UInt8.toNat_ofNat']
      omega
    have top : (64 * (count + 1) + length % 16) / 64 = count + 1 := by omega
    have reserved : (64 * (count + 1) + length % 16) / 16 % 4 = 0 := by omega
    have low : (64 * (count + 1) + length % 16) % 16 = length % 16 := by omega
    have high : length / 16 % 256 ^ (count + 1) = length / 16 :=
      Nat.mod_eq_of_lt (Nat.div_lt_of_lt_mul room)
    have whole : length % 16 + 16 * (length / 16) = length := Nat.mod_add_div length 16
    simp only [lengthForm, List.cons_append, readPackageLength, lead, top,
      if_neg (Nat.succ_ne_zero count), reserved, if_true, splitExact_littleEndian, Option.map_some, low,
      Bytes.ofLittleEndian_littleEndian, high, whole]

theorem readPackageLength_append {body : Nat} (rest : Bytes)
    (fits : body + packageLengthSize body < 2 ^ 28) :
    readPackageLength (packageLength body ++ rest) = some (body + packageLengthSize body, rest) := by
  obtain ⟨count, few, size, room⟩ := packageLengthSize_room fits
  rw [packageLength_eq_lengthForm size, size]
  exact readPackageLength_lengthForm few room rest

theorem readPackage_append (body rest : Bytes)
    (fits : body.length + packageLengthSize body.length < 2 ^ 28) :
    readPackage (packageLength body.length ++ (body ++ rest)) = some (body, rest) := by
  have own : (packageLength body.length ++ (body ++ rest)).length - (body ++ rest).length =
      packageLengthSize body.length := by
    rw [List.length_append, length_packageLength]
    omega
  have inside : body.length + packageLengthSize body.length - packageLengthSize body.length =
      body.length := by omega
  simp only [readPackage, readPackageLength_append _ fits, Option.bind_eq_bind, Option.bind_some, own,
    inside, Bytes.splitExact_append]
  simp

structure Path.Legal (path : Path) : Prop where
  some_segment : path.segments ≠ []
  segments : ∀ segment ∈ path.segments, isSegment segment.bytes = true

theorem readSegment_append {segment : FixedBytes 4} (legal : isSegment segment.bytes = true)
    (rest : Bytes) : readSegment (segment.bytes ++ rest) = some (segment, rest) := by
  simp [readSegment, FixedBytes.read_append, legal]

theorem readSegments_append {segments : List (FixedBytes 4)}
    (legal : ∀ segment ∈ segments, isSegment segment.bytes = true) (rest : Bytes) :
    readSegments segments.length (segments.flatMap (·.bytes) ++ rest) = some (segments, rest) := by
  induction segments with
  | nil => rfl
  | cons segment more ih =>
    have now := legal segment (by simp)
    have later := ih fun other member => legal other (by simp [member])
    simp [readSegments, List.append_assoc, readSegment_append now, later]

theorem isSegment_front {bytes : Bytes} (legal : isSegment bytes = true) :
    ∃ b rest, bytes = b :: rest ∧ isLeadByte b = true := by
  match bytes, legal with
  | [a, b, c, d], legal =>
    simp only [isSegment, Bool.and_eq_true] at legal
    exact ⟨a, [b, c, d], rfl, legal.1.1.1⟩

-- Neither the root nor a mark nor an operator looks like the start of a segment.
theorem ne_of_isLeadByte {b : UInt8} (lead : isLeadByte b = true) :
    b ≠ 0x5C ∧ b ≠ 0x2E ∧ b ≠ 0x2F := by
  refine ⟨?_, ?_, ?_⟩ <;> rintro rfl <;> cases lead

theorem readRoot_append (rooted : Bool) {b : UInt8} (rest : Bytes) (plain : b ≠ 0x5C) :
    readRoot ((if rooted then [Path.rootByte] else []) ++ b :: rest) = (rooted, b :: rest) := by
  cases rooted with
  | true => rfl
  | false => simp [readRoot, plain]

theorem segmentMark_front {count : Nat} {mark : Bytes} (marked : Path.segmentMark count = .ok mark)
    {b : UInt8} (front : Bytes) (plain : b ≠ 0x5C) :
    ∃ c rest, mark ++ b :: front = c :: rest ∧ c ≠ 0x5C := by
  unfold Path.segmentMark at marked
  split at marked
  · cases marked
  · split at marked
    · cases marked
      exact ⟨b, front, rfl, plain⟩
    · split at marked
      · cases marked
        exact ⟨0x2E, b :: front, rfl, by decide⟩
      · split at marked
        · cases marked
          exact ⟨0x2F, _, rfl, by decide⟩
        · cases marked

theorem readCount_append {mark front : Bytes} {b : UInt8} {count : Nat}
    (marked : Path.segmentMark count = .ok mark) (lead : isLeadByte b = true) :
    readCount (mark ++ b :: front) = some (count, b :: front) := by
  obtain ⟨_, notDual, notMulti⟩ := ne_of_isLeadByte lead
  unfold Path.segmentMark at marked
  by_cases zero : count = 0
  · simp [zero] at marked
  by_cases one : count = 1
  · simp only [one, if_neg Nat.one_ne_zero, if_true, Except.ok.injEq] at marked
    simp [← marked, readCount, notDual, notMulti, one]
  by_cases two : count = 2
  · simp [two] at marked
    simp [← marked, readCount, two]
  by_cases few : count < 256
  · simp only [if_neg zero, if_neg one, if_neg two, if_pos few, Except.ok.injEq] at marked
    have number : (UInt8.ofNat count).toNat = count := by
      rw [UInt8.toNat_ofNat']
      omega
    have nonzero : UInt8.ofNat count ≠ 0 := by
      rw [ne_eq, ← UInt8.toNat_inj, number]
      exact zero
    simp [← marked, readCount, nonzero, number]
  · simp [zero, one, two, few] at marked

theorem readPath_append {path : Path} (legal : path.Legal) {bytes : Bytes}
    (encoded : path.encode = .ok bytes) (rest : Bytes) :
    readPath (bytes ++ rest) = some (path, rest) := by
  obtain ⟨mark, marked, rfl⟩ := Path.encode_eq_ok encoded
  have segments := readSegments_append legal.segments rest
  obtain ⟨b, front, start, lead⟩ : ∃ b front,
      path.segments.flatMap (·.bytes) ++ rest = b :: front ∧ isLeadByte b = true := by
    match listed : path.segments, legal.some_segment with
    | segment :: more, _ =>
      obtain ⟨b, back, whole, lead⟩ := isSegment_front (legal.segments segment (by simp [listed]))
      exact ⟨b, back ++ more.flatMap (·.bytes) ++ rest, by simp [whole], lead⟩
  obtain ⟨c, more, whole, plain⟩ := segmentMark_front marked front (ne_of_isLeadByte lead).1
  have counted : readCount (mark ++ b :: front) = some (path.segments.length, b :: front) :=
    readCount_append marked lead
  rw [whole] at counted
  rw [start] at segments
  simp only [readPath, List.append_assoc, start, whole, readRoot_append path.rooted more plain, counted,
    Option.bind_eq_bind, Option.bind_some, segments]
  rfl

theorem readText_append {content : Bytes} (closed : 0 ∉ content) (rest : Bytes) :
    readText (content ++ 0 :: rest) = some (content, rest) := by
  induction content with
  | nil => rfl
  | cons b more ih =>
    simp only [List.mem_cons, not_or] at closed
    simp [readText, ih closed.2, Ne.symm closed.1]

def Term.IsData : Term → Prop
  | .integer _ => True
  | .string content => 0 ∉ content
  | _ => False

theorem readData_append {term : Term} (data : term.IsData) {bytes : Bytes}
    (encoded : term.encode = .ok bytes) (rest : Bytes) :
    readData (bytes ++ rest) = some (term, rest) := by
  match term, data with
  | .integer (.byte v), _ =>
    simp only [Term.encode, Integer.encode, Except.ok.injEq] at encoded
    by_cases small : v = 0 ∨ v = 1
    · rw [if_pos small] at encoded
      simp [← encoded, readData, small]
    · rw [if_neg small] at encoded
      simp [← encoded, readData, Bytes.splitExact, Bytes.ofLittleEndian]
  | .integer (.word v), _ =>
    simp only [Term.encode, Integer.encode, Except.ok.injEq] at encoded
    have split : Bytes.splitExact 2 (Bytes.word16 v ++ rest) = some (Bytes.word16 v, rest) :=
      splitExact_littleEndian 2 _ rest
    simp [← encoded, readData, split]
  | .integer (.dword v), _ =>
    simp only [Term.encode, Integer.encode, Except.ok.injEq] at encoded
    have split : Bytes.splitExact 4 (Bytes.word32 v ++ rest) = some (Bytes.word32 v, rest) :=
      splitExact_littleEndian 4 _ rest
    simp [← encoded, readData, split]
  | .integer (.qword v), _ =>
    simp only [Term.encode, Integer.encode, Except.ok.injEq] at encoded
    have split : Bytes.splitExact 8 (Bytes.word64 v ++ rest) = some (Bytes.word64 v, rest) :=
      splitExact_littleEndian 8 _ rest
    simp [← encoded, readData, split]
  | .string content, closed =>
    simp only [Term.encode, Except.ok.injEq] at encoded
    simp [← encoded, readData, readText_append closed]

end FirmwareTables.Aml
