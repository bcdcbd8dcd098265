set_option autoImplicit false

namespace FirmwareTables.Json

inductive Problem where
  | endOfText
  | malformed
  | mismatch
  deriving DecidableEq, Repr

abbrev Reader := StateT (List Char) (Except Problem)

namespace Reader

variable {α : Type}

def isBlank (c : Char) : Bool := c = ' ' || c = '\n' || c = '\t' || c = '\r'

def skipBlanks : Reader Unit := modify (·.dropWhile isBlank)

def peek : Reader (Option Char) := do
  skipBlanks
  return (← get).head?

def peekValue : Reader Char := do
  match ← peek with
  | some c => return c
  | none => throw .endOfText

def skip : Reader Unit := modify (·.drop 1)

def letters : List Char → Reader Unit
  | [] => return ()
  | c :: rest => do
    match ← get with
    | [] => throw .endOfText
    | d :: text =>
      if d = c then
        set text
        letters rest
      else throw .malformed

def hexValue (c : Char) : Option Nat :=
  if '0' ≤ c ∧ c ≤ '9' then some (c.toNat - '0'.toNat)
  else if 'a' ≤ c ∧ c ≤ 'f' then some (c.toNat - 'a'.toNat + 10)
  else if 'A' ≤ c ∧ c ≤ 'F' then some (c.toNat - 'A'.toNat + 10)
  else none

def utf8Size (text : List Char) : Nat := text.foldl (fun size c => size + c.utf8Size) 0

-- The value of four hexadecimal digits. When they are not there, the text ends too early only if
-- it has no four bytes left.
def hexQuad : List Char → Except Problem (Nat × List Char)
  | a :: b :: c :: d :: rest =>
    match hexValue a, hexValue b, hexValue c, hexValue d with
    | some a, some b, some c, some d => .ok (((a * 16 + b) * 16 + c) * 16 + d, rest)
    | _, _, _, _ => .error .malformed
  | short => if utf8Size short < 4 then .error .endOfText else .error .malformed

theorem hexQuad_length {text rest : List Char} {n : Nat} (h : hexQuad text = .ok (n, rest)) :
    rest.length < text.length := by
  unfold hexQuad at h
  split at h
  next =>
    split at h
    next =>
      cases h
      simp only [List.length_cons]
      omega
    next => cases h
  next => split at h <;> cases h

def isLeadingSurrogate (n : Nat) : Bool := 0xD800 ≤ n && n ≤ 0xDBFF

def isTrailingSurrogate (n : Nat) : Bool := 0xDC00 ≤ n && n ≤ 0xDFFF

def ofSurrogates (lead trail : Nat) : Char :=
  Char.ofNat ((lead - 0xD800) * 0x400 + (trail - 0xDC00) + 0x10000)

-- What may follow a leading surrogate: one escape with a trailing surrogate.
def trailing (lead : Nat) : List Char → Except Problem (Char × List Char)
  | [] => .error .endOfText
  | ['\\'] => .error .endOfText
  | '\\' :: 'u' :: rest =>
    match hexQuad rest with
    | .error p => .error p
    | .ok (n, rest') =>
      if isTrailingSurrogate n then .ok (ofSurrogates lead n, rest') else .error .malformed
  | _ => .error .malformed

theorem trailing_length {lead : Nat} {text rest : List Char} {c : Char}
    (h : trailing lead text = .ok (c, rest)) : rest.length < text.length := by
  unfold trailing at h
  split at h
  next => cases h
  next => cases h
  next =>
    split at h
    next => cases h
    next quad =>
      split at h
      next =>
        simp only [Except.ok.injEq, Prod.mk.injEq] at h
        have shorter := hexQuad_length quad
        rw [← h.2]
        simp only [List.length_cons]
        omega
      next => cases h
  next => cases h

def unicodeEscape (text : List Char) : Except Problem (Char × List Char) :=
  match hexQuad text with
  | .error p => .error p
  | .ok (n, rest) =>
    if isTrailingSurrogate n then .error .malformed
    else if isLeadingSurrogate n then trailing n rest
    else .ok (Char.ofNat n, rest)

theorem unicodeEscape_length {text rest : List Char} {c : Char}
    (h : unicodeEscape text = .ok (c, rest)) : rest.length < text.length := by
  unfold unicodeEscape at h
  split at h
  next => cases h
  next quad =>
    have shorter := hexQuad_length quad
    split at h
    next => cases h
    next =>
      split at h
      next =>
        have again := trailing_length h
        omega
      next =>
        cases h
        exact shorter

def escape : List Char → Except Problem (Char × List Char)
  | [] => .error .endOfText
  | 'u' :: rest => unicodeEscape rest
  | '"' :: rest => .ok ('"', rest)
  | '\\' :: rest => .ok ('\\', rest)
  | '/' :: rest => .ok ('/', rest)
  | 'b' :: rest => .ok ('\x08', rest)
  | 'f' :: rest => .ok ('\x0C', rest)
  | 'n' :: rest => .ok ('\n', rest)
  | 'r' :: rest => .ok ('\r', rest)
  | 't' :: rest => .ok ('\t', rest)
  | _ :: _ => .error .malformed

theorem escape_length {text rest : List Char} {c : Char} (h : escape text = .ok (c, rest)) :
    rest.length < text.length := by
  unfold escape at h
  split at h
  next => cases h
  next =>
    have shorter := unicodeEscape_length h
    simp only [List.length_cons]
    omega
  all_goals cases h
  all_goals simp

-- The string up to its closing quote, behind the characters read so far, newest first.
def stringTail (read : List Char) (text : List Char) : Except Problem (String × List Char) :=
  match text with
  | [] => .error .endOfText
  | '"' :: rest => .ok (String.ofList read.reverse, rest)
  | '\\' :: rest =>
    match _h : escape rest with
    | .error p => .error p
    | .ok (c, rest') => stringTail (c :: read) rest'
  | c :: rest => if c.toNat < 0x20 then .error .malformed else stringTail (c :: read) rest
  termination_by text.length
  decreasing_by
    · have shorter := escape_length _h
      simp only [List.length_cons]
      omega
    · simp

def stringBody : Reader String := fun text => stringTail [] text

inductive Number where
  | natural (value : Nat)
  | other
  deriving DecidableEq, Repr

def digitValue (c : Char) : Nat := c.toNat - '0'.toNat

def extend (value : Nat) (digit : Char) : Option Nat :=
  let next := 10 * value + digitValue digit
  if next < 0x10000000000000000 then some next else none

def absorb (value : Nat) : List Char → Nat × Nat
  | [] => (value, 0)
  | d :: rest =>
    match extend value d with
    | some next => absorb next rest
    | none => (value, rest.length + 1)

-- Whether `value * 10 ^ exponent` is larger than every double.
def outOfRange (value : Nat) (exponent : Int) : Bool :=
  value ≠ 0 && 0 ≤ exponent &&
    (308 < exponent ||
      ((UInt64.ofNat value).toFloat * Float.ofScientific 1 false exponent.toNat).isInf)

def takeDigits : Reader (List Char) := do
  let text ← get
  set (text.dropWhile Char.isDigit)
  return text.takeWhile Char.isDigit

def someDigits : Reader (List Char) := do
  match ← get with
  | [] => throw .endOfText
  | c :: _ => if c.isDigit then takeDigits else throw .malformed

def largestExponent : Nat := 0x7FFFFFFF

def exponentPart (value : Nat) (scale : Int) : Reader Unit := do
  let c := (← get).head?
  if c = some 'e' ∨ c = some 'E' then
    skip
    let sign := (← get).head?
    if sign = some '+' ∨ sign = some '-' then skip
    let digits ← someDigits
    let exponent := digits.foldl (fun n d => 10 * n + digitValue d) 0
    if sign = some '-' then
      if exponent ≤ largestExponent ∧ outOfRange value (scale - exponent) then throw .malformed
    else if largestExponent < exponent then
      if value ≠ 0 then throw .malformed
    else if outOfRange value (scale + exponent) then throw .malformed
  else if outOfRange value scale then throw .malformed

def fractionPart (value : Nat) (scale : Nat) : Reader Unit := do
  skip
  let digits ← someDigits
  let (value, left) := absorb value digits
  exponentPart value ((scale : Int) - (digits.length - left))

def unsignedNumber : Reader Number := do
  let digits ← someDigits
  if digits.head? = some '0' ∧ digits ≠ ['0'] then
    throw .malformed
  let (value, left) := absorb 0 digits
  match (← get).head? with
  | some '.' =>
    fractionPart value left
    return .other
  | some 'e' | some 'E' =>
    exponentPart value left
    return .other
  | _ =>
    if left = 0 then return .natural value
    else if outOfRange value left then throw .malformed
    else return .other

def number : Reader Number := do
  if (← get).head? = some '-' then
    skip
    let _ ← unsignedNumber
    return .other
  else unsignedNumber

-- Fails on a value of another type; a scalar is read to its end first.
def wrongType : Reader α := do
  let c ← peekValue
  if c = 'n' then letters ['n', 'u', 'l', 'l']
  else if c = 't' then letters ['t', 'r', 'u', 'e']
  else if c = 'f' then letters ['f', 'a', 'l', 's', 'e']
  else if c = '-' ∨ c.isDigit then
    let _ ← number
  else if c = '"' then
    skip
    let _ ← stringBody
  else if c ≠ '[' ∧ c ≠ '\x7b' then throw .malformed
  throw .mismatch

def natural (bound : Nat) : Reader Nat := do
  let c ← peekValue
  if c = '-' ∨ c.isDigit then
    match ← number with
    | .natural value => if value < bound then return value else throw .mismatch
    | .other => throw .mismatch
  else wrongType

def string : Reader String := do
  if (← peekValue) = '"' then
    skip
    stringBody
  else wrongType

def bool : Reader Bool := do
  let c ← peekValue
  if c = 't' then
    letters ['t', 'r', 'u', 'e']
    return true
  else if c = 'f' then
    letters ['f', 'a', 'l', 's', 'e']
    return false
  else wrongType

def nullable (value : Reader α) : Reader (Option α) := do
  if (← peek) = some 'n' then
    letters ['n', 'u', 'l', 'l']
    return none
  else return some (← value)

def hasElement (first : Bool) : Reader Bool := do
  match ← peek with
  | none => throw .endOfText
  | some ']' => return false
  | some c =>
    if first then return true
    else if c = ',' then
      skip
      match ← peek with
      | none => throw .endOfText
      | some ']' => throw .malformed
      | some _ => return true
    else throw .malformed

def closeArray : Reader Unit := do
  match ← peek with
  | none => throw .endOfText
  | some ']' => skip
  | some _ => throw .malformed

def elements (value : Reader α) : Nat → Bool → Reader (List α)
  | 0, _ => return []
  | count + 1, first => do
    if ← hasElement first then
      let x ← value
      return x :: (← elements value count false)
    else throw .mismatch

def array (value : Reader α) (count : Nat) : Reader (List α) := do
  if (← peekValue) = '[' then
    skip
    let xs ← elements value count true
    closeArray
    return xs
  else wrongType

def document (value : Reader α) (text : String) : Except Problem α := do
  let (x, rest) ← (do let x ← value; skipBlanks; return x : Reader α).run text.toList
  if rest.isEmpty then return x else throw .malformed

end Reader

end FirmwareTables.Json
