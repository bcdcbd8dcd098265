import FirmwareTables.Bytes
import FirmwareTables.Text.Hex
import Mathlib

set_option autoImplicit false

namespace FirmwareTables.Text

theorem toList_loop_eq (array : ByteArray) (i : Nat) (done : List UInt8) :
    ByteArray.toList.loop array i done = done.reverse ++ array.data.toList.drop i := by
  fun_induction ByteArray.toList.loop array i done with
  | case1 i done inside ih =>
    have within : i < array.data.toList.length := by simpa using inside
    rw [ih, List.drop_eq_getElem_cons within]
    simp [ByteArray.get!, inside]
  | case2 i done outside =>
    rw [List.drop_eq_nil_of_le (by simpa using Nat.le_of_not_lt outside)]
    simp

def utf8 (text : String) : Bytes := text.toUTF8.toList

theorem utf8_eq (text : String) : utf8 text = text.toByteArray.data.toList := by
  simp [utf8, ByteArray.toList, toList_loop_eq]

theorem utf8_append (front back : String) : utf8 (front ++ back) = utf8 front ++ utf8 back := by
  simp only [utf8_eq, String.toByteArray_append, ByteArray.toList_data_append]

theorem utf8_ofList (chars : List Char) :
    utf8 (String.ofList chars) = chars.flatMap String.utf8EncodeChar := by
  rw [utf8_eq, String.toByteArray_ofList, List.utf8Encode, List.toList_data_toByteArray]

def upperDigit (d : Nat) : UInt8 := UInt8.ofNat (if d < 10 then 0x30 + d else 0x37 + d)

theorem utf8EncodeChar_digit {d : Nat} (digit : d < 16) :
    String.utf8EncodeChar (Nat.digitChar d).toUpper = [upperDigit d] := by
  have table : ∀ d : Fin 16, String.utf8EncodeChar (Nat.digitChar d).toUpper = [upperDigit d] := by
    decide
  exact table ⟨d, digit⟩

def upperDigits (n : Nat) : Bytes :=
  ((Nat.toDigits 16 n).map Char.toUpper).flatMap String.utf8EncodeChar

theorem upperDigits_of_lt {n : Nat} (small : n < 16) : upperDigits n = [upperDigit n] := by
  rw [upperDigits, Nat.toDigits_of_lt_base small]
  simpa using utf8EncodeChar_digit small

theorem upperDigits_of_le {n : Nat} (large : 16 ≤ n) :
    upperDigits n = upperDigits (n / 16) ++ [upperDigit (n % 16)] := by
  rw [upperDigits, Nat.toDigits_of_base_le (by decide) large]
  simp only [List.map_append, List.flatMap_append, upperDigits, List.map_cons, List.map_nil,
    List.flatMap_cons, List.flatMap_nil, List.append_nil,
    utf8EncodeChar_digit (Nat.mod_lt n (by decide))]

theorem upperDigits_mem {n : Nat} {b : UInt8} (member : b ∈ upperDigits n) :
    ∃ d, d < 16 ∧ b = upperDigit d := by
  induction n using Nat.strongRecOn with
  | ind n ih =>
    by_cases small : n < 16
    · rw [upperDigits_of_lt small, List.mem_singleton] at member
      exact ⟨n, small, member⟩
    · rw [upperDigits_of_le (by omega), List.mem_append, List.mem_singleton] at member
      rcases member with earlier | last
      · exact ih (n / 16) (by omega) earlier
      · exact ⟨n % 16, Nat.mod_lt n (by decide), last⟩

theorem length_upperDigits (n : Nat) : (upperDigits n).length = (Nat.toDigits 16 n).length := by
  induction n using Nat.strongRecOn with
  | ind n ih =>
    by_cases small : n < 16
    · rw [upperDigits_of_lt small, Nat.toDigits_of_lt_base small]
      rfl
    · rw [upperDigits_of_le (by omega), Nat.toDigits_of_base_le (by decide) (by omega),
        List.length_append, List.length_append, ih (n / 16) (by omega)]
      rfl

theorem utf8_upperHex (width n : Nat) :
    utf8 (upperHex width n) =
      List.replicate (width - (upperDigits n).length) (upperDigit 0) ++ upperDigits n := by
  have zero : String.utf8EncodeChar '0' = [upperDigit 0] := by decide
  have zeros (count : Nat) : (List.replicate count '0').flatMap String.utf8EncodeChar =
      List.replicate count (upperDigit 0) := by
    induction count with
    | zero => rfl
    | succ count ih => rw [List.replicate_succ, List.flatMap_cons, ih, zero, List.replicate_succ]; rfl
  rw [upperHex, utf8_ofList, List.flatMap_append, zeros, List.length_map, length_upperDigits]
  rfl

theorem utf8_upperHex_three {n : Nat} (small : n < 4096) :
    utf8 (upperHex 3 n) =
      [upperDigit (n / 256), upperDigit (n / 16 % 16), upperDigit (n % 16)] := by
  rw [utf8_upperHex]
  by_cases one : n < 16
  · have high : n / 256 = 0 := by omega
    have middle : n / 16 % 16 = 0 := by omega
    have low : n % 16 = n := by omega
    rw [upperDigits_of_lt one, high, middle, low]
    rfl
  by_cases two : n < 256
  · have high : n / 256 = 0 := by omega
    have middle : n / 16 % 16 = n / 16 := by omega
    rw [upperDigits_of_le (by omega), upperDigits_of_lt (by omega), high, middle]
    rfl
  · have high : n / 16 / 16 = n / 256 := by omega
    rw [upperDigits_of_le (by omega), upperDigits_of_le (by omega), upperDigits_of_lt (by omega),
      high]
    rfl

theorem four_le_length_upperDigits {n : Nat} (large : 4096 ≤ n) : 4 ≤ (upperDigits n).length := by
  have some_digit : 1 ≤ (upperDigits (n / 16 / 16 / 16)).length := by
    rw [length_upperDigits]
    exact Nat.length_toDigits_pos
  rw [upperDigits_of_le (by omega), upperDigits_of_le (by omega), upperDigits_of_le (by omega)]
  simp only [List.length_append, List.length_singleton]
  omega

theorem utf8_upperHex_mem {width n : Nat} {b : UInt8} (member : b ∈ utf8 (upperHex width n)) :
    ∃ d, d < 16 ∧ b = upperDigit d := by
  rw [utf8_upperHex, List.mem_append] at member
  rcases member with zero | digit
  · exact ⟨0, by decide, List.eq_of_mem_replicate zero⟩
  · exact upperDigits_mem digit

end FirmwareTables.Text
