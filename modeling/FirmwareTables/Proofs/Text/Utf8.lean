import FirmwareTables.Proofs.Text.Digits

set_option autoImplicit false

namespace FirmwareTables.Text

def ofUtf8 (bytes : Bytes) : Option String := String.fromUTF8? bytes.toByteArray

theorem ofUtf8_utf8 (text : String) : ofUtf8 (utf8 text) = some text := by
  have whole : (utf8 text).toByteArray = text.toByteArray := by
    apply ByteArray.ext
    rw [utf8_eq, List.data_toByteArray, Array.toArray_toList]
  rw [ofUtf8, whole, String.fromUTF8?, dif_pos text.isValidUTF8]
  rfl

theorem length_utf8 (text : String) : (utf8 text).length = text.utf8ByteSize := by
  rw [utf8_eq, Array.length_toList]
  rfl

theorem utf8_eq_nil_iff {text : String} : utf8 text = [] ↔ text = "" := by
  rw [← List.length_eq_zero_iff, length_utf8]
  exact String.utf8ByteSize_eq_zero_iff

-- Beyond ASCII the lead byte has its high bit set, however many bytes follow it.
theorem exists_high_byte {c : Char} (large : 128 ≤ c.val.toNat) :
    ∃ lead ∈ String.utf8EncodeChar c, 128 ≤ lead.toNat := by
  have wide : ¬c.val.toNat ≤ 127 := by omega
  simp only [String.utf8EncodeChar, if_neg wide]
  split
  · refine ⟨_, List.mem_cons_self .., ?_⟩
    rw [UInt8.toNat_ofNat']
    omega
  · split <;> refine ⟨_, List.mem_cons_self .., ?_⟩ <;> rw [UInt8.toNat_ofNat'] <;> omega

theorem utf8EncodeChar_ascii_iff (c : Char) :
    (∀ b ∈ String.utf8EncodeChar c, b < 0x80) ↔ c.toNat < 128 := by
  constructor
  · intro ascii
    by_contra large
    obtain ⟨lead, member, high⟩ := exists_high_byte (Nat.le_of_not_lt large)
    exact absurd (UInt8.lt_iff_toNat_lt.mp (ascii lead member)) (Nat.not_lt.mpr high)
  · intro small b member
    have low : c.val.toNat ≤ 127 := Nat.le_of_lt_succ small
    simp only [String.utf8EncodeChar, if_pos low, List.mem_singleton] at member
    rw [member, UInt8.lt_iff_toNat_lt, UInt8.toNat_ofNat']
    exact Nat.lt_of_le_of_lt (Nat.mod_le _ _) small

theorem utf8_ascii_iff (text : String) :
    (∀ b ∈ utf8 text, b < 0x80) ↔ ∀ c ∈ text.toList, c.toNat < 128 := by
  rw [← String.ofList_toList (s := text), utf8_ofList, String.toList_ofList]
  simp only [List.mem_flatMap, forall_exists_index, and_imp]
  constructor
  · intro ascii c member
    exact (utf8EncodeChar_ascii_iff c).mp fun b there => ascii b c member there
  · intro small b c member
    exact (utf8EncodeChar_ascii_iff c).mpr (small c member) b

end FirmwareTables.Text
