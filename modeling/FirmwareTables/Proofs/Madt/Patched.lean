import FirmwareTables.Proofs.Madt.WellFormed

set_option autoImplicit false

namespace FirmwareTables.Madt

namespace Entry

def isIoApic (entry : Entry) : Bool := entry.content.number = ioApicType

def isOverride (entry : Entry) : Bool := entry.content.number = interruptOverrideType

def isX2Apic (entry : Entry) : Bool := entry.content.number = localX2ApicType

def isNmi (entry : Entry) : Bool := entry.content.number = localX2ApicNmiType

-- The bytes past the layout of the new content stay.
def rewritten (content : Structure) (entry : Entry) : Entry :=
  { entry with content, bytes := Bytes.overwrite 0 content.encode entry.bytes }

def patched (next : Option IoApicInfo) (entry : Entry) : Entry :=
  match entry.content, next with
  | .ioApic fields, some info => entry.rewritten (.ioApic { fields with
      id := info.id, address := info.address, gsiBase := info.gsiBase })
  | .ioApic fields, none => entry.rewritten (.other reservedType fields.length)
  | .interruptOverride fields, _ =>
    entry.rewritten (.interruptOverride { fields with flags := overrideFlags })
  | .localX2ApicNmi fields, _ =>
    entry.rewritten (.localX2ApicNmi { fields with flags := nmiFlags })
  | _, _ => entry

theorem patched_of_ioApic {entry : Entry} {fields : IoApic}
    (content : entry.content = .ioApic fields) (info : IoApicInfo) :
    entry.patched (some info) = entry.rewritten (.ioApic { fields with
      id := info.id, address := info.address, gsiBase := info.gsiBase }) := by
  simp only [patched, content]

theorem patched_of_ioApic_none {entry : Entry} {fields : IoApic}
    (content : entry.content = .ioApic fields) :
    entry.patched none = entry.rewritten (.other reservedType fields.length) := by
  simp only [patched, content]

theorem patched_of_override {entry : Entry} {fields : InterruptOverride}
    (content : entry.content = .interruptOverride fields) (next : Option IoApicInfo) :
    entry.patched next =
      entry.rewritten (.interruptOverride { fields with flags := overrideFlags }) := by
  simp only [patched, content]

theorem patched_of_nmi {entry : Entry} {fields : LocalX2ApicNmi}
    (content : entry.content = .localX2ApicNmi fields) (next : Option IoApicInfo) :
    entry.patched next = entry.rewritten (.localX2ApicNmi { fields with flags := nmiFlags }) := by
  simp only [patched, content]

theorem patched_of_localX2Apic {entry : Entry} {fields : LocalX2Apic}
    (content : entry.content = .localX2Apic fields) (next : Option IoApicInfo) :
    entry.patched next = entry := by
  simp only [patched, content]

theorem patched_of_other {entry : Entry} {number length : UInt8}
    (content : entry.content = .other number length) (next : Option IoApicInfo) :
    entry.patched next = entry := by
  simp only [patched, content]

theorem content_of_localX2Apic? {entry : Entry} {fields : LocalX2Apic}
    (found : entry.localX2Apic? = some fields) : entry.content = .localX2Apic fields := by
  unfold localX2Apic? at found
  split at found
  · cases found
    assumption
  · cases found

theorem Decoded.bytes_eq {entry : Entry} (decoded : entry.Decoded) :
    ∃ rest, entry.bytes = entry.content.encode ++ rest :=
  (Structure.read_eq_some_iff.mp decoded.2).2

theorem Decoded.length_encode_le {entry : Entry} (decoded : entry.Decoded) :
    entry.content.encode.length ≤ entry.bytes.length := by
  obtain ⟨rest, whole⟩ := decoded.bytes_eq
  rw [whole, List.length_append]
  omega

theorem Decoded.isX2Apic_eq {entry : Entry} (decoded : entry.Decoded) :
    entry.isX2Apic = entry.localX2Apic?.isSome := by
  have proper := (Structure.read_eq_some_iff.mp decoded.2).1
  unfold isX2Apic localX2Apic?
  match content : entry.content with
  | .ioApic _ => rfl
  | .interruptOverride _ => rfl
  | .localX2Apic _ => rfl
  | .localX2ApicNmi _ => rfl
  | .other number _ =>
    rw [content] at proper
    simp [Structure.number, proper.2.2.1]

theorem length_rewritten {entry : Entry} {content : Structure}
    (fits : content.encode.length ≤ entry.bytes.length) :
    (entry.rewritten content).bytes.length = entry.bytes.length :=
  Bytes.length_overwrite (by omega)

theorem Decoded.rewritten {entry : Entry} (decoded : entry.Decoded) {content : Structure}
    (proper : content.Proper) (same : content.lengthByte = entry.content.lengthByte)
    (fits : content.encode.length ≤ entry.bytes.length) : (entry.rewritten content).Decoded := by
  obtain ⟨_, _, size⟩ := decoded.front
  obtain ⟨fields, front⟩ := content.encode_front
  obtain ⟨back, whole⟩ : ∃ back, (entry.rewritten content).bytes = content.encode ++ back :=
    ⟨entry.bytes.drop (0 + content.encode.length), by simp [Entry.rewritten, Bytes.overwrite]⟩
  refine ⟨⟨content.number, content.lengthByte, fields ++ back, ?_, ?_⟩, ?_⟩
  · rw [whole, front]
    rfl
  · rw [length_rewritten fits, same, size]
  · rw [whole]
    exact Structure.read_encode_append content proper back

-- Everything that the places and lengths of structures depend on.
structure Alike (old new : Entry) : Prop where
  offset : new.offset = old.offset
  decoded : new.Decoded
  length : new.bytes.length = old.bytes.length

theorem Decoded.alike {entry : Entry} (decoded : entry.Decoded) : Alike entry entry :=
  ⟨rfl, decoded, rfl⟩

theorem Decoded.alike_rewritten {entry : Entry} (decoded : entry.Decoded) {content : Structure}
    (proper : content.Proper) (same : content.lengthByte = entry.content.lengthByte)
    (fits : content.encode.length ≤ entry.content.encode.length) :
    Alike entry (entry.rewritten content) := by
  have long := decoded.length_encode_le
  have within : content.encode.length ≤ entry.bytes.length := by omega
  exact ⟨rfl, decoded.rewritten proper same within, length_rewritten within⟩

theorem Decoded.alike_patched {entry : Entry} (decoded : entry.Decoded)
    (next : Option IoApicInfo) : Alike entry (entry.patched next) := by
  match content : entry.content with
  | .ioApic fields =>
    match next with
    | some info =>
      rw [patched_of_ioApic content]
      refine decoded.alike_rewritten trivial ?_ ?_ <;> rw [content]
      · rfl
      · simp [Structure.encode]
    | none =>
      have reserved_proper : (Structure.other reservedType fields.length).Proper :=
        ⟨by decide, by decide, by decide, by decide⟩
      rw [patched_of_ioApic_none content]
      refine decoded.alike_rewritten reserved_proper ?_ ?_ <;> rw [content]
      · rfl
      · simp [Structure.encode]
  | .interruptOverride fields =>
    rw [patched_of_override content]
    refine decoded.alike_rewritten trivial ?_ ?_ <;> rw [content]
    · rfl
    · simp [Structure.encode]
  | .localX2ApicNmi fields =>
    rw [patched_of_nmi content]
    refine decoded.alike_rewritten trivial ?_ ?_ <;> rw [content]
    · rfl
    · simp [Structure.encode]
  | .localX2Apic fields =>
    rw [patched_of_localX2Apic content]
    exact decoded.alike
  | .other number length =>
    rw [patched_of_other content]
    exact decoded.alike

theorem localX2Apic?_patched (next : Option IoApicInfo) (entry : Entry) :
    (entry.patched next).localX2Apic? = entry.localX2Apic? := by
  unfold patched
  split <;> simp_all [localX2Apic?, rewritten]

end Entry

-- `k` IOAPICs come before. When `ordered` runs out, x2APICs stay as they are.
def patchedEntries (platform : List IoApicInfo) : Nat → List LocalX2Apic → List Entry → List Entry
  | _, _, [] => []
  | k, ordered, entry :: rest =>
    match entry.localX2Apic?, ordered with
    | some _, next :: ordered =>
      entry.rewritten (.localX2Apic next) :: patchedEntries platform k ordered rest
    | _, ordered =>
      entry.patched platform[k]? ::
        patchedEntries platform (if entry.isIoApic then k + 1 else k) ordered rest

section Equations

variable (platform : List IoApicInfo) (k : Nat) {entry : Entry} (rest : List Entry)

theorem patchedEntries_of_nil :
    patchedEntries platform k [] (entry :: rest) =
      entry.patched platform[k]? ::
        patchedEntries platform (if entry.isIoApic then k + 1 else k) [] rest := by
  rw [patchedEntries]
  intro _ _ _ _ unordered
  cases unordered

theorem patchedEntries_of_none (ordered : List LocalX2Apic) (other : entry.localX2Apic? = none) :
    patchedEntries platform k ordered (entry :: rest) =
      entry.patched platform[k]? ::
        patchedEntries platform (if entry.isIoApic then k + 1 else k) ordered rest := by
  rw [patchedEntries]
  intro _ _ _ isX2Apic
  rw [other] at isX2Apic
  cases isX2Apic

theorem patchedEntries_of_some (next : LocalX2Apic) (ordered : List LocalX2Apic)
    {fields : LocalX2Apic} (isX2Apic : entry.localX2Apic? = some fields) :
    patchedEntries platform k (next :: ordered) (entry :: rest) =
      entry.rewritten (.localX2Apic next) :: patchedEntries platform k ordered rest := by
  simp only [patchedEntries, isX2Apic]

end Equations

def Even (found : List Entry) : Prop := ∀ entry ∈ found, entry.isOddX2Apic = false

theorem Even.length_eq {found : List Entry} (even : Even found) {fields : LocalX2Apic}
    (listed : fields ∈ found.filterMap Entry.localX2Apic?) :
    fields.length.toNat = localX2ApicSize := by
  obtain ⟨entry, member, isX2Apic⟩ := List.mem_filterMap.mp listed
  simpa [Entry.isOddX2Apic, Entry.content_of_localX2Apic? isX2Apic] using even entry member

theorem alike_patchedEntries (platform : List IoApicInfo) (k : Nat) (ordered : List LocalX2Apic)
    (found : List Entry) (decoded : ∀ entry ∈ found, entry.Decoded) (even : Even found)
    (sized : ∀ next ∈ ordered, next.length.toNat = localX2ApicSize) :
    List.Forall₂ Entry.Alike found (patchedEntries platform k ordered found) := by
  fun_induction patchedEntries platform k ordered found with
  | case1 => exact List.Forall₂.nil
  | case2 k entry rest fields next ordered isX2Apic ih =>
    have content := Entry.content_of_localX2Apic? isX2Apic
    have now : fields.length.toNat = localX2ApicSize :=
      even.length_eq (List.mem_filterMap.mpr ⟨entry, by simp, isX2Apic⟩)
    have same : next.length = fields.length := by
      rw [← UInt8.toNat_inj, now]
      exact sized next (by simp)
    refine List.Forall₂.cons ?_ (ih ?_ ?_ ?_)
    · refine (decoded entry (by simp)).alike_rewritten trivial ?_ ?_ <;> rw [content]
      · exact same
      · simp [Structure.encode]
    · exact fun other member => decoded other (by simp [member])
    · exact fun other member => even other (by simp [member])
    · exact fun other member => sized other (by simp [member])
  | case3 k entry rest ordered stays ih =>
    refine List.Forall₂.cons ((decoded entry (by simp)).alike_patched _) (ih ?_ ?_ sized)
    · exact fun other member => decoded other (by simp [member])
    · exact fun other member => even other (by simp [member])

theorem localX2Apics_patchedEntries (platform : List IoApicInfo) (k : Nat)
    (ordered : List LocalX2Apic) (found : List Entry)
    (enough : ordered.length = (found.filterMap Entry.localX2Apic?).length) :
    (patchedEntries platform k ordered found).filterMap Entry.localX2Apic? = ordered := by
  fun_induction patchedEntries platform k ordered found with
  | case1 k ordered => simpa using enough
  | case2 k entry rest fields next ordered isX2Apic ih =>
    have later := ih (by simpa [isX2Apic] using enough)
    have first : (entry.rewritten (.localX2Apic next)).localX2Apic? = some next := rfl
    rw [List.filterMap_cons_some first, later]
  | case3 k entry rest ordered stays ih =>
    have other : entry.localX2Apic? = none := by
      cases ordered with
      | nil =>
        rw [List.length_nil, eq_comm, List.length_eq_zero_iff, List.filterMap_eq_nil_iff] at enough
        exact enough entry (by simp)
      | cons next ordered =>
        rw [Option.eq_none_iff_forall_ne_some]
        intro fields isX2Apic
        exact stays fields next ordered isX2Apic rfl
    have later := ih (by simpa [other] using enough)
    rw [List.filterMap_cons_none (by rw [Entry.localX2Apic?_patched, other]), later]

theorem getElem?_patchedEntries (platform : List IoApicInfo) (k : Nat)
    (ordered : List LocalX2Apic) (found : List Entry) (i : Nat) (inside : i < found.length)
    (other : found[i].localX2Apic? = none) :
    (patchedEntries platform k ordered found)[i]? =
      some (found[i].patched platform[k + (found.take i).countP Entry.isIoApic]?) := by
  fun_induction patchedEntries platform k ordered found generalizing i with
  | case1 => simp at inside
  | case2 k entry rest fields next ordered isX2Apic ih =>
    cases i with
    | zero =>
      rw [List.getElem_cons_zero, isX2Apic] at other
      cases other
    | succ i =>
      have notIoApic : entry.isIoApic = false := by
        simp [Entry.isIoApic, Entry.content_of_localX2Apic? isX2Apic, Structure.number, ioApicType,
          localX2ApicType]
      simpa [notIoApic] using ih i (by simpa using inside) (by simpa using other)
  | case3 k entry rest ordered stays ih =>
    cases i with
    | zero => simp
    | succ i =>
      have later := ih i (by simpa using inside) (by simpa using other)
      have turn : (if entry.isIoApic then k + 1 else k) + (rest.take i).countP Entry.isIoApic =
          k + ((entry :: rest).take (i + 1)).countP Entry.isIoApic := by
        cases kind : entry.isIoApic <;> simp [kind, Nat.add_comm, Nat.add_left_comm]
      rw [List.getElem?_cons_succ, later, turn, List.getElem_cons_succ]

end FirmwareTables.Madt
