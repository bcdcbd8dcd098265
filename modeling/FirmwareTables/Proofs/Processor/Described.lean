import FirmwareTables.Proofs.Processor.Listed
import FirmwareTables.Proofs.Table.Built

set_option autoImplicit false

namespace FirmwareTables

namespace ProcessorStatus

theorem has_eq_testBit {status flag : ProcessorStatus} {k : Nat} (bit : flag.toNat = 2 ^ k) :
    has status flag = status.toNat.testBit k := by
  rw [has, Bool.eq_iff_iff, beq_iff_eq, ← UInt32.toNat_inj, UInt32.toNat_and, bit, Nat.and_two_pow]
  have positive := Nat.two_pow_pos k
  cases status.toNat.testBit k <;> simp [positive.ne]

-- Present and shown; the second bit is about being enabled and the third about being healthy.
def acpiValue (status : ProcessorStatus) : Nat :=
  5 + (if status.toNat.testBit 1 then 2 else 0) + (if status.toNat.testBit 2 then 8 else 0)

theorem toNat_acpiStatus (status : ProcessorStatus) :
    (acpiStatus status).toNat = acpiValue status := by
  have second : has status enabled = status.toNat.testBit 1 := has_eq_testBit rfl
  have third : has status healthy = status.toNat.testBit 2 := has_eq_testBit rfl
  rw [acpiStatus, acpiValue, second, third]
  cases status.toNat.testBit 1 <;> cases status.toNat.testBit 2 <;> rfl

end ProcessorStatus

namespace Processor

theorem upperDigit_inj {d e : Nat} (left : d < 16) (right : e < 16)
    (same : Text.upperDigit d = Text.upperDigit e) : d = e := by
  have table : ∀ d e : Fin 16, Text.upperDigit d = Text.upperDigit e → d = e := by decide
  exact congrArg Fin.val (table ⟨d, left⟩ ⟨e, right⟩ same)

theorem nameBytes_inj {u v : Nat} (left : u < 4096) (right : v < 4096)
    (same : nameBytes u = nameBytes v) : u = v := by
  simp only [nameBytes, List.cons.injEq, and_true, true_and] at same
  obtain ⟨high, middle, low⟩ := same
  have high := upperDigit_inj (by omega) (by omega) high
  have middle := upperDigit_inj (by omega) (by omega) middle
  have low := upperDigit_inj (by omega) (by omega) low
  omega

theorem nodup_nameBytes {processors : List Processor}
    (small : ∀ u ∈ presentPlaces processors, u.val < 4096) :
    ((presentPlaces processors).map fun u => nameBytes u.val).Nodup := by
  refine List.Nodup.map_on ?_ ((List.nodup_finRange _).filter _)
  intro u first v second same
  exact Fin.ext (nameBytes_inj (small u first) (small v second) same)

-- Three digits do not name every position that holds a processor.
def Crowded (processors : List Processor) : Prop :=
  ∃ u : Fin processors.length, (processors.get u).status ≠ 0 ∧ 0x1000 ≤ u.val

theorem not_crowded {processors : List Processor} :
    ¬Crowded processors ↔ ∀ u ∈ presentPlaces processors, u.val < 4096 := by
  simp [Crowded, presentPlaces]

theorem mapM_device_eq_error {listed : List (Nat × Processor)}
    (far : ∃ item ∈ listed, 4096 ≤ item.1) :
    (listed.mapM fun (u, processor) => device u processor) = .error .segmentLength := by
  induction listed with
  | nil => simp at far
  | cons head rest ih =>
    obtain ⟨u, processor⟩ := head
    rw [List.mapM_cons]
    change (device u processor >>= _) = _
    rw [device_eq]
    by_cases small : u < 4096
    · have later : ∃ item ∈ rest, 4096 ≤ item.1 := by
        obtain ⟨item, member, large⟩ := far
        rcases List.mem_cons.mp member with rfl | member
        · exact absurd small (Nat.not_lt.mpr large)
        · exact ⟨item, member, large⟩
      rw [if_pos small, ih later]
      rfl
    · rw [if_neg small]
      rfl

theorem devicesBlock_of_crowded {processors : List Processor} (crowded : Crowded processors) :
    devicesBlock processors = .error .segmentLength := by
  obtain ⟨u, there, large⟩ := crowded
  have far : ∃ item ∈ present processors, 4096 ≤ item.1 := by
    refine ⟨(u.val, processors.get u), ?_, large⟩
    rw [present_eq]
    exact List.mem_map.mpr ⟨u, by simpa [presentPlaces] using there, rfl⟩
  rw [devicesBlock, mapM_device_eq_error far]
  rfl

theorem exists_devicesBlock {processors : List Processor} (room : ¬Crowded processors) :
    ∃ block, devicesBlock processors = .ok block ∧ block.length ≤ 2 ^ 20 := by
  have small := not_crowded.mp room
  have named : ∀ item ∈ present processors, item.1 < 4096 := by
    rw [present_eq]
    intro item member
    obtain ⟨u, there, rfl⟩ := List.mem_map.mp member
    exact small u there
  obtain ⟨inner, encoded, _⟩ := within_devices (present processors)
  rw [map_present] at encoded
  have path : systemBus.encode = .ok [0x5C, 0x5F, 0x53, 0x42, 0x5F] := rfl
  obtain ⟨block, scope⟩ : ∃ block, (Aml.Term.scope systemBus (devices processors)).encode = .ok block :=
    ⟨_, Aml.Term.encode_scope_eq_ok.mpr ⟨_, _, path, encoded, rfl⟩⟩
  have built : devicesBlock processors = .ok block := by
    refine Action.bind_eq_ok.mpr ⟨_, mapM_device_eq_ok.mpr ⟨named, rfl⟩, ?_⟩
    rwa [map_present]
  have size := within_devicesBlock scope
  have count := length_presentPlaces_le small
  exact ⟨block, built, by omega⟩

def described (processors : List Processor) (u : Fin processors.length) : Listing :=
  { listing u.val (processors.get u).status (processors.get u).location
      (processors.get u).uid.toNat with
    status := ProcessorStatus.acpiValue (processors.get u).status }

-- A device with an object for each value of a listing besides the name, and no more.
def Exhausted (device : Aml.Term) : Prop :=
  ∃ path objects, device = .device path objects ∧ objects.length = 8

structure Describes (table : Table) (processors : List Processor) : Prop where
  signed : table.header.signature = Table.ssdtSignature
  intact : Table.Intact table.toBytes
  inside : ∃ bus devices,
    Aml.readBlock table.body = some [.scope { rooted := true, segments := [bus] } devices] ∧
      bus.bytes = Text.utf8 "_SB_" ∧
      devices.mapM Listing.ofDevice = some ((presentPlaces processors).map (described processors)) ∧
      ∀ device ∈ devices, Exhausted device
  distinct : ((presentPlaces processors).map fun u => (described processors u).name).Nodup
  named : ∀ u ∈ presentPlaces processors,
    (described processors u).name = Text.utf8 (deviceName u.val)

theorem described_eq_listing (processors : List Processor) (u : Fin processors.length) :
    described processors u =
      listing u.val (processors.get u).status (processors.get u).location
        (processors.get u).uid.toNat := by
  rw [described, ← ProcessorStatus.toNat_acpiStatus]
  rfl

theorem utf8_deviceName_eq_nameBytes {u : Nat} (small : u < 4096) :
    Text.utf8 (deviceName u) = nameBytes u := by
  rw [utf8_deviceName, Text.utf8_upperHex_three small]
  rfl

theorem describes_of_devicesBlock {processors : List Processor} {table : Table}
    (built : devicesBlock processors = .ok table.body)
    (signed : table.header.signature = Table.ssdtSignature) (intact : Table.Intact table.toBytes) :
    Describes table processors := by
  obtain ⟨small, read⟩ := readBlock_devicesBlock built
  have listed : (devices processors).mapM Listing.ofDevice =
      some ((presentPlaces processors).map (described processors)) := by
    rw [funext (described_eq_listing processors)]
    exact mapM_ofDevice_devices processors
  refine {
    signed, intact
    inside := ⟨_, _, read, utf8_systemBus.symm, listed, ?_⟩
    distinct := nodup_nameBytes small
    named := fun u there => (utf8_deviceName_eq_nameBytes (small u there)).symm }
  intro device member
  obtain ⟨u, _, rfl⟩ := List.mem_map.mp member
  exact ⟨_, _, rfl, rfl⟩

/-- Either some processor stands too far back and there is no table, or the table describes the
processors that there are. -/
theorem devicesTable_describes {σ : Type} (processors : List Processor) (config : BoardConfig) (s : σ) :
    (Crowded processors ∧ (devicesTable processors config).Refuses s (.aml .segmentLength) s) ∨
      (¬Crowded processors ∧ ∃ table, (devicesTable processors config).Answers s table s ∧
        Describes table processors) := by
  by_cases crowded : Crowded processors
  · refine Or.inl ⟨crowded, ?_⟩
    rw [devicesTable, Action.refuses_report_bind, devicesBlock_of_crowded crowded]
    exact ⟨rfl, rfl⟩
  · refine Or.inr ⟨crowded, ?_⟩
    obtain ⟨block, encoded, short⟩ := exists_devicesBlock crowded
    have small : Table.headerSize + block.length < 2 ^ 32 := by
      rw [Table.headerSize]
      omega
    obtain ⟨table, built, signed, rfl, intact⟩ := Table.exists_build Table.ssdtSignature 2
      { oemId := config.ssdtId, oemTableId := config.ssdtTableId, oemRevision := 0 } small
    have table_ok : (Table.ssdt { oemId := config.ssdtId, oemTableId := config.ssdtTableId
                                  oemRevision := 0 } table.body).mapError AcpiError.table = .ok table :=
      Action.mapError_eq_ok.mpr built
    refine ⟨table, ?_, describes_of_devicesBlock encoded signed intact⟩
    rw [devicesTable, Action.answers_report_bind,
      Action.answers_ofExcept_bind (Action.mapError_eq_ok.mpr encoded)]
    exact Action.answers_ofExcept.mpr ⟨table_ok, rfl⟩

end Processor

end FirmwareTables
