import FirmwareTables.Board.Boot
import FirmwareTables.Proofs.Topology.Reported

set_option autoImplicit false

namespace FirmwareTables

structure MpServices.Lists (mp : MpServices) (listed : List ProcessorInfo) : Prop where
  count : ∃ enabled, mp.count = .ok (listed.length, enabled)
  info : ∀ i (inside : i < listed.length), mp.info i = .ok listed[i]

theorem MpServices.Lists.unique {mp : MpServices} {listed other : List ProcessorInfo}
    (one : mp.Lists listed) (two : mp.Lists other) : listed = other := by
  obtain ⟨_, total⟩ := one.count
  obtain ⟨_, again⟩ := two.count
  rw [total, Except.ok.injEq, Prod.mk.injEq] at again
  apply List.ext_getElem again.1
  intro i inside within
  have same := (one.info i inside).symm.trans (two.info i within)
  rwa [Except.ok.injEq] at same

namespace Processor

def ofInfo (decoder : Topology.Decoder) (info : ProcessorInfo) : Processor where
  id := info.id.toUInt32
  status := info.status
  location := decoder.decode info.id.toUInt32
  uid := 0

theorem readAt_eq_ok {mp : MpServices} {decoder : Topology.Decoder} {i : Nat} {found : Processor}
    (read : readAt mp decoder i = .ok found) :
    ∃ info, mp.info i = .ok info ∧ info.id.toNat < 2 ^ 32 ∧ found = ofInfo decoder info := by
  unfold readAt at read
  split at read
  · cases read
  · next info told =>
    split at read
    · next narrow =>
      cases read
      exact ⟨info, told, narrow, rfl⟩
    · cases read

theorem enumerate_answers {σ : Type} {mp : MpServices} {decoder : Topology.Decoder} {s s' : σ}
    {found : List Processor} (done : (enumerate mp decoder).Answers s found s') :
    s' = s ∧ ∃ listed, mp.Lists listed ∧ (∀ info ∈ listed, info.id.toNat < 2 ^ 32) ∧
      found = listed.map (ofInfo decoder) := by
  obtain ⟨⟨total, enabled⟩, counted, reading⟩ := Action.answers_ofExcept_bind_iff.mp done
  rw [Action.answers_report_bind] at reading
  split at reading
  · exact absurd reading Action.answers_fail
  · obtain ⟨read, rfl⟩ := Action.answers_ofExcept.mp reading
    obtain ⟨size, reads⟩ := Services.readRange_eq_ok_iff.mp read
    have told (i : Fin found.length) := readAt_eq_ok (reads i i.isLt)
    choose info told narrow same using told
    refine ⟨rfl, List.ofFn info, ⟨⟨enabled, ?_⟩, ?_⟩, ?_, ?_⟩
    · rw [List.length_ofFn, size]
      exact Action.mapError_eq_ok.mp counted
    · intro i inside
      rw [List.length_ofFn] at inside
      have one := told ⟨i, inside⟩
      rw [Nat.zero_add] at one
      rw [List.getElem_ofFn]
      exact one
    · intro one member
      obtain ⟨i, rfl⟩ := List.mem_ofFn.mp member
      exact narrow i
    · apply List.ext_getElem
      · simp
      · intro i inside _
        rw [List.getElem_map, List.getElem_ofFn]
        exact same ⟨i, inside⟩

end Processor

namespace Board

def topology (board : Board) : Topology.Decoder := .ofCpuid board.cpuid

structure Passed (board : Board) (before after : Machine) (report : BootReport)
    (listed : List ProcessorInfo) (merged : TableStore) : Prop where
  lists : board.mp.Lists listed
  narrow : ∀ info ∈ listed, info.id.toNat < 2 ^ 32
  collated : (board.collation board.topology).collate
    (listed.map (Processor.ofInfo board.topology)) = .ok report.processors
  devices : (TableStore.installDevices report.processors board.config).Answers before.tables
    report.dsdt merged
  patched : ∃ platform, (Madt.patchInstalled board.soc (board.collation board.topology)).Answers
    { tables := merged, fabric := before.fabric } report.madt platform ∧
      after.tables = platform.tables
  published : (Smbios.publishSlots board.ports board.nbio board.config).Answers before.structures
    report.slotHandles after.structures

theorem boot_answers {board : Board} {before after : Machine} {report : BootReport}
    (done : board.boot.Answers before report after) :
    ∃ listed merged, board.Passed before after report listed merged := by
  obtain ⟨_, _, detecting⟩ := Action.answers_ofExcept_bind_iff.mp done
  obtain ⟨decoder, _, detected, reading⟩ := Action.answers_bind.mp detecting
  obtain ⟨rfl, rfl⟩ := Topology.detect_answers.mp detected
  obtain ⟨found, _, enumerated, collating⟩ := Action.answers_bind.mp reading
  obtain ⟨rfl, listed, lists, narrow, rfl⟩ :=
    Processor.enumerate_answers (Action.answers_mapError.mp enumerated)
  obtain ⟨processors, collated, installing⟩ := Action.answers_ofExcept_bind_iff.mp collating
  obtain ⟨dsdt, _, installed, patching⟩ := Action.answers_bind.mp installing
  obtain ⟨merged, devices, rfl⟩ := Action.answers_onPart.mp installed
  obtain ⟨madt, _, reinstalled, publishing⟩ := Action.answers_bind.mp patching
  obtain ⟨platform, patched, rfl⟩ := Action.answers_onPart.mp reinstalled
  obtain ⟨slots, _, published, reporting⟩ := Action.answers_bind.mp publishing
  obtain ⟨structures, added, rfl⟩ := Action.answers_onPart.mp published
  rw [Action.answers_report_bind] at reporting
  obtain ⟨rfl, rfl⟩ := Action.answers_pure.mp reporting
  exact ⟨listed, merged, {
    lists
    narrow
    collated := Action.mapError_eq_ok.mp collated
    devices := Action.answers_mapError.mp devices
    patched := ⟨platform, Action.answers_mapError.mp patched, rfl⟩
    published := Action.answers_mapError.mp added }⟩

end Board

end FirmwareTables
