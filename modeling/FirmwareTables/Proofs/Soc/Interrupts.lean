import FirmwareTables.Proofs.Services.Registers
import FirmwareTables.Soc.Turin

set_option autoImplicit false

namespace FirmwareTables

open Services Fabric

variable {files : RegisterFiles}

def Nbio.read (nbio : Nbio) (silicon : PcieSilicon) : Except ServiceError UInt32 :=
  nbio.baseRegister silicon silicon.hub

theorem Nbio.ioApicBase_tells (files : RegisterFiles) (nbio : Nbio) (silicon : PcieSilicon) :
    (nbio.ioApicBase silicon).Tells (Has files) ((nbio.read silicon).map (· &&& baseMask)) := by
  rintro fabric rfl
  unfold ioApicBase read
  cases nbio.baseRegister silicon silicon.hub <;> exact ⟨rfl, rfl⟩

namespace Turin

def Describes (files : RegisterFiles) (nbio : Nbio) (silicon : PcieSilicon)
    (info : IoApicInfo) : Prop :=
  ∃ register, nbio.read silicon = .ok register ∧ info.address = register &&& 0xFFFFFF00 ∧
    info.id = idAt files info.address

def entries (files : RegisterFiles) (info : IoApicInfo) : Nat :=
  entriesAt files info.address

def FollowOn (files : RegisterFiles) : Nat → List IoApicInfo → Prop
  | _, [] => True
  | start, info :: rest =>
    info.gsiBase.toNat = start ∧ FollowOn files (start + entries files info) rest

-- What keeps the silicons from being described where there is room for so many, in the order in which
-- it is met.
def refusals (nbio : Nbio) (room : Nat) (silicons : List PcieSilicon) : List ServiceError :=
  failures ((silicons.take room).map nbio.read) ++
    if room < silicons.length then [.outOfResources] else []

theorem refusals_cons_ok {nbio : Nbio} {room : Nat} {silicon : PcieSilicon} {register : UInt32}
    (read : nbio.read silicon = .ok register) (rest : List PcieSilicon) :
    refusals nbio (room + 1) (silicon :: rest) = refusals nbio room rest := by
  simp [refusals, read]

theorem head?_refusals_cons_error {nbio : Nbio} {room : Nat} {silicon : PcieSilicon}
    {cause : ServiceError} (read : nbio.read silicon = .error cause) (rest : List PcieSilicon) :
    (refusals nbio (room + 1) (silicon :: rest)).head? = some cause := by
  simp [refusals, read]

def infoAt (files : RegisterFiles) (address gsiBase : UInt32) : IoApicInfo where
  id := idAt files address
  address := address
  gsiBase := gsiBase

theorem siliconIoApics_cons_tells {nbio : Nbio} {silicon : PcieSilicon} {rest : List PcieSilicon}
    {count : Nat} {gsiBase register : UInt32} {told : Except ServiceError (List IoApicInfo)}
    (room : count < maxIoApics) (read : nbio.read silicon = .ok register)
    (later : (siliconIoApics nbio rest (count + 1) (gsiBase + UInt32.ofNat
      (entriesAt files (register &&& Nbio.baseMask)))).Tells (Has files) told) :
    (siliconIoApics nbio (silicon :: rest) count gsiBase).Tells (Has files)
      (told.map (infoAt files (register &&& Nbio.baseMask) gsiBase :: ·)) := by
  have located := nbio.ioApicBase_tells files silicon
  rw [read] at located
  rw [siliconIoApics, if_neg (Nat.not_le_of_lt room)]
  refine located.bind_ok ((ioApicId_tells _).bind_ok
    ((redirectionEntries_tells _).bind_ok ?_))
  exact later.map _

theorem toNat_add_entriesAt (files : RegisterFiles) {count : Nat} {gsiBase : UInt32}
    (room : count < maxIoApics) (small : gsiBase.toNat ≤ 256 * count) (address : UInt32) :
    (gsiBase + UInt32.ofNat (entriesAt files address)).toNat =
      gsiBase.toNat + entriesAt files address := by
  have few := entriesAt_le files address
  simp only [maxIoApics] at room
  rw [UInt32.toNat_add, UInt32.toNat_ofNat']
  omega

-- The invariant of the loop bounds the numbers given out by those of the IOAPICs so far.
theorem siliconIoApics_tells (files : RegisterFiles) (nbio : Nbio) (silicons : List PcieSilicon)
    (count : Nat) (gsiBase : UInt32) (small : gsiBase.toNat ≤ 256 * count) :
    (∃ infos, (siliconIoApics nbio silicons count gsiBase).Tells (Has files) (.ok infos) ∧
      refusals nbio (maxIoApics - count) silicons = [] ∧
      List.Forall₂ (Describes files nbio) silicons infos ∧ FollowOn files gsiBase.toNat infos) ∨
    ∃ cause, (siliconIoApics nbio silicons count gsiBase).Tells (Has files) (.error cause) ∧
      (refusals nbio (maxIoApics - count) silicons).head? = some cause := by
  induction silicons generalizing count gsiBase with
  | nil => exact Or.inl ⟨[], .pure [], by simp [refusals], .nil, trivial⟩
  | cons silicon rest ih =>
    by_cases full : maxIoApics ≤ count
    · refine Or.inr ⟨.outOfResources, ?_, ?_⟩
      · rw [siliconIoApics, if_pos full]
        exact .report_bind _ _ _ (.fail _)
      · rw [Nat.sub_eq_zero_of_le full]
        simp [refusals]
    have room : count < maxIoApics := Nat.lt_of_not_le full
    have left : maxIoApics - count = maxIoApics - (count + 1) + 1 := by omega
    rw [left]
    cases read : nbio.read silicon with
    | error cause =>
      refine Or.inr ⟨cause, ?_, head?_refusals_cons_error read rest⟩
      have located := nbio.ioApicBase_tells files silicon
      rw [read] at located
      rw [siliconIoApics, if_neg full]
      exact located.bind_error
    | ok register =>
      have sum := toNat_add_entriesAt files room small (register &&& Nbio.baseMask)
      have few := entriesAt_le files (register &&& Nbio.baseMask)
      rw [refusals_cons_ok read]
      rcases ih (count + 1) _ (by rw [sum]; omega) with
        ⟨infos, tells, none, described, follow⟩ | ⟨cause, tells, first⟩
      · refine Or.inl ⟨_, siliconIoApics_cons_tells room read tells, none, ?_, rfl, ?_⟩
        · exact .cons ⟨register, read, rfl, rfl⟩ described
        · rwa [sum] at follow
      · exact Or.inr ⟨cause, siliconIoApics_cons_tells room read tells, first⟩

theorem refusals_eq_nil_iff {nbio : Nbio} {room : Nat} {silicons : List PcieSilicon} :
    refusals nbio room silicons = [] ↔ silicons.length ≤ room ∧
      ∀ silicon ∈ silicons, ∃ register, nbio.read silicon = .ok register := by
  rw [refusals, List.append_eq_nil_iff, failures_eq_nil_iff]
  constructor
  · rintro ⟨reads, fits⟩
    have few : silicons.length ≤ room := by
      by_contra many
      rw [if_pos (Nat.lt_of_not_le many)] at fits
      cases fits
    rw [List.take_of_length_le few] at reads
    exact ⟨few, fun silicon member => reads _ (List.mem_map_of_mem member)⟩
  · rintro ⟨few, reads⟩
    rw [List.take_of_length_le few, if_neg (Nat.not_lt_of_le few)]
    refine ⟨?_, rfl⟩
    intro answer member
    obtain ⟨silicon, inside, rfl⟩ := List.mem_map.mp member
    exact reads silicon inside

namespace FollowOn

variable {start : Nat} {infos : List IoApicInfo}

theorem start_eq (follow : FollowOn files start infos) (i : Nat) (inside : i < infos.length) :
    infos[i].gsiBase.toNat = start + ((infos.take i).map (entries files)).sum := by
  induction infos generalizing start i with
  | nil => cases inside
  | cons info rest ih =>
    cases i with
    | zero => exact follow.1
    | succ i =>
      have later := ih follow.2 i (Nat.lt_of_succ_lt_succ inside)
      rw [List.getElem_cons_succ, later, List.take_succ_cons, List.map_cons, List.sum_cons,
        Nat.add_assoc]

theorem start_le (follow : FollowOn files start infos) :
    ∀ info ∈ infos, start ≤ info.gsiBase.toNat := by
  intro info member
  obtain ⟨i, inside, rfl⟩ := List.getElem_of_mem member
  rw [follow.start_eq i inside]
  exact Nat.le_add_right _ _

theorem apart (follow : FollowOn files start infos) :
    infos.Pairwise fun one two => one.gsiBase.toNat + entries files one ≤ two.gsiBase.toNat := by
  induction infos generalizing start with
  | nil => exact .nil
  | cons info rest ih =>
    refine .cons ?_ (ih follow.2)
    intro later member
    rw [follow.1]
    exact start_le follow.2 later member

theorem next_eq (follow : FollowOn files start infos) (i : Nat) (inside : i + 1 < infos.length) :
    infos[i + 1].gsiBase.toNat = infos[i].gsiBase.toNat + entries files infos[i] := by
  rw [follow.start_eq _ inside, follow.start_eq i (Nat.lt_of_succ_lt inside),
    List.take_succ_eq_append_getElem (Nat.lt_of_succ_lt inside), List.map_append, List.sum_append,
    List.map_singleton, List.sum_singleton, Nat.add_assoc]

end FollowOn

theorem sum_entries_le (files : RegisterFiles) (infos : List IoApicInfo) :
    (infos.map (entries files)).sum ≤ 256 * infos.length := by
  have each : ∀ count ∈ infos.map (entries files), count ≤ 256 := by
    intro count member
    obtain ⟨info, _, rfl⟩ := List.mem_map.mp member
    exact entriesAt_le files info.address
  have total := List.sum_le_card_nsmul _ 256 each
  rwa [List.length_map, smul_eq_mul, Nat.mul_comm] at total

def fchIoApic (turin : Turin) : IoApicInfo where
  id := turin.fchIoApicId
  address := turin.fchIoApicAddress
  gsiBase := 0

structure Sees (turin : Turin) (nbio : Nbio) (topology : PcieTopology) : Prop where
  present : turin.nbio = some nbio
  readable : nbio.topology = .ok topology

theorem ioApics_tells_of_blind (files : RegisterFiles) {turin : Turin}
    (blind : ∀ nbio topology, ¬turin.Sees nbio topology) :
    ∃ cause, turin.ioApics.Tells (Has files) (.error cause) := by
  unfold Turin.ioApics
  match there : turin.nbio with
  | none => exact ⟨.notFound, .report_bind _ _ _ (.fail _)⟩
  | some nbio =>
    cases answer : nbio.topology with
    | error cause =>
      refine ⟨cause, Action.Tells.bind_error ?_⟩
      rw [answer]
      exact .fail cause
    | ok topology => exact absurd ⟨there, answer⟩ (blind nbio topology)

variable {turin : Turin} {nbio : Nbio} {topology : PcieTopology}

theorem Sees.tells_of_silicons (sees : turin.Sees nbio topology)
    {told : Except ServiceError (List IoApicInfo)}
    (later : (siliconIoApics nbio topology.silicons 1
      (UInt32.ofNat (entriesAt files turin.fchIoApicAddress))).Tells
        (Has files) told) :
    turin.ioApics.Tells (Has files) (told.map (turin.fchIoApic :: ·)) := by
  unfold Turin.ioApics
  rw [sees.present]
  simp only
  rw [sees.readable]
  refine Action.Tells.bind_ok (.pure topology) ?_
  exact (redirectionEntries_tells _).bind_ok (later.map _)

theorem Sees.ioApics_tells (files : RegisterFiles) (sees : turin.Sees nbio topology) :
    (∃ later, turin.ioApics.Tells (Has files) (.ok (turin.fchIoApic :: later)) ∧
      refusals nbio 31 topology.silicons = [] ∧
      List.Forall₂ (Describes files nbio) topology.silicons later ∧
      FollowOn files 0 (turin.fchIoApic :: later)) ∨
    ∃ cause, turin.ioApics.Tells (Has files) (.error cause) ∧
      (refusals nbio 31 topology.silicons).head? = some cause := by
  have few := entriesAt_le files turin.fchIoApicAddress
  have start : (UInt32.ofNat (entriesAt files turin.fchIoApicAddress)).toNat =
      entriesAt files turin.fchIoApicAddress := by
    rw [UInt32.toNat_ofNat']
    omega
  rcases siliconIoApics_tells files nbio topology.silicons 1 _ (by rw [start]; omega) with
    ⟨later, tells, none, described, follow⟩ | ⟨cause, tells, first⟩
  · rw [start] at follow
    refine Or.inl ⟨later, sees.tells_of_silicons tells, none, described, rfl, ?_⟩
    rw [Nat.zero_add]
    exact follow
  · exact Or.inr ⟨cause, sees.tells_of_silicons tells, first⟩

def interrupts (files : RegisterFiles) (info : IoApicInfo) : Set Nat :=
  Set.Ico info.gsiBase.toNat (info.gsiBase.toNat + entries files info)

structure Accounted (turin : Turin) (files : RegisterFiles)
    (infos : List IoApicInfo) : Prop where
  listed : ∃ nbio topology later, turin.Sees nbio topology ∧ infos = turin.fchIoApic :: later ∧
    List.Forall₂ (Describes files nbio) topology.silicons later
  starts : ∀ i (inside : i < infos.length),
    infos[i].gsiBase.toNat = ((infos.take i).map (entries files)).sum
  fits : (infos.map (entries files)).sum < 2 ^ 32
  contiguous : ∀ i (inside : i + 1 < infos.length),
    infos[i + 1].gsiBase.toNat = infos[i].gsiBase.toNat + entries files infos[i]
  disjoint : infos.Pairwise fun one two => Disjoint (interrupts files one) (interrupts files two)
  increasing : infos.Pairwise fun one two => one.gsiBase < two.gsiBase

theorem Sees.accounted (sees : turin.Sees nbio topology) {later : List IoApicInfo}
    (none : refusals nbio 31 topology.silicons = [])
    (described : List.Forall₂ (Describes files nbio) topology.silicons later)
    (follow : FollowOn files 0 (turin.fchIoApic :: later)) :
    turin.Accounted files (turin.fchIoApic :: later) where
  listed := ⟨nbio, topology, later, sees, rfl, described⟩
  starts := by
    intro i inside
    rw [follow.start_eq i inside, Nat.zero_add]
  fits := by
    have few := (refusals_eq_nil_iff.mp none).1
    have total := sum_entries_le files (turin.fchIoApic :: later)
    rw [List.length_cons, ← described.length_eq] at total
    omega
  contiguous := follow.next_eq
  disjoint := by
    refine follow.apart.imp ?_
    intro one two behind
    exact Set.disjoint_left.mpr fun number first second => by
      have below := first.2
      have above := second.1
      omega
  increasing := by
    refine follow.apart.imp ?_
    intro one two behind
    have some := entriesAt_pos files one.address
    rw [entries] at behind
    rw [UInt32.lt_iff_toNat_lt]
    omega

theorem accounted_of_ioApics {turin : Turin} {fabric : Fabric} {infos : List IoApicInfo}
    (told : (turin.ioApics.run fabric).result = .ok infos) : turin.Accounted fabric.ioApics infos := by
  by_cases seen : ∃ nbio topology, turin.Sees nbio topology
  · obtain ⟨nbio, topology, sees⟩ := seen
    rcases sees.ioApics_tells fabric.ioApics with
      ⟨later, tells, none, described, follow⟩ | ⟨cause, tells, _⟩
    · rw [(tells fabric rfl).1] at told
      cases told
      exact sees.accounted none described follow
    · rw [(tells fabric rfl).1] at told
      cases told
  · obtain ⟨cause, tells⟩ := ioApics_tells_of_blind fabric.ioApics
      fun nbio topology sees => seen ⟨nbio, topology, sees⟩
    rw [(tells fabric rfl).1] at told
    cases told

theorem Sees.refused_iff (sees : turin.Sees nbio topology) (fabric : Fabric) (cause : ServiceError) :
    (turin.ioApics.run fabric).result = .error cause ↔
      (refusals nbio 31 topology.silicons).head? = some cause := by
  rcases sees.ioApics_tells fabric.ioApics with
    ⟨later, tells, none, _⟩ | ⟨first, tells, found⟩
  · rw [(tells fabric rfl).1, none]
    simp
  · rw [(tells fabric rfl).1, found, Except.error.injEq, Option.some.injEq]

theorem Sees.refusals_eq_nil (sees : turin.Sees nbio topology) {fabric : Fabric}
    {infos : List IoApicInfo} (told : (turin.ioApics.run fabric).result = .ok infos) :
    refusals nbio 31 topology.silicons = [] := by
  rw [← List.head?_eq_none_iff, Option.eq_none_iff_forall_not_mem]
  intro cause first
  rw [(sees.refused_iff fabric cause).mpr first] at told
  cases told

structure IoApicsTold (turin : Turin) (files : RegisterFiles)
    (told : Except ServiceError (List IoApicInfo)) : Prop where
  succeeds : (∃ infos, told = .ok infos) ↔ ∃ nbio topology, turin.Sees nbio topology ∧
    topology.silicons.length ≤ 31 ∧
      ∀ silicon ∈ topology.silicons, ∃ register, nbio.read silicon = .ok register
  accounted : ∀ infos, told = .ok infos → turin.Accounted files infos
  refused : ∀ nbio topology, turin.Sees nbio topology → ∀ cause,
    told = .error cause ↔ (refusals nbio 31 topology.silicons).head? = some cause

theorem ioApics_told (turin : Turin) (fabric : Fabric) :
    turin.IoApicsTold fabric.ioApics (turin.ioApics.run fabric).result where
  succeeds := by
    constructor
    · rintro ⟨infos, told⟩
      obtain ⟨nbio, topology, _, sees, _⟩ := (accounted_of_ioApics told).listed
      exact ⟨nbio, topology, sees, refusals_eq_nil_iff.mp (sees.refusals_eq_nil told)⟩
    · rintro ⟨nbio, topology, sees, located⟩
      cases told : (turin.ioApics.run fabric).result with
      | ok infos => exact ⟨infos, rfl⟩
      | error cause =>
        have first := (sees.refused_iff fabric cause).mp told
        rw [refusals_eq_nil_iff.mpr located] at first
        cases first
  accounted := fun _ told => accounted_of_ioApics told
  refused := fun _ _ sees cause => sees.refused_iff fabric cause

end Turin

end FirmwareTables
