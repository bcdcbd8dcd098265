import FirmwareTables.Proofs.Smbios.Appended
import FirmwareTables.Proofs.Smbios.Recovered

set_option autoImplicit false

namespace FirmwareTables

theorem DxioPort.upToLast_eq (table : List DxioPort) :
    upToLast table = table.take (table.findIdx (·.isLast) + 1) := by
  induction table with
  | nil => rfl
  | cons port rest ih =>
    rw [upToLast, List.findIdx_cons]
    cases port.isLast with
    | true => rfl
    | false => simp [ih]

namespace Smbios

open StructureStore

def engineOf (topology : Option PcieTopology) (slot : UInt16) : Option PcieEngine :=
  topology.bind fun topology =>
    (topology.complexes.flatMap fun complex => complex.silicons.flatMap fun silicon =>
      silicon.wrappers.flatMap (·.engines)).find? (·.slot = slot)

def recordOf (topology : Option PcieTopology) (config : BoardConfig) (port : DxioPort) : SystemSlot :=
  match engineOf topology port.slot with
  | some engine => (SystemSlot.ofPort port config).at engine.address
  | none => SystemSlot.ofPort port config

theorem engines_eq (topology : PcieTopology) :
    topology.engines = topology.complexes.flatMap fun complex => complex.silicons.flatMap fun silicon =>
      silicon.wrappers.flatMap (·.engines) := by
  simp only [PcieTopology.engines, PcieTopology.silicons, List.flatMap_assoc]

section Record

variable {ε : Type} {invariant : StructureStore → Prop}
variable (topology : Option PcieTopology) (config : BoardConfig) (port : DxioPort)

theorem slotRecord_tells :
    (slotRecord topology config port : Action StructureStore ε SystemSlot).Tells invariant
      (.ok (recordOf topology config port)) := by
  unfold slotRecord recordOf engineOf
  cases topology with
  | none => exact .report_bind _ _ _ (.pure _)
  | some topology =>
    simp only [PcieTopology.slotAddress, engines_eq, Option.bind_some]
    cases (topology.complexes.flatMap fun complex => complex.silicons.flatMap fun silicon =>
      silicon.wrappers.flatMap (·.engines)).find? (·.slot = port.slot) with
    | none => exact .report_bind _ _ _ (.pure _)
    | some engine => exact .pure _

theorem zero_not_mem_digits (n : Nat) : 0 ∉ Text.utf8 (toString n) := by
  have digits : toString n = String.ofList (Nat.toDigits 10 n) := rfl
  rw [digits, Text.utf8_ofList, List.mem_flatMap]
  rintro ⟨digit, member, zero⟩
  have isDigit := Nat.isDigit_of_mem_toDigits (by decide) (by decide) member
  simp only [Char.isDigit, Bool.and_eq_true, decide_eq_true_eq] at isDigit
  have low : 48 ≤ digit.val.toNat := isDigit.1
  have high : digit.val.toNat ≤ 57 := isDigit.2
  rw [String.utf8EncodeChar, if_pos (by omega), List.mem_singleton] at zero
  have same := congrArg UInt8.toNat zero
  rw [UInt8.toNat_ofNat', UInt8.toNat_zero] at same
  omega

theorem zero_not_mem_designation :
    0 ∉ Text.utf8 (recordOf topology config port).designation := by
  have text : (recordOf topology config port).designation = "PCIE-" ++ toString port.slot.toNat := by
    unfold recordOf
    split <;> rfl
  rw [text, Text.utf8_append, List.mem_append]
  rintro (front | digits)
  · have plain : Text.utf8 "PCIE-" = [0x50, 0x43, 0x49, 0x45, 0x2D] := by
      cbv
    rw [plain] at front
    revert front
    decide
  · exact zero_not_mem_digits _ digits

def plainBytes (slot : SystemSlot) : Bytes :=
  slot.fixedPart 24 1 ++ slot.extensionPart ++ (Text.utf8 slot.designation ++ [0, 0])

theorem toBytes_eq {slot : SystemSlot} (alone : slot.peers = [])
    (clean : 0 ∉ Text.utf8 slot.designation) : slot.toBytes = .ok (plainBytes slot) := by
  have size : slot.formattedSize = 24 := by
    rw [SystemSlot.formattedSize, alone]
    rfl
  have few : slot.peers.length ≤ 46 := by
    rw [alone]
    decide
  refine SystemSlot.toBytes_eq_ok.mpr ⟨few, clean, ?_⟩
  rw [SystemSlot.area, size, alone]
  simp [plainBytes, StringSet.toBytes, Text.utf8]

-- A slot that is no PCIe slot is of another type; speeds without a generation count as the newest.
def typeByte (port : DxioPort) : UInt8 :=
  if port.engineType = .pcie then
    ([(.gen1, 0xA5), (.gen2, 0xAB), (.gen3, 0xB1), (.gen4, 0xB8)].lookup port.linkSpeed).getD 0xBE
  else 0x01

-- Any other number of lanes, that of reversed ones too, counts as one.
def lanesOf (port : DxioPort) : Nat :=
  let lanes := port.endLane.toNat + 1 - port.startLane.toNat
  if lanes ∈ [2, 4, 8, 16] then lanes else 1

def widthByte (lanes : Nat) : UInt8 :=
  ([(2, 0x09), (4, 0x0A), (8, 0x0B), (16, 0x0D)].lookup lanes).getD 0x08

def usageByte (endpoint : EndpointStatus) : UInt8 :=
  ([(.detected, 0x04), (.notPresent, 0x03)].lookup endpoint).getD 0x02

-- What the bytes of a port's slot hold, each at its place in the formatted area or behind it.
structure Encodes (bytes : Bytes) : Prop where
  written : (recordOf topology config port).toBytes = .ok bytes
  slotType : bytes[5]? = some (typeByte port)
  width : bytes[6]? = some (widthByte (lanesOf port))
  usage : bytes[7]? = some (usageByte port.endpoint)
  slotId : (bytes.drop 9).take 2 = Bytes.word16 port.slot
  characteristics : (bytes.drop 11).take 2 =
    [config.slotCharacteristics1, config.slotCharacteristics2]
  address : (bytes.drop 13).take 4 =
    match engineOf topology port.slot with
    | some engine =>
      Bytes.word16 engine.address.segment ++ [engine.address.bus, engine.address.devFunc]
    | none => [0xFF, 0xFF, 0xFF, 0xFF]
  lanes : bytes[17]? = some (UInt8.ofNat (lanesOf port))
  physicalWidth : bytes[20]? = some (widthByte (lanesOf port))
  reference : bytes[4]? = some 1
  designation : bytes.drop 24 = Text.utf8 ("PCIE-" ++ toString port.slot.toNat) ++ [0, 0]

theorem code_slotTypeOf : (slotTypeOf port).code = typeByte port := by
  unfold slotTypeOf typeByte
  cases port.engineType <;> cases port.linkSpeed <;> rfl

theorem code_slotUsageOf : (slotUsageOf port).code = usageByte port.endpoint := by
  unfold slotUsageOf
  cases port.endpoint <;> rfl

variable {port} in
theorem lanesOf_of_span {span : UInt16} (wired : port.laneSpan = some span) :
    lanesOf port = if span.toNat + 1 ∈ [2, 4, 8, 16] then span.toNat + 1 else 1 := by
  unfold DxioPort.laneSpan at wired
  split at wired
  next forward =>
    cases wired
    have distance : (port.endLane - port.startLane).toNat =
        port.endLane.toNat - port.startLane.toNat := UInt16.toNat_sub_of_le _ _ forward
    have order : port.startLane.toNat ≤ port.endLane.toNat := UInt16.le_iff_toNat_le.mp forward
    have lanes : port.endLane.toNat + 1 - port.startLane.toNat =
        (port.endLane - port.startLane).toNat + 1 := by omega
    rw [lanesOf, lanes]
  next => cases wired

variable {port} in
theorem lanesOf_of_reversed (reversed : port.laneSpan = none) : lanesOf port = 1 := by
  unfold DxioPort.laneSpan at reversed
  split at reversed
  next => cases reversed
  next backward =>
    have order : port.endLane.toNat < port.startLane.toNat :=
      UInt16.lt_iff_toNat_lt.mp (UInt16.not_le.mp backward)
    have lanes : port.endLane.toNat + 1 - port.startLane.toNat = 0 := by omega
    rw [lanesOf, lanes]
    rfl

theorem slotWidthOf_eq : (slotWidthOf port).code = widthByte (lanesOf port) ∧
    (slotWidthOf port).lanes = UInt8.ofNat (lanesOf port) := by
  unfold slotWidthOf
  split
  next wired => exact lanesOf_of_span wired ▸ ⟨rfl, rfl⟩
  next wired => exact lanesOf_of_span wired ▸ ⟨rfl, rfl⟩
  next wired => exact lanesOf_of_span wired ▸ ⟨rfl, rfl⟩
  next wired => exact lanesOf_of_span wired ▸ ⟨rfl, rfl⟩
  next h15 h7 h3 h1 =>
    have single : lanesOf port = 1 := by
      cases wired : port.laneSpan with
      | none => exact lanesOf_of_reversed wired
      | some span =>
        have other (n : UInt16) (differs : port.laneSpan = some n → False) : span.toNat ≠ n.toNat :=
          fun same => differs (wired.trans (congrArg some (UInt16.toNat_inj.mp same)))
        have n15 := other 15 h15
        have n7 := other 7 h7
        have n3 := other 3 h3
        have n1 := other 1 h1
        rw [lanesOf_of_span wired, if_neg]
        simp only [List.mem_cons, List.not_mem_nil, or_false, UInt16.reduceToNat] at n15 n7 n3 n1 ⊢
        omega
    rw [single]
    exact ⟨rfl, rfl⟩

-- Without an engine the address is all ones.
theorem exists_recordOf : ∃ address, recordOf topology config port =
    (SystemSlot.ofPort port config).at address ∧
      Bytes.word16 address.segment ++ [address.bus, address.devFunc] =
        match engineOf topology port.slot with
        | some engine =>
          Bytes.word16 engine.address.segment ++ [engine.address.bus, engine.address.devFunc]
        | none => [0xFF, 0xFF, 0xFF, 0xFF] := by
  unfold recordOf
  cases engineOf topology port.slot with
  | some engine => exact ⟨engine.address, rfl, rfl⟩
  | none => exact ⟨{ segment := 0xFFFF, bus := 0xFF, device := 0x1F, function := 0x07 }, rfl, by decide⟩

theorem encodes_plainBytes :
    Encodes topology config port (plainBytes (recordOf topology config port)) := by
  have clean := zero_not_mem_designation topology config port
  obtain ⟨address, record, placed⟩ := exists_recordOf topology config port
  obtain ⟨width, lanes⟩ := slotWidthOf_eq port
  have slotType := code_slotTypeOf port
  have usage := code_slotUsageOf port
  rw [record] at clean ⊢
  exact {
    written := by
      rw [record]
      exact toBytes_eq rfl clean
    slotType := congrArg some slotType
    width := congrArg some width
    usage := congrArg some usage
    slotId := rfl
    characteristics := rfl
    address := by
      rw [← placed]
      rfl
    lanes := congrArg some lanes
    physicalWidth := congrArg some width
    reference := rfl
    designation := rfl }

end Record

theorem publish_adds (topology : Option PcieTopology) (config : BoardConfig) (ports : List DxioPort)
    (store : StructureStore) :
    Adds store (ports.map fun port => plainBytes (recordOf topology config port))
      ((publish topology config ports).run store).result
      ((publish topology config ports).run store).state := by
  induction ports generalizing store with
  | nil => exact .none store
  | cons port rest ih =>
    have tells : (slotRecord topology config port : Action StructureStore SlotError SystemSlot).Tells
        (· = store) (.ok (recordOf topology config port)) := slotRecord_tells topology config port
    have slot : (slotRecord topology config port : Action StructureStore SlotError SystemSlot).Answers
        store (recordOf topology config port) store := tells store rfl
    -- A port always has a written form, so only the store can end the enumeration.
    rw [publish, slot.run_bind.1, slot.run_bind.2, (encodes_plainBytes topology config port).written]
    simp only [List.map_cons]
    cases ended : ((add (plainBytes (recordOf topology config port))).run store).result with
    | error cause =>
      have refuses : (add (plainBytes (recordOf topology config port))).Refuses store cause store :=
        ⟨ended, state_of_add_refuses ⟨ended, rfl⟩⟩
      have whole := Action.refuses_mapError.mpr ⟨cause, refuses, (rfl : SlotError.service cause = _)⟩
      obtain ⟨result, state⟩ := whole.run_bind fun handle => do
        let later ← publish topology config rest
        return handle :: later
      rw [result, state]
      exact .refused refuses _
    | ok handle =>
      have answers : (add (plainBytes (recordOf topology config port))).Answers store handle
          (store.extended [plainBytes (recordOf topology config port)]) :=
        ⟨ended, state_of_add_answers ⟨ended, rfl⟩⟩
      have whole := (Action.answers_mapError (f := SlotError.service)).mpr answers
      have later := Action.run_bind_pure (publish topology config rest) (handle :: ·)
        (store.extended [plainBytes (recordOf topology config port)])
      rw [whole.run_bind.1, whole.run_bind.2, later.1, later.2]
      exact .added answers (ih _)

def portsOf (table : List DxioPort) : List DxioPort :=
  (table.take (table.findIdx (·.isLast) + 1)).filter fun port => 0 < port.slot && port.present

def slotPorts (tables : DxioTables) (sockets : List Nat) : List DxioPort :=
  sockets.flatMap fun socket => ((tables socket).map portsOf).getD []

theorem publishSockets_adds (tables : DxioTables) (topology : Option PcieTopology) (config : BoardConfig)
    (sockets : List Nat) (store : StructureStore) :
    Adds store ((slotPorts tables sockets).map fun port => plainBytes (recordOf topology config port))
      ((publishSockets tables topology config sockets).run store).result
      ((publishSockets tables topology config sockets).run store).state := by
  induction sockets generalizing store with
  | nil => exact .none store
  | cons socket rest ih =>
    rw [publishSockets, slotPorts, List.flatMap_cons, List.map_append]
    cases tables socket with
    | none => exact ih store
    | some table =>
      have populated : portsOf table = DxioPort.populated table := by
        rw [portsOf, DxioPort.populated, DxioPort.upToLast_eq]
        rfl
      simp only [Option.map_some, Option.getD_some, populated]
      have first := publish_adds topology config (DxioPort.populated table) store
      cases ended : ((publish topology config (DxioPort.populated table)).run store).result with
      | error e =>
        rw [ended] at first
        obtain ⟨result, state⟩ := Action.Refuses.run_bind ⟨ended, rfl⟩ fun handles => do
          let later ← publishSockets tables topology config rest
          return handles ++ later
        rw [result, state]
        exact first.append_of_error _
      | ok handles =>
        rw [ended] at first
        have answers : (publish topology config (DxioPort.populated table)).Answers store handles _ :=
          ⟨ended, rfl⟩
        have later := Action.run_bind_pure (publishSockets tables topology config rest) (handles ++ ·)
          ((publish topology config (DxioPort.populated table)).run store).state
        rw [answers.run_bind.1, answers.run_bind.2, later.1, later.2]
        exact first.append_of_ok (ih _)

def topologyOf (nbio : Option Nbio) : Option PcieTopology := nbio.bind (·.topology.toOption)

theorem readTopology_tells {ε : Type} {invariant : StructureStore → Prop} (nbio : Option Nbio) :
    (readTopology nbio : Action StructureStore ε (Option PcieTopology)).Tells invariant
      (.ok (topologyOf nbio)) := by
  unfold readTopology topologyOf
  cases nbio with
  | none => exact .pure none
  | some nbio =>
    simp only [Option.map_some, Option.bind_some]
    cases nbio.topology with
    | ok topology => exact .pure (some topology)
    | error cause => exact .report_bind _ _ _ (.pure none)

theorem publishSlots_adds (tables : DxioTables) (nbio : Option Nbio) (config : BoardConfig)
    (store : StructureStore) :
    Adds store ((slotPorts tables (List.range config.populatedSockets.toNat)).map fun port =>
        plainBytes (recordOf (topologyOf nbio) config port))
      ((publishSlots tables nbio config).run store).result
      ((publishSlots tables nbio config).run store).state := by
  let sockets := List.range config.populatedSockets.toNat
  have tells : (readTopology nbio : Action StructureStore SlotError (Option PcieTopology)).Tells
      (· = store) (.ok (topologyOf nbio)) := readTopology_tells nbio
  have topology : (readTopology nbio : Action StructureStore SlotError (Option PcieTopology)).Answers
      store (topologyOf nbio) store := tells store rfl
  have counted (handles : List UInt16) (s : StructureStore) :
      (do report .debug s!"{handles.length} system slot records"; return handles :
        Action StructureStore SlotError (List UInt16)).Tells (· = s) (.ok handles) :=
    .report_bind _ _ _ (.pure handles)
  have whole := Action.run_bind_tells (x := publishSockets tables (topologyOf nbio) config sockets)
    counted store
  rw [publishSlots, topology.run_bind.1, topology.run_bind.2, whole.1, whole.2]
  have adds := publishSockets_adds tables (topologyOf nbio) config sockets store
  cases ended : ((publishSockets tables (topologyOf nbio) config sockets).run store).result with
  | ok handles => rwa [ended] at adds
  | error e => rwa [ended] at adds

theorem extends_publishSlots (tables : DxioTables) (nbio : Option Nbio) (config : BoardConfig) :
    Extends (publishSlots tables nbio config) :=
  fun store => (publishSlots_adds tables nbio config store).extends

/-- The slots of the populated ports are written down in the order of the sockets and of their tables,
and every one of them has a written form. The store takes these records in order: either all of them,
and the answer is the handle of each, or those before the first one that it refuses, and the answer is
the cause of the refusal. -/
theorem publishSlots_published (tables : DxioTables) (nbio : Option Nbio) (config : BoardConfig)
    (store : StructureStore) :
    ∃ records, List.Forall₂ (Encodes (topologyOf nbio) config)
        (slotPorts tables (List.range config.populatedSockets.toNat)) records ∧
      Published store records ((publishSlots tables nbio config).run store).result
        ((publishSlots tables nbio config).run store).state := by
  refine ⟨_, ?_, (publishSlots_adds tables nbio config store).published⟩
  rw [List.forall₂_map_right_iff, List.forall₂_same]
  exact fun port _ => encodes_plainBytes (topologyOf nbio) config port

end Smbios

end FirmwareTables
