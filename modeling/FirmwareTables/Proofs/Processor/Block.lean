import FirmwareTables.Processor.Devices
import FirmwareTables.Proofs.Aml.RoundTrip
import FirmwareTables.Proofs.Text.Digits

set_option autoImplicit false

namespace FirmwareTables

open Text

namespace Aml.Path

theorem pieces_eq_singleton {bytes : Bytes} (plain : separator ∉ bytes) : pieces bytes = [bytes] := by
  induction bytes with
  | nil => rfl
  | cons b rest ih =>
    simp only [List.mem_cons, not_or] at plain
    have later := ih plain.2
    rw [pieces, List.foldr_cons, ← pieces, later, if_neg (Ne.symm plain.1)]

theorem ofBytes_of_plain {b : UInt8} {rest : Bytes} (plain : separator ∉ b :: rest)
    (unrooted : b ≠ rootByte) :
    ofBytes (b :: rest) =
      (segment (b :: rest)).map fun name => { rooted := false, segments := [name] } := by
  simp only [ofBytes, if_neg unrooted, pieces_eq_singleton plain, List.mapM_cons, List.mapM_nil]
  cases segment (b :: rest) <;> rfl

end Aml.Path

namespace Processor

def nameBytes (u : Nat) : Bytes :=
  [0x43, upperDigit (u / 256), upperDigit (u / 16 % 16), upperDigit (u % 16)]

def deviceSegment (u : Nat) : FixedBytes 4 := ⟨nameBytes u, rfl⟩

theorem utf8_deviceName (u : Nat) : utf8 (deviceName u) = 0x43 :: utf8 (upperHex 3 u) := by
  have letter : utf8 "C" = [0x43] := by
    rw [utf8_eq]
    decide
  rw [deviceName, utf8_append, letter, List.singleton_append]

theorem upperDigit_plain {d : Nat} (digit : d < 16) :
    upperDigit d ≠ Aml.Path.separator ∧ Aml.isNameByte (upperDigit d) = true := by
  have table : ∀ d : Fin 16, upperDigit d ≠ Aml.Path.separator ∧
      Aml.isNameByte (upperDigit d) = true := by decide
  exact table ⟨d, digit⟩

theorem deviceName_plain (u : Nat) : Aml.Path.separator ∉ 0x43 :: utf8 (upperHex 3 u) := by
  intro member
  rcases List.mem_cons.mp member with letter | digit
  · cases letter
  · obtain ⟨d, small, same⟩ := utf8_upperHex_mem digit
    exact (upperDigit_plain small).1 same.symm

theorem ofText_deviceName (u : Nat) :
    Aml.Path.ofText (deviceName u) =
      if u < 4096 then .ok (namePath (deviceSegment u)) else .error .segmentLength := by
  have bytes : Aml.Path.ofText (deviceName u) = Aml.Path.ofBytes (0x43 :: utf8 (upperHex 3 u)) := by
    rw [← utf8_deviceName]
    rfl
  rw [bytes, Aml.Path.ofBytes_of_plain (deviceName_plain u) (by decide)]
  by_cases small : u < 4096
  · rw [if_pos small, utf8_upperHex_three small]
    rfl
  · have long := four_le_length_upperDigits (Nat.le_of_not_lt small)
    have wide : (0x43 :: utf8 (upperHex 3 u)).length ≠ 4 := by
      rw [utf8_upperHex, List.length_cons, List.length_append]
      omega
    rw [if_neg small, Aml.Path.segment, dif_neg wide]
    rfl

theorem isSegment_nameBytes (u : Nat) (small : u < 4096) : Aml.isSegment (nameBytes u) = true := by
  have first := (upperDigit_plain (show u / 256 < 16 by omega)).2
  have second := (upperDigit_plain (show u / 16 % 16 < 16 by omega)).2
  have third := (upperDigit_plain (show u % 16 < 16 by omega)).2
  simp only [nameBytes, Aml.isSegment, first, second, third, Bool.and_true]
  rfl

def deviceTerm (u : Nat) (processor : Processor) : Aml.Term :=
  .device (namePath (deviceSegment u)) (deviceBody processor)

theorem device_eq (u : Nat) (processor : Processor) :
    device u processor = if u < 4096 then .ok (deviceTerm u processor) else .error .segmentLength := by
  rw [device, ofText_deviceName]
  split <;> rfl

theorem legal_namePath {segment : FixedBytes 4} (legal : Aml.isSegment segment.bytes = true) :
    (namePath segment).Legal :=
  ⟨by simp [namePath], by simpa [namePath] using legal⟩

theorem legal_systemBus : systemBus.Legal := by
  refine ⟨by simp [systemBus], ?_⟩
  intro segment member
  rw [List.mem_singleton.mp member]
  rfl

theorem hardwareId_closed : (0 : UInt8) ∉ utf8 hardwareIdText := by
  rw [utf8_eq]
  decide

theorem legal_deviceBody (processor : Processor) : Aml.Term.AllLegal (deviceBody processor) := by
  have legal {segment : FixedBytes 4} (named : Aml.isSegment segment.bytes = true) (value : UInt32) :
      (Aml.Term.name (namePath segment) (shortest value)).Legal :=
    ⟨legal_namePath named, trivial⟩
  refine ⟨⟨legal_namePath rfl, hardwareId_closed⟩, legal rfl _,
    ⟨legal_namePath rfl, by decide, trivial, trivial⟩,
    legal rfl _, legal rfl _, legal rfl _, legal rfl _, legal rfl _, trivial⟩

theorem legal_deviceTerm {u : Nat} (small : u < 4096) (processor : Processor) :
    (deviceTerm u processor).Legal :=
  ⟨legal_namePath (isSegment_nameBytes u small), legal_deviceBody processor⟩

theorem encode_namePath (segment : FixedBytes 4) : (namePath segment).encode = .ok segment.bytes := by
  simp [namePath, Aml.Path.encode, Aml.Path.segmentMark, bind, Except.bind, pure, Except.pure]

def Within (encoded : Except Aml.PathError Bytes) (count : Nat) : Prop :=
  ∃ bytes, encoded = .ok bytes ∧ bytes.length ≤ count

theorem within_integer (value : Aml.Integer) : Within (Aml.Term.integer value).encode 9 := by
  refine ⟨value.encode, rfl, ?_⟩
  cases value with
  | byte v =>
    simp only [Aml.Integer.encode]
    split <;> simp
  | word v => simp [Aml.Integer.encode]
  | dword v => simp [Aml.Integer.encode]
  | qword v => simp [Aml.Integer.encode]

theorem within_name {segment : FixedBytes 4} {value : Aml.Term} {count : Nat}
    (within : Within value.encode count) :
    Within (Aml.Term.name (namePath segment) value).encode (count + 5) := by
  obtain ⟨bytes, encoded, small⟩ := within
  refine ⟨_, Aml.Term.encode_name_eq_ok.mpr ⟨_, _, encode_namePath segment, encoded, rfl⟩, ?_⟩
  simp only [List.length_cons, List.length_append, FixedBytes.length_eq]
  omega

theorem within_ret {value : Aml.Term} {count : Nat} (within : Within value.encode count) :
    Within (Aml.Term.ret value).encode (count + 1) := by
  obtain ⟨bytes, encoded, small⟩ := within
  refine ⟨_, Aml.Term.encode_ret_eq_ok.mpr ⟨_, encoded, rfl⟩, ?_⟩
  rw [List.length_cons]
  omega

theorem within_nil : Within (Aml.Term.encodeAll []) 0 := ⟨[], rfl, Nat.le_refl 0⟩

theorem within_cons {term : Aml.Term} {rest : List Aml.Term} {count more : Nat}
    (first : Within term.encode count) (later : Within (Aml.Term.encodeAll rest) more) :
    Within (Aml.Term.encodeAll (term :: rest)) (count + more) := by
  obtain ⟨front, front_ok, front_small⟩ := first
  obtain ⟨back, back_ok, back_small⟩ := later
  refine ⟨_, Aml.Term.encodeAll_cons_eq_ok.mpr ⟨_, _, front_ok, back_ok, rfl⟩, ?_⟩
  rw [List.length_append]
  omega

theorem within_method {segment : FixedBytes 4} {arguments : UInt8} {serialized : Bool}
    {body : List Aml.Term} {count : Nat} (within : Within (Aml.Term.encodeAll body) count) :
    Within (Aml.Term.method (namePath segment) arguments serialized body).encode (count + 10) := by
  obtain ⟨block, encoded, small⟩ := within
  refine ⟨_, Aml.Term.encode_method_eq_ok.mpr ⟨_, _, encode_namePath segment, encoded, rfl⟩, ?_⟩
  have lead := Aml.packageLengthSize_bounds
    (segment.bytes ++ Aml.Term.methodFlags arguments serialized :: block).length
  simp only [Aml.length_package, List.length_append, List.length_cons, List.length_nil,
    FixedBytes.length_eq] at lead ⊢
  omega

theorem within_device {segment : FixedBytes 4} {body : List Aml.Term} {count : Nat}
    (within : Within (Aml.Term.encodeAll body) count) :
    Within (Aml.Term.device (namePath segment) body).encode (count + 10) := by
  obtain ⟨block, encoded, small⟩ := within
  refine ⟨_, Aml.Term.encode_device_eq_ok.mpr ⟨_, _, encode_namePath segment, encoded, rfl⟩, ?_⟩
  have lead := Aml.packageLengthSize_bounds (segment.bytes ++ block).length
  simp only [Aml.length_package, List.length_append, List.length_cons, List.length_nil,
    FixedBytes.length_eq] at lead ⊢
  omega

theorem within_hardwareId : Within (Aml.Term.ofText hardwareIdText).encode 10 := by
  have eight : (utf8 hardwareIdText).length = 8 := by
    rw [utf8_eq]
    decide
  refine ⟨0x0D :: utf8 hardwareIdText ++ [0], rfl, ?_⟩
  rw [List.length_append, List.length_cons, eight]
  decide

theorem within_deviceTerm (u : Nat) (processor : Processor) :
    Within (deviceTerm u processor).encode 129 := by
  have field (segment : FixedBytes 4) (word : UInt32) :
      Within (Aml.Term.name (namePath segment) (shortest word)).encode 14 :=
    within_name (within_integer _)
  have status : Within (Aml.Term.encodeAll
      [.ret (shortest (ProcessorStatus.acpiStatus processor.status))]) 10 :=
    within_cons (within_ret (within_integer _)) within_nil
  have body : Within (Aml.Term.encodeAll (deviceBody processor)) 119 :=
    within_cons (within_name within_hardwareId)
      (within_cons (field _ _)
        (within_cons (within_method status)
          (within_cons (field _ _)
            (within_cons (field _ _)
              (within_cons (field _ _)
                (within_cons (field _ _)
                  (within_cons (field _ _) within_nil)))))))
  exact within_device body

theorem within_devices (listed : List (Nat × Processor)) :
    Within (Aml.Term.encodeAll (listed.map fun (u, processor) => deviceTerm u processor))
      (129 * listed.length) := by
  induction listed with
  | nil => exact within_nil
  | cons head rest ih =>
    obtain ⟨u, processor⟩ := head
    have both := within_cons (within_deviceTerm u processor) ih
    rwa [List.length_cons, Nat.mul_add_one, Nat.add_comm (129 * rest.length)]

theorem mapM_device_eq_ok {listed : List (Nat × Processor)} {devices : List Aml.Term} :
    (listed.mapM fun (u, processor) => device u processor) = .ok devices ↔
      (∀ item ∈ listed, item.1 < 4096) ∧
        devices = listed.map fun (u, processor) => deviceTerm u processor := by
  induction listed generalizing devices with
  | nil => simp [pure, Except.pure, eq_comm]
  | cons head rest ih =>
    obtain ⟨u, processor⟩ := head
    rw [List.mapM_cons, Action.bind_eq_ok]
    constructor
    · rintro ⟨first, built, later⟩
      obtain ⟨others, listed, whole⟩ := Action.bind_eq_ok.mp later
      obtain ⟨small, rfl⟩ := ih.mp listed
      cases whole
      have built : device u processor = .ok first := built
      rw [device_eq] at built
      split at built
      · next least =>
        cases built
        exact ⟨by simpa [least] using small, rfl⟩
      · cases built
    · rintro ⟨small, rfl⟩
      have least : u < 4096 := small _ (List.mem_cons_self ..)
      have others := ih.mpr ⟨fun item member => small item (List.mem_cons_of_mem _ member), rfl⟩
      have first : device u processor = .ok (deviceTerm u processor) := by
        rw [device_eq, if_pos least]
      exact ⟨deviceTerm u processor, first, Action.bind_eq_ok.mpr ⟨_, others, rfl⟩⟩

def presentPlaces (processors : List Processor) : List (Fin processors.length) :=
  (List.finRange processors.length).filter fun u => (processors.get u).status ≠ 0

theorem present_eq (processors : List Processor) :
    present processors = (presentPlaces processors).map fun u => (u.val, processors.get u) := by
  have indexed : processors.zipIdx =
      (List.finRange processors.length).map fun u => (processors.get u, u.val) := by
    apply List.ext_getElem
    · simp
    · intro i _ _
      simp
  have same : (fun u : Fin processors.length => isPresent (processors.get u)) =
      fun u => decide ((processors.get u).status ≠ 0) := by
    funext u
    rw [isPresent, ProcessorStatus.isPresent, bne, decide_not]
    rfl
  rw [present, indexed, List.filter_map, List.map_map, presentPlaces, ← same]
  rfl

def devices (processors : List Processor) : List Aml.Term :=
  (presentPlaces processors).map fun u => deviceTerm u.val (processors.get u)

theorem map_present (processors : List Processor) :
    (present processors).map (fun (u, processor) => deviceTerm u processor) = devices processors := by
  rw [present_eq, List.map_map]
  rfl

theorem length_presentPlaces_le {processors : List Processor}
    (small : ∀ u ∈ presentPlaces processors, u.val < 4096) :
    (presentPlaces processors).length ≤ 4096 := by
  -- The places are distinct numbers of three digits.
  have distinct : ((presentPlaces processors).map Fin.val).Nodup :=
    ((List.nodup_finRange _).filter _).map Fin.val_injective
  have few : (presentPlaces processors).map Fin.val ⊆ List.range 4096 := by
    intro n member
    obtain ⟨u, listed, rfl⟩ := List.mem_map.mp member
    exact List.mem_range.mpr (small u listed)
  have counted := (List.subperm_of_subset distinct few).length_le
  rwa [List.length_map, List.length_range] at counted

theorem within_devicesBlock {processors : List Processor} {block : Bytes}
    (encoded : (Aml.Term.scope systemBus (devices processors)).encode = .ok block) :
    block.length ≤ 129 * (presentPlaces processors).length + 10 := by
  obtain ⟨inner, listed, small⟩ := within_devices (present processors)
  rw [map_present] at listed
  obtain ⟨path, children, first, second, rfl⟩ := Aml.Term.encode_scope_eq_ok.mp encoded
  have named : systemBus.encode = .ok [0x5C, 0x5F, 0x53, 0x42, 0x5F] := rfl
  rw [named, Except.ok.injEq] at first
  rw [listed, Except.ok.injEq] at second
  have lead := Aml.packageLengthSize_bounds (path ++ children).length
  rw [present_eq, List.length_map] at small
  simp only [Aml.length_package, ← first, ← second, List.length_append, List.length_cons,
    List.length_nil] at lead ⊢
  omega

theorem readBlock_devicesBlock {processors : List Processor} {block : Bytes}
    (built : devicesBlock processors = .ok block) :
    (∀ u ∈ presentPlaces processors, u.val < 4096) ∧
      Aml.readBlock block = some [.scope systemBus (devices processors)] := by
  obtain ⟨terms, listed, encoded⟩ := Action.bind_eq_ok.mp built
  obtain ⟨small, rfl⟩ := mapM_device_eq_ok.mp listed
  rw [map_present] at encoded
  have places : ∀ u ∈ presentPlaces processors, u.val < 4096 := by
    intro u member
    refine small (u.val, processors.get u) ?_
    rw [present_eq]
    exact List.mem_map.mpr ⟨u, member, rfl⟩
  have legal : Aml.Term.AllLegal [.scope systemBus (devices processors)] := by
    refine ⟨⟨legal_systemBus, Aml.Term.allLegal_iff.mpr ?_⟩, trivial⟩
    intro term member
    obtain ⟨u, listed, rfl⟩ := List.mem_map.mp member
    exact legal_deviceTerm (places u listed) _
  -- 4096 devices of at most 129 bytes each.
  have fits : block.length ≤ 2 ^ 28 := by
    have count := length_presentPlaces_le places
    have size := within_devicesBlock encoded
    omega
  refine ⟨places, Aml.readBlock_encodeAll legal ?_ fits⟩
  exact Aml.Term.encodeAll_cons_eq_ok.mpr ⟨block, [], encoded, rfl, List.append_nil _⟩

end Processor

end FirmwareTables
