import FirmwareTables.Proofs.Processor.Listed

set_option autoImplicit false

namespace FirmwareTables

theorem Aml.Term.encodeAll_map {α : Type} (term : α → Term) (code : α → Bytes) (items : List α)
    (each : ∀ item ∈ items, (term item).encode = .ok (code item)) :
    encodeAll (items.map term) = .ok (items.flatMap code) := by
  induction items with
  | nil => rfl
  | cons item rest ih =>
    have later := ih fun other member => each other (List.mem_cons_of_mem _ member)
    have now := each item (List.mem_cons_self ..)
    exact encodeAll_cons_eq_ok.mpr ⟨_, _, now, later, rfl⟩

namespace Processor

def deviceBytes (u : Nat) (processor : Processor) : Bytes :=
  match (deviceTerm u processor).encode with
  | .ok bytes => bytes
  | .error _ => []

theorem encode_deviceTerm (u : Nat) (processor : Processor) :
    (deviceTerm u processor).encode = .ok (deviceBytes u processor) := by
  obtain ⟨bytes, encoded, _⟩ := within_deviceTerm u processor
  simp only [deviceBytes, encoded]

theorem length_deviceBytes_le (u : Nat) (processor : Processor) :
    (deviceBytes u processor).length ≤ 129 := by
  obtain ⟨bytes, encoded, small⟩ := within_deviceTerm u processor
  simpa only [deviceBytes, encoded] using small

theorem readBlock_deviceBytes {u : Nat} (small : u < 4096) (processor : Processor) :
    Aml.readBlock (deviceBytes u processor) = some [deviceTerm u processor] := by
  have legal : Aml.Term.AllLegal [deviceTerm u processor] := ⟨legal_deviceTerm small processor, trivial⟩
  have encoded : Aml.Term.encodeAll [deviceTerm u processor] = .ok (deviceBytes u processor) :=
    Aml.Term.encodeAll_cons_eq_ok.mpr
      ⟨_, [], encode_deviceTerm u processor, rfl, List.append_nil _⟩
  have size := length_deviceBytes_le u processor
  exact Aml.readBlock_encodeAll legal encoded (by omega)

theorem deviceBytes_congr {one two : Processor} (u : Nat) (status : one.status = two.status)
    (location : one.location = two.location) (uid : one.uid = two.uid) :
    deviceBytes u one = deviceBytes u two := by
  have body : deviceBody one = deviceBody two := by
    simp only [deviceBody, status, location, uid]
  rw [deviceBytes, deviceBytes, deviceTerm, deviceTerm, body]

def deviceAt (processors : List Processor) (u : Nat) : Bytes :=
  (processors[u]?.map (deviceBytes u)).getD []

theorem deviceAt_eq {processors : List Processor} {u : Nat} (inside : u < processors.length) :
    deviceAt processors u = deviceBytes u processors[u] := by
  simp [deviceAt, inside]

-- A device for each processor that there is and for no other, one behind the other. Each is byte code
-- that can be read on its own and says the place of its processor.
structure HoldsDevices (block : Bytes) (processors : List Processor) (device : Nat → Bytes) : Prop where
  joined : ∃ front, block = front ++ (presentPlaces processors).flatMap fun u => device u.val
  read : ∃ terms, Aml.readBlock block = some [.scope systemBus terms] ∧
    List.Forall₂ (fun u term => Aml.readBlock (device u.val) = some [term] ∧
      (Listing.ofDevice term).map (·.uid) = some u.val) (presentPlaces processors) terms

theorem exists_front_devicesBlock {processors : List Processor} {block : Bytes}
    (built : devicesBlock processors = .ok block) :
    ∃ front, block = front ++ (presentPlaces processors).flatMap fun u => deviceAt processors u.val := by
  obtain ⟨terms, listed, encoded⟩ := Action.bind_eq_ok.mp built
  have terms_eq := (mapM_device_eq_ok.mp listed).2
  rw [map_present] at terms_eq
  subst terms_eq
  obtain ⟨path, children, _, inner, whole⟩ := Aml.Term.encode_scope_eq_ok.mp encoded
  have each : ∀ u ∈ presentPlaces processors,
      (deviceTerm u.val (processors.get u)).encode = .ok (deviceAt processors u.val) := by
    intro u _
    rw [deviceAt_eq u.isLt]
    exact encode_deviceTerm u.val _
  have joined := Aml.Term.encodeAll_map _ _ _ each
  have same : children = (presentPlaces processors).flatMap fun u => deviceAt processors u.val :=
    Except.ok.inj (inner.symm.trans joined)
  refine ⟨[0x10] ++ Aml.packageLength (path ++ children).length ++ path, ?_⟩
  rw [← same, ← whole]
  simp only [Aml.package, List.append_assoc]

theorem holdsDevices_devicesBlock {processors : List Processor} {block : Bytes}
    (numbered : ∀ u (inside : u < processors.length), processors[u].uid.toNat = u)
    (built : devicesBlock processors = .ok block) :
    HoldsDevices block processors (deviceAt processors) where
  joined := exists_front_devicesBlock built
  read := by
    obtain ⟨small, whole⟩ := readBlock_devicesBlock built
    refine ⟨devices processors, whole, ?_⟩
    rw [devices, List.forall₂_map_right_iff, List.forall₂_same]
    intro u member
    constructor
    · rw [deviceAt_eq u.isLt]
      exact readBlock_deviceBytes (small u member) _
    · rw [ofDevice_deviceTerm]
      exact congrArg some (numbered u.val u.isLt)

end Processor

end FirmwareTables
