import FirmwareTables.Proofs.Processor.Block

set_option autoImplicit false

namespace FirmwareTables

namespace Aml

namespace Path

def localName (path : Path) : Option Bytes :=
  match path with
  | { rooted := false, segments := [segment] } => some segment.bytes
  | _ => none

def isLocal (name : String) (path : Path) : Bool := path.localName = some (Text.utf8 name)

end Path

namespace Term

def integer? : Term → Option Nat
  | .integer value => some value.value
  | _ => none

def text? : Term → Option Bytes
  | .string content => some content
  | _ => none

-- What a method without arguments gives back when that is all it does.
def given? : List Term → Option Nat
  | [.ret value] => value.integer?
  | _ => none

def only {α : Type} : List α → Option α
  | [a] => some a
  | _ => none

def object (name : String) (children : List Term) : Option Term :=
  only <| children.filterMap fun
    | .name target value => if target.isLocal name then some value else none
    | _ => none

def method? (name : String) (children : List Term) : Option (List Term) :=
  only <| children.filterMap fun
    | .method target _ _ body => if target.isLocal name then some body else none
    | _ => none

end Term

end Aml

namespace Processor

structure Listing where
  name : Bytes
  hardwareId : Bytes
  status : Nat
  uid : Nat
  package : Nat
  ccd : Nat
  complex : Nat
  core : Nat
  thread : Nat

namespace Listing

def ofDevice : Aml.Term → Option Listing
  | .device path children => do
    let integer (name : String) := (Aml.Term.object name children).bind Aml.Term.integer?
    return {
      name := ← path.localName
      hardwareId := ← (Aml.Term.object "_HID" children).bind Aml.Term.text?
      status := ← (Aml.Term.method? "_STA" children).bind Aml.Term.given?
      uid := ← integer "_UID"
      package := ← integer "PACK"
      ccd := ← integer "CCD_"
      complex := ← integer "CCX_"
      core := ← integer "CORE"
      thread := ← integer "THRD" }
  | _ => none

def ofBlock (block : Bytes) : Option (List Listing) :=
  match Aml.readBlock block with
  | some [.scope { rooted := true, segments := [bus] } devices] =>
    if bus.bytes = Text.utf8 "_SB_" then devices.mapM ofDevice else none
  | _ => none

end Listing

def listing (u : Nat) (status : ProcessorStatus) (location : Topology.Location) (uid : Nat) :
    Listing where
  name := nameBytes u
  hardwareId := Text.utf8 "ACPI0007"
  status := (ProcessorStatus.acpiStatus status).toNat
  uid
  package := location.package.toNat
  ccd := location.ccd.toNat
  complex := location.complex.toNat
  core := location.core.toNat
  thread := location.thread.toNat

theorem isLocal_namePath (segment : FixedBytes 4) (name : String) :
    (namePath segment).isLocal name = decide (segment.bytes = Text.utf8 name) := by
  simp [Aml.Path.isLocal, Aml.Path.localName, namePath]

theorem integer_shortest (word : UInt32) : (shortest word).integer? = some word.toNat := by
  simp [shortest, Aml.Term.integer?, Aml.Integer.value_ofWord]

theorem utf8_names :
    [Text.utf8 "_HID", Text.utf8 "_STA", Text.utf8 "_UID", Text.utf8 "PACK", Text.utf8 "CCD_",
      Text.utf8 "CCX_", Text.utf8 "CORE", Text.utf8 "THRD"] =
    [[0x5F, 0x48, 0x49, 0x44], [0x5F, 0x53, 0x54, 0x41], [0x5F, 0x55, 0x49, 0x44],
      [0x50, 0x41, 0x43, 0x4B], [0x43, 0x43, 0x44, 0x5F], [0x43, 0x43, 0x58, 0x5F],
      [0x43, 0x4F, 0x52, 0x45], [0x54, 0x48, 0x52, 0x44]] := by
  simp only [Text.utf8_eq]
  decide

theorem method_deviceBody (processor : Processor) :
    Aml.Term.method? "_STA" (deviceBody processor) =
      some [.ret (shortest (ProcessorStatus.acpiStatus processor.status))] := by
  have names := utf8_names
  simp only [List.cons.injEq, and_true] at names
  obtain ⟨_, sta, _⟩ := names
  simp [deviceBody, Aml.Term.method?, isLocal_namePath, statusMethod, sta, Aml.Term.only]

theorem objects_deviceBody (processor : Processor) :
    ["_HID", "_UID", "PACK", "CCD_", "CCX_", "CORE", "THRD"].map
      (Aml.Term.object · (deviceBody processor)) =
    [.ofText hardwareIdText, shortest processor.uid, shortest processor.location.package,
      shortest processor.location.ccd, shortest processor.location.complex,
      shortest processor.location.core, shortest processor.location.thread].map some := by
  have names := utf8_names
  simp only [List.cons.injEq, and_true] at names
  obtain ⟨hid, _, uid, pack, ccd, ccx, core, thrd⟩ := names
  simp [deviceBody, Aml.Term.object, isLocal_namePath, hardwareId, uniqueId, packageName, ccdName,
    complexName, coreName, threadName, hid, uid, pack, ccd, ccx, core, thrd, Aml.Term.only]

theorem ofDevice_deviceTerm (u : Nat) (processor : Processor) :
    Listing.ofDevice (deviceTerm u processor) =
      some (listing u processor.status processor.location processor.uid.toNat) := by
  have objects := objects_deviceBody processor
  simp only [List.map_cons, List.map_nil, List.cons.injEq, and_true] at objects
  obtain ⟨hid, uid, pack, ccd, ccx, core, thrd⟩ := objects
  simp only [Listing.ofDevice, deviceTerm, hid, uid, pack, ccd, ccx, core, thrd,
    method_deviceBody, Option.bind_some, integer_shortest, Aml.Term.given?]
  rfl

theorem utf8_systemBus : Text.utf8 "_SB_" = [0x5F, 0x53, 0x42, 0x5F] := by
  rw [Text.utf8_eq]
  decide

theorem mapM_ofDevice_devices (processors : List Processor) :
    (devices processors).mapM Listing.ofDevice = some ((presentPlaces processors).map fun u =>
      listing u.val (processors.get u).status (processors.get u).location
        (processors.get u).uid.toNat) := by
  have each :
      (Listing.ofDevice ∘ fun u : Fin processors.length => deviceTerm u.val (processors.get u)) =
        fun u => pure (listing u.val (processors.get u).status (processors.get u).location
          (processors.get u).uid.toNat) := by
    funext u
    exact ofDevice_deviceTerm u.val (processors.get u)
  rw [devices, List.mapM_map, each, List.mapM_pure]
  rfl

theorem ofBlock_devicesBlock {processors : List Processor} {block : Bytes}
    (built : devicesBlock processors = .ok block) :
    Listing.ofBlock block = some ((presentPlaces processors).map fun u =>
      listing u.val (processors.get u).status (processors.get u).location
        (processors.get u).uid.toNat) := by
  obtain ⟨_, read⟩ := readBlock_devicesBlock built
  rw [Listing.ofBlock, read]
  simp only [systemBus, utf8_systemBus, if_pos]
  exact mapM_ofDevice_devices processors

end Processor

end FirmwareTables
