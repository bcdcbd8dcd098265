import FirmwareTables.Action
import FirmwareTables.Board.Config
import FirmwareTables.Proofs.Text.Utf8
import FirmwareTables.Proofs.Topology.Ranked

set_option autoImplicit false

namespace FirmwareTables.BoardConfig

structure Ascii (width : Nat) (value : String) : Prop where
  short : (Text.utf8 value).length ≤ width
  plain : ∀ b ∈ Text.utf8 value, b < 0x80

def SocketsFit (config : BoardConfig) : Prop :=
  1 ≤ config.populatedSockets.toNat ∧ config.populatedSockets.toNat ≤ config.maxSockets.toNat

structure Sensible (config : BoardConfig) : Prop where
  ccds : config.ccdOrder.ccds.Nodup
  sockets : config.SocketsFit
  dsdtOemTableId : Ascii 8 config.dsdtOemTableId
  ssdtOemId : Ascii 6 config.ssdtOemId
  ssdtOemTableId : Ascii 8 config.ssdtOemTableId

-- What makes no sense, when everything looked at before it does.
inductive Faulty (config : BoardConfig) : ConfigError → Prop where
  | ccds {ccd : UInt32} (repeated : config.ccdOrder.FirstRepeat ccd) : Faulty config (.duplicateCcd ccd)
  | sockets (ccds : config.ccdOrder.ccds.Nodup) (unfit : ¬config.SocketsFit) :
    Faulty config (.socketCount config.populatedSockets config.maxSockets)
  | dsdtOemTableId (ccds : config.ccdOrder.ccds.Nodup) (sockets : config.SocketsFit)
      (unfit : ¬Ascii 8 config.dsdtOemTableId) :
    Faulty config (.invalidOemField .dsdtOemTableId config.dsdtOemTableId)
  | ssdtOemId (ccds : config.ccdOrder.ccds.Nodup) (sockets : config.SocketsFit)
      (dsdtOemTableId : Ascii 8 config.dsdtOemTableId) (unfit : ¬Ascii 6 config.ssdtOemId) :
    Faulty config (.invalidOemField .ssdtOemId config.ssdtOemId)
  | ssdtOemTableId (ccds : config.ccdOrder.ccds.Nodup) (sockets : config.SocketsFit)
      (dsdtOemTableId : Ascii 8 config.dsdtOemTableId) (ssdtOemId : Ascii 6 config.ssdtOemId)
      (unfit : ¬Ascii 8 config.ssdtOemTableId) :
    Faulty config (.invalidOemField .ssdtOemTableId config.ssdtOemTableId)

theorem fits_iff {field : OemField} {value : String} :
    fits field value = true ↔ Ascii field.width value := by
  rw [fits, Bool.and_eq_true, decide_eq_true_eq, List.all_eq_true]
  constructor
  · rintro ⟨short, plain⟩
    refine ⟨?_, (Text.utf8_ascii_iff value).mpr fun c member => ?_⟩
    · rwa [Text.length_utf8]
    · exact of_decide_eq_true (plain c member)
  · rintro ⟨short, plain⟩
    refine ⟨?_, fun c member => ?_⟩
    · rwa [Text.length_utf8] at short
    · exact decide_eq_true ((Text.utf8_ascii_iff value).mp plain c member)

theorem checkOemField_eq_ok {field : OemField} {value : String} {u : Unit} :
    checkOemField field value = .ok u ↔ Ascii field.width value := by
  rw [checkOemField, ← fits_iff]
  split
  · next fit => exact iff_of_true rfl fit
  · next unfit => exact iff_of_false nofun unfit

theorem checkOemField_eq_error {field : OemField} {value : String} {e : ConfigError} :
    checkOemField field value = .error e ↔
      ¬Ascii field.width value ∧ e = .invalidOemField field value := by
  rw [checkOemField, ← fits_iff]
  split
  · next fit => exact iff_of_false nofun fun given => given.1 fit
  · next unfit => simp [unfit, eq_comm]

theorem socketsUnfit_iff {config : BoardConfig} :
    (config.maxSockets = 0 ∨ config.populatedSockets = 0 ∨
      config.maxSockets < config.populatedSockets) ↔ ¬config.SocketsFit := by
  rw [SocketsFit, ← UInt8.toNat_inj, ← UInt8.toNat_inj, UInt8.lt_iff_toNat_lt, UInt8.toNat_zero]
  omega

theorem checkSockets_eq_ok {config : BoardConfig} {u : Unit} :
    config.checkSockets = .ok u ↔ config.SocketsFit := by
  rw [checkSockets]
  split
  · next unfit => exact iff_of_false nofun (socketsUnfit_iff.mp unfit)
  · next fit => exact iff_of_true rfl (not_not.mp (mt socketsUnfit_iff.mpr fit))

theorem checkSockets_eq_error {config : BoardConfig} {e : ConfigError} :
    config.checkSockets = .error e ↔
      ¬config.SocketsFit ∧ e = .socketCount config.populatedSockets config.maxSockets := by
  rw [checkSockets]
  split
  · next unfit => simp [socketsUnfit_iff.mp unfit, eq_comm]
  · next fit => exact iff_of_false nofun fun given => fit (socketsUnfit_iff.mpr given.1)

-- The sorted order shows a repeat just when the scan finds one.
theorem checkCcdOrder_eq (order : Topology.CcdOrder) : checkCcdOrder order =
    match order.firstRepeat with
    | some ccd => .error (.duplicateCcd ccd)
    | none => .ok () := by
  rw [checkCcdOrder]
  split
  · next distinct =>
    rw [Topology.CcdOrder.firstRepeat_eq_none.mpr (order.isPermutation_iff.mp distinct)]
  · rfl

theorem checkCcdOrder_eq_ok {order : Topology.CcdOrder} {u : Unit} :
    checkCcdOrder order = .ok u ↔ order.ccds.Nodup := by
  rw [checkCcdOrder_eq, ← Topology.CcdOrder.firstRepeat_eq_none]
  cases order.firstRepeat with
  | some ccd => exact iff_of_false nofun nofun
  | none => exact iff_of_true rfl rfl

theorem checkCcdOrder_eq_error {order : Topology.CcdOrder} {e : ConfigError} :
    checkCcdOrder order = .error e ↔ ∃ ccd, order.FirstRepeat ccd ∧ e = .duplicateCcd ccd := by
  simp only [checkCcdOrder_eq, ← Topology.CcdOrder.firstRepeat_eq_some]
  cases order.firstRepeat with
  | some ccd => simp [eq_comm]
  | none => exact iff_of_false nofun fun ⟨_, found, _⟩ => nomatch found

theorem validate_eq_ok {config : BoardConfig} : config.validate = .ok () ↔ config.Sensible := by
  simp only [validate, Action.bind_eq_ok, checkCcdOrder_eq_ok, checkSockets_eq_ok,
    checkOemField_eq_ok]
  constructor
  · rintro ⟨_, ccds, _, sockets, _, dsdtOemTableId, _, ssdtOemId, ssdtOemTableId⟩
    exact ⟨ccds, sockets, dsdtOemTableId, ssdtOemId, ssdtOemTableId⟩
  · rintro ⟨ccds, sockets, dsdtOemTableId, ssdtOemId, ssdtOemTableId⟩
    exact ⟨(), ccds, (), sockets, (), dsdtOemTableId, (), ssdtOemId, ssdtOemTableId⟩

theorem validate_eq_error {config : BoardConfig} {e : ConfigError} :
    config.validate = .error e ↔ config.Faulty e := by
  simp only [validate, Action.bind_eq_error, checkCcdOrder_eq_ok, checkCcdOrder_eq_error,
    checkSockets_eq_ok, checkSockets_eq_error, checkOemField_eq_ok, checkOemField_eq_error]
  constructor
  · rintro (⟨ccd, repeated, rfl⟩ | ⟨_, ccds, ⟨unfit, rfl⟩ | ⟨_, sockets, ⟨unfit, rfl⟩ |
      ⟨_, dsdtOemTableId, ⟨unfit, rfl⟩ | ⟨_, ssdtOemId, unfit, rfl⟩⟩⟩⟩)
    · exact .ccds repeated
    · exact .sockets ccds unfit
    · exact .dsdtOemTableId ccds sockets unfit
    · exact .ssdtOemId ccds sockets dsdtOemTableId unfit
    · exact .ssdtOemTableId ccds sockets dsdtOemTableId ssdtOemId unfit
  · intro faulty
    cases faulty with
    | ccds repeated => exact .inl ⟨_, repeated, rfl⟩
    | sockets ccds unfit => exact .inr ⟨(), ccds, .inl ⟨unfit, rfl⟩⟩
    | dsdtOemTableId ccds sockets unfit =>
      exact .inr ⟨(), ccds, .inr ⟨(), sockets, .inl ⟨unfit, rfl⟩⟩⟩
    | ssdtOemId ccds sockets dsdtOemTableId unfit =>
      exact .inr ⟨(), ccds, .inr ⟨(), sockets, .inr ⟨(), dsdtOemTableId, .inl ⟨unfit, rfl⟩⟩⟩⟩
    | ssdtOemTableId ccds sockets dsdtOemTableId ssdtOemId unfit =>
      exact .inr ⟨(), ccds, .inr ⟨(), sockets, .inr ⟨(), dsdtOemTableId, .inr
        ⟨(), ssdtOemId, unfit, rfl⟩⟩⟩⟩

/-- A configuration is accepted just when no CCD stands twice in its order, at least one socket is
populated and no more than there can be, and its texts are ASCII and fit their fields. Otherwise the
error is that of the first of these that is not so, and names the first CCD that repeats an earlier one.
The sorted order and the scan agree on whether there is one. In an accepted configuration the CCDs rank
by their places, and those that are not listed behind all that are. -/
theorem validate_exact (config : BoardConfig) :
    (config.validate = .ok () ↔ config.Sensible) ∧
      (∀ e, config.validate = .error e ↔ config.Faulty e) ∧
      (config.ccdOrder.isPermutation = true ↔ config.ccdOrder.firstRepeat = none) ∧
      (config.validate = .ok () → config.ccdOrder.Ranks) := by
  refine ⟨validate_eq_ok, fun e => validate_eq_error, ?_, fun accepted => ?_⟩
  · rw [Topology.CcdOrder.isPermutation_iff, Topology.CcdOrder.firstRepeat_eq_none]
  · exact Topology.CcdOrder.ranks_of_nodup (validate_eq_ok.mp accepted).ccds

theorem validate_exact_default :
    ({} : BoardConfig).Sensible ∧ ({} : BoardConfig).validate = .ok () ∧
      ({} : BoardConfig).ccdOrder.Ranks := by
  have sensible : ({} : BoardConfig).Sensible := by
    refine ⟨by decide, by unfold SocketsFit; decide, ?_, ?_, ?_⟩
    · exact (@fits_iff .dsdtOemTableId _).mp (by decide)
    · exact (@fits_iff .ssdtOemId _).mp (by decide)
    · exact (@fits_iff .ssdtOemTableId _).mp (by decide)
  obtain ⟨ok, -, -, ranks⟩ := validate_exact {}
  exact ⟨sensible, ok.mpr sensible, ranks (ok.mpr sensible)⟩

end FirmwareTables.BoardConfig
