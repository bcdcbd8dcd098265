import FirmwareTables.Proofs.Soc.Interrupts

set_option autoImplicit false

namespace FirmwareTables.Turin

open Services

variable {invariant : Fabric → Prop}

theorem query_tells {α : Type} (purpose : String) (answer : Except ServiceError α) :
    (query purpose answer).Tells invariant answer := by
  unfold query
  cases answer with
  | ok a => exact .pure a
  | error cause => exact .report_bind _ _ _ (.fail cause)

def knownPorts (turin : Turin) : List CxlPort :=
  match turin.capablePorts, turin.cxl with
  | port :: more, _ => port :: more
  | [], some cxl => listedPorts cxl
  | [], none => []

theorem cxlPorts_tells (turin : Turin) :
    (turin.cxlPorts : Action Fabric ServiceError (List CxlPort)).Tells invariant
      (.ok turin.knownPorts) := by
  unfold cxlPorts knownPorts
  match turin.capablePorts, turin.cxl with
  | port :: more, _ => exact .pure _
  | [], some cxl => exact .pure _
  | [], none => exact .report_bind _ _ _ (.pure _)

section Bridge

variable (turin : Turin) (resources : PciResources) (ioApics : List IoApicInfo) (ports : List CxlPort)

def bridgeAt (number : Nat) : Except ServiceError RootBridgeInstance :=
  (resources.bridge number).bind fun bridge =>
    match ioApics[number]? with
    | none => .error .notFound
    | some ioApic =>
      (resources.portCount bridge.index).bind fun portCount =>
        (readRange (resources.port bridge.index) 1 portCount).map fun rootPorts => {
          bridge, rootPorts
          interruptStart := ioApic.gsiBase
          proximityDomain := turin.proximityDomain bridge
          cxlPort := cxlPortOf ports bridge }

theorem describeBridges_tells (number count : Nat) :
    (turin.describeBridges resources ioApics ports number count).Tells invariant
      (readRange (turin.bridgeAt resources ioApics ports) number count) := by
  induction count generalizing number with
  | zero => exact .pure []
  | succ count ih =>
    rw [describeBridges, readRange_succ, bridgeAt]
    cases resources.bridge number with
    | error cause => exact (query_tells _ (.error cause)).bind_error
    | ok bridge =>
      refine (query_tells _ (.ok bridge)).bind_ok ?_
      simp only [Except.bind]
      cases ioApics[number]? with
      | none => exact .report_bind _ _ _ (.fail _)
      | some ioApic =>
        simp only
        cases resources.portCount bridge.index with
        | error cause => exact (query_tells _ (.error cause)).bind_error
        | ok portCount =>
          refine (query_tells _ (.ok portCount)).bind_ok ?_
          simp only
          cases readRange (resources.port bridge.index) 1 portCount with
          | error cause => exact (query_tells _ (.error cause)).bind_error
          | ok rootPorts =>
            refine (query_tells _ (.ok rootPorts)).bind_ok ?_
            exact (ih (number + 1)).map _

end Bridge

def portFailures (resources : PciResources) (index : Nat) : List ServiceError :=
  match resources.portCount index with
  | .error cause => [cause]
  | .ok count => failures ((List.range' 1 count).map (resources.port index))

-- What the questions about a root bridge fail with where so many IOAPICs are known.
def bridgeFailures (resources : PciResources) (known number : Nat) : List ServiceError :=
  match resources.bridge number with
  | .error cause => [cause]
  | .ok bridge => if number < known then portFailures resources bridge.index else [.notFound]

section Bridge

variable {turin : Turin} {resources : PciResources} {ioApics : List IoApicInfo} {ports : List CxlPort}

theorem failure?_bridgeAt (number : Nat) :
    failure? (turin.bridgeAt resources ioApics ports number) =
      (bridgeFailures resources ioApics.length number).head? := by
  unfold bridgeAt bridgeFailures
  cases resources.bridge number with
  | error cause => rfl
  | ok bridge =>
    simp only [Except.bind]
    by_cases known : number < ioApics.length
    · rw [List.getElem?_eq_getElem known, if_pos known, portFailures]
      cases resources.portCount bridge.index with
      | error cause => rfl
      | ok count =>
        simp only
        rw [← failure?_readRange]
        cases readRange (resources.port bridge.index) 1 count <;> rfl
    · rw [List.getElem?_eq_none (Nat.le_of_not_lt known), if_neg known]
      rfl

def domainOf (turin : Turin) (bridge : RootBridge) : UInt32 :=
  let bus : PciAddress :=
    { segment := bridge.segment, bus := bridge.baseBus, device := 0, function := 0 }
  match turin.numa with
  | none => bridge.socket.toUInt32
  | some numa =>
    match numa bus with
    | .ok (domain :: _) => domain
    | _ => bridge.socket.toUInt32

structure Pairs (turin : Turin) (resources : PciResources) (ioApics : List IoApicInfo)
    (ports : List CxlPort) (number : Nat) (entry : RootBridgeInstance) : Prop where
  bridge : resources.bridge number = .ok entry.bridge
  interrupts : (ioApics[number]?).map (·.gsiBase) = some entry.interruptStart
  domain : entry.proximityDomain = turin.domainOf entry.bridge
  cxlPort : entry.cxlPort = ports.find? fun port =>
    decide (port.endpoint.segment = entry.bridge.segment ∧ port.endpoint.bus = entry.bridge.baseBus)
  portCount : resources.portCount entry.bridge.index = .ok entry.rootPorts.length
  rootPorts : ∀ i (inside : i < entry.rootPorts.length),
    resources.port entry.bridge.index (i + 1) = .ok entry.rootPorts[i]

theorem proximityDomain_eq (bridge : RootBridge) :
    turin.proximityDomain bridge = turin.domainOf bridge := by
  unfold proximityDomain domainOf
  cases turin.numa with
  | none => rfl
  | some numa =>
    simp only [Option.bind_some, NumaServices.firstDomain, RootBridge.address,
      PciAddress.origin]
    cases numa { segment := bridge.segment, bus := bridge.baseBus, device := 0, function := 0 } with
    | error cause => rfl
    | ok domains => cases domains <;> rfl

theorem pairs_of_bridgeAt {number : Nat} {entry : RootBridgeInstance}
    (told : turin.bridgeAt resources ioApics ports number = .ok entry) :
    turin.Pairs resources ioApics ports number entry := by
  obtain ⟨bridge, answered, later⟩ := Action.bind_eq_ok.mp told
  match there : ioApics[number]? with
  | none =>
    rw [there] at later
    cases later
  | some ioApic =>
    rw [there] at later
    obtain ⟨count, counted, reading⟩ := Action.bind_eq_ok.mp later
    cases read : readRange (resources.port bridge.index) 1 count with
    | error cause =>
      rw [read] at reading
      cases reading
    | ok rootPorts =>
      rw [read] at reading
      cases reading
      obtain ⟨size, reads⟩ := readRange_eq_ok_iff.mp read
      exact {
        bridge := answered
        interrupts := by rw [there]; rfl
        domain := proximityDomain_eq bridge
        cxlPort := by simp [cxlPortOf]
        portCount := by rw [counted, size]
        rootPorts := by
          intro i inside
          rw [Nat.add_comm]
          exact reads i inside }

def withoutCxl (entry : RootBridgeInstance) : RootBridgeInstance := { entry with cxlPort := none }

theorem map_withoutCxl_bridgeAt (turin : Turin) (resources : PciResources) (ioApics : List IoApicInfo)
    (ports other : List CxlPort) (number : Nat) :
    (turin.bridgeAt resources ioApics other number).map withoutCxl =
      (turin.bridgeAt resources ioApics ports number).map withoutCxl := by
  unfold bridgeAt
  cases resources.bridge number with
  | error cause => rfl
  | ok bridge =>
    simp only [Except.bind]
    cases ioApics[number]? with
    | none => rfl
    | some ioApic =>
      simp only
      cases resources.portCount bridge.index with
      | error cause => rfl
      | ok count =>
        simp only
        cases readRange (resources.port bridge.index) 1 count <;> rfl

end Bridge

variable {turin : Turin} {fabric : Fabric}

def bridgesOf (turin : Turin) : Except ServiceError (List IoApicInfo) →
    Except ServiceError (List RootBridgeInstance)
  | .error _ => .error .notFound
  | .ok ioApics =>
    match turin.pciResources with
    | none => .error .notFound
    | some resources => resources.bridgeCount.bind fun count =>
      readRange (turin.bridgeAt resources ioApics turin.knownPorts) 1 count

theorem rootBridges_run (turin : Turin) (fabric : Fabric) :
    (turin.rootBridges.run fabric).result = turin.bridgesOf (turin.ioApics.run fabric).result ∧
      (turin.rootBridges.run fabric).state = (turin.ioApics.run fabric).state := by
  refine Action.run_bind_tells (g := turin.bridgesOf) ?_ fabric
  intro told s
  match told with
  | .error cause => exact .report_bind _ _ _ (.fail _)
  | .ok ioApics =>
    unfold bridgesOf
    simp only
    cases turin.pciResources with
    | none => exact .report_bind _ _ _ (.fail _)
    | some resources =>
      refine (query_tells _ resources.bridgeCount).bind fun count _ => ?_
      exact (cxlPorts_tells turin).bind_ok (describeBridges_tells turin resources ioApics _ 1 count)

structure Asks (turin : Turin) (fabric : Fabric) (ioApics : List IoApicInfo)
    (resources : PciResources) : Prop where
  told : (turin.ioApics.run fabric).result = .ok ioApics
  present : turin.pciResources = some resources

theorem Asks.result_eq {ioApics : List IoApicInfo} {resources : PciResources}
    (asks : turin.Asks fabric ioApics resources) :
    (turin.rootBridges.run fabric).result = resources.bridgeCount.bind fun count =>
      readRange (turin.bridgeAt resources ioApics turin.knownPorts) 1 count := by
  rw [(rootBridges_run turin fabric).1, asks.told, bridgesOf, asks.present]

theorem exists_asks {bridges : List RootBridgeInstance}
    (told : (turin.rootBridges.run fabric).result = .ok bridges) :
    ∃ ioApics resources, turin.Asks fabric ioApics resources := by
  rw [(rootBridges_run turin fabric).1] at told
  cases first : (turin.ioApics.run fabric).result with
  | error cause =>
    rw [first] at told
    cases told
  | ok ioApics =>
    rw [first, bridgesOf] at told
    cases there : turin.pciResources with
    | none =>
      rw [there] at told
      cases told
    | some resources => exact ⟨ioApics, resources, first, there⟩

theorem Asks.pairs {ioApics : List IoApicInfo} {resources : PciResources}
    {bridges : List RootBridgeInstance} (asks : turin.Asks fabric ioApics resources)
    (told : (turin.rootBridges.run fabric).result = .ok bridges) :
    resources.bridgeCount = .ok bridges.length ∧ ∀ i (inside : i < bridges.length),
      turin.Pairs resources ioApics turin.knownPorts (i + 1) bridges[i] := by
  rw [asks.result_eq] at told
  obtain ⟨count, counted, read⟩ := Action.bind_eq_ok.mp told
  obtain ⟨size, reads⟩ := readRange_eq_ok_iff.mp read
  refine ⟨by rw [counted, size], ?_⟩
  intro i inside
  have one := reads i inside
  rw [Nat.add_comm] at one
  exact pairs_of_bridgeAt one

theorem Asks.increasing {ioApics : List IoApicInfo} {resources : PciResources}
    {bridges : List RootBridgeInstance} (asks : turin.Asks fabric ioApics resources)
    (told : (turin.rootBridges.run fabric).result = .ok bridges) :
    bridges.Pairwise fun one two => one.interruptStart < two.interruptStart := by
  have ordered := List.pairwise_iff_getElem.mp (accounted_of_ioApics asks.told).increasing
  have start (i : Nat) (inside : i < bridges.length) : ∃ known : i + 1 < ioApics.length,
      ioApics[i + 1].gsiBase = bridges[i].interruptStart := by
    obtain ⟨info, there, same⟩ := Option.map_eq_some_iff.mp ((asks.pairs told).2 i inside).interrupts
    obtain ⟨known, rfl⟩ := List.getElem?_eq_some_iff.mp there
    exact ⟨known, same⟩
  refine List.pairwise_iff_getElem.mpr ?_
  intro i j first second less
  obtain ⟨knownFirst, same⟩ := start i first
  obtain ⟨knownSecond, alike⟩ := start j second
  rw [← same, ← alike]
  exact ordered (i + 1) (j + 1) knownFirst knownSecond (Nat.succ_lt_succ less)

theorem map_withoutCxl_bridgesOf (cxl : Option CxlServices)
    (told : Except ServiceError (List IoApicInfo)) :
    (({ turin with cxl } : Turin).bridgesOf told).map (·.map withoutCxl) =
      (turin.bridgesOf told).map (·.map withoutCxl) := by
  cases told with
  | error cause => rfl
  | ok ioApics =>
    unfold bridgesOf
    simp only
    cases turin.pciResources with
    | none => rfl
    | some resources =>
      simp only
      cases resources.bridgeCount with
      | error cause => rfl
      | ok count =>
        simp only [Except.bind, map_readRange]
        congr 1
        funext number
        exact map_withoutCxl_bridgeAt turin resources ioApics turin.knownPorts _ number

theorem failure?_bridges (turin : Turin) (resources : PciResources) (ioApics : List IoApicInfo)
    (ports : List CxlPort) (count : Nat) :
    failure? (readRange (turin.bridgeAt resources ioApics ports) 1 count) =
      ((List.range' 1 count).flatMap (bridgeFailures resources ioApics.length)).head? := by
  rw [failure?_readRange, head?_failures_map failure?_bridgeAt]

structure RootBridgesTold (turin : Turin) (fabric : Fabric)
    (told : Except ServiceError (List RootBridgeInstance)) : Prop where
  noIoApics : ∀ cause, (turin.ioApics.run fabric).result = .error cause → told = .error .notFound
  noResources : turin.pciResources = none → told = .error .notFound
  noCount : ∀ ioApics resources cause, turin.Asks fabric ioApics resources →
    resources.bridgeCount = .error cause → told = .error cause
  refused : ∀ ioApics resources count, turin.Asks fabric ioApics resources →
    resources.bridgeCount = .ok count → ∀ cause, told = .error cause ↔
      ((List.range' 1 count).flatMap (bridgeFailures resources ioApics.length)).head? = some cause
  listed : ∀ bridges, told = .ok bridges → ∃ ioApics resources ports,
    turin.Asks fabric ioApics resources ∧ (∀ s, (turin.soc.cxlPorts.run s).result = .ok ports) ∧
      resources.bridgeCount = .ok bridges.length ∧ ∀ i (inside : i < bridges.length),
        turin.Pairs resources ioApics ports (i + 1) bridges[i]
  increasing : ∀ bridges, told = .ok bridges →
    bridges.Pairwise fun one two => one.interruptStart < two.interruptStart
  onlyCxl : ∀ cxl, let other := ({ turin with cxl } : Turin).rootBridges.run fabric
    other.result.map (·.map withoutCxl) = told.map (·.map withoutCxl) ∧
      other.state = (turin.rootBridges.run fabric).state

/-- The root bridges of a platform are told all together, each paired with what is its own, or the first
thing that goes wrong is reported; the CXL services decide about nothing but the CXL ports. -/
theorem rootBridges_told (turin : Turin) (fabric : Fabric) :
    turin.RootBridgesTold fabric (turin.rootBridges.run fabric).result where
  noIoApics := by
    intro cause failed
    rw [(rootBridges_run turin fabric).1, failed]
    rfl
  noResources := by
    intro absent
    rw [(rootBridges_run turin fabric).1]
    cases (turin.ioApics.run fabric).result with
    | error cause => rfl
    | ok ioApics =>
      rw [bridgesOf, absent]
  noCount := by
    intro ioApics resources cause asks failed
    rw [asks.result_eq, failed]
    rfl
  refused := by
    intro ioApics resources count asks counted cause
    rw [asks.result_eq, counted, ← failure?_bridges turin resources ioApics turin.knownPorts,
      failure?_eq_some_iff]
    rfl
  listed := by
    intro bridges told
    obtain ⟨ioApics, resources, asks⟩ := exists_asks told
    refine ⟨ioApics, resources, turin.knownPorts, asks, ?_, asks.pairs told⟩
    intro s
    have tells : Action.Tells (· = s) turin.cxlPorts (.ok turin.knownPorts) := cxlPorts_tells turin
    exact (tells s rfl).1
  increasing := by
    intro bridges told
    obtain ⟨ioApics, resources, asks⟩ := exists_asks told
    exact asks.increasing told
  onlyCxl := by
    intro cxl other
    have same : ({ turin with cxl } : Turin).ioApics = turin.ioApics := rfl
    constructor
    · rw [(rootBridges_run _ fabric).1, (rootBridges_run turin fabric).1, same]
      exact map_withoutCxl_bridgesOf cxl _
    · rw [(rootBridges_run _ fabric).2, (rootBridges_run turin fabric).2, same]

end FirmwareTables.Turin
