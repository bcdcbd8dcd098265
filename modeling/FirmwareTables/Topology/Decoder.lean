import FirmwareTables.Action
import FirmwareTables.Text.Hex

set_option autoImplicit false

namespace FirmwareTables.Topology

inductive Level where
  | smt
  | core
  | complex
  | ccd
  | die
  | package
  deriving DecidableEq, Repr

def Level.ofType (levelType : UInt32) : Option Level :=
  if levelType = 1 then some .smt
  else if levelType = 2 then some .core
  else if levelType = 3 then some .complex
  else if levelType = 4 then some .ccd
  else if levelType = 5 then some .die
  else none

-- Dies are folded into the package, so `die` is zero for every processor.
structure Location where
  package : UInt32
  die : UInt32
  ccd : UInt32
  complex : UInt32
  core : UInt32
  thread : UInt32
  deriving DecidableEq, Repr

structure Decoder where
  smt : UInt32
  core : UInt32
  complex : UInt32
  ccd : UInt32
  die : UInt32
  package : UInt32
  deriving DecidableEq, Repr

namespace Decoder

def widths (decoder : Decoder) : List UInt32 :=
  [decoder.smt, decoder.core, decoder.complex, decoder.ccd, decoder.die, decoder.package]

def lastReport (reports : List (Level × UInt32)) (level : Level) : Option UInt32 :=
  ((reports.filter (·.1 = level)).map (·.2)).getLast?

-- A level without a width of its own has the width of the level below.
def inherit (reported : Option UInt32) (below : UInt32) : UInt32 :=
  match reported with
  | some width => if width = 0 then below else width
  | none => below

def ofReports (reports : List (Level × UInt32)) : Decoder :=
  let smt := (lastReport reports .smt).getD 0
  let core := inherit (lastReport reports .core) smt
  let complex := inherit (lastReport reports .complex) core
  let ccd := inherit (lastReport reports .ccd) complex
  let die := inherit (lastReport reports .die) ccd
  { smt, core, complex, ccd, die, package := die + 1 }

def field (upper lower id : UInt32) : UInt32 :=
  let kept : UInt64 :=
    if upper < 64 then id.toUInt64 &&& ((1 <<< upper.toUInt64) - 1) else id.toUInt64
  if lower < 64 then (kept >>> lower.toUInt64).toUInt32 else 0

def decode (decoder : Decoder) (id : UInt32) : Location where
  package := field decoder.package decoder.die id
  die := 0
  ccd := field decoder.ccd decoder.complex id
  complex := field decoder.complex decoder.core id
  core := field decoder.core decoder.smt id
  thread := field decoder.smt 0 id

end Decoder

structure Registers where
  eax : UInt32
  ecx : UInt32
  deriving DecidableEq, Repr

abbrev Cpuid := UInt32 → UInt32 → Registers

def topologyLeaf : UInt32 := 0x80000026

structure LevelReport where
  levelType : UInt32
  shift : UInt32
  deriving DecidableEq, Repr

def LevelReport.ofRegisters (registers : Registers) : LevelReport where
  levelType := (registers.ecx >>> 8) &&& 0xFF
  shift := registers.eax &&& 0x1F

def subleaves : List UInt32 := [0, 1, 2, 3, 4, 5, 6, 7]

def levelReports (cpuid : Cpuid) : List LevelReport :=
  (subleaves.map fun subleaf => LevelReport.ofRegisters (cpuid topologyLeaf subleaf)).takeWhile
    (·.levelType ≠ 0)

def queriedSubleaves (cpuid : Cpuid) : List UInt32 :=
  subleaves.take ((levelReports cpuid).length + 1)

def LevelReport.known (report : LevelReport) : Option (Level × UInt32) :=
  (Level.ofType report.levelType).map (·, report.shift)

def Decoder.ofCpuid (cpuid : Cpuid) : Decoder :=
  ofReports ((levelReports cpuid).filterMap LevelReport.known)

def detect {σ ε : Type} (cpuid : Cpuid) : Action σ ε Decoder := do
  for report in levelReports cpuid do
    if report.known.isNone then
      Action.report .debug .topology
        ("topology: ignoring level type " ++ Text.prefixedHex report.levelType.toNat)
  return Decoder.ofCpuid cpuid

end FirmwareTables.Topology
