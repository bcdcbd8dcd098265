import FirmwareTables.Topology.Decoder

set_option autoImplicit false

namespace FirmwareTables.Topology

structure CcdOrder where
  ccds : List UInt32
  length_eq : ccds.length = 16
  deriving DecidableEq

namespace CcdOrder

def turin : CcdOrder := ⟨[0, 4, 8, 12, 2, 6, 10, 14, 3, 7, 11, 15, 1, 5, 9, 13], rfl⟩

def unlisted : UInt32 := 0xFFFFFFFF

def rank (order : CcdOrder) (ccd : UInt32) : UInt32 :=
  match order.ccds.findIdx? (· = ccd) with
  | some index => UInt32.ofNat index
  | none => unlisted

def locationRank (order : CcdOrder) (location : Location) : UInt32 := order.rank location.ccd

def isPermutation (order : CcdOrder) : Bool :=
  let sorted := order.ccds.mergeSort (fun a b => decide (a ≤ b))
  (sorted.zip sorted.tail).all fun (a, b) => a ≠ b

def firstRepeatAfter (seen : List UInt32) : List UInt32 → Option UInt32
  | [] => none
  | ccd :: rest => if ccd ∈ seen then some ccd else firstRepeatAfter (ccd :: seen) rest

def firstRepeat (order : CcdOrder) : Option UInt32 := firstRepeatAfter [] order.ccds

end CcdOrder

end FirmwareTables.Topology
