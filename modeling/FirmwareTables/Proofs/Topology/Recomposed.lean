import FirmwareTables.Proofs.Topology.Fields

set_option autoImplicit false

namespace FirmwareTables.Topology

def bits (upper lower n : Nat) : Nat := n % 2 ^ upper / 2 ^ lower

theorem bits_lt {upper lower : Nat} (ordered : lower ≤ upper) (n : Nat) :
    bits upper lower n < 2 ^ (upper - lower) := by
  apply Nat.div_lt_of_lt_mul
  rw [← Nat.pow_add, Nat.add_sub_cancel' ordered]
  exact Nat.mod_lt n (Nat.two_pow_pos upper)

theorem mod_pow_add_bits {upper lower : Nat} (ordered : lower ≤ upper) (n : Nat) :
    n % 2 ^ lower + bits upper lower n * 2 ^ lower = n % 2 ^ upper := by
  have front : n % 2 ^ upper % 2 ^ lower = n % 2 ^ lower :=
    Nat.mod_mod_of_dvd n (Nat.pow_dvd_pow 2 ordered)
  rw [bits, ← front, Nat.mul_comm]
  exact Nat.mod_add_div _ _

namespace Decoder

structure Ordered (decoder : Decoder) : Prop where
  core : decoder.smt.toNat ≤ decoder.core.toNat
  complex : decoder.core.toNat ≤ decoder.complex.toNat
  ccd : decoder.complex.toNat ≤ decoder.ccd.toNat
  die : decoder.ccd.toNat ≤ decoder.die.toNat
  room : decoder.die.toNat < 2 ^ 32 - 1

theorem toNat_package {reports : List (Level × UInt32)} (ordered : (ofReports reports).Ordered) :
    (ofReports reports).package.toNat = (ofReports reports).die.toNat + 1 := by
  have room := ordered.room
  change ((ofReports reports).die + 1).toNat = _
  rw [UInt32.toNat_add, UInt32.toNat_one]
  omega

structure Exact (decoder : Decoder) (id : UInt32) : Prop where
  thread : (decoder.decode id).thread.toNat = bits decoder.smt.toNat 0 id.toNat
  core : (decoder.decode id).core.toNat = bits decoder.core.toNat decoder.smt.toNat id.toNat
  complex :
    (decoder.decode id).complex.toNat = bits decoder.complex.toNat decoder.core.toNat id.toNat
  ccd : (decoder.decode id).ccd.toNat = bits decoder.ccd.toNat decoder.complex.toNat id.toNat
  die : (decoder.decode id).die = 0
  package :
    (decoder.decode id).package.toNat = bits decoder.package.toNat decoder.die.toNat id.toNat

theorem exact (decoder : Decoder) (id : UInt32) : decoder.Exact id where
  thread := toNat_field _ _ id
  core := toNat_field _ _ id
  complex := toNat_field _ _ id
  ccd := toNat_field _ _ id
  die := rfl
  package := toNat_field _ _ id

structure Bounded (decoder : Decoder) (location : Location) : Prop where
  thread : location.thread.toNat < 2 ^ decoder.smt.toNat
  core : location.core.toNat < 2 ^ (decoder.core.toNat - decoder.smt.toNat)
  complex : location.complex.toNat < 2 ^ (decoder.complex.toNat - decoder.core.toNat)
  ccd : location.ccd.toNat < 2 ^ (decoder.ccd.toNat - decoder.complex.toNat)
  package : location.package.toNat < 2

def recompose (decoder : Decoder) (location : Location) (die : Nat) : Nat :=
  location.thread.toNat + location.core.toNat * 2 ^ decoder.smt.toNat +
    location.complex.toNat * 2 ^ decoder.core.toNat + location.ccd.toNat * 2 ^ decoder.complex.toNat +
    die * 2 ^ decoder.ccd.toNat + location.package.toNat * 2 ^ decoder.die.toNat

variable {reports : List (Level × UInt32)}

theorem bounded_decode (ordered : (ofReports reports).Ordered) (id : UInt32) :
    (ofReports reports).Bounded ((ofReports reports).decode id) := by
  have exact := (ofReports reports).exact id
  have package := bits_lt (Nat.le_succ (ofReports reports).die.toNat) id.toNat
  rw [Nat.succ_eq_add_one, ← toNat_package ordered, ← exact.package, toNat_package ordered,
    Nat.add_sub_cancel_left] at package
  constructor
  · rw [exact.thread]
    exact bits_lt (Nat.zero_le _) id.toNat
  · rw [exact.core]
    exact bits_lt ordered.core id.toNat
  · rw [exact.complex]
    exact bits_lt ordered.complex id.toNat
  · rw [exact.ccd]
    exact bits_lt ordered.ccd id.toNat
  · exact package

theorem recompose_decode (ordered : (ofReports reports).Ordered) (id : UInt32) :
    (ofReports reports).recompose ((ofReports reports).decode id)
        (bits (ofReports reports).die.toNat (ofReports reports).ccd.toNat id.toNat) =
      id.toNat % 2 ^ (ofReports reports).package.toNat := by
  have exact := (ofReports reports).exact id
  -- Every level adds its bits to those below it, from the thread up.
  have thread := mod_pow_add_bits (Nat.zero_le (ofReports reports).smt.toNat) id.toNat
  rw [Nat.pow_zero, Nat.mod_one, Nat.zero_add, Nat.mul_one] at thread
  have above : (ofReports reports).die.toNat ≤ (ofReports reports).package.toNat := by
    rw [toNat_package ordered]
    exact Nat.le_succ _
  rw [recompose, exact.thread, exact.core, exact.complex, exact.ccd, exact.package, thread,
    mod_pow_add_bits ordered.core, mod_pow_add_bits ordered.complex, mod_pow_add_bits ordered.ccd,
    mod_pow_add_bits ordered.die, mod_pow_add_bits above]

theorem decode_injOn (ordered : (ofReports reports).Ordered)
    (folded : (ofReports reports).ccd = (ofReports reports).die) :
    Set.InjOn (ofReports reports).decode {id | id.toNat < 2 ^ (ofReports reports).package.toNat} := by
  intro a small b small' same
  have none (n : Nat) : bits (ofReports reports).die.toNat (ofReports reports).ccd.toNat n = 0 := by
    have bound := bits_lt ordered.die n
    rw [folded, Nat.sub_self, Nat.pow_zero, Nat.lt_one_iff] at bound
    rw [folded, bound]
  have one := recompose_decode ordered a
  have other := recompose_decode ordered b
  rw [none, Nat.mod_eq_of_lt small] at one
  rw [none, Nat.mod_eq_of_lt small'] at other
  apply UInt32.toNat_inj.mp
  rw [← one, ← other, same]

/-- Decoding is exact and loses nothing but the bits of the die: with a number for the die, which its
own bits can hold, the location adds up to the identifier as far as the package reaches. Where the die
has no bits of its own, no two identifiers that the package can hold have one location. -/
theorem decode_recomposes (ordered : (ofReports reports).Ordered) :
    let decoder := ofReports reports
    decoder.package.toNat = decoder.die.toNat + 1 ∧
      (∀ id, decoder.Exact id ∧ decoder.Bounded (decoder.decode id) ∧
        ∃ die < 2 ^ (decoder.die.toNat - decoder.ccd.toNat),
          id.toNat % 2 ^ decoder.package.toNat = decoder.recompose (decoder.decode id) die) ∧
      (decoder.ccd = decoder.die →
        Set.InjOn decoder.decode {id | id.toNat < 2 ^ decoder.package.toNat}) := by
  intro decoder
  refine ⟨toNat_package ordered, ?_, decode_injOn ordered⟩
  intro id
  exact ⟨decoder.exact id, bounded_decode ordered id, _, bits_lt ordered.die id.toNat,
    (recompose_decode ordered id).symm⟩

-- No complex and no die of their own.
def threeLevels : List (Level × UInt32) := [(.smt, 1), (.core, 3), (.ccd, 6)]

theorem decode_recomposes_threeLevels :
    let decoder := ofReports threeLevels
    decoder.Ordered ∧ decoder.package.toNat = decoder.die.toNat + 1 ∧
      decoder.Exact 0xFFFFFFD5 ∧ decoder.Bounded (decoder.decode 0xFFFFFFD5) ∧
      (∃ die < 2 ^ 0, (0xFFFFFFD5 : UInt32).toNat % 2 ^ 7 =
        decoder.recompose (decoder.decode 0xFFFFFFD5) die) ∧
      decoder.ccd = decoder.die ∧ Set.InjOn decoder.decode {id | id.toNat < 2 ^ 7} := by
  intro decoder
  have ordered : decoder.Ordered :=
    ⟨by decide, by decide, by decide, by decide, by decide⟩
  have folded : decoder.ccd = decoder.die := by decide
  obtain ⟨package, decoded, injective⟩ := decode_recomposes ordered
  obtain ⟨exact, bounded, whole⟩ := decoded 0xFFFFFFD5
  exact ⟨ordered, package, exact, bounded, whole, folded, injective folded⟩

-- Two dies of a package that are folded into one location.
example :
    let decoder := ofReports [(.smt, 1), (.ccd, 3), (.die, 4)]
    decoder.decode 0b01010 = decoder.decode 0b00010 := by decide

end Decoder

end FirmwareTables.Topology
