import BacnetZephyr.Datalink.Bip
import BacnetZephyr.Foundation.HighBits
import Mathlib.Algebra.Group.Nat.Defs
import Mathlib.Data.Nat.Basic

/-!
# The subnet of the BACnet/IPv4 interface

`bip_get_subnet_prefix` recovers the length of the network prefix from the address and
the broadcast address of the driver. It reads both as numbers of the host and fills the
address from a growing position upwards. On a little-endian host that order of the bits
is the order in the network only from one octet to the next, and the octets with the
prefix's end in them are filled from the wrong side. `prefixDescribes_iff` says for which
addresses the result describes the broadcast address all the same.

`bip_set_interface` takes the address and the netmask from the interface, or gives the
interface an address that was set before. In the second case it passes the broadcast
address where the netmask belongs; `netmaskAgrees_iff` gives the consequence.
-/

namespace BacnetZephyr

open CLib HighBits

/-- `s_addr` as a little-endian host reads it. -/
def InAddr.sAddr (address : InAddr) : UInt32 :=
  UInt32.ofBitVec (address.octet3.toBitVec ++ address.octet2.toBitVec ++
    address.octet1.toBitVec ++ address.octet0.toBitVec)

/-- The loop of `bip_get_subnet_prefix` for the remaining prefixes. -/
def subnetPrefixFrom (address broadcast : UInt32) : ℕ → UInt32 → UInt8 → UInt8
  | 0, _, subnetPrefix => subnetPrefix
  | remaining + 1, mask, subnetPrefix =>
      if address ||| mask = broadcast then subnetPrefix
      else subnetPrefixFrom address broadcast remaining (mask <<< 1) (subnetPrefix + 1)

def bipGetSubnetPrefix (driver : BipDriver) : UInt8 :=
  subnetPrefixFrom driver.bipAddress.sAddr driver.bipBroadcastAddr.sAddr 32 0xFFFFFFFE 1

/-! ## Netmasks -/

/-- An octet that starts with the given number of one bits. -/
def prefixOctet (length : ℕ) : UInt8 := UInt8.ofNat (256 - 2 ^ (8 - length))

/-- The netmask of a prefix. -/
def subnetMask (length : ℕ) : InAddr where
  octet0 := prefixOctet length
  octet1 := prefixOctet (length - 8)
  octet2 := prefixOctet (length - 16)
  octet3 := prefixOctet (length - 24)

def InAddr.octet (address : InAddr) : ℕ → UInt8
  | 0 => address.octet0
  | 1 => address.octet1
  | 2 => address.octet2
  | _ => address.octet3

/-- The bit of an octet, the least significant one first. -/
abbrev octetBit (octet : UInt8) (index : ℕ) : Bool := octet.toBitVec.getLsbD index

/-- The octet ends with at least as many one bits as it begins with. -/
def EndsAsItBegins (octet : UInt8) : Prop :=
  ∀ index < 8, (∀ before ≤ index, octetBit octet (7 - before) = true) →
    octetBit octet index = true

/-- The reported prefix is a prefix length, and that of the broadcast address. -/
def PrefixDescribes (driver : BipDriver) : Prop :=
  let length := (bipGetSubnetPrefix driver).toNat
  1 ≤ length ∧ length ≤ 32 ∧
    driver.bipAddress.orNot (subnetMask length) = driver.bipBroadcastAddr

/--
The broadcast address changes only octets after the last one of its octets that is not
255, and that octet ends with at least as many one bits as it begins with. If all octets
are 255, the first octet of the address begins and ends with a one bit.
-/
def PrefixReported (address broadcast : InAddr) : Prop :=
  (∃ last < 4, broadcast.octet last ≠ 255 ∧
    (∀ index < 4, last < index → broadcast.octet index = 255) ∧
    (∀ index ≤ last, address.octet index = broadcast.octet index) ∧
    EndsAsItBegins (address.octet last)) ∨
  ((∀ index < 4, broadcast.octet index = 255) ∧
    octetBit (address.octet 0) 0 = true ∧ octetBit (address.octet 0) 7 = true)

instance (octet : UInt8) : Decidable (EndsAsItBegins octet) :=
  inferInstanceAs (Decidable (∀ index < 8, (∀ before ≤ index, _) → _))

instance (driver : BipDriver) : Decidable (PrefixDescribes driver) :=
  inferInstanceAs (Decidable (_ ∧ _ ∧ _))

instance (address broadcast : InAddr) : Decidable (PrefixReported address broadcast) :=
  inferInstanceAs (Decidable ((∃ last < 4, _ ∧ (∀ index < 4, last < index → _) ∧
    (∀ index ≤ last, _) ∧ _) ∨ _))

/-! ## Addresses as words -/

section Bits

variable {address broadcast : InAddr}

/-- The bit of an address, the least significant one of its first octet first. -/
abbrev InAddr.bit (address : InAddr) (index : ℕ) : Bool :=
  address.sAddr.toBitVec.getLsbD index

theorem InAddr.bit_eq (address : InAddr) {index : ℕ} (inside : index < 32) :
    address.bit index = octetBit (address.octet (index / 8)) (index % 8) := by
  simp only [InAddr.bit, InAddr.sAddr, BitVec.getLsbD_append]
  obtain ⟨octet, place, small, rfl⟩ : ∃ octet place, place < 8 ∧ index = 8 * octet + place :=
    ⟨index / 8, index % 8, by omega, by omega⟩
  have quotient : (8 * octet + place) / 8 = octet := by omega
  have remaining : (8 * octet + place) % 8 = place := by omega
  rw [quotient, remaining]
  obtain rfl | rfl | rfl | rfl : octet = 0 ∨ octet = 1 ∨ octet = 2 ∨ octet = 3 := by omega
  · rw [if_pos (by omega)]
    simp [InAddr.octet]
  · rw [if_neg (by omega), if_pos (by omega)]
    simp [InAddr.octet]
  · rw [if_neg (by omega), if_neg (by omega), if_pos (by omega)]
    simp [InAddr.octet, show 16 + place - 8 - 8 = place by omega]
  · rw [if_neg (by omega), if_neg (by omega), if_neg (by omega)]
    simp [InAddr.octet, show 24 + place - 8 - 8 - 8 = place by omega]

/-- Addresses are equal if their bits are. -/
theorem InAddr.eq_of_bit_eq (same : ∀ index < 32, address.bit index = broadcast.bit index) :
    address = broadcast := by
  have octets : ∀ octet < 4, address.octet octet = broadcast.octet octet := by
    intro octet octet_lt
    apply UInt8.eq_of_toBitVec_eq
    apply BitVec.eq_of_getLsbD_eq
    intro index index_lt
    have bits := same (8 * octet + index) (by omega)
    rwa [InAddr.bit_eq _ (by omega), InAddr.bit_eq _ (by omega),
      show (8 * octet + index) / 8 = octet by omega,
      show (8 * octet + index) % 8 = index by omega] at bits
  rcases address with ⟨_, _, _, _⟩
  rcases broadcast with ⟨_, _, _, _⟩
  have first := octets 0 (by omega)
  have second := octets 1 (by omega)
  have third := octets 2 (by omega)
  have fourth := octets 3 (by omega)
  simp only [InAddr.octet] at first second third fourth
  rw [first, second, third, fourth]

/-- The place of a bit in the network, where the octets are sent from the highest bit on. -/
def networkPosition (index : ℕ) : ℕ := 8 * (index / 8) + (7 - index % 8)

theorem octetBit_prefixOctet (length : ℕ) {index : ℕ} (inside : index < 8) :
    octetBit (prefixOctet length) index = decide (8 - length ≤ index) := by
  have table : ∀ length < 9, ∀ index < 8,
      octetBit (prefixOctet length) index = decide (8 - length ≤ index) := by
    decide
  by_cases short : length < 9
  · exact table length short index inside
  · have whole : prefixOctet length = prefixOctet 8 := by
      rw [prefixOctet, prefixOctet, show 8 - length = 8 - 8 by omega]
    rw [whole, table 8 (by omega) index inside, show 8 - length = 8 - 8 by omega]

theorem InAddr.octet_orNot (address netmask : InAddr) (index : ℕ) :
    (address.orNot netmask).octet index = address.octet index ||| ~~~netmask.octet index := by
  unfold InAddr.octet
  split <;> rfl

theorem octet_subnetMask {length index : ℕ} (inside : index < 4) :
    (subnetMask length).octet index = prefixOctet (length - 8 * index) := by
  obtain rfl | rfl | rfl | rfl : index = 0 ∨ index = 1 ∨ index = 2 ∨ index = 3 := by omega
  · rfl
  · rfl
  · rfl
  · rfl

/-- The host bits of a prefix are those from its length on, in the order of the network. -/
theorem InAddr.bit_orNot_subnetMask (address : InAddr) (length : ℕ) {index : ℕ}
    (inside : index < 32) :
    (address.orNot (subnetMask length)).bit index =
      (address.bit index || decide (length ≤ networkPosition index)) := by
  rw [InAddr.bit_eq _ inside, InAddr.bit_eq _ inside, InAddr.octet_orNot,
    octet_subnetMask (by omega)]
  have small : index % 8 < 8 := Nat.mod_lt _ (by omega)
  have masked := octetBit_prefixOctet (length - 8 * (index / 8)) small
  simp only [octetBit] at masked
  simp only [octetBit, UInt8.toBitVec_or, UInt8.toBitVec_not, BitVec.getLsbD_or,
    BitVec.getLsbD_not, small, decide_true, Bool.true_and, masked]
  congr 1
  rw [← decide_not, decide_eq_decide]
  simp only [networkPosition]
  omega

/-- A prefix has the broadcast address if its network part is kept and its host part set. -/
theorem InAddr.orNot_subnetMask_eq_iff {length : ℕ} :
    address.orNot (subnetMask length) = broadcast ↔
      (∀ index < 32, networkPosition index < length →
        address.bit index = broadcast.bit index) ∧
      ∀ index < 32, length ≤ networkPosition index → broadcast.bit index = true := by
  constructor
  · rintro rfl
    refine ⟨?_, ?_⟩
    · intro index inside network
      have notHost : ¬length ≤ networkPosition index := by omega
      simp [InAddr.bit_orNot_subnetMask address length inside, notHost]
    · intro index inside host
      simp [InAddr.bit_orNot_subnetMask address length inside, host]
  · rintro ⟨network, host⟩
    apply InAddr.eq_of_bit_eq
    intro index inside
    rw [InAddr.bit_orNot_subnetMask address length inside]
    by_cases isHost : length ≤ networkPosition index
    · simp [isHost, host index inside isHost]
    · simp [isHost, network index inside (by omega)]

end Bits

/-! ## The loop -/

/-- The loop ends at the first prefix that fits, or after the last one. -/
theorem subnetPrefixFrom_spec {address broadcast : UInt32} (remaining : ℕ) {mask : UInt32}
    {subnetPrefix : UInt8} (count : subnetPrefix.toNat + remaining = 33)
    (masked : mask.toBitVec = highBits 32 subnetPrefix.toNat) :
    let length := (subnetPrefixFrom address broadcast remaining mask subnetPrefix).toNat
    FirstFill address.toBitVec broadcast.toBitVec subnetPrefix.toNat length ∧ length ≤ 32 ∨
      length = 33 ∧ ∀ earlier, subnetPrefix.toNat ≤ earlier → earlier ≤ 32 →
        address.toBitVec ||| highBits 32 earlier ≠ broadcast.toBitVec := by
  induction remaining generalizing mask subnetPrefix with
  | zero =>
      right
      exact ⟨count, fun earlier above inside => absurd above (by omega)⟩
  | succ remaining ih =>
      have fits_iff : address ||| mask = broadcast ↔
          address.toBitVec ||| highBits 32 subnetPrefix.toNat = broadcast.toBitVec := by
        rw [← masked, ← UInt32.toBitVec_or, UInt32.toBitVec_inj]
      simp only [subnetPrefixFrom]
      by_cases fits : address ||| mask = broadcast
      · left
        rw [if_pos fits]
        exact ⟨⟨Nat.le_refl _, fits_iff.mp fits, fun earlier above below =>
          absurd above (by omega)⟩, by omega⟩
      · rw [if_neg fits]
        have next : (subnetPrefix + 1).toNat = subnetPrefix.toNat + 1 := by
          rw [UInt8.toNat_add]
          exact Nat.mod_eq_of_lt (by rw [UInt8.toNat_one]; omega)
        have shifted : (mask <<< 1).toBitVec = highBits 32 (subnetPrefix + 1).toNat := by
          rw [next, ← highBits_succ, ← masked]
          rfl
        have passed : ∀ earlier, subnetPrefix.toNat ≤ earlier →
            (subnetPrefix + 1).toNat ≤ earlier ∨ earlier = subnetPrefix.toNat := by
          intro earlier above
          omega
        rcases ih (by omega) shifted with ⟨fill, inside⟩ | ⟨ended, never⟩
        · left
          refine ⟨⟨?_, fill.fills, ?_⟩, inside⟩
          · have := fill.low_le
            omega
          · intro earlier above below
            rcases passed earlier above with later | rfl
            · exact fill.first earlier later below
            · exact mt fits_iff.mpr fits
        · right
          refine ⟨ended, ?_⟩
          intro earlier above inside
          rcases passed earlier above with later | rfl
          · exact never earlier later inside
          · exact mt fits_iff.mpr fits

/-- The prefix returned is a prefix length exactly if it is the first that fits. -/
theorem bipGetSubnetPrefix_eq_iff (driver : BipDriver) {length : ℕ} (inside : length ≤ 32) :
    (bipGetSubnetPrefix driver).toNat = length ↔
      FirstFill driver.bipAddress.sAddr.toBitVec driver.bipBroadcastAddr.sAddr.toBitVec 1
        length := by
  have masked : (0xFFFFFFFE : UInt32).toBitVec = highBits 32 (1 : UInt8).toNat := by decide
  constructor
  · intro returned
    rcases @subnetPrefixFrom_spec driver.bipAddress.sAddr
      driver.bipBroadcastAddr.sAddr 32 _ _ rfl masked with ⟨fill, _⟩ | ⟨ended, _⟩
    · rw [← returned]
      exact fill
    · rw [bipGetSubnetPrefix, ended] at returned
      omega
  · intro fill
    rcases @subnetPrefixFrom_spec driver.bipAddress.sAddr
      driver.bipBroadcastAddr.sAddr 32 _ _ rfl masked with ⟨found, _⟩ | ⟨_, never⟩
    · exact found.unique fill
    · exact absurd fill.fills (never length fill.low_le inside)

theorem prefixDescribes_iff_firstFill (driver : BipDriver) :
    PrefixDescribes driver ↔ ∃ length ≤ 32,
      FirstFill driver.bipAddress.sAddr.toBitVec driver.bipBroadcastAddr.sAddr.toBitVec 1
        length ∧
      driver.bipAddress.orNot (subnetMask length) = driver.bipBroadcastAddr := by
  constructor
  · rintro ⟨_, inside, describes⟩
    exact ⟨_, inside, (bipGetSubnetPrefix_eq_iff driver inside).mp rfl, describes⟩
  · rintro ⟨length, inside, fill, describes⟩
    have returned := (bipGetSubnetPrefix_eq_iff driver inside).mpr fill
    rw [PrefixDescribes, returned]
    exact ⟨fill.low_le, inside, describes⟩

/-! ## Octets and bits -/

section Octets

variable {address broadcast : InAddr}

theorem octet_eq_iff {octet other : UInt8} :
    octet = other ↔ ∀ index < 8, octetBit octet index = octetBit other index := by
  constructor
  · rintro rfl index _
    rfl
  · intro same
    exact UInt8.eq_of_toBitVec_eq (BitVec.eq_of_getLsbD_eq same)

theorem octetBit_255 {index : ℕ} (inside : index < 8) : octetBit 255 index = true := by
  have table : ∀ index < 8, octetBit 255 index = true := by decide
  exact table index inside

theorem InAddr.bit_octet (address : InAddr) {octet index : ℕ} (octet_lt : octet < 4)
    (inside : index < 8) :
    address.bit (8 * octet + index) = octetBit (address.octet octet) index := by
  rw [InAddr.bit_eq _ (by omega), show (8 * octet + index) / 8 = octet by omega,
    show (8 * octet + index) % 8 = index by omega]

/-- The first octets agree if all their bits do. -/
theorem octets_agree_iff {last : ℕ} (last_lt : last < 4) :
    (∀ index ≤ last, address.octet index = broadcast.octet index) ↔
      ∀ index < 8 * last + 8, address.bit index = broadcast.bit index := by
  constructor
  · intro octets index inside
    rw [InAddr.bit_eq _ (by omega), InAddr.bit_eq _ (by omega), octets _ (by omega)]
  · intro bits octet octet_le
    apply octet_eq_iff.mpr
    intro index inside
    have same := bits (8 * octet + index) (by omega)
    rwa [InAddr.bit_octet _ (by omega) inside, InAddr.bit_octet _ (by omega) inside] at same

theorem octet_eq_255_iff {octet : ℕ} (octet_lt : octet < 4) :
    broadcast.octet octet = 255 ↔ ∀ index < 8, broadcast.bit (8 * octet + index) = true := by
  rw [octet_eq_iff]
  constructor
  · intro same index inside
    rw [InAddr.bit_octet _ octet_lt inside, same index inside]
    exact octetBit_255 inside
  · intro ones index inside
    have one := ones index inside
    rw [InAddr.bit_octet _ octet_lt inside] at one
    rw [one, octetBit_255 inside]

/-- The highest zero bit of a broadcast address is in its last octet that is not 255. -/
theorem prefixReported_iff_of_topZero {top : ℕ}
    (topZero : TopZero broadcast.sAddr.toBitVec top) :
    PrefixReported address broadcast ↔
      (∀ index < 8 * (top / 8) + 8, address.bit index = broadcast.bit index) ∧
        EndsAsItBegins (address.octet (top / 8)) := by
  have inside := topZero.inside
  have notOnes : broadcast.octet (top / 8) ≠ 255 := by
    intro ones
    have one := (octet_eq_255_iff (by omega)).mp ones (top % 8) (by omega)
    rw [show 8 * (top / 8) + top % 8 = top by omega, InAddr.bit, topZero.zero] at one
    cases one
  have onesAfter : ∀ octet < 4, top / 8 < octet → broadcast.octet octet = 255 := by
    intro octet octet_lt after
    apply (octet_eq_255_iff octet_lt).mpr
    intro index index_lt
    exact topZero.above _ (by omega) (by omega)
  constructor
  · rintro (⟨last, last_lt, notLast, after, octets, ends⟩ | ⟨ones, _⟩)
    · have same : last = top / 8 := by
        rcases Nat.lt_trichotomy last (top / 8) with before | same | beyond
        · exact absurd (after _ (by omega) before) notOnes
        · exact same
        · exact absurd (onesAfter last last_lt beyond) notLast
      subst same
      exact ⟨(octets_agree_iff last_lt).mp octets, ends⟩
    · exact absurd (ones _ (by omega)) notOnes
  · rintro ⟨bits, ends⟩
    exact Or.inl ⟨top / 8, by omega, notOnes, onesAfter,
      (octets_agree_iff (by omega)).mpr bits, ends⟩

theorem prefixReported_iff_of_ones
    (ones : ∀ index < 32, broadcast.sAddr.toBitVec.getLsbD index = true) :
    PrefixReported address broadcast ↔ address.bit 0 = true ∧ address.bit 7 = true := by
  have octets : ∀ octet < 4, broadcast.octet octet = 255 := by
    intro octet octet_lt
    apply (octet_eq_255_iff octet_lt).mpr
    intro index index_lt
    exact ones _ (by omega)
  have first := address.bit_octet (show 0 < 4 by omega) (show 0 < 8 by omega)
  have last := address.bit_octet (show 0 < 4 by omega) (show 7 < 8 by omega)
  simp only [Nat.mul_zero, Nat.zero_add] at first last
  rw [first, last]
  constructor
  · rintro (⟨index, index_lt, notOnes, _⟩ | ⟨_, bits⟩)
    · exact absurd (octets index index_lt) notOnes
    · exact bits
  · intro bits
    exact Or.inr ⟨octets, bits⟩

end Octets

/-! ## When the prefix describes the broadcast address -/

section Describes

variable {address broadcast : InAddr} {top : ℕ}

/-- The prefix of an address filled just above the highest zero bit of its broadcast address. -/
theorem fills_above_topZero_iff (topZero : TopZero broadcast.sAddr.toBitVec top) :
    (∀ index ≤ top, address.bit index = broadcast.bit index) ∧
        address.orNot (subnetMask (top + 1)) = broadcast ↔
      (∀ index < 8 * (top / 8) + 8, address.bit index = broadcast.bit index) ∧
        EndsAsItBegins (address.octet (top / 8)) := by
  have inside := topZero.inside
  rw [InAddr.orNot_subnetMask_eq_iff]
  constructor
  · rintro ⟨below, network, host⟩
    -- the highest zero bit lies in the upper half of its octet
    have upper : 4 ≤ top % 8 := by
      rcases Nat.lt_or_ge (top % 8) 4 with lower | upper
      · exfalso
        have one := host top inside (by simp only [networkPosition]; omega)
        rw [InAddr.bit, topZero.zero] at one
        cases one
      · exact upper
    have bits : ∀ index < 8 * (top / 8) + 8, address.bit index = broadcast.bit index := by
      intro index index_lt
      rcases Nat.lt_or_ge top index with above | index_le
      · exact network index (by omega) (by simp only [networkPosition]; omega)
      · exact below index index_le
    refine ⟨bits, ?_⟩
    intro index index_lt begins
    have zero : octetBit (address.octet (top / 8)) (top % 8) = false := by
      rw [← InAddr.bit_octet _ (by omega) (by omega), show 8 * (top / 8) + top % 8 = top by omega,
        below top (Nat.le_refl _)]
      exact topZero.zero
    have before : top % 8 < 7 - index := by
      rcases Nat.lt_or_ge (top % 8) (7 - index) with before | after
      · exact before
      · exfalso
        have one := begins (7 - top % 8) (by omega)
        rw [show 7 - (7 - top % 8) = top % 8 by omega, zero] at one
        cases one
    rw [← InAddr.bit_octet _ (by omega) index_lt, bits _ (by omega)]
    exact host _ (by omega) (by simp only [networkPosition]; omega)
  · rintro ⟨bits, ends⟩
    refine ⟨fun index index_le => bits index (by omega), ?_, ?_⟩
    · intro index _ network
      apply bits
      simp only [networkPosition] at network
      omega
    · intro index index_lt host
      simp only [networkPosition] at host
      rcases Nat.lt_or_ge index (8 * (top / 8) + 8) with within | beyond
      · -- the bit ends the octet, so the bit as far from the other end decides
        have octet : index / 8 = top / 8 := by omega
        rw [← bits index within, InAddr.bit_eq _ index_lt, octet]
        apply ends (index % 8) (by omega)
        intro before before_le
        rw [← InAddr.bit_octet _ (by omega) (by omega), bits _ (by omega)]
        exact topZero.above _ (by omega) (by omega)
      · exact topZero.above index (by omega) index_lt

/--
The prefix reported for an address and the broadcast address of one of its subnets
describes that broadcast address exactly when the last octet of the broadcast address
other than 255 is kept from the address and ends with as many one bits as it begins with.
-/
theorem prefixDescribes_iff (driver : BipDriver) (address : InAddr) (length : ℕ) :
    PrefixDescribes { driver with
        bipAddress := address, bipBroadcastAddr := address.orNot (subnetMask length) } ↔
      PrefixReported address (address.orNot (subnetMask length)) := by
  rw [prefixDescribes_iff_firstFill]
  generalize address.orNot (subnetMask length) = broadcast
  simp only
  rcases allOnes_or_topZero broadcast.sAddr.toBitVec with ones | ⟨top, topZero⟩
  · rw [prefixReported_iff_of_ones ones]
    constructor
    · rintro ⟨length, inside, fill, describes⟩
      -- without a zero bit the search cannot go on past its start
      have start : length = 1 := by
        rcases Nat.eq_or_lt_of_le fill.low_le with start | passed
        · exact start.symm
        · exfalso
          have zero := (fill.topZero inside passed).zero
          rw [ones _ (by omega)] at zero
          cases zero
      subst start
      have kept := (or_highBits_eq_iff.mp fill.fills).1 0 (by omega) (by omega)
      have network := (InAddr.orNot_subnetMask_eq_iff.mp describes).1 7 (by omega) (by decide)
      exact ⟨kept.trans (ones 0 (by omega)), network.trans (ones 7 (by omega))⟩
    · rintro ⟨first, last⟩
      refine ⟨1, by omega, ⟨Nat.le_refl _, ?_, fun earlier above below =>
        absurd above (by omega)⟩, ?_⟩
      · apply or_highBits_eq_iff.mpr
        refine ⟨?_, fun index _ => ones index⟩
        intro index below inside
        obtain rfl : index = 0 := by omega
        exact first.trans (ones 0 inside).symm
      · apply InAddr.orNot_subnetMask_eq_iff.mpr
        refine ⟨?_, fun index inside _ => ones index inside⟩
        intro index inside network
        obtain rfl : index = 7 := by
          simp only [networkPosition] at network
          omega
        exact last.trans (ones 7 inside).symm
  · rw [prefixReported_iff_of_topZero topZero, ← fills_above_topZero_iff topZero]
    constructor
    · rintro ⟨length, inside, fill, describes⟩
      have above := topZero.lt_of_fills fill.fills
      have filled := or_highBits_eq_iff.mp fill.fills
      have start : length = top + 1 := by
        rcases Nat.lt_or_ge (top + 1) length with passed | start
        · exfalso
          have zero := (fill.topZero inside (by omega)).zero
          rw [topZero.above _ (by omega) (by omega)] at zero
          cases zero
        · omega
      subst start
      exact ⟨fun index index_le => filled.1 index (by omega) (by omega), describes⟩
    · rintro ⟨agree, describes⟩
      exact ⟨top + 1, topZero.inside, topZero.firstFill (by omega) agree, describes⟩

end Describes

/-- In 192.168.16.5/20 no prefix fits, and 33 is reported. -/
theorem not_prefixDescribes_20 :
    let driver : BipDriver :=
      { bipSocket := -1, bipBroadcastSocket := -1, bipPort := 0xC0BA
        bipAddress := ⟨192, 168, 16, 5⟩
        bipBroadcastAddr := InAddr.orNot ⟨192, 168, 16, 5⟩ (subnetMask 20) }
    bipGetSubnetPrefix driver = 33 ∧ ¬PrefixDescribes driver := by
  decide

/-- In 192.168.200.5/24 the prefix 22 is reported, of another broadcast address. -/
example :
    let driver : BipDriver :=
      { bipSocket := -1, bipBroadcastSocket := -1, bipPort := 0xC0BA
        bipAddress := ⟨192, 168, 200, 5⟩
        bipBroadcastAddr := InAddr.orNot ⟨192, 168, 200, 5⟩ (subnetMask 24) }
    bipGetSubnetPrefix driver = 22 ∧ ¬PrefixDescribes driver := by
  decide

/-! ## The netmask of the interface -/

/-- The IPv4 addresses of an interface, as the network stack keeps them. -/
structure NetIfAddresses where
  Table : Type
  /-- The netmask of an address, if the interface has the address. -/
  netmask : Table → InAddr → Option InAddr
  /-- `net_if_ipv4_addr_add`. -/
  ipv4AddrAdd : Table → InAddr → NetAddrType → Table
  /-- `net_if_ipv4_set_netmask_by_addr`. -/
  ipv4SetNetmaskByAddr : Table → InAddr → InAddr → Table
  /-- An address the interface has gets the netmask. -/
  netmask_set : ∀ table address mask,
    netmask (ipv4SetNetmaskByAddr table address mask) address =
      (netmask table address).map fun _ => mask

/-- What a request does to the addresses. -/
def NetIfAddresses.request (addresses : NetIfAddresses) (table : addresses.Table) :
    NetIfRequest → addresses.Table
  | .up => table
  | .ipv4AddrAdd address addrType => addresses.ipv4AddrAdd table address addrType
  | .ipv4SetNetmaskByAddr address mask => addresses.ipv4SetNetmaskByAddr table address mask

/-- An address in the class A, B or C range. -/
def InAddr.Unicast (address : InAddr) : Prop := 0 < address.octet0 ∧ address.octet0 < 224

/-- The broadcast address is the one of the address and its netmask on the interface. -/
def NetmaskAgrees (addresses : NetIfAddresses) (table : addresses.Table) (driver : BipDriver) :
    Prop :=
  driver.bipAddress ≠ .any → ∀ mask, addresses.netmask table driver.bipAddress = some mask →
    driver.bipBroadcastAddr = driver.bipAddress.orNot mask

/-- The interface is down and stays down. -/
def NetIfReplies.StaysDown (iface : NetIfReplies) : Prop :=
  iface.isUp = false ∧ iface.up < 0 ∧ iface.up ≠ -Errno.ealready

instance (iface : NetIfReplies) : Decidable iface.StaysDown :=
  inferInstanceAs (Decidable (_ ∧ _ ∧ _))

/-- The slots of an interface, of which the addresses in use are told apart. -/
def NetIfAddresses.reference : NetIfAddresses where
  Table := List NetIfAddrIpv4
  netmask table address :=
    (table.find? fun slot => slot.isUsed && slot.inAddr == address).map NetIfAddrIpv4.netmask
  ipv4AddrAdd table address addrType :=
    if table.any fun slot => slot.isUsed && slot.inAddr == address then table
    else
      match table.findIdx? fun slot => !slot.isUsed with
      | some index => table.set index
          { isUsed := true, family := .afInet, inAddr := address, addrType, netmask := .any }
      | none => table
  ipv4SetNetmaskByAddr table address mask :=
    table.map fun slot =>
      if slot.isUsed && slot.inAddr == address then { slot with netmask := mask } else slot
  netmask_set := by
    intro table address mask
    induction table with
    | nil => rfl
    | cons slot rest ih =>
        by_cases found : (slot.isUsed && slot.inAddr == address) = true
        · simp only [List.map_cons, found, if_true, List.find?_cons_of_pos]
          simp only [Bool.and_eq_true, beq_iff_eq] at found
          simp [found.1, found.2]
        · simp only [List.map_cons, found, if_false, Bool.false_eq_true, not_false_eq_true,
            List.find?_cons_of_neg]
          exact ih

section Netmask

variable {addresses : NetIfAddresses} {config : BipConfig} {network : NetworkReplies}
  {ifname : Option CString} {iface : NetIfReplies}

/-- A broadcast address is no netmask of a unicast address. -/
theorem InAddr.Unicast.ne_orNot {address : InAddr} (unicast : address.Unicast)
    (broadcast : InAddr) : broadcast ≠ address.orNot broadcast := by
  intro same
  have octet : broadcast.octet0 = address.octet0 ||| ~~~broadcast.octet0 :=
    congrArg InAddr.octet0 same
  have ones : address.octet0 = 255 := by
    apply octet_eq_iff.mpr
    intro index inside
    have bit := congrArg (fun octet => octetBit octet index) octet
    simp only [octetBit, UInt8.toBitVec_or, UInt8.toBitVec_not, BitVec.getLsbD_or,
      BitVec.getLsbD_not, inside, decide_true, Bool.true_and] at bit
    have both : address.octet0.toBitVec.getLsbD index = true ∧
        broadcast.octet0.toBitVec.getLsbD index = true := by
      simpa using bit
    exact both.1.trans (octetBit_255 inside).symm
  have small := unicast.2
  rw [ones] at small
  exact absurd small (by decide)

theorem NetIfReplies.notDown_iff :
    ¬((!iface.isUp) = true ∧ iface.up < 0 ∧ iface.up ≠ -Errno.ealready) ↔ ¬iface.StaysDown := by
  simp [NetIfReplies.StaysDown]

/-- Raising the interface leaves its addresses. -/
theorem foldl_request_raised (table : addresses.Table) (isUp : Bool)
    (requests : List NetIfRequest) :
    ((if isUp = true then [] else [NetIfRequest.up]) ++ requests).foldl addresses.request table =
      requests.foldl addresses.request table := by
  cases isUp <;> rfl

theorem bipSetInterface_of_staysDown (chosen : chooseInterface network ifname = some iface)
    (down : iface.StaysDown) (driver : BipDriver) :
    bipSetInterface config network ifname driver = (driver, [.up]) := by
  rcases down with ⟨isDown, fails, notRaised⟩
  simp [bipSetInterface, chosen, isDown, fails, notRaised]

/-- An address set before is given to the interface, with the broadcast address for a netmask. -/
theorem bipSetInterface_of_set (chosen : chooseInterface network ifname = some iface)
    (raised : ¬iface.StaysDown) {driver : BipDriver} (set : driver.bipAddress ≠ .any) :
    bipSetInterface config network ifname driver =
      (driver, (if iface.isUp = true then [] else [.up]) ++
        [.ipv4AddrAdd driver.bipAddress .manual,
          .ipv4SetNetmaskByAddr driver.bipAddress driver.bipBroadcastAddr]) := by
  have notDown := NetIfReplies.notDown_iff.mpr raised
  simp only [bipSetInterface, chosen, if_neg notDown, if_pos set]

/-- Otherwise the driver gets no address or one of the interface, which keeps its addresses. -/
theorem bipSetInterface_of_unset (chosen : chooseInterface network ifname = some iface)
    {driver : BipDriver} (unset : driver.bipAddress = .any) (table : addresses.Table) :
    let (after, requests) := bipSetInterface config network ifname driver
    requests.foldl addresses.request table = table ∧
      (after.bipAddress = .any ∨ after.bipAddress = iface.waited.inAddr ∧
        after.bipBroadcastAddr = iface.waited.inAddr.orNot iface.waited.netmask) := by
  have kept := @foldl_request_raised addresses table iface.isUp []
  rw [List.append_nil, List.foldl_nil] at kept
  have notSet : ¬driver.bipAddress ≠ .any := by simpa using unset
  by_cases down : iface.StaysDown
  · rw [bipSetInterface_of_staysDown chosen down]
    exact ⟨rfl, Or.inl unset⟩
  · have notDown := NetIfReplies.notDown_iff.mpr down
    simp only [bipSetInterface, chosen, if_neg notDown, if_neg notSet]
    split
    · exact ⟨kept, Or.inl unset⟩
    · exact ⟨kept, Or.inr ⟨rfl, rfl⟩⟩

/--
The interface agrees with the driver exactly when the address was taken from the
interface, or the interface has no room for the address that was set. An interface that
stays down is left as it is.
-/
theorem netmaskAgrees_iff (addresses : NetIfAddresses) (config : BipConfig)
    (chosen : chooseInterface network ifname = some iface) (driver : BipDriver)
    (unicast : driver.bipAddress ≠ .any → driver.bipAddress.Unicast)
    (table : addresses.Table)
    (waited : driver.bipAddress = .any → iface.waited.inAddr ≠ .any →
      addresses.netmask table iface.waited.inAddr = some iface.waited.netmask) :
    let (after, requests) := bipSetInterface config network ifname driver
    NetmaskAgrees addresses (requests.foldl addresses.request table) after ↔
      driver.bipAddress = .any ∨
        if iface.StaysDown then NetmaskAgrees addresses table driver
        else
          addresses.netmask (addresses.ipv4AddrAdd table driver.bipAddress .manual)
            driver.bipAddress = none := by
  by_cases unset : driver.bipAddress = .any
  · apply iff_of_true _ (Or.inl unset)
    rcases @bipSetInterface_of_unset addresses config network ifname iface chosen driver unset
      table with ⟨kept, gotNone | ⟨address, broadcast⟩⟩
    · exact fun set => absurd gotNone set
    · intro set mask found
      rw [kept, address] at found
      rw [address] at set
      rw [waited unset set, Option.some.injEq] at found
      rw [address, broadcast, found]
  · by_cases down : iface.StaysDown
    · rw [bipSetInterface_of_staysDown chosen down, if_pos down]
      simp only [List.foldl_cons, List.foldl_nil, NetIfAddresses.request, unset, false_or]
    · rw [bipSetInterface_of_set chosen down unset, if_neg down]
      simp only [foldl_request_raised, List.foldl_cons, List.foldl_nil, NetIfAddresses.request,
        NetmaskAgrees, addresses.netmask_set, unset, false_or]
      cases held : addresses.netmask
        (addresses.ipv4AddrAdd table driver.bipAddress .manual) driver.bipAddress with
      | none => simp
      | some mask =>
          have different := (unicast unset).ne_orNot driver.bipBroadcastAddr
          simp [different, unset]

end Netmask

/-- An interface with 192.168.1.5 set before and one free slot. -/
theorem netmaskAgrees_iff_set :
    let driver : BipDriver :=
      { bipSocket := -1, bipBroadcastSocket := -1, bipPort := 0xC0BA
        bipAddress := ⟨192, 168, 1, 5⟩, bipBroadcastAddr := ⟨192, 168, 1, 255⟩ }
    let iface : NetIfReplies := { isUp := true, up := 0, waited := .unused }
    let config : BipConfig := { netDhcpv4 := false, addressIndex := none, maxIpv4Addr := 1 }
    let network : NetworkReplies := { byIndex := fun _ => none, default := some iface }
    let (after, requests) := bipSetInterface config network none driver
    NetmaskAgrees .reference
        (requests.foldl NetIfAddresses.reference.request [NetIfAddrIpv4.unused]) after ↔
      driver.bipAddress = .any ∨
        if iface.StaysDown then
          NetmaskAgrees .reference [NetIfAddrIpv4.unused] driver
        else
          NetIfAddresses.reference.netmask
            (NetIfAddresses.reference.ipv4AddrAdd [NetIfAddrIpv4.unused] driver.bipAddress
              .manual) driver.bipAddress = none := by
  intro driver iface config network
  exact netmaskAgrees_iff .reference config (show chooseInterface network none = _ from rfl)
    driver (fun _ => ⟨by decide, by decide⟩) [NetIfAddrIpv4.unused]
    (fun unset => absurd unset (by decide))

/-- There the interface gets the netmask 192.168.1.255. -/
theorem not_netmaskAgrees_set :
    let driver : BipDriver :=
      { bipSocket := -1, bipBroadcastSocket := -1, bipPort := 0xC0BA
        bipAddress := ⟨192, 168, 1, 5⟩
        bipBroadcastAddr := InAddr.orNot ⟨192, 168, 1, 5⟩ ⟨255, 255, 255, 0⟩ }
    let iface : NetIfReplies := { isUp := true, up := 0, waited := .unused }
    let config : BipConfig := { netDhcpv4 := false, addressIndex := none, maxIpv4Addr := 1 }
    let network : NetworkReplies := { byIndex := fun _ => none, default := some iface }
    let (after, requests) := bipSetInterface config network none driver
    ¬NetmaskAgrees .reference
      (requests.foldl NetIfAddresses.reference.request [NetIfAddrIpv4.unused]) after := by
  intro driver iface config network agrees
  have broadcast := agrees (by decide) ⟨192, 168, 1, 255⟩ rfl
  exact absurd broadcast (by decide)

end BacnetZephyr
