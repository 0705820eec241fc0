import Mathlib.Data.Int.Notation
import Mathlib.Data.List.Basic

/-!
# IPv4 addresses of a network interface

The unicast slots of an interface, and which of them `ipv4_address_index` finds usable for
the BACnet/IP driver. The loop over the slots is in `Datalink/AddressWait.lean`.
-/

namespace BacnetZephyr

/-- The octets of `struct in_addr` in network order. -/
structure InAddr where
  octet0 : UInt8
  octet1 : UInt8
  octet2 : UInt8
  octet3 : UInt8
deriving DecidableEq, Repr

/-- `INADDR_ANY`, the address whose `s_addr` is zero. -/
def InAddr.any : InAddr := ⟨0, 0, 0, 0⟩

/-- The address with the host bits of the netmask set. -/
def InAddr.orNot (address netmask : InAddr) : InAddr where
  octet0 := address.octet0 ||| ~~~netmask.octet0
  octet1 := address.octet1 ||| ~~~netmask.octet1
  octet2 := address.octet2 ||| ~~~netmask.octet2
  octet3 := address.octet3 ||| ~~~netmask.octet3

inductive AddressFamily where
  | afUnspec
  | afInet
deriving DecidableEq, Repr

inductive NetAddrType where
  | any
  | autoconf
  | dhcp
  | manual
deriving DecidableEq, Repr

/-- `struct net_if_addr_ipv4`. -/
structure NetIfAddrIpv4 where
  isUsed : Bool
  family : AddressFamily
  inAddr : InAddr
  addrType : NetAddrType
  netmask : InAddr
deriving DecidableEq, Repr

def NetIfAddrIpv4.unused : NetIfAddrIpv4 where
  isUsed := false
  family := .afUnspec
  inAddr := .any
  addrType := .any
  netmask := .any

/-- `CONFIG_NET_DHCPV4`, `CONFIG_BACDL_BIP_ADDRESS_INDEX` and `NET_IF_MAX_IPV4_ADDR`. -/
structure BipConfig where
  netDhcpv4 : Bool
  addressIndex : Option ℕ
  maxIpv4Addr : ℕ
deriving DecidableEq, Repr

/-- `iface->config.ip.ipv4`, and its slots where it is not NULL. -/
structure NetIf where
  ipv4 : Option (List NetIfAddrIpv4)
deriving DecidableEq, Repr

/-- The slot at an index is one the loop of `ipv4_address_index` does not skip. -/
def addressSelected (config : BipConfig) (index : ℕ) (addr : NetIfAddrIpv4) : Bool :=
  (match config.addressIndex with
    | some addressIndex => index = addressIndex
    | none => true) &&
  !(!addr.isUsed || addr.family != .afInet || addr.inAddr == .any) &&
  (if config.netDhcpv4 then addr.addrType == .dhcp else true)

/--
The slot of the interface holds an address the driver can use: an `AF_INET` address
other than zero in a used slot, of DHCP type when DHCP is configured, at the
configured index where there is one.
-/
def Eligible (config : BipConfig) (iface : NetIf) (index : ℕ) : Prop :=
  ∃ unicast addr, iface.ipv4 = some unicast ∧ unicast[index]? = some addr ∧
    (∀ addressIndex, config.addressIndex = some addressIndex → index = addressIndex) ∧
    addr.isUsed = true ∧ addr.family = .afInet ∧ addr.inAddr ≠ .any ∧
    (config.netDhcpv4 = true → addr.addrType = .dhcp)

variable {config : BipConfig} {iface : NetIf}

theorem addressSelected_iff (index : ℕ) (addr : NetIfAddrIpv4) :
    addressSelected config index addr = true ↔
      (∀ addressIndex, config.addressIndex = some addressIndex → index = addressIndex) ∧
        addr.isUsed = true ∧ addr.family = .afInet ∧ addr.inAddr ≠ .any ∧
        (config.netDhcpv4 = true → addr.addrType = .dhcp) := by
  cases shape : config.addressIndex <;> cases dhcp : config.netDhcpv4 <;>
    simp [addressSelected, shape, dhcp, and_assoc]

theorem eligible_iff (index : ℕ) :
    Eligible config iface index ↔ ∃ unicast addr, iface.ipv4 = some unicast ∧
      unicast[index]? = some addr ∧ addressSelected config index addr = true := by
  simp only [Eligible, addressSelected_iff]

end BacnetZephyr
