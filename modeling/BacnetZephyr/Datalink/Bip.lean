import BacnetZephyr.Datalink.Interface
import BacnetZephyr.Foundation.CString
import BacnetZephyr.Foundation.Transition
import Mathlib.Algebra.Group.Int.Defs
import Mathlib.Data.Finset.Basic

/-!
# The BACnet/IPv4 datalink

`bip_init` opens two sockets, one bound to the address of the interface and one for
broadcasts, `bip_cleanup` closes them, and `bip_receive` waits for a datagram on
either. The results of the socket and interface functions are inputs of the model.

A failed creation of the second socket leaves the first one open, and `bip_init`
overwrites the descriptors it finds. `bipSockets_kept_iff` gives the runs in which
neither happens.
-/

namespace BacnetZephyr

open CLib Transition

/-! ## Addresses -/

/-- `htons` and `ntohs` on a little-endian host. -/
def htons (value : UInt16) : UInt16 :=
  UInt16.ofNat (value.toNat % 256 * 256 + value.toNat / 256)

def ntohs (value : UInt16) : UInt16 := htons value

structure BacnetIpAddress where
  address : InAddr
  port : UInt16
deriving DecidableEq, Repr

/-- `struct sockaddr_in` of family `AF_INET`, the port in network order. -/
structure SockaddrIn where
  sinPort : UInt16
  sinAddr : InAddr
deriving DecidableEq, Repr

/-- The static variables of the driver; the port is in network order. -/
structure BipDriver where
  bipSocket : ℤ
  bipBroadcastSocket : ℤ
  bipPort : UInt16
  bipAddress : InAddr
  bipBroadcastAddr : InAddr
deriving DecidableEq, Repr

def bipSetAddr (addr : Option BacnetIpAddress) (driver : BipDriver) : BipDriver × Bool :=
  match addr with
  | some addr => ({ driver with bipAddress := addr.address, bipPort := htons addr.port }, true)
  | none => (driver, false)

def bipSetBroadcastAddr (addr : Option BacnetIpAddress) (driver : BipDriver) : BipDriver × Bool :=
  match addr with
  | some addr => ({ driver with bipBroadcastAddr := addr.address }, true)
  | none => (driver, false)

/-! ## The interface -/

/-- What the functions of one interface return. -/
structure NetIfReplies where
  isUp : Bool
  up : ℤ
  /-- The slot `wait_for_ipv4_address` names, when the address and netmask are read. -/
  waited : NetIfAddrIpv4
deriving DecidableEq, Repr

/-- The interfaces found by `net_if_get_by_index` and `net_if_get_default`. -/
structure NetworkReplies where
  byIndex : ℤ → Option NetIfReplies
  default : Option NetIfReplies

/-- What the driver asks of the interface. -/
inductive NetIfRequest where
  | up
  | ipv4AddrAdd (address : InAddr) (addrType : NetAddrType)
  | ipv4SetNetmaskByAddr (address netmask : InAddr)
deriving DecidableEq, Repr

/-- The interface `bip_set_interface` chooses by name. -/
def chooseInterface (network : NetworkReplies) (ifname : Option CString) : Option NetIfReplies :=
  let (index, iface) : ℤ × Option NetIfReplies :=
    match ifname with
    | none => (-1, none)
    | some text =>
        let index := atoi text
        if index = 0 ∧ text ≠ ['0'] then (index, none) else (index, network.byIndex index)
  if index = -1 then network.default else iface

def bipSetInterface (config : BipConfig) (network : NetworkReplies) (ifname : Option CString)
    (driver : BipDriver) : BipDriver × List NetIfRequest :=
  match chooseInterface network ifname with
  | none => (driver, [])
  | some iface =>
      let raised := if iface.isUp then [] else [.up]
      if !iface.isUp ∧ iface.up < 0 ∧ iface.up ≠ -Errno.ealready then (driver, raised)
      else if driver.bipAddress ≠ .any then
        (driver, raised ++ [.ipv4AddrAdd driver.bipAddress .manual,
          .ipv4SetNetmaskByAddr driver.bipAddress driver.bipBroadcastAddr])
      else if config.addressIndex.any fun addressIndex => config.maxIpv4Addr ≤ addressIndex then
        (driver, raised)
      else
        let address := iface.waited.inAddr
        let port := ntohs driver.bipPort
        let unicast : BacnetIpAddress := { address, port }
        let broadcast : BacnetIpAddress :=
          { address := address.orNot iface.waited.netmask, port }
        let driver := (bipSetAddr (some unicast) driver).1
        ((bipSetBroadcastAddr (some broadcast) driver).1, raised)

/-! ## Sockets -/

/-- What the socket functions return in one creation. -/
structure SocketReplies where
  socket : ℤ
  setsockopt : ℤ
  bind : ℤ
deriving DecidableEq, Repr

/-- The descriptors the driver has opened and not closed, and the addresses bound to them. -/
structure SocketTable where
  opened : Finset ℤ
  bound : List (ℤ × SockaddrIn)

def SocketTable.zsockSocket (table : SocketTable) (sockFd : ℤ) : SocketTable :=
  { table with opened := insert sockFd table.opened }

def SocketTable.zsockBind (table : SocketTable) (sockFd : ℤ) (sin : SockaddrIn) : SocketTable :=
  { table with bound := (sockFd, sin) :: table.bound }

def SocketTable.zsockClose (table : SocketTable) (sockFd : ℤ) : SocketTable where
  opened := table.opened.erase sockFd
  bound := table.bound.filter fun entry => entry.1 ≠ sockFd

def createSocket (sin : SockaddrIn) (replies : SocketReplies) (table : SocketTable) :
    ℤ × SocketTable :=
  let sockFd := replies.socket
  if sockFd < 0 then (sockFd, table)
  else
    let table := table.zsockSocket sockFd
    if replies.setsockopt < 0 then (replies.setsockopt, table.zsockClose sockFd)
    else if replies.bind < 0 then (replies.bind, table.zsockClose sockFd)
    else (sockFd, table.zsockBind sockFd sin)

structure BipSystem where
  driver : BipDriver
  sockets : SocketTable

/-- What the environment answers to one `bip_init`. -/
structure BipInitReplies where
  network : NetworkReplies
  unicast : SocketReplies
  broadcast : SocketReplies

def bipInit (config : BipConfig) (ifname : Option CString) (replies : BipInitReplies)
    (system : BipSystem) : BipSystem × Bool :=
  let driver :=
    if system.driver.bipAddress = .any then
      (bipSetInterface config replies.network ifname system.driver).1
    else system.driver
  if driver.bipAddress = .any then ({ system with driver }, false)
  else
    let sin : SockaddrIn := { sinPort := driver.bipPort, sinAddr := driver.bipAddress }
    let (sockFd, sockets) := createSocket sin replies.unicast system.sockets
    let driver := { driver with bipSocket := sockFd }
    if sockFd < 0 then ({ driver, sockets }, false)
    else
      let (sockFd, sockets) := createSocket { sin with sinAddr := .any } replies.broadcast sockets
      let driver := { driver with bipBroadcastSocket := sockFd }
      if sockFd < 0 then ({ driver, sockets }, false) else ({ driver, sockets }, true)

def bipValid (driver : BipDriver) : Bool := driver.bipSocket ≠ -1

def bipCleanup (system : BipSystem) : BipSystem :=
  let close (sockFd : ℤ) (sockets : SocketTable) : SocketTable :=
    if sockFd ≠ -1 then sockets.zsockClose sockFd else sockets
  let sockets := close system.driver.bipSocket system.sockets
  let sockets := close system.driver.bipBroadcastSocket sockets
  { driver := { system.driver with bipSocket := -1, bipBroadcastSocket := -1 }, sockets }

/-! ## Receiving -/

/-- What `zsock_select` and `zsock_recvfrom` return in one call, with the datagram received. -/
structure ReceiveReplies where
  select : ℤ
  unicastReady : Bool
  recvfrom : ℤ
  datagram : List UInt8
  sin : SockaddrIn
deriving DecidableEq, Repr

/--
`bvlc_handler` and `bvlc_broadcast_handler`: the offset of the NPDU in the datagram and
the source address they store.
-/
structure BvlcHandlers (Source : Type) where
  unicast : BacnetIpAddress → List UInt8 → ℤ × Source
  broadcast : BacnetIpAddress → List UInt8 → ℤ × Source

structure ReceiveOutcome (Source : Type) where
  npduLen : ℕ
  npdu : List UInt8
  src : Option Source
  /-- The descriptors put into the select set. -/
  selected : List ℤ

def bvllTypeBacnetIp : UInt8 := 0x81

/-- The loop that moves the NPDU to the front of the buffer. -/
def shiftNpdu (offset : ℕ) : ℕ → List UInt8 → List UInt8
  | 0, npdu => npdu
  | length + 1, npdu =>
      let npdu := shiftNpdu offset length npdu
      npdu.set length (npdu.getD (offset + length) 0)

def bipReceive {Source : Type} (handlers : BvlcHandlers Source) (npdu : List UInt8)
    (maxNpdu : UInt16) (replies : ReceiveReplies) (driver : BipDriver) : ReceiveOutcome Source :=
  if driver.bipSocket < 0 then { npduLen := 0, npdu, src := none, selected := [] }
  else
    let selected := [driver.bipSocket, driver.bipBroadcastSocket]
    if replies.select ≤ 0 then { npduLen := 0, npdu, src := none, selected }
    else
      let socket := if replies.unicastReady then driver.bipSocket else driver.bipBroadcastSocket
      let npdu := replies.datagram ++ npdu.drop replies.datagram.length
      if replies.recvfrom ≤ 0 then { npduLen := 0, npdu, src := none, selected }
      else if npdu.getD 0 0 ≠ bvllTypeBacnetIp then { npduLen := 0, npdu, src := none, selected }
      else
        let addr : BacnetIpAddress :=
          { address := replies.sin.sinAddr, port := ntohs replies.sin.sinPort }
        let handler := if socket = driver.bipSocket then handlers.unicast else handlers.broadcast
        let (offset, src) := handler addr (npdu.take replies.recvfrom.toNat)
        if offset ≤ 0 then { npduLen := 0, npdu, src := some src, selected }
        else
          let npduLen := ((replies.recvfrom - offset) % 2 ^ 16).toNat
          if npduLen ≤ maxNpdu.toNat then
            { npduLen, npdu := shiftNpdu offset.toNat npduLen npdu, src := some src, selected }
          else { npduLen := 0, npdu, src := some src, selected }

/-! ## Runs -/

inductive BipCall (Source : Type) where
  | init (ifname : Option CString) (replies : BipInitReplies)
  | cleanup
  | receive (handlers : BvlcHandlers Source) (npdu : List UInt8) (maxNpdu : UInt16)
      (replies : ReceiveReplies)

structure BipOutcome where
  after : BipSystem
  /-- The result of `bip_init`. -/
  initialized : Option Bool
  selected : List ℤ

variable {Source : Type}

def BipCall.outcome (config : BipConfig) (system : BipSystem) : BipCall Source → BipOutcome
  | init ifname replies =>
      let (after, initialized) := bipInit config ifname replies system
      { after, initialized := some initialized, selected := [] }
  | cleanup => { after := bipCleanup system, initialized := none, selected := [] }
  | receive handlers npdu maxNpdu replies =>
      { after := system, initialized := none,
        selected := (bipReceive handlers npdu maxNpdu replies system.driver).selected }

def SocketReplies.Succeeds (replies : SocketReplies) : Prop :=
  0 ≤ replies.socket ∧ 0 ≤ replies.setsockopt ∧ 0 ≤ replies.bind

instance (replies : SocketReplies) : Decidable replies.Succeeds :=
  inferInstanceAs (Decidable (_ ∧ _ ∧ _))

/-- One of the functions fails, and returns the status. -/
def SocketReplies.FailsWith (replies : SocketReplies) (status : ℤ) : Prop :=
  status < 0 ∧ (replies.socket = status ∨
    0 ≤ replies.socket ∧ (replies.setsockopt = status ∨
      0 ≤ replies.setsockopt ∧ replies.bind = status))

/-- A new socket gets a descriptor that is not open. -/
def BipCall.Fresh (system : BipSystem) : BipCall Source → Prop
  | init _ replies =>
      (0 ≤ replies.unicast.socket → replies.unicast.socket ∉ system.sockets.opened) ∧
      (replies.unicast.Succeeds → 0 ≤ replies.broadcast.socket →
        replies.broadcast.socket ∉ insert replies.unicast.socket system.sockets.opened)
  | cleanup | receive _ _ _ _ => True

def BipStep (config : BipConfig) (before : BipSystem) (call : BipCall Source)
    (after : BipSystem) : Prop :=
  call.Fresh before ∧ after = (call.outcome config before).after

/-- The state before the first call; an address may have been set. -/
def BipSystem.initial (bipPort : UInt16) (bipAddress bipBroadcastAddr : InAddr) : BipSystem where
  driver := { bipSocket := -1, bipBroadcastSocket := -1, bipPort, bipAddress, bipBroadcastAddr }
  sockets := { opened := ∅, bound := [] }

/-- Two open sockets or none, and the driver has nothing else open. -/
def SocketsKept (system : BipSystem) : Prop :=
  (system.driver.bipSocket ≠ system.driver.bipBroadcastSocket ∧
    0 ≤ system.driver.bipSocket ∧ 0 ≤ system.driver.bipBroadcastSocket ∧
    system.sockets.opened = {system.driver.bipSocket, system.driver.bipBroadcastSocket} ∧
    bipValid system.driver = true) ∨
  (system.driver.bipSocket = -1 ∧ system.driver.bipBroadcastSocket = -1 ∧
    system.sockets.opened = ∅ ∧ bipValid system.driver = false)

structure CallKept (config : BipConfig) (taken : Taken BipSystem (BipCall Source)) : Prop where
  sockets : SocketsKept taken.after
  selected : ∀ sockFd ∈ (taken.label.outcome config taken.before).selected, 0 ≤ sockFd
  failed : (taken.label.outcome config taken.before).initialized = some false →
    taken.after.sockets.opened = ∅

/-- No interface that is up has an address at a slot there is. -/
def NoAddress (config : BipConfig) (network : NetworkReplies) (ifname : Option CString) : Prop :=
  ∀ iface, chooseInterface network ifname = some iface →
    (iface.isUp = false ∧ iface.up < 0 ∧ iface.up ≠ -Errno.ealready) ∨
    (∃ addressIndex, config.addressIndex = some addressIndex ∧
      config.maxIpv4Addr ≤ addressIndex) ∨
    iface.waited.inAddr = .any

/--
Either the driver has and gets no address, or it has no socket open and both creations
succeed or the first one fails with the status -1.
-/
def InitSafe (config : BipConfig) (ifname : Option CString) (replies : BipInitReplies)
    (system : BipSystem) : Prop :=
  (system.driver.bipAddress = .any ∧ NoAddress config replies.network ifname) ∨
  (system.driver.bipSocket = -1 ∧
    (replies.unicast.FailsWith (-1) ∨ replies.unicast.Succeeds ∧ replies.broadcast.Succeeds))

def CallSafe (config : BipConfig) (taken : Taken BipSystem (BipCall Source)) : Prop :=
  match taken.label with
  | .init ifname replies => InitSafe config ifname replies taken.before
  | .cleanup | .receive _ _ _ _ => True

/-! ## Creating a socket -/

variable {config : BipConfig} {replies : SocketReplies} {table : SocketTable}

theorem SocketReplies.succeeds_or_failsWith (replies : SocketReplies) :
    replies.Succeeds ∨ ∃ status, replies.FailsWith status := by
  rcases lt_or_ge replies.socket 0 with failed | created
  · exact Or.inr ⟨_, failed, Or.inl rfl⟩
  · rcases lt_or_ge replies.setsockopt 0 with failed | reused
    · exact Or.inr ⟨_, failed, Or.inr ⟨created, Or.inl rfl⟩⟩
    · rcases lt_or_ge replies.bind 0 with failed | bound
      · exact Or.inr ⟨_, failed, Or.inr ⟨created, Or.inr ⟨reused, rfl⟩⟩⟩
      · exact Or.inl ⟨created, reused, bound⟩

theorem createSocket_of_succeeds (sin : SockaddrIn) (succeeds : replies.Succeeds) :
    createSocket sin replies table =
      (replies.socket, (table.zsockSocket replies.socket).zsockBind replies.socket sin) := by
  rcases succeeds with ⟨created, reused, bound⟩
  simp only [createSocket]
  rw [if_neg (by omega), if_neg (by omega), if_neg (by omega)]

/-- A socket that cannot be set up is closed again. -/
theorem createSocket_of_failsWith (sin : SockaddrIn) {status : ℤ} (fails : replies.FailsWith status)
    (fresh : 0 ≤ replies.socket → replies.socket ∉ table.opened) :
    ∃ sockets : SocketTable, createSocket sin replies table = (status, sockets) ∧
      sockets.opened = table.opened := by
  rcases fails with ⟨negative, notCreated | ⟨created, notReused | ⟨reused, notBound⟩⟩⟩
  · refine ⟨table, ?_, rfl⟩
    simp only [createSocket, notCreated]
    rw [if_pos negative]
  · refine ⟨(table.zsockSocket replies.socket).zsockClose replies.socket, ?_,
      Finset.erase_insert (fresh created)⟩
    simp only [createSocket, notReused]
    rw [if_neg (by omega), if_pos negative]
  · refine ⟨(table.zsockSocket replies.socket).zsockClose replies.socket, ?_,
      Finset.erase_insert (fresh created)⟩
    simp only [createSocket, notBound]
    rw [if_neg (by omega), if_neg (by omega), if_pos negative]

/-! ## One call -/

/-- `bip_set_interface` leaves the driver without an address if there is none. -/
theorem bipSetInterface_any_iff {network : NetworkReplies} {ifname : Option CString}
    {driver : BipDriver} (unset : driver.bipAddress = .any) :
    (bipSetInterface config network ifname driver).1.bipAddress = .any ↔
      NoAddress config network ifname := by
  unfold bipSetInterface NoAddress
  split
  · rename_i noInterface
    simp [noInterface, unset]
  · rename_i iface chosen
    simp only [chosen, Option.some.injEq, forall_eq']
    by_cases down : iface.isUp = false ∧ iface.up < 0 ∧ iface.up ≠ -Errno.ealready
    · simp [down, unset]
    have raised : ¬((!iface.isUp) = true ∧ iface.up < 0 ∧ iface.up ≠ -Errno.ealready) := by
      simpa using down
    rw [if_neg raised, if_neg (by simp [unset])]
    split
    · rename_i beyond
      have noSlot : ∃ addressIndex, config.addressIndex = some addressIndex ∧
          config.maxIpv4Addr ≤ addressIndex := by
        simpa [Option.any_eq_true] using beyond
      simp [noSlot, unset]
    · rename_i inside
      have slot : ¬∃ addressIndex, config.addressIndex = some addressIndex ∧
          config.maxIpv4Addr ≤ addressIndex := by
        simpa [Option.any_eq_true] using inside
      simp [down, slot, bipSetAddr, bipSetBroadcastAddr]

theorem bipSetInterface_sockets (network : NetworkReplies) (ifname : Option CString)
    (driver : BipDriver) :
    (bipSetInterface config network ifname driver).1.bipSocket = driver.bipSocket ∧
      (bipSetInterface config network ifname driver).1.bipBroadcastSocket =
        driver.bipBroadcastSocket := by
  unfold bipSetInterface
  split
  · exact ⟨rfl, rfl⟩
  · dsimp only
    split
    · exact ⟨rfl, rfl⟩
    · split
      · exact ⟨rfl, rfl⟩
      · split
        · exact ⟨rfl, rfl⟩
        · exact ⟨rfl, rfl⟩

/-- What `bip_init` does to a driver that has its address. -/
inductive InitSockets (replies : BipInitReplies) (driver : BipDriver) (opened : Finset ℤ) :
    BipSystem × Bool → Prop where
  | noUnicast {status : ℤ} {sockets : SocketTable} (fails : replies.unicast.FailsWith status)
      (kept : sockets.opened = opened) :
      InitSockets replies driver opened
        ({ driver := { driver with bipSocket := status }, sockets }, false)
  | noBroadcast {status : ℤ} {sockets : SocketTable} (succeeds : replies.unicast.Succeeds)
      (fails : replies.broadcast.FailsWith status)
      (left : sockets.opened = insert replies.unicast.socket opened) :
      InitSockets replies driver opened
        ({ driver := { driver with
            bipSocket := replies.unicast.socket, bipBroadcastSocket := status }, sockets }, false)
  | both {sockets : SocketTable} (unicast : replies.unicast.Succeeds)
      (broadcast : replies.broadcast.Succeeds)
      (opens : sockets.opened =
        insert replies.broadcast.socket (insert replies.unicast.socket opened))
      (binds : ∃ earlier, sockets.bound =
        (replies.broadcast.socket, { sinPort := driver.bipPort, sinAddr := .any }) ::
          (replies.unicast.socket,
            { sinPort := driver.bipPort, sinAddr := driver.bipAddress }) :: earlier) :
      InitSockets replies driver opened
        ({ driver := { driver with
            bipSocket := replies.unicast.socket,
            bipBroadcastSocket := replies.broadcast.socket }, sockets }, true)

theorem bipInit_of_address {ifname : Option CString} {replies : BipInitReplies}
    {system : BipSystem} {driver : BipDriver}
    (fresh : (BipCall.init ifname replies : BipCall Source).Fresh system)
    (obtained : driver = if system.driver.bipAddress = .any then
      (bipSetInterface config replies.network ifname system.driver).1 else system.driver)
    (address : driver.bipAddress ≠ .any) :
    InitSockets replies driver system.sockets.opened (bipInit config ifname replies system) := by
  simp only [bipInit, ← obtained, if_neg address]
  rcases replies.unicast.succeeds_or_failsWith with unicast | ⟨status, fails⟩
  · have created := unicast.1
    simp only [createSocket_of_succeeds _ unicast]
    rw [if_neg (by omega)]
    rcases replies.broadcast.succeeds_or_failsWith with broadcast | ⟨status, fails⟩
    · have created' := broadcast.1
      simp only [createSocket_of_succeeds _ broadcast]
      rw [if_neg (by omega)]
      exact .both unicast broadcast rfl ⟨_, rfl⟩
    · have free : 0 ≤ replies.broadcast.socket → replies.broadcast.socket ∉
          ((system.sockets.zsockSocket replies.unicast.socket).zsockBind replies.unicast.socket
            { sinPort := driver.bipPort, sinAddr := driver.bipAddress }).opened :=
        fresh.2 unicast
      rcases createSocket_of_failsWith { sinPort := driver.bipPort, sinAddr := .any } fails free
        with ⟨sockets, closed, left⟩
      simp only [closed]
      rw [if_pos fails.1]
      exact .noBroadcast unicast fails left
  · rcases createSocket_of_failsWith { sinPort := driver.bipPort, sinAddr := driver.bipAddress }
      fails fresh.1 with ⟨sockets, closed, kept⟩
    simp only [closed]
    rw [if_pos fails.1]
    exact .noUnicast fails kept

/-! ## Runs -/

/-- What holds between two calls: open sockets also have an address to be bound to. -/
structure SocketsInvariant (system : BipSystem) : Prop where
  kept : SocketsKept system
  address : system.sockets.opened ≠ ∅ → system.driver.bipAddress ≠ .any

theorem SocketsKept.closed_or_open {system : BipSystem} (kept : SocketsKept system) :
    (system.driver.bipSocket = -1 ∧ system.driver.bipBroadcastSocket = -1 ∧
      system.sockets.opened = ∅) ∨
    (0 ≤ system.driver.bipSocket ∧ 0 ≤ system.driver.bipBroadcastSocket ∧
      system.sockets.opened = {system.driver.bipSocket, system.driver.bipBroadcastSocket}) := by
  rcases kept with ⟨_, unicast, broadcast, opened, _⟩ | ⟨unicast, broadcast, opened, _⟩
  · exact Or.inr ⟨unicast, broadcast, opened⟩
  · exact Or.inl ⟨unicast, broadcast, opened⟩

theorem bipCleanup_kept {system : BipSystem} (kept : SocketsKept system) :
    SocketsKept (bipCleanup system) ∧ (bipCleanup system).sockets.opened = ∅ := by
  have opened : (bipCleanup system).sockets.opened = ∅ := by
    rcases kept.closed_or_open with ⟨unicast, broadcast, opened⟩ | ⟨unicast, broadcast, opened⟩
    · simp [bipCleanup, unicast, broadcast, opened]
    · simp only [bipCleanup]
      rw [if_pos (by omega), if_pos (by omega)]
      ext sockFd
      simp only [SocketTable.zsockClose, opened]
      simp only [Finset.mem_erase, Finset.mem_insert, Finset.mem_singleton, Finset.notMem_empty,
        iff_false]
      tauto
  exact ⟨Or.inr ⟨rfl, rfl, opened, rfl⟩, opened⟩

theorem bipReceive_selected {Source : Type} (handlers : BvlcHandlers Source) (npdu : List UInt8)
    (maxNpdu : UInt16) (replies : ReceiveReplies) (driver : BipDriver) :
    (bipReceive handlers npdu maxNpdu replies driver).selected =
      if driver.bipSocket < 0 then [] else [driver.bipSocket, driver.bipBroadcastSocket] := by
  unfold bipReceive
  by_cases closed : driver.bipSocket < 0
  · rw [if_pos closed, if_pos closed]
  · rw [if_neg closed, if_neg closed]
    dsimp only
    repeat' split
    all_goals rfl

/-- The descriptors `bip_receive` waits on are open. -/
theorem bipReceive_selected_nonneg {Source : Type} {handlers : BvlcHandlers Source}
    {npdu : List UInt8} {maxNpdu : UInt16} {replies : ReceiveReplies} {system : BipSystem}
    (kept : SocketsKept system) {sockFd : ℤ}
    (mem : sockFd ∈ (bipReceive handlers npdu maxNpdu replies system.driver).selected) :
    0 ≤ sockFd := by
  rw [bipReceive_selected] at mem
  rcases kept.closed_or_open with ⟨unicast, _, _⟩ | ⟨unicast, broadcast, _⟩
  · simp [unicast] at mem
  · rw [if_neg (by omega)] at mem
    simp only [List.mem_cons, List.not_mem_nil, or_false] at mem
    rcases mem with rfl | rfl
    · exact unicast
    · exact broadcast

theorem SocketReplies.FailsWith.unique {status other : ℤ} (fails : replies.FailsWith status)
    (fails' : replies.FailsWith other) : status = other := by
  unfold SocketReplies.FailsWith at fails fails'
  omega

theorem SocketReplies.FailsWith.not_succeeds {status : ℤ} (fails : replies.FailsWith status) :
    ¬replies.Succeeds := by
  unfold SocketReplies.FailsWith at fails
  unfold SocketReplies.Succeeds
  omega

theorem not_socketsKept_of_neg {system : BipSystem} (unicast : 0 ≤ system.driver.bipSocket)
    (broadcast : system.driver.bipBroadcastSocket < 0) : ¬SocketsKept system := by
  rintro (⟨_, _, opened, _⟩ | ⟨closed, _⟩) <;> omega

theorem InitSockets.kept_iff {ifname : Option CString} {replies : BipInitReplies}
    {system : BipSystem} {driver : BipDriver} {result : BipSystem × Bool}
    (kept : SocketsKept system)
    (fresh : (BipCall.init ifname replies : BipCall Source).Fresh system)
    (same : driver.bipBroadcastSocket = system.driver.bipBroadcastSocket)
    (init : InitSockets replies driver system.sockets.opened result) :
    (SocketsKept result.1 ∧ (result.2 = false → result.1.sockets.opened = ∅)) ↔
      system.driver.bipSocket = -1 ∧
        (replies.unicast.FailsWith (-1) ∨
          replies.unicast.Succeeds ∧ replies.broadcast.Succeeds) := by
  cases init with
  | @noUnicast status sockets fails left =>
      constructor
      · rintro ⟨⟨_, unicast, _⟩ | ⟨unicast, broadcast, _⟩, _⟩
        · exact absurd fails.1 (by simpa using unicast)
        · have minusOne : status = -1 := unicast
          subst minusOne
          refine ⟨?_, Or.inl fails⟩
          rcases kept.closed_or_open with ⟨closed, _, _⟩ | ⟨_, opened, _⟩
          · exact closed
          · have closed : driver.bipBroadcastSocket = -1 := broadcast
            omega
      · rintro ⟨closed, outcome⟩
        have minusOne : status = -1 := by
          rcases outcome with fails' | ⟨succeeds, _⟩
          · exact fails.unique fails'
          · exact absurd succeeds fails.not_succeeds
        rcases kept.closed_or_open with ⟨_, broadcast, opened⟩ | ⟨unicast, _, _⟩
        · have none : sockets.opened = ∅ := left.trans opened
          refine ⟨Or.inr ⟨minusOne, same.trans broadcast, none, ?_⟩, fun _ => none⟩
          simp [bipValid, minusOne]
        · omega
  | @noBroadcast status sockets succeeds fails left =>
      constructor
      · rintro ⟨after, _⟩
        exact absurd after (not_socketsKept_of_neg succeeds.1 fails.1)
      · rintro ⟨_, fails' | ⟨_, succeeds'⟩⟩
        · exact absurd succeeds fails'.not_succeeds
        · exact absurd succeeds' fails.not_succeeds
  | @both sockets unicast broadcast opens _ =>
      have fresh' := fresh.2 unicast broadcast.1
      simp only [Finset.mem_insert, not_or] at fresh'
      constructor
      · rintro ⟨after, _⟩
        refine ⟨?_, Or.inr ⟨unicast, broadcast⟩⟩
        rcases kept.closed_or_open with ⟨closed, _, _⟩ | ⟨_, _, opened⟩
        · exact closed
        · have old : system.driver.bipSocket ∈ system.sockets.opened := by simp [opened]
          have lost : system.driver.bipSocket ∈ sockets.opened := by simp [opens, old]
          rcases after with ⟨_, _, _, two, _⟩ | ⟨closed, _⟩
          · have two' : sockets.opened = {replies.unicast.socket, replies.broadcast.socket} := two
            rw [two'] at lost
            simp only [Finset.mem_insert, Finset.mem_singleton] at lost
            rcases lost with again | again
            · exact absurd (again ▸ old) (fresh.1 unicast.1)
            · exact absurd (again ▸ old) fresh'.2
          · have closed' : replies.unicast.socket = -1 := closed
            have := unicast.1
            omega
      · rintro ⟨closed, _⟩
        rcases kept.closed_or_open with ⟨_, _, opened⟩ | ⟨open', _, _⟩
        · refine ⟨Or.inl ⟨Ne.symm fresh'.1, unicast.1, broadcast.1, ?_, ?_⟩, by simp⟩
          · simp only [opens, opened]
            ext sockFd
            simp [or_comm]
          · have := unicast.1
            simp only [bipValid, decide_eq_true_eq]
            omega
        · omega

theorem InitSockets.bipAddress {replies : BipInitReplies} {driver : BipDriver}
    {opened : Finset ℤ} {result : BipSystem × Bool}
    (init : InitSockets replies driver opened result) :
    result.1.driver.bipAddress = driver.bipAddress := by
  cases init <;> rfl

theorem SocketsKept.of_sockets {system next : BipSystem} (kept : SocketsKept system)
    (unicast : next.driver.bipSocket = system.driver.bipSocket)
    (broadcast : next.driver.bipBroadcastSocket = system.driver.bipBroadcastSocket)
    (sockets : next.sockets = system.sockets) : SocketsKept next := by
  simp only [SocketsKept, bipValid, unicast, broadcast, sockets] at kept ⊢
  exact kept

theorem bipInit_of_no_address {ifname : Option CString} {replies : BipInitReplies}
    {system : BipSystem} (invariant : SocketsInvariant system)
    (unset : system.driver.bipAddress = .any)
    (noAddress :
      (bipSetInterface config replies.network ifname system.driver).1.bipAddress = .any) :
    SocketsKept (bipInit config ifname replies system).1 ∧
      (bipInit config ifname replies system).1.sockets.opened = ∅ := by
  have closed : system.sockets.opened = ∅ := by
    by_contra opened
    exact invariant.address opened unset
  rcases bipSetInterface_sockets replies.network ifname system.driver with ⟨unicast, broadcast⟩
  simp only [bipInit, if_pos unset, if_pos noAddress]
  exact ⟨invariant.kept.of_sockets unicast broadcast rfl, closed⟩

/-- `bip_init` keeps the sockets exactly when it is safe, and then it keeps the invariant. -/
theorem bipInit_spec {ifname : Option CString} {replies : BipInitReplies} {system : BipSystem}
    (invariant : SocketsInvariant system)
    (fresh : (BipCall.init ifname replies : BipCall Source).Fresh system) :
    ((SocketsKept (bipInit config ifname replies system).1 ∧
        ((bipInit config ifname replies system).2 = false →
          (bipInit config ifname replies system).1.sockets.opened = ∅)) ↔
      InitSafe config ifname replies system) ∧
    ((bipInit config ifname replies system).1.sockets.opened ≠ ∅ →
      (bipInit config ifname replies system).1.driver.bipAddress ≠ .any) := by
  obtain ⟨driver, obtained⟩ : ∃ driver, driver = if system.driver.bipAddress = .any then
    (bipSetInterface config replies.network ifname system.driver).1 else system.driver :=
    ⟨_, rfl⟩
  by_cases noAddress : driver.bipAddress = .any
  · have unset : system.driver.bipAddress = .any := by
      by_contra set
      rw [if_neg set] at obtained
      exact set (obtained ▸ noAddress)
    rw [if_pos unset] at obtained
    subst obtained
    rcases bipInit_of_no_address invariant unset noAddress with ⟨kept, closed⟩
    have unavailable := (bipSetInterface_any_iff unset).mp noAddress
    refine ⟨⟨fun _ => Or.inl ⟨unset, unavailable⟩, fun _ => ⟨kept, fun _ => closed⟩⟩, ?_⟩
    intro opened
    exact absurd closed opened
  · have same : driver.bipBroadcastSocket = system.driver.bipBroadcastSocket := by
      rw [obtained]
      split
      · exact (bipSetInterface_sockets _ _ _).2
      · rfl
    have init := bipInit_of_address fresh obtained noAddress
    refine ⟨?_, fun _ => by rwa [init.bipAddress]⟩
    rw [init.kept_iff invariant.kept fresh same]
    constructor
    · exact Or.inr
    · rintro (⟨unset, unavailable⟩ | safe)
      · rw [if_pos unset] at obtained
        exact absurd ((bipSetInterface_any_iff unset).mpr unavailable) (obtained ▸ noAddress)
      · exact safe

theorem callKept_init_iff {ifname : Option CString} {replies : BipInitReplies}
    {before : BipSystem} :
    CallKept config ⟨before, (.init ifname replies : BipCall Source),
        (bipInit config ifname replies before).1⟩ ↔
      SocketsKept (bipInit config ifname replies before).1 ∧
        ((bipInit config ifname replies before).2 = false →
          (bipInit config ifname replies before).1.sockets.opened = ∅) := by
  constructor
  · rintro ⟨kept, _, failed⟩
    refine ⟨kept, ?_⟩
    intro unsuccessful
    apply failed
    simp [BipCall.outcome, unsuccessful]
  · rintro ⟨kept, failed⟩
    refine ⟨kept, by simp [BipCall.outcome], ?_⟩
    intro unsuccessful
    apply failed
    simpa [BipCall.outcome] using unsuccessful

theorem bipStep_spec {before after : BipSystem} {call : BipCall Source}
    (invariant : SocketsInvariant before) (step : BipStep config before call after) :
    (CallKept config ⟨before, call, after⟩ ↔ CallSafe config ⟨before, call, after⟩) ∧
      (CallKept config ⟨before, call, after⟩ → SocketsInvariant after) := by
  rcases step with ⟨fresh, rfl⟩
  cases call with
  | cleanup =>
      rcases bipCleanup_kept invariant.kept with ⟨kept, opened⟩
      refine ⟨⟨fun _ => trivial, fun _ => ⟨kept, by simp [BipCall.outcome], fun _ => opened⟩⟩,
        fun _ => ⟨kept, ?_⟩⟩
      intro some
      exact absurd opened some
  | receive handlers npdu maxNpdu replies =>
      refine ⟨⟨fun _ => trivial, fun _ => ⟨invariant.kept, ?_, by simp [BipCall.outcome]⟩⟩,
        fun _ => invariant⟩
      intro sockFd mem
      exact bipReceive_selected_nonneg invariant.kept mem
  | init ifname replies =>
      rcases bipInit_spec invariant fresh with ⟨keptIff, address⟩
      have returned : ((BipCall.init ifname replies : BipCall Source).outcome config before).after =
          (bipInit config ifname replies before).1 := rfl
      rw [returned, callKept_init_iff]
      exact ⟨keptIff, fun kept => ⟨kept.1, address⟩⟩

theorem BipSystem.initial_invariant (bipPort : UInt16) (bipAddress bipBroadcastAddr : InAddr) :
    SocketsInvariant (BipSystem.initial bipPort bipAddress bipBroadcastAddr) := by
  constructor
  · exact Or.inr ⟨rfl, rfl, rfl, rfl⟩
  · intro opened
    exact absurd rfl opened

/-- Every call of a run keeps the sockets exactly when every `bip_init` in it is safe. -/
theorem bipSockets_kept_iff (config : BipConfig) (bipPort : UInt16)
    (bipAddress bipBroadcastAddr : InAddr) {taken : List (Taken BipSystem (BipCall Source))}
    {last : BipSystem}
    (run : Run (BipStep config) (BipSystem.initial bipPort bipAddress bipBroadcastAddr) taken
      last) :
    (∀ call ∈ taken, CallKept config call) ↔ ∀ call ∈ taken, CallSafe config call := by
  apply run.forall_iff (BipSystem.initial_invariant bipPort bipAddress bipBroadcastAddr)
  · intro before call after invariant step kept
    exact (bipStep_spec invariant step).2 kept
  · intro before call after invariant step
    exact (bipStep_spec invariant step).1

/-- A network whose default interface is up and has the address 192.0.2.1. -/
def NetworkReplies.single : NetworkReplies where
  byIndex := fun _ => none
  default := some
    { isUp := true, up := 0,
      waited := ⟨true, .afInet, ⟨192, 0, 2, 1⟩, .dhcp, ⟨255, 255, 255, 0⟩⟩ }

theorem bipSockets_kept_iff_opened :
    ∃ (taken : List (Taken BipSystem (BipCall Unit))) (last : BipSystem),
      Run (BipStep ⟨true, none, 1⟩) (BipSystem.initial 0xC0BA .any .any) taken last ∧
        (∀ call ∈ taken, CallKept ⟨true, none, 1⟩ call) ∧ last.driver.bipSocket = 3 := by
  let replies : BipInitReplies := ⟨.single, ⟨3, 0, 0⟩, ⟨4, 0, 0⟩⟩
  have step : BipStep ⟨true, none, 1⟩ (BipSystem.initial 0xC0BA .any .any)
      (.init none replies : BipCall Unit) _ :=
    ⟨by simp [BipCall.Fresh, BipSystem.initial, replies], rfl⟩
  refine ⟨_, _, Run.start.next step, ?_, by decide⟩
  apply (bipSockets_kept_iff ⟨true, none, 1⟩ 0xC0BA .any .any (Run.start.next step)).mpr
  intro call mem
  simp only [List.nil_append, List.mem_singleton] at mem
  subst mem
  exact Or.inr ⟨rfl, Or.inr (by decide)⟩

/-- The second `zsock_bind` fails: `bip_init` returns false and leaves a socket open. -/
theorem bipSockets_leaked :
    ¬∀ (taken : List (Taken BipSystem (BipCall Unit))) (last : BipSystem),
      Run (BipStep ⟨true, none, 1⟩) (BipSystem.initial 0xC0BA .any .any) taken last →
        ∀ call ∈ taken, CallKept ⟨true, none, 1⟩ call := by
  intro kept
  let replies : BipInitReplies := ⟨.single, ⟨3, 0, 0⟩, ⟨4, 0, -1⟩⟩
  have step : BipStep ⟨true, none, 1⟩ (BipSystem.initial 0xC0BA .any .any)
      (.init none replies : BipCall Unit) _ :=
    ⟨by simp [BipCall.Fresh, BipSystem.initial, replies], rfl⟩
  have failed := (kept _ _ (Run.start.next step) _ List.mem_cons_self).failed rfl
  exact absurd failed (by decide)

end BacnetZephyr
