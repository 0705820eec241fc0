import BacnetZephyr.Datalink.Receive
import BacnetZephyr.Foundation.Datagrams

/-!
# BACnet/IPv4 nodes on a network

Any number of nodes set their ports and addresses, open and close their sockets, send with
`bip_send_mpdu` and receive with `bip_receive`. The network loses, repeats and reorders
datagrams. The socket functions may fail in every way, and the driver may lose descriptors.

`bipNetwork_authentic` says what a BVLC handler is called with on any such network: what
some node has sent before, with the address of that node, on the socket the node has sent
it to. A datagram sent to that address has the node's socket as its destination.
-/

namespace BacnetZephyr

open CLib Transition Datagrams

/-! ## Ports and addresses -/

def bipSetPort (port : UInt16) (driver : BipDriver) : BipDriver :=
  { driver with bipPort := htons port }

def bipGetAddr (driver : BipDriver) : BacnetIpAddress where
  address := driver.bipAddress
  port := ntohs driver.bipPort

/-! ## Sending -/

/-- The datagram that `bip_send_mpdu` asks `zsock_sendto` to send, and from which socket. -/
structure SendtoRequest where
  socket : ℤ
  mtu : List UInt8
  bipDest : SockaddrIn
deriving DecidableEq, Repr

/-- `bip_send_mpdu`: the result, which may be that of `zsock_sendto`, and the request. -/
def bipSendMpdu (dest : BacnetIpAddress) (mtu : List UInt8) (mtuLen : UInt16) (sendto : ℤ)
    (driver : BipDriver) : ℤ × Option SendtoRequest :=
  if driver.bipSocket < 0 then (driver.bipSocket, none)
  else
    (sendto, some
      { socket := driver.bipSocket
        mtu := mtu.take mtuLen.toNat
        bipDest := { sinPort := htons dest.port, sinAddr := dest.address } })

/-! ## Nodes -/

variable {Source : Type}

inductive BipNodeCall (Source : Type) where
  | setPort (port : UInt16)
  | setAddr (addr : Option BacnetIpAddress)
  | setBroadcastAddr (addr : Option BacnetIpAddress)
  | init (ifname : Option CString) (replies : BipInitReplies)
  | cleanup
  | send (dest : BacnetIpAddress) (mtu : List UInt8) (mtuLen : UInt16) (sendto : ℤ)
  | receive (handlers : BvlcHandlers Source) (npdu : List UInt8) (maxNpdu : UInt16)
      (replies : ReceiveReplies)

def BipNodeCall.after (config : BipConfig) (system : BipSystem) : BipNodeCall Source → BipSystem
  | setPort port => { system with driver := bipSetPort port system.driver }
  | setAddr addr => { system with driver := (bipSetAddr addr system.driver).1 }
  | setBroadcastAddr addr => { system with driver := (bipSetBroadcastAddr addr system.driver).1 }
  | init ifname replies => (bipInit config ifname replies system).1
  | cleanup => bipCleanup system
  | send _ _ _ _ | receive _ _ _ _ => system

/-- A new socket gets a descriptor that is not open. -/
def BipNodeCall.Fresh (system : BipSystem) : BipNodeCall Source → Prop
  | init ifname replies => (BipCall.init ifname replies : BipCall Source).Fresh system
  | setPort _ | setAddr _ | setBroadcastAddr _ | cleanup | send _ _ _ _ | receive _ _ _ _ => True

/-- A socket that is bound to `bound` gets what is sent to `destination`. -/
def SockaddrIn.Accepts (bound destination : SockaddrIn) : Prop :=
  bound = destination ∨ bound.sinAddr = .any ∧ bound.sinPort = destination.sinPort

/-- The socket that `bip_receive` reads from. -/
def ReceiveReplies.socket (replies : ReceiveReplies) (driver : BipDriver) : ℤ :=
  if replies.unicastReady then driver.bipSocket else driver.bipBroadcastSocket

/-- A datagram that is too long for the buffer loses its end. -/
structure Took (system : BipSystem) (maxNpdu : UInt16) (replies : ReceiveReplies)
    (datagram : Datagram SockaddrIn) : Prop where
  ready : 0 < replies.select
  length : replies.recvfrom = replies.datagram.length
  source : replies.sin = datagram.source
  payload : replies.datagram = datagram.payload.take maxNpdu.toNat
  accepted : ∃ bound, (replies.socket system.driver, bound) ∈ system.sockets.bound ∧
    bound.Accepts datagram.destination

/-- The nodes of the network: `zsock_sendto` sends from the address its socket is bound to. -/
def bipHost (config : BipConfig) (Source : Type) : Host SockaddrIn where
  State := BipSystem
  Call := BipNodeCall Source
  moves system call after := call.Fresh system ∧ after = call.after config system
  emits system call datagram :=
    match call with
    | .send dest mtu mtuLen sendto =>
        ∃ request, (bipSendMpdu dest mtu mtuLen sendto system.driver).2 = some request ∧
          (request.socket, datagram.source) ∈ system.sockets.bound ∧
          datagram.destination = request.bipDest ∧ datagram.payload = request.mtu
    | _ => False
  takes system call received :=
    match call with
    | .receive _ _ maxNpdu replies =>
        match received with
        | none => replies.select ≤ 0 ∨ replies.recvfrom ≤ 0
        | some datagram => Took system maxNpdu replies datagram
    | _ => received = none

/-! ## Sockets and what they are bound to -/

/-- Only open sockets are bound, each to one address. -/
structure SocketTable.Binds (table : SocketTable) : Prop where
  opened : ∀ entry ∈ table.bound, entry.1 ∈ table.opened
  nonneg : ∀ sockFd ∈ table.opened, 0 ≤ sockFd
  single : ∀ sockFd left right, (sockFd, left) ∈ table.bound → (sockFd, right) ∈ table.bound →
    left = right

section Table

variable {table : SocketTable} {sockFd : ℤ}

theorem SocketTable.Binds.zsockClose (binds : table.Binds) (sockFd : ℤ) :
    (table.zsockClose sockFd).Binds where
  opened := by
    intro entry mem
    rw [SocketTable.zsockClose, List.mem_filter, decide_eq_true_eq] at mem
    exact Finset.mem_erase.mpr ⟨mem.2, binds.opened entry mem.1⟩
  nonneg := by
    intro other mem
    exact binds.nonneg other (Finset.mem_of_mem_erase mem)
  single := by
    intro other left right leftMem rightMem
    exact binds.single other left right (List.mem_of_mem_filter leftMem)
      (List.mem_of_mem_filter rightMem)

theorem SocketTable.Binds.zsockSocket (binds : table.Binds) (created : 0 ≤ sockFd) :
    (table.zsockSocket sockFd).Binds where
  opened entry mem := Finset.mem_insert_of_mem (binds.opened entry mem)
  nonneg := by
    intro other mem
    rcases Finset.mem_insert.mp mem with rfl | old
    · exact created
    · exact binds.nonneg other old
  single := binds.single

theorem SocketTable.Binds.zsockBind (binds : table.Binds) (isOpen : sockFd ∈ table.opened)
    (unbound : ∀ sin, (sockFd, sin) ∉ table.bound) (sin : SockaddrIn) :
    (table.zsockBind sockFd sin).Binds where
  opened := by
    intro entry mem
    rcases List.mem_cons.mp mem with rfl | old
    · exact isOpen
    · exact binds.opened entry old
  nonneg := binds.nonneg
  single := by
    intro other left right leftMem rightMem
    simp only [SocketTable.zsockBind, List.mem_cons, Prod.mk.injEq] at leftMem rightMem
    rcases leftMem with ⟨rfl, rfl⟩ | leftMem
    · rcases rightMem with ⟨_, rfl⟩ | rightMem
      · rfl
      · exact absurd rightMem (unbound right)
    · rcases rightMem with ⟨rfl, rfl⟩ | rightMem
      · exact absurd leftMem (unbound left)
      · exact binds.single other left right leftMem rightMem

/-- What `createSocket` leaves: all bindings there were, and the one of the new socket. -/
structure SocketCreated (before : SocketTable) (sin : SockaddrIn) (replies : SocketReplies)
    (result : ℤ × SocketTable) : Prop where
  binds : result.2.Binds
  kept : ∀ entry ∈ before.bound, entry ∈ result.2.bound
  bound : 0 ≤ result.1 → (result.1, sin) ∈ result.2.bound
  succeeds : 0 ≤ result.1 → replies.Succeeds ∧ result.1 = replies.socket ∧
    result.2.opened = insert replies.socket before.opened

theorem createSocket_created (binds : table.Binds) {replies : SocketReplies}
    (fresh : 0 ≤ replies.socket → replies.socket ∉ table.opened) (sin : SockaddrIn) :
    SocketCreated table sin replies (createSocket sin replies table) := by
  simp only [createSocket]
  split
  · rename_i failed
    exact ⟨binds, fun _ mem => mem, fun created => by omega, fun created => by omega⟩
  · rename_i created
    have positive : 0 ≤ replies.socket := by omega
    have socket := binds.zsockSocket positive
    have others : ∀ entry ∈ table.bound, entry.1 ≠ replies.socket := by
      intro entry mem same
      apply fresh positive
      rw [← same]
      exact binds.opened entry mem
    have closed : ∀ entry ∈ table.bound,
        entry ∈ ((table.zsockSocket replies.socket).zsockClose replies.socket).bound := by
      intro entry mem
      rw [SocketTable.zsockClose, List.mem_filter, decide_eq_true_eq]
      exact ⟨mem, others entry mem⟩
    split
    · rename_i failed
      exact ⟨socket.zsockClose _, closed, fun created => by omega, fun created => by omega⟩
    · rename_i reused
      split
      · rename_i failed
        exact ⟨socket.zsockClose _, closed, fun created => by omega, fun created => by omega⟩
      · rename_i bound
        refine
          { binds := ?_, kept := ?_, bound := fun _ => List.mem_cons_self, succeeds := ?_ }
        · apply socket.zsockBind (Finset.mem_insert_self _ _)
          intro other mem
          exact others _ mem rfl
        · exact fun _ mem => List.mem_cons_of_mem _ mem
        · exact fun _ => ⟨⟨positive, by omega, by omega⟩, rfl, rfl⟩

end Table

/-! ## What a node has between its calls -/

/-- The socket for unicast is bound to an address, the other one to all addresses. -/
structure NodeBinds (system : BipSystem) : Prop where
  table : system.sockets.Binds
  unicast : 0 ≤ system.driver.bipSocket →
    ∃ bound, bound.sinAddr ≠ .any ∧ (system.driver.bipSocket, bound) ∈ system.sockets.bound
  broadcast : 0 ≤ system.driver.bipBroadcastSocket →
    ∃ bound, bound.sinAddr = .any ∧
      (system.driver.bipBroadcastSocket, bound) ∈ system.sockets.bound

/-- The socket for unicast is bound to the address that `bip_get_addr` gives. -/
def Settled (system : BipSystem) : Prop :=
  0 ≤ system.driver.bipSocket →
    (system.driver.bipSocket,
      { sinPort := system.driver.bipPort, sinAddr := system.driver.bipAddress }) ∈
        system.sockets.bound

/-- The port and the address of a node are set while its socket is closed. -/
def SetsWhileClosed (system : BipSystem) : BipNodeCall Source → Prop
  | .setPort _ | .setAddr _ => system.driver.bipSocket < 0
  | .setBroadcastAddr _ | .init _ _ | .cleanup | .send _ _ _ _ | .receive _ _ _ _ => True

section Nodes

variable {config : BipConfig} {system : BipSystem}

theorem NodeBinds.of_sockets {next : BipSystem} (binds : NodeBinds system)
    (unicast : next.driver.bipSocket = system.driver.bipSocket)
    (broadcast : next.driver.bipBroadcastSocket = system.driver.bipBroadcastSocket)
    (sockets : next.sockets = system.sockets) : NodeBinds next := by
  constructor
  · rw [sockets]
    exact binds.table
  · rw [unicast, sockets]
    exact binds.unicast
  · rw [broadcast, sockets]
    exact binds.broadcast

/-- A node before its first call. -/
theorem NodeBinds.initial (port : UInt16) (address broadcast : InAddr) :
    NodeBinds (BipSystem.initial port address broadcast) where
  table := ⟨by simp [BipSystem.initial], by simp [BipSystem.initial], by simp [BipSystem.initial]⟩
  unicast opened := absurd opened (by simp [BipSystem.initial])
  broadcast opened := absurd opened (by simp [BipSystem.initial])

theorem bipSetAddr_sockets (addr : Option BacnetIpAddress) (driver : BipDriver) :
    (bipSetAddr addr driver).1.bipSocket = driver.bipSocket ∧
      (bipSetAddr addr driver).1.bipBroadcastSocket = driver.bipBroadcastSocket := by
  cases addr with
  | none => exact ⟨rfl, rfl⟩
  | some addr => exact ⟨rfl, rfl⟩

/-- What `bip_init` leaves of a node, and when its socket is bound to its address. -/
structure Initialized (before after : BipSystem) : Prop where
  binds : NodeBinds after
  settled : (before.driver.bipAddress = .any → before.driver.bipSocket < 0) → Settled before →
    Settled after

theorem bipInit_initialized (binds : NodeBinds system) {ifname : Option CString}
    {replies : BipInitReplies}
    (fresh : (BipCall.init ifname replies : BipCall Source).Fresh system) :
    Initialized system (bipInit config ifname replies system).1 := by
  simp only [bipInit]
  generalize obtained : (if system.driver.bipAddress = .any then
      (bipSetInterface config replies.network ifname system.driver).1 else system.driver) = driver
  have sockets : driver.bipSocket = system.driver.bipSocket ∧
      driver.bipBroadcastSocket = system.driver.bipBroadcastSocket := by
    rw [← obtained]
    split
    · exact bipSetInterface_sockets replies.network ifname system.driver
    · exact ⟨rfl, rfl⟩
  split
  · rename_i unset
    refine ⟨binds.of_sockets sockets.1 sockets.2 rfl, ?_⟩
    intro idle _ opened
    have unsetBefore : system.driver.bipAddress = .any := by
      by_contra set
      rw [if_neg set] at obtained
      rw [obtained] at set
      exact set unset
    have closed := idle unsetBefore
    dsimp only at opened
    omega
  · rename_i address
    have unicast := createSocket_created binds.table fresh.1
      { sinPort := driver.bipPort, sinAddr := driver.bipAddress }
    generalize createSocket { sinPort := driver.bipPort, sinAddr := driver.bipAddress }
      replies.unicast system.sockets = first at unicast
    rcases first with ⟨sockFd, table⟩
    dsimp only
    split
    · rename_i failed
      refine ⟨⟨unicast.binds, ?_, ?_⟩, ?_⟩
      · intro opened
        exact absurd failed (Int.not_lt.mpr opened)
      · dsimp only
        rw [sockets.2]
        intro opened
        rcases binds.broadcast opened with ⟨bound, any, mem⟩
        exact ⟨bound, any, unicast.kept _ mem⟩
      · intro _ _ opened
        exact absurd failed (Int.not_lt.mpr opened)
    · rename_i created
      rcases unicast.succeeds (Int.not_lt.mp created) with ⟨succeeds, same, opens⟩
      have fresh' : 0 ≤ replies.broadcast.socket → replies.broadcast.socket ∉ table.opened := by
        intro positive
        dsimp only at opens
        rw [opens]
        exact fresh.2 succeeds positive
      have broadcast := createSocket_created unicast.binds fresh'
        { sinPort := driver.bipPort, sinAddr := .any }
      generalize createSocket { sinPort := driver.bipPort, sinAddr := .any }
        replies.broadcast table = second at broadcast
      rcases second with ⟨sockFd', table'⟩
      have mem : (sockFd, { sinPort := driver.bipPort, sinAddr := driver.bipAddress }) ∈
          table'.bound := broadcast.kept _ (unicast.bound (Int.not_lt.mp created))
      have unicast' : 0 ≤ sockFd → ∃ bound : SockaddrIn, bound.sinAddr ≠ .any ∧
          (sockFd, bound) ∈ table'.bound := fun _ => ⟨_, address, mem⟩
      split
      · rename_i failed
        refine ⟨⟨broadcast.binds, unicast', ?_⟩, fun _ _ _ => mem⟩
        intro opened
        exact absurd failed (Int.not_lt.mpr opened)
      · rename_i created'
        refine ⟨⟨broadcast.binds, unicast', ?_⟩, fun _ _ _ => mem⟩
        intro opened
        exact ⟨_, rfl, broadcast.bound opened⟩

theorem bipCleanup_binds (binds : NodeBinds system) : NodeBinds (bipCleanup system) := by
  have closed : ∀ (sockFd : ℤ) (table : SocketTable), table.Binds →
      (if sockFd ≠ -1 then table.zsockClose sockFd else table).Binds := by
    intro sockFd table kept
    split
    · exact kept.zsockClose sockFd
    · exact kept
  constructor
  · exact closed _ _ (closed _ _ binds.table)
  · intro impossible
    exact absurd impossible (by simp [bipCleanup])
  · intro impossible
    exact absurd impossible (by simp [bipCleanup])

/-- The step lemma: every call keeps the sockets bound. -/
theorem BipNodeCall.after_binds (binds : NodeBinds system) {call : BipNodeCall Source}
    (fresh : call.Fresh system) : NodeBinds (call.after config system) := by
  cases call with
  | setPort port => exact binds.of_sockets rfl rfl rfl
  | setAddr addr =>
      have kept := bipSetAddr_sockets addr system.driver
      exact binds.of_sockets kept.1 kept.2 rfl
  | setBroadcastAddr addr =>
      cases addr with
      | none => exact binds
      | some addr => exact binds.of_sockets rfl rfl rfl
  | init ifname replies =>
      have initialized : Initialized system (bipInit config ifname replies system).1 :=
        @bipInit_initialized Source _ _ binds _ _ fresh
      exact initialized.binds
  | cleanup => exact bipCleanup_binds binds
  | send dest mtu mtuLen sendto => exact binds
  | receive handlers npdu maxNpdu replies => exact binds

/-- A node whose socket is bound to its address has an address. -/
theorem NodeBinds.closed_of_unset (binds : NodeBinds system) (settled : Settled system)
    (unset : system.driver.bipAddress = .any) : system.driver.bipSocket < 0 := by
  by_contra opened
  have positive := Int.not_lt.mp opened
  rcases binds.unicast positive with ⟨bound, address, mem⟩
  have same := binds.table.single _ _ _ mem (settled positive)
  apply address
  rw [same]
  exact unset

/-- The step lemma for a port and an address that are set while the socket is closed. -/
theorem BipNodeCall.after_settled (binds : NodeBinds system) (settled : Settled system)
    {call : BipNodeCall Source} (fresh : call.Fresh system) (sets : SetsWhileClosed system call) :
    Settled (call.after config system) := by
  cases call with
  | setPort port =>
      intro opened
      exact absurd sets (Int.not_lt.mpr opened)
  | setAddr addr =>
      intro opened
      simp only [BipNodeCall.after, (bipSetAddr_sockets addr system.driver).1] at opened
      exact absurd sets (Int.not_lt.mpr opened)
  | setBroadcastAddr addr =>
      cases addr with
      | none => exact settled
      | some addr => exact settled
  | init ifname replies =>
      have initialized : Initialized system (bipInit config ifname replies system).1 :=
        @bipInit_initialized Source _ _ binds _ _ fresh
      exact initialized.settled (binds.closed_of_unset settled) settled
  | cleanup =>
      intro impossible
      exact absurd impossible (by simp [BipNodeCall.after, bipCleanup])
  | send dest mtu mtuLen sendto => exact settled
  | receive handlers npdu maxNpdu replies => exact settled

end Nodes

/-! ## What a handler is called with -/

/-- The socket of the node is open and bound to the address. -/
structure HasAddress (system : BipSystem) (address : BacnetIpAddress) : Prop where
  opened : 0 ≤ system.driver.bipSocket
  bound : (system.driver.bipSocket,
    { sinPort := htons address.port, sinAddr := address.address }) ∈ system.sockets.bound

/-- The node has sent the bytes to `dest` while it had the address `sender`. -/
structure SentBy (system : BipSystem) (call : BipNodeCall Source) (sender dest : BacnetIpAddress)
    (mpdu : List UInt8) : Prop where
  call : ∃ mtu mtuLen sendto, call = .send dest mtu mtuLen sendto ∧ mpdu = mtu.take mtuLen.toNat
  address : HasAddress system sender

/-- The socket that the node reads from gets what is sent to `dest`. -/
structure AddressedTo (system : BipSystem) (unicastReady : Bool) (dest : BacnetIpAddress) :
    Prop where
  unicast : unicastReady = true → HasAddress system dest
  broadcast : unicastReady = false → 0 ≤ system.driver.bipBroadcastSocket ∧
    (system.driver.bipBroadcastSocket,
      { sinPort := htons dest.port, sinAddr := .any }) ∈ system.sockets.bound

section Authentic

variable {config : BipConfig} {system : BipSystem}

theorem SockaddrIn.ext_htons (sin : SockaddrIn) :
    ({ sinPort := htons (ntohs sin.sinPort), sinAddr := sin.sinAddr } : SockaddrIn) = sin := by
  rw [htons_ntohs]

/-- Only a call that sends emits, from the address of the node. -/
theorem sentBy_of_emits {call : BipNodeCall Source}
    {datagram : Datagram SockaddrIn} (emits : (bipHost config Source).emits system call datagram) :
    ∃ dest : BacnetIpAddress,
      datagram.destination = { sinPort := htons dest.port, sinAddr := dest.address } ∧
      SentBy system call
        { address := datagram.source.sinAddr, port := ntohs datagram.source.sinPort } dest
        datagram.payload := by
  cases call with
  | send dest mtu mtuLen sendto =>
      rcases emits with ⟨request, asked, bound, destination, payload⟩
      simp only [bipSendMpdu] at asked
      split at asked
      · cases asked
      · rename_i opened
        rw [Option.some.injEq] at asked
        subst asked
        refine ⟨dest, destination, ⟨_, _, _, rfl, payload⟩, Int.not_lt.mp opened, ?_⟩
        rw [SockaddrIn.ext_htons]
        exact bound
  | setPort port | setAddr addr | setBroadcastAddr addr | cleanup => exact absurd emits id
  | init ifname replies => exact absurd emits id
  | receive handlers npdu maxNpdu replies => exact absurd emits id

/-- The two sockets differ, since no socket is bound to two addresses. -/
theorem NodeBinds.distinct (binds : NodeBinds system) (opened : 0 ≤ system.driver.bipSocket) :
    system.driver.bipBroadcastSocket ≠ system.driver.bipSocket := by
  intro same
  rcases binds.unicast opened with ⟨unicast, address, unicastMem⟩
  rw [← same] at opened
  rcases binds.broadcast opened with ⟨broadcast, any, broadcastMem⟩
  rw [same] at broadcastMem
  apply address
  rw [binds.table.single _ _ _ unicastMem broadcastMem]
  exact any

theorem NodeBinds.addressedTo (binds : NodeBinds system) {replies : ReceiveReplies}
    {bound : SockaddrIn} {dest : BacnetIpAddress}
    (mem : (replies.socket system.driver, bound) ∈ system.sockets.bound)
    (accepts : bound.Accepts { sinPort := htons dest.port, sinAddr := dest.address }) :
    AddressedTo system replies.unicastReady dest := by
  have opened := binds.table.nonneg _ (binds.table.opened _ mem)
  unfold ReceiveReplies.socket at mem opened
  constructor
  · intro ready
    simp only [ready, if_true] at mem opened
    rcases binds.unicast opened with ⟨other, address, otherMem⟩
    have same := binds.table.single _ _ _ mem otherMem
    refine ⟨opened, ?_⟩
    rcases accepts with equal | ⟨any, _⟩
    · rw [← equal]
      exact mem
    · exact absurd any (same ▸ address)
  · intro ready
    simp only [ready, Bool.false_eq_true, if_false] at mem opened
    rcases binds.broadcast opened with ⟨other, any, otherMem⟩
    have same := binds.table.single _ _ _ mem otherMem
    refine ⟨opened, ?_⟩
    rw [← same] at any
    have port : bound.sinPort = htons dest.port := by
      rcases accepts with equal | ⟨_, port⟩
      · rw [equal]
      · exact port
    rw [← any, ← port]
    exact mem

/-- A call of `bip_receive` that stores a source has received a datagram. -/
theorem bipReceive_stored {handlers : BvlcHandlers Source} {npdu : List UInt8}
    {maxNpdu : UInt16} {replies : ReceiveReplies} {driver : BipDriver} {src : Source}
    (stored : (bipReceive handlers npdu maxNpdu replies driver).src = some src) :
    0 ≤ driver.bipSocket ∧ 0 < replies.select ∧ 0 < replies.recvfrom := by
  unfold bipReceive at stored
  dsimp only at stored
  split at stored
  · cases stored
  · rename_i opened
    split at stored
    · cases stored
    · rename_i ready
      split at stored
      · cases stored
      · rename_i received
        exact ⟨by omega, by omega, by omega⟩

/-- What `bip_receive` makes of a datagram it has taken from the network. -/
structure Handled (handlers : BvlcHandlers Source) (npdu : List UInt8) (maxNpdu : UInt16)
    (replies : ReceiveReplies) (driver : BipDriver) (sender : BacnetIpAddress)
    (mpdu : List UInt8) (src : Source) : Prop where
  type : mpdu.head? = some bvllTypeBacnetIp
  source : src =
    ((if replies.unicastReady then handlers.unicast else handlers.broadcast) sender mpdu).2
  delivered : ∀ offset : ℕ,
    ((if replies.unicastReady then handlers.unicast else handlers.broadcast) sender mpdu).1 =
      offset → 1 ≤ offset → offset ≤ mpdu.length →
    (bipReceive handlers npdu maxNpdu replies driver).npduLen = mpdu.length - offset ∧
      (bipReceive handlers npdu maxNpdu replies driver).npdu.take (mpdu.length - offset) =
        mpdu.drop offset

theorem handled_of_took (binds : NodeBinds system) {handlers : BvlcHandlers Source}
    {npdu : List UInt8} {maxNpdu : UInt16} (small : maxNpdu.toNat ≤ 1536)
    {replies : ReceiveReplies} {src : Source}
    (stored : (bipReceive handlers npdu maxNpdu replies system.driver).src = some src)
    {datagram : Datagram SockaddrIn} (took : Took system maxNpdu replies datagram) :
    Handled handlers npdu maxNpdu replies system.driver
      { address := datagram.source.sinAddr, port := ntohs datagram.source.sinPort }
      (datagram.payload.take maxNpdu.toNat) src := by
  rcases bipReceive_stored stored with ⟨opened, ready, received⟩
  have nonempty : replies.datagram ≠ [] := by
    intro empty
    have length := took.length
    rw [empty, List.length_nil] at length
    omega
  have fits : replies.datagram.length ≤ maxNpdu.toNat := by
    rw [took.payload]
    exact List.length_take_le _ _
  have reception : BipReception maxNpdu system.driver replies
      { address := datagram.source.sinAddr, port := ntohs datagram.source.sinPort } :=
    { opened
      distinct := binds.distinct opened
      received := ⟨ready, took.length, nonempty, fits⟩
      network := by rw [took.source, SockaddrIn.ext_htons] }
  let handler := if replies.unicastReady then handlers.unicast else handlers.broadcast
  let other := if replies.unicastReady then handlers.broadcast else handlers.unicast
  have same : BvlcHandlers.onSocket replies.unicastReady handler other = handlers := by
    simp only [handler, other]
    cases replies.unicastReady with
    | true => rfl
    | false => rfl
  have delivers := bipReceive_delivers small reception npdu other
  rw [took.payload] at delivers
  have type : (datagram.payload.take maxNpdu.toNat).head? = some bvllTypeBacnetIp := by
    by_contra foreign
    have dropped := (delivers.foreign foreign handler).2
    rw [same, stored] at dropped
    cases dropped
  refine { type, source := ?_, delivered := ?_ }
  · have handled := delivers.handled handler type
    rw [same, stored, Option.some.injEq] at handled
    exact handled
  · intro offset header positive inside
    have delivered := delivers.delivered handler offset type header positive inside
    rw [same] at delivered
    exact delivered

/-- A datagram for the address of a node has the socket of the node as its destination. -/
theorem HasAddress.reply {address : BacnetIpAddress} (has : HasAddress system address)
    (answer : List UInt8) (answerLen : UInt16) (sendto : ℤ) {replier : BipDriver}
    (opened : 0 ≤ replier.bipSocket) :
    ∃ request, (bipSendMpdu address answer answerLen sendto replier).2 = some request ∧
      request.mtu = answer.take answerLen.toNat ∧
      (system.driver.bipSocket, request.bipDest) ∈ system.sockets.bound := by
  simp only [bipSendMpdu, if_neg (Int.not_lt.mpr opened)]
  exact ⟨_, rfl, rfl, has.bound⟩

/-- A settled node has the address that `bip_get_addr` gives, and no other. -/
theorem HasAddress.eq_bipGetAddr {address : BacnetIpAddress} (has : HasAddress system address)
    (binds : NodeBinds system) (settled : Settled system) :
    bipGetAddr system.driver = address := by
  have same := binds.table.single _ _ _ has.bound (settled has.opened)
  rw [SockaddrIn.mk.injEq] at same
  simp only [bipGetAddr, ← same.1, ← same.2, ntohs_htons]

/-- No node has opened a socket. -/
def NotStarted {Node : Type} (nodes : Node → BipSystem) : Prop :=
  ∀ node, ∃ port address broadcast, nodes node = BipSystem.initial port address broadcast

section Network

variable {Node : Type} [DecidableEq Node] {nodes : Node → (bipHost config Source).State}
  {taken : List (Taken (Network (bipHost config Source) Node)
    (Node × (bipHost config Source).Call))}
  {last : Network (bipHost config Source) Node}

/-- Every node keeps its sockets bound, whatever the others do. -/
theorem bipNetwork_binds (initial : NotStarted nodes)
    (run : Run Step (Network.initial nodes) taken last) (node : Node) :
    NodeBinds (last.nodes node) := by
  apply @forall_nodes _ _ _ _ _ _ _ NodeBinds _ _ run
  · intro node
    rcases initial node with ⟨port, address, broadcast, equal⟩
    rw [equal]
    exact NodeBinds.initial port address broadcast
  · rintro before move after binds ⟨fresh, rfl⟩
    exact BipNodeCall.after_binds binds fresh

/-- Every node has the address that `bip_get_addr` gives, if none changes it at work. -/
theorem bipNetwork_settled (initial : NotStarted nodes)
    (run : Run Step (Network.initial nodes) taken last)
    (sets : ∀ step ∈ taken, SetsWhileClosed (step.before.nodes step.label.1) step.label.2)
    (node : Node) : Settled (last.nodes node) := by
  have both : NodeBinds (last.nodes node) ∧ Settled (last.nodes node) := by
    apply @forall_nodes_of_forall _ _ _ _ _ _ _
      (fun system => NodeBinds system ∧ Settled system) SetsWhileClosed _ _ run sets
    · intro node
      rcases initial node with ⟨port, address, broadcast, equal⟩
      rw [equal]
      refine ⟨NodeBinds.initial port address broadcast, ?_⟩
      intro opened
      exact absurd opened (by simp [BipSystem.initial])
    · rintro before move after ⟨binds, settled⟩ ⟨fresh, rfl⟩ closed
      exact ⟨BipNodeCall.after_binds binds fresh,
        BipNodeCall.after_settled binds settled fresh closed⟩
  exact both.2

end Network

/--
Whatever the network does, a BVLC handler is only called with what a node has sent before,
on the socket it was sent to, and with the address of that node, to which it can reply.
-/
theorem bipNetwork_authentic {Node : Type} [DecidableEq Node]
    {nodes : Node → (bipHost config Source).State}
    (initial : NotStarted nodes)
    {early late : List (Taken (Network (bipHost config Source) Node)
      (Node × (bipHost config Source).Call))}
    {transition : Taken (Network (bipHost config Source) Node)
      (Node × (bipHost config Source).Call)}
    {last : Network (bipHost config Source) Node}
    (run : Run Step (Network.initial nodes) (early ++ transition :: late) last)
    {handlers : BvlcHandlers Source} {npdu : List UInt8} {maxNpdu : UInt16}
    {replies : ReceiveReplies}
    (call : transition.label.2 = BipNodeCall.receive handlers npdu maxNpdu replies)
    (small : maxNpdu.toNat ≤ 1536) :
    let receiver : BipSystem := transition.before.nodes transition.label.1
    ∀ src, (bipReceive handlers npdu maxNpdu replies receiver.driver).src = some src →
      ∃ sending ∈ early, ∃ (sender dest : BacnetIpAddress) (mpdu : List UInt8),
        let node : BipSystem := sending.before.nodes sending.label.1
        SentBy node sending.label.2 sender dest mpdu ∧
          Handled handlers npdu maxNpdu replies receiver.driver sender
            (mpdu.take maxNpdu.toNat) src ∧
          AddressedTo receiver replies.unicastReady dest ∧
          (∀ answer answerLen sendto, ∃ request,
            (bipSendMpdu sender answer answerLen sendto receiver.driver).2 = some request ∧
              request.mtu = answer.take answerLen.toNat ∧
              (node.driver.bipSocket, request.bipDest) ∈ node.sockets.bound) ∧
          ((∀ step ∈ early, SetsWhileClosed (step.before.nodes step.label.1) step.label.2) →
            bipGetAddr node.driver = sender) := by
  intro receiver src stored
  have reached := run.split.1
  rcases received_was_sent run with ⟨received, takes, sent⟩
  rw [call] at takes
  rcases bipReceive_stored stored with ⟨opened, ready, some⟩
  cases received with
  | none =>
      have nothing : replies.select ≤ 0 ∨ replies.recvfrom ≤ 0 := takes
      omega
  | some datagram =>
      have took : Took receiver maxNpdu replies datagram := takes
      rcases sent datagram rfl with ⟨sending, before, emits⟩
      rcases List.append_of_mem before with ⟨first, rest, split⟩
      rw [split] at reached
      have sendingRun := reached.split.1
      have senderBinds := bipNetwork_binds initial sendingRun sending.label.1
      have receiverBinds := bipNetwork_binds initial run.split.1 transition.label.1
      rcases sentBy_of_emits emits with ⟨dest, destination, sentBy⟩
      rcases took.accepted with ⟨bound, mem, accepts⟩
      rw [destination] at accepts
      refine ⟨sending, before, _, dest, _, sentBy,
        handled_of_took receiverBinds small stored took,
        receiverBinds.addressedTo mem accepts, ?_, ?_⟩
      · intro answer answerLen sendto
        exact sentBy.address.reply answer answerLen sendto opened
      · intro sets
        apply sentBy.address.eq_bipGetAddr senderBinds
        apply bipNetwork_settled initial sendingRun
        intro step mem
        apply sets
        rw [split]
        exact List.mem_append_left _ mem

end Authentic

/-! ## Two nodes -/

def BipConfig.static : BipConfig where
  netDhcpv4 := false
  addressIndex := none
  maxIpv4Addr := 1

/-- Two nodes with the addresses 192.168.0.7 and 192.168.0.8. -/
def twoNodes (node : Bool) : BipSystem :=
  .initial (htons 0xBAC0) ⟨192, 168, 0, if node then 8 else 7⟩ ⟨192, 168, 0, 255⟩

def BipInitReplies.threeFour : BipInitReplies where
  network := { byIndex := fun _ => none, default := none }
  unicast := { socket := 3, setsockopt := 0, bind := 0 }
  broadcast := { socket := 4, setsockopt := 0, bind := 0 }

/-- Three bytes in an original unicast NPDU. -/
def unicastMpdu : List UInt8 := [0x81, 0x0a, 0x00, 0x07, 1, 2, 3]

def ReceiveReplies.fromSeven : ReceiveReplies where
  select := 1
  unicastReady := true
  recvfrom := 7
  datagram := unicastMpdu
  sin := { sinPort := htons 0xBAC0, sinAddr := ⟨192, 168, 0, 7⟩ }

/-- Handlers that store the sender and strip a header of four octets. -/
def BvlcHandlers.keepSender : BvlcHandlers BacnetIpAddress where
  unicast sender _ := (4, sender)
  broadcast sender _ := (4, sender)

abbrev TwoNodes := Network (bipHost .static BacnetIpAddress) Bool

/-- Both nodes start, the first sends to the second, and the second receives. -/
theorem twoNodes_run :
    ∃ early transition last,
      Run Step (Network.initial twoNodes : TwoNodes) (early ++ transition :: []) last ∧
      transition.label = (true, .receive .keepSender [] 1506 .fromSeven) ∧
      transition.before.nodes true = (bipInit .static none .threeFour (twoNodes true)).1 ∧
      ∀ step ∈ early, SetsWhileClosed (step.before.nodes step.label.1) step.label.2 := by
  let init : BipNodeCall BacnetIpAddress := .init none .threeFour
  let send : BipNodeCall BacnetIpAddress :=
    .send { address := ⟨192, 168, 0, 8⟩, port := 0xBAC0 } unicastMpdu 7 7
  let receive : BipNodeCall BacnetIpAddress := .receive .keepSender [] 1506 .fromSeven
  let node (index : Bool) : BipSystem := init.after .static (twoNodes index)
  let datagram : Datagram SockaddrIn :=
    { source := { sinPort := htons 0xBAC0, sinAddr := ⟨192, 168, 0, 7⟩ }
      destination := { sinPort := htons 0xBAC0, sinAddr := ⟨192, 168, 0, 8⟩ }
      payload := unicastMpdu }
  have fresh : ∀ index, init.Fresh (twoNodes index) := by
    intro index
    constructor
    · intro _ opened
      cases opened
    · intro _ _
      show (4 : ℤ) ∉ insert (3 : ℤ) (∅ : Finset ℤ)
      decide
  let zero : TwoNodes := Network.initial twoNodes
  let one : TwoNodes := ⟨Function.update zero.nodes false (node false), zero.inFlight ++ []⟩
  let two : TwoNodes := ⟨Function.update one.nodes true (node true), one.inFlight ++ []⟩
  let three : TwoNodes :=
    ⟨Function.update two.nodes false (node false), two.inFlight ++ [datagram]⟩
  let four : TwoNodes :=
    ⟨Function.update three.nodes true (node true), three.inFlight ++ []⟩
  have first : Step zero (false, init) one :=
    .call ⟨fresh false, rfl⟩ rfl (fun _ none => by cases none) (fun _ none => by cases none)
  have second : Step one (true, init) two :=
    .call ⟨fresh true, rfl⟩ rfl (fun _ none => by cases none) (fun _ none => by cases none)
  have third : Step two (false, send) three := by
    apply @Step.call _ _ _ _ two false send (node false) none [datagram] ⟨trivial, rfl⟩ rfl
    · intro arrived none
      cases none
    · intro sent mem
      rw [List.mem_singleton.mp mem]
      exact ⟨_, rfl, List.mem_cons_of_mem _ List.mem_cons_self, rfl, rfl⟩
  have fourth : Step three (true, receive) four := by
    have took : Took (node true) 1506 .fromSeven datagram :=
      { ready := by decide, length := by decide, source := rfl, payload := rfl
        accepted := ⟨datagram.destination, List.mem_cons_of_mem _ List.mem_cons_self,
          Or.inl rfl⟩ }
    apply @Step.call _ _ _ _ three true receive (node true) (some datagram) [] ⟨trivial, rfl⟩ took
    · intro arrived same
      rw [← Option.some.inj same]
      exact List.mem_append_right two.inFlight (List.mem_singleton_self datagram)
    · intro sent none
      cases none
  refine ⟨_, _, _, (((Run.start.next first).next second).next third).next fourth, rfl, rfl, ?_⟩
  simp only [List.forall_mem_append, List.forall_mem_singleton]
  exact ⟨⟨⟨by simp, trivial⟩, trivial⟩, trivial⟩

/-- What the second node hears comes from the first, with the address the first has. -/
theorem bipNetwork_authentic_twoNodes :
    ∃ early transition last,
      Run Step (Network.initial twoNodes : TwoNodes) (early ++ transition :: []) last ∧
      ∃ sending ∈ early, ∃ (sender dest : BacnetIpAddress) (mpdu : List UInt8),
        SentBy (sending.before.nodes sending.label.1) sending.label.2 sender dest mpdu ∧
          sender = { address := ⟨192, 168, 0, 7⟩, port := 0xBAC0 } ∧
          bipGetAddr (sending.before.nodes sending.label.1 : BipSystem).driver = sender := by
  rcases twoNodes_run with ⟨early, transition, last, run, label, node, sets⟩
  refine ⟨early, transition, last, run, ?_⟩
  have initial : NotStarted twoNodes := fun _ => ⟨_, _, _, rfl⟩
  have call : transition.label.2 =
      BipNodeCall.receive BvlcHandlers.keepSender [] 1506 .fromSeven := by rw [label]
  have mover : transition.label.1 = true := by rw [label]
  have authentic := bipNetwork_authentic initial run call (by decide)
  rw [mover, node] at authentic
  rcases authentic { address := ⟨192, 168, 0, 7⟩, port := 0xBAC0 } rfl with
    ⟨sending, mem, sender, dest, mpdu, sentBy, handled, _, _, settled⟩
  exact ⟨sending, mem, sender, dest, mpdu, sentBy, handled.source.symm, settled sets⟩

end BacnetZephyr
