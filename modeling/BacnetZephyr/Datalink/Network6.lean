import BacnetZephyr.Datalink.Receive
import BacnetZephyr.Foundation.Datagrams

/-!
# BACnet/IPv6 nodes on a network

The nodes of `Datalink/Network.lean` for the other datalink. A node has one socket, bound to
all its addresses and in one multicast group. `bip6_send_mpdu` takes an address apart into
eight numbers and puts it together again, and so does `bip6_receive`.

`bip6Network_authentic` says what the BVLC handler is called with on any such network.
-/

namespace BacnetZephyr

open CLib Transition Datagrams

/-! ## Ports and addresses -/

def bip6GetPort (driver : Bip6Driver) : UInt16 := driver.bip6Addr.port

/-- `bvlc6_address_copy` to the address of the driver. -/
def bip6SetAddr (addr : Option BacnetIp6Address) (driver : Bip6Driver) : Bip6Driver × Bool :=
  match addr with
  | some addr => ({ driver with bip6Addr := addr }, true)
  | none => (driver, false)

def bip6SetBroadcastAddr (addr : Option BacnetIp6Address) (driver : Bip6Driver) :
    Bip6Driver × Bool :=
  match addr with
  | some addr => ({ driver with bip6BroadcastAddr := addr }, true)
  | none => (driver, false)

/-! ## Sending -/

/-- The address whose eight numbers in memory, `s6_addr16`, are these, on a little-endian host. -/
def in6AddrOf (addr16 : ℕ → UInt16) : In6Addr :=
  Vector.ofFn fun place =>
    if place.val % 2 = 0 then UInt8.ofNat ((addr16 (place.val / 2)).toNat % 256)
    else UInt8.ofNat ((addr16 (place.val / 2)).toNat / 256)

/-- The datagram that `bip6_send_mpdu` asks `zsock_sendto` to send, and from which socket. -/
structure Sendto6Request where
  socket : ℤ
  mtu : List UInt8
  bvlcDest : SockaddrIn6
  sin6ScopeId : ℤ
deriving DecidableEq, Repr

/-- `bip6_send_mpdu`: the result, which may be that of `zsock_sendto`, and the request. -/
def bip6SendMpdu (library : Bvlc6Addresses) (dest : BacnetIp6Address) (mtu : List UInt8)
    (mtuLen : UInt16) (sendto : ℤ) (driver : Bip6Driver) : ℤ × Option Sendto6Request :=
  if driver.bip6Socket < 0 then (driver.bip6Socket, none)
  else
    (sendto, some
      { socket := driver.bip6Socket
        mtu := mtu.take mtuLen.toNat
        bvlcDest :=
          { sin6Port := htons dest.port
            sin6Addr := in6AddrOf fun index => htons (library.bvlc6AddressGet dest.address index) }
        sin6ScopeId := driver.bip6SocketScopeId })

/-- A number in network order has its bytes exchanged. -/
theorem toNat_htons_bytes {value : UInt16} {high low : ℕ} (lowByte : low < 256)
    (bytes : value.toNat = high * 256 + low) :
    (htons value).toNat = low * 256 + high := by
  rw [toNat_htons, bytes]
  omega

/-- The numbers of an address in network order make the address again. -/
theorem in6AddrOf_bvlc6AddressGet (library : Bvlc6Addresses) (address : In6Addr) :
    (in6AddrOf fun index => htons (library.bvlc6AddressGet address index)) = address := by
  apply in6Addr_ext
  · intro index below
    have low := (address.toList.getD (2 * index + 1) 0).toNat_lt
    have word := toNat_htons_bytes low (library.number address index below)
    have position : 2 * index / 2 = index := by omega
    rw [getD_toList _ (by omega), in6AddrOf, Vector.getElem_ofFn]
    dsimp only
    rw [if_pos (by omega), position, word]
    have high := (address.toList.getD (2 * index) 0).toNat_lt
    have first : ((address.toList.getD (2 * index + 1) 0).toNat * 256 +
        (address.toList.getD (2 * index) 0).toNat) % 256 =
          (address.toList.getD (2 * index) 0).toNat := by omega
    rw [first, UInt8.ofNat_toNat]
  · intro index below
    have low := (address.toList.getD (2 * index + 1) 0).toNat_lt
    have word := toNat_htons_bytes low (library.number address index below)
    have position : (2 * index + 1) / 2 = index := by omega
    rw [getD_toList _ (by omega), in6AddrOf, Vector.getElem_ofFn]
    dsimp only
    rw [if_neg (by omega), position, word]
    have high := (address.toList.getD (2 * index) 0).toNat_lt
    have second : ((address.toList.getD (2 * index + 1) 0).toNat * 256 +
        (address.toList.getD (2 * index) 0).toNat) / 256 =
          (address.toList.getD (2 * index + 1) 0).toNat := by omega
    rw [second, UInt8.ofNat_toNat]

/-- The destination is the address in network order. -/
theorem bip6SendMpdu_of_open (library : Bvlc6Addresses) {driver : Bip6Driver}
    (opened : 0 ≤ driver.bip6Socket) (dest : BacnetIp6Address) (mtu : List UInt8)
    (mtuLen : UInt16) (sendto : ℤ) :
    bip6SendMpdu library dest mtu mtuLen sendto driver =
      (sendto, some
        { socket := driver.bip6Socket
          mtu := mtu.take mtuLen.toNat
          bvlcDest := { sin6Port := htons dest.port, sin6Addr := dest.address }
          sin6ScopeId := driver.bip6SocketScopeId }) := by
  rw [bip6SendMpdu, if_neg (Int.not_lt.mpr opened), in6AddrOf_bvlc6AddressGet]

/-! ## Nodes -/

variable {Source : Type}

inductive Bip6NodeCall (Source : Type) where
  | setPort (port : UInt16)
  | setAddr (addr : Option BacnetIp6Address)
  | setBroadcastAddr (addr : Option BacnetIp6Address)
  | init (ifname : Option CString) (replies : Bip6InitReplies)
  | cleanup
  | send (dest : BacnetIp6Address) (mtu : List UInt8) (mtuLen : UInt16) (sendto : ℤ)
  | receive (bvlc6Handler : Bvlc6Handler Source) (npdu : List UInt8) (maxNpdu : UInt16)
      (replies : Receive6Replies)

def Bip6NodeCall.after (config : Bip6Config) (system : Bip6System) :
    Bip6NodeCall Source → Bip6System
  | setPort port => { system with driver := bip6SetPort port system.driver }
  | setAddr addr => { system with driver := (bip6SetAddr addr system.driver).1 }
  | setBroadcastAddr addr => { system with driver := (bip6SetBroadcastAddr addr system.driver).1 }
  | init ifname replies => (bip6Init config ifname replies system).1
  | cleanup => bip6Cleanup system
  | send _ _ _ _ | receive _ _ _ _ => system

/-- A new socket gets a descriptor that is not open. -/
def Bip6NodeCall.Fresh (system : Bip6System) : Bip6NodeCall Source → Prop
  | init _ replies => 0 ≤ replies.socket → replies.socket ∉ system.sockets.opened
  | setPort _ | setAddr _ | setBroadcastAddr _ | cleanup | send _ _ _ _ | receive _ _ _ _ => True

/-- A datagram that is too long for the buffer loses its end. -/
structure Took6 (system : Bip6System) (maxNpdu : UInt16) (replies : Receive6Replies)
    (datagram : Datagram SockaddrIn6) : Prop where
  ready : 0 < replies.select
  length : replies.recvfrom = replies.datagram.length
  source : replies.sin = datagram.source
  payload : replies.datagram = datagram.payload.take maxNpdu.toNat
  accepted : ∃ bound, (system.driver.bip6Socket, bound) ∈ system.sockets.bound ∧
    bound.sin6Port = datagram.destination.sin6Port ∧
    (bound.sin6Addr = in6addrAny ∨ bound.sin6Addr = datagram.destination.sin6Addr)

/--
The nodes of the network. `zsock_sendto` sends from the port its socket is bound to, and
from an address of the node.
-/
def bip6Host (library : Bvlc6Addresses) (config : Bip6Config) (Source : Type) :
    Host SockaddrIn6 where
  State := Bip6System
  Call := Bip6NodeCall Source
  moves system call after := call.Fresh system ∧ after = call.after config system
  emits system call datagram :=
    match call with
    | .send dest mtu mtuLen sendto =>
        ∃ request, (bip6SendMpdu library dest mtu mtuLen sendto system.driver).2 = some request ∧
          (∀ bound, (request.socket, bound) ∈ system.sockets.bound →
            datagram.source.sin6Port = bound.sin6Port) ∧
          datagram.destination = request.bvlcDest ∧ datagram.payload = request.mtu
    | _ => False
  takes system call received :=
    match call with
    | .receive _ _ maxNpdu replies =>
        match received with
        | none => replies.select ≤ 0 ∨ replies.recvfrom ≤ 0
        | some datagram => Took6 system maxNpdu replies datagram
    | _ => received = none

/-! ## Sockets and what they are bound to -/

/-- Only open sockets are bound. -/
structure Socket6Table.Binds (table : Socket6Table) : Prop where
  opened : ∀ entry ∈ table.bound, entry.1 ∈ table.opened
  nonneg : ∀ sockFd ∈ table.opened, 0 ≤ sockFd

/-- The socket, if it is bound, is bound to the port that `bip6_get_port` gives. -/
def Settled6 (system : Bip6System) : Prop :=
  ∀ bound, (system.driver.bip6Socket, bound) ∈ system.sockets.bound →
    bound.sin6Port = htons (bip6GetPort system.driver)

/-- The port and the address of a node are set while its socket is closed. -/
def Sets6WhileClosed (system : Bip6System) : Bip6NodeCall Source → Prop
  | .setPort _ | .setAddr _ => system.driver.bip6Socket < 0
  | .setBroadcastAddr _ | .init _ _ | .cleanup | .send _ _ _ _ | .receive _ _ _ _ => True

section Nodes

variable {config : Bip6Config} {system : Bip6System} {table : Socket6Table} {sockFd : ℤ}

theorem Socket6Table.Binds.nonneg_of_bound (binds : table.Binds) {bound : SockaddrIn6}
    (mem : (sockFd, bound) ∈ table.bound) : 0 ≤ sockFd :=
  binds.nonneg _ (binds.opened _ mem)

theorem Socket6Table.Binds.zsockClose (binds : table.Binds) (sockFd : ℤ) :
    (table.zsockClose sockFd).Binds where
  opened := by
    intro entry mem
    rw [Socket6Table.zsockClose, List.mem_filter, decide_eq_true_eq] at mem
    exact Finset.mem_erase.mpr ⟨mem.2, binds.opened entry mem.1⟩
  nonneg := by
    intro other mem
    exact binds.nonneg other (Finset.mem_of_mem_erase mem)

theorem Socket6Table.Binds.zsockSocket (binds : table.Binds) (created : 0 ≤ sockFd) :
    (table.zsockSocket sockFd).Binds where
  opened entry mem := Finset.mem_insert_of_mem (binds.opened entry mem)
  nonneg := by
    intro other mem
    rcases Finset.mem_insert.mp mem with rfl | old
    · exact created
    · exact binds.nonneg other old

/-- A socket that has just been created is not bound. -/
theorem Socket6Table.Binds.unbound (binds : table.Binds) (fresh : sockFd ∉ table.opened)
    (bound : SockaddrIn6) : (sockFd, bound) ∉ table.bound :=
  fun mem => fresh (binds.opened _ mem)

/-- What `bip6_init` leaves of a node; its socket is new, so its port is the one it is bound to. -/
theorem bip6Init_settled (binds : system.sockets.Binds) {ifname : Option CString}
    {replies : Bip6InitReplies}
    (fresh : 0 ≤ replies.socket → replies.socket ∉ system.sockets.opened) :
    (bip6Init config ifname replies system).1.sockets.Binds ∧
      Settled6 (bip6Init config ifname replies system).1 := by
  simp only [bip6Init]
  split
  · rename_i failed
    refine ⟨binds, ?_⟩
    intro bound mem
    exact absurd (binds.nonneg_of_bound mem) (Int.not_le.mpr failed)
  · rename_i created
    have positive : 0 ≤ replies.socket := Int.not_lt.mp created
    have unbound := binds.unbound (fresh positive)
    have socket := binds.zsockSocket positive
    split
    · refine ⟨socket, ?_⟩
      intro bound mem
      exact absurd mem (unbound bound)
    · split
      · have closed := socket.zsockClose replies.socket
        refine ⟨⟨closed.opened, closed.nonneg⟩, ?_⟩
        intro bound mem
        have impossible : (0 : ℤ) ≤ -1 := closed.nonneg_of_bound mem
        omega
      · refine ⟨⟨?_, socket.nonneg⟩, ?_⟩
        · intro entry mem
          rcases List.mem_cons.mp mem with rfl | old
          · exact Finset.mem_insert_self _ _
          · exact socket.opened entry old
        · intro bound mem
          rcases List.mem_cons.mp mem with new | old
          · rw [Prod.mk.injEq] at new
            rw [new.2]
            rfl
          · exact absurd old (unbound bound)

theorem bip6Cleanup_binds (binds : system.sockets.Binds) : (bip6Cleanup system).sockets.Binds := by
  simp only [bip6Cleanup]
  split
  · exact binds.zsockClose _
  · exact binds

/-- The step lemma: only open sockets are bound. -/
theorem Bip6NodeCall.after_binds (binds : system.sockets.Binds) {call : Bip6NodeCall Source}
    (fresh : call.Fresh system) : (call.after config system).sockets.Binds := by
  cases call with
  | setPort port | setAddr addr | setBroadcastAddr addr => exact binds
  | init ifname replies => exact (bip6Init_settled binds fresh).1
  | cleanup => exact bip6Cleanup_binds binds
  | send dest mtu mtuLen sendto => exact binds
  | receive handler npdu maxNpdu replies => exact binds

/-- The step lemma for a port and an address that are set while the socket is closed. -/
theorem Bip6NodeCall.after_settled (binds : system.sockets.Binds) (settled : Settled6 system)
    {call : Bip6NodeCall Source} (fresh : call.Fresh system) (sets : Sets6WhileClosed system call) :
    Settled6 (call.after config system) := by
  cases call with
  | setPort port =>
      intro bound mem
      exact absurd sets (Int.not_lt.mpr (binds.nonneg_of_bound mem))
  | setAddr addr =>
      cases addr with
      | none => exact settled
      | some addr =>
          intro bound mem
          exact absurd sets (Int.not_lt.mpr (binds.nonneg_of_bound mem))
  | setBroadcastAddr addr =>
      cases addr with
      | none => exact settled
      | some addr => exact settled
  | init ifname replies => exact (bip6Init_settled binds fresh).2
  | cleanup =>
      intro bound mem
      have impossible : (0 : ℤ) ≤ -1 := (bip6Cleanup_binds binds).nonneg_of_bound mem
      omega
  | send dest mtu mtuLen sendto => exact settled
  | receive handler npdu maxNpdu replies => exact settled

end Nodes

/-! ## What the handler is called with -/

/-- The node has sent the bytes to `dest`, and the network shows `sender` as where from. -/
structure Sent6By (system : Bip6System) (call : Bip6NodeCall Source)
    (sender dest : BacnetIp6Address) (mpdu : List UInt8) : Prop where
  call : ∃ mtu mtuLen sendto, call = .send dest mtu mtuLen sendto ∧ mpdu = mtu.take mtuLen.toNat
  opened : 0 ≤ system.driver.bip6Socket
  port : ∀ bound, (system.driver.bip6Socket, bound) ∈ system.sockets.bound →
    bound.sin6Port = htons sender.port

/-- What `bip6_receive` makes of a datagram it has taken from the network. -/
structure Handled6 (bvlc6Handler : Bvlc6Handler Source) (npdu : List UInt8) (maxNpdu : UInt16)
    (replies : Receive6Replies) (driver : Bip6Driver) (sender : BacnetIp6Address)
    (mpdu : List UInt8) (src : Source) : Prop where
  type : mpdu.head? = some bvllTypeBacnetIp6
  source : src = (bvlc6Handler sender mpdu).2
  delivered : ∀ offset : ℕ, (bvlc6Handler sender mpdu).1 = offset → 1 ≤ offset →
    offset ≤ mpdu.length →
    (bip6Receive bvlc6Handler npdu maxNpdu replies driver).npduLen = mpdu.length - offset ∧
      (bip6Receive bvlc6Handler npdu maxNpdu replies driver).npdu.take (mpdu.length - offset) =
        mpdu.drop offset

/-- No node has opened a socket. -/
def NotStarted6 {Node : Type} (nodes : Node → Bip6System) : Prop :=
  ∀ node, ∃ scopeId address broadcast, nodes node = Bip6System.initial scopeId address broadcast

section Authentic

variable {library : Bvlc6Addresses} {config : Bip6Config} {system : Bip6System}

theorem SockaddrIn6.ext_htons (sin : SockaddrIn6) :
    ({ sin6Port := htons (ntohs sin.sin6Port), sin6Addr := sin.sin6Addr } : SockaddrIn6) = sin := by
  rw [htons_ntohs]

/-- Only a call that sends emits, from the port of the node. -/
theorem sent6By_of_emits {call : Bip6NodeCall Source} {datagram : Datagram SockaddrIn6}
    (emits : (bip6Host library config Source).emits system call datagram) :
    ∃ dest : BacnetIp6Address,
      datagram.destination = { sin6Port := htons dest.port, sin6Addr := dest.address } ∧
      Sent6By system call
        { address := datagram.source.sin6Addr, port := ntohs datagram.source.sin6Port } dest
        datagram.payload := by
  cases call with
  | send dest mtu mtuLen sendto =>
      rcases emits with ⟨request, asked, port, destination, payload⟩
      by_cases opened : 0 ≤ system.driver.bip6Socket
      · rw [bip6SendMpdu_of_open library opened, Option.some.injEq] at asked
        subst asked
        refine ⟨dest, destination, ⟨_, _, _, rfl, payload⟩, opened, ?_⟩
        intro bound mem
        rw [← port bound mem, htons_ntohs]
      · rw [bip6SendMpdu, if_pos (Int.not_le.mp opened)] at asked
        cases asked
  | setPort port | setAddr addr | setBroadcastAddr addr | cleanup => exact absurd emits id
  | init ifname replies => exact absurd emits id
  | receive handler npdu maxNpdu replies => exact absurd emits id

/-- A call of `bip6_receive` that stores a source has received a datagram. -/
theorem bip6Receive_stored {bvlc6Handler : Bvlc6Handler Source} {npdu : List UInt8}
    {maxNpdu : UInt16} {replies : Receive6Replies} {driver : Bip6Driver} {src : Source}
    (stored : (bip6Receive bvlc6Handler npdu maxNpdu replies driver).src = some src) :
    0 ≤ driver.bip6Socket ∧ 0 < replies.select ∧ 0 < replies.recvfrom := by
  unfold bip6Receive at stored
  dsimp only at stored
  split at stored
  · cases stored
  · rename_i opened
    split at stored
    · cases stored
    · rename_i ready
      split at stored
      · cases stored
      · rename_i received
        exact ⟨by omega, by omega, by omega⟩

theorem handled6_of_took {bvlc6Handler : Bvlc6Handler Source} {npdu : List UInt8}
    {maxNpdu : UInt16} (small : maxNpdu.toNat ≤ 1536) {replies : Receive6Replies} {src : Source}
    (stored : (bip6Receive bvlc6Handler npdu maxNpdu replies system.driver).src = some src)
    {datagram : Datagram SockaddrIn6} (took : Took6 system maxNpdu replies datagram) :
    Handled6 bvlc6Handler npdu maxNpdu replies system.driver
      { address := datagram.source.sin6Addr, port := ntohs datagram.source.sin6Port }
      (datagram.payload.take maxNpdu.toNat) src := by
  rcases bip6Receive_stored stored with ⟨opened, ready, received⟩
  have nonempty : replies.datagram ≠ [] := by
    intro empty
    have length := took.length
    rw [empty, List.length_nil] at length
    omega
  have fits : replies.datagram.length ≤ maxNpdu.toNat := by
    rw [took.payload]
    exact List.length_take_le _ _
  have reception : Bip6Reception maxNpdu system.driver replies
      { address := datagram.source.sin6Addr, port := ntohs datagram.source.sin6Port } :=
    { opened
      received := ⟨ready, took.length, nonempty, fits⟩
      network := by rw [took.source, SockaddrIn6.ext_htons] }
  have delivers := @bip6Receive_delivers Source _ small _ _ _ reception npdu
  rw [took.payload] at delivers
  have type : (datagram.payload.take maxNpdu.toNat).head? = some bvllTypeBacnetIp6 := by
    by_contra foreign
    have dropped := (delivers.foreign foreign bvlc6Handler).2
    rw [stored] at dropped
    cases dropped
  refine { type, source := ?_, delivered := ?_ }
  · have handled := delivers.handled bvlc6Handler type
    rw [stored, Option.some.injEq] at handled
    exact handled
  · intro offset header positive inside
    exact delivers.delivered bvlc6Handler offset type header positive inside

section Network

variable {Node : Type} [DecidableEq Node] {nodes : Node → (bip6Host library config Source).State}
  {taken : List (Taken (Network (bip6Host library config Source) Node)
    (Node × (bip6Host library config Source).Call))}
  {last : Network (bip6Host library config Source) Node}

theorem Bip6System.initial_binds (scopeId : ℤ) (address broadcast : BacnetIp6Address) :
    (Bip6System.initial scopeId address broadcast).sockets.Binds :=
  ⟨by simp [Bip6System.initial], by simp [Bip6System.initial]⟩

/-- Every node has the port that `bip6_get_port` gives, if none changes it at work. -/
theorem bip6Network_settled (initial : NotStarted6 nodes)
    (run : Run Step (Network.initial nodes) taken last)
    (sets : ∀ step ∈ taken, Sets6WhileClosed (step.before.nodes step.label.1) step.label.2)
    (node : Node) : Settled6 (last.nodes node) := by
  have both : Socket6Table.Binds (last.nodes node : Bip6System).sockets ∧
      Settled6 (last.nodes node) := by
    apply @forall_nodes_of_forall _ _ _ _ _ _ _
      (fun system : Bip6System => system.sockets.Binds ∧ Settled6 system) Sets6WhileClosed _ _ run
      sets
    · intro node
      rcases initial node with ⟨scopeId, address, broadcast, equal⟩
      rw [equal]
      refine ⟨Bip6System.initial_binds scopeId address broadcast, ?_⟩
      intro bound mem
      cases mem
    · rintro before move after ⟨binds, settled⟩ ⟨fresh, rfl⟩ closed
      exact ⟨Bip6NodeCall.after_binds binds fresh,
        Bip6NodeCall.after_settled binds settled fresh closed⟩
  exact both.2

end Network

/--
Whatever the network does, the BVLC handler is only called with what a node has sent before,
to the port the receiver is bound to, and with the address it was sent from, to which the
receiver can reply.
-/
theorem bip6Network_authentic {Node : Type} [DecidableEq Node]
    {nodes : Node → (bip6Host library config Source).State} (initial : NotStarted6 nodes)
    {early late : List (Taken (Network (bip6Host library config Source) Node)
      (Node × (bip6Host library config Source).Call))}
    {transition : Taken (Network (bip6Host library config Source) Node)
      (Node × (bip6Host library config Source).Call)}
    {last : Network (bip6Host library config Source) Node}
    (run : Run Step (Network.initial nodes) (early ++ transition :: late) last)
    {bvlc6Handler : Bvlc6Handler Source} {npdu : List UInt8} {maxNpdu : UInt16}
    {replies : Receive6Replies}
    (call : transition.label.2 = Bip6NodeCall.receive bvlc6Handler npdu maxNpdu replies)
    (small : maxNpdu.toNat ≤ 1536) :
    let receiver : Bip6System := transition.before.nodes transition.label.1
    ∀ src, (bip6Receive bvlc6Handler npdu maxNpdu replies receiver.driver).src = some src →
      ∃ sending ∈ early, ∃ (sender dest : BacnetIp6Address) (mpdu : List UInt8),
        let node : Bip6System := sending.before.nodes sending.label.1
        Sent6By node sending.label.2 sender dest mpdu ∧
          Handled6 bvlc6Handler npdu maxNpdu replies receiver.driver sender
            (mpdu.take maxNpdu.toNat) src ∧
          (∃ bound, (receiver.driver.bip6Socket, bound) ∈ receiver.sockets.bound ∧
            bound.sin6Port = htons dest.port) ∧
          (∀ answer answerLen sendto, ∃ request,
            (bip6SendMpdu library sender answer answerLen sendto receiver.driver).2 = some request ∧
              request.mtu = answer.take answerLen.toNat ∧ request.bvlcDest = replies.sin) ∧
          ((∀ step ∈ early, Sets6WhileClosed (step.before.nodes step.label.1) step.label.2) →
            dest.port = bip6GetPort receiver.driver ∧
              ∀ bound, (node.driver.bip6Socket, bound) ∈ node.sockets.bound →
                sender.port = bip6GetPort node.driver) := by
  intro receiver src stored
  have reached := run.split.1
  rcases received_was_sent run with ⟨received, takes, sent⟩
  rw [call] at takes
  rcases bip6Receive_stored stored with ⟨opened, ready, some⟩
  cases received with
  | none =>
      have nothing : replies.select ≤ 0 ∨ replies.recvfrom ≤ 0 := takes
      omega
  | some datagram =>
      have took : Took6 receiver maxNpdu replies datagram := takes
      rcases sent datagram rfl with ⟨sending, before, emits⟩
      rcases List.append_of_mem before with ⟨first, rest, split⟩
      rcases sent6By_of_emits emits with ⟨dest, destination, sentBy⟩
      rcases took.accepted with ⟨bound, mem, port, _⟩
      rw [destination] at port
      refine ⟨sending, before, _, dest, _, sentBy, handled6_of_took small stored took,
        ⟨bound, mem, port⟩, ?_, ?_⟩
      · intro answer answerLen sendto
        rw [bip6SendMpdu_of_open library opened]
        refine ⟨_, rfl, rfl, ?_⟩
        rw [took.source]
        exact SockaddrIn6.ext_htons _
      · intro sets
        constructor
        · have settled : Settled6 receiver :=
            bip6Network_settled initial reached sets transition.label.1
          rw [settled bound mem] at port
          exact (htons_inj port).symm
        · intro bound' mem'
          rw [split] at reached sets
          have settled : Settled6 (sending.before.nodes sending.label.1) := by
            apply bip6Network_settled initial reached.split.1
            intro step early
            exact sets step (List.mem_append_left _ early)
          exact htons_inj ((sentBy.port bound' mem').symm.trans (settled bound' mem'))

end Authentic

/-! ## Two nodes -/

def Bip6Config.static : Bip6Config where
  addressIndex := 0
  maxIpv6Addr := 1
  mcastAddress := bip6MulticastSiteLocal

/-- The address `fd00::low`. -/
def uniqueLocal (low : UInt8) : In6Addr :=
  #v[0xFD, 0, 0, 0, 0, 0, 0, 0, 0, 0, 0, 0, 0, 0, 0, low]

def twoNodes6 (node : Bool) : Bip6System :=
  .initial 1 { address := uniqueLocal (if node then 8 else 7), port := 0xBAC0 }
    { address := bip6MulticastSiteLocal, port := 0xBAC0 }

def Bip6InitReplies.three : Bip6InitReplies where
  network := { byIndex := fun _ => none, default := none }
  socket := 3
  addMembership := 0
  bind := 0

/-- Two bytes in an original unicast NPDU. -/
def unicast6Mpdu : List UInt8 := [0x82, 0x01, 0x00, 0x0c, 0, 0, 7, 0, 0, 8, 1, 2]

def Receive6Replies.fromSeven : Receive6Replies where
  select := 1
  recvfrom := 12
  datagram := unicast6Mpdu
  sin := { sin6Port := htons 0xBAC0, sin6Addr := uniqueLocal 7 }

/-- A handler that stores the sender and strips a header of ten octets. -/
def keepSender6 : Bvlc6Handler BacnetIp6Address := fun sender _ => (10, sender)

abbrev TwoNodes6 := Network (bip6Host .reference .static BacnetIp6Address) Bool

/-- Both nodes start, the first sends to the second, and the second receives. -/
theorem twoNodes6_run :
    ∃ early transition last,
      Run Step (Network.initial twoNodes6 : TwoNodes6) (early ++ transition :: []) last ∧
      transition.label = (true, .receive keepSender6 [] 1506 .fromSeven) ∧
      transition.before.nodes true = (bip6Init .static none .three (twoNodes6 true)).1 ∧
      ∀ step ∈ early, Sets6WhileClosed (step.before.nodes step.label.1) step.label.2 := by
  let init : Bip6NodeCall BacnetIp6Address := .init none .three
  let send : Bip6NodeCall BacnetIp6Address :=
    .send { address := uniqueLocal 8, port := 0xBAC0 } unicast6Mpdu 12 12
  let receive : Bip6NodeCall BacnetIp6Address := .receive keepSender6 [] 1506 .fromSeven
  let node (index : Bool) : Bip6System := init.after .static (twoNodes6 index)
  let datagram : Datagram SockaddrIn6 :=
    { source := { sin6Port := htons 0xBAC0, sin6Addr := uniqueLocal 7 }
      destination := { sin6Port := htons 0xBAC0, sin6Addr := uniqueLocal 8 }
      payload := unicast6Mpdu }
  have fresh : ∀ index, init.Fresh (twoNodes6 index) := by
    intro index _ opened
    cases opened
  let zero : TwoNodes6 := Network.initial twoNodes6
  let one : TwoNodes6 := ⟨Function.update zero.nodes false (node false), zero.inFlight ++ []⟩
  let two : TwoNodes6 := ⟨Function.update one.nodes true (node true), one.inFlight ++ []⟩
  let three : TwoNodes6 :=
    ⟨Function.update two.nodes false (node false), two.inFlight ++ [datagram]⟩
  let four : TwoNodes6 :=
    ⟨Function.update three.nodes true (node true), three.inFlight ++ []⟩
  have first : Step zero (false, init) one :=
    .call ⟨fresh false, rfl⟩ rfl (fun _ none => by cases none) (fun _ none => by cases none)
  have second : Step one (true, init) two :=
    .call ⟨fresh true, rfl⟩ rfl (fun _ none => by cases none) (fun _ none => by cases none)
  have third : Step two (false, send) three := by
    apply @Step.call _ _ _ _ two false send (node false) none [datagram] ⟨trivial, rfl⟩ rfl
    · intro arrived none
      cases none
    · intro sent mem
      rw [List.mem_singleton.mp mem]
      refine ⟨_, congrArg Prod.snd (bip6SendMpdu_of_open _ (by decide) _ _ _ _), ?_, rfl, rfl⟩
      intro bound bounds
      have only : (3, bound) ∈ [((3 : ℤ),
          { sin6Port := htons 0xBAC0, sin6Addr := in6addrAny : SockaddrIn6 })] := bounds
      rw [(Prod.mk.inj (List.mem_singleton.mp only)).2]
  have fourth : Step three (true, receive) four := by
    have took : Took6 (node true) 1506 .fromSeven datagram :=
      { ready := by decide, length := by decide, source := rfl, payload := rfl
        accepted := ⟨_, List.mem_cons_self, rfl, Or.inl rfl⟩ }
    apply @Step.call _ _ _ _ three true receive (node true) (some datagram) [] ⟨trivial, rfl⟩ took
    · intro arrived same
      rw [← Option.some.inj same]
      exact List.mem_append_right two.inFlight (List.mem_singleton_self datagram)
    · intro sent none
      cases none
  refine ⟨_, _, _, (((Run.start.next first).next second).next third).next fourth, rfl, rfl, ?_⟩
  simp only [List.forall_mem_append, List.forall_mem_singleton]
  exact ⟨⟨⟨by simp, trivial⟩, trivial⟩, trivial⟩

/-- What the second node hears comes from the first, from its address and its port. -/
theorem bip6Network_authentic_twoNodes :
    ∃ early transition last,
      Run Step (Network.initial twoNodes6 : TwoNodes6) (early ++ transition :: []) last ∧
      ∃ sending ∈ early, ∃ (sender dest : BacnetIp6Address) (mpdu : List UInt8),
        Sent6By (sending.before.nodes sending.label.1) sending.label.2 sender dest mpdu ∧
          sender = { address := uniqueLocal 7, port := 0xBAC0 } ∧ dest.port = 0xBAC0 := by
  rcases twoNodes6_run with ⟨early, transition, last, run, label, node, sets⟩
  refine ⟨early, transition, last, run, ?_⟩
  have initial : NotStarted6 twoNodes6 := fun _ => ⟨_, _, _, rfl⟩
  have call : transition.label.2 = Bip6NodeCall.receive keepSender6 [] 1506 .fromSeven := by
    rw [label]
  have mover : transition.label.1 = true := by rw [label]
  have authentic := bip6Network_authentic initial run call (by decide)
  rw [mover, node] at authentic
  rcases authentic { address := uniqueLocal 7, port := 0xBAC0 } rfl with
    ⟨sending, mem, sender, dest, mpdu, sentBy, handled, _, _, settled⟩
  exact ⟨sending, mem, sender, dest, mpdu, sentBy, handled.source.symm, (settled sets).1⟩

end BacnetZephyr
