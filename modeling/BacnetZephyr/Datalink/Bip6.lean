import BacnetZephyr.Datalink.Bip

/-!
# The BACnet/IPv6 datalink

`bip6_init` opens one socket, joins the multicast group and binds the socket;
`bip6_cleanup` closes it, and `bip6_receive` waits for a datagram. The results of the
socket and interface functions are inputs of the model.

A socket that cannot join the group is neither closed nor forgotten, while one that
cannot be bound is, and `bip6_init` overwrites a descriptor it finds.
`bip6Socket_kept_iff` gives the runs in which neither harm is done.
-/

namespace BacnetZephyr

open CLib Transition

/-! ## Addresses -/

abbrev In6Addr := Vector UInt8 16

def in6addrAny : In6Addr := Vector.replicate 16 0

structure BacnetIp6Address where
  address : In6Addr
  port : UInt16
deriving DecidableEq, Repr

/-- `struct sockaddr_in6` of family `AF_INET6`, the port in network order. -/
structure SockaddrIn6 where
  sin6Port : UInt16
  sin6Addr : In6Addr
deriving DecidableEq, Repr

structure Ipv6Mreq where
  ipv6mrMultiaddr : In6Addr
  ipv6mrIfindex : ℤ
deriving DecidableEq, Repr

/-- The static variables of the driver. -/
structure Bip6Driver where
  bip6Socket : ℤ
  bip6SocketScopeId : ℤ
  bip6Addr : BacnetIp6Address
  bip6BroadcastAddr : BacnetIp6Address
deriving DecidableEq, Repr

def bip6SetPort (port : UInt16) (driver : Bip6Driver) : Bip6Driver :=
  { driver with
    bip6Addr := { driver.bip6Addr with port }
    bip6BroadcastAddr := { driver.bip6BroadcastAddr with port } }

/-- `BIP6_MULTICAST_SITE_LOCAL` with `BIP6_MULTICAST_GROUP_ID`. -/
def bip6MulticastSiteLocal : In6Addr :=
  #v[0xFF, 0x05, 0, 0, 0, 0, 0, 0, 0, 0, 0, 0, 0, 0, 0xBA, 0xC0]

/-! ## The interface -/

structure Bip6Config where
  /-- `CONFIG_BACDL_BIP6_ADDRESS_INDEX`. -/
  addressIndex : ℕ
  /-- `NET_IF_MAX_IPV6_ADDR`. -/
  maxIpv6Addr : ℕ
  /-- What `net_addr_pton` makes of `CONFIG_BACDL_BIP6_MCAST_ADDRESS`; zeros if it fails. -/
  mcastAddress : In6Addr
deriving DecidableEq, Repr

/-- An interface: its index, and its unicast addresses by slot. -/
structure NetIf6 where
  byIface : ℤ
  unicast : ℕ → In6Addr

structure Network6Replies where
  byIndex : ℤ → Option NetIf6
  default : Option NetIf6

def bip6SetInterface (config : Bip6Config) (network : Network6Replies) (ifname : Option CString)
    (driver : Bip6Driver) : Bip6Driver :=
  let (index, iface) : ℤ × Option NetIf6 :=
    match ifname with
    | none => (-1, none)
    | some text =>
        let index := atoi text
        if index = 0 ∧ text ≠ ['0'] then (index, none) else (index, network.byIndex index)
  let iface := if index = -1 then network.default else iface
  match iface with
  | none => driver
  | some iface =>
      let port := driver.bip6Addr.port
      let driver := { driver with bip6SocketScopeId := iface.byIface }
      if config.maxIpv6Addr ≤ config.addressIndex then driver
      else
        { driver with
          bip6Addr := { address := iface.unicast config.addressIndex, port }
          bip6BroadcastAddr := { address := config.mcastAddress, port } }

/-! ## Sockets -/

/-- The descriptors opened and not closed, the addresses bound and the groups joined. -/
structure Socket6Table where
  opened : Finset ℤ
  bound : List (ℤ × SockaddrIn6)
  joined : List (ℤ × Ipv6Mreq)

def Socket6Table.zsockSocket (table : Socket6Table) (sockFd : ℤ) : Socket6Table :=
  { table with opened := insert sockFd table.opened }

def Socket6Table.addMembership (table : Socket6Table) (sockFd : ℤ) (joinRequest : Ipv6Mreq) :
    Socket6Table :=
  { table with joined := (sockFd, joinRequest) :: table.joined }

def Socket6Table.zsockBind (table : Socket6Table) (sockFd : ℤ) (server : SockaddrIn6) :
    Socket6Table :=
  { table with bound := (sockFd, server) :: table.bound }

def Socket6Table.zsockClose (table : Socket6Table) (sockFd : ℤ) : Socket6Table where
  opened := table.opened.erase sockFd
  bound := table.bound.filter fun entry => entry.1 ≠ sockFd
  joined := table.joined.filter fun entry => entry.1 ≠ sockFd

structure Bip6System where
  driver : Bip6Driver
  sockets : Socket6Table

/--
What the environment answers to one `bip6_init`. The results of the options
`SO_REUSEADDR` and `SO_BROADCAST` are only logged.
-/
structure Bip6InitReplies where
  network : Network6Replies
  socket : ℤ
  addMembership : ℤ
  bind : ℤ

def bip6Init (config : Bip6Config) (ifname : Option CString) (replies : Bip6InitReplies)
    (system : Bip6System) : Bip6System × Bool :=
  let driver :=
    if system.driver.bip6Addr.port = 0 then bip6SetPort 0xBAC0 system.driver else system.driver
  let driver := bip6SetInterface config replies.network ifname driver
  let driver : Bip6Driver :=
    if driver.bip6BroadcastAddr.address.head = 0 then
      { driver with bip6BroadcastAddr :=
          { driver.bip6BroadcastAddr with address := bip6MulticastSiteLocal } }
    else driver
  let driver : Bip6Driver := { driver with bip6Socket := replies.socket }
  if driver.bip6Socket < 0 then ({ system with driver }, false)
  else
    let sockets := system.sockets.zsockSocket driver.bip6Socket
    let joinRequest : Ipv6Mreq :=
      { ipv6mrMultiaddr := driver.bip6BroadcastAddr.address
        ipv6mrIfindex := driver.bip6SocketScopeId }
    if replies.addMembership < 0 then ({ driver, sockets }, false)
    else
      let sockets := sockets.addMembership driver.bip6Socket joinRequest
      let server : SockaddrIn6 :=
        { sin6Port := htons driver.bip6Addr.port, sin6Addr := in6addrAny }
      if replies.bind < 0 then
        ({ driver := { driver with bip6Socket := -1 }
           sockets := sockets.zsockClose driver.bip6Socket }, false)
      else ({ driver, sockets := sockets.zsockBind driver.bip6Socket server }, true)

def bip6Valid (driver : Bip6Driver) : Bool := driver.bip6Socket ≠ -1

def bip6Cleanup (system : Bip6System) : Bip6System where
  driver := { system.driver with bip6Socket := -1 }
  sockets :=
    if system.driver.bip6Socket ≠ -1 then system.sockets.zsockClose system.driver.bip6Socket
    else system.sockets

/-! ## Receiving -/

/-- What `zsock_select` and `zsock_recvfrom` return in one call, with the datagram received. -/
structure Receive6Replies where
  select : ℤ
  recvfrom : ℤ
  datagram : List UInt8
  sin : SockaddrIn6
deriving DecidableEq, Repr

/-- `bvlc6_handler`: the offset of the NPDU in the datagram and the source address it stores. -/
abbrev Bvlc6Handler (Source : Type) := BacnetIp6Address → List UInt8 → ℤ × Source

def bvllTypeBacnetIp6 : UInt8 := 0x82

/-- `bip6_receive`: the length returned, the contents of the buffer, and the source. -/
def bip6Receive {Source : Type} (bvlc6Handler : Bvlc6Handler Source) (npdu : List UInt8)
    (maxNpdu : UInt16) (replies : Receive6Replies) (driver : Bip6Driver) :
    ReceiveOutcome Source :=
  if driver.bip6Socket < 0 then { npduLen := 0, npdu, src := none, selected := [] }
  else
    let selected := [driver.bip6Socket]
    if replies.select ≤ 0 then { npduLen := 0, npdu, src := none, selected }
    else
      let npdu := replies.datagram ++ npdu.drop replies.datagram.length
      if replies.recvfrom ≤ 0 then { npduLen := 0, npdu, src := none, selected }
      else if npdu.getD 0 0 ≠ bvllTypeBacnetIp6 then
        { npduLen := 0, npdu, src := none, selected }
      else
        let addr : BacnetIp6Address :=
          { address := replies.sin.sin6Addr, port := ntohs replies.sin.sin6Port }
        let (offset, src) := bvlc6Handler addr (npdu.take replies.recvfrom.toNat)
        if offset ≤ 0 then { npduLen := 0, npdu, src := some src, selected }
        else
          let npduLen := ((replies.recvfrom - offset) % 2 ^ 16).toNat
          if npduLen ≤ maxNpdu.toNat then
            { npduLen, npdu := shiftNpdu offset.toNat npduLen npdu, src := some src, selected }
          else { npduLen := 0, npdu, src := some src, selected }

/-! ## Runs -/

inductive Bip6Call (Source : Type) where
  | init (ifname : Option CString) (replies : Bip6InitReplies)
  | cleanup
  | receive (bvlc6Handler : Bvlc6Handler Source) (npdu : List UInt8) (maxNpdu : UInt16)
      (replies : Receive6Replies)

structure Bip6Outcome where
  after : Bip6System
  /-- The result of `bip6_init`. -/
  initialized : Option Bool
  selected : List ℤ

variable {Source : Type}

def Bip6Call.outcome (config : Bip6Config) (system : Bip6System) : Bip6Call Source → Bip6Outcome
  | init ifname replies =>
      let (after, initialized) := bip6Init config ifname replies system
      { after, initialized := some initialized, selected := [] }
  | cleanup => { after := bip6Cleanup system, initialized := none, selected := [] }
  | receive bvlc6Handler npdu maxNpdu replies =>
      { after := system, initialized := none,
        selected := (bip6Receive bvlc6Handler npdu maxNpdu replies system.driver).selected }

/-- A new socket gets a descriptor that is not open. -/
def Bip6Call.Fresh (system : Bip6System) : Bip6Call Source → Prop
  | init _ replies => 0 ≤ replies.socket → replies.socket ∉ system.sockets.opened
  | cleanup | receive _ _ _ _ => True

def Bip6Step (config : Bip6Config) (before : Bip6System) (call : Bip6Call Source)
    (after : Bip6System) : Prop :=
  call.Fresh before ∧ after = (call.outcome config before).after

/-- The state before the first call; a port and addresses may have been set. -/
def Bip6System.initial (scopeId : ℤ) (bip6Addr bip6BroadcastAddr : BacnetIp6Address) :
    Bip6System where
  driver := { bip6Socket := -1, bip6SocketScopeId := scopeId, bip6Addr, bip6BroadcastAddr }
  sockets := { opened := ∅, bound := [], joined := [] }

/-- The driver has one socket, bound to its port and in its group, and nothing else open. -/
structure Socket6Open (system : Bip6System) : Prop where
  nonneg : 0 ≤ system.driver.bip6Socket
  opened : system.sockets.opened = {system.driver.bip6Socket}
  bound : (system.driver.bip6Socket,
    { sin6Port := htons system.driver.bip6Addr.port, sin6Addr := in6addrAny }) ∈
      system.sockets.bound
  joined : (system.driver.bip6Socket,
    { ipv6mrMultiaddr := system.driver.bip6BroadcastAddr.address
      ipv6mrIfindex := system.driver.bip6SocketScopeId }) ∈ system.sockets.joined
  valid : bip6Valid system.driver = true

structure Socket6Closed (system : Bip6System) : Prop where
  closed : system.driver.bip6Socket = -1
  opened : system.sockets.opened = ∅
  valid : bip6Valid system.driver = false

structure Call6Kept (config : Bip6Config) (taken : Taken Bip6System (Bip6Call Source)) :
    Prop where
  socket : Socket6Open taken.after ∨ Socket6Closed taken.after
  selected : ∀ sockFd ∈ (taken.label.outcome config taken.before).selected,
    sockFd ∈ taken.before.sockets.opened
  failed : (taken.label.outcome config taken.before).initialized = some false →
    Socket6Closed taken.after

/-- The driver has no socket, and gets none or one that can join the group. -/
def Init6Safe (replies : Bip6InitReplies) (system : Bip6System) : Prop :=
  system.driver.bip6Socket = -1 ∧
    (replies.socket = -1 ∨ 0 ≤ replies.socket ∧ 0 ≤ replies.addMembership)

def Call6Safe (taken : Taken Bip6System (Bip6Call Source)) : Prop :=
  match taken.label with
  | .init _ replies => Init6Safe replies taken.before
  | .cleanup | .receive _ _ _ _ => True

/-! ## One call -/

/-- What `bip6_init` does, by the first function that fails. -/
inductive Init6Result (replies : Bip6InitReplies) (before : Bip6System) :
    Bip6System × Bool → Prop where
  | noSocket {driver : Bip6Driver} (fails : replies.socket < 0)
      (socket : driver.bip6Socket = replies.socket) :
      Init6Result replies before ({ before with driver }, false)
  | notJoined {driver : Bip6Driver} {sockets : Socket6Table} (created : 0 ≤ replies.socket)
      (fails : replies.addMembership < 0) (socket : driver.bip6Socket = replies.socket)
      (left : sockets.opened = insert replies.socket before.sockets.opened) :
      Init6Result replies before ({ driver, sockets }, false)
  | notBound {driver : Bip6Driver} {sockets : Socket6Table} (created : 0 ≤ replies.socket)
      (joined : 0 ≤ replies.addMembership) (closed : driver.bip6Socket = -1)
      (left : sockets.opened = (insert replies.socket before.sockets.opened).erase
        replies.socket) :
      Init6Result replies before ({ driver, sockets }, false)
  | opened {after : Bip6System} (created : 0 ≤ replies.socket)
      (joined : 0 ≤ replies.addMembership) (socket : after.driver.bip6Socket = replies.socket)
      (opens : after.sockets.opened = insert replies.socket before.sockets.opened)
      (binds : (after.driver.bip6Socket,
        { sin6Port := htons after.driver.bip6Addr.port, sin6Addr := in6addrAny }) ∈
          after.sockets.bound)
      (joins : (after.driver.bip6Socket,
        { ipv6mrMultiaddr := after.driver.bip6BroadcastAddr.address
          ipv6mrIfindex := after.driver.bip6SocketScopeId }) ∈ after.sockets.joined) :
      Init6Result replies before (after, true)

variable {config : Bip6Config} {replies : Bip6InitReplies}

theorem bip6Init_result (config : Bip6Config) (ifname : Option CString)
    (replies : Bip6InitReplies) (before : Bip6System) :
    Init6Result replies before (bip6Init config ifname replies before) := by
  simp only [bip6Init]
  split
  · rename_i fails
    exact .noSocket fails rfl
  · rename_i created
    split
    · rename_i fails
      exact .notJoined (by omega) fails rfl rfl
    · rename_i joined
      split
      · exact .notBound (by omega) (by omega) rfl rfl
      · exact .opened (by omega) (by omega) rfl rfl List.mem_cons_self List.mem_cons_self

theorem bip6Valid_of_nonneg {driver : Bip6Driver} (nonneg : 0 ≤ driver.bip6Socket) :
    bip6Valid driver = true := by
  simp only [bip6Valid, decide_eq_true_eq]
  omega

theorem Socket6Closed.intro {driver : Bip6Driver} {sockets : Socket6Table}
    (closed : driver.bip6Socket = -1) (opened : sockets.opened = ∅) :
    Socket6Closed { driver, sockets } where
  closed := closed
  opened := opened
  valid := by simp [bip6Valid, closed]

/-- Whatever was open stays open, and is lost if it is not the driver's socket afterwards. -/
theorem not_open_or_closed {driver : Bip6Driver} {sockets : Socket6Table} {sockFd : ℤ}
    (opened : sockFd ∈ sockets.opened) (other : sockFd ≠ driver.bip6Socket) :
    ¬(Socket6Open { driver, sockets } ∨ Socket6Closed { driver, sockets }) := by
  rintro (kept | kept)
  · have single : sockets.opened = {driver.bip6Socket} := kept.opened
    rw [single, Finset.mem_singleton] at opened
    exact other opened
  · have empty : sockets.opened = ∅ := kept.opened
    simp [empty] at opened

/-- From a closed driver, `bip6_init` keeps its socket unless it cannot join the group. -/
theorem Init6Result.kept_iff_of_closed {before : Bip6System} {result : Bip6System × Bool}
    (init : Init6Result replies before result) (closed : Socket6Closed before) :
    ((Socket6Open result.1 ∨ Socket6Closed result.1) ∧
        (result.2 = false → Socket6Closed result.1)) ↔
      (replies.socket = -1 ∨ 0 ≤ replies.socket ∧ 0 ≤ replies.addMembership) := by
  cases init with
  | @noSocket driver fails socket =>
      constructor
      · rintro ⟨_, failed⟩
        exact Or.inl (socket.symm.trans (failed rfl).closed)
      · intro safe
        have minusOne : replies.socket = -1 := by omega
        have kept := Socket6Closed.intro (socket.trans minusOne) closed.opened
        exact ⟨Or.inr kept, fun _ => kept⟩
  | notJoined created fails socket left =>
      constructor
      · rintro ⟨_, failed⟩
        have := (failed rfl).closed
        simp only at this
        omega
      · intro safe
        omega
  | notBound created joined socket left =>
      rw [closed.opened, Finset.erase_insert (Finset.notMem_empty _)] at left
      have kept := Socket6Closed.intro socket left
      exact ⟨fun _ => Or.inr ⟨created, joined⟩, fun _ => ⟨Or.inr kept, fun _ => kept⟩⟩
  | opened created joined socket opens binds joins =>
      refine ⟨fun _ => Or.inr ⟨created, joined⟩, fun _ => ⟨Or.inl ?_, by simp⟩⟩
      have nonneg := socket.symm ▸ created
      exact
        { nonneg
          opened := by simp [opens, socket, closed.opened]
          bound := binds
          joined := joins
          valid := bip6Valid_of_nonneg nonneg }

/-- `bip6_init` on an open driver loses the socket it finds. -/
theorem Init6Result.lost_of_open {before : Bip6System} {result : Bip6System × Bool}
    (init : Init6Result replies before result) (before_open : Socket6Open before)
    (fresh : 0 ≤ replies.socket → replies.socket ∉ before.sockets.opened) :
    ¬(Socket6Open result.1 ∨ Socket6Closed result.1) := by
  have old : before.driver.bip6Socket ∈ before.sockets.opened := by simp [before_open.opened]
  have nonneg := before_open.nonneg
  cases init with
  | @noSocket driver fails socket =>
      exact not_open_or_closed old (by omega)
  | @notJoined driver sockets created fails socket left =>
      have other : before.driver.bip6Socket ≠ driver.bip6Socket := by
        intro same
        exact fresh created (socket ▸ same ▸ old)
      have still : before.driver.bip6Socket ∈ sockets.opened := by
        rw [left]
        exact Finset.mem_insert_of_mem old
      exact not_open_or_closed still other
  | @notBound driver sockets created joined socket left =>
      have other : before.driver.bip6Socket ≠ replies.socket := by
        intro same
        exact fresh created (same ▸ old)
      have still : before.driver.bip6Socket ∈ sockets.opened := by
        rw [left]
        exact Finset.mem_erase.mpr ⟨other, Finset.mem_insert_of_mem old⟩
      exact not_open_or_closed still (by omega)
  | @opened after created joined socket opens binds joins =>
      rcases after with ⟨driver, sockets⟩
      have other : before.driver.bip6Socket ≠ driver.bip6Socket := by
        intro same
        exact fresh created (socket ▸ same ▸ old)
      have still : before.driver.bip6Socket ∈ sockets.opened := by
        rw [opens]
        exact Finset.mem_insert_of_mem old
      exact not_open_or_closed still other

/-! ## Runs keep the socket -/

theorem bip6Cleanup_closed {system : Bip6System}
    (kept : Socket6Open system ∨ Socket6Closed system) : Socket6Closed (bip6Cleanup system) := by
  apply Socket6Closed.intro rfl
  rcases kept with kept | kept
  · have nonneg := kept.nonneg
    rw [if_pos (by omega)]
    simp [Socket6Table.zsockClose, kept.opened]
  · rw [if_neg (by simp [kept.closed])]
    exact kept.opened

/-- The descriptor `bip6_receive` waits on is open. -/
theorem bip6Receive_selected {bvlc6Handler : Bvlc6Handler Source} {npdu : List UInt8}
    {maxNpdu : UInt16} {replies : Receive6Replies} {system : Bip6System}
    (kept : Socket6Open system ∨ Socket6Closed system) {sockFd : ℤ}
    (mem : sockFd ∈ (bip6Receive bvlc6Handler npdu maxNpdu replies system.driver).selected) :
    sockFd ∈ system.sockets.opened := by
  have selected : (bip6Receive bvlc6Handler npdu maxNpdu replies system.driver).selected =
      if system.driver.bip6Socket < 0 then [] else [system.driver.bip6Socket] := by
    unfold bip6Receive
    by_cases closed : system.driver.bip6Socket < 0
    · rw [if_pos closed, if_pos closed]
    · rw [if_neg closed, if_neg closed]
      dsimp only
      repeat' split
      all_goals rfl
  rw [selected] at mem
  rcases kept with kept | kept
  · rw [if_neg (by have := kept.nonneg; omega), List.mem_singleton] at mem
    simp [mem, kept.opened]
  · simp [kept.closed] at mem

theorem call6Kept_init_iff {ifname : Option CString} {before : Bip6System} :
    Call6Kept config ⟨before, (.init ifname replies : Bip6Call Source),
        (bip6Init config ifname replies before).1⟩ ↔
      (Socket6Open (bip6Init config ifname replies before).1 ∨
        Socket6Closed (bip6Init config ifname replies before).1) ∧
        ((bip6Init config ifname replies before).2 = false →
          Socket6Closed (bip6Init config ifname replies before).1) := by
  constructor
  · rintro ⟨kept, _, failed⟩
    refine ⟨kept, ?_⟩
    intro unsuccessful
    apply failed
    simp [Bip6Call.outcome, unsuccessful]
  · rintro ⟨kept, failed⟩
    refine ⟨kept, by simp [Bip6Call.outcome], ?_⟩
    intro unsuccessful
    apply failed
    simpa [Bip6Call.outcome] using unsuccessful

theorem bip6Step_kept_iff {before after : Bip6System} {call : Bip6Call Source}
    (kept : Socket6Open before ∨ Socket6Closed before)
    (step : Bip6Step config before call after) :
    Call6Kept config ⟨before, call, after⟩ ↔ Call6Safe ⟨before, call, after⟩ := by
  rcases step with ⟨fresh, rfl⟩
  cases call with
  | cleanup =>
      refine ⟨fun _ => trivial, fun _ => ⟨?_, by simp [Bip6Call.outcome], fun _ => ?_⟩⟩
      · exact Or.inr (bip6Cleanup_closed kept)
      · exact bip6Cleanup_closed kept
  | receive bvlc6Handler npdu maxNpdu replies =>
      refine ⟨fun _ => trivial, fun _ => ⟨kept, ?_, by simp [Bip6Call.outcome]⟩⟩
      intro sockFd mem
      exact bip6Receive_selected kept mem
  | init ifname replies =>
      have returned :
          ((Bip6Call.init ifname replies : Bip6Call Source).outcome config before).after =
            (bip6Init config ifname replies before).1 := rfl
      have init := bip6Init_result config ifname replies before
      rw [returned, call6Kept_init_iff]
      rcases kept with isOpen | closed
      · constructor
        · rintro ⟨after, _⟩
          exact absurd after (init.lost_of_open isOpen fresh)
        · rintro ⟨minusOne, _⟩
          have nonneg := isOpen.nonneg
          simp only at minusOne
          omega
      · rw [init.kept_iff_of_closed closed]
        exact ⟨fun safe => ⟨closed.closed, safe⟩, fun safe => safe.2⟩

/--
Every call of a run leaves no socket or one that is bound and in its group, and never
another one open, exactly when every `bip6_init` finds no socket and creates none that
cannot join the group.
-/
theorem bip6Socket_kept_iff (config : Bip6Config) (scopeId : ℤ)
    (bip6Addr bip6BroadcastAddr : BacnetIp6Address)
    {taken : List (Taken Bip6System (Bip6Call Source))} {last : Bip6System}
    (run : Run (Bip6Step config) (Bip6System.initial scopeId bip6Addr bip6BroadcastAddr) taken
      last) :
    (∀ call ∈ taken, Call6Kept config call) ↔ ∀ call ∈ taken, Call6Safe call := by
  have initially : Socket6Open (Bip6System.initial scopeId bip6Addr bip6BroadcastAddr) ∨
      Socket6Closed (Bip6System.initial scopeId bip6Addr bip6BroadcastAddr) :=
    Or.inr (.intro rfl rfl)
  apply @Run.forall_iff _ _ _ _ _ _ (fun system => Socket6Open system ∨ Socket6Closed system) _ _
    initially _ _ run
  · intro before call after _ _ kept
    exact kept.socket
  · intro before call after kept step
    exact bip6Step_kept_iff kept step

/-- A default interface with the unique local address fd00::1. -/
def Network6Replies.single : Network6Replies where
  byIndex := fun _ => none
  default := some
    { byIface := 1
      unicast := fun _ => #v[0xFD, 0, 0, 0, 0, 0, 0, 0, 0, 0, 0, 0, 0, 0, 0, 1] }

theorem bip6Socket_kept_iff_opened :
    let config : Bip6Config := ⟨0, 3, bip6MulticastSiteLocal⟩
    let unset : BacnetIp6Address := ⟨in6addrAny, 0⟩
    let init : Bip6Call Unit := .init none ⟨.single, 3, 0, 0⟩
    let first := Bip6System.initial 0 unset unset
    let opened := (init.outcome config first).after
    let taken : List (Taken Bip6System (Bip6Call Unit)) :=
      [⟨first, init, opened⟩, ⟨opened, .cleanup, bip6Cleanup opened⟩]
    (∀ call ∈ taken, Call6Kept config call) ↔ ∀ call ∈ taken, Call6Safe call := by
  intro config unset init first opened taken
  have init : Bip6Step config first init opened :=
    ⟨by simp [Bip6Call.Fresh, first, Bip6System.initial, init], rfl⟩
  have cleanup : Bip6Step config opened (.cleanup : Bip6Call Unit) (bip6Cleanup opened) :=
    ⟨trivial, rfl⟩
  exact bip6Socket_kept_iff config 0 unset unset (.next (.next .start init) cleanup)

/-- `IPV6_ADD_MEMBERSHIP` fails: `bip6_init` returns false and leaves a socket open. -/
theorem bip6Socket_leaked :
    ¬∀ (config : Bip6Config) (scopeId : ℤ) (bip6Addr bip6BroadcastAddr : BacnetIp6Address)
      (taken : List (Taken Bip6System (Bip6Call Unit))) (last : Bip6System),
      Run (Bip6Step config) (Bip6System.initial scopeId bip6Addr bip6BroadcastAddr) taken last →
        ∀ call ∈ taken, Call6Kept config call := by
  intro kept
  let config : Bip6Config := ⟨0, 3, bip6MulticastSiteLocal⟩
  have step : Bip6Step config (Bip6System.initial 0 ⟨in6addrAny, 0⟩ ⟨in6addrAny, 0⟩)
      (.init none ⟨.single, 3, -1, 0⟩ : Bip6Call Unit) _ :=
    ⟨by simp [Bip6Call.Fresh, Bip6System.initial], rfl⟩
  have failed := (kept _ _ _ _ _ _ (Run.start.next step) _ List.mem_cons_self).failed rfl
  have closed := failed.closed
  revert closed
  decide

end BacnetZephyr
