import BacnetZephyr.Datalink.Bip6

/-!
# What the receive functions deliver

`bip_receive` and `bip6_receive` give a datagram to a BVLC handler, which returns the length
of the header, and move the rest of it to the front of the buffer. The loop copies inside
the buffer, so it must not overwrite a byte it still has to read.

`Delivers` says what a receive function makes of a datagram, for every handler. Both
functions do the same with it, although their code is written out twice.
-/

namespace BacnetZephyr

variable {Address Source : Type}

/-- A call that receives a datagram into a buffer of `maxNpdu` bytes. -/
structure Received (maxNpdu : UInt16) (select recvfrom : ℤ) (datagram : List UInt8) : Prop where
  ready : 0 < select
  length : recvfrom = datagram.length
  nonempty : datagram ≠ []
  fits : datagram.length ≤ maxNpdu.toNat

/-- A BVLC handler: the length of the header, and the source it stores. -/
abbrev Handler (Address Source : Type) := Address → List UInt8 → ℤ × Source

/--
The NPDU of a datagram with the expected type is what follows the header, and the handler
gets the sender and the whole datagram. Every other datagram is dropped without a call.
-/
structure Delivers (type : UInt8) (datagram : List UInt8) (sender : Address)
    (receive : Handler Address Source → ReceiveOutcome Source) : Prop where
  handled : ∀ handler : Handler Address Source, datagram.head? = some type →
    (receive handler).src = some (handler sender datagram).2
  delivered : ∀ (handler : Handler Address Source) (offset : ℕ), datagram.head? = some type →
    (handler sender datagram).1 = offset → 1 ≤ offset → offset ≤ datagram.length →
    (receive handler).npduLen = datagram.length - offset ∧
      (receive handler).npdu.take (datagram.length - offset) = datagram.drop offset
  /-- A header has at most 64 bytes. -/
  dropped : ∀ handler : Handler Address Source, datagram.head? = some type →
    (handler sender datagram).1 ≤ 64 →
    (handler sender datagram).1 ≤ 0 ∨ (datagram.length : ℤ) < (handler sender datagram).1 →
    (receive handler).npduLen = 0
  foreign : datagram.head? ≠ some type → ∀ handler,
    (receive handler).npduLen = 0 ∧ (receive handler).src = none
  uncalled : datagram.head? ≠ some type → ∀ handler other, receive handler = receive other

/-- What both functions do after the handler has returned. -/
def passNpdu (handled : ℤ × Source) (receivedBytes : ℤ) (npdu : List UInt8) (maxNpdu : UInt16)
    (selected : List ℤ) : ReceiveOutcome Source :=
  if handled.1 ≤ 0 then { npduLen := 0, npdu, src := some handled.2, selected }
  else
    let npduLen := ((receivedBytes - handled.1) % 2 ^ 16).toNat
    if npduLen ≤ maxNpdu.toNat then
      { npduLen, npdu := shiftNpdu handled.1.toNat npduLen npdu, src := some handled.2, selected }
    else { npduLen := 0, npdu, src := some handled.2, selected }

/-! ## Moving the NPDU -/

/-- The first `length` bytes have come from `offset` on, the others are as before. -/
structure Shifted (before after : List UInt8) (offset length : ℕ) : Prop where
  size : after.length = before.length
  copied : ∀ i < length, after[i]? = before[offset + i]?
  frame : ∀ i, length ≤ i → after[i]? = before[i]?

theorem Shifted.refl (npdu : List UInt8) (offset : ℕ) : Shifted npdu npdu offset 0 where
  size := rfl
  copied _ impossible := absurd impossible (Nat.not_lt_zero _)
  frame _ _ := rfl

/-- A round reads a byte that no round has written. -/
theorem Shifted.step {before after : List UInt8} {offset length : ℕ}
    (shifted : Shifted before after offset length) (inside : offset + length < before.length) :
    Shifted before (after.set length (after.getD (offset + length) 0)) offset (length + 1) where
  size := by
    rw [List.length_set, shifted.size]
  copied := by
    intro i below
    have room : length < after.length := by
      rw [shifted.size]
      omega
    by_cases last : i = length
    · have read : after[offset + i]? = before[offset + i]? := shifted.frame _ (by omega)
      rw [last] at read ⊢
      rw [List.getElem?_set_self room, List.getD_eq_getElem?_getD, read,
        List.getElem?_eq_getElem inside, Option.getD_some]
    · rw [List.getElem?_set_ne (Ne.symm last)]
      exact shifted.copied i (by omega)
  frame := by
    intro i above
    rw [List.getElem?_set_ne (by omega)]
    exact shifted.frame i (by omega)

theorem shifted_shiftNpdu {npdu : List UInt8} {offset length : ℕ}
    (inside : offset + length ≤ npdu.length) :
    Shifted npdu (shiftNpdu offset length npdu) offset length := by
  induction length with
  | zero => exact Shifted.refl npdu offset
  | succ length ih => exact (ih (by omega)).step (by omega)

/-- After the loop the buffer begins with what followed the header. -/
theorem take_shiftNpdu {datagram : List UInt8} {offset : ℕ} (inside : offset ≤ datagram.length)
    (rest : List UInt8) :
    (shiftNpdu offset (datagram.length - offset) (datagram ++ rest)).take
      (datagram.length - offset) = datagram.drop offset := by
  have shifted : Shifted (datagram ++ rest)
      (shiftNpdu offset (datagram.length - offset) (datagram ++ rest)) offset
      (datagram.length - offset) := by
    apply shifted_shiftNpdu
    rw [List.length_append]
    omega
  apply List.ext_getElem?
  intro i
  rw [List.getElem?_take, List.getElem?_drop]
  split
  · rename_i below
    rw [shifted.copied i below, List.getElem?_append_left (by omega)]
  · rename_i above
    rw [List.getElem?_eq_none (by omega)]

/-! ## After the handler -/

section Handled

variable {handled : ℤ × Source} {maxNpdu : UInt16} {datagram : List UInt8}

theorem passNpdu_src (receivedBytes : ℤ) (npdu : List UInt8) (selected : List ℤ) :
    (passNpdu handled receivedBytes npdu maxNpdu selected).src = some handled.2 := by
  simp only [passNpdu]
  split
  · rfl
  · split
    · rfl
    · rfl

/-- The length of an NPDU passes through 16 bits unchanged. -/
theorem passNpdu_delivered {offset : ℕ} (fits : datagram.length ≤ maxNpdu.toNat)
    (header : handled.1 = offset) (positive : 1 ≤ offset) (inside : offset ≤ datagram.length)
    (rest : List UInt8) (selected : List ℤ) :
    let outcome := passNpdu handled datagram.length (datagram ++ rest) maxNpdu selected
    outcome.npduLen = datagram.length - offset ∧
      outcome.npdu.take (datagram.length - offset) = datagram.drop offset := by
  have bound := maxNpdu.toNat_lt
  have length : (((datagram.length : ℤ) - handled.1) % 2 ^ 16).toNat =
      datagram.length - offset := by
    rw [header]
    omega
  have source : handled.1.toNat = offset := by
    rw [header]
    exact Int.toNat_natCast offset
  simp only [passNpdu]
  rw [if_neg (by omega), length, if_pos (by omega), source]
  exact ⟨rfl, take_shiftNpdu inside rest⟩

/-- A header longer than the datagram wraps the length to more than the buffer holds. -/
theorem passNpdu_dropped (small : maxNpdu.toNat ≤ 1536) (short : handled.1 ≤ 64)
    (dropped : handled.1 ≤ 0 ∨ (datagram.length : ℤ) < handled.1) (npdu : List UInt8)
    (selected : List ℤ) :
    (passNpdu handled datagram.length npdu maxNpdu selected).npduLen = 0 := by
  simp only [passNpdu]
  split
  · rfl
  · rename_i positive
    rw [if_neg (by omega)]

/-- Both functions have this form on a datagram they receive. -/
theorem delivers_of_passNpdu {type : UInt8} {sender : Address}
    {receive : Handler Address Source → ReceiveOutcome Source}
    (rest : List UInt8) (selected : List ℤ) (small : maxNpdu.toNat ≤ 1536)
    (fits : datagram.length ≤ maxNpdu.toNat)
    (form : ∀ handler, receive handler =
      if datagram.head? = some type then
        passNpdu (handler sender datagram) datagram.length (datagram ++ rest) maxNpdu selected
      else { npduLen := 0, npdu := datagram ++ rest, src := none, selected }) :
    Delivers type datagram sender receive where
  handled handler expected := by
    rw [form, if_pos expected]
    exact passNpdu_src _ _ _
  delivered handler offset expected header positive inside := by
    rw [form, if_pos expected]
    exact passNpdu_delivered fits header positive inside rest selected
  dropped handler expected short outside := by
    rw [form, if_pos expected]
    exact passNpdu_dropped small short outside _ _
  foreign other handler := by
    rw [form, if_neg other]
    exact ⟨rfl, rfl⟩
  uncalled other handler another := by
    rw [form, form, if_neg other, if_neg other]

end Handled

/-! ## Both functions -/

/-- The handlers where `handler` belongs to the socket that is ready. -/
def BvlcHandlers.onSocket (unicastReady : Bool) (handler other : Handler BacnetIpAddress Source) :
    BvlcHandlers Source :=
  if unicastReady then { unicast := handler, broadcast := other }
  else { unicast := other, broadcast := handler }

/-- A datagram from `sender` for `bip_receive`, on either of its two sockets. -/
structure BipReception (maxNpdu : UInt16) (driver : BipDriver) (replies : ReceiveReplies)
    (sender : BacnetIpAddress) : Prop where
  opened : 0 ≤ driver.bipSocket
  distinct : driver.bipBroadcastSocket ≠ driver.bipSocket
  received : Received maxNpdu replies.select replies.recvfrom replies.datagram
  network : replies.sin = { sinPort := htons sender.port, sinAddr := sender.address }

/-- A datagram from `sender` for `bip6_receive`. -/
structure Bip6Reception (maxNpdu : UInt16) (driver : Bip6Driver) (replies : Receive6Replies)
    (sender : BacnetIp6Address) : Prop where
  opened : 0 ≤ driver.bip6Socket
  received : Received maxNpdu replies.select replies.recvfrom replies.datagram
  network : replies.sin = { sin6Port := htons sender.port, sin6Addr := sender.address }

/-- `s6_addr16[index]` on a little-endian host. -/
def s6Addr16 (address : In6Addr) (index : ℕ) : UInt16 :=
  UInt16.ofNat ((address.toList.getD (2 * index) 0).toNat +
    (address.toList.getD (2 * index + 1) 0).toNat * 256)

theorem getD_toList (address : In6Addr) {place : ℕ} (inside : place < 16) :
    address.toList.getD place 0 = address[place] := by
  rw [List.getD_eq_getElem?_getD, Vector.getElem?_toList, Vector.getElem?_eq_getElem inside,
    Option.getD_some]

/--
The functions of the BACnet library that put an IPv6 address together from eight numbers and
take it apart again. A number has its most significant byte first.
-/
structure Bvlc6Addresses where
  bvlc6AddressSet : (ℕ → UInt16) → In6Addr
  bvlc6AddressGet : In6Addr → ℕ → UInt16
  highByte : ∀ addr16, ∀ index < 8,
    ((bvlc6AddressSet addr16).toList.getD (2 * index) 0).toNat = (addr16 index).toNat / 256
  lowByte : ∀ addr16, ∀ index < 8,
    ((bvlc6AddressSet addr16).toList.getD (2 * index + 1) 0).toNat = (addr16 index).toNat % 256
  number : ∀ address, ∀ index < 8,
    (bvlc6AddressGet address index).toNat =
      (address.toList.getD (2 * index) 0).toNat * 256 +
        (address.toList.getD (2 * index + 1) 0).toNat

/-- The functions as the library has them: the numbers are written and read byte by byte. -/
def Bvlc6Addresses.reference : Bvlc6Addresses where
  bvlc6AddressSet addr16 := Vector.ofFn fun place =>
    if place.val % 2 = 0 then UInt8.ofNat ((addr16 (place.val / 2)).toNat / 256)
    else UInt8.ofNat ((addr16 (place.val / 2)).toNat % 256)
  bvlc6AddressGet address index :=
    UInt16.ofNat ((address.toList.getD (2 * index) 0).toNat * 256 +
      (address.toList.getD (2 * index + 1) 0).toNat)
  highByte addr16 index below := by
    have bound := (addr16 index).toNat_lt
    have position : 2 * index / 2 = index := by omega
    rw [getD_toList _ (by omega), Vector.getElem_ofFn]
    dsimp only
    rw [if_pos (by omega), position]
    exact UInt8.toNat_ofNat_of_lt' (Nat.div_lt_of_lt_mul bound)
  lowByte addr16 index below := by
    have position : (2 * index + 1) / 2 = index := by omega
    rw [getD_toList _ (by omega), Vector.getElem_ofFn]
    dsimp only
    rw [if_neg (by omega), position]
    exact UInt8.toNat_ofNat_of_lt' (Nat.mod_lt _ (by decide))
  number address index _ := by
    have high := (address.toList.getD (2 * index) 0).toNat_lt
    have low := (address.toList.getD (2 * index + 1) 0).toNat_lt
    apply UInt16.toNat_ofNat_of_lt'
    show _ < 65536
    omega

/-- The address that `bip6_receive` makes for the handler. -/
def bip6Sender (library : Bvlc6Addresses) (sin : SockaddrIn6) : BacnetIp6Address where
  address := library.bvlc6AddressSet fun index => ntohs (s6Addr16 sin.sin6Addr index)
  port := ntohs sin.sin6Port

theorem toNat_htons (value : UInt16) :
    (htons value).toNat = value.toNat % 256 * 256 + value.toNat / 256 := by
  have bound := value.toNat_lt
  rw [htons, UInt16.toNat_ofNat', Nat.mod_eq_of_lt]
  omega

theorem ntohs_htons (value : UInt16) : ntohs (htons value) = value := by
  have bound := value.toNat_lt
  rw [ntohs, ← UInt16.toNat_inj, toNat_htons, toNat_htons]
  omega

theorem htons_ntohs (value : UInt16) : htons (ntohs value) = value := ntohs_htons value

theorem htons_inj {left right : UInt16} (same : htons left = htons right) : left = right := by
  rw [← ntohs_htons left, same, ntohs_htons]

theorem toNat_ntohs_s6Addr16 (address : In6Addr) (index : ℕ) :
    (ntohs (s6Addr16 address index)).toNat =
      (address.toList.getD (2 * index) 0).toNat * 256 +
        (address.toList.getD (2 * index + 1) 0).toNat := by
  have low := (address.toList.getD (2 * index) 0).toNat_lt
  have high := (address.toList.getD (2 * index + 1) 0).toNat_lt
  have word : (s6Addr16 address index).toNat = (address.toList.getD (2 * index) 0).toNat +
      (address.toList.getD (2 * index + 1) 0).toNat * 256 := by
    apply UInt16.toNat_ofNat_of_lt'
    show _ < 65536
    omega
  rw [ntohs, toNat_htons, word]
  omega

/-- Two addresses with the same eight pairs of bytes are equal. -/
theorem in6Addr_ext {left right : In6Addr}
    (even : ∀ index < 8, left.toList.getD (2 * index) 0 = right.toList.getD (2 * index) 0)
    (odd : ∀ index < 8, left.toList.getD (2 * index + 1) 0 = right.toList.getD (2 * index + 1) 0) :
    left = right := by
  apply Vector.ext
  intro place inside
  rw [← getD_toList left inside, ← getD_toList right inside]
  rcases Nat.mod_two_eq_zero_or_one place with remainder | remainder
  · have position : 2 * (place / 2) = place := by omega
    rw [← position]
    exact even (place / 2) (by omega)
  · have position : 2 * (place / 2) + 1 = place := by omega
    rw [← position]
    exact odd (place / 2) (by omega)

section Library

variable (library : Bvlc6Addresses)

/-- The numbers of an address in host order make the address again. -/
theorem bvlc6AddressSet_ntohs (address : In6Addr) :
    library.bvlc6AddressSet (fun index => ntohs (s6Addr16 address index)) = address := by
  apply in6Addr_ext
  · intro index below
    have low := (address.toList.getD (2 * index + 1) 0).toNat_lt
    have high := library.highByte (fun index => ntohs (s6Addr16 address index)) index below
    rw [toNat_ntohs_s6Addr16] at high
    apply UInt8.toNat_inj.mp
    omega
  · intro index below
    have bound := (address.toList.getD (2 * index + 1) 0).toNat_lt
    have low := library.lowByte (fun index => ntohs (s6Addr16 address index)) index below
    rw [toNat_ntohs_s6Addr16] at low
    apply UInt8.toNat_inj.mp
    omega

theorem bip6Sender_eq (sender : BacnetIp6Address) :
    bip6Sender library { sin6Port := htons sender.port, sin6Addr := sender.address } = sender := by
  simp only [bip6Sender, bvlc6AddressSet_ntohs, ntohs_htons]

end Library

/-- The check of the first byte in the buffer is one of the first byte received. -/
theorem checkType {Outcome : Type} {datagram : List UInt8} (nonempty : datagram ≠ [])
    (rest : List UInt8) (type : UInt8) (dropped passed : Outcome) :
    (if (datagram ++ rest).getD 0 0 ≠ type then dropped else passed) =
      if datagram.head? = some type then passed else dropped := by
  rcases datagram with _ | ⟨first, more⟩
  · exact absurd rfl nonempty
  · simp [ite_not]

theorem bipReceive_delivers {maxNpdu : UInt16} (small : maxNpdu.toNat ≤ 1536)
    {driver : BipDriver} {replies : ReceiveReplies} {sender : BacnetIpAddress}
    (reception : BipReception maxNpdu driver replies sender) (npdu : List UInt8)
    (other : Handler BacnetIpAddress Source) :
    Delivers bvllTypeBacnetIp replies.datagram sender fun handler =>
      bipReceive (.onSocket replies.unicastReady handler other) npdu maxNpdu replies driver := by
  have received := reception.received
  have positive := List.length_pos_iff.mpr received.nonempty
  have length := received.length
  have opened := reception.opened
  have ready := received.ready
  apply delivers_of_passNpdu (npdu.drop replies.datagram.length)
    [driver.bipSocket, driver.bipBroadcastSocket] small received.fits
  intro handler
  have chosen : (if (if replies.unicastReady then driver.bipSocket
        else driver.bipBroadcastSocket) = driver.bipSocket then
      (BvlcHandlers.onSocket replies.unicastReady handler other).unicast
      else (BvlcHandlers.onSocket replies.unicastReady handler other).broadcast) = handler := by
    cases replies.unicastReady with
    | true => simp [BvlcHandlers.onSocket]
    | false => simp [BvlcHandlers.onSocket, reception.distinct]
  simp only [bipReceive]
  rw [if_neg (by omega), if_neg (by omega), if_neg (by omega), chosen, length,
    Int.toNat_natCast, List.take_left, reception.network, ntohs_htons]
  exact checkType received.nonempty _ _ _ _

theorem bip6Receive_delivers {maxNpdu : UInt16} (small : maxNpdu.toNat ≤ 1536)
    {driver : Bip6Driver} {replies : Receive6Replies} {sender : BacnetIp6Address}
    (reception : Bip6Reception maxNpdu driver replies sender) (npdu : List UInt8) :
    Delivers bvllTypeBacnetIp6 replies.datagram sender fun handler : Handler _ Source =>
      bip6Receive handler npdu maxNpdu replies driver := by
  have received := reception.received
  have positive := List.length_pos_iff.mpr received.nonempty
  have length := received.length
  have opened := reception.opened
  have ready := received.ready
  apply delivers_of_passNpdu (npdu.drop replies.datagram.length) [driver.bip6Socket] small
    received.fits
  intro handler
  simp only [bip6Receive]
  rw [if_neg (by omega), if_neg (by omega), if_neg (by omega), length,
    Int.toNat_natCast, List.take_left, reception.network, ntohs_htons]
  exact checkType received.nonempty _ _ _ _

/--
Both receive functions deliver exactly the NPDU of every datagram that fits the buffer, on
every socket and for every handler.
-/
theorem receive_delivers {maxNpdu : UInt16} (small : maxNpdu.toNat ≤ 1536) (npdu : List UInt8) :
    (∀ driver replies sender (other : Handler BacnetIpAddress Source),
      BipReception maxNpdu driver replies sender →
      Delivers bvllTypeBacnetIp replies.datagram sender fun handler =>
        bipReceive (.onSocket replies.unicastReady handler other) npdu maxNpdu replies driver) ∧
    (∀ driver replies sender, Bip6Reception maxNpdu driver replies sender →
      (∀ library, bip6Sender library replies.sin = sender) ∧
      Delivers bvllTypeBacnetIp6 replies.datagram sender
        fun handler : Handler BacnetIp6Address Source =>
          bip6Receive handler npdu maxNpdu replies driver) := by
  constructor
  · intro driver replies sender other reception
    exact bipReceive_delivers small reception npdu other
  · intro driver replies sender reception
    refine ⟨?_, bip6Receive_delivers small reception npdu⟩
    intro library
    rw [reception.network]
    exact bip6Sender_eq library sender

def BipDriver.twoSockets : BipDriver where
  bipSocket := 3
  bipBroadcastSocket := 4
  bipPort := htons 0xBAC0
  bipAddress := ⟨192, 168, 0, 2⟩
  bipBroadcastAddr := ⟨192, 168, 0, 255⟩

/-- An original broadcast NPDU of three bytes. -/
def ReceiveReplies.threeBytes : ReceiveReplies where
  select := 1
  unicastReady := false
  recvfrom := 7
  datagram := [0x81, 0x0b, 0x00, 0x07, 1, 2, 3]
  sin := { sinPort := htons 0xBAC0, sinAddr := ⟨192, 168, 0, 7⟩ }

theorem BipReception.threeBytes :
    BipReception 1506 .twoSockets .threeBytes { address := ⟨192, 168, 0, 7⟩, port := 0xBAC0 } where
  opened := by decide
  distinct := by decide
  received := ⟨by decide, rfl, by decide, by decide⟩
  network := rfl

def Bip6Driver.oneSocket : Bip6Driver where
  bip6Socket := 3
  bip6SocketScopeId := 1
  bip6Addr := { address := in6addrAny, port := 0xBAC0 }
  bip6BroadcastAddr := { address := bip6MulticastSiteLocal, port := 0xBAC0 }

/-- A unicast NPDU of two bytes after a header of ten. -/
def Receive6Replies.twoBytes : Receive6Replies where
  select := 1
  recvfrom := 12
  datagram := [0x82, 0x01, 0x00, 0x0c, 0, 0, 7, 0, 0, 8, 1, 2]
  sin := { sin6Port := htons 0xBAC0, sin6Addr := bip6MulticastSiteLocal }

theorem Bip6Reception.twoBytes :
    Bip6Reception 1506 .oneSocket .twoBytes
      { address := bip6MulticastSiteLocal, port := 0xBAC0 } where
  opened := by decide
  received := ⟨by decide, rfl, by decide, by decide⟩
  network := rfl

theorem receive_delivers_headers :
    let handler : Handler BacnetIpAddress UInt16 := fun sender _ => (4, sender.port)
    let outcome := bipReceive { unicast := fun _ _ => (0, 0), broadcast := handler } [] 1506
      .threeBytes .twoSockets
    let handler6 : Handler BacnetIp6Address UInt16 := fun sender _ => (10, sender.port)
    let outcome6 := bip6Receive handler6 [] 1506 .twoBytes .oneSocket
    (outcome.npduLen = 3 ∧ outcome.npdu.take 3 = [1, 2, 3] ∧ outcome.src = some 0xBAC0) ∧
      (outcome6.npduLen = 2 ∧ outcome6.npdu.take 2 = [1, 2] ∧ outcome6.src = some 0xBAC0) ∧
      bip6Sender .reference Receive6Replies.twoBytes.sin =
        { address := bip6MulticastSiteLocal, port := 0xBAC0 } := by
  intro handler outcome handler6 outcome6
  have delivers := @receive_delivers UInt16 1506 (by decide) []
  have delivers4 := delivers.1 _ _ _ (fun _ _ => (0, 0)) BipReception.threeBytes
  rcases delivers.2 _ _ _ Bip6Reception.twoBytes with ⟨sender6, delivers6⟩
  have delivered := delivers4.delivered handler 4 rfl rfl (by decide) (by decide)
  have delivered6 := delivers6.delivered handler6 10 rfl rfl (by decide) (by decide)
  exact ⟨⟨delivered.1, delivered.2, delivers4.handled handler rfl⟩,
    ⟨delivered6.1, delivered6.2, delivers6.handled handler6 rfl⟩, sender6 .reference⟩

end BacnetZephyr
