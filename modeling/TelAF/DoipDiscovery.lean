import TelAF.DoipResync

/-!
# UDP discovery

A tester looks for the entity with requests over UDP. A datagram is received into the front of
one buffer that is never cleared, so that what earlier datagrams left stands behind it. The
header is checked in one function, the length of the payload in the handlers of some requests.
An answer is sent from the local address with the prefix of the sender, and dropped if none has
it.
-/

namespace TelAF.DoipDiscovery
open DoipMessages

abbrev eidSize : Nat := 6
abbrev gidSize : Nat := 6
abbrev vinSize : Nat := 17
abbrev maxInfNum : Nat := 8

abbrev vehicleIdentifyRequest : PayloadType := .other 0x0001
abbrev vehicleIdentifyRequestEid : PayloadType := .other 0x0002
abbrev vehicleIdentifyRequestVin : PayloadType := .other 0x0003
abbrev entityStatusRequest : PayloadType := .other 0x4001
abbrev powerModeInfoRequest : PayloadType := .other 0x4003

def noFurtherActionRequired : UInt8 := 0x00
def furtherActionRequired : UInt8 := 0x10

/-- The sender of a datagram, to which the answer goes. -/
structure Link where
  ip : String
  port : UInt16
deriving DecidableEq

/-- A response that identifies the vehicle; an unset VIN leaves its bytes open. -/
structure Identification where
  vin : Option (Vector UInt8 vinSize)
  entityLA : LogicalAddress
  eid : Vector UInt8 eidSize
  gid : Vector UInt8 gidSize
  furtherAction : UInt8
deriving DecidableEq

inductive UdpMessage where
  | vehicleIdRes (res : Identification)
  | entityStatusRes (maxCTS numCTS : UInt8) (maxDataSize : UInt32)
  | powerModeRes (powerMode : UInt8)
  | headerNegativeAck (code : HeaderNackCode)
deriving DecidableEq

/-- The options of the build. -/
structure Options where
  vinReqWithEid : Bool
  entityStatusReq : Bool

abbrev Ipv6 := Vector UInt8 16

inductive Address where
  | ipv4 (addr : UInt32)
  | ipv6 (addr : Ipv6)

/-- The address of an interface that the entity listens on. An unused one, and the masks of
IPv6 ones, are zero. -/
structure IPInfo where
  addr : UInt32
  mask : UInt32
  localIp : String

/-- An IPv6 address that `getifaddrs` lists, with its mask if there is one. -/
structure Interface where
  upAndRunning : Bool
  ip : String
  addr : Ipv6
  netMask : Option Ipv6

/-- What an answer needs: how `inet_pton` reads an address, the addresses of the entity and of the
host (`getifaddrs` may fail), and whether a socket of the local address sends. -/
structure Network where
  inetPton : String → Option Address
  localIpInfo : Vector IPInfo maxInfNum
  interfaces : Option (List Interface)
  sendTo : String → Link → Bool

abbrev Sent := List (Link × UdpMessage)

namespace Network

variable (net : Network)

def localIps : List String := net.localIpInfo.toList.map IPInfo.localIp

/-- The first address with the prefix; an unused one has the empty prefix. -/
def getLocalIPv4FromSource (src : UInt32) : Option String :=
  (net.localIpInfo.toList.find? fun info => src &&& info.mask = info.addr &&& info.mask).map
    IPInfo.localIp

/-- The first address that agrees in the masked bits of the first eight bytes. -/
def getLocalIPv6FromSource (src : Ipv6) : Option String := do
  let interfaces ← net.interfaces
  let found ← interfaces.find? fun i => i.upAndRunning && i.netMask.any fun mask =>
    decide (∀ k : Fin 16, k.val < 8 → src[k] &&& mask[k] = i.addr[k] &&& mask[k])
  some found.ip

def localAddress (ip : String) : Option String :=
  match net.inetPton ip with
  | none => none
  | some (.ipv4 src) => net.getLocalIPv4FromSource src
  | some (.ipv6 src) => net.getLocalIPv6FromSource src

/-- An answer is sent to the link. -/
def reaches (link : Link) : Bool := (net.localAddress link.ip).any fun ip => net.sendTo ip link

def sendUDPData (link : Link) (message : UdpMessage) : Sent :=
  match net.localAddress link.ip with
  | none => []
  | some ip => if net.sendTo ip link then [(link, message)] else []

end Network

/-- What requests are answered from. The sockets are open only with a parsed configuration;
`powerMode` is what the handler of the power mode query gives. -/
structure Vehicle extends DoipConnection.DoipConf, Network where
  options : Options
  vin : Option (Vector UInt8 vinSize)
  eid : Vector UInt8 eidSize
  gid : Vector UInt8 gidSize
  connectionNum : UInt32
  powerMode : UInt8

section Handlers

variable (v : Vehicle) (link : Link)

def respondHeaderNegativeACK (code : HeaderNackCode) : Sent :=
  v.sendUDPData link (.headerNegativeAck code)

def Vehicle.idRes : UdpMessage :=
  .vehicleIdRes {
    vin := v.vin
    entityLA := v.entitySA
    eid := v.eid
    gid := v.gid
    furtherAction :=
      if v.authEnableStatus then furtherActionRequired else noFurtherActionRequired }

def vehicleIdentifyReqHandler : Sent := v.sendUDPData link v.idRes

/-- The request for the vehicle with an identification of `n` bytes; ours may not be set. -/
def vehicleIdentifyReqWithIdHandler {n : Nat} (ours : Option (Vector UInt8 n)) (data : Memory)
    (payloadLen : Nat) : Sent :=
  if payloadLen ≠ n then respondHeaderNegativeACK v link .invalidPayloadLength
  else if ours.map Vector.toList ≠ some (data.read headerGenericLength n) then []
  else vehicleIdentifyReqHandler v link

def vehicleIdentifyReqWithEidHandler : Memory → Nat → Sent :=
  vehicleIdentifyReqWithIdHandler v link (some v.eid)

def vehicleIdentifyReqWithVinHandler : Memory → Nat → Sent :=
  vehicleIdentifyReqWithIdHandler v link v.vin

def Vehicle.statusRes : UdpMessage :=
  .entityStatusRes v.maxSockNum.toUInt8 v.connectionNum.toUInt8 v.maxDataSize

def entityStatusReqHandler : Sent := v.sendUDPData link v.statusRes

def powerModeReqHandler : Sent := v.sendUDPData link (.powerModeRes v.powerMode)

def Vehicle.supports (type : PayloadType) : Bool :=
  type = vehicleIdentifyRequest || v.options.vinReqWithEid && type = vehicleIdentifyRequestEid ||
    type = vehicleIdentifyRequestVin || v.options.entityStatusReq && type = entityStatusRequest ||
    type = powerModeInfoRequest

/-- The code of the negative response if the check of the header fails. -/
def checkDoipHeaderOverUdp (header : Header) (udpDataLen : Nat) : Option HeaderNackCode :=
  if header.protocolVer ≠ 0x01 ∧ header.protocolVer ≠ 0x02 ∧ header.protocolVer ≠ 0x03 ∧
      header.protocolVer ≠ 0xFF then some .incorrectPatternFormat
  else if header.protocolVer ≠ ~~~header.invProtocolVer then some .incorrectPatternFormat
  else if ¬ v.supports header.payloadType then some .unknownPayloadType
  else if header.payloadLen > v.maxDataSize.toNat then some .messageTooLarge
  else if header.payloadLen > udpDataLen - headerGenericLength then some .outOfMemory
  else none

def entityProcessDoipMessageOverUdp (data : Memory) (header : Header) : Sent :=
  if header.payloadType = vehicleIdentifyRequest then vehicleIdentifyReqHandler v link
  else if header.payloadType = vehicleIdentifyRequestEid then
    vehicleIdentifyReqWithEidHandler v link data header.payloadLen
  else if header.payloadType = vehicleIdentifyRequestVin then
    vehicleIdentifyReqWithVinHandler v link data header.payloadLen
  else if header.payloadType = entityStatusRequest then entityStatusReqHandler v link
  else if header.payloadType = powerModeInfoRequest then powerModeReqHandler v link
  else []

inductive Result where
  | ok
  | messageTooShort
  | hdrError

/-- The result, the buffer and what is sent for a datagram that `le_socket_RecvFrom` gave to an
entity. Announcements of our own are filtered out. -/
def recvUdpData (udpDataBuffer : Memory) (data : List UInt8) : Result × Memory × Sent :=
  let udpDataBuffer := udpDataBuffer.write 0 data
  if link.ip ∈ v.localIps then (.ok, udpDataBuffer, [])
  else if link.ip = "0.0.0.0" then (.ok, udpDataBuffer, [])
  else if data.length < headerGenericLength then (.messageTooShort, udpDataBuffer, [])
  else
    let hdr := unpackHeaderStruct udpDataBuffer 0
    match checkDoipHeaderOverUdp v hdr data.length with
    | some code => (.hdrError, udpDataBuffer, respondHeaderNegativeACK v link code)
    | none => (.ok, udpDataBuffer, entityProcessDoipMessageOverUdp v link udpDataBuffer hdr)

end Handlers

/-! ## The answer that a datagram should have -/

section Grammar

variable (v : Vehicle) (data : List UInt8)

def headerOf : Header := unpackHeaderStruct (Memory.zero.write 0 data) 0

/-- The rules for a header in their order, each with the response to one that breaks it. -/
def headerRules (hdr : Header) (received : Nat) : List (HeaderNackCode × Bool) :=
  [(.incorrectPatternFormat, hdr.protocolVer ∈ [0x01, 0x02, 0x03, 0xFF] ∧
      hdr.protocolVer = ~~~hdr.invProtocolVer),
    (.unknownPayloadType, v.supports hdr.payloadType),
    (.messageTooLarge, hdr.payloadLen ≤ v.maxDataSize.toNat),
    (.outOfMemory, headerGenericLength + hdr.payloadLen ≤ received)]

def requiredLength (type : PayloadType) : Nat :=
  if type = vehicleIdentifyRequestEid then eidSize
  else if type = vehicleIdentifyRequestVin then vinSize
  else 0

def response (type : PayloadType) (payload : List UInt8) : Option UdpMessage :=
  if type = entityStatusRequest then some v.statusRes
  else if type = powerModeInfoRequest then some (.powerModeRes v.powerMode)
  else if type = vehicleIdentifyRequestEid ∧ some v.eid.toList ≠ some payload then none
  else if type = vehicleIdentifyRequestVin ∧ v.vin.map Vector.toList ≠ some payload then none
  else some v.idRes

def rules (hdr : Header) (received : Nat) : List (HeaderNackCode × Bool) :=
  headerRules v hdr received ++
    [(.invalidPayloadLength, decide (hdr.payloadLen = requiredLength hdr.payloadType))]

/-- The response to the first rule that is broken, or else the one to the request. -/
def answer : Option UdpMessage :=
  match (rules v (headerOf data) data.length).find? (! ·.2) with
  | some rule => some (.headerNegativeAck rule.1)
  | none => response v (headerOf data).payloadType
      ((data.drop headerGenericLength).take (headerOf data).payloadLen)

/-- The datagram has a header and comes from another host. -/
def Arrives (remote : Link) : Prop :=
  remote.ip ∉ v.localIps ∧ remote.ip ≠ "0.0.0.0" ∧ headerGenericLength ≤ data.length
deriving Decidable

/-- A request that takes no payload has one. -/
def Overlong : Prop :=
  (∀ rule ∈ headerRules v (headerOf data) data.length, rule.2) ∧
    requiredLength (headerOf data).payloadType = 0 ∧ (headerOf data).payloadLen ≠ 0
deriving Decidable

end Grammar

/-- Whatever the buffer holds, the answer of a datagram is sent to where it came from, and nothing
else. -/
def Answered (v : Vehicle) (data : List UInt8) (remote : Link) : Prop :=
  ∀ udpDataBuffer, (recvUdpData v remote udpDataBuffer data).2.2 =
    if Arrives v data remote then (answer v data).toList.map (remote, ·) else []

/-! ## What is sent -/

section

variable {v : Vehicle} {data : List UInt8} {link : Link} {m : Memory} {hdr : Header} {n : Nat}

theorem sendUDPData_eq (message : UdpMessage) :
    v.sendUDPData link message = if v.reaches link then [(link, message)] else [] := by
  unfold Network.sendUDPData Network.reaches
  cases v.localAddress link.ip <;> rfl

/-- The messages that are sent, if any, where answers get through. -/
def sentTo (v : Vehicle) (link : Link) (message : Option UdpMessage) : Sent :=
  if v.reaches link then message.toList.map (link, ·) else []

theorem sendUDPData_eq_sentTo (message : UdpMessage) :
    v.sendUDPData link message = sentTo v link (some message) := sendUDPData_eq message

@[simp] theorem sentTo_none : sentTo v link none = [] := ite_self _

theorem sentTo_eq_iff {message : Option UdpMessage} :
    sentTo v link message = message.toList.map (link, ·) ↔
      (message ≠ none → v.reaches link) := by
  unfold sentTo
  cases message with
  | none => simp
  | some message => by_cases hreac : v.reaches link <;> simp [hreac]

theorem sentTo_ne {message expected : Option UdpMessage} (hne : message ≠ expected)
    (hdue : expected ≠ none) : sentTo v link message ≠ expected.toList.map (link, ·) := by
  unfold sentTo
  rcases message with _ | message <;> rcases expected with _ | expected
  · exact absurd rfl hdue
  · simp
  · exact absurd rfl hdue
  · split_ifs
    · simpa using hne
    · simp

/-- What earlier datagrams left does not show in the header. -/
theorem unpackHeader_write (hlen : headerGenericLength ≤ data.length) :
    unpackHeaderStruct (m.write 0 data) 0 = headerOf data :=
  DoipConnection.unpackHeader_congr fun i hi => by
    have hin : 0 ≤ 0 + i ∧ 0 + i < 0 + data.length := by omega
    exact (if_pos hin).trans (if_pos hin).symm

/-- Nor in a payload that the datagram holds. -/
theorem read_write (hlen : headerGenericLength + n ≤ data.length) :
    (m.write 0 data).read headerGenericLength n = (data.drop headerGenericLength).take n := by
  refine List.ext_getElem ?_ fun i hi hi' => ?_
  · simp [Memory.read]
    omega
  · simp only [Memory.read, List.length_map, List.length_range] at hi
    simp [Memory.read, Memory.write, show headerGenericLength + i < data.length by omega]

theorem checkDoipHeaderOverUdp_eq (hlen : headerGenericLength ≤ n) :
    checkDoipHeaderOverUdp v hdr n = ((headerRules v hdr n).find? (! ·.2)).map Prod.fst := by
  have hfit : hdr.payloadLen > n - headerGenericLength ↔
      ¬ headerGenericLength + hdr.payloadLen ≤ n := by
    omega
  unfold checkDoipHeaderOverUdp headerRules
  split_ifs <;> grind

theorem response_ne {type : PayloadType} {payload : List UInt8} {code : HeaderNackCode} :
    response v type payload ≠ some (.headerNegativeAck code) := by
  unfold response
  split_ifs <;> nofun

variable (hlen : headerGenericLength + hdr.payloadLen ≤ data.length)
include hlen

theorem identifyWithId_eq (ours : Option (Vector UInt8 n)) :
    vehicleIdentifyReqWithIdHandler v link ours (m.write 0 data) hdr.payloadLen =
      sentTo v link (if hdr.payloadLen ≠ n then some (.headerNegativeAck .invalidPayloadLength)
      else if ours.map Vector.toList ≠
        some ((data.drop headerGenericLength).take hdr.payloadLen) then none
      else some v.idRes) := by
  unfold vehicleIdentifyReqWithIdHandler
  by_cases hn : hdr.payloadLen = n
  · subst hn
    rw [read_write hlen, if_neg (not_not.2 rfl), if_neg (not_not.2 rfl)]
    split_ifs
    · exact sentTo_none.symm
    · exact sendUDPData_eq_sentTo _
  · rw [if_pos hn, if_pos hn]
    exact sendUDPData_eq_sentTo _

/-- The lengths of the payloads are only checked where there is something to compare. -/
theorem entityProcessDoipMessageOverUdp_eq (hsup : v.supports hdr.payloadType) :
    entityProcessDoipMessageOverUdp v link (m.write 0 data) hdr =
      sentTo v link (if requiredLength hdr.payloadType ≠ 0 ∧
          hdr.payloadLen ≠ requiredLength hdr.payloadType then
        some (.headerNegativeAck .invalidPayloadLength)
      else response v hdr.payloadType
        ((data.drop headerGenericLength).take hdr.payloadLen)) := by
  have htype : hdr.payloadType = vehicleIdentifyRequest ∨
      hdr.payloadType = vehicleIdentifyRequestEid ∨
      hdr.payloadType = vehicleIdentifyRequestVin ∨ hdr.payloadType = entityStatusRequest ∨
      hdr.payloadType = powerModeInfoRequest := by
    simp only [Vehicle.supports, Bool.or_eq_true, Bool.and_eq_true, decide_eq_true_eq] at hsup
    tauto
  unfold entityProcessDoipMessageOverUdp
  rcases htype with h | h | h | h | h
  all_goals rw [h]
  case inr.inl =>
    exact (identifyWithId_eq hlen _).trans (by simp [requiredLength, response])
  case inr.inr.inl =>
    exact (identifyWithId_eq hlen _).trans (by simp [requiredLength, response])
  all_goals exact sendUDPData_eq_sentTo _

end

/-- What is sent for a datagram that arrives: its answer, with the length of a payload that nobody
looks at left out. -/
theorem recvUdpData_eq {v : Vehicle} {data : List UInt8} {link : Link} (m : Memory)
    (harrv : Arrives v data link) : (recvUdpData v link m data).2.2 = sentTo v link
      (if Overlong v data then response v (headerOf data).payloadType
        ((data.drop headerGenericLength).take (headerOf data).payloadLen)
      else answer v data) := by
  obtain ⟨hloca, hany, hlen⟩ := harrv
  unfold recvUdpData
  simp only [if_neg hloca, if_neg hany, if_neg (Nat.not_lt.2 hlen), answer, rules,
    unpackHeader_write hlen, checkDoipHeaderOverUdp_eq hlen, List.find?_append]
  rcases hfind : (headerRules v (headerOf data) data.length).find? (! ·.2) with _ | rule
  · have hkeep : ∀ rule ∈ headerRules v (headerOf data) data.length, rule.2 := by
      simpa using hfind
    have hfits := of_decide_eq_true (hkeep _ (.tail _ (.tail _ (.tail _ (.head _)))))
    simp only [hfind, Option.map_none, Option.none_or,
      entityProcessDoipMessageOverUdp_eq hfits (hkeep _ (.tail _ (.head _)))]
    by_cases hleng : (headerOf data).payloadLen = requiredLength (headerOf data).payloadType
    · have hsht : ¬ Overlong v data := fun h => h.2.2 (hleng.trans h.2.1)
      simp [hleng, hsht]
    · by_cases htake : requiredLength (headerOf data).payloadType = 0
      · have hlong : Overlong v data := ⟨hkeep, htake, htake ▸ hleng⟩
        rw [if_neg fun h => h.1 htake, if_pos hlong]
      · have hsht : ¬ Overlong v data := fun h => htake h.2.1
        rw [if_pos ⟨htake, hleng⟩, if_neg hsht, List.find?_cons_of_pos (by simp [hleng])]
  · have hbrok : ¬ Overlong v data := fun h => by
      simpa [h.1 rule (List.mem_of_find?_eq_some hfind)] using List.find?_some hfind
    simp only [hfind, Option.map_some, Option.some_or, if_neg hbrok]
    exact sendUDPData_eq_sentTo _

/-- The answer to an overlong request is a header NACK, not its response. -/
theorem answer_ne_response {v : Vehicle} {data : List UInt8} (h : Overlong v data) :
    response v (headerOf data).payloadType
        ((data.drop headerGenericLength).take (headerOf data).payloadLen) ≠ answer v data ∧
      answer v data ≠ none := by
  obtain ⟨hkeep, htake, hlong⟩ := h
  have hnone : (headerRules v (headerOf data) data.length).find? (! ·.2) = none := by
    simpa using hkeep
  have hansw : answer v data = some (.headerNegativeAck .invalidPayloadLength) := by
    unfold answer rules
    rw [List.find?_append, hnone, Option.none_or,
      List.find?_cons_of_pos (by simp [htake, hlong])]
  rw [hansw]
  exact ⟨response_ne, Option.some_ne_none _⟩

/-- Every datagram is answered as it should be, except for a request whose payload is not looked
at and for an answer that does not get through. -/
theorem answered_iff (v : Vehicle) (data : List UInt8) (remote : Link) :
    Answered v data remote ↔ ¬ (Arrives v data remote ∧ Overlong v data) ∧
      (Arrives v data remote → answer v data ≠ none → v.reaches remote) := by
  unfold Answered
  by_cases harrives : Arrives v data remote
  · simp only [recvUdpData_eq _ harrives, harrives, true_and, forall_const, if_true]
    by_cases hlong : Overlong v data
    · obtain ⟨hne, hdue⟩ := answer_ne_response hlong
      rw [if_pos hlong]
      exact iff_of_false (sentTo_ne hne hdue) fun h => h.1 hlong
    · rw [if_neg hlong, sentTo_eq_iff]
      exact (and_iff_right hlong).symm
  · refine iff_of_true (fun m => ?_) ⟨fun h => harrives h.1, fun h => absurd h harrives⟩
    unfold recvUdpData
    split_ifs with hlocal hany hlen
    iterate 3 rfl
    exact absurd ⟨hlocal, hany, Nat.not_lt.1 hlen⟩ harrives

def unused : IPInfo := ⟨0, 0, ""⟩

def vehicle : Vehicle where
  toDoipConf := ⟨0x1000, 10, 4096, false, 0, fun _ => false⟩
  inetPton := fun ip => if ip = "192.168.1.2" then some (.ipv4 0x0201A8C0) else none
  localIpInfo := .replicate _ unused
  interfaces := none
  sendTo := fun _ _ => true
  options := ⟨false, false⟩
  vin := none
  eid := .replicate _ 0
  gid := .replicate _ 0
  connectionNum := 0
  powerMode := 1

/-- A power mode request with a payload of one byte. -/
theorem payload_not_checked :
    ¬ Answered vehicle [0x02, 0xFD, 0x40, 0x03, 0, 0, 0, 1, 0] ⟨"192.168.1.2", 13400⟩ :=
  fun h => absurd (h Memory.zero) (by decide)

end TelAF.DoipDiscovery
