import TelAF.DoipControl

/-!
# After a rejected message

A message whose header is not accepted is skipped: the buffer starts anew and the bytes of
the message that it did not hold are read from the socket and thrown away. The bytes of a
connection are one stream, of which the buffer holds a piece; the next one is taken from the
socket. Skipping consumes the whole buffer and at most 1500 bytes from the socket, which is
the message exactly where the buffer holds nothing behind it and the rest is no longer than
that.

A read of the socket fails or gives some of the bytes asked for. The length of the message
is added up in 32 bits.
-/

namespace TelAF.DoipConnection
open DoipMessages Function List Nat Memory

variable {cfg : DoipConf} {confirm : UserConfirmResult} {s : Stack} {c : ConnId} {m m' : Memory}
  {pos pos' len n : Nat} {reads : List (Option Nat)}

/-- The loop of `ReadAndDiscardMsg` over what the reads give; the bytes it takes. -/
def discardLoop : List (Option Nat) → Nat → Nat
  | [], _ => 0
  | none :: _, _ => 0
  | some n :: reads, len =>
    let receivedLen := min n len
    if len - receivedLen > 0 then receivedLen + discardLoop reads (len - receivedLen) else receivedLen

/-- The bytes that reads give before one of them fails. -/
def supply : List (Option Nat) → Nat
  | [] => 0
  | none :: _ => 0
  | some n :: reads => n + supply reads

/-- The loop takes what is asked for as far as the reads give it. -/
theorem discardLoop_eq : discardLoop reads len = min (supply reads) len := by
  induction reads generalizing len with
  | nil => exact (Nat.zero_min len).symm
  | cons read reads ih =>
    cases read with
    | none => exact (Nat.zero_min len).symm
    | some n =>
      rw [discardLoop, supply, ih]
      split_ifs <;> omega

theorem unpackHeader_congr (h : ∀ i < headerGenericLength, m (pos + i) = m' (pos' + i)) :
    unpackHeaderStruct m pos = unpackHeaderStruct m' pos' := by
  have h0 := h 0 (by decide)
  have h1 := h 1 (by decide)
  have h2 := h 2 (by decide)
  have h3 := h 3 (by decide)
  have h4 := h 4 (by decide)
  have h5 := h 5 (by decide)
  have h6 := h 6 (by decide)
  have h7 := h 7 (by decide)
  rw [add_zero, add_zero] at h0
  unfold unpackHeaderStruct read16 read32
  rw [h0, h1, h2, h3, h4, h5, h6, h7]

/-- A reception buffer that holds bytes of a stream; `start` is the position in the stream
of the first of them. -/
structure Reception where
  stream : Memory
  start : Nat
  buf : Buffer
  fits : buf.dataPos + buf.dataSize ≤ maxBufferSize
  holds : ∀ i < buf.dataSize, buf.data (buf.dataPos + i) = stream (start + i)

namespace Reception

variable {r : Reception}

/-- The position of the first byte that is still to be read from the socket. -/
def taken (r : Reception) : Nat := r.start + r.buf.dataSize

def header (r : Reception) : Header := unpackHeaderStruct r.buf.data r.buf.dataPos

end Reception

/-- A message of a connection is about to be rejected without closing the connection. -/
structure Rejected (cfg : DoipConf) (s : Stack) (c : ConnId) (r : Reception)
    (code : HeaderNackCode) :
    Prop where
  inBuf : (s.connections c).inBuf = some r.buf
  opened : (s.connections c).connState ≠ .finalize
  complete : headerGenericLength ≤ r.buf.dataSize
  error : headerError cfg r.header = some code
  kept : code ≠ .incorrectPatternFormat

/-- What a round asks the socket of a connection to discard. -/
def askedFor (s s' : Stack) (c : ConnId) : Nat :=
  (((s'.discarded.drop s.discarded.length).filter fun d => d.1 = c).map (·.2)).sum

/-- The position in the stream of the first byte that a round has not consumed. -/
def nextUnread (s s' : Stack) (c : ConnId) (r : Reception) (reads : List (Option Nat)) : Nat :=
  r.taken + discardLoop reads (askedFor s s' c) -
    (((s'.connections c).inBuf.map Buffer.dataSize).getD 0)

/-- The header that is parsed once the socket has given the next bytes of the stream. -/
def nextHeader (s' : Stack) (c : ConnId) (arriving : List UInt8) : Option Header :=
  match (s'.connections c).inBuf with
  | none => none
  | some buf => ((receiveTCPData s' c buf (some arriving)).connections c).inBuf.map fun buf =>
      unpackHeaderStruct buf.data buf.dataPos

/-- The round consumed the message of the header, and the header behind it is the next. -/
structure Resynchronised (s s' : Stack) (c : ConnId) (r : Reception) (reads : List (Option Nat)) :
    Prop where
  consumed : nextUnread s s' c r reads = r.start + (headerGenericLength + r.header.payloadLen)
  next : ∀ n ≥ headerGenericLength,
    nextHeader s' c (r.stream.read (r.taken + discardLoop reads (askedFor s s' c)) n) =
      some (unpackHeaderStruct r.stream (r.start + (headerGenericLength + r.header.payloadLen)))

section Round

variable {r : Reception} {code : HeaderNackCode} {allocated : Bool} {count : Nat}

theorem headerError_ne {hdr : Header} : headerError cfg hdr ≠ some .invalidPayloadLength := by
  unfold headerError
  split_ifs <;> nofun

theorem send_discarded (msg : Message) : (s.send c msg).discarded = s.discarded := by
  unfold Stack.send
  split_ifs <;> rfl

theorem Rejected.round (h : Rejected cfg s c r code) (hcnt : count < batchSize) :
    consumeRound cfg confirm s c allocated count = rejectMessage cfg s c r.buf r.header code := by
  unfold consumeRound
  rw [h.inBuf]
  dsimp only
  rw [if_neg (not_not.2 ⟨h.complete, hcnt⟩), if_neg h.opened]
  have herr : headerError cfg (unpackHeaderStruct r.buf.data r.buf.dataPos) = some code := h.error
  rw [herr]
  rfl

section

variable (hcode : ¬ (code = .incorrectPatternFormat ∨ code = .invalidPayloadLength))
include hcode

theorem headerNack_connections :
    (respondHeaderNegativeAck cfg s c code len).connections = s.connections := by
  unfold respondHeaderNegativeAck readAndDiscardMsg
  split_ifs <;> exact DoipControl.send_connections _

theorem headerNack_askedFor :
    askedFor s (respondHeaderNegativeAck cfg s c code len) c = min len maxBufferSize := by
  unfold respondHeaderNegativeAck readAndDiscardMsg askedFor
  split_ifs with hlen
  · rw [send_discarded, drop_length, hlen]
    rfl
  dsimp only
  rw [send_discarded]
  simp

end

/-- Skipping empties the buffer and asks for the rest of the message, up to 1500 bytes. -/
theorem Rejected.skips (h : Rejected cfg s c r code) :
    ((rejectMessage cfg s c r.buf r.header code).connections c).inBuf = some r.buf.reset ∧
    askedFor s (rejectMessage cfg s c r.buf r.header code) c =
      min (bytesLeft r.header r.buf) maxBufferSize := by
  have hcode : ¬ (code = .incorrectPatternFormat ∨ code = .invalidPayloadLength) := by
    rintro (rfl | rfl)
    · exact h.kept rfl
    · exact headerError_ne h.error
  have hopen :
      ((respondHeaderNegativeAck cfg s c code (bytesLeft r.header r.buf)).connections c).connState
      ≠ .finalize := by
    rw [headerNack_connections hcode]
    exact h.opened
  rw [← headerNack_askedFor hcode]
  unfold rejectMessage
  rw [if_neg hopen]
  unfold stopConsuming setBuffer Stack.modify
  refine ⟨?_, rfl⟩
  dsimp only
  rw [update_self, update_self]

/-- What comes in after a message was skipped starts the buffer. -/
theorem receiveTCPData_reset (s : Stack) (c : ConnId) (buf : Buffer) (bytes : List UInt8) :
    ((receiveTCPData s c buf.reset (some bytes)).connections c).inBuf =
      some ⟨buf.data.write 0 (bytes.take maxBufferSize), (bytes.take maxBufferSize).length, 0⟩ := by
  have hrset : (if maxBufferSize - (buf.reset.dataPos + buf.reset.dataSize) ≤ maxMsgLenExceptUds then
      buf.reset.reset else buf.reset) = buf.reset := by
    split_ifs <;> rfl
  unfold receiveTCPData
  simp only [hrset]
  unfold setBuffer Stack.modify Buffer.reset
  split_ifs
  all_goals simp only [update_self, Nat.zero_add, Nat.sub_zero]

theorem nextHeader_of_reset {s' : Stack} (hbuf : (s'.connections c).inBuf = some r.buf.reset)
    (hn : headerGenericLength ≤ n) :
    nextHeader s' c (r.stream.read pos n) = some (unpackHeaderStruct r.stream pos) := by
  unfold nextHeader
  rw [hbuf]
  dsimp only
  rw [receiveTCPData_reset]
  refine congrArg some (unpackHeader_congr fun i hi => ?_)
  unfold headerGenericLength at hi hn
  unfold Memory.write Memory.read
  have hlen :
      (((range n).map fun i => r.stream (pos + i)).take maxBufferSize).length = min 1500 n := by
    rw [length_take, length_map, length_range, maxBufferSize]
  dsimp only
  rw [if_pos (by omega), Nat.zero_add, Nat.sub_zero, getD_eq_getElem?_getD,
    getElem?_take_of_lt (show i < maxBufferSize by unfold maxBufferSize; omega),
    getElem?_map, getElem?_range (by omega)]
  rfl

/-- After a rejected message the connection goes on with the one that follows it exactly
when the buffer held nothing behind it, the rest of it was at most 1500 bytes long and the
socket gave all of these. -/
theorem resynchronised_iff (cfg : DoipConf) (confirm : UserConfirmResult) (s : Stack) (c : ConnId)
    (allocated : Bool) (count : Nat) (r : Reception) (code : HeaderNackCode)
    (reads : List (Option Nat))
    (h : Rejected cfg s c r code) (hcount : count < batchSize) :
    Resynchronised s (consumeRound cfg confirm s c allocated count) c r reads ↔
      r.buf.dataSize ≤ headerGenericLength + r.header.payloadLen ∧
      headerGenericLength + r.header.payloadLen ≤ r.buf.dataSize + maxBufferSize ∧
      headerGenericLength + r.header.payloadLen ≤ r.buf.dataSize + supply reads := by
  rw [h.round hcount]
  obtain ⟨hbuf, hasked⟩ := h.skips
  have hnext : nextUnread s (rejectMessage cfg s c r.buf r.header code) c r reads =
      r.start +
          (r.buf.dataSize + min (supply reads) (min (bytesLeft r.header r.buf) maxBufferSize)) := by
    unfold nextUnread Reception.taken
    rw [hbuf, discardLoop_eq]
    change _ - 0 = _
    omega
  have hsize : r.buf.dataSize ≤ maxBufferSize := Nat.le_trans (Nat.le_add_left _ _) r.fits
  have hiff : r.buf.dataSize + min (supply reads) (min (bytesLeft r.header r.buf) maxBufferSize) =
      headerGenericLength + r.header.payloadLen ↔
        r.buf.dataSize ≤ headerGenericLength + r.header.payloadLen ∧
        headerGenericLength + r.header.payloadLen ≤ r.buf.dataSize + maxBufferSize ∧
        headerGenericLength + r.header.payloadLen ≤ r.buf.dataSize + supply reads := by
    unfold bytesLeft u32
    unfold maxBufferSize at *
    omega
  constructor
  · intro hresync
    have hconsumed := hresync.consumed
    rw [hnext] at hconsumed
    exact hiff.1 (Nat.add_left_cancel hconsumed)
  intro hcond
  have hconsumed := hiff.2 hcond
  refine ⟨by rw [hnext, hconsumed], fun n hn => ?_⟩
  rw [nextHeader_of_reset hbuf hn, hasked, discardLoop_eq]
  unfold Reception.taken
  rw [Nat.add_assoc, hconsumed]

end Round

/-- A message of an unknown type with two bytes of payload, then an alive check request. -/
def unknownThenAliveCheck : Memory := fun i =>
  [0x02, 0xFD, 0xAB, 0xCD, 0, 0, 0, 2, 1, 1, 0x02, 0xFD, 0x00, 0x07, 0, 0, 0, 0].getD i 0

/-- The first bytes of that stream in an otherwise new buffer. -/
def unknownReceived (dataSize : Nat) (h : dataSize ≤ maxBufferSize) : Reception where
  stream := unknownThenAliveCheck
  start := 0
  buf := ⟨unknownThenAliveCheck, dataSize, 0⟩
  fits := by
    rw [Nat.zero_add]
    exact h
  holds := fun _ _ => rfl

def testerConf : DoipConf where
  entitySA := 0x1000
  maxSockNum := 4
  maxDataSize := 4096
  authEnableStatus := false
  authInfo := 0
  isFunctionalAddress := fun _ => false

/-- A stack with the buffer of one connection. -/
def receivedStack (r : Reception) : Stack :=
  { initStack with
    connections := fun _ => { newConnection 0 with inBuf := some r.buf }
    created := 1
    connectionBox := [0] }

theorem unknownReceived_rejected {dataSize : Nat} (h : dataSize ≤ maxBufferSize)
    (hsize : headerGenericLength ≤ dataSize) :
    Rejected testerConf (receivedStack (unknownReceived dataSize h)) 0
      (unknownReceived dataSize h) .unknownPayloadType := by
  have herr : headerError testerConf (unpackHeaderStruct unknownThenAliveCheck 0) =
      some .unknownPayloadType := by decide +kernel
  exact ⟨rfl, nofun, hsize, herr, nofun⟩

/-- Nine of the ten bytes have come, the socket gives the other one. -/
theorem resynchronised_iff_nine :
    ∃ r, r = unknownReceived 9 (by decide) ∧
      (Resynchronised (receivedStack r) (consumeRound testerConf .noNeed (receivedStack r) 0 true 0) 0 r
        [some 1] ↔
        r.buf.dataSize ≤ headerGenericLength + r.header.payloadLen ∧
        headerGenericLength + r.header.payloadLen ≤ r.buf.dataSize + maxBufferSize ∧
        headerGenericLength + r.header.payloadLen ≤ r.buf.dataSize + supply [some 1]) :=
  ⟨_, rfl, resynchronised_iff _ _ _ _ _ _ _ .unknownPayloadType _
    (unknownReceived_rejected _ (by decide)) (by decide)⟩

/-- Both messages are in the buffer, and both are thrown away. -/
theorem not_resynchronised :
    ¬ ∀ (cfg : DoipConf) (s : Stack) (c : ConnId) (r : Reception) (code : HeaderNackCode),
    Rejected cfg s c r code →
      Resynchronised s (consumeRound cfg .noNeed s c true 0) c r [] := by
  intro h
  have hboth := (h testerConf _ 0 _ _ (unknownReceived_rejected (by decide : 18 ≤ maxBufferSize) (by decide))).consumed
  exact absurd hboth (by decide +kernel)

end TelAF.DoipConnection
