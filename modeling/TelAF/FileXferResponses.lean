import TelAF.BigEndian
import TelAF.RefMap
import TelAF.TransitionRuns

/-!
# File-transfer responses

The application sets the file position or the sizes of a file-transfer request before it
sends the response. The update service encodes them into members that all requests share:
what the last call left there goes into the response, and both sizes are cut to the width of
the last uncompressed one. The sizes are gathered in an array of a block that has ended when
the response is sent.

`System` keeps the accepted calls beside the service. The invariant `Encoded` says that the
members encode the last calls. A file position is carried exactly when the last call set it,
whichever message it was for; sizes are not promised at all, and where the memory of the
array is left alone they are carried under the same condition and a bound on the width.
-/

namespace TelAF.FileXferResponses

open BigEndian TransitionRuns List Nat Option

abbrev readFile : UInt8 := 0x04
abbrev readDir : UInt8 := 0x05
abbrev resumeFile : UInt8 := 0x06

/-- The sizes of the members, constants of the interface of the service. A file position
has 64 bits, a size 32. -/
structure ApiSizes where
  filePositionSize : Nat
  fileSizeOrDirInfoLen : Nat
  filePosition_fits : filePositionSize = 8
  fileSize_fits : 4 ≤ fileSizeOrDirInfoLen
  fileSize_word : fileSizeOrDirInfoLen ≤ 8

structure FileXferRxMsg where
  operationType : UInt8

structure UpdateSvr where
  rxFileXferMsgRefMap : RefMap FileXferRxMsg
  mFilePosition : List UInt8
  nCharsToSave : Nat
  nCharsToNotUsed : Nat
  mFileSizeUncompressedOrDirInfoLength : List UInt8
  mFileSizeCompressed : List UInt8
  mFileSizeOrDirInfoParameterLength : List UInt8

inductive LeResult where
  | ok
  | notFound
  | badParameter
  | overflow
  | fault
deriving DecidableEq

def bigEndianNumberFormat (number bufsiz : Nat) : List UInt8 :=
  (List.range bufsiz).map fun i => UInt8.ofNat (number >>> (8 * (bufsiz - i - 1)))

/-- The bits that the loop of `HowManyChars` counts, at most 64. -/
def bitCount : Nat → Nat → Nat
  | 0, _ => 0
  | bits + 1, bigNumber => if bigNumber = 0 then 0 else bitCount bits (bigNumber / 2) + 1

def howManyChars (bigNumber : UInt64) : Nat := (bitCount 64 bigNumber.toNat + 7) / 8

section
variable (api : ApiSizes) (svr : UpdateSvr)

def setFilePosition (rxMsgRef : Nat) (filePosition : UInt64) : UpdateSvr × LeResult :=
  match svr.rxFileXferMsgRefMap.lookup rxMsgRef with
  | none => (svr, .notFound)
  | some msg =>
    if msg.operationType ≠ resumeFile then (svr, .badParameter)
    else
      ({ svr with
          mFilePosition := bigEndianNumberFormat filePosition.toNat api.filePositionSize }, .ok)

def setFileSizeOrDirInfoLength (rxMsgRef : Nat)
    (fileSizeUncompressedOrDirInfoLength fileSizeCompressed : UInt64) : UpdateSvr × LeResult :=
  match svr.rxFileXferMsgRefMap.lookup rxMsgRef with
  | none => (svr, .notFound)
  | some msg =>
    if fileSizeUncompressedOrDirInfoLength.toNat > 0xFFFFFFFF ∨
        fileSizeCompressed.toNat > 0xFFFFFFFF then (svr, .overflow)
    else if msg.operationType ≠ readFile ∧
      msg.operationType ≠ readDir then (svr, .badParameter)
    else
      let nCharsToSave := howManyChars fileSizeUncompressedOrDirInfoLength
      ({ svr with
          nCharsToSave := nCharsToSave
          nCharsToNotUsed := api.fileSizeOrDirInfoLen - nCharsToSave
          mFileSizeUncompressedOrDirInfoLength := bigEndianNumberFormat
            fileSizeUncompressedOrDirInfoLength.toNat api.fileSizeOrDirInfoLen
          mFileSizeCompressed :=
            if msg.operationType = readFile then
              bigEndianNumberFormat fileSizeCompressed.toNat api.fileSizeOrDirInfoLen
            else svr.mFileSizeCompressed
          mFileSizeOrDirInfoParameterLength := bigEndianNumberFormat nCharsToSave 2 }, .ok)

/-- What a response is sent from: an array of the service, or one of a block that has ended. -/
inductive Buffer where
  | member (bytes : List UInt8)
  | ofBlock (written : List UInt8)

/-- The buffer of a positive response; `none` where the member would be exceeded. -/
def responseBuffer (operationType : UInt8) : Option Buffer :=
  let uncompressed := (svr.mFileSizeUncompressedOrDirInfoLength.drop svr.nCharsToNotUsed).take
    svr.nCharsToSave
  let compressed := (svr.mFileSizeCompressed.drop svr.nCharsToNotUsed).take svr.nCharsToSave
  if operationType = resumeFile then some (.member svr.mFilePosition)
  else if operationType = readDir then
    some (.ofBlock (svr.mFileSizeOrDirInfoParameterLength ++ uncompressed))
  else if operationType = readFile then
    if svr.nCharsToSave > api.fileSizeOrDirInfoLen then none
    else some (.ofBlock (svr.mFileSizeOrDirInfoParameterLength ++ uncompressed ++ compressed))
  else some (.member [])

end

/-- What is found in the array of a block after its end, by what was written there. The
language leaves it open. -/
structure EndedBlock where
  left : List UInt8 → List UInt8
  length_left : ∀ written, (left written).length = written.length

/-- The memory of the array is not used again. -/
def EndedBlock.kept : EndedBlock := ⟨id, fun _ => rfl⟩

/-- The memory of the array holds other bytes. -/
def EndedBlock.reused : EndedBlock := ⟨map fun _ => 0xFF, fun _ => length_map _⟩

/-- The bytes that the stack takes. -/
def Buffer.read (ended : EndedBlock) : Buffer → List UInt8
  | .member bytes => bytes
  | .ofBlock written => ended.left written

/-- What the applications and the UDS stack do. A response names the outcome of looking up
the service of the message and of handing the response to the stack. -/
inductive Action where
  | received (operationType : UInt8)
  | setFilePosition (rxMsgRef : Nat) (filePosition : UInt64)
  | setFileSizeOrDirInfoLength (rxMsgRef : Nat) (uncompressed compressed : UInt64)
  | sendFileXferResp (rxMsgRef : Nat) (errCode : UInt8) (svcFound responded : Bool)
  | released (rxMsgRef : Nat)

/-- An accepted call that set values for a message. -/
inductive SetCall where
  | position (rxMsgRef : Nat) (filePosition : UInt64)
  | sizes (rxMsgRef : Nat) (operationType : UInt8) (uncompressed compressed : UInt64)

/-- The service and the accepted calls, the last one first. -/
structure System where
  svr : UpdateSvr
  calls : List SetCall

def initialSystem (api : ApiSizes) : System where
  svr :=
    { rxFileXferMsgRefMap := .empty
      mFilePosition := List.replicate api.filePositionSize 0
      nCharsToSave := 0
      nCharsToNotUsed := 0
      mFileSizeUncompressedOrDirInfoLength := List.replicate api.fileSizeOrDirInfoLen 0
      mFileSizeCompressed := List.replicate api.fileSizeOrDirInfoLen 0
      mFileSizeOrDirInfoParameterLength := [0, 0] }
  calls := []

section
variable (api : ApiSizes) (s : System)

/-- The message and the buffer of the positive response that a call hands to the stack. -/
def positiveResponse : Action → Option (Nat × UInt8 × Buffer)
  | .sendFileXferResp rxMsgRef errCode svcFound _ =>
    match s.svr.rxFileXferMsgRefMap.lookup rxMsgRef with
    | none => none
    | some msg =>
      if svcFound = false ∨ errCode ≠ 0 then none
      else (responseBuffer api s.svr msg.operationType).map fun buffer =>
        (rxMsgRef, msg.operationType, buffer)
  | _ => none

/-- `SendFileXferResp` frees the message once the stack took the response. -/
def sendFileXferResp (rxMsgRef : Nat) (errCode : UInt8) (svcFound responded : Bool) : UpdateSvr :=
  match s.svr.rxFileXferMsgRefMap.lookup rxMsgRef with
  | none => s.svr
  | some msg =>
    if svcFound = false ∨ responded = false then s.svr
    else if errCode = 0 ∧ responseBuffer api s.svr msg.operationType = none then s.svr
    else { s.svr with rxFileXferMsgRefMap := s.svr.rxFileXferMsgRefMap.erase rxMsgRef }

def step : Action → Option System
  | .received operationType =>
    some { s with svr := { s.svr with
      rxFileXferMsgRefMap := s.svr.rxFileXferMsgRefMap.create ⟨operationType⟩ } }
  | .setFilePosition rxMsgRef filePosition =>
    let (svr, result) := setFilePosition api s.svr rxMsgRef filePosition
    some ⟨svr, if result = .ok then .position rxMsgRef filePosition :: s.calls else s.calls⟩
  | .setFileSizeOrDirInfoLength rxMsgRef uncompressed compressed =>
    let (svr, result) := setFileSizeOrDirInfoLength api s.svr rxMsgRef uncompressed compressed
    match result, s.svr.rxFileXferMsgRefMap.lookup rxMsgRef with
    | .ok, some msg =>
      some ⟨svr, .sizes rxMsgRef msg.operationType uncompressed compressed :: s.calls⟩
    | _, _ => some ⟨svr, s.calls⟩
  | .sendFileXferResp rxMsgRef errCode svcFound responded =>
    some { s with svr := sendFileXferResp api s rxMsgRef errCode svcFound responded }
  | .released rxMsgRef =>
    some { s with svr := { s.svr with
      rxFileXferMsgRefMap := s.svr.rxFileXferMsgRefMap.erase rxMsgRef } }

end

def SetCall.filePosition? : SetCall → Option UInt64
  | .position _ filePosition => some filePosition
  | .sizes .. => none

def SetCall.uncompressed? : SetCall → Option UInt64
  | .position .. => none
  | .sizes _ _ uncompressed _ => some uncompressed

/-- Only a call for reading a file stores a compressed size. -/
def SetCall.compressed? : SetCall → Option UInt64
  | .position .. => none
  | .sizes _ operationType _ compressed =>
    if operationType = readFile then some compressed else none

def SetCall.rxMsgRef : SetCall → Nat
  | .position rxMsgRef _ => rxMsgRef
  | .sizes rxMsgRef _ _ _ => rxMsgRef

def SetCall.sizes? : SetCall → Option (UInt64 × UInt64)
  | .position .. => none
  | .sizes _ _ uncompressed compressed => some (uncompressed, compressed)

section
variable (calls : List SetCall) (rxMsgRef : Nat)

def lastPosition : Option UInt64 := calls.findSome? SetCall.filePosition?

def lastUncompressed : Option UInt64 := calls.findSome? SetCall.uncompressed?

def lastCompressed : Option UInt64 := calls.findSome? SetCall.compressed?

def callsFor : List SetCall := calls.filter fun call => call.rxMsgRef == rxMsgRef

def ownPosition : Option UInt64 := (callsFor calls rxMsgRef).findSome? SetCall.filePosition?

def ownSizes : Option (UInt64 × UInt64) := (callsFor calls rxMsgRef).findSome? SetCall.sizes?

end

def responseWidth (bytes : List UInt8) : Nat := number (bytes.take 2)

def decodeDirInfoLength (bytes : List UInt8) : Option Nat :=
  let width := responseWidth bytes
  if bytes.length = 2 + width then some (number (bytes.drop 2)) else none

def decodeFileSizes (bytes : List UInt8) : Option (Nat × Nat) :=
  let width := responseWidth bytes
  if bytes.length = 2 + width + width then
    some (number ((bytes.drop 2).take width), number (bytes.drop (2 + width)))
  else none

/-- The response decodes to the values last set for its own message. -/
structure CarriesOwn (calls : List SetCall) (rxMsgRef : Nat) (operationType : UInt8)
    (bytes : List UInt8) : Prop where
  resume : operationType = resumeFile →
    ∀ p, ownPosition calls rxMsgRef = some p → number bytes = p.toNat
  readDir : operationType = readDir →
    ∀ u c, ownSizes calls rxMsgRef = some (u, c) → decodeDirInfoLength bytes = some u.toNat
  readFile : operationType = readFile →
    ∀ u c, ownSizes calls rxMsgRef = some (u, c) →
      decodeFileSizes bytes = some (u.toNat, c.toNat)

/-- A position was set by the last call, and no sizes were set. -/
structure Promised (calls : List SetCall) (rxMsgRef : Nat) (operationType : UInt8) : Prop where
  resume : operationType = resumeFile →
    ∀ p, ownPosition calls rxMsgRef = some p → lastPosition calls = some p
  sizes : operationType = readDir ∨ operationType = readFile → ownSizes calls rxMsgRef = none

/-- The last calls set the values of the message, and its compressed size fits the width of
the uncompressed one. -/
structure SetLast (calls : List SetCall) (rxMsgRef : Nat) (operationType : UInt8) : Prop where
  resume : operationType = resumeFile →
    ∀ p, ownPosition calls rxMsgRef = some p → lastPosition calls = some p
  readDir : operationType = readDir →
    ∀ u c, ownSizes calls rxMsgRef = some (u, c) → lastUncompressed calls = some u
  readFile : operationType = readFile →
    ∀ u c, ownSizes calls rxMsgRef = some (u, c) →
      lastUncompressed calls = some u ∧ c.toNat < 256 ^ howManyChars u ∧
        ∃ last, lastCompressed calls = some last ∧
          last.toNat % 256 ^ howManyChars u = c.toNat

theorem bigEndianNumberFormat_eq (n w : Nat) : bigEndianNumberFormat n w = field w n := by
  induction w generalizing n with
  | zero => rfl
  | succ w ih =>
    have hlast : n >>> (8 * (w + 1 - w - 1)) = n := by
      have hzero : w + 1 - w - 1 = 0 := by omega
      rw [hzero]
      rfl
    rw [field, ← ih, bigEndianNumberFormat, range_succ, map_append, map_singleton,
      hlast]
    refine congrArg (· ++ [UInt8.ofNat n]) (map_congr_left fun i hi => ?_)
    have hpos : 8 * (w + 1 - i - 1) = 8 + 8 * (w - i - 1) := by
      have := mem_range.1 hi
      omega
    have hbyte : n >>> 8 = n / 256 := shiftRight_eq_div_pow n 8
    rw [hpos, shiftRight_add, hbyte]

theorem lt_two_pow_bitCount {bits n : Nat} (h : n < 2 ^ bits) : n < 2 ^ bitCount bits n := by
  induction bits generalizing n with
  | zero => exact h
  | succ bits ih =>
    unfold bitCount
    split_ifs with hzero
    · omega
    · have hhalf := ih (n := n / 2) (by rw [pow_succ] at h; omega)
      omega

theorem bitCount_le (bits : Nat) {n k : Nat} (h : n < 2 ^ k) : bitCount bits n ≤ k := by
  induction bits generalizing n k with
  | zero => exact zero_le k
  | succ bits ih =>
    unfold bitCount
    split_ifs with hzero
    · exact zero_le k
    obtain ⟨j, rfl⟩ : ∃ j, k = j + 1 := by
      refine exists_eq_succ_of_ne_zero fun hk => ?_
      rw [hk] at h
      omega
    have hhalf := ih (n := n / 2) (k := j) (by rw [pow_succ] at h; omega)
    omega

/-- A number fits the bytes that `HowManyChars` counts. -/
theorem toNat_lt_howManyChars (u : UInt64) : u.toNat < 256 ^ howManyChars u := by
  have hbits := lt_two_pow_bitCount u.toNat_lt
  have hbyt : bitCount 64 u.toNat ≤ 8 * howManyChars u := by
    unfold howManyChars
    omega
  have hpow : 256 ^ howManyChars u = 2 ^ (8 * howManyChars u) := by rw [Nat.pow_mul]
  rw [hpow]
  exact lt_of_lt_of_le hbits (Nat.pow_le_pow_right (by decide) hbyt)

variable {u : UInt64}

theorem howManyChars_le (h : u.toNat < 2 ^ 32) : howManyChars u ≤ 4 := by
  have hbits := bitCount_le 64 h
  unfold howManyChars
  omega

/-- The members encode the last calls, and a call was made for a message of its kind. -/
structure Encoded (api : ApiSizes) (s : System) : Prop where
  position : ∀ p, lastPosition s.calls = some p → s.svr.mFilePosition = field 8 p.toNat
  uncompressed : ∀ u, lastUncompressed s.calls = some u →
    u.toNat < 2 ^ 32 ∧ s.svr.nCharsToSave = howManyChars u ∧
      s.svr.nCharsToNotUsed = api.fileSizeOrDirInfoLen - howManyChars u ∧
      s.svr.mFileSizeUncompressedOrDirInfoLength = field api.fileSizeOrDirInfoLen u.toNat ∧
      s.svr.mFileSizeOrDirInfoParameterLength = field 2 (howManyChars u)
  compressed : ∀ c, lastCompressed s.calls = some c →
    s.svr.mFileSizeCompressed = field api.fileSizeOrDirInfoLen c.toNat
  typed : ∀ r operationType u c, SetCall.sizes r operationType u c ∈ s.calls →
    r < s.svr.rxFileXferMsgRefMap.next ∧
      ∀ msg, s.svr.rxFileXferMsgRefMap.lookup r = some msg → msg.operationType = operationType

section
variable {api : ApiSizes} {s s' : System}

theorem Encoded.initial : Encoded api (initialSystem api) where
  position := nofun
  uncompressed := nofun
  compressed := nofun
  typed := fun _ _ _ _ h => absurd h not_mem_nil

/-- A step that leaves the members and the calls alone and creates no reference anew. -/
theorem Encoded.of_messages (h : Encoded api s) {messages : RefMap FileXferRxMsg}
    (hnext : s.svr.rxFileXferMsgRefMap.next ≤ messages.next)
    (hmsgs : ∀ r msg, r < s.svr.rxFileXferMsgRefMap.next → messages.lookup r = some msg →
      s.svr.rxFileXferMsgRefMap.lookup r = some msg) :
    Encoded api ⟨{ s.svr with rxFileXferMsgRefMap := messages }, s.calls⟩ where
  position := h.position
  uncompressed := h.uncompressed
  compressed := h.compressed
  typed := by
    intro r operationType u c hmem
    obtain ⟨hlt, htyp⟩ := h.typed r operationType u c hmem
    exact ⟨lt_of_lt_of_le hlt hnext, fun msg hmsg => htyp msg (hmsgs r msg hlt hmsg)⟩

/-- What `SetFilePosition` does: it refuses or encodes the position. -/
theorem setFilePosition_cases (api : ApiSizes) (svr : UpdateSvr) (rxMsgRef : Nat)
    (filePosition : UInt64) :
    (setFilePosition api svr rxMsgRef filePosition).2 ≠ .ok ∧
        (setFilePosition api svr rxMsgRef filePosition).1 = svr ∨
      setFilePosition api svr rxMsgRef filePosition =
        ({ svr with mFilePosition := field 8 filePosition.toNat }, .ok) := by
  unfold setFilePosition
  rcases svr.rxFileXferMsgRefMap.lookup rxMsgRef with _ | msg
  · exact .inl ⟨LeResult.noConfusion, rfl⟩
  dsimp only
  by_cases hop : msg.operationType ≠ resumeFile
  · rw [if_pos hop]
    exact .inl ⟨LeResult.noConfusion, rfl⟩
  · rw [if_neg hop, bigEndianNumberFormat_eq, api.filePosition_fits]
    exact .inr rfl

/-- What `SetFileSizeOrDirInfoLength` does: it refuses or encodes the sizes. -/
theorem setFileSize_cases (api : ApiSizes) (svr : UpdateSvr) (rxMsgRef : Nat) (u c : UInt64) :
    (setFileSizeOrDirInfoLength api svr rxMsgRef u c).2 ≠ .ok ∧
        (setFileSizeOrDirInfoLength api svr rxMsgRef u c).1 = svr ∨
      ∃ msg, svr.rxFileXferMsgRefMap.lookup rxMsgRef = some msg ∧ u.toNat < 2 ^ 32 ∧
        setFileSizeOrDirInfoLength api svr rxMsgRef u c =
          ({ svr with
              nCharsToSave := howManyChars u
              nCharsToNotUsed := api.fileSizeOrDirInfoLen - howManyChars u
              mFileSizeUncompressedOrDirInfoLength := field api.fileSizeOrDirInfoLen u.toNat
              mFileSizeCompressed :=
                if msg.operationType = readFile then field api.fileSizeOrDirInfoLen c.toNat
                else svr.mFileSizeCompressed
              mFileSizeOrDirInfoParameterLength := field 2 (howManyChars u) }, .ok) := by
  unfold setFileSizeOrDirInfoLength
  rcases svr.rxFileXferMsgRefMap.lookup rxMsgRef with _ | msg
  · exact .inl ⟨LeResult.noConfusion, rfl⟩
  dsimp only
  by_cases hlarg : u.toNat > 0xFFFFFFFF ∨ c.toNat > 0xFFFFFFFF
  · rw [if_pos hlarg]
    exact .inl ⟨LeResult.noConfusion, rfl⟩
  rw [if_neg hlarg]
  by_cases hop : msg.operationType ≠ readFile ∧ msg.operationType ≠ readDir
  · rw [if_pos hop]
    exact .inl ⟨LeResult.noConfusion, rfl⟩
  rw [if_neg hop]
  refine .inr ⟨msg, rfl, by omega, ?_⟩
  simp only [bigEndianNumberFormat_eq]

theorem setFilePosition_encoded (h : Encoded api s) (rxMsgRef : Nat) (filePosition : UInt64)
    (hstep : step api s (.setFilePosition rxMsgRef filePosition) = some s') : Encoded api s' := by
  unfold step at hstep
  dsimp only at hstep
  rcases setFilePosition_cases api s.svr rxMsgRef filePosition with ⟨hrefu, hsame⟩ | hset
  · rw [if_neg hrefu, hsame] at hstep
    cases hstep
    exact h
  rw [hset] at hstep
  cases hstep
  refine ⟨?_, h.uncompressed, h.compressed, ?_⟩
  · intro p hp
    cases hp
    rfl
  intro r operationType u c hmem
  rcases mem_cons.1 hmem with hhead | htail
  · cases hhead
  · exact h.typed r operationType u c htail

theorem setFileSize_encoded (h : Encoded api s) (rxMsgRef : Nat) (u c : UInt64)
    (hstep : step api s (.setFileSizeOrDirInfoLength rxMsgRef u c) = some s') : Encoded api s' := by
  unfold step at hstep
  dsimp only at hstep
  rcases setFileSize_cases api s.svr rxMsgRef u c with ⟨hrefu, hsame⟩ | ⟨msg, hmsg, hword, hset⟩
  · rw [hsame] at hstep
    split at hstep
    · exact absurd (by assumption) hrefu
    · cases hstep
      exact h
  rw [hset, hmsg] at hstep
  cases hstep
  refine ⟨h.position, ?_, ?_, ?_⟩
  · intro last hlast
    cases hlast
    exact ⟨hword, rfl, rfl, rfl, rfl⟩
  · intro last hlast
    by_cases hread : msg.operationType = readFile
    · rw [lastCompressed, findSome?_cons, SetCall.compressed?, if_pos hread] at hlast
      cases hlast
      exact if_pos hread
    · rw [lastCompressed, findSome?_cons, SetCall.compressed?, if_neg hread] at hlast
      exact (if_neg hread).trans (h.compressed last hlast)
  · intro r operationType u' c' hmem
    rcases mem_cons.1 hmem with hhead | htail
    · cases hhead
      refine ⟨RefMap.lookup_lt hmsg, fun msg' hmsg' => ?_⟩
      cases hmsg.symm.trans hmsg'
      rfl
    · exact h.typed r operationType u' c' htail

theorem step_encoded (h : Encoded api s) (a : Action) (hstep : step api s a = some s') :
    Encoded api s' := by
  cases a with
  | received operationType =>
    cases hstep
    refine h.of_messages (Nat.le_succ _) fun r msg hlt hmsg => ?_
    rw [RefMap.lookup_create, if_neg (Nat.ne_of_lt hlt)] at hmsg
    exact hmsg
  | setFilePosition rxMsgRef filePosition =>
    exact setFilePosition_encoded h rxMsgRef filePosition hstep
  | setFileSizeOrDirInfoLength rxMsgRef u c => exact setFileSize_encoded h rxMsgRef u c hstep
  | sendFileXferResp rxMsgRef errCode svcFound responded =>
    cases hstep
    unfold sendFileXferResp
    split
    · exact h
    split_ifs
    · exact h
    · exact h
    · exact h.of_messages (Nat.le_refl _) fun r msg _ hmsg => (RefMap.lookup_of_erase hmsg).2
  | released rxMsgRef =>
    cases hstep
    exact h.of_messages (Nat.le_refl _) fun r msg _ hmsg => (RefMap.lookup_of_erase hmsg).2

theorem run_encoded {as : List Action} (hrun : exec (step api) (initialSystem api) as = some s) :
    Encoded api s :=
  exec_invariant_of_step (fun _ a _ h hstep => step_encoded h a hstep) .initial hrun

variable {last p : UInt64}

theorem ownPosition_isSome {calls : List SetCall} {rxMsgRef : Nat}
    (h : ownPosition calls rxMsgRef = some p) : ∃ last, lastPosition calls = some last := by
  obtain ⟨call, hmem, hcall⟩ := exists_of_findSome?_eq_some h
  rw [← isSome_iff_exists, lastPosition, findSome?_isSome_iff]
  exact ⟨call, (mem_filter.1 hmem).1, by rw [hcall]; rfl⟩

variable {c : UInt64}

theorem ownSizes_call {calls : List SetCall} {rxMsgRef : Nat}
    (h : ownSizes calls rxMsgRef = some (u, c)) :
    ∃ operationType, SetCall.sizes rxMsgRef operationType u c ∈ calls := by
  obtain ⟨call, hmem, hcall⟩ := exists_of_findSome?_eq_some h
  obtain ⟨hin, hown⟩ := mem_filter.1 hmem
  cases call with
  | position r p => cases hcall
  | sizes r operationType u' c' =>
    cases hcall
    have href : r = rxMsgRef := by simpa [SetCall.rxMsgRef] using hown
    subst href
    exact ⟨operationType, hin⟩

variable {operationType : UInt8}

theorem lastUncompressed_isSome {calls : List SetCall} {r : Nat}
    (h : SetCall.sizes r operationType u c ∈ calls) :
    ∃ last, lastUncompressed calls = some last := by
  rw [← isSome_iff_exists, lastUncompressed, findSome?_isSome_iff]
  exact ⟨_, h, rfl⟩

theorem lastCompressed_isSome {calls : List SetCall} {r : Nat}
    (h : SetCall.sizes r readFile u c ∈ calls) : ∃ last, lastCompressed calls = some last := by
  rw [← isSome_iff_exists, lastCompressed, findSome?_isSome_iff]
  exact ⟨_, h, rfl⟩

/-- The bytes of a member behind the unused ones are the field of the width. -/
theorem cut_field (api : ApiSizes) (hword : u.toNat < 2 ^ 32) (n : Nat) :
    ((field api.fileSizeOrDirInfoLen n).drop (api.fileSizeOrDirInfoLen - howManyChars u)).take
      (howManyChars u) = field (howManyChars u) n := by
  have hwidt : howManyChars u ≤ api.fileSizeOrDirInfoLen :=
    (howManyChars_le hword).trans api.fileSize_fits
  rw [drop_field hwidt, take_of_length_le (field_length _ _).le]

section
variable {w n : Nat} (hw : w < 65536) (hn : n < 256 ^ w)
include hw hn

/-- A width and the fields of this width are decoded one after the other. -/
theorem decode_dirInfoLength : decodeDirInfoLength (field 2 w ++ field w n) = some n := by
  have hwidt : responseWidth (field 2 w ++ field w n) = w := by
    rw [responseWidth, take_left' (field_length 2 w), number_field_of_lt hw]
  unfold decodeDirInfoLength
  rw [hwidt, if_pos (by rw [length_append, field_length, field_length]),
    drop_left' (field_length 2 w), number_field_of_lt hn]

theorem decode_fileSizes (c : Nat) :
    decodeFileSizes (field 2 w ++ field w n ++ field w c) = some (n, c % 256 ^ w) := by
  have hhead : (field 2 w ++ field w n).length = 2 + w := by
    rw [length_append, field_length, field_length]
  have hwidt : responseWidth (field 2 w ++ field w n ++ field w c) = w := by
    rw [responseWidth, append_assoc, take_left' (field_length 2 w), number_field_of_lt hw]
  have hlen : (field 2 w ++ field w n ++ field w c).length = 2 + w + w := by
    rw [length_append, hhead, field_length]
  unfold decodeFileSizes
  rw [hwidt, if_pos hlen, drop_left' hhead, number_field, append_assoc,
    drop_left' (field_length 2 w), take_left' (field_length w n), number_field_of_lt hn]

end

/-- Other bytes of the same length announce a width that they do not have. -/
theorem decode_reused {written : List UInt8} (hsht : 2 ≤ written.length)
    (hlong : written.length < 65537) :
    decodeDirInfoLength (EndedBlock.reused.left written) = none ∧
      decodeFileSizes (EndedBlock.reused.left written) = none := by
  obtain ⟨first, second, rest, rfl⟩ :
      ∃ first second rest, written = first :: second :: rest := by
    match written, hsht with
    | first :: second :: rest, _ => exact ⟨first, second, rest, rfl⟩
  have hbyt : (EndedBlock.reused.left (first :: second :: rest)).take 2 = [0xFF, 0xFF] := rfl
  have hwidt : responseWidth (EndedBlock.reused.left (first :: second :: rest)) = 65535 := by
    rw [responseWidth, hbyt]
    decide
  have hlen := EndedBlock.reused.length_left (first :: second :: rest)
  unfold decodeDirInfoLength decodeFileSizes
  rw [hwidt, hlen, if_neg (by omega), if_neg (by omega)]
  exact ⟨rfl, rfl⟩

variable {calls : List SetCall} {rxMsgRef : Nat} {bytes : List UInt8}

theorem resume_iff (h : Encoded api s) (hown : ownPosition s.calls rxMsgRef = some p) :
    number s.svr.mFilePosition = p.toNat ↔ lastPosition s.calls = some p := by
  obtain ⟨last, hlast⟩ := ownPosition_isSome hown
  have hvalu : number s.svr.mFilePosition = last.toNat := by
    rw [h.position last hlast]
    exact number_field_of_lt last.toNat_lt
  rw [hvalu, hlast, some.injEq, UInt64.toNat_inj]

theorem readDir_buffer (h : Encoded api s) (hlast : lastUncompressed s.calls = some last) :
    responseBuffer api s.svr readDir =
      some (.ofBlock (field 2 (howManyChars last) ++ field (howManyChars last) last.toNat)) := by
  obtain ⟨hword, hwidt, hunu, hunco, hpara⟩ := h.uncompressed last hlast
  have hbuf : responseBuffer api s.svr readDir =
      some (.ofBlock (s.svr.mFileSizeOrDirInfoParameterLength ++
        (s.svr.mFileSizeUncompressedOrDirInfoLength.drop s.svr.nCharsToNotUsed).take
          s.svr.nCharsToSave)) := rfl
  rw [hbuf, hwidt, hunu, hunco, hpara, cut_field api hword]

theorem readFile_buffer (h : Encoded api s) {compressed : UInt64}
    (hlast : lastUncompressed s.calls = some last)
    (hcmpr : lastCompressed s.calls = some compressed) :
    responseBuffer api s.svr readFile =
      some (.ofBlock (field 2 (howManyChars last) ++ field (howManyChars last) last.toNat ++
        field (howManyChars last) compressed.toNat)) := by
  obtain ⟨hword, hwidt, hunu, hunco, hpara⟩ := h.uncompressed last hlast
  have hfits : ¬howManyChars last > api.fileSizeOrDirInfoLen :=
    not_lt.2 ((howManyChars_le hword).trans api.fileSize_fits)
  have hbuf : responseBuffer api s.svr readFile =
      if s.svr.nCharsToSave > api.fileSizeOrDirInfoLen then none
      else some (.ofBlock (s.svr.mFileSizeOrDirInfoParameterLength ++
        (s.svr.mFileSizeUncompressedOrDirInfoLength.drop s.svr.nCharsToNotUsed).take
          s.svr.nCharsToSave ++
        (s.svr.mFileSizeCompressed.drop s.svr.nCharsToNotUsed).take s.svr.nCharsToSave)) := rfl
  rw [hbuf, hwidt, if_neg hfits, hunu, hunco, hpara, h.compressed _ hcmpr,
    cut_field api hword, cut_field api hword]

theorem howManyChars_lt (hword : u.toNat < 2 ^ 32) : howManyChars u < 65536 :=
  lt_of_le_of_lt (howManyChars_le hword) (by decide)

section
variable {buffer : Buffer} (h : Encoded api s) (hown : ownSizes s.calls rxMsgRef = some (u, c))
include h hown

/-- A directory is answered from the array of a block, with the last length. -/
theorem readDir_sent (hbuf : responseBuffer api s.svr readDir = some buffer) :
    ∃ last, lastUncompressed s.calls = some last ∧ last.toNat < 2 ^ 32 ∧
      buffer = .ofBlock (field 2 (howManyChars last) ++ field (howManyChars last) last.toNat) := by
  obtain ⟨operationType, hcall⟩ := ownSizes_call hown
  obtain ⟨last, hlast⟩ := lastUncompressed_isSome hcall
  rw [readDir_buffer h hlast] at hbuf
  cases hbuf
  exact ⟨last, hlast, (h.uncompressed last hlast).1, rfl⟩

/-- A file is answered from the array of a block, with the last sizes of all calls. -/
theorem readFile_sent (hbuf : responseBuffer api s.svr readFile = some buffer)
    (hmsg : s.svr.rxFileXferMsgRefMap.lookup rxMsgRef = some ⟨readFile⟩) :
    ∃ last compressed, lastUncompressed s.calls = some last ∧ last.toNat < 2 ^ 32 ∧
      lastCompressed s.calls = some compressed ∧
      buffer = .ofBlock (field 2 (howManyChars last) ++ field (howManyChars last) last.toNat ++
        field (howManyChars last) compressed.toNat) := by
  obtain ⟨operationType, hcall⟩ := ownSizes_call hown
  have htype : readFile = operationType := (h.typed _ _ _ _ hcall).2 _ hmsg
  rw [← htype] at hcall
  obtain ⟨last, hlast⟩ := lastUncompressed_isSome hcall
  obtain ⟨compressed, hcmpr⟩ := lastCompressed_isSome hcall
  rw [readFile_buffer h hlast hcmpr] at hbuf
  cases hbuf
  exact ⟨last, compressed, hlast, (h.uncompressed last hlast).1, hcmpr, rfl⟩

theorem readDir_iff (hbuf : responseBuffer api s.svr readDir = some buffer) :
    decodeDirInfoLength (buffer.read .kept) = some u.toNat ↔
      lastUncompressed s.calls = some u := by
  obtain ⟨last, hlast, hword, rfl⟩ := readDir_sent h hown hbuf
  have hdecd := decode_dirInfoLength (howManyChars_lt hword) (toNat_lt_howManyChars last)
  change decodeDirInfoLength (_ ++ _) = _ ↔ _
  rw [hdecd, hlast, some.injEq, some.injEq, UInt64.toNat_inj]

theorem readFile_iff (hbuf : responseBuffer api s.svr readFile = some buffer)
    (hmsg : s.svr.rxFileXferMsgRefMap.lookup rxMsgRef = some ⟨readFile⟩) :
    decodeFileSizes (buffer.read .kept) = some (u.toNat, c.toNat) ↔
      lastUncompressed s.calls = some u ∧ c.toNat < 256 ^ howManyChars u ∧
        ∃ last, lastCompressed s.calls = some last ∧
          last.toNat % 256 ^ howManyChars u = c.toNat := by
  obtain ⟨last, compressed, hlast, hword, hcmpr, rfl⟩ := readFile_sent h hown hbuf hmsg
  have hdecd := decode_fileSizes (howManyChars_lt hword) (toNat_lt_howManyChars last)
    compressed.toNat
  change decodeFileSizes (_ ++ _) = _ ↔ _
  rw [hdecd, hlast, hcmpr]
  simp only [some.injEq, Prod.mk.injEq, exists_eq_left', UInt64.toNat_inj]
  constructor
  · rintro ⟨rfl, hequa⟩
    refine ⟨rfl, ?_, hequa⟩
    rw [← hequa]
    exact Nat.mod_lt _ (Nat.pow_pos (by decide))
  · rintro ⟨rfl, -, hequa⟩
    exact ⟨rfl, hequa⟩

/-- Sizes are lost with the memory of the array that they are gathered in. -/
theorem sizes_lost (hop : operationType = readDir ∨ operationType = readFile)
    (hbuf : responseBuffer api s.svr operationType = some buffer)
    (hmsg : s.svr.rxFileXferMsgRefMap.lookup rxMsgRef = some ⟨operationType⟩) :
    ¬ CarriesOwn s.calls rxMsgRef operationType (buffer.read .reused) := by
  intro hcarr
  rcases hop with rfl | rfl
  · obtain ⟨last, hlast, hword, rfl⟩ := readDir_sent h hown hbuf
    have hwidt := howManyChars_le hword
    have hdecd := hcarr.readDir rfl u c hown
    have hlen : (field 2 (howManyChars last) ++ field (howManyChars last) last.toNat).length =
        2 + howManyChars last := by
      rw [length_append, field_length, field_length]
    have hlost := (decode_reused (by rw [hlen]; omega) (by rw [hlen]; omega)).1
    exact absurd (hlost.symm.trans hdecd) (some_ne_none _).symm
  · obtain ⟨last, compressed, hlast, hword, hcmpr, rfl⟩ := readFile_sent h hown hbuf hmsg
    have hwidt := howManyChars_le hword
    have hdecd := hcarr.readFile rfl u c hown
    have hlen : (field 2 (howManyChars last) ++ field (howManyChars last) last.toNat ++
        field (howManyChars last) compressed.toNat).length =
          2 + howManyChars last + howManyChars last := by
      rw [length_append, length_append, field_length, field_length, field_length]
    have hlost := (decode_reused (by rw [hlen]; omega) (by rw [hlen]; omega)).2
    exact absurd (hlost.symm.trans hdecd) (some_ne_none _).symm

end

variable {buffer : Buffer} {a : Action}

/-- Only an open message whose service is found is answered, from the buffer of its mode. -/
theorem positiveResponse_eq_some
    (h : positiveResponse api s a = some (rxMsgRef, operationType, buffer)) :
    s.svr.rxFileXferMsgRefMap.lookup rxMsgRef = some ⟨operationType⟩ ∧
      responseBuffer api s.svr operationType = some buffer := by
  cases a with
  | sendFileXferResp ref errCode svcFound responded =>
    unfold positiveResponse at h
    dsimp only at h
    rcases hmsg : s.svr.rxFileXferMsgRefMap.lookup ref with _ | msg
    · rw [hmsg] at h
      cases h
    rw [hmsg] at h
    split_ifs at h
    obtain ⟨sent, hsent, heq⟩ := map_eq_some_iff.1 h
    cases heq
    exact ⟨hmsg, hsent⟩
  | received _ | setFilePosition _ _ | setFileSizeOrDirInfoLength _ _ _ | released _ => cases h

/-- In every run, where the memory of the array is not used again, a positive response decodes
to the values set for its own message exactly when the last calls set these values and the
compressed size fits the width. -/
theorem fileXferResp_kept (as : List Action)
    (hrun : exec (step api) (initialSystem api) as = some s)
    (hsent : positiveResponse api s a = some (rxMsgRef, operationType, buffer)) :
    CarriesOwn s.calls rxMsgRef operationType (buffer.read .kept) ↔
      SetLast s.calls rxMsgRef operationType := by
  have henc := run_encoded hrun
  obtain ⟨hmsg, hbuf⟩ := positiveResponse_eq_some hsent
  constructor
  · intro h
    constructor
    · rintro rfl p hown
      cases hbuf
      exact (resume_iff henc hown).1 (h.resume rfl p hown)
    · rintro rfl u c hown
      exact (readDir_iff henc hown hbuf).1 (h.readDir rfl u c hown)
    · rintro rfl u c hown
      exact (readFile_iff henc hown hbuf hmsg).1 (h.readFile rfl u c hown)
  · intro h
    constructor
    · rintro rfl p hown
      cases hbuf
      exact (resume_iff henc hown).2 (h.resume rfl p hown)
    · rintro rfl u c hown
      exact (readDir_iff henc hown hbuf).2 (h.readDir rfl u c hown)
    · rintro rfl u c hown
      exact (readFile_iff henc hown hbuf hmsg).2 (h.readFile rfl u c hown)

/-- In every run, a positive response decodes to the values set for its own message, whatever
the memory of an ended block holds, exactly when it carries a position that the last call set
or nothing was set. -/
theorem fileXferResp_carriesOwn (api : ApiSizes) (as : List Action)
    (hrun : exec (step api) (initialSystem api) as = some s) (a : Action) (operationType : UInt8)
    (hsent : positiveResponse api s a = some (rxMsgRef, operationType, buffer)) :
    (∀ ended, CarriesOwn s.calls rxMsgRef operationType (buffer.read ended)) ↔
      Promised s.calls rxMsgRef operationType := by
  have hencoded := run_encoded hrun
  obtain ⟨hmsg, hbuffer⟩ := positiveResponse_eq_some hsent
  constructor
  · intro h
    constructor
    · exact ((fileXferResp_kept as hrun hsent).1 (h .kept)).resume
    · intro hop
      rw [eq_none_iff_forall_ne_some]
      intro sizes hown
      exact sizes_lost hencoded hown hop hbuffer hmsg (h .reused)
  · intro h ended
    constructor
    · rintro rfl p hown
      cases hbuffer
      exact (resume_iff hencoded hown).2 (h.resume rfl p hown)
    · rintro hop u c hown
      rw [h.sizes (.inl hop)] at hown
      cases hown
    · rintro hop u c hown
      rw [h.sizes (.inr hop)] at hown
      cases hown

end

def sampleSizes : ApiSizes := ⟨8, 4, rfl, Nat.le_refl 4, by decide⟩

def oneFile : List Action := [.received readFile, .setFileSizeOrDirInfoLength 0 0x1234 0x56]

/-- A second file is read before the response to the first is sent. -/
def twoFiles : List Action := [.received readFile, .received readFile,
  .setFileSizeOrDirInfoLength 0 0x1234 0x56, .setFileSizeOrDirInfoLength 1 0x99 0x99]

/-- The compressed size is wider than the uncompressed one. -/
def wideCompressed : List Action := [.received readFile, .setFileSizeOrDirInfoLength 0 0x01 0x0100]

/-- Two files are resumed; the position of the first is set last. -/
def resumed : List Action := [.received resumeFile, .received resumeFile, .received readFile,
  .setFilePosition 1 0x77, .setFileSizeOrDirInfoLength 2 0x1234 0x56, .setFilePosition 0 0x1234]

theorem fileXferResp_carriesOwn_resumed :
    ∃ s buffer, exec (step sampleSizes) (initialSystem sampleSizes) resumed = some s ∧
      positiveResponse sampleSizes s (.sendFileXferResp 0 0 true true) =
        some (0, resumeFile, buffer) ∧ ownPosition s.calls 0 = some 0x1234 ∧
      ((∀ ended, CarriesOwn s.calls 0 resumeFile (buffer.read ended)) ↔
        Promised s.calls 0 resumeFile) :=
  ⟨_, _, rfl, rfl, rfl, fileXferResp_carriesOwn sampleSizes resumed rfl
    (.sendFileXferResp 0 0 true true) resumeFile rfl⟩

/-- The response to a file carries the position of another one. Where the memory is left alone
it carries the sizes of another one, or a cut compressed size; otherwise its own are lost. -/
theorem fileXferResp_mixed :
    (∃ s, exec (step sampleSizes) (initialSystem sampleSizes)
        (resumed ++ [.setFilePosition 1 0x99]) = some s ∧
      positiveResponse sampleSizes s (.sendFileXferResp 0 0 true true) =
        some (0, resumeFile, .member [0, 0, 0, 0, 0, 0, 0, 0x99]) ∧
      ownPosition s.calls 0 = some 0x1234) ∧
    (∃ s buffer, exec (step sampleSizes) (initialSystem sampleSizes) twoFiles = some s ∧
      positiveResponse sampleSizes s (.sendFileXferResp 0 0 true true) =
        some (0, readFile, buffer) ∧ ownSizes s.calls 0 = some (0x1234, 0x56) ∧
      decodeFileSizes (buffer.read .kept) = some (0x99, 0x99)) ∧
    (∃ s buffer, exec (step sampleSizes) (initialSystem sampleSizes) wideCompressed = some s ∧
      positiveResponse sampleSizes s (.sendFileXferResp 0 0 true true) =
        some (0, readFile, buffer) ∧ ownSizes s.calls 0 = some (0x01, 0x0100) ∧
      decodeFileSizes (buffer.read .kept) = some (0x01, 0)) ∧
    ∃ s buffer, exec (step sampleSizes) (initialSystem sampleSizes) oneFile = some s ∧
      positiveResponse sampleSizes s (.sendFileXferResp 0 0 true true) =
        some (0, readFile, buffer) ∧ ownSizes s.calls 0 = some (0x1234, 0x56) ∧
      decodeFileSizes (buffer.read .kept) = some (0x1234, 0x56) ∧
      decodeFileSizes (buffer.read .reused) = none :=
  ⟨⟨_, rfl, rfl, rfl⟩, ⟨_, _, rfl, rfl, rfl, by decide +kernel⟩,
    ⟨_, _, rfl, rfl, rfl, by decide +kernel⟩,
    ⟨_, _, rfl, rfl, rfl, by decide +kernel, by decide +kernel⟩⟩

end TelAF.FileXferResponses
