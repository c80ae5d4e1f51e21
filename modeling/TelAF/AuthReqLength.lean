import TelAF.RequestBytes

/-!
# The length of authentication requests

`IsAuthReqLenCorrect` decides whether an authentication request is as long as its own
length fields say. `probeAuthReqLen` is the same check as a computation that reads the
reception buffer byte by byte: it agrees with the check, and each of its reads lies in the
request, because a length field is read only after the length in front of it was found to
fit.

The certificate check without a counterpart (0x01), the proof of ownership (0x03) and the
certificate transmission (0x04) are requests of counted fields. For the three sub-functions
that `IsAuthSubFuncSupported` refuses beforehand only a minimum length is checked.
-/

namespace TelAF.AuthReqLength

open DiagConfiguration UdsState UdsIndications UdsDiagIndication BigEndian Probes RequestBytes
  Probe List

section
variable (recvDataLen : Nat)

def probeVerifyCertLen : Probe UInt8 Bool :=
  if recvDataLen ≤ 7 then .done false
  else (read16 3).bind fun lengthOfCertificateData =>
    if lengthOfCertificateData = 0 ∨ lengthOfCertificateData > udsCertMaxLen then .done false
    else if recvDataLen < 7 + lengthOfCertificateData then .done false
    else (read16 (lengthOfCertificateData + 5)).bind fun lengthOfChallengeClient =>
      if lengthOfChallengeClient > udsCertMaxLen then .done false
      else .done (recvDataLen == 7 + lengthOfCertificateData + lengthOfChallengeClient)

def probePownLen : Probe UInt8 Bool :=
  if recvDataLen ≤ 6 then .done false
  else (read16 2).bind fun lenOfPownClient =>
    if recvDataLen < 6 + lenOfPownClient then .done false
    else if lenOfPownClient = 0 ∨ lenOfPownClient > udsCertMaxLen then .done false
    else (read16 (lenOfPownClient + 4)).bind fun lengOfPubKeyClient =>
      if lengOfPubKeyClient > udsCertMaxLen then .done false
      else .done (recvDataLen == 6 + lenOfPownClient + lengOfPubKeyClient)

def probeTransmitCertLen : Probe UInt8 Bool :=
  if recvDataLen ≤ 6 then .done false
  else (read16 4).bind fun lengthOfCertificateData =>
    if lengthOfCertificateData = 0 ∨ lengthOfCertificateData > udsCertMaxLen then .done false
    else .done (recvDataLen == 6 + lengthOfCertificateData)

def probeAuthReqLen (subFunc : UInt8) : Probe UInt8 Bool :=
  if subFunc = authSubfuncDeauthenticate then .done (recvDataLen == 2)
  else if subFunc = authSubfuncVerifyCertUnidir then probeVerifyCertLen recvDataLen
  else if subFunc = authSubfuncVerifyCertBidir then .done (decide (9 ≤ recvDataLen))
  else if subFunc = authSubfuncPown then probePownLen recvDataLen
  else if subFunc = authSubfuncTransmitCert then probeTransmitCertLen recvDataLen
  else if subFunc = authSubfuncReqChlngForAuth then .done (recvDataLen == 19)
  else if subFunc = authSubfuncVerifyPownUnidir then .done (decide (25 ≤ recvDataLen))
  else if subFunc = authSubfuncVerifyPownBidir then .done (decide (26 ≤ recvDataLen))
  else if subFunc = authSubfuncAuthConf then .done (recvDataLen == 2)
  else .done true

end

section
variable (m : UdsManager)

theorem probeVerifyCertLen_run :
    (probeVerifyCertLen m.recvDataLen).run m.recv = isVerifyCertLenCorrect m := by
  simp only [probeVerifyCertLen, isVerifyCertLenCorrect, run_ite, run_bind,
    run_done, run_read16_recv]

theorem probePownLen_run : (probePownLen m.recvDataLen).run m.recv = isPownLenCorrect m := by
  simp only [probePownLen, isPownLenCorrect, run_ite, run_bind, run_done,
    run_read16_recv]

theorem probeTransmitCertLen_run :
    (probeTransmitCertLen m.recvDataLen).run m.recv = isTransmitCertLenCorrect m := by
  simp only [probeTransmitCertLen, isTransmitCertLenCorrect, run_ite, run_bind,
    run_done, run_read16_recv]

theorem probeAuthReqLen_run (subFunc : UInt8) :
    (probeAuthReqLen m.recvDataLen subFunc).run m.recv = isAuthReqLenCorrect m subFunc := by
  simp only [probeAuthReqLen, isAuthReqLenCorrect, run_ite, run_done,
    probeVerifyCertLen_run, probePownLen_run, probeTransmitCertLen_run]

end

section
variable {cells : Nat → UInt8} {recvDataLen : Nat}

theorem probeVerifyCertLen_within : (probeVerifyCertLen recvDataLen).Within cells recvDataLen := by
  apply within_ite (fun _ => within_done _)
  intro hmin
  apply within_bind (within_read16 (by omega))
  apply within_ite (fun _ => within_done _)
  intro _
  apply within_ite (fun _ => within_done _)
  intro hcert
  apply within_bind (within_read16 (by omega))
  exact within_ite (fun _ => within_done _) (fun _ => within_done _)

theorem probePownLen_within : (probePownLen recvDataLen).Within cells recvDataLen := by
  apply within_ite (fun _ => within_done _)
  intro hmin
  apply within_bind (within_read16 (by omega))
  apply within_ite (fun _ => within_done _)
  intro hpown
  apply within_ite (fun _ => within_done _)
  intro _
  apply within_bind (within_read16 (by omega))
  exact within_ite (fun _ => within_done _) (fun _ => within_done _)

theorem probeTransmitCertLen_within :
    (probeTransmitCertLen recvDataLen).Within cells recvDataLen := by
  apply within_ite (fun _ => within_done _)
  intro hmin
  apply within_bind (within_read16 (by omega))
  exact within_ite (fun _ => within_done _) (fun _ => within_done _)

/-- Whatever the buffer holds, no byte at or past the received length is read. -/
theorem probeAuthReqLen_within (subFunc : UInt8) :
    (probeAuthReqLen recvDataLen subFunc).Within cells recvDataLen := by
  unfold probeAuthReqLen
  split_ifs
  · exact within_done _
  · exact probeVerifyCertLen_within
  · exact within_done _
  · exact probePownLen_within
  · exact probeTransmitCertLen_within
  all_goals exact within_done _

end

/-- A head, a counted field that is not empty and a counted field that may be. -/
def TwoFields (headLen : Nat) (data : List UInt8) : Prop :=
  ∃ head first second : List UInt8, data = head ++ counted first ++ counted second ∧
    head.length = headLen ∧ 0 < first.length ∧ first.length ≤ udsCertMaxLen ∧
    second.length ≤ udsCertMaxLen

/-- A head and a counted field that is not empty. -/
def OneField (headLen : Nat) (data : List UInt8) : Prop :=
  ∃ head field : List UInt8, data = head ++ counted field ∧ head.length = headLen ∧
    0 < field.length ∧ field.length ≤ udsCertMaxLen

/-- What the check demands of a request for each sub-function. -/
def LengthPrescribed (subFunc : UInt8) (data : List UInt8) : Prop :=
  if subFunc = authSubfuncDeauthenticate then data.length = 2
  else if subFunc = authSubfuncVerifyCertUnidir then TwoFields 3 data
  else if subFunc = authSubfuncVerifyCertBidir then 9 ≤ data.length
  else if subFunc = authSubfuncPown then TwoFields 2 data
  else if subFunc = authSubfuncTransmitCert then OneField 4 data
  else if subFunc = authSubfuncReqChlngForAuth then data.length = 19
  else if subFunc = authSubfuncVerifyPownUnidir then 25 ≤ data.length
  else if subFunc = authSubfuncVerifyPownBidir then 26 ≤ data.length
  else if subFunc = authSubfuncAuthConf then data.length = 2
  else True

section
variable {headLen : Nat} {data : List UInt8}

theorem twoFields_iff :
    TwoFields headLen data ↔
      headLen + 4 + word data headLen ≤ data.length ∧ 0 < word data headLen ∧
        word data headLen ≤ udsCertMaxLen ∧
        word data (headLen + 2 + word data headLen) ≤ udsCertMaxLen ∧
        data.length =
          headLen + 4 + word data headLen + word data (headLen + 2 + word data headLen) := by
  constructor
  · rintro ⟨head, first, second, rfl, rfl, hpos, hfst, hsec⟩
    have hftsF : first.length < 65536 := lt_of_le_of_lt hfst (by decide)
    have hfit : second.length < 65536 := lt_of_le_of_lt hsec (by decide)
    have hone : word (head ++ counted first ++ counted second) head.length = first.length :=
      word_counted rfl hftsF
    have htwo : word (head ++ counted first ++ counted second)
        (head.length + 2 + first.length) = second.length := by
      have hhead : (head ++ counted first).length = head.length + 2 + first.length := by
        rw [length_append, counted_length]
        omega
      exact word_counted_last hhead hfit
    rw [hone]
    simp only [length_append, counted_length]
    omega
  rintro ⟨hfits, hpos, hfst, hsec, hlen⟩
  refine ⟨data.take headLen, (data.drop (headLen + 2)).take (word data headLen),
    data.drop (headLen + 2 + word data headLen + 2), ?_, ?_, ?_, ?_, ?_⟩
  · have hone : data.drop headLen = _ := split_counted (by omega)
    have htwo : data.drop (headLen + 2 + word data headLen) = _ := split_counted (by omega)
    have hrest : data.drop (headLen + 2 + word data headLen + 2 +
        word data (headLen + 2 + word data headLen)) = [] :=
      drop_eq_nil_of_le (by omega)
    have hall : (data.drop (headLen + 2 + word data headLen + 2)).take
        (word data (headLen + 2 + word data headLen)) =
          data.drop (headLen + 2 + word data headLen + 2) := by
      apply take_of_length_le
      rw [length_drop]
      omega
    rw [hrest, hall, append_nil] at htwo
    rw [htwo] at hone
    rw [append_assoc, ← hone, take_append_drop]
  · rw [length_take]
    omega
  · rw [length_take, length_drop]
    omega
  · rw [length_take]
    omega
  · rw [length_drop]
    omega

theorem oneField_iff :
    OneField headLen data ↔
      0 < word data headLen ∧ word data headLen ≤ udsCertMaxLen ∧
        data.length = headLen + 2 + word data headLen := by
  constructor
  · rintro ⟨head, field, rfl, rfl, hpos, hmax⟩
    have hone : word (head ++ counted field) head.length = field.length :=
      word_counted_last rfl (lt_of_le_of_lt hmax (by decide))
    simp only [length_append, counted_length]
    omega
  rintro ⟨hpos, hmax, hlen⟩
  refine ⟨data.take headLen, data.drop (headLen + 2), ?_, ?_, ?_, ?_⟩
  · have hone : data.drop headLen = _ := split_counted (by omega)
    have hall : (data.drop (headLen + 2)).take (word data headLen) = data.drop (headLen + 2) := by
      apply take_of_length_le
      rw [length_drop]
      omega
    have hrest : data.drop (headLen + 2 + word data headLen) = [] :=
      drop_eq_nil_of_le (by omega)
    rw [hrest, hall, append_nil] at hone
    rw [← hone, take_append_drop]
  · rw [length_take]
    omega
  all_goals
    rw [length_drop]
    omega

end

section
variable (m : UdsManager) (addr : AddrInfo) {data : List UInt8}

/-- The lengths at the head and behind the first field fill the request. -/
def FieldsFit (headLen : Nat) : Prop :=
  headLen + 4 + (m.recv16 headLen).toNat ≤ m.recvDataLen ∧ 0 < (m.recv16 headLen).toNat ∧
    (m.recv16 headLen).toNat ≤ udsCertMaxLen ∧
    (m.recv16 (headLen + 2 + (m.recv16 headLen).toNat)).toNat ≤ udsCertMaxLen ∧
    m.recvDataLen = headLen + 4 + (m.recv16 headLen).toNat +
      (m.recv16 (headLen + 2 + (m.recv16 headLen).toNat)).toNat

theorem isVerifyCertLenCorrect_eq_true : isVerifyCertLenCorrect m = true ↔ FieldsFit m 3 := by
  have hpos : (m.recv16 3).toNat + 5 = 3 + 2 + (m.recv16 3).toNat := by omega
  unfold isVerifyCertLenCorrect FieldsFit
  dsimp only
  rw [hpos]
  split_ifs <;> simp only [false_iff, beq_iff_eq] <;> omega

theorem isPownLenCorrect_eq_true : isPownLenCorrect m = true ↔ FieldsFit m 2 := by
  have hpos : (m.recv16 2).toNat + 4 = 2 + 2 + (m.recv16 2).toNat := by omega
  unfold isPownLenCorrect FieldsFit
  dsimp only
  rw [hpos]
  split_ifs <;> simp only [false_iff, beq_iff_eq] <;> omega

theorem transmitCertLen_eq_true :
    isTransmitCertLenCorrect m = true ↔
      0 < (m.recv16 4).toNat ∧ (m.recv16 4).toNat ≤ udsCertMaxLen ∧
        m.recvDataLen = 6 + (m.recv16 4).toNat := by
  unfold isTransmitCertLenCorrect
  dsimp only
  split_ifs <;> simp only [false_iff, beq_iff_eq] <;> omega

variable (hmax : data.length ≤ udsMaxDataSize)
include hmax

/-- The lengths in the buffer are the lengths in the request that was taken. -/
theorem fieldsFit_takeRequest {headLen : Nat} :
    FieldsFit (m.takeRequest addr data) headLen ↔ TwoFields headLen data := by
  rw [twoFields_iff]
  unfold FieldsFit
  rw [takeRequest_recvDataLen]
  constructor
  · rintro ⟨hfits, hpos, hfst, hsec, hlen⟩
    have hone := recv16_word m addr hmax (i := headLen) (by omega)
    rw [hone] at hfits hpos hfst hsec hlen
    rw [recv16_word m addr hmax (by omega)] at hsec hlen
    exact ⟨hfits, hpos, hfst, hsec, hlen⟩
  · rintro ⟨hfits, hpos, hfst, hsec, hlen⟩
    have hone := recv16_word m addr hmax (i := headLen) (by omega)
    rw [hone, recv16_word m addr hmax (by omega)]
    exact ⟨hfits, hpos, hfst, hsec, hlen⟩

theorem transmitCertLen_iff :
    isTransmitCertLenCorrect (m.takeRequest addr data) = true ↔ OneField 4 data := by
  rw [oneField_iff, transmitCertLen_eq_true, takeRequest_recvDataLen]
  by_cases hmin : 6 ≤ data.length
  · rw [recv16_word m addr hmax hmin]
  · omega

theorem isAuthReqLenCorrect_iff (subFunc : UInt8) :
    isAuthReqLenCorrect (m.takeRequest addr data) subFunc = true ↔
      LengthPrescribed subFunc data := by
  unfold isAuthReqLenCorrect LengthPrescribed
  split_ifs
  · exact beq_iff_eq
  · exact (isVerifyCertLenCorrect_eq_true _).trans (fieldsFit_takeRequest m addr hmax)
  · exact decide_eq_true_iff
  · exact (isPownLenCorrect_eq_true _).trans (fieldsFit_takeRequest m addr hmax)
  · exact transmitCertLen_iff m addr hmax
  · exact beq_iff_eq
  iterate 2 exact decide_eq_true_iff
  · exact beq_iff_eq
  · exact iff_of_true rfl trivial

end

section
variable {c : DiagConf} {unlocked : Option Nat} {m : UdsManager} {addr : AddrInfo}
  {data : List UInt8} {authDelayRunning : Bool}

/-- The sub-functions that the handler supports have an exact length. -/
def LengthExact (subFunc : UInt8) (data : List UInt8) : Prop :=
  (subFunc = authSubfuncDeauthenticate ∨ subFunc = authSubfuncAuthConf) ∧ data.length = 2 ∨
    subFunc = authSubfuncVerifyCertUnidir ∧ TwoFields 3 data ∨
    subFunc = authSubfuncPown ∧ TwoFields 2 data ∨
    subFunc = authSubfuncTransmitCert ∧ OneField 4 data

/-- A request that reaches the diagnostic service has exactly the length of its fields. -/
theorem indicateAuthReq_exact
    (h : indicateAuthReq c unlocked (m.takeRequest addr data) authDelayRunning = .indicate) :
    LengthExact (m.takeRequest addr data).subFunction data := by
  unfold indicateAuthReq at h
  dsimp only at h
  split_ifs at h with hmax _ _ hsup hleng
  rw [not_lt] at hmax
  rw [Bool.not_eq_false] at hsup hleng
  have hpres := (isAuthReqLenCorrect_iff m addr hmax _).1 hleng
  simp only [isAuthSubFuncSupported, Bool.or_eq_true, beq_iff_eq] at hsup
  rcases hsup with (((hsub | hsub) | hsub) | hsub) | hsub <;> rw [hsub] at hpres ⊢
  · exact .inl ⟨.inl rfl, hpres⟩
  · exact .inr (.inl ⟨rfl, hpres⟩)
  · exact .inr (.inr (.inl ⟨rfl, hpres⟩))
  · exact .inr (.inr (.inr ⟨rfl, hpres⟩))
  · exact .inl ⟨.inr rfl, hpres⟩

end

section
variable (m : UdsManager) (addr : AddrInfo) {data : List UInt8}

/-- A request is accepted exactly when it is as long as prescribed for its sub-function,
and the check reads nothing but the request. The handler forwards only exact lengths. -/
theorem authReqLen_prescribed (subFunc : UInt8) (hmax : data.length ≤ udsMaxDataSize) :
    (isAuthReqLenCorrect (m.takeRequest addr data) subFunc = true ↔
        LengthPrescribed subFunc data) ∧
      isAuthReqLenCorrect (m.takeRequest addr data) subFunc =
        (probeAuthReqLen data.length subFunc).run (m.takeRequest addr data).recv ∧
      (∀ i ∈ (probeAuthReqLen data.length subFunc).reads (m.takeRequest addr data).recv,
        i < data.length) ∧
      ∀ (c : DiagConf) (unlocked : Option Nat) (authDelayRunning : Bool),
        indicateAuthReq c unlocked (m.takeRequest addr data) authDelayRunning = .indicate →
          LengthExact (m.takeRequest addr data).subFunction data :=
  ⟨isAuthReqLenCorrect_iff m addr hmax subFunc,
    (probeAuthReqLen_run (m.takeRequest addr data) subFunc).symm, probeAuthReqLen_within subFunc,
    fun _ _ _ h => indicateAuthReq_exact h⟩

end

/-- A certificate of one byte without a challenge. -/
def oneByteCertificate : List UInt8 := [0x29, 0x01, 0x00, 0x00, 0x01, 0x30, 0x00, 0x00]

theorem authReqLen_prescribed_oneByteCertificate :
    oneByteCertificate.length ≤ udsMaxDataSize ∧
      (isAuthReqLenCorrect (initialManager.takeRequest testerAddr oneByteCertificate)
          authSubfuncVerifyCertUnidir = true ↔
        LengthPrescribed authSubfuncVerifyCertUnidir oneByteCertificate) :=
  ⟨by decide, (authReqLen_prescribed initialManager testerAddr authSubfuncVerifyCertUnidir
    (by decide)).1⟩

/-- The certificate length of this request is 65535 and no challenge follows. -/
def lyingCertificate : List UInt8 := [0x29, 0x02, 0x00, 0xFF, 0xFF, 0x00, 0x00, 0x00, 0x00]

/-- The certificate check with a counterpart (0x02) accepts lengths that lie. -/
theorem verifyCertBidir_unprescribed :
    isAuthReqLenCorrect (initialManager.takeRequest testerAddr lyingCertificate)
        authSubfuncVerifyCertBidir = true ∧
      ¬ TwoFields 3 lyingCertificate := by
  constructor
  · decide +kernel
  rw [twoFields_iff]
  intro h
  have hfirst : word lyingCertificate 3 = 65535 := by decide
  have hmax := h.2.2.1
  exact absurd hmax (by decide)

end TelAF.AuthReqLength
