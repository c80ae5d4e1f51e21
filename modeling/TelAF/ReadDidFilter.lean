import TelAF.RequestBytes

/-!
# Filtering of ReadDataByIdentifier

A request to read data (0x22) lists data identifiers. The handler walks over them in
order: an identifier that is not configured, not readable or not accessible in the active
session is dropped, one whose authentication or security check fails ends the request with
a negative response, and the others are written back to the front of the reception buffer.

`requestedDids` reads the list of a request, also of the one that is forwarded. The main
theorem describes the answer to every request by the filter and the search on this list.
An identifier whose accessibility cannot be resolved, because a security level is not
configured, counts as not accessible; a functional request that lists a functionally
addressed identifier is answered with a negative response when no identifier remains.
-/

namespace TelAF.ReadDidFilter

open DiagConfiguration UdsState UdsIndications UdsDiagIndication RequestBytes List

def didOf (high low : UInt8) : UInt16 := UInt16.ofNat (high.toNat * 256 + low.toNat)

def didsOf : List UInt8 → List UInt16
  | high :: low :: rest => didOf high low :: didsOf rest
  | _ => []

/-- The identifiers that a request lists behind its service identifier. -/
def requestedDids (data : List UInt8) : List UInt16 := didsOf data.tail

/-- A service identifier and between one and ten identifiers. -/
def WellFormed (data : List UInt8) : Prop :=
  3 ≤ data.length ∧ data.length % 2 = 1 ∧ data.length ≤ 21

def received (m : UdsManager) : List UInt8 := m.recvBuf.take m.recvDataLen

section
variable (c : DiagConf) (unlocked : Option Nat) (m : UdsManager) (addr : AddrInfo)

/-- A functional request concerns the functionally addressed identifiers only. -/
def addressed (dataId : UInt16) : Bool :=
  addr.taType == .physical || c.isDidFunctionalAddressed dataId

/-- The rule for reading a configured and readable identifier in the active session. -/
def readRule (dataId : UInt16) : Option (DidEntry × SecurityLevelRule) :=
  match c.getDidEntry dataId with
  | none => none
  | some entry =>
    if entry.readDid = false then none
    else
      match didSessionRules c m entry with
      | none => none
      | some rules => rules.R.head?.map fun pair => (entry, pair.2)

/-- Reading is allowed in the active session and the rule can be resolved. -/
def accessible (dataId : UInt16) : Bool :=
  match readRule c m dataId with
  | none => false
  | some (_, rule) => (ruleUnlocked c unlocked m rule).isSome

/-- The check that an accessible identifier fails. -/
def refusal (dataId : UInt16) : Option UInt8 :=
  match readRule c m dataId with
  | none => none
  | some (entry, rule) =>
    if isAuthRoleMatchedImpl c m entry.readRole = false then some authenticationRequired
    else
      match ruleUnlocked c unlocked m rule with
      | some false => some securityAccessDeny
      | _ => none

/-- The first failing check among the identifiers that concern the request. -/
def firstRefusal (dids : List UInt16) : Option UInt8 :=
  (dids.filter (addressed c addr)).findSome? (refusal c unlocked m)

def remaining (dids : List UInt16) : List UInt16 :=
  dids.filter fun dataId => addressed c addr dataId && accessible c unlocked m dataId

theorem checkReadDid_rule (dataId : UInt16) :
    checkReadDid c unlocked m dataId =
      match readRule c m dataId with
      | none => .skip
      | some (entry, rule) =>
        if isAuthRoleMatchedImpl c m entry.readRole = false then .refuse authenticationRequired
        else
          match ruleUnlocked c unlocked m rule with
          | none => .skip
          | some false => .refuse securityAccessDeny
          | some true => .accept := by
  unfold checkReadDid readRule
  rcases c.getDidEntry dataId with _ | entry
  · rfl
  dsimp only
  by_cases hread : entry.readDid = false
  · rw [if_pos hread, if_pos hread]
  rw [if_neg hread, if_neg hread]
  rcases didSessionRules c m entry with _ | rules
  · rfl
  dsimp only
  rcases rules.R with _ | ⟨⟨name, rule⟩, rest⟩
  · rfl
  · rfl

theorem checkReadDid_eq (dataId : UInt16) :
    checkReadDid c unlocked m dataId =
      match refusal c unlocked m dataId with
      | some errorCode => .refuse errorCode
      | none => bif accessible c unlocked m dataId then .accept else .skip := by
  rw [checkReadDid_rule]
  unfold refusal accessible
  rcases readRule c m dataId with _ | ⟨entry, rule⟩
  · rfl
  dsimp only
  by_cases hauth : isAuthRoleMatchedImpl c m entry.readRole = false
  · rw [if_pos hauth, if_pos hauth]
  rw [if_neg hauth, if_neg hauth]
  rcases ruleUnlocked c unlocked m rule with _ | isUnlocked
  · rfl
  · cases isUnlocked <;> rfl

/-- The identifier at an index of the request. -/
def didAt (i : Nat) : UInt16 := m.recv16 (i * 2 + 1)

def didBytes (i : Nat) : List UInt8 := [m.recv (i * 2 + 1), m.recv (i * 2 + 2)]

/-- How many identifiers concern a functional request. -/
def functionalCount (dids : List UInt16) : Nat :=
  if addr.taType = .functional then (dids.filter (addressed c addr)).length else 0

theorem addressed_eq_false {dataId : UInt16} :
    addressed c addr dataId = false ↔
      addr.taType = .functional ∧ c.isDidFunctionalAddressed dataId = false := by
  unfold addressed
  cases addr.taType <;> simp

/-- The bytes of the identifiers that remain. -/
def keptBytes (is : List Nat) : List UInt8 :=
  (is.filter fun i => addressed c addr (didAt m i) && accessible c unlocked m (didAt m i)).flatMap
    (didBytes m)

section

variable (is : List Nat)
include is

/-- The loop ends at the first failing check or keeps the bytes of what remains. -/
theorem readDidLoop_eq (acc : ReadDidLoop) :
    readDidLoop c unlocked m addr is acc =
      match firstRefusal c unlocked m addr (is.map (didAt m)) with
      | some errorCode => .error errorCode
      | none => .ok ⟨acc.updatedRecvBuf ++ keptBytes c unlocked m addr is,
          acc.funcAddrDidNum + functionalCount c addr (is.map (didAt m))⟩ := by
  induction is generalizing acc with
  | nil => simp [readDidLoop, firstRefusal, functionalCount, keptBytes]
  | cons i rest ih =>
    unfold readDidLoop
    cases haddr : addressed c addr (didAt m i) with
    | false =>
      -- The identifier does not concern the request.
      have hskip : addr.taType = .functional ∧
          c.isDidFunctionalAddressed (m.recv16 (i * 2 + 1)) = false :=
        (addressed_eq_false c addr).1 haddr
      have href : firstRefusal c unlocked m addr ((i :: rest).map (didAt m)) =
          firstRefusal c unlocked m addr (rest.map (didAt m)) := by
        simp [firstRefusal, haddr]
      have hcnt : functionalCount c addr ((i :: rest).map (didAt m)) =
          functionalCount c addr (rest.map (didAt m)) := by
        simp [functionalCount, haddr]
      have hkept : keptBytes c unlocked m addr (i :: rest) = keptBytes c unlocked m addr rest := by
        simp [keptBytes, haddr]
      rw [if_pos hskip, ih, href, hcnt, hkept]
    | true =>
      have hconc : ¬(addr.taType = .functional ∧
          c.isDidFunctionalAddressed (m.recv16 (i * 2 + 1)) = false) := by
        intro hskip
        have hfal : addressed c addr (didAt m i) = false := (addressed_eq_false c addr).2 hskip
        rw [hfal] at haddr
        cases haddr
      have hcnt : (if addr.taType = .functional then
          { acc with funcAddrDidNum := acc.funcAddrDidNum + 1 } else acc).funcAddrDidNum +
            functionalCount c addr (rest.map (didAt m)) =
          acc.funcAddrDidNum + functionalCount c addr ((i :: rest).map (didAt m)) := by
        unfold functionalCount
        split_ifs
        · simp [haddr]
          omega
        · rfl
      have hbuf : (if addr.taType = .functional then
          { acc with funcAddrDidNum := acc.funcAddrDidNum + 1 } else acc).updatedRecvBuf =
          acc.updatedRecvBuf := by
        split_ifs <;> rfl
      have hfst : firstRefusal c unlocked m addr ((i :: rest).map (didAt m)) =
          (refusal c unlocked m (didAt m i)).or
            (firstRefusal c unlocked m addr (rest.map (didAt m))) := by
        simp [firstRefusal, haddr, findSome?_cons]
        cases refusal c unlocked m (didAt m i) <;> rfl
      rw [if_neg hconc]
      have hchec := checkReadDid_eq c unlocked m (didAt m i)
      change checkReadDid c unlocked m (m.recv16 (i * 2 + 1)) = _ at hchec
      rw [hchec, hfst]
      cases hrefu : refusal c unlocked m (didAt m i) with
      | some errorCode => rfl
      | none =>
        rw [Option.none_or]
        cases hkeep : accessible c unlocked m (didAt m i) with
        | false =>
          have hkept : keptBytes c unlocked m addr (i :: rest) =
              keptBytes c unlocked m addr rest := by
            simp [keptBytes, hkeep]
          simp only [cond_false]
          rw [ih, hcnt, hbuf, hkept]
        | true =>
          have hkept : keptBytes c unlocked m addr (i :: rest) =
              didBytes m i ++ keptBytes c unlocked m addr rest := by
            simp [keptBytes, haddr, hkeep]
          simp only [cond_true]
          rw [ih]
          rw [hcnt, hbuf, hkept, append_assoc]
          rfl

theorem didsOf_flatMap : didsOf (is.flatMap (didBytes m)) = is.map (didAt m) := by
  induction is with
  | nil => rfl
  | cons i rest ih =>
    rw [map_cons, ← ih]
    rfl

theorem didsOf_keptBytes :
    didsOf (keptBytes c unlocked m addr is) = remaining c unlocked m addr (is.map (didAt m)) := by
  rw [keptBytes, didsOf_flatMap, remaining, filter_map]
  rfl

theorem keptBytes_length :
    (keptBytes c unlocked m addr is).length =
      2 * (remaining c unlocked m addr (is.map (didAt m))).length := by
  rw [← didsOf_keptBytes, keptBytes, didsOf_flatMap]
  simp [didBytes, Nat.mul_comm]

end

/-- The bytes of the first identifiers are the first bytes behind the service identifier. -/
theorem flatMap_didBytes (n : Nat) :
    (range n).flatMap (didBytes m) = (range (2 * n)).map fun j => m.recv (1 + j) := by
  induction n with
  | zero => rfl
  | succ n ih =>
    have hlast : 2 * (n + 1) = 2 * n + 1 + 1 := by omega
    have hhigh : n * 2 + 1 = 1 + 2 * n := by omega
    have hlow : n * 2 + 2 = 1 + (2 * n + 1) := by omega
    rw [range_succ, flatMap_append, ih, hlast, range_succ, range_succ,
      map_append, map_append, append_assoc, flatMap_singleton, didBytes, hhigh,
      hlow]
    rfl

variable {data : List UInt8}

theorem didAt_range (h : WellFormed data) :
    (range ((data.length - 1) / 2)).map (didAt (m.takeRequest addr data)) =
      requestedDids data := by
  obtain ⟨hmin, hodd, hmax⟩ := h
  have hbuff : data.length ≤ udsMaxDataSize := hmax.trans (by decide)
  have hlen : 2 * ((data.length - 1) / 2) = data.length - 1 := by omega
  have htail : (data.drop 1).take (data.length - 1) = data.tail := by
    rw [drop_one, take_of_length_le (by rw [length_tail])]
  have hslic := recv_slice m addr hbuff (by omega : 1 + (data.length - 1) ≤ data.length)
  have hbyt := flatMap_didBytes (m.takeRequest addr data) ((data.length - 1) / 2)
  rw [hlen, hslic, htail] at hbyt
  rw [requestedDids, ← hbyt, didsOf_flatMap]

end

/-- The answer of the handler to a request that was taken. -/
structure Answer (c : DiagConf) (unlocked : Option Nat) (m : UdsManager) (addr : AddrInfo)
    (data : List UInt8) (taken : UdsManager) (result : UdsManager × Verdict) : Prop where
  malformed : ¬WellFormed data → result = (taken, .nrc incorrectMsgLenOrInvalidFormat)
  refused : WellFormed data →
    ∀ errorCode, firstRefusal c unlocked m addr (requestedDids data) = some errorCode →
      result = (taken, .nrc errorCode)
  forwards : WellFormed data → firstRefusal c unlocked m addr (requestedDids data) = none →
    remaining c unlocked m addr (requestedDids data) ≠ [] →
      result.2 = .indicate ∧ (received result.1).head? = data.head? ∧
        requestedDids (received result.1) = remaining c unlocked m addr (requestedDids data)
  physical : WellFormed data → firstRefusal c unlocked m addr (requestedDids data) = none →
    remaining c unlocked m addr (requestedDids data) = [] → addr.taType = .physical →
      result = (taken, .nrc reqOutOfRange)
  unaddressed : WellFormed data → firstRefusal c unlocked m addr (requestedDids data) = none →
    addr.taType = .functional → (requestedDids data).filter (addressed c addr) = [] →
      result = (taken, .silent)
  functional : WellFormed data → firstRefusal c unlocked m addr (requestedDids data) = none →
    remaining c unlocked m addr (requestedDids data) = [] → addr.taType = .functional →
      (requestedDids data).filter (addressed c addr) ≠ [] →
      result = (taken, .nrc reqOutOfRange)

section
variable (c : DiagConf) (unlocked : Option Nat) (m : UdsManager) (addr : AddrInfo)
  (data : List UInt8)

theorem remaining_of_unaddressed {dids : List UInt16} (h : dids.filter (addressed c addr) = []) :
    remaining c unlocked m addr dids = [] := by
  rw [remaining, filter_eq_nil_iff]
  intro dataId hmem
  have hnot := filter_eq_nil_iff.1 h dataId hmem
  simp [hnot]

/-- The manager with a shorter request at the front of the buffer. -/
def rewritten (taken : UdsManager) (request : List UInt8) : UdsManager :=
  { taken with
    recvBuf := request ++ taken.recvBuf.drop request.length
    recvDataLen := request.length }

def forwardedRequest : List UInt8 :=
  (m.takeRequest addr data).recv 0 :: keptBytes c unlocked (m.takeRequest addr data) addr
    (List.range ((data.length - 1) / 2))

section

variable (h : WellFormed data)
include h

theorem forwardedRequest_length :
    (forwardedRequest c unlocked m addr data).length =
      1 + 2 * (remaining c unlocked m addr (requestedDids data)).length := by
  rw [forwardedRequest, length_cons, keptBytes_length, didAt_range m addr h, Nat.add_comm]
  rfl

theorem requestedDids_forwardedRequest :
    requestedDids (forwardedRequest c unlocked m addr data) =
      remaining c unlocked m addr (requestedDids data) := by
  rw [requestedDids, forwardedRequest, tail_cons, didsOf_keptBytes, didAt_range m addr h]
  rfl

theorem readDIDReq_wellFormed :
    indicateReadDIDReq c unlocked (m.takeRequest addr data) addr =
      match firstRefusal c unlocked m addr (requestedDids data) with
      | some errorCode => (m.takeRequest addr data, .nrc errorCode)
      | none =>
        if addr.taType = .physical ∧ (forwardedRequest c unlocked m addr data).length = 1 then
          (m.takeRequest addr data, .nrc reqOutOfRange)
        else if addr.taType = .functional ∧ functionalCount c addr (requestedDids data) = 0 then
          (m.takeRequest addr data, .silent)
        else if addr.taType = .functional ∧
          (forwardedRequest c unlocked m addr data).length = 1 then
          (m.takeRequest addr data, .nrc reqOutOfRange)
        else
          (rewritten (m.takeRequest addr data) (forwardedRequest c unlocked m addr data),
            .indicate) := by
  have hdids := didAt_range m addr h
  obtain ⟨hmin, hodd, hmax⟩ := h
  have hdata : udsDataSize = 4095 := rfl
  unfold indicateReadDIDReq
  rw [takeRequest_recvDataLen, if_neg (by omega), if_neg (by omega), if_neg (by omega),
    if_neg (by omega), readDidLoop_eq, hdids]
  have hsame : firstRefusal c unlocked (m.takeRequest addr data) addr (requestedDids data) =
      firstRefusal c unlocked m addr (requestedDids data) := rfl
  rw [hsame]
  cases firstRefusal c unlocked m addr (requestedDids data) with
  | some errorCode => rfl
  | none =>
    rw [Nat.zero_add]
    rfl

end

/-- Every request is answered as the filter and the search on its identifiers say. -/
theorem readDid_answer :
    Answer c unlocked m addr data (m.takeRequest addr data)
      (indicateReadDIDReq c unlocked (m.takeRequest addr data) addr) := by
  have hphys : TaType.physical ≠ TaType.functional := TaType.noConfusion
  have hleng (h : WellFormed data) :
      (forwardedRequest c unlocked m addr data).length = 1 ↔
        remaining c unlocked m addr (requestedDids data) = [] := by
    rw [forwardedRequest_length c unlocked m addr data h, ← length_eq_zero_iff]
    omega
  constructor
  · intro h
    have hbad : data.length < 3 ∨ (data.length - 1) % 2 ≠ 0 ∨ data.length > udsDataSize ∨
        (data.length - 1) / 2 > 10 := by
      unfold WellFormed at h
      omega
    unfold indicateReadDIDReq
    rw [takeRequest_recvDataLen]
    by_cases hmin : data.length < 3
    · rw [if_pos hmin]
    by_cases hodd : (data.length - 1) % 2 ≠ 0
    · rw [if_neg hmin, if_pos hodd]
    by_cases hmax : data.length > udsDataSize
    · rw [if_neg hmin, if_neg hodd, if_pos hmax]
    · rw [if_neg hmin, if_neg hodd, if_neg hmax, if_pos (by tauto)]
  · intro h errorCode hrefu
    rw [readDIDReq_wellFormed c unlocked m addr data h, hrefu]
  · intro h hpass hrmn
    have hlong : ¬(forwardedRequest c unlocked m addr data).length = 1 :=
      mt (hleng h).1 hrmn
    have hcnt : ¬(addr.taType = .functional ∧ functionalCount c addr (requestedDids data) = 0) := by
      rintro ⟨htype, hzero⟩
      rw [functionalCount, if_pos htype, length_eq_zero_iff] at hzero
      exact hrmn (remaining_of_unaddressed c unlocked m addr hzero)
    have hres := readDIDReq_wellFormed c unlocked m addr data h
    rw [hpass] at hres
    dsimp only at hres
    rw [if_neg (fun hp => hlong hp.2), if_neg hcnt, if_neg (fun hf => hlong hf.2)] at hres
    have hrcvd : received (indicateReadDIDReq c unlocked (m.takeRequest addr data) addr).1 =
        forwardedRequest c unlocked m addr data := by
      rw [hres]
      exact take_left
    rw [hrcvd, requestedDids_forwardedRequest c unlocked m addr data h, hres]
    refine ⟨rfl, ?_, rfl⟩
    have hsid := takeRequest_recv m addr data (i := 0) (by have := h.1; omega) (by decide)
    match data, h.1 with
    | sid :: rest, _ => rfl
  · intro h hpass hrmn htype
    rw [readDIDReq_wellFormed c unlocked m addr data h, hpass]
    rw [if_pos ⟨htype, (hleng h).2 hrmn⟩]
  · intro h hpass htype hunad
    have hcnt : functionalCount c addr (requestedDids data) = 0 := by
      rw [functionalCount, if_pos htype, hunad]
      rfl
    rw [readDIDReq_wellFormed c unlocked m addr data h, hpass]
    rw [if_neg (fun hp => hphys (hp.1.symm.trans htype)), if_pos ⟨htype, hcnt⟩]
  · intro h hpass hrmn htype haddr
    have hcnt : ¬functionalCount c addr (requestedDids data) = 0 := by
      rw [functionalCount, if_pos htype, length_eq_zero_iff]
      exact haddr
    rw [readDIDReq_wellFormed c unlocked m addr data h, hpass]
    rw [if_neg (fun hp => hphys (hp.1.symm.trans htype)), if_neg (fun hf => hcnt hf.2),
      if_pos ⟨htype, (hleng h).2 hrmn⟩]

theorem firstRefusal_append {before after : List UInt16} {dataId : UInt16} {errorCode : UInt8}
    (haddr : addressed c addr dataId = true)
    (hrefu : refusal c unlocked m dataId = some errorCode)
    (hbef : ∀ d ∈ before, addressed c addr d = true → refusal c unlocked m d = none) :
    firstRefusal c unlocked m addr (before ++ dataId :: after) = some errorCode := by
  have hnone : (before.filter (addressed c addr)).findSome? (refusal c unlocked m) = none := by
    rw [findSome?_eq_none_iff]
    intro d hd
    obtain ⟨hmem, hconc⟩ := mem_filter.1 hd
    exact hbef d hmem hconc
  rw [firstRefusal, filter_append, findSome?_append, hnone, Option.none_or,
    filter_cons_of_pos haddr, findSome?_cons, hrefu]

/-- What the handler forwards is the list of the identifiers that remain. -/
theorem indicate_remaining
    (h : (indicateReadDIDReq c unlocked (m.takeRequest addr data) addr).2 = .indicate) :
    WellFormed data ∧ firstRefusal c unlocked m addr (requestedDids data) = none ∧
      remaining c unlocked m addr (requestedDids data) ≠ [] := by
  have hansw := readDid_answer c unlocked m addr data
  have hne {e : UInt8} : (Verdict.nrc e) ≠ .indicate := Verdict.noConfusion
  by_cases hwell : WellFormed data
  swap
  · rw [hansw.malformed hwell] at h
    exact absurd h hne
  have hpass : firstRefusal c unlocked m addr (requestedDids data) = none := by
    by_contra hsome
    obtain ⟨errorCode, hrefu⟩ := Option.ne_none_iff_exists'.1 hsome
    rw [hansw.refused hwell errorCode hrefu] at h
    exact hne h
  refine ⟨hwell, hpass, fun hemp => ?_⟩
  cases htype : addr.taType with
  | physical =>
    rw [hansw.physical hwell hpass hemp htype] at h
    exact hne h
  | functional =>
    by_cases haddr : (requestedDids data).filter (addressed c addr) = []
    · rw [hansw.unaddressed hwell hpass htype haddr] at h
      cases h
    · rw [hansw.functional hwell hpass hemp htype haddr] at h
      exact hne h

/-- Every request is answered as the filter and the search on its identifiers say: what is
forwarded is the list of the identifiers that remain, and the first failing check among the
identifiers that concern the request refuses it. -/
theorem readDid_filtering :
    Answer c unlocked m addr data (m.takeRequest addr data)
        (indicateReadDIDReq c unlocked (m.takeRequest addr data) addr) ∧
      ((indicateReadDIDReq c unlocked (m.takeRequest addr data) addr).2 = .indicate →
        WellFormed data ∧
          requestedDids (received (indicateReadDIDReq c unlocked (m.takeRequest addr data) addr).1) =
            (requestedDids data).filter fun dataId =>
              addressed c addr dataId && accessible c unlocked m dataId) ∧
      ∀ before dataId after errorCode, WellFormed data →
        requestedDids data = before ++ dataId :: after → addressed c addr dataId = true →
        refusal c unlocked m dataId = some errorCode →
        (∀ d ∈ before, addressed c addr d = true → refusal c unlocked m d = none) →
          indicateReadDIDReq c unlocked (m.takeRequest addr data) addr =
            (m.takeRequest addr data, .nrc errorCode) := by
  have hanswer := readDid_answer c unlocked m addr data
  refine ⟨hanswer, ?_, ?_⟩
  · intro h
    obtain ⟨hwell, hpassed, hremaining⟩ := indicate_remaining c unlocked m addr data h
    exact ⟨hwell, (hanswer.forwards hwell hpassed hremaining).2.2⟩
  intro before dataId after errorCode hwell hdids hadrd hrefused hbefore
  apply hanswer.refused hwell errorCode
  rw [hdids]
  exact firstRefusal_append c unlocked m addr hadrd hrefused hbefore

end

/-- An identifier that is functionally addressed and cannot be read. -/
def writeOnlyDid : DidEntry where
  didSize := 1
  writeDid := true
  readDid := false
  diagnosticSession := []
  readRole := []
  writeRole := []
  functionalAddressed := true

def writeOnlyConf : DiagConf := { sampleConf with didAll := [(0xF190, writeOnlyDid)] }

/-- A functional request for it is answered with a negative response. -/
theorem writeOnlyDid_answered :
    remaining writeOnlyConf none initialManager ⟨0x0E80, 0x1000, .functional⟩
        (requestedDids [0x22, 0xF1, 0x90]) = [] ∧
      (indicateReadDIDReq writeOnlyConf none
        (initialManager.takeRequest ⟨0x0E80, 0x1000, .functional⟩ [0x22, 0xF1, 0x90])
        ⟨0x0E80, 0x1000, .functional⟩).2 = .nrc reqOutOfRange :=
  ⟨by decide +kernel, by decide +kernel⟩

end TelAF.ReadDidFilter
