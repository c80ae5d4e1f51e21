import TelAF.SecDataIsolation
import TelAF.SecDataNonces

/-!
# The calls of the secure data storage keep the items apart

One lemma for each change of the records, the keys and the references, then one for each call.
-/

namespace TelAF.SecDataStorage

open TransitionRuns RefMap State SecData List Bool Nat

section Data

variable {P : Platform} {items : List Item} {shares : List (Item × Name × Usage)}
  {keys : RefMap Key} {e : SecData}

section

variable (h : DataOk P items shares keys e)
include h

/-- The start and end of crypto sessions change just the number of those that run. -/
theorem DataOk.withKeys {keys' : RefMap Key}
    (hkeys : ∀ k, keys.lookup e.keyRef = some k → ∃ k', keys'.lookup e.keyRef = some k' ∧
      k'.id = k.id ∧ (e.busy = true → 0 < k.running → 0 < k'.running)) :
    DataOk P items shares keys' e := by
  obtain ⟨k, hk, hid, hruns⟩ := h.key
  obtain ⟨k', hk', hid', hruns'⟩ := hkeys k hk
  exact ⟨h.item, h.path, ⟨k', hk', hid'.trans hid, fun hbusy => hruns' hbusy (hruns hbusy)⟩,
    h.cached, h.writing, h.reading⟩

theorem DataOk.mono {items' : List Item}
    {shares' : List (Item × Name × Usage)} (hite : ∀ i ∈ items, i ∈ items')
    (hshar : ∀ app u, (e.item, app, u) ∈ shares → (e.item, app, u) ∈ shares') :
    DataOk P items' shares' keys e := by
  have hpmt : ∀ {app : Name} {p : Purpose}, Permits shares app e.item p →
      Permits shares' app e.item p := by
    intro app p hp
    rcases hp with hownr | ⟨u, hu, hmem⟩
    · exact Or.inl hownr
    · exact Or.inr ⟨u, hu, hshar app u hmem⟩
  refine ⟨hite _ h.item, h.path, h.key, fun app u hmem => hshar app u (h.cached app u hmem),
    ?_, ?_⟩
  · intro hwr
    obtain ⟨hrdg, w, hw, hp⟩ := h.writing hwr
    exact ⟨hrdg, w, hw, hpmt hp⟩
  · intro hrdg
    obtain ⟨w, hw, hp⟩ := h.reading hrdg
    exact ⟨w, hw, hpmt hp⟩

/-- A record that is not in use has no running operation to answer for. -/
theorem DataOk.idle {e' : SecData} (hitem : e'.item = e.item)
    (hpath : e'.path = e.path) (hkey : e'.keyRef = e.keyRef)
    (hcach : ∀ app u, (app, u) ∈ e'.sharedAppList → (e.item, app, u) ∈ shares)
    (hwr : e'.isInWritingProcess = false) (hrdg : e'.isInReadingProcess = false) :
    DataOk P items shares keys e' := by
  obtain ⟨k, hk, hid, -⟩ := h.key
  have hbusy : e'.busy = false := by simp [busy, hwr, hrdg]
  refine ⟨hitem ▸ h.item, by rw [hpath, hitem, h.path], ⟨k, hkey ▸ hk, hitem ▸ hid, ?_⟩, ?_, ?_, ?_⟩
  · simp [hbusy]
  · rw [hitem]
    exact hcach
  · simp [hwr]
  · simp [hrdg]

theorem DataOk.release (c : Nat) : DataOk P items shares keys (e.release c) := by
  unfold SecData.release
  by_cases hw : e.isInWritingProcess = true ∧ e.writer = some c
  · have hrdg := (h.writing hw.1).1
    rw [if_pos hw, if_neg (by simp [hrdg])]
    exact h.idle rfl rfl rfl h.cached rfl hrdg
  rw [if_neg hw]
  by_cases hr : e.isInReadingProcess = true ∧ e.reader = some c
  · have hwr : e.isInWritingProcess = false := by
      cases hwr : e.isInWritingProcess with
      | false => rfl
      | true => simp [(h.writing hwr).1] at hr
    rw [if_pos hr]
    exact h.idle rfl rfl rfl h.cached hwr rfl
  · rw [if_neg hr]
    exact h

end

@[simp] theorem SecData.item_release (c : Nat) : (e.release c).item = e.item := by
  unfold release
  dsimp only
  split_ifs <;> rfl

end Data

variable {f : SecData → SecData}

section Objects

variable {P : Platform} {s : State}

namespace Objects

/-- Records may be changed and removed as long as they belong to their items. -/
theorem withData (h : Objects P s) (secData : RefMap SecData)
    (hdata : ∀ r e', secData.lookup r = some e' → ∃ e, s.secData.lookup r = some e ∧
      e'.item = e.item ∧ DataOk P s.items s.shares s.keys e') :
    Objects P { s with secData := secData } := by
  refine { h with data := ?_, one := ?_ }
  · intro r e' he'
    obtain ⟨e, -, -, hok⟩ := hdata r e' he'
    exact hok
  intro q e' r d' he' hd' heq
  obtain ⟨e, he, hitem, -⟩ := hdata q e' he'
  obtain ⟨d, hd, hitem', -⟩ := hdata r d' hd'
  exact h.one q e r d he hd (by rw [← hitem, heq, hitem'])

theorem withKeys (h : Objects P s) (keys : RefMap Key)
    (hdata : ∀ r e, s.secData.lookup r = some e → DataOk P s.items s.shares keys e)
    (hkeys : ∀ r k', keys.lookup r = some k' → ∃ k, s.keys.lookup r = some k ∧ k'.id = k.id ∧
      ∀ i ∈ s.items, P.getDataKeyId i = k.id → ∀ app u, (app, u) ∈ k'.sharedApps →
        (i, app, u) ∈ s.shares) : Objects P { s with keys := keys } := by
  refine { h with data := hdata, keyIds := ?_, keyItems := ?_, shared := ?_ }
  · intro q k' r l' hk' hl' heq
    obtain ⟨k, hk, hid, -⟩ := hkeys q k' hk'
    obtain ⟨l, hl, hid', -⟩ := hkeys r l' hl'
    exact h.keyIds q k r l hk hl (by rw [← hid, heq, hid'])
  · intro r k' hk'
    obtain ⟨k, hk, hid, -⟩ := hkeys r k' hk'
    rw [hid]
    exact h.keyItems r k hk
  · intro r k' hk' i hi hid
    obtain ⟨k, hk, hid', hshrd⟩ := hkeys r k' hk'
    exact hshrd i hi (hid.trans hid')

theorem withRunning (h : Objects P s) (ref : Nat) (f : Nat → Nat)
    (hf : ∀ r e k, s.secData.lookup r = some e → e.keyRef = ref → s.keys.lookup ref = some k →
      e.busy = true → 0 < k.running → 0 < f k.running) :
    Objects P (s.setKey ref fun k => { k with running := f k.running }) := by
  apply h.withKeys (s.keys.modify ref fun k => { k with running := f k.running })
  · intro r e he
    apply (h.data r e he).withKeys
    intro k hk
    by_cases heq : e.keyRef = ref
    · refine ⟨{ k with running := f k.running }, ?_, rfl, hf r e k he heq (heq ▸ hk)⟩
      rw [← heq, lookup_modify_self, hk]
      rfl
    · refine ⟨k, ?_, rfl, fun _ hpos => hpos⟩
      rw [lookup_modify_of_ne heq, hk]
  · intro r k' hk'
    rw [lookup_modify] at hk'
    split_ifs at hk' with heq
    · obtain ⟨k, hk, rfl⟩ := Option.map_eq_some_iff.1 hk'
      exact ⟨k, hk, rfl, h.shared r k hk⟩
    · exact ⟨k', hk', rfl, h.shared r k' hk'⟩

end Objects

namespace Inv

variable (h : Inv P s)
include h

theorem withData (secData : RefMap SecData) (hnext : secData.next = s.secData.next)
    (hdata : ∀ r e', secData.lookup r = some e' → ∃ e, s.secData.lookup r = some e ∧
      e'.item = e.item ∧ DataOk P s.items s.shares s.keys e') :
    Inv P { s with secData := secData } := by
  refine ⟨h.toObjects.withData secData hdata, ?_, h.requested⟩
  intro ref d hd
  obtain ⟨i, hi⟩ := h.clients ref d hd
  refine ⟨i, hi.returned, hi.only, hi.owner, hi.label, ?_, ?_⟩
  · intro r hr
    rw [hnext]
    exact hi.older r hr
  intro r hr e' he'
  obtain ⟨e, he, hitem, -⟩ := hdata r e' he'
  rw [hitem]
  exact hi.points r hr e he

theorem setData (r : Nat)
    (hf : ∀ e, s.secData.lookup r = some e →
      (f e).item = e.item ∧ DataOk P s.items s.shares s.keys (f e)) : Inv P (s.setData r f) := by
  apply h.withData (s.secData.modify r f) rfl
  intro q e' he'
  by_cases heq : q = r
  · subst heq
    rw [lookup_modify_self, Option.map_eq_some_iff] at he'
    obtain ⟨e, he, rfl⟩ := he'
    exact ⟨e, he, hf e he⟩
  · rw [lookup_modify_of_ne heq] at he'
    exact ⟨e', he', rfl, h.data q e' he'⟩

theorem eraseData (r : Nat) : Inv P { s with secData := s.secData.erase r } := by
  apply h.withData (s.secData.erase r) rfl
  intro q e he
  obtain ⟨-, hold⟩ := lookup_of_erase he
  exact ⟨e, hold, rfl, h.data q e hold⟩

theorem cryptoSessionStart (ref : Nat) : Inv P (s.cryptoSessionStart ref) :=
  ⟨h.withRunning ref (· + 1) fun _ _ _ _ _ _ _ _ => succ_pos _, h.clients, h.requested⟩

/-- A record that is not in use does not need its key's crypto session. -/
theorem cryptoSessionEnd {r : Nat} {e : SecData} (he : s.secData.lookup r = some e)
    (hidle : e.busy = false) : Inv P (s.cryptoSessionEnd e.keyRef) := by
  refine ⟨h.withRunning e.keyRef (· - 1) ?_, h.clients, h.requested⟩
  intro q d k hd hkey _ hbusy
  have hitem := h.item_of_keyRef hd he hkey
  obtain rfl := h.one q d r e hd he hitem
  rw [he] at hd
  cases hd
  simp [hidle] at hbusy

theorem withFiles (files : List Name) : Inv P { s with files := files } :=
  ⟨{ h.toObjects with }, h.clients, h.requested⟩

theorem createFile (path : Name) : Inv P (s.createFile path) := h.withFiles _

theorem deleteFile (path : Name) : Inv P (s.deleteFile path) := h.withFiles _

theorem withEncryptions (encryptions : List (Item × Name × List Nat)) :
    Inv P { s with encryptions := encryptions } :=
  ⟨{ h.toObjects with }, h.clients, h.requested⟩

end Inv

end Objects

/-! ## Reading and writing -/

variable {env : State.WriteStart}

section Operations

variable {P : Platform} {s : State} {c ref r : Nat} {d : ClientData} {data : SecData} {p : Purpose}

theorem dataOf_eq_some (h : s.dataOf ref = some (d, r, data)) :
    s.clientData.lookup ref = some d ∧ d.secDataRef = some r ∧
      s.secData.lookup r = some data := by
  obtain ⟨d', hd, hrest⟩ := Option.bind_eq_some_iff.1 h
  obtain ⟨r', hr, hlast⟩ := Option.bind_eq_some_iff.1 hrest
  obtain ⟨data', hdata, heq⟩ := Option.map_eq_some_iff.1 hlast
  obtain ⟨rfl, rfl, rfl⟩ := heq
  exact ⟨hd, hr, hdata⟩

section

variable (h : Inv P s)
include h

/-- What the service checks for a client that the item is shared with, and takes for granted for
its owner. -/
theorem Inv.permits (hof : s.dataOf ref = some (d, r, data))
    (hown : s.OwnReference P c ref) (huse : mayUse P c p d data = true) :
    Permits s.shares (P.appName c) data.item p := by
  obtain ⟨hd, hr, hdata⟩ := dataOf_eq_some hof
  obtain ⟨i, hi⟩ := h.clients ref d hd
  have hitem : data.item = i := hi.points r hr data hdata
  rcases hshrd : d.sharedClient with _ | _
  · left
    rw [← hown d hd, hi.owner hshrd, hitem]
  have halw : (data.getSharedAppUsage (P.appName c)).allows p = true := by
    simpa [mayUse, hshrd] using huse
  unfold getSharedAppUsage at halw
  rcases hfind : data.sharedAppList.find? fun e => e.1 = P.appName c with _ | e
  · simp [hfind, Usage.allows] at halw
  have happ : e.1 = P.appName c := by
    simpa using find?_some (p := fun e : Name × Usage => decide (e.1 = P.appName c)) hfind
  right
  refine ⟨e.2, by simpa [hfind] using halw, ?_⟩
  rw [← happ]
  exact (h.data r data hdata).cached e.1 e.2 (mem_of_find?_eq_some hfind)

variable (hdata : s.secData.lookup r = some data)
include hdata

theorem Inv.key_of : ∃ k, s.keys.lookup data.keyRef = some k ∧
      k.id = P.getDataKeyId data.item := by
  obtain ⟨k, hk, hid, -⟩ := (h.data r data hdata).key
  exact ⟨k, hk, hid⟩

theorem Inv.setIdle (hitem : (f data).item = data.item) (hpath : (f data).path = data.path)
    (hkey : (f data).keyRef = data.keyRef) (hlist : (f data).sharedAppList = data.sharedAppList)
    (hwr : (f data).isInWritingProcess = false)
    (hrdg : (f data).isInReadingProcess = false) : Inv P (s.setData r f) := by
  apply h.setData
  intro e he
  rw [hdata] at he
  cases he
  refine ⟨hitem, (h.data r data hdata).idle hitem hpath hkey ?_ hwr hrdg⟩
  rw [hlist]
  exact (h.data r data hdata).cached

theorem Inv.useTempFile (hnew : s.NewTempFile data.item) : Inv P (s.useTempFile data) := by
  have hok := h.data r data hdata
  refine ⟨{ h.toObjects with written := ?_, temps := ?_, uses := ?_ }, h.clients, h.requested⟩
  · intro i hi
    rcases mem_cons.1 hi with rfl | hold
    · exact hok.item
    · exact h.written i hold
  · intro i hi
    rcases mem_cons.1 hi with rfl | hold
    · exact hnew
    · exact h.temps i hold
  intro x hx
  rcases mem_cons.1 hx with rfl | hold
  · refine ⟨hok.item, Or.inr (Or.inr ⟨mem_cons_self, ?_⟩)⟩
    rw [hok.path]
  obtain ⟨hitem, hreso⟩ := h.uses x hold
  refine ⟨hitem, ?_⟩
  rcases hreso with hkey | hpath | ⟨hwrtn, htemp⟩
  · exact Or.inl hkey
  · exact Or.inr (Or.inl hpath)
  · exact Or.inr (Or.inr ⟨mem_cons_of_mem _ hwrtn, htemp⟩)

theorem Inv.setBusy (hitem : (f data).item = data.item) (hpath : (f data).path = data.path)
    (hkey : (f data).keyRef = data.keyRef) (hlist : (f data).sharedAppList = data.sharedAppList)
    (hruns : ∀ k, s.keys.lookup data.keyRef = some k → 0 < k.running)
    (hwr : (f data).isInWritingProcess = true → (f data).isInReadingProcess = false ∧
      ∃ w ∈ (f data).writer, Permits s.shares (P.appName w) data.item .writing)
    (hrdg : (f data).isInReadingProcess = true →
      ∃ w ∈ (f data).reader, Permits s.shares (P.appName w) data.item .reading) :
    Inv P (s.setData r f) := by
  apply h.setData
  intro e he
  rw [hdata] at he
  cases he
  have hok := h.data r data hdata
  obtain ⟨k, hk, hid⟩ := h.key_of hdata
  refine ⟨hitem, ?_, ?_, ?_, ?_, ?_, ?_⟩
  · rw [hitem]
    exact hok.item
  · rw [hpath, hitem]
    exact hok.path
  · rw [hkey, hitem]
    exact ⟨k, hk, hid, fun _ => hruns k hk⟩
  · rw [hlist, hitem]
    exact hok.cached
  · rw [hitem]
    exact hwr
  · rw [hitem]
    exact hrdg

end

theorem running_cryptoSessionStart (keyRef : Nat) (k : Key)
    (hk : (s.cryptoSessionStart keyRef).keys.lookup keyRef = some k) : 0 < k.running := by
  change (s.keys.modify keyRef _).lookup keyRef = some k at hk
  rw [lookup_modify_self, Option.map_eq_some_iff] at hk
  obtain ⟨old, -, rfl⟩ := hk
  exact succ_pos _

structure Prepared (P : Platform) (s : State) (r : Nat) (data e : SecData) : Prop where
  lookup : s.secData.lookup r = some e
  item : e.item = data.item
  path : e.path = data.path
  key : e.keyRef = data.keyRef
  writing : e.isInWritingProcess = false
  reading : e.isInReadingProcess = false
  running : ∀ k, s.keys.lookup e.keyRef = some k → 0 < k.running

variable {e : SecData}

theorem Prepared.idle (h : Prepared P s r data e) : e.busy = false := by
  simp [busy, h.writing, h.reading]

theorem Prepared.abort (hp : Prepared P s r data e) (h : Inv P s) :
    Inv P (s.cryptoSessionEnd data.keyRef) := by
  rw [← hp.key]
  exact h.cryptoSessionEnd hp.lookup hp.idle

variable (h : Inv P s)
include h

theorem Inv.openWriting (hp : Prepared P s r data e)
    (hwrit : e.writer = some c) (hpmt : Permits s.shares (P.appName c) data.item .writing)
    (hnew : env.aead = true → s.NewTempFile data.item) : Inv P (s.openWriting r data env).1 := by
  have hdata : s.secData.lookup r = some e := hp.lookup
  unfold State.openWriting
  by_cases haead : env.aead = true
  swap
  · rw [if_pos haead]
    exact hp.abort h
  rw [if_neg (not_not_intro haead)]
  have htemp : Inv P (s.useTempFile data) := by
    have heq : s.useTempFile data = s.useTempFile e := by simp [State.useTempFile, hp.item, hp.path]
    rw [heq]
    exact h.useTempFile hdata (hp.item ▸ hnew haead)
  have hdata' : (s.useTempFile data).secData.lookup r = some e := hdata
  by_cases hopen : env.opened = true
  · rw [if_neg (not_not_intro hopen)]
    apply Inv.createFile
    apply htemp.setBusy hdata' rfl rfl rfl rfl hp.running
    · intro _
      refine ⟨hp.reading, c, hwrit, ?_⟩
      rw [hp.item]
      exact hpmt
    · intro hrdg
      simp [hp.reading] at hrdg
  rw [if_pos hopen]
  apply Inv.deleteFile
  have hidle : Inv P ((s.useTempFile data).setData r fun e =>
      { e with isInWritingProcess := false, writer := none }) :=
    htemp.setIdle hdata' rfl rfl rfl rfl rfl hp.reading
  rw [← hp.key]
  apply hidle.cryptoSessionEnd (r := r) (e := { e with isInWritingProcess := false, writer := none })
  · change (s.secData.modify r _).lookup r = _
    rw [lookup_modify_self, hdata]
    rfl
  · simp [busy, hp.reading]

theorem Inv.writeDataStart (hcare : Careful P s (.writeDataStart c ref env)) :
    Inv P (s.writeDataStart P c ref env).1 := by
  unfold State.writeDataStart
  rcases hof : s.dataOf ref with _ | found
  · exact h
  obtain ⟨d, r, data⟩ := found
  obtain ⟨-, -, hdata⟩ := dataOf_eq_some hof
  by_cases hwr : data.isInWritingProcess = true
  · simpa [hwr] using h
  by_cases hrdg : data.isInReadingProcess = true
  · simpa [hrdg] using h
  simp only [not_eq_true] at hwr hrdg
  by_cases huse : State.mayUse P c .writing d data = true
  swap
  · simpa [hwr, hrdg, huse] using
      h.setIdle (f := fun e => { e with writer := none }) hdata rfl rfl rfl rfl hwr hrdg
  have hpmt := h.permits hof hcare.1 huse
  have hset : Inv P (s.setData r fun e => { e with writer := some c }) :=
    h.setIdle hdata rfl rfl rfl rfl hwr hrdg
  by_cases hfile : data.path ∈ s.files
  swap
  · simpa [hwr, hrdg, huse, hfile] using hset
  obtain ⟨k, hk, hid⟩ := h.key_of hdata
  by_cases hstrt : env.started = true
  swap
  · simpa [hwr, hrdg, huse, hfile, hstrt] using hset
  have hencr : data.item ∈ s.encryptedItem P c ref env := by
    simp [State.encryptedItem, hof, hwr, hrdg, huse, hfile, hk, hstrt]
  simp only [hwr, hrdg, huse, hfile, hk, hstrt]
  apply Inv.openWriting (c := c) (e := { data with writer := some c })
  · exact (hset.cryptoSessionStart data.keyRef).withEncryptions _
  · refine ⟨?_, rfl, rfl, rfl, hwr, hrdg, ?_⟩
    · change (s.secData.modify r _).lookup r = _
      rw [lookup_modify_self, hdata]
      rfl
    · intro k hk
      exact running_cryptoSessionStart data.keyRef k hk
  · rfl
  · exact hpmt
  · intro haead
    exact hcare.2 data.item hencr haead

section

variable (hdata : s.secData.lookup r = some data)
include hdata

/-- A record that goes out of use gives up its key's crypto session. -/
theorem Inv.endOperation (hitem : (f data).item = data.item) (hpath : (f data).path = data.path)
    (hkey : (f data).keyRef = data.keyRef) (hlist : (f data).sharedAppList = data.sharedAppList)
    (hwr : (f data).isInWritingProcess = false)
    (hrdg : (f data).isInReadingProcess = false) :
    Inv P ((s.setData r f).cryptoSessionEnd data.keyRef) := by
  have hidle := h.setIdle hdata hitem hpath hkey hlist hwr hrdg
  rw [← hkey]
  apply hidle.cryptoSessionEnd (r := r)
  · change (s.secData.modify r f).lookup r = _
    rw [lookup_modify_self, hdata]
    rfl
  · simp [busy, hwr, hrdg]

theorem Inv.endWriting (hwr : data.isInWritingProcess = true) (writer : Option Nat) :
    Inv P (s.endWriting r data writer) :=
  h.endOperation hdata rfl rfl rfl rfl rfl ((h.data r data hdata).writing hwr).1

theorem Inv.endReading (hwr : data.isInWritingProcess = false) (reader : Option Nat) :
    Inv P (s.endReading r data reader) :=
  h.endOperation hdata rfl rfl rfl rfl hwr rfl

end

theorem Inv.writeDataChunk (bufferSize : Nat) (fits processed : Bool) :
    Inv P (s.writeDataChunk P c ref bufferSize fits processed).1 := by
  unfold State.writeDataChunk
  rcases hof : s.dataOf ref with _ | found
  · exact h
  obtain ⟨-, -, hdata⟩ := dataOf_eq_some hof
  dsimp only
  split_ifs with hwr
  iterate 3 exact h
  iterate 2 exact (h.endWriting hdata hwr none).deleteFile _
  exact h

theorem Inv.writeDataEnd (ended renamed : Bool) : Inv P (s.writeDataEnd c ref ended renamed).1 := by
  unfold State.writeDataEnd
  rcases hof : s.dataOf ref with _ | found
  · exact h
  obtain ⟨-, -, hdata⟩ := dataOf_eq_some hof
  dsimp only
  split_ifs with hwr
  · exact h
  · exact ((h.endWriting hdata hwr none).deleteFile _).createFile _
  · exact (h.endWriting hdata hwr none).deleteFile _
  · exact (h.endWriting hdata hwr _).deleteFile _
  · exact h

theorem Inv.getKey_of (hdata : s.secData.lookup r = some data) :
    s.getKey (P.getDataKeyId data.item) = some data.keyRef := by
  obtain ⟨k, hk, hid⟩ := h.key_of hdata
  cases hget : s.getKey (P.getDataKeyId data.item) with
  | none =>
    have hnone := search_eq_none.1 hget data.keyRef k hk
    simp [hid] at hnone
  | some ref =>
    obtain ⟨l, hl, hlid⟩ := search_eq_some hget
    rw [h.keyIds ref l data.keyRef k hl hk ((of_decide_eq_true hlid).trans hid.symm)]

theorem Inv.openReading (hp : Prepared P s r data e)
    (hread : e.reader = some c) (hpmt : Permits s.shares (P.appName c) data.item .reading)
    (env : State.ReadStart) : Inv P (s.openReading r data.keyRef data env).1 := by
  unfold State.openReading
  split_ifs
  · cases env.outcome with
    | failed | last => exact hp.abort h
    | more =>
      apply h.setBusy hp.lookup rfl rfl rfl rfl hp.running
      · intro hwr
        simp [hp.writing] at hwr
      intro _
      refine ⟨c, hread, ?_⟩
      rw [hp.item]
      exact hpmt
  all_goals exact hp.abort h

theorem Inv.readDataFirstChunk {env : State.ReadStart}
    (hcare : Careful P s (.readDataFirstChunk c ref env)) :
    Inv P (s.readDataFirstChunk P c ref env).1 := by
  unfold State.readDataFirstChunk
  rcases hof : s.dataOf ref with _ | found
  · exact h
  obtain ⟨d, r, data⟩ := found
  obtain ⟨-, -, hdata⟩ := dataOf_eq_some hof
  by_cases hwr : data.isInWritingProcess = true
  · simpa [hwr] using h
  by_cases hrdg : data.isInReadingProcess = true
  · simpa [hrdg] using h
  simp only [not_eq_true] at hwr hrdg
  by_cases huse : State.mayUse P c .reading d data = true
  swap
  · simpa [hwr, hrdg, huse] using
      h.setIdle (f := fun e => { e with reader := none }) hdata rfl rfl rfl rfl hwr hrdg
  have hpmt := h.permits hof hcare huse
  simp only [hwr, hrdg, huse, h.getKey_of hdata]
  have hset : Inv P (s.setData r fun e => { e with reader := some c, keyRef := data.keyRef }) :=
    h.setIdle hdata rfl rfl rfl rfl hwr hrdg
  by_cases hstrt : env.started = true
  swap
  · simpa [hstrt] using hset
  simp only [hstrt]
  apply Inv.openReading (c := c) (e := { data with reader := some c })
  · exact hset.cryptoSessionStart data.keyRef
  · refine ⟨?_, rfl, rfl, rfl, hwr, hrdg, ?_⟩
    · change (s.secData.modify r _).lookup r = _
      rw [lookup_modify_self, hdata]
      rfl
    · intro k hk
      exact running_cryptoSessionStart data.keyRef k hk
  · rfl
  · exact hpmt

theorem Inv.readDataNextChunk (outcome : State.ReadOutcome) :
    Inv P (s.readDataNextChunk c ref outcome).1 := by
  unfold State.readDataNextChunk
  rcases hof : s.dataOf ref with _ | found
  · exact h
  obtain ⟨d, r, data⟩ := found
  obtain ⟨-, -, hdata⟩ := dataOf_eq_some hof
  by_cases hwr : data.isInWritingProcess = true
  · simpa [hwr] using h
  have hidle : data.isInWritingProcess = false := by simpa using hwr
  cases outcome with
  | more =>
    dsimp only
    split_ifs <;> exact h
  | failed | last =>
    dsimp only
    split_ifs
    · exact h
    · exact h.endReading hdata hidle _
    · exact h

end Operations

/-! ## Sharing -/

variable {k : Key} {app : Name}

section Sharing

variable {P : Platform} {s : State} {c ref r : Nat} {d : ClientData} {data : SecData}

theorem getD_sharedApps {keys : RefMap Key} {keyRef : Nat} (hk : keys.lookup keyRef = some k) :
    ((keys.lookup keyRef).map Key.sharedApps).getD [] = k.sharedApps := by
  rw [hk]
  rfl

variable (h : Inv P s)
include h

theorem Inv.refreshSharedAppInfo (r : Nat) : Inv P (s.refreshSharedAppInfo r) := by
  apply h.setData
  intro e he
  have hok := h.data r e he
  obtain ⟨k, hk, hid⟩ := h.key_of he
  refine ⟨rfl, hok.item, hok.path, hok.key, ?_, hok.writing, hok.reading⟩
  intro app u hmem
  dsimp only at hmem
  rw [getD_sharedApps hk] at hmem
  exact h.shared e.keyRef k hk e.item hok.item hid.symm app u (mem_of_mem_take hmem)

theorem Inv.share (e : Item × Name × Usage) : Inv P { s with shares := e :: s.shares } := by
  refine ⟨{ h.toObjects with data := ?_, shared := ?_ }, h.clients, h.requested⟩
  · intro r d hd
    exact (h.data r d hd).mono (fun _ hi => hi) fun _ _ hmem => mem_cons_of_mem _ hmem
  · intro r k hk i hi hid app u hmem
    exact mem_cons_of_mem _ (h.shared r k hk i hi hid app u hmem)

theorem Inv.shareKey (hdata : s.secData.lookup r = some data)
    {usage : Usage} (hsha : (data.item, app, usage) ∈ s.shares) :
    Inv P (s.shareKey data.keyRef app usage) := by
  obtain ⟨k, hk, hid⟩ := h.key_of hdata
  refine ⟨?_, h.clients, h.requested⟩
  apply h.withKeys (s.keys.modify data.keyRef _)
  · intro q e he
    apply (h.data q e he).withKeys
    intro l hl
    rw [lookup_modify, hl]
    split_ifs
    · exact ⟨_, rfl, rfl, fun _ hpos => hpos⟩
    · exact ⟨l, rfl, rfl, fun _ hpos => hpos⟩
  intro q l' hl'
  rw [lookup_modify] at hl'
  split_ifs at hl' with heq
  · rw [heq, hk] at hl'
    cases hl'
    refine ⟨k, heq ▸ hk, rfl, ?_⟩
    intro i hi hi' app' u hmem
    rcases mem_append.1 hmem with hold | hnew
    · exact h.shared data.keyRef k hk i hi hi' app' u (mem_of_mem_filter hold)
    have hitem := h.items i hi data.item (h.data r data hdata).item (hi'.trans hid)
    simp only [mem_singleton, Prod.mk.injEq] at hnew
    rw [hitem, hnew.1, hnew.2]
    exact hsha
  · exact ⟨l', hl', rfl, h.shared q l' hl'⟩

theorem Inv.shareData (app : Name) (usage : Usage) (shared : Bool) :
    Inv P (s.shareData P c ref app usage shared).1 := by
  unfold State.shareData
  rcases hof : s.dataOf ref with _ | found
  · exact h
  obtain ⟨d, r, data⟩ := found
  obtain ⟨-, -, hdata⟩ := dataOf_eq_some hof
  dsimp only
  split_ifs
  iterate 6 exact h
  · have hsha := h.share (data.item, app, usage)
    exact (hsha.shareKey (r := r) hdata mem_cons_self).refreshSharedAppInfo r
  · exact h

/-- What no record and no key of the item uses need not be shared any more. -/
theorem Inv.unshare (i : Item) (keep : Item × Name × Usage → Bool)
    (hoth : ∀ e, e.1 ≠ i → keep e = true)
    (hdata : ∀ q e, s.secData.lookup q = some e → e.item = i →
      e.busy = false ∧ ∀ app u, (app, u) ∈ e.sharedAppList → keep (i, app, u) = true)
    (hkeys : ∀ q k, s.keys.lookup q = some k → k.id = P.getDataKeyId i →
      ∀ app u, (app, u) ∈ k.sharedApps → keep (i, app, u) = true) :
    Inv P { s with shares := s.shares.filter keep } := by
  refine ⟨{ h.toObjects with data := ?_, shared := ?_ }, h.clients, h.requested⟩
  · intro q e he
    have hok := h.data q e he
    by_cases hitem : e.item = i
    · obtain ⟨hidle, hcach⟩ := hdata q e he hitem
      simp only [busy, or_eq_false_iff] at hidle
      refine ⟨hok.item, hok.path, hok.key, ?_, by simp [hidle.1], by simp [hidle.2]⟩
      intro app u hmem
      refine mem_filter.2 ⟨hok.cached app u hmem, ?_⟩
      rw [hitem]
      exact hcach app u hmem
    · apply hok.mono fun _ hi => hi
      intro app u hmem
      exact mem_filter.2 ⟨hmem, hoth _ hitem⟩
  · intro q k hk j hj hid app u hmem
    refine mem_filter.2 ⟨h.shared q k hk j hj hid app u hmem, ?_⟩
    by_cases hitem : j = i
    · subst hitem
      exact hkeys q k hk hid.symm app u hmem
    · exact hoth _ hitem

theorem Inv.cancelKeySharing (keyRef : Nat) (app : Name) :
    Inv P (s.cancelKeySharing keyRef app) := by
  refine ⟨?_, h.clients, h.requested⟩
  apply h.withKeys (s.keys.modify keyRef _)
  · intro q e he
    apply (h.data q e he).withKeys
    intro l hl
    rw [lookup_modify, hl]
    split_ifs
    · exact ⟨_, rfl, rfl, fun _ hpos => hpos⟩
    · exact ⟨l, rfl, rfl, fun _ hpos => hpos⟩
  · intro q l' hl'
    rw [lookup_modify] at hl'
    split_ifs at hl' with heq
    · obtain ⟨l, hl, rfl⟩ := Option.map_eq_some_iff.1 hl'
      refine ⟨l, hl, rfl, ?_⟩
      intro i hi hid app' u hmem
      exact h.shared q l hl i hi hid app' u (mem_of_mem_filter hmem)
    · exact ⟨l', hl', rfl, h.shared q l' hl'⟩

/-- No key of the item is shared with the app after the sharing is cancelled. -/
theorem Inv.not_shared (hdata : s.secData.lookup r = some data)
    {q : Nat} (hk : (s.cancelKeySharing data.keyRef app).keys.lookup q = some k)
    (hid : k.id = P.getDataKeyId data.item) :
    ∀ app' u, (app', u) ∈ k.sharedApps → app' ≠ app := by
  obtain ⟨l, hl, hlid⟩ := h.key_of hdata
  change (s.keys.modify data.keyRef _).lookup q = some k at hk
  rw [lookup_modify] at hk
  split_ifs at hk with heq
  · obtain ⟨old, -, rfl⟩ := Option.map_eq_some_iff.1 hk
    intro app' u hmem
    simpa using (mem_filter.1 hmem).2
  · exact absurd (h.keyIds q k data.keyRef l hk hl (hid.trans hlid.symm)) heq

theorem Inv.cancelDataSharing (app : Name) (canceled : Bool) :
    Inv P (s.cancelDataSharing ref app canceled).1 := by
  unfold State.cancelDataSharing
  rcases hof : s.dataOf ref with _ | found
  · exact h
  obtain ⟨d, r, data⟩ := found
  obtain ⟨-, -, hdata⟩ := dataOf_eq_some hof
  obtain ⟨k, hk, hid, hruns⟩ := (h.data r data hdata).key
  simp only [hk]
  split_ifs with _ _ hidle
  any_goals exact h
  have hcanc := h.cancelKeySharing data.keyRef app
  apply (hcanc.refreshSharedAppInfo r).unshare data.item
    (fun e => ¬ (e.1 = data.item ∧ e.2.1 = app))
  · intro e he
    simp [he]
  · intro q e he hitem
    change ((s.secData.modify r _).lookup q) = some e at he
    -- the record that the sharing is cancelled for is the only one of its item
    have hq : q = r := by
      rw [lookup_modify] at he
      split_ifs at he with heq
      · exact heq
      · exact h.one q e r data he hdata hitem
    subst hq
    rw [lookup_modify_self, hdata, Option.map_some, Option.some.injEq] at he
    subst he
    constructor
    · cases hbusy : data.busy with
      | false => exact hbusy
      | true => exact absurd (hruns hbusy) hidle
    intro app' u hmem
    dsimp only at hmem
    obtain ⟨l, hl, hlid⟩ := hcanc.key_of hdata
    rw [getD_sharedApps hl] at hmem
    have hne := h.not_shared hdata hl hlid app' u (mem_of_mem_take hmem)
    simp [hne]
  · intro q l hl hlid app' u hmem
    have hne := h.not_shared hdata hl hlid app' u hmem
    simp [hne]

theorem Inv.deleteData (hcare : Careful P s (.deleteData c ref)) :
    Inv P (s.deleteData ref).1 := by
  unfold State.deleteData
  rcases hof : s.dataOf ref with _ | found
  · exact h
  obtain ⟨d, r, data⟩ := found
  obtain ⟨-, -, hdata⟩ := dataOf_eq_some hof
  obtain ⟨k, hk, hid⟩ := h.key_of hdata
  have hidle : ((s.keys.lookup data.keyRef).any fun k => decide (k.running = 0)) = true := by
    have hruns := hcare.2 (d, r, data) hof k hk
    simp [hk, hruns]
  dsimp only
  split_ifs
  any_goals exact h
  have hersd : Inv P { s with secData := s.secData.erase r } := h.eraseData r
  have hkeys : Inv P { s with secData := s.secData.erase r, keys := s.keys.erase data.keyRef } := by
    refine ⟨?_, hersd.clients, h.requested⟩
    apply hersd.withKeys (s.keys.erase data.keyRef)
    · intro q e he
      obtain ⟨hne, hold⟩ := lookup_of_erase he
      apply (h.data q e hold).withKeys
      intro l hl
      have hkey : e.keyRef ≠ data.keyRef := fun heq =>
        hne (h.one q e r data hold hdata (h.item_of_keyRef hold hdata heq))
      rw [lookup_erase, if_neg hkey]
      exact ⟨l, hl, rfl, fun _ hpos => hpos⟩
    · intro q l hl
      obtain ⟨-, hold⟩ := lookup_of_erase hl
      exact ⟨l, hold, rfl, h.shared q l hold⟩
  apply ((hkeys.deleteFile (tempFile data.path)).deleteFile data.path).unshare data.item
    (fun e => e.1 ≠ data.item)
  · intro e he
    simpa using he
  · intro q e he hitem
    obtain ⟨hne, hold⟩ := lookup_of_erase he
    exact absurd (h.one q e r data hold hdata hitem) hne
  · intro q l hl hlid
    obtain ⟨hne, hold⟩ := lookup_of_erase hl
    exact absurd (h.keyIds q l data.keyRef k hold hk (hlid.trans hid.symm)) hne

end Sharing

/-! ## References and records -/

variable {dataLabel : Name}

section References

variable {P : Platform} {s : State} {c ref r : Nat} {i : Item}

theorem foldl_release (held : List ClientData) (m : RefMap SecData) {Q : SecData → Prop}
    (hQ : ∀ e, Q e → Q (e.release c)) :
    let m' := held.foldl (fun m d => d.secDataRef.elim m fun r => m.modify r (release c)) m
    m'.next = m.next ∧ ∀ r e', m'.lookup r = some e' →
      ∃ e, m.lookup r = some e ∧ e'.item = e.item ∧ (Q e → Q e') := by
  induction held generalizing m with
  | nil => exact ⟨rfl, fun r e' he' => ⟨e', he', rfl, id⟩⟩
  | cons d held ih =>
    obtain ⟨hnext, hlook⟩ := ih (d.secDataRef.elim m fun r => m.modify r (release c))
    rcases href : d.secDataRef with _ | r
    · rw [href] at hnext hlook
      simpa [href] using ⟨hnext, hlook⟩
    rw [href] at hnext hlook
    rw [foldl_cons, href]
    refine ⟨hnext, fun q e' he' => ?_⟩
    obtain ⟨e₁, he₁, hitem, hq⟩ := hlook q e' he'
    change (m.modify r (release c)).lookup q = some e₁ at he₁
    rw [lookup_modify] at he₁
    split_ifs at he₁ with heq
    · obtain ⟨e, he, rfl⟩ := Option.map_eq_some_iff.1 he₁
      rw [item_release] at hitem
      exact ⟨e, he, hitem, fun h => hq (hQ e h)⟩
    · exact ⟨e₁, he₁, hitem, hq⟩

theorem Inv.releaseDataRef (h : Inv P s) (c : Nat) : Inv P (s.releaseDataRef c) := by
  obtain ⟨hnext, hlook⟩ := foldl_release (c := c)
    (s.clientData.values.filter fun d => d.clientSessionRef = c) s.secData
    (Q := fun e => DataOk P s.items s.shares s.keys e) fun e he => he.release c
  have hdata := h.withData _ hnext fun q e' he' => by
    obtain ⟨e, he, hitem, hok⟩ := hlook q e' he'
    exact ⟨e, he, hitem, hok (h.data q e he)⟩
  refine ⟨{ hdata.toObjects with }, ?_, h.requested⟩
  intro ref d hd
  change (s.clientData.filterRefs _).lookup ref = some d at hd
  rw [lookup_filterRefs, Option.filter_eq_some_iff] at hd
  exact hdata.clients ref d hd.1

def State.withItem (P : Platform) (s : State) (i : Item) : State :=
  { s with
    items := i :: s.items
    uses := (i, .key (P.getDataKeyId i)) :: (i, .file (P.getDataPath i)) :: s.uses }

theorem Inv.withItem (h : Inv P s) (hnew : s.NewNames P i) (hownr : '/' ∉ i.owner) :
    Inv P (s.withItem P i) := by
  have hsame : ∀ j ∈ s.items, P.getDataKeyId j = P.getDataKeyId i → j = i := by
    intro j hj heq
    by_contra hne
    exact hnew.1 j hj hne heq
  refine ⟨⟨?_, h.one, h.keyIds, ?_, ?_, ?_, ?_, ?_, ?_, ?_⟩, h.clients, h.requested⟩
  · intro q e he
    exact (h.data q e he).mono (fun _ hj => mem_cons_of_mem _ hj) fun _ _ hmem => hmem
  · intro q k hk
    obtain ⟨j, hj, hid⟩ := h.keyItems q k hk
    exact ⟨j, mem_cons_of_mem _ hj, hid⟩
  · intro q k hk j hj hid
    rcases mem_cons.1 hj with rfl | hold
    · obtain ⟨l, hl, hlid⟩ := h.keyItems q k hk
      obtain rfl := hsame l hl (hlid.trans hid.symm)
      exact h.shared q k hk l hl hid
    · exact h.shared q k hk j hold hid
  · intro j hj l hl heq
    rcases mem_cons.1 hj with rfl | hjold
    · rcases mem_cons.1 hl with rfl | hlold
      · rfl
      · exact (hsame l hlold heq.symm).symm
    · rcases mem_cons.1 hl with rfl | hlold
      · exact hsame j hjold heq
      · exact h.items j hjold l hlold heq
  · intro j hj
    rcases mem_cons.1 hj with rfl | hold
    · exact hownr
    · exact h.owners j hold
  · intro j hj
    exact mem_cons_of_mem _ (h.written j hj)
  · intro j hj l hl howne
    rcases mem_cons.1 hl with rfl | hold
    · exact hnew.2 j hj howne.symm
    · exact h.temps j hj l hold howne
  · intro x hx
    rcases mem_cons.1 hx with rfl | hx
    · exact ⟨mem_cons_self, Or.inl rfl⟩
    rcases mem_cons.1 hx with rfl | hx
    · exact ⟨mem_cons_self, Or.inr (Or.inl rfl)⟩
    · obtain ⟨hitem, hreso⟩ := h.uses x hx
      exact ⟨mem_cons_of_mem _ hitem, hreso⟩

variable {id name : Name}

/-- There is one key of the id, as before or a new one that is not shared. -/
theorem provideKey_lookup {q : Nat} (hk : (s.provideKey id).keys.lookup q = some k) :
    s.keys.lookup q = some k ∨
      s.getKey id = none ∧ q = s.keys.next ∧ k = ⟨id, [], 0⟩ := by
  change lookup (if (s.getKey id).isSome = true then _ else _) q = some k at hk
  split_ifs at hk with hsome
  · exact Or.inl hk
  exact (lookup_create_cases hk).symm.imp_right fun hnew => ⟨by simpa using hsome, hnew⟩

theorem lookup_provideKey {q : Nat} (hk : s.keys.lookup q = some k) :
    (s.provideKey id).keys.lookup q = some k := by
  change lookup (if (s.getKey id).isSome = true then _ else _) q = some k
  split_ifs
  · exact hk
  · exact lookup_create_of_some hk _

theorem exists_provideKey (id : Name) :
    ∃ k, (s.provideKey id).keys.lookup ((s.getKey id).getD s.keys.next) = some k ∧ k.id = id := by
  unfold provideKey
  cases hget : s.getKey id with
  | none => exact ⟨⟨id, [], 0⟩, by simp, rfl⟩
  | some keyRef =>
    obtain ⟨k, hk, hid⟩ := search_eq_some hget
    exact ⟨k, by simpa using hk, of_decide_eq_true hid⟩

theorem Inv.provideKey (h : Inv P s) (hi : i ∈ s.items) :
    Inv P (s.provideKey (P.getDataKeyId i)) := by
  have hfr : s.getKey (P.getDataKeyId i) = none → ∀ q k, s.keys.lookup q = some k →
      k.id ≠ P.getDataKeyId i := by
    intro hget q k hk heq
    have hno := search_eq_none.1 hget q k hk
    simp [heq] at hno
  refine ⟨{ h.toObjects with data := ?_, keyIds := ?_, keyItems := ?_, shared := ?_ },
    h.clients, h.requested⟩
  · intro q e he
    apply (h.data q e he).withKeys
    intro k hk
    exact ⟨k, lookup_provideKey hk, rfl, fun _ hpos => hpos⟩
  · intro q k r l hk hl heq
    rcases provideKey_lookup hk with hk | ⟨hget, rfl, rfl⟩
    · rcases provideKey_lookup hl with hl | ⟨hget, rfl, rfl⟩
      · exact h.keyIds q k r l hk hl heq
      · exact absurd heq (hfr hget q k hk)
    · rcases provideKey_lookup hl with hl | ⟨-, rfl, rfl⟩
      · exact absurd heq.symm (hfr hget r l hl)
      · rfl
  · intro q k hk
    rcases provideKey_lookup hk with hk | ⟨-, -, rfl⟩
    · exact h.keyItems q k hk
    · exact ⟨i, hi, rfl⟩
  · intro q k hk
    rcases provideKey_lookup hk with hk | ⟨-, -, rfl⟩
    · exact h.shared q k hk
    · simp

theorem Inv.createRecord (h : Inv P s) {e : SecData} (hok : DataOk P s.items s.shares s.keys e)
    (hfree : ∀ q d, s.secData.lookup q = some d → d.item ≠ e.item) :
    Inv P { s with secData := s.secData.create e } := by
  refine ⟨{ h.toObjects with data := ?_, one := ?_ }, ?_, h.requested⟩
  · intro q d hd
    rcases lookup_create_cases hd with ⟨-, rfl⟩ | hold
    · exact hok
    · exact h.data q d hold
  · intro q d r f hd hf heq
    exact distinct_create h.one hfree hd hf heq
  intro ref d hd
  obtain ⟨j, hj⟩ := h.clients ref d hd
  refine ⟨j, hj.returned, hj.only, hj.owner, hj.label, ?_, ?_⟩
  · intro r hr
    exact lt_succ_of_lt (hj.older r hr)
  intro r hr f hf
  have hlt := hj.older r hr
  rcases lookup_create_cases hf with ⟨heq, -⟩ | hold
  · omega
  · exact hj.points r hr f hold

/-- An item gets a record and, if there is none of its id, a key. -/
theorem Inv.createSecDataRef (h : Inv P s) (hnew : s.NewNames P i) (hownr : '/' ∉ i.owner)
    (hnone : s.findSecDataRef i = none) : Inv P (s.createSecDataRef P i) := by
  have hkeys : Inv P ((s.withItem P i).provideKey (P.getDataKeyId i)) :=
    (h.withItem hnew hownr).provideKey mem_cons_self
  obtain ⟨k, hk, hid⟩ := exists_provideKey (s := s.withItem P i) (P.getDataKeyId i)
  apply hkeys.createRecord
  · exact ⟨mem_cons_self, rfl, ⟨k, hk, hid, by simp [busy]⟩, by simp, by simp, by simp⟩
  intro q d hd heq
  have hno := search_eq_none.1 hnone q d hd
  have hitem : d.item = i := heq
  simp [hitem] at hno

theorem Inv.createData (h : Inv P s) {dataName : Name} {created : Bool}
    (hcare : Careful P s (.createData c dataName created)) :
    Inv P (s.createData P c dataName created).1 := by
  unfold State.createData
  dsimp only
  split_ifs with hval hdupl hfnd
  · exact h
  · exact h
  · have hrec := h.createSecDataRef (i := ⟨P.appName c, dataName⟩) (hcare (by simpa using hval)
      (fun hmem => hdupl (Or.inl hmem)) (by simpa using fun hdir => hdupl (Or.inr hdir))
      (by simpa using hfnd)) (P.appName_directory c) (by simpa using hfnd)
    exact hrec.createFile _
  · have hrec := h.createSecDataRef (i := ⟨P.appName c, dataName⟩) (hcare (by simpa using hval)
      (fun hmem => hdupl (Or.inl hmem)) (by simpa using fun hdir => hdupl (Or.inr hdir))
      (by simpa using hfnd)) (P.appName_directory c) (by simpa using hfnd)
    exact hrec.eraseData _
  · exact h

/-! ## Requests of references -/

/-- Characters of file names are not in labels of other apps' data. -/
theorem splitLabel_eq_none (h : ':' ∉ name) : splitLabel name = none := by
  induction name with
  | nil => rfl
  | cons ch rest ih =>
    have hch : ch ≠ ':' := fun heq => h (heq ▸ mem_cons_self)
    have hrest : ':' ∉ rest := fun hmem => h (mem_cons_of_mem _ hmem)
    unfold splitLabel
    split
    · next heq =>
      have hcolo := (cons.inj heq).1
      exact absurd hcolo hch
    · next heq =>
      obtain ⟨rfl, rfl⟩ := cons.inj heq
      rw [ih hrest]
      rfl
    · next heq => cases heq

theorem not_mem_of_valid (h : checkValidPosixFileName name = true) {ch : Char}
    (hch : (ch.isAlphanum || ch = '-' || ch = '_' || ch = '.') = false) : ch ∉ name := by
  intro hmem
  unfold checkValidPosixFileName at h
  rw [and_eq_true, all_eq_true] at h
  have hval := h.2 ch hmem
  simp only [hch] at hval
  cases hval

structure Asked (P : Platform) (c : Nat) (dataLabel : Name) (owner : Option Name) (i : Item) :
    Prop where
  directory : '/' ∉ i.owner
  plain : splitLabel i.name = none
  own : owner = none → i.owner = P.appName c
  label : splitLabel dataLabel = none → owner = none ∧ i.name = dataLabel

variable {owner : Option Name}

theorem requestedData_eq_some
    (h : s.requestedData P c dataLabel = some (owner, i)) : Asked P c dataLabel owner i := by
  obtain ⟨⟨o, name⟩, hpars, hrest⟩ := Option.bind_eq_some_iff.1 h
  dsimp only at hrest
  split_ifs at hrest with hchks
  cases hrest
  have hplai : splitLabel name = none :=
    splitLabel_eq_none (not_mem_of_valid hchks.1 (by decide))
  unfold Platform.parseLabel at hpars
  rcases hspl : splitLabel dataLabel with _ | parts
  · simp only [hspl, Option.some.injEq] at hpars
    obtain ⟨rfl, rfl⟩ := hpars
    exact ⟨P.appName_directory c, hplai, fun _ => rfl, fun _ => ⟨rfl, rfl⟩⟩
  simp only [hspl] at hpars
  split_ifs at hpars with hempty hself hval
  · cases hpars
    exact ⟨P.appName_directory c, hplai, fun _ => rfl, by simp [hspl]⟩
  · cases hpars
    refine ⟨not_mem_of_valid hval (by decide), hplai, by simp, by simp [hspl]⟩

theorem Inv.provideData (h : Inv P s) (hnew : s.findSecDataRef i = none → s.NewNames P i)
    (hownr : '/' ∉ i.owner) : Inv P (s.provideData P i) := by
  unfold State.provideData
  split_ifs with hfnd
  · exact h
  · have hnone : s.findSecDataRef i = none := by simpa using hfnd
    exact h.createSecDataRef (hnew hnone) hownr hnone

/-- The record of the item, found or new; the other records are as before. -/
theorem lookup_provideData (s : State) (i : Item) :
    (∃ e, (s.provideData P i).secData.lookup ((s.findSecDataRef i).getD s.secData.next) = some e ∧
      e.item = i) ∧
    ∀ q, q ≠ (s.findSecDataRef i).getD s.secData.next →
      (s.provideData P i).secData.lookup q = s.secData.lookup q := by
  unfold provideData
  cases hfind : s.findSecDataRef i with
  | some r =>
    obtain ⟨e, he, hitem⟩ := search_eq_some hfind
    exact ⟨⟨e, by simpa using he, of_decide_eq_true hitem⟩, fun _ _ => rfl⟩
  | none =>
    constructor
    · exact ⟨_, lookup_create_self _, rfl⟩
    intro q hq
    have hne : q ≠ s.secData.next := hq
    change (s.secData.create _).lookup q = _
    rw [lookup_create, if_neg hne]

theorem Inv.returnRef (h : Inv P s) (cd : RefMap ClientData) (hnext : s.clientData.next ≤ cd.next)
    (hoth : ∀ q d, q ≠ ref → cd.lookup q = some d → s.clientData.lookup q = some d)
    (hlt : ref < cd.next)
    (hself : ∀ d, cd.lookup ref = some d → ClientOf P ((ref, i) :: s.requested) s.secData ref d i) :
    Inv P { s with clientData := cd, requested := (ref, i) :: s.requested } := by
  refine ⟨{ h.toObjects with }, ?_, ?_⟩
  · intro q d hd
    by_cases heq : q = ref
    · subst heq
      exact ⟨i, hself d hd⟩
    obtain ⟨j, hj⟩ := h.clients q d (hoth q d heq hd)
    refine ⟨j, mem_cons_of_mem _ hj.returned, ?_, hj.owner, hj.label, hj.older, hj.points⟩
    intro k hk
    rcases mem_cons.1 hk with hnew | hold
    · exact absurd (congrArg Prod.fst hnew) heq
    · exact hj.only k hold
  · intro q j hj
    rcases mem_cons.1 hj with hnew | hold
    · cases hnew
      exact hlt
    · exact Nat.lt_of_lt_of_le (h.requested q j hold) hnext

theorem Inv.withClients (h : Inv P s) (cd : RefMap ClientData)
    (hnext : s.clientData.next ≤ cd.next)
    (hsub : ∀ q d, cd.lookup q = some d → s.clientData.lookup q = some d) :
    Inv P { s with clientData := cd } := by
  refine ⟨{ h.toObjects with }, fun q d hd => h.clients q d (hsub q d hd), ?_⟩
  intro q j hj
  exact Nat.lt_of_lt_of_le (h.requested q j hj) hnext

/-- The reference of a request before it is pointed to the record, found or new. -/
theorem lookup_provideClient (s : State) (c : Nat) (name dataLabel : Name) :
    let ref := (s.findClientDataRef c name).getD s.clientData.next
    let cd := (s.provideClient c name dataLabel).clientData
    s.clientData.next ≤ cd.next ∧ ref < cd.next ∧
      (∀ q, q ≠ ref → cd.lookup q = s.clientData.lookup q) ∧
      ∃ d, cd.lookup ref = some d ∧
        (s.findClientDataRef c name = some ref ∧ s.clientData.lookup ref = some d ∨
          s.findClientDataRef c name = none ∧ ref = s.clientData.next ∧
            d = ⟨none, c, false, dataLabel⟩) := by
  unfold provideClient
  cases hfind : s.findClientDataRef c name with
  | some ref =>
    obtain ⟨d, hd, -⟩ := search_eq_some hfind
    exact ⟨Nat.le_refl _, lookup_lt hd, fun _ _ => rfl, d, hd, Or.inl ⟨rfl, hd⟩⟩
  | none =>
    refine ⟨Nat.le_succ _, Nat.lt_succ_self _, ?_, _, lookup_create_self _,
      Or.inr ⟨rfl, rfl, rfl⟩⟩
    intro q hq
    have hne : q ≠ s.clientData.next := hq
    change (s.clientData.create _).lookup q = _
    rw [lookup_create, if_neg hne]

theorem provideData_provideClient (s : State) (c : Nat) (name dataLabel : Name) (i : Item) :
    (s.provideClient c name dataLabel).provideData P i =
      { s.provideData P i with
        clientData := (s.provideClient c name dataLabel).clientData } := by
  have hfind : (s.provideClient c name dataLabel).findSecDataRef i = s.findSecDataRef i := rfl
  unfold provideData
  rw [hfind]
  split_ifs <;> rfl

/-- The reference that a request returns is for what the request asks for. -/
theorem Inv.clientOf (h : Inv P s) (hask : Asked P c dataLabel owner i)
    (hown : owner.isSome = true → s.findClientDataRef c i.name = none) {v : State} {e : SecData}
    (he : v.secData.lookup r = some e) (hitem : e.item = i) {d : ClientData} {shared : Bool}
    (hshrd : owner.isSome = true → shared = true)
    (hd : s.findClientDataRef c i.name = some ref ∧ s.clientData.lookup ref = some d ∨
      s.findClientDataRef c i.name = none ∧ ref = s.clientData.next ∧
        d = ⟨none, c, false, dataLabel⟩) :
    ClientOf P ((ref, i) :: s.requested) v.secData ref
      { d with secDataRef := some r, sharedClient := d.sharedClient || shared } i := by
  have hpoin : ∀ q ∈ some r, q < v.secData.next ∧
      ∀ f, v.secData.lookup q = some f → f.item = i := by
    intro q hq
    cases hq
    refine ⟨lookup_lt he, fun f hf => ?_⟩
    rw [he] at hf
    cases hf
    exact hitem
  rcases hd with ⟨hfind, hd⟩ | ⟨hfind, rfl, rfl⟩
  · -- a reference with the plain name was returned for the own item of that name
    obtain ⟨j, hj⟩ := h.clients ref d hd
    obtain ⟨d', hd', hlabe⟩ := search_eq_some hfind
    rw [hd] at hd'
    cases hd'
    simp only [and_eq_true, decide_eq_true_eq] at hlabe
    have hownr : owner = none := by
      rcases hownr : owner with _ | o
      · rfl
      have hnone := hown (by simp [hownr])
      rw [hfind] at hnone
      cases hnone
    have hji : j = i := by
      rw [hj.label (by rw [hlabe.1]; exact hask.plain), hlabe.1, hlabe.2, ← hask.own hownr]
    subst hji
    refine ⟨mem_cons_self, ?_, ?_, hj.label, fun q hq => (hpoin q hq).1,
      fun q hq => (hpoin q hq).2⟩
    · intro k hk
      rcases mem_cons.1 hk with hnew | hold
      · exact (Prod.mk.inj hnew).2
      · exact hj.only k hold
    · intro hnot
      simp only [or_eq_false_iff] at hnot
      exact hj.owner hnot.1
  · refine ⟨mem_cons_self, ?_, ?_, ?_, fun q hq => (hpoin q hq).1,
      fun q hq => (hpoin q hq).2⟩
    · intro k hk
      rcases mem_cons.1 hk with hnew | hold
      · exact (Prod.mk.inj hnew).2
      · have hlt := h.requested _ k hold
        omega
    · intro hnot
      cases hownr : owner with
      | none => exact (hask.own hownr).symm
      | some o =>
        rw [hshrd (by simp [hownr])] at hnot
        simp at hnot
    · intro hspl
      obtain ⟨hnone, hname⟩ := hask.label hspl
      rw [← hask.own hnone, ← hname]

@[simp] theorem clientData_setClient (s : State) (ref : Nat) (f : ClientData → ClientData) :
    (s.setClient ref f).clientData = s.clientData.modify ref f := rfl

@[simp] theorem clientData_refreshSharedAppInfo (s : State) (r : Nat) :
    (s.refreshSharedAppInfo r).clientData = s.clientData := rfl

theorem clientData_provideData (s : State) (i : Item) :
    (s.provideData P i).clientData = s.clientData := by
  unfold provideData
  split_ifs <;> rfl

theorem requested_provideData (s : State) (i : Item) :
    (s.provideData P i).requested = s.requested := by
  unfold provideData
  split_ifs <;> rfl

/-- Either way the reference is returned, as that of an owner or of an app that it is shared
with. -/
theorem Inv.returned (h : Inv P s) (hask : Asked P c dataLabel owner i)
    (hown : owner.isSome = true → s.findClientDataRef c i.name = none)
    (hnew : s.findSecDataRef i = none → s.NewNames P i) (f : ClientData → ClientData)
    (shared : Bool) (hshrd : owner.isSome = true → shared = true)
    (hf : ∀ d, f d = { d with
      secDataRef := some ((s.findSecDataRef i).getD s.secData.next)
      sharedClient := d.sharedClient || shared }) (cd : RefMap ClientData)
    (hcd : ∀ q, cd.lookup q =
      ((s.provideClient c i.name dataLabel).clientData.modify
        ((s.findClientDataRef c i.name).getD s.clientData.next) f).lookup q)
    (hcdne : cd.next = (s.provideClient c i.name dataLabel).clientData.next) :
    let ref := (s.findClientDataRef c i.name).getD s.clientData.next
    let v := (s.provideData P i).refreshSharedAppInfo ((s.findSecDataRef i).getD s.secData.next)
    Inv P { v with clientData := cd, requested := (ref, i) :: v.requested } := by
  obtain ⟨hnext, hlt, hoths, d, hd, hfrom⟩ := lookup_provideClient s c i.name dataLabel
  obtain ⟨⟨e, he, hitem⟩, -⟩ := lookup_provideData (P := P) s i
  have hdata := (h.provideData hnew hask.directory).refreshSharedAppInfo
    ((s.findSecDataRef i).getD s.secData.next)
  apply hdata.returnRef cd
  · change (s.provideData P i).clientData.next ≤ _
    rw [clientData_provideData, hcdne]
    exact hnext
  · intro q d' hq hd'
    rw [hcd, lookup_modify_of_ne hq, hoths q hq] at hd'
    change (s.provideData P i).clientData.lookup q = _
    rw [clientData_provideData]
    exact hd'
  · rw [hcdne]
    exact hlt
  intro d' hd'
  rw [hcd, lookup_modify_self, hd, Option.map_some, Option.some.injEq, hf] at hd'
  subst hd'
  change ClientOf P ((_, i) :: (s.provideData P i).requested) _ _ _ _
  rw [requested_provideData]
  apply h.clientOf hask hown (e := { e with sharedAppList :=
    ((((s.provideData P i).keys.lookup e.keyRef).map Key.sharedApps).getD []).take 12 }) _ hitem
    hshrd hfrom
  change ((s.provideData P i).secData.modify _ _).lookup _ = _
  rw [lookup_modify_self, he]
  rfl

theorem Inv.getDataRef (h : Inv P s)
    (hcare : Careful P s (.getDataRef c dataLabel)) : Inv P (s.getDataRef P c dataLabel).1 := by
  unfold State.getDataRef
  rcases hreq : s.requestedData P c dataLabel with _ | q
  · exact h
  obtain ⟨owner, i⟩ := q
  have hask := requestedData_eq_some hreq
  obtain ⟨hnew, hharm⟩ := hcare (owner, i) hreq
  have hown : owner.isSome = true → s.findClientDataRef c i.name = none := fun hsome =>
    (hharm hsome).1
  dsimp only
  rw [provideData_provideClient]
  split_ifs with hoth hlstd
  · apply h.returned hask hown hnew (fun d => { d with
      secDataRef := some ((s.findSecDataRef i).getD s.secData.next)
      sharedClient := true }) true fun _ => rfl
    · simp
    · intro q
      simp only [clientData_setClient, clientData_refreshSharedAppInfo, lookup_modify]
      split_ifs
      · rw [Option.map_map]
        rfl
      · rfl
    · rfl
  · obtain ⟨hnext, -, hoths, -⟩ := lookup_provideClient s c i.name dataLabel
    have hdata := (h.provideData hnew hask.directory).refreshSharedAppInfo
      ((s.findSecDataRef i).getD s.secData.next)
    apply (hdata.eraseData ((s.findSecDataRef i).getD s.secData.next)).withClients
    · change (s.provideData P i).clientData.next ≤ _
      rw [clientData_provideData]
      exact hnext
    intro q d hd
    obtain ⟨hne, hold⟩ := lookup_of_erase hd
    rw [clientData_refreshSharedAppInfo, clientData_setClient, lookup_modify_of_ne hne,
      hoths q hne] at hold
    change (s.provideData P i).clientData.lookup q = some d
    rw [clientData_provideData]
    exact hold
  · apply h.returned hask hown hnew (fun d => { d with
      secDataRef := some ((s.findSecDataRef i).getD s.secData.next) }) false
      (fun hsome => absurd hsome hoth)
    · simp
    · intro q
      rfl
    · rfl

end References

/-! ## What the calls allow -/

section Allowed

variable {P : Platform} {s : State} {c ref r : Nat} {d : ClientData} {data : SecData} {p : Purpose}
variable (h : Inv P s)
include h

end Allowed

/-! ## Runs -/

section Runs

variable {P : Platform} {s t : State} {a : Action}

theorem Inv.perform (h : Inv P s) (hcare : Careful P s a) : Inv P (perform P s a).1 := by
  cases a with
  | createData c dataName created => exact h.createData hcare
  | getDataRef c dataLabel => exact h.getDataRef hcare
  | writeDataStart c ref env => exact h.writeDataStart hcare
  | writeDataChunk c ref size fits processed => exact h.writeDataChunk size fits processed
  | writeDataEnd c ref ended renamed => exact h.writeDataEnd ended renamed
  | readDataFirstChunk c ref env => exact h.readDataFirstChunk hcare
  | readDataNextChunk c ref outcome => exact h.readDataNextChunk outcome
  | deleteData c ref => exact h.deleteData hcare
  | shareData c ref app usage shared => exact h.shareData app usage shared
  | cancelDataSharing c ref app canceled => exact h.cancelDataSharing app canceled
  | disconnect c => exact h.releaseDataRef c

end Runs

end TelAF.SecDataStorage
