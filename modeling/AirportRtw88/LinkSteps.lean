import AirportRtw88.Steady
import AirportRtw88.Interleave.Alone

/-!
# How an operation changes the link

An operation that runs alone changes the link in few ways.  `Change` lists them, with what
is known where they happen.  An observer of the link sees the status that is published, the
BlockAck frames that are sent and the data frames that are delivered.
-/

namespace AirportRtw88

open Interleave Bytes Relation

/-- What an observer of the link sees of a request. -/
inductive Sight : Type where
  | announced (active : Bool)
  | agreement (skb : TxSkb)
  | delivered (skb : Skb)
  deriving DecidableEq

def Call.sight : Call → Option Sight
  | .setLinkStatus active => some (.announced active)
  | .tx .blockAck skb => some (.agreement skb)
  | .deliver skb => some (.delivered skb)
  | _ => none

theorem Call.Mute.sight {call : Call} {s : Ieee80211} (mute : call.Mute s) : call.sight = none := by
  unfold Call.Mute at mute
  unfold Call.sight
  split at mute <;> first | exact mute.elim | rfl | skip
  split <;> simp_all

/-- What is assumed of a run and recorded about it, in terms of the link. -/
structure LinkObserver (γ : Type) where
  starts : Op → Link → γ → Prop
  begins : Op → Link → γ → γ
  sees : Sight → Link → γ → γ
  allows : Sight → Link → γ → Prop

namespace LinkObserver

variable {γ : Type} (observer : LinkObserver γ)

def watch : Observer Ieee80211 Call Op γ where
  starts op s := observer.starts op s.link
  begins op s := observer.begins op s.link
  notes call s record := call.sight.elim record fun sight => observer.sees sight s.link record
  allows call s record := ∀ sight, call.sight = some sight → observer.allows sight s.link record

end LinkObserver

/-- Nothing is recorded, and operations start only if they are admitted. -/
def LinkObserver.plain (admits : Op → Link → Prop) : LinkObserver Unit where
  starts op l _ := admits op l
  begins _ _ _ := ()
  sees _ _ _ := ()
  allows _ _ _ := True

namespace LinkObserver

variable {γ : Type} (observer : LinkObserver γ)

/-- The record after a status was published, if there is a parent. -/
def announce (announced : Option Bool) (s : Ieee80211) (record : γ) : γ :=
  match announced with
  | none => record
  | some active => if s.parent then observer.sees (.announced active) s.link record else record

end LinkObserver

/-! ## What is known where the link changes -/

/-- The link without the keys that are installed. -/
def Link.unkeyed (l : Link) : Link :=
  { l with ptkConf := none, gtkConf := none, ccmpTxPn := [] }

/-- What a connection leaves behind if it is not torn down. -/
def Link.joined (l : Link) :
    Option Vif × Option Sta × Option KeyConf × Option KeyConf × Bool × (Fin kRxBaNumTid → Bool) :=
  (l.vif, l.sta, l.ptkConf, l.gtkConf, l.txBaActive, l.hasRxBa)

/-- The EAPOL message in a single MSDU. -/
def Skb.eapol (skb : Skb) : Bytes :=
  skb.data.llc.drop 8

/-- The frame is one that `deliverDataFrame` hands to the handshake, if there is one. -/
structure Skb.CarriesEapol (skb : Skb) : Prop where
  single : skb.data.isAmsdu = false
  carries : carriedMsdus skb.data ≠ []
  ethertype : skb.data.llc.llcEthertype = ethPPae

/-- A message that `handleEAPOL` takes for an M3, with a code under this key. -/
structure Skb.VerifiesM3 (skb : Skb) (kck : Bytes) : Prop where
  key : skb.eapol.isEapolKey = true
  notM1 : skb.eapol.isM1 = false
  m3 : skb.eapol.isM3 = true
  code : eapolMicMatches kck skb.eapol.eapolFrame = true

/-- `_state == CONNECTED`, or a scan that returns there. -/
def Link.up (l : Link) : Bool :=
  l.state = .connected ∨ (l.state = .scanning ∧ l.scanReturnState = .connected)

/-- The operation calls `doDisconnect` if it starts with this link. -/
def Op.tearsDown (op : Op) (l : Link) : Bool :=
  match op with
  | .cmdDisconnect _ => l.state ≠ .idle
  | .cmdPowerOff _ =>
      l.state = .connected ∨ l.state = .authenticating ∨ l.state = .associating ∨
        l.state = .handshaking
  | .timerFired _ => l.state = .handshaking
  | .stop => l.up && l.powered
  | _ => false

/-- The BlockAck action that `processRxMgmt` finds in a frame, from its category on. -/
def Link.backAction (l : Link) (skb : Skb) : Option Bytes :=
  let b : Bytes := skb.data.drop 24
  if 24 ≤ skb.data.length ∧ skb.data.isMgmt ∧ skb.data.frameControl &&& 0x00f0 = 0x00D0 ∧
      l.state = .connected ∧ 2 ≤ b.length ∧ b.byte 0 = 3 ∧ skb.data.addr3 = l.targetBSS.bssid
  then some b
  else none

/-- The frame is a deauthentication or disassociation that `processRxMgmt` obeys. -/
def Link.obeysDeauth (l : Link) (skb : Skb) : Bool :=
  let stype := skb.data.frameControl &&& 0x00f0
  24 ≤ skb.data.length ∧ skb.data.isMgmt ∧ (stype = 0x00A0 ∨ stype = 0x00C0) ∧
    (l.up ∨ l.state = .handshaking) ∧
    (skb.data.addr3 = l.targetBSS.bssid ∨ skb.data.addr2 = l.targetBSS.bssid) ∧
    (skb.data.addr1 = l.macAddr ∨ skb.data.addr1 = broadcastAddr)

/-- The frame is an association response that `processRxMgmt` handles. -/
def Link.associates (l : Link) (skb : Skb) : Bool :=
  let stype := skb.data.frameControl &&& 0x00f0
  24 ≤ skb.data.length ∧ skb.data.isMgmt ∧ (stype = 0x0010 ∨ stype = 0x0030) ∧
    l.state = .associating

/-- The frame is an ADDBA request. -/
def TxSkb.isAddbaRequest (skb : TxSkb) : Bool :=
  skb.data.byte 24 = 3 ∧ skb.data.byte 25 = 0

namespace Bytes

/-- An ADDBA response that accepts the uplink agreement of a TID. -/
def acceptsTxAgreement (b : Bytes) (tid : Nat) : Bool :=
  b.byte 1 = 1 ∧ 9 ≤ b.length ∧ b.le16At 3 = 0 ∧ b.le16At 5 / 4 % 16 = tid

/-- A DELBA of the recipient of the uplink agreement of a TID. -/
def endsTxAgreement (b : Bytes) (tid : Nat) : Bool :=
  b.byte 1 = 2 ∧ 6 ≤ b.length ∧ b.le16At 2 / 2048 % 2 = 0 ∧ b.le16At 2 / 4096 = tid

end Bytes

namespace Ieee80211

/-- The fields that `Sound` is about, without the state. -/
def buffers (s : Ieee80211) : Bytes × Bss × List Bss × Bytes :=
  (s.macAddr, s.targetBSS, s.bssList, s.ccmpTxPn)

theorem Sound.of_buffers {s t : Ieee80211} (sound : s.Sound) (scans : t.scanReturnState = .idle)
    (connects : t.state ≠ .disconnecting) (same : t.buffers = s.buffers) : t.Sound := by
  simp only [buffers, Prod.mk.injEq] at same
  obtain ⟨macAddr, target, cache, txPn⟩ := same
  exact ⟨⟨scans, connects⟩, macAddr ▸ sound.macAddr, target ▸ sound.target, cache ▸ sound.cache,
    txPn ▸ sound.txPn⟩

/-- A write of fields that `Sound` does not mention. -/
theorem Sound.keep {s t : Ieee80211} (sound : s.Sound)
    (same : (t.stage, t.buffers) = (s.stage, s.buffers)) : t.Sound := by
  simp only [stage, Prod.mk.injEq] at same
  exact sound.of_buffers (same.1.2 ▸ sound.scans) (same.1.1 ▸ sound.connects) same.2

theorem rxBa_rxBaTeardown (s : Ieee80211) (n : Nat) (tid : Fin kRxBaNumTid) :
    (s.rxBaTeardown n).rxBa tid = if tid.val = n then none else s.rxBa tid := by
  have table : (s.rxBaTeardown n).rxBa = (AirportRtw88.rxBaTeardown s.rxBa n).table := rfl
  rw [table]
  unfold AirportRtw88.rxBaTeardown
  by_cases inside : n < kRxBaNumTid
  · rw [dif_pos inside]
    by_cases same : tid = ⟨n, inside⟩
    · subst same
      cases known : s.rxBa ⟨n, inside⟩ <;> simp [known]
    · rw [if_neg fun equal => same (Fin.ext equal)]
      cases known : s.rxBa ⟨n, inside⟩ <;> simp [known, same]
  · rw [dif_neg inside, if_neg fun equal : tid.val = n => inside (equal ▸ tid.isLt)]

/-- After `rxBaTeardownAll` there is no reorder buffer. -/
theorem rxBa_rxBaTeardownAll (s : Ieee80211) : s.rxBaTeardownAll.rxBa = fun _ => none := by
  have swept : ∀ (tids : List Nat) (s : Ieee80211) (tid : Fin kRxBaNumTid),
      tid.val ∈ tids ∨ s.rxBa tid = none →
        (tids.foldl Ieee80211.rxBaTeardown s).rxBa tid = none := by
    intro tids
    induction tids with
    | nil => exact fun s tid gone => gone.resolve_left (by simp)
    | cons n rest ih =>
        intro s tid gone
        refine ih _ tid ?_
        rw [rxBa_rxBaTeardown]
        grind
  funext tid
  exact swept _ s tid (.inl (List.mem_range.mpr tid.isLt))

/-- The effect of `releaseSta`. -/
def withoutSta (s : Ieee80211) : Ieee80211 :=
  if s.sta.isSome then s.forgetSta.rxBaTeardownAll else s

end Ieee80211

namespace Link

/-- What `stop` leaves. -/
structure Stopped (l : Link) : Prop where
  state : l.state = .idle
  vif : l.vif = none
  ops : l.ops = none
  powered : l.powered = false

def becomeIdle (l : Link) : Link :=
  { l with state := .idle, phase := l.phase + 1, scanReturnState := .idle }

def wipeKeys (l : Link) : Link :=
  { l with
    ptkConf := none
    gtkConf := none
    pmk := zeros 32
    password := zeros 64
    pmkProvided := false
    ptk := zeros 64
    ccmpTxPn := zeros 6 }

def withoutSta (l : Link) : Link :=
  if l.sta.isSome then { l with sta := none, txBaActive := false, hasRxBa := fun _ => false } else l

@[simp]
theorem state_withoutSta (l : Link) : l.withoutSta.state = l.state := by
  unfold withoutSta
  split <;> rfl

@[simp]
theorem powered_withoutSta (l : Link) : l.withoutSta.powered = l.powered := by
  unfold withoutSta
  split <;> rfl

@[simp]
theorem parent_withoutSta (l : Link) : l.withoutSta.parent = l.parent := by
  unfold withoutSta
  split <;> rfl

@[simp]
theorem ops_withoutSta (l : Link) : l.withoutSta.ops = l.ops := by
  unfold withoutSta
  split <;> rfl

@[simp]
theorem phase_withoutSta (l : Link) : l.withoutSta.phase = l.phase := by
  unfold withoutSta
  split <;> rfl

@[simp]
theorem baTid_withoutSta (l : Link) : l.withoutSta.baTid = l.baTid := by
  unfold withoutSta
  split <;> rfl

@[simp]
theorem sta_withoutSta (l : Link) : l.withoutSta.sta = none := by
  unfold withoutSta
  split
  · rfl
  · exact Option.not_isSome_iff_eq_none.mp ‹_›

@[simp]
theorem vif_withoutSta (l : Link) : l.withoutSta.vif = l.vif := by
  unfold withoutSta
  split <;> rfl

/-- The effect of `doDisconnect` up to the change of state. -/
def tornDown (l : Link) : Link :=
  let unassociated : Link :=
    { l.wipeKeys with vif := l.vif.map fun vif => { vif with assoc := false } }
  unassociated.withoutSta

end Link

namespace Ieee80211

theorem link_becomeIdle (s : Ieee80211) : s.becomeIdle.link = s.link.becomeIdle :=
  rfl

theorem link_wipeKeys (s : Ieee80211) : s.wipeKeys.link = s.link.wipeKeys :=
  rfl

@[simp]
theorem state_withoutSta (s : Ieee80211) : s.withoutSta.state = s.state := by
  unfold withoutSta
  split <;> rfl

theorem link_withoutSta (s : Ieee80211) : s.withoutSta.link = s.link.withoutSta := by
  unfold withoutSta Link.withoutSta
  rw [show s.link.sta = s.sta from rfl]
  split
  · have empty := rxBa_rxBaTeardownAll s.forgetSta
    have hasRxBa : (s.forgetSta.rxBaTeardownAll).link.hasRxBa = fun _ => false := by
      simp [link, empty]
    exact congrArg (fun hasRxBa : Fin kRxBaNumTid → Bool =>
      { s.link with sta := none, txBaActive := false, hasRxBa }) hasRxBa
  · rfl

end Ieee80211

section

variable {γ : Type} (observer : LinkObserver γ)

/-- The handshake handles this frame, whose delivery was seen. -/
structure Shaking (skb : Skb) (s : Ieee80211) (record : γ) : Prop where
  state : s.state = .handshaking
  internal : s.externalSupplicant = false
  eapol : skb.CarriesEapol
  seen : ∃ (before : Link) (earlier : γ), record = observer.sees (.delivered skb) before earlier ∧
    observer.allows (.delivered skb) before record ∧ s.link.unkeyed = before.unkeyed

/-- The changes of the link by an operation that started in `first`, with the status that is
published right after. -/
inductive Change (op : Op) (first : Ieee80211 × γ) :
    Ieee80211 × γ → Ieee80211 → Option Bool → Prop where
  | quiet {s r} : Change op first (s, r) s none
  | cached {s r} (cache : List Bss) : Change op first (s, r) { s with bssList := cache } none
  | wiped {s r} : Change op first (s, r) s.wipeKeys none
  | released {s r}
      (leaves : s.state = .idle ∨ op = .stop ∨ op.tearsDown first.1.link = true) :
      Change op first (s, r) s.withoutSta none
  | unassociated {s r} :
      Change op first (s, r) (s.modifyVif fun vif => { vif with assoc := false }) none
  | scanBegan {s r} (idle : s.state = .idle) (powered : s.powered = true)
      (hw : s.hw.isSome = true) :
      Change op first (s, r) (s.setState .scanning) none
  | gaveUp {s r} (phase : s.state = .scanning ∨ s.state = .authenticating ∨ s.state = .associating)
      (same : s.link.joined = first.1.link.joined) : Change op first (s, r) s.becomeIdle none
  | targeted {s r} (target : Bss) (idle : s.state = .idle) :
      Change op first (s, r) { s with targetBSS := target } none
  | committed {s r} {args : ConnectArgs} (isConnect : op = .cmdConnect args)
      (began : first.1.state = .idle ∨ first.1.state = .scanning) (fresh : r = first.2)
      (idle : s.state = .idle) (powered : s.powered = true) :
      Change op first (s, r) (s.commitConnect args) none
  | vifCleared {s r} : Change op first (s, r) s.clearVifAssoc none
  | associating {s r} (authenticating : s.state = .authenticating)
      (same : s.link.joined = first.1.link.joined) :
      Change op first (s, r) (s.setState .associating) none
  | registered {s r} {skb : Skb} (isRx : op = .rxFrame skb)
      (associates : first.1.link.associates skb = true) (associating : s.state = .associating)
      (absent : s.sta = none) (aid : Nat) : Change op first (s, r) (s.withSta (s.newSta aid)) none
  | vifAssociated {s r} {skb : Skb} (isRx : op = .rxFrame skb)
      (associates : first.1.link.associates skb = true) (associating : s.state = .associating)
      (aid : Nat) : Change op first (s, r) (s.associateVif aid) none
  | handshaking {s r} (associating : s.state = .associating) (wpa2 : s.wpa2 = true)
      (internal : s.externalSupplicant = false) : Change op first (s, r) s.enterHandshake none
  | opened {s r} (associating : s.state = .associating)
      (other : (s.wpa2 && !s.externalSupplicant) = false) :
      Change op first (s, r) (s.setState .connected) (some true)
  | dialog {s r} (connected : s.state = .connected) : Change op first (s, r) s.bumpBaDialog none
  | m1 {s r} {skb : Skb} (shaking : Shaking observer skb s r) (key : skb.eapol.isEapolKey = true)
      (isM1 : skb.eapol.isM1 = true) (random : Bytes) :
      Change op first (s, r) (s.acceptM1 skb.eapol random) none
  | emptied {s r} (pairwise : Bool) (joined : s.state = .handshaking ∨ s.state = .connected) :
      Change op first (s, r) (s.setKeySlot pairwise none) none
  | keyed {s r} {skb : Skb} (shaking : Shaking observer skb s r) (m3 : skb.VerifiesM3 s.kck)
      (pairwise : Bool) (key : KeyConf) (derived : pairwise = true → key.key = s.tk.take 16) :
      Change op first (s, r) ((s.setKeySlot pairwise (some key)).resetTxPn pairwise) none
  | keyedExternally {s r} (connected : s.state = .connected)
      (external : s.externalSupplicant = true) (pairwise : Bool) (key : KeyConf) :
      Change op first (s, r) ((s.setKeySlot pairwise (some key)).resetTxPn pairwise) none
  | completed {s r} {skb : Skb} (shaking : Shaking observer skb s r) (m3 : skb.VerifiesM3 s.kck) :
      Change op first (s, r) (s.setState .connected) (some true)
  | sent {s r} {m : Mbuf} (isOutput : op = .outputPacket m) (txPn : Bytes) (frames : List TxSkb) :
      Change op first (s, r) { s with ccmpTxPn := txPn, submitted := frames } none
  | rxAgreed {s r} {skb : Skb} (isRx : op = .rxFrame skb) (connected : s.state = .connected)
      (table : RxBaTable Skb) : Change op first (s, r) { s with rxBa := table } none
  | txAgreed {s r} {skb : Skb} (isRx : op = .rxFrame skb) (same : s.link = first.1.link)
      (fresh : r = first.2) (connected : s.state = .connected) (active : Bool)
      (responds : active = true → s.txBaActive = true ∨
        ∃ b, s.link.backAction skb = some b ∧ b.acceptsTxAgreement s.baTid = true) :
      Change op first (s, r) { s with txBaActive := active } none
  | deauthenticated {s r} {skb : Skb} (isRx : op = .rxFrame skb)
      (obeys : first.1.link.obeysDeauth skb = true)
      (same : s.link = first.1.link.wipeKeys) :
      Change op first (s, r) s.leaveDeauthenticated (some false)
  | abandoned {s r} (same : s.link = first.1.link)
      (gone : s.hw.isNone = true ∨ s.vif.isNone = true) :
      Change op first (s, r) s.becomeIdle none
  | disconnected {s r} (tearsDown : op.tearsDown first.1.link = true)
      (same : s.link = first.1.link.tornDown) : Change op first (s, r) s.becomeIdle (some false)
  | poweredOn {s r} (hw : s.hw.isSome = true) :
      Change op first (s, r) (s.withPowered true) none
  | poweredOff {s r} (switches : op = .powerOff ∨ op = .stop ∨
        ((∃ ticket, op = .cmdPowerOff ticket) ∧ s.state = .idle)) :
      Change op first (s, r) (s.withPowered false) none
  | switchedOff {s r} (isPowerOff : ∃ ticket, op = .cmdPowerOff ticket) (idle : s.state = .idle) :
      Change op first (s, r) s.becomeIdle (some false)
  | interfaceRemoved {s r} (isStop : op = .stop) : Change op first (s, r) s.forgetVif none
  | hardwareRemoved {s r} (isStop : op = .stop) (removed : s.vif = none)
      (left : s.state = .idle ∨ (op.tearsDown first.1.link = false ∧ s.state = first.1.state ∧
        s.link.joined = { first.1.link.wipeKeys.withoutSta with vif := none }.joined)) :
      Change op first (s, r) s.becomeIdle.forgetHw none

/-- One change of the link, or one sight of it. -/
inductive LinkStep (op : Op) (first : Ieee80211 × γ) : Ieee80211 × γ → Ieee80211 × γ → Prop where
  | changes {s t target r announced} (change : Change observer op first (s, r) target announced)
      (same : t.link = target.link) :
      LinkStep op first (s, r) (t, observer.announce announced t r)
  | agrees {s r} (skb : TxSkb)
      (requests : skb.isAddbaRequest = true → s.link.state = .connected ∧
        s.link.sta.isSome = true) :
      LinkStep op first (s, r) (s, observer.sees (.agreement skb) s.link r)
  | delivers {s r} (skb : Skb) :
      LinkStep op first (s, r) (s, observer.sees (.delivered skb) s.link r)

/-- What is reached in the course of an operation. -/
structure Walk (op : Op) (first : Ieee80211 × γ) (s : Ieee80211) (r : γ) : Prop where
  sound : s.Sound
  path : ReflTransGen (LinkStep observer op first) first (s, r)

/-- Left alone, the program stays on the walk of its operation and ends in `post`. -/
structure Walks {α : Type} (op : Op) (first : Ieee80211 × γ) (program : M α) (s : Ieee80211) (r : γ)
    (post : α → Ieee80211 → γ → Prop) : Prop where
  ends : program.Ends rtw88.ready observer.watch (fun _ s r => Walk observer op first s r) s r
    fun value s r => Walk observer op first s r ∧ post value s r

end

section

variable {γ : Type} {observer : LinkObserver γ} {op : Op} {first : Ieee80211 × γ}
  {s t : Ieee80211} {r : γ}

/-- No scan returns to a connection. -/
theorem up_link_iff (sound : s.Sound) : s.link.up = true ↔ s.state = .connected := by
  unfold Link.up
  rw [show s.link.scanReturnState = .idle from sound.scans]
  simp [Ieee80211.link]

theorem Walk.start (sound : first.1.Sound) : Walk observer op first first.1 first.2 :=
  ⟨sound, .refl⟩

theorem announce_of_link {announced : Option Bool} (same : t.link = s.link) :
    observer.announce announced t r = observer.announce announced s r := by
  cases announced with
  | none => rfl
  | some active =>
      have parent : t.parent = s.parent := congrArg Link.parent same
      simp only [LinkObserver.announce, same, parent]

/-- The rule for invariants of a walk: it is enough that every change and every sight keeps
what holds of the link. -/
theorem Walk.invariant (walk : Walk observer op first s r) (holds : Link → γ → Prop)
    (initially : holds first.1.link first.2)
    (changes : ∀ s r target announced, Change observer op first (s, r) target announced →
      holds s.link r → holds target.link (observer.announce announced target r))
    (agrees : ∀ (l : Link) r skb,
      (skb.isAddbaRequest = true → l.state = .connected ∧ l.sta.isSome = true) →
      holds l r → holds l (observer.sees (.agreement skb) l r))
    (delivers : ∀ (l : Link) r skb, holds l r → holds l (observer.sees (.delivered skb) l r)) :
    holds s.link r := by
  suffices general : ∀ later, ReflTransGen (LinkStep observer op first) first later →
      holds later.1.link later.2 from general _ walk.path
  intro later path
  induction path with
  | refl => exact initially
  | tail _ last ih =>
      cases last with
      | changes change same =>
          rw [announce_of_link same, same]
          exact changes _ _ _ _ change ih
      | agrees skb requests => exact agrees _ _ skb requests ih
      | delivers skb => exact delivers _ _ skb ih

theorem Walk.change {target : Ieee80211} {announced : Option Bool}
    (walk : Walk observer op first s r)
    (change : Change observer op first (s, r) target announced) (sound : t.Sound)
    (same : t.link = target.link) : Walk observer op first t (observer.announce announced t r) :=
  ⟨sound, walk.path.tail (.changes change same)⟩

/-- A change without a publication. -/
theorem Walk.next {target : Ieee80211} (walk : Walk observer op first s r)
    (change : Change observer op first (s, r) target none) (sound : target.Sound) :
    Walk observer op first target r :=
  walk.change change sound rfl

theorem Walk.quiet (walk : Walk observer op first s r) (same : t.link = s.link) :
    Walk observer op first t r :=
  walk.change .quiet (walk.sound.of_link same) same

namespace Walks

variable {α β : Type} {post : α → Ieee80211 → γ → Prop}

theorem ret {value : α} (walk : Walk observer op first s r) (holds : post value s r) :
    Walks observer op first (Prog.ret value) s r post :=
  ⟨walk, holds⟩

theorem bind {program : M β} {rest : β → M α} {mid : β → Ieee80211 → γ → Prop}
    (runs : Walks observer op first program s r mid)
    (goesOn : ∀ value s r, Walk observer op first s r → mid value s r →
      Walks observer op first (rest value) s r post) :
    Walks observer op first (program.bind rest) s r post := by
  refine ⟨?_⟩
  rw [Prog.ends_bind]
  exact runs.ends.mono (fun _ _ _ => id) fun value s r held =>
    (goesOn value s r held.1 held.2).ends

/-- A program in two parts, the first of which leaves nothing to remember. -/
theorem andThen {program : M β} {rest : β → M α}
    (runs : Walks observer op first program s r fun _ _ _ => True)
    (goesOn : ∀ value s r, Walk observer op first s r →
      Walks observer op first (rest value) s r post) :
    Walks observer op first (program.bind rest) s r post :=
  runs.bind fun value s r walk _ => goesOn value s r walk

theorem fetch {rest : Ieee80211 → M α} (runs : Walks observer op first (rest s) s r post) :
    Walks observer op first (Prog.fetch.bind rest) s r post :=
  ⟨runs.ends⟩

theorem update {change : Ieee80211 → Ieee80211} {rest : Unit → M α}
    (runs : Walks observer op first (rest ()) (change s) r post) :
    Walks observer op first ((Prog.update change).bind rest) s r post :=
  ⟨runs.ends⟩

theorem mono {program : M α} {post' : α → Ieee80211 → γ → Prop}
    (runs : Walks observer op first program s r post)
    (weaker : ∀ value s r, Walk observer op first s r → post value s r → post' value s r) :
    Walks observer op first program s r post' :=
  ⟨runs.ends.mono (fun _ _ _ => id) fun value s r held =>
    ⟨held.1, weaker value s r held.1 held.2⟩⟩

/-- A function that leaves the link alone. -/
theorem quiet {program : M α} (isQuiet : M.IsQuiet program) (walk : Walk observer op first s r) :
    Walks observer op first program s r fun _ t r' => t.link = s.link ∧ r' = r := by
  have ends : program.Ends rtw88.ready observer.watch (fun _ s r => Walk observer op first s r) s r
      fun _ t r' => t.Sound ∧ t.link = s.link ∧ r' = r := by
    refine isQuiet.ends walk.sound rfl (fun _ before after kept same => ?_)
      (fun _ _ isReady sound => ⟨isReady, sound⟩) fun call t mute sound same => ?_
    · exact Eq.trans (show after.link = before.link from same) kept
    · exact ⟨walk.quiet same, by simp [LinkObserver.watch, Call.Mute.sight mute]⟩
  exact ⟨ends.mono (fun _ _ _ => id) fun _ t r' ⟨sound, same, sameRecord⟩ =>
    ⟨sameRecord ▸ walk.quiet same, same, sameRecord⟩⟩

/-- The rest of a program after a function that leaves the link alone. -/
theorem through {program : M β} {rest : β → M α} (isQuiet : M.IsQuiet program)
    (walk : Walk observer op first s r)
    (goesOn : ∀ value t, Walk observer op first t r → t.link = s.link →
      Walks observer op first (rest value) t r post) :
    Walks observer op first (program.bind rest) s r post := by
  refine (quiet isQuiet walk).bind ?_
  rintro value t _ now ⟨same, rfl⟩
  exact goesOn value t now same

/-- A function that leaves the link alone, at the end of a program. -/
theorem lastly {program : M α} (isQuiet : M.IsQuiet program) (walk : Walk observer op first s r) :
    Walks observer op first program s r fun _ _ _ => True :=
  (quiet isQuiet walk).mono fun _ _ _ _ _ => trivial

end Walks

end

end AirportRtw88
