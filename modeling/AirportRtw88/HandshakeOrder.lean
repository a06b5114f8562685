import AirportRtw88.LinkStatus
import AirportRtw88.Protection

/-!
# The order of the handshake

`handleEAPOL` keeps no record of the messages that came before: an M3 is checked with whatever
is in `_ptk`.  The messages since `cmdConnect` are recorded, each with the link that it finds.
The connection comes from an M1 and an M3 of its own as long as no M3 is accepted under the
zeros that `clearKeys` leaves.
-/

namespace AirportRtw88

open Interleave Bytes

/-- A message that `handleEAPOL` is given, with the link that it finds. -/
structure KeyMessage where
  data : Bytes
  link : Link

/-- The PTK of the PMK, the nonces and the addresses that are stored. -/
def Link.derivedPtk (l : Link) : Bytes :=
  derivePTK l.pmk l.anonce l.snonce l.macAddr l.targetBSS.bssid

/-- `deliverDataFrame` hands the frame to the handshake of the internal supplicant. -/
def Link.handsOver (l : Link) (skb : Skb) : Bool :=
  l.state = .handshaking ∧ l.externalSupplicant = false ∧ skb.data.isAmsdu = false ∧
    carriedMsdus skb.data ≠ [] ∧ skb.data.llc.llcEthertype = ethPPae

/-- This M1 was processed last: the ANonce that is stored is its own. -/
structure KeyMessage.Answered (m1 : KeyMessage) (l : Link) : Prop where
  key : m1.data.isEapolKey = true
  isM1 : m1.data.isM1 = true
  anonce : l.anonce = m1.data.slice 17 32

/-- An M3 after an M1 that was processed, whose code verifies under the PTK that is derived from
the PMK, the ANonce of this M1 and the SNonce generated for it. -/
structure KeyMessage.Completes (m3 : KeyMessage) (earlier : List KeyMessage) : Prop where
  key : m3.data.isEapolKey = true
  notM1 : m3.data.isM1 = false
  isM3 : m3.data.isM3 = true
  answered : ∃ m1 ∈ earlier, m1.Answered m3.link
  ptk : m3.link.ptk = m3.link.derivedPtk
  code : eapolMicMatches (m3.link.derivedPtk.take 16) m3.data.eapolFrame = true

/-- The states in which keys are installed. -/
def Rtw88State.keyed : Rtw88State → Bool
  | .handshaking | .connected => true
  | _ => false

/-- A connection of the internal supplicant comes from an M3 that completes a handshake, and so
does every pairwise key that is installed on the way. -/
structure Link.Shaken (l : Link) (messages : List KeyMessage) : Prop where
  connected : l.state = .connected → l.wpa2 = true → l.externalSupplicant = false →
    ∃ m3 earlier, messages = m3 :: earlier ∧ m3.Completes earlier
  installed : l.state.keyed = true → l.externalSupplicant = false →
    ∀ key, l.ptkConf = some key → ∃ newer m3 earlier, messages = newer ++ m3 :: earlier ∧
      m3.Completes earlier ∧ key.key = (m3.link.derivedPtk.drop 32).take 16

/-- The messages since `cmdConnect` was last accepted, the last one first, while frames are
delivered only if they are allowed. -/
def keyMessages (allows : Skb → Link → Prop) : LinkObserver (List KeyMessage) where
  starts _ _ _ := True
  begins op l messages :=
    match op with
    | .cmdConnect _ => if l.state = .idle ∨ l.state = .scanning then [] else messages
    | _ => messages
  sees sight l messages :=
    match sight with
    | .delivered skb => if l.handsOver skb then ⟨skb.eapol, l⟩ :: messages else messages
    | _ => messages
  allows sight l _ :=
    match sight with
    | .delivered skb => allows skb l
    | _ => True

/-- In every state that is reached the handshake came first. -/
def HandshakeInOrder (allows : Skb → Link → Prop) (s : Ieee80211) : Prop :=
  s.initial → ∀ now, rtw88.Watched (keyMessages allows).watch (⟨s, []⟩, []) now →
    now.1.state.link.Shaken now.2

/-- While `_ptk` holds the zeros of `clearKeys`, no message arrives that is an M3 with a code
under them. -/
def NoZeroCode (skb : Skb) (l : Link) : Prop :=
  l.handsOver skb = true → l.ptk = zeros 64 → ¬ skb.VerifiesM3 ((zeros 64).take 16)

/-! ## What holds of the keys -/

namespace Link

/-- The PTK in use is that of an M1 that was processed. -/
structure Derived (l : Link) (messages : List KeyMessage) : Prop where
  answered : ∃ m1 ∈ messages, m1.Answered l
  ptk : l.ptk = l.derivedPtk

/-- Without hardware the link is idle; until the handshake there are no keys, and in it the PTK
is empty or derived. -/
structure InOrder (l : Link) (messages : List KeyMessage) : Prop extends l.Shaken messages where
  bare : l.ops = none → l.state = .idle
  early : l.ops ≠ none → l.state.keyed = false → l.ptk = zeros 64 ∧ l.ptkConf = none
  derived : l.state = .handshaking → l.externalSupplicant = false →
    l.ptk = zeros 64 ∨ l.Derived messages

/-- The fields that the order of the handshake is about. -/
def keying (l : Link) : Rtw88State × Option Ops × Bool × Bool × Bytes × Option KeyConf :=
  (l.state, l.ops, l.externalSupplicant, l.wpa2, l.ptk, l.ptkConf)

/-- The fields that the PTK is derived from. -/
def keyInputs (l : Link) : Bytes × Bytes × Bytes × Bytes × Bss :=
  (l.pmk, l.anonce, l.snonce, l.macAddr, l.targetBSS)

variable {l l' : Link} {messages : List KeyMessage}

theorem derivedPtk_of_same (same : l'.keyInputs = l.keyInputs) : l'.derivedPtk = l.derivedPtk := by
  simp only [keyInputs, Prod.mk.injEq] at same
  obtain ⟨pmk, anonce, snonce, macAddr, target⟩ := same
  simp only [derivedPtk, pmk, anonce, snonce, macAddr, target]

theorem anonce_of_same (same : l'.keyInputs = l.keyInputs) : l'.anonce = l.anonce :=
  congrArg (fun inputs => inputs.2.1) same

theorem Derived.of_same (derived : l.Derived messages) (inputs : l'.keyInputs = l.keyInputs)
    (ptk : l'.ptk = l.ptk) : l'.Derived messages := by
  obtain ⟨m1, member, answered⟩ := derived.answered
  constructor
  · exact ⟨m1, member, answered.key, answered.isM1,
      (anonce_of_same inputs).trans answered.anonce⟩
  · rw [ptk, derivedPtk_of_same inputs]
    exact derived.ptk

/-- A change of other fields. -/
theorem InOrder.of_same (held : l.InOrder messages) (same : l'.keying = l.keying)
    (inputs : l'.keyInputs = l.keyInputs) : l'.InOrder messages := by
  simp only [keying, Prod.mk.injEq] at same
  obtain ⟨state, ops, external, wpa2, ptk, ptkConf⟩ := same
  refine ⟨⟨?_, ?_⟩, ?_, ?_, ?_⟩ <;> simp only [state, ops, external, wpa2, ptk, ptkConf]
  · exact held.connected
  · exact held.installed
  · exact held.bare
  · exact held.early
  · exact fun shaking internal =>
      (held.derived shaking internal).imp_right fun derived => derived.of_same inputs ptk

/-- A link that neither shakes hands nor is connected. -/
theorem InOrder.of_early (unkeyed : l.state.keyed = false) (bare : l.ops = none → l.state = .idle)
    (early : l.ops ≠ none → l.ptk = zeros 64 ∧ l.ptkConf = none) : l.InOrder messages where
  connected connected := by simp [connected, Rtw88State.keyed] at unkeyed
  installed keyed := by simp [keyed] at unkeyed
  bare := bare
  early present _ := early present
  derived shaking := by simp [shaking, Rtw88State.keyed] at unkeyed

/-- A change of state that keeps the keys. -/
theorem InOrder.moves {later : List KeyMessage} (held : l.InOrder messages)
    (same : (l'.ops, l'.ptk, l'.ptkConf) = (l.ops, l.ptk, l.ptkConf))
    (before : l.state.keyed = false) (after : l'.state.keyed = false)
    (bare : l.ops = none → l'.state = .idle) : l'.InOrder later := by
  simp only [Prod.mk.injEq] at same
  obtain ⟨ops, ptk, ptkConf⟩ := same
  refine .of_early after ?_ ?_ <;> simp only [ops, ptk, ptkConf]
  · exact bare
  · exact fun present => held.early present before

/-- The keys are erased. -/
theorem InOrder.of_wiped (held : l.InOrder messages) : l.wipeKeys.InOrder messages where
  connected := held.connected
  installed _ _ := nofun
  bare := held.bare
  early _ _ := ⟨rfl, rfl⟩
  derived _ _ := .inl rfl

/-- A key is installed or removed in a connection. -/
theorem InOrder.withKey {s : Ieee80211} (held : s.link.InOrder messages) (pairwise : Bool)
    (key : Option KeyConf) (keyed : s.state.keyed = true)
    (sound : s.externalSupplicant = false → pairwise = true → ∀ k, key = some k →
      ∃ newer m3 earlier, messages = newer ++ m3 :: earlier ∧ m3.Completes earlier ∧
        k.key = (m3.link.derivedPtk.drop 32).take 16) :
    (s.setKeySlot pairwise key).link.InOrder messages where
  connected := held.connected
  installed _ internal k isKey := by
    cases pairwise with
    | true => exact sound internal rfl k isKey
    | false => exact held.installed keyed internal k isKey
  bare := held.bare
  early _ unkeyed := absurd (keyed.symm.trans unkeyed) nofun
  derived shaking internal :=
    (held.derived shaking internal).imp_right fun derived => derived.of_same rfl rfl

theorem keys_withoutSta (l : Link) :
    l.withoutSta.ptk = l.ptk ∧ l.withoutSta.ptkConf = l.ptkConf := by
  unfold withoutSta
  split <;> exact ⟨rfl, rfl⟩

/-- What `doDisconnect` leaves of the keys. -/
theorem keys_tornDown (l : Link) : l.tornDown.ptk = zeros 64 ∧ l.tornDown.ptkConf = none :=
  keys_withoutSta _

/-- Another message arrives. -/
theorem InOrder.receive (held : l.InOrder messages) (message : KeyMessage)
    (shaking : l.state = .handshaking) : l.InOrder (message :: messages) where
  connected connected := by
    rw [shaking] at connected
    cases connected
  installed phase internal key isKey := by
    obtain ⟨newer, m3, earlier, rfl, completes⟩ := held.installed phase internal key isKey
    exact ⟨message :: newer, m3, earlier, rfl, completes⟩
  bare := held.bare
  early := held.early
  derived shaking internal := by
    refine (held.derived shaking internal).imp_right fun derived => ⟨?_, derived.ptk⟩
    obtain ⟨m1, member, answered⟩ := derived.answered
    exact ⟨m1, List.mem_cons_of_mem _ member, answered⟩

end Link

/-! ## What the changes keep -/

section

variable {allows : Skb → Link → Prop} {op : Op} {first : Ieee80211 × List KeyMessage}
  {s : Ieee80211} {r : List KeyMessage} {skb : Skb}

theorem Skb.CarriesEapol.handsOver {l : Link} (carries : skb.CarriesEapol)
    (state : l.state = .handshaking) (internal : l.externalSupplicant = false) :
    l.handsOver skb = true :=
  decide_eq_true ⟨state, internal, carries.single, carries.carries, carries.ethertype⟩

/-- The message that is being handled was recorded, with the keys as they still are. -/
theorem Shaking.received (shaking : Shaking (keyMessages allows) skb s r) :
    ∃ before earlier, r = ⟨skb.eapol, before⟩ :: earlier ∧ before.keyInputs = s.link.keyInputs ∧
      before.ptk = s.ptk ∧ before.handsOver skb = true ∧ allows skb before := by
  obtain ⟨before, earlier, recorded, allowed, same⟩ := shaking.seen
  have state : before.state = .handshaking :=
    (congrArg Link.state same).symm.trans shaking.state
  have internal : before.externalSupplicant = false :=
    (congrArg Link.externalSupplicant same).symm.trans shaking.internal
  have handsOver := shaking.eapol.handsOver state internal
  refine ⟨before, earlier, ?_, (congrArg Link.keyInputs same).symm,
    (congrArg Link.ptk same).symm, handsOver, allowed⟩
  rw [recorded]
  exact if_pos handsOver

/-- Only an M1 that is processed stores nonces. -/
theorem Change.nonces_eq {γ : Type} {observer : LinkObserver γ} {first : Ieee80211 × γ} {r : γ}
    {target : Ieee80211} {announced : Option Bool}
    (change : Change observer op first (s, r) target announced) :
    (target.anonce, target.snonce) = (s.anonce, s.snonce) ∨
      ∃ skb random, Shaking observer skb s r ∧ skb.eapol.isM1 = true ∧
        target = s.acceptM1 skb.eapol random := by
  cases change with
  | m1 shaking key isM1 random => exact .inr ⟨_, random, shaking, isM1, rfl⟩
  | released =>
      have same : (s.link.withoutSta.anonce, s.link.withoutSta.snonce) = (s.anonce, s.snonce) := by
        unfold Link.withoutSta
        split <;> rfl
      rw [← Ieee80211.link_withoutSta] at same
      exact .inl same
  | _ => exact .inl rfl

/-- An M1 is processed. -/
theorem Shaking.derived (shaking : Shaking (keyMessages allows) skb s r)
    (key : skb.eapol.isEapolKey = true) (isM1 : skb.eapol.isM1 = true) (random : Bytes) :
    (s.acceptM1 skb.eapol random).link.Derived r := by
  obtain ⟨before, earlier, rfl, -⟩ := shaking.received
  exact ⟨⟨_, List.mem_cons_self, key, isM1, rfl⟩, rfl⟩

/-- An M3 that verifies completes the handshake, unless it verifies under the zeros. -/
theorem Shaking.completes (shaking : Shaking (keyMessages NoZeroCode) skb s r)
    (held : s.link.InOrder r) (m3 : skb.VerifiesM3 s.kck) :
    ∃ m earlier, r = m :: earlier ∧ m.Completes earlier ∧ m.link.derivedPtk = s.ptk := by
  obtain ⟨before, earlier, rfl, inputs, ptk, handsOver, allowed⟩ := shaking.received
  rcases held.derived shaking.state shaking.internal with empty | derived
  · have empty : s.ptk = zeros 64 := empty
    rw [Ieee80211.kck, empty] at m3
    exact absurd m3 (allowed handsOver (ptk.trans empty))
  · have same : before.derivedPtk = s.ptk :=
      (Link.derivedPtk_of_same inputs).trans derived.ptk.symm
    refine ⟨_, earlier, rfl, ⟨m3.key, m3.notM1, m3.m3, ?_, ptk.trans same.symm, ?_⟩, same⟩
    · obtain ⟨m1, member, answered⟩ := derived.answered
      rcases List.mem_cons.mp member with rfl | older
      · exact absurd answered.isM1 (by simp [m3.notM1])
      · refine ⟨m1, older, answered.key, answered.isM1, ?_⟩
        exact (Link.anonce_of_same inputs).trans answered.anonce
    · rw [same]
      exact m3.code

theorem Change.inOrder {target : Ieee80211} {announced : Option Bool}
    (started : first.1.link.Attached) (attached : op ≠ .stop → s.link.Attached)
    (change : Change (keyMessages NoZeroCode) op first (s, r) target announced)
    (held : s.link.InOrder r) : target.link.InOrder r := by
  have unkeyed : ∀ {phase}, s.state = phase → phase.keyed = false → s.link.state.keyed = false :=
    fun isPhase early => (congrArg Rtw88State.keyed isPhase).trans early
  have present : ∀ {phase}, s.state = phase → phase ≠ .idle → s.link.ops ≠ none :=
    fun isPhase busy gone => busy (isPhase.symm.trans (held.bare gone))
  cases change with
  | quiet | cached | unassociated | vifCleared | registered | vifAssociated | dialog | sent
  | rxAgreed | txAgreed | poweredOn | poweredOff | interfaceRemoved => exact held.of_same rfl rfl
  | released =>
      rw [Ieee80211.link_withoutSta]
      unfold Link.withoutSta
      split <;> exact held.of_same rfl rfl
  | wiped => exact held.of_wiped
  | scanBegan idle powered hw =>
      refine held.moves rfl (unkeyed idle rfl) rfl fun gone => ?_
      simp [Option.map_eq_none_iff.mp gone] at hw
  | gaveUp phase =>
      refine held.moves rfl ?_ rfl fun _ => rfl
      rcases phase with phase | phase | phase <;> exact unkeyed phase rfl
  | targeted target idle =>
      exact held.moves rfl (unkeyed idle rfl) (unkeyed idle rfl) fun _ => idle
  | committed isConnect began fresh idle powered =>
      refine held.moves rfl (unkeyed idle rfl) rfl fun gone => ?_
      exact absurd gone ((attached (by simp [isConnect])).powers powered).2
  | associating phase =>
      refine held.moves rfl (unkeyed phase rfl) rfl fun gone => ?_
      exact absurd gone (present phase (by simp))
  | handshaking phase wpa2 internal =>
      have there := present phase (by simp)
      obtain ⟨ptk, ptkConf⟩ := held.early there (unkeyed phase rfl)
      refine ⟨⟨nofun, fun _ _ key isKey => ?_⟩, fun gone => absurd gone there, nofun,
        fun _ _ => .inl ptk⟩
      exact absurd (ptkConf.symm.trans isKey) nofun
  | opened phase other =>
      have there := present phase (by simp)
      obtain ⟨ptk, ptkConf⟩ := held.early there (unkeyed phase rfl)
      refine ⟨⟨fun _ wpa2 internal => ?_, fun _ _ key isKey => ?_⟩, fun gone => absurd gone there,
        nofun, nofun⟩
      · have wpa2 : s.wpa2 = true := wpa2
        have internal : s.externalSupplicant = false := internal
        simp [wpa2, internal] at other
      · exact absurd (ptkConf.symm.trans isKey) nofun
  | m1 shaking key isM1 random =>
      have keyed : s.state.keyed = true := congrArg Rtw88State.keyed shaking.state
      refine ⟨⟨fun connected => ?_, held.installed⟩, held.bare, fun _ unkeyed => ?_,
        fun _ _ => .inr (shaking.derived key isM1 random)⟩
      · exact absurd (shaking.state.symm.trans connected) nofun
      · exact absurd (keyed.symm.trans unkeyed) nofun
  | emptied pairwise joined =>
      refine held.withKey pairwise none ?_ fun _ _ => nofun
      rcases joined with shaking | connected <;> simp [Rtw88State.keyed, *]
  | keyed shaking m3 pairwise key derived =>
      have keyed : s.state.keyed = true := congrArg Rtw88State.keyed shaking.state
      refine (held.withKey pairwise (some key) keyed ?_).of_same rfl rfl
      rintro - isPairwise _ ⟨⟩
      obtain ⟨m, earlier, isNewest, completes, ptk⟩ := shaking.completes held m3
      refine ⟨[], m, earlier, isNewest, completes, ?_⟩
      rw [derived isPairwise, ptk]
      rfl
  | keyedExternally connected external pairwise key =>
      have keyed : s.state.keyed = true := congrArg Rtw88State.keyed connected
      refine (held.withKey pairwise (some key) keyed fun internal => ?_).of_same rfl rfl
      exact absurd (external.symm.trans internal) nofun
  | completed shaking m3 =>
      have there := present shaking.state (by simp)
      have keyed : s.state.keyed = true := congrArg Rtw88State.keyed shaking.state
      obtain ⟨m, earlier, isNewest, completes, -⟩ := shaking.completes held m3
      exact ⟨⟨fun _ _ _ => ⟨m, earlier, isNewest, completes⟩, fun _ => held.installed keyed⟩,
        fun gone => absurd gone there, nofun, nofun⟩
  | deauthenticated isRx obeys same =>
      have ptk : s.ptk = zeros 64 := congrArg Link.ptk same
      have ptkConf : s.ptkConf = none := congrArg Link.ptkConf same
      exact .of_early rfl (fun _ => rfl) fun _ => ⟨ptk, ptkConf⟩
  | abandoned same gone =>
      have attached : s.link.Attached := same ▸ started
      exact .of_early rfl (fun _ => rfl) fun there => absurd (attached.stopped gone).ops there
  | disconnected tearsDown same =>
      have ptk : s.ptk = zeros 64 := (congrArg Link.ptk same).trans (Link.keys_tornDown _).1
      have ptkConf : s.ptkConf = none :=
        (congrArg Link.ptkConf same).trans (Link.keys_tornDown _).2
      exact .of_early rfl (fun _ => rfl) fun _ => ⟨ptk, ptkConf⟩
  | switchedOff isPowerOff idle => exact held.moves rfl (unkeyed idle rfl) rfl fun _ => rfl
  | hardwareRemoved => exact .of_early rfl (fun _ => rfl) fun there => absurd rfl there

theorem announce_keyMessages (announced : Option Bool) (target : Ieee80211) :
    (keyMessages allows).announce announced target r = r := by
  cases announced with
  | none => rfl
  | some active => exact ite_self r

/-- The record starts anew only where no keys are. -/
theorem Link.InOrder.begin {l : Link} (held : l.InOrder r) (op : Op) :
    l.InOrder ((keyMessages allows).begins op l r) := by
  cases op with
  | cmdConnect args =>
      unfold keyMessages
      dsimp only
      split
      · rename_i early
        have unkeyed : l.state.keyed = false := by
          rcases early with early | early <;> simp [early, Rtw88State.keyed]
        exact held.moves rfl unkeyed unkeyed held.bare
      · exact held
  | _ => exact held

theorem Link.InOrder.sees {l : Link} (held : l.InOrder r) (skb : Skb) :
    l.InOrder ((keyMessages allows).sees (.delivered skb) l r) := by
  unfold keyMessages
  dsimp only
  split
  · rename_i handsOver
    exact held.receive _ (of_decide_eq_true handsOver).1
  · exact held

/-- The order is kept in the course of an operation. -/
theorem Walk.inOrder {t : Ieee80211} (started : first.1.link.Attached)
    (initially : first.1.link.InOrder first.2)
    (walk : Walk (keyMessages NoZeroCode) op first t r) : t.link.InOrder r := by
  refine (walk.invariant (fun l r => (op ≠ .stop → l.Attached) ∧ l.InOrder r)
    ⟨fun _ => started, initially⟩ ?_ ?_ ?_).2
  · intro s r target announced change held
    rw [announce_keyMessages]
    exact ⟨fun notStop => change.attached notStop (held.1 notStop),
      change.inOrder started held.1 held.2⟩
  · exact fun _ _ _ _ held => held
  · exact fun _ _ _ held => ⟨held.1, held.2.sees _⟩

end

/-- Unless an M3 arrives with a code under the zeros of `clearKeys`, before an M1 was processed,
every connection of the internal supplicant comes from its own handshake. -/
theorem handshake_inOrder (s : Ieee80211) : HandshakeInOrder NoZeroCode s := by
  intro initial now run
  have initially : s.link.InOrder [] := by
    obtain ⟨attached, -, rfl⟩ := initial
    exact .of_early rfl nofun fun _ => ⟨rfl, rfl⟩
  have begins : ∀ {op first},
      Begins (keyMessages NoZeroCode) (fun s r => s.link.Attached ∧ s.link.InOrder r) op first →
      first.1.link.Attached ∧ first.1.link.InOrder first.2 := by
    intro op first begins
    obtain ⟨r, ⟨attached, held⟩, -, fresh⟩ := begins.before
    exact ⟨attached, fresh ▸ held.begin op⟩
  have kept : ∀ op first t r,
      Begins (keyMessages NoZeroCode) (fun s r => s.link.Attached ∧ s.link.InOrder r) op first →
      Walk (keyMessages NoZeroCode) op first t r → op.Finishes first t →
      t.link.Attached ∧ t.link.InOrder r := by
    intro op first t r before walk finishes
    obtain ⟨attached, held⟩ := begins before
    exact ⟨walk.attached finishes attached, walk.inOrder attached held⟩
  rcases watched_walks kept initial.sound ⟨initial.attached, initially⟩ run with
    ⟨-, -, -, held⟩ | ⟨-, op, first, before, walk⟩
  · exact held.toShaken
  · obtain ⟨attached, held⟩ := begins before
    exact (walk.inOrder attached held).toShaken

namespace Scenario

/-- A data frame of the access point with a message of the handshake. -/
def keyFrame (message : Bytes) : Skb :=
  fromAp 0x0208 ownAddr (snapHeader ethPPae ++ message)

/-- An M3 with a code under sixteen zeros. -/
def forgedMessage : Bytes :=
  [2, 3] ++ be16 95 ++ [2] ++ be16 0x01ca ++ [0, 16] ++ zeros 6 ++ be16 3 ++ zeros 64 ++
    [172, 189, 33, 102, 91, 77, 142, 74, 144, 154, 162, 15, 156, 239, 159, 120] ++ be16 0

/-- The station associates with the WPA2 network, and gets an M3 at once. -/
def forgedHandshake : List (Turn Answer Op) :=
  scan secured ++ .start (.cmdConnect (toNetwork (some (List.replicate 32 7)) false)) [] ::
    authenticate ++
    .start (.rxFrame authResponse) [] :: List.replicate 4 (goOn 0) ++
    .start (.rxFrame assocResponse) [] :: List.replicate 3 (goOn 0) ++
    .start (.rxFrame (keyFrame forgedMessage)) [] :: List.replicate 4 (goOn 0)

/-- Whether the station is connected, after how many messages, and with which key. -/
def connectsUnasked : Option (Bool × Nat × Option Bytes) := do
  let (config, messages) ←
    rtw88.playAlone (keyMessages fun _ _ => True).watch (start, []) forgedHandshake
  return (config.state.state = .connected && config.state.wpa2 &&
    !config.state.externalSupplicant, messages.length, config.state.ptkConf.map KeyConf.key)

theorem connectsUnasked_eq : connectsUnasked = some (true, 1, some (zeros 16)) := by
  decide +kernel

end Scenario

theorem not_handshakeInOrder : ¬ ∀ s, HandshakeInOrder (fun _ _ => True) s := by
  intro inOrder
  have run := Scenario.connectsUnasked_eq
  simp only [Scenario.connectsUnasked, Option.bind_eq_bind, Option.bind_eq_some_iff, Prod.exists,
    Option.pure_def, Option.some.injEq, Prod.mk.injEq, Bool.and_eq_true, decide_eq_true_eq,
    Bool.not_eq_true'] at run
  obtain ⟨config, messages, played, ⟨⟨connected, wpa2⟩, internal⟩, one, -⟩ := run
  have watched := System.watched_of_playAlone (fun _ _ _ => trivial)
    (fun _ _ _ sight _ => by cases sight <;> trivial) played
  obtain ⟨m3, earlier, isNewest, completes⟩ :=
    (inOrder _ ⟨Scenario.attachment, rfl, rfl⟩ _ watched).connected connected wpa2 internal
  obtain ⟨m1, member, -⟩ := completes.answered
  -- The M3 is the only message.
  have isNewest : messages = m3 :: earlier := isNewest
  have none : earlier = [] := by simpa [isNewest] using one
  simp [none] at member

end AirportRtw88
