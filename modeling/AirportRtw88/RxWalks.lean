import AirportRtw88.Walks

/-!
# The walks of the operations

The functions that connect and receive stay on the walk of their operation, and so does
every operation.
-/

namespace AirportRtw88

open Interleave Bytes

section

variable {γ : Type} {observer : LinkObserver γ} {op : Op} {first : Ieee80211 × γ}
  {s t : Ieee80211} {r : γ}

namespace M

/-! ## Connecting -/

theorem connectIdle_walks {args : ConnectArgs} (isConnect : op = .cmdConnect args)
    (walk : Walk observer op first s r) (fresh : r = first.2)
    (left : s.link = if first.1.state = .scanning then first.1.link.becomeIdle else first.1.link) :
    Walks observer op first (connectIdle args) s r fun _ _ _ => True := by
  refine .fetch (.ite (fun _ => .ret walk trivial) fun idle => .ite (fun _ => .ret walk trivial) ?_)
  refine fun _ => .ite (fun _ => .ret walk trivial) fun powered => ?_
  have idle := not_not.mp idle
  have powered : s.powered = true := by simpa using powered
  have began : first.1.state = .idle ∨ first.1.state = .scanning := by
    split at left
    · exact .inr ‹_›
    · exact .inl ((congrArg Link.state left).symm.trans idle)
  have sameSta : ∀ u : Ieee80211, u.withoutSta.powered = u.powered := by
    intro u
    unfold Ieee80211.withoutSta
    split <;> rfl
  refine (clearKeys_walks walk).bind ?_
  rintro _ _ r wiped ⟨rfl, rfl⟩
  refine (releaseSta_walks wiped (.inl idle)).bind ?_
  rintro _ u r released ⟨same, rfl⟩
  have idle : u.state = .idle := by
    rw [same, Ieee80211.state_withoutSta]
    exact idle
  have powered : u.powered = true := by
    rw [same, sameSta]
    exact powered
  refine .fetch ?_
  split
  · exact .ret released trivial
  · rename_i target selected
    have address : target.bssid.length = 6 :=
      released.sound.cache _ (List.mem_of_find?_eq_some selected)
    have targeted : Walk observer op first { u with targetBSS := target } r :=
      released.next (.targeted target idle)
        (Ieee80211.sound_of_steady (Ieee80211.steady_target u address) released.sound)
    refine .update (.ite (fun _ => .ret targeted trivial) fun _ => .update (.ret ?_ trivial))
    exact targeted.next (.committed isConnect began fresh idle powered)
      (targeted.sound.of_buffers targeted.sound.scans nofun rfl)

theorem cmdConnect_walks {args : ConnectArgs} (isConnect : op = .cmdConnect args)
    (walk : Walk observer op first s r) (same : s = first.1) (fresh : r = first.2) :
    Walks observer op first (cmdConnect args) s r fun _ _ _ => True := by
  refine (abortActiveScan_walks walk (by rw [same])).bind ?_
  rintro aborted t r later ⟨rfl, left, -⟩
  refine .ite (fun isLeft => ?_) fun _ => .ret later trivial
  exact connectIdle_walks isConnect later fresh ((left isLeft).trans (by rw [same]; rfl))

theorem link_setConnectedChandef (s : Ieee80211) (chan : Channel) :
    (s.setConnectedChandef chan).link = s.link := by
  cases tuned : s.hw <;>
    simp [Ieee80211.link, Ieee80211.protectedFrames, Ieee80211.setConnectedChandef,
      Ieee80211.modifyChandef, tuned]

theorem setupAuthentication_walks (walk : Walk observer op first s r) :
    Walks observer op first setupAuthentication s r fun _ _ _ => True := by
  refine .through (isQuiet_authenticationCancelled _) walk fun cancelled t now _ => ?_
  refine .when now (fun _ => .fetch ?_) fun _ => trivial
  refine .through (.whenSome fun chan => isQuiet_update fun u => link_setConnectedChandef u chan)
    now fun _ u now _ => ?_
  refine .through (isQuiet_perform fun _ => trivial) now fun _ u now _ => ?_
  refine .through (isQuiet_authenticationCancelled _) now fun cancelled v now _ => ?_
  refine .when now (fun _ => ?_) fun _ => trivial
  have cleared : Walk observer op first v.clearVifAssoc r :=
    now.next .vifCleared (now.sound.keep rfl)
  have numbered : Walk observer op first v.clearVifAssoc.bumpTxSeq r := cleared.quiet rfl
  exact .update (.fetch (.update (.lastly (sendAuthentication_isQuiet _) numbered)))

theorem doAuthenticate_walks (walk : Walk observer op first s r) :
    Walks observer op first doAuthenticate s r fun _ _ _ => True := by
  have settles : ∀ t, Walk observer op first t r →
      Walks observer op first settleAuthentication t r fun _ _ _ => True := by
    intro t now
    refine .through (waitForDriver_isQuiet _) now fun cancelled u now _ => ?_
    refine .when now (fun _ => ?_) fun _ => trivial
    refine .through (isQuiet_authenticationCancelled _) now fun cancelled v now _ => ?_
    refine .when now (fun _ => ?_) fun _ => trivial
    refine .through driverScanning_isQuiet now fun scanning w now _ => ?_
    refine .when now (fun _ => ?_) fun _ => trivial
    exact .through (isQuiet_perform fun _ => trivial) now fun _ x now _ =>
      setupAuthentication_walks now
  refine .through (isQuiet_authenticationCancelled _) walk fun cancelled t now _ => .fetch ?_
  exact .when now (fun _ => settles t now) fun _ => trivial

/-- A connection attempt is given up. -/
theorem gaveUp_walk (walk : Walk observer op first s r)
    (phase : s.state = .authenticating ∨ s.state = .associating)
    (joined : s.link.joined = first.1.link.joined) {left : Ieee80211}
    (leaves : left.link = (s.setState .idle).link) : Walk observer op first left r := by
  have idle : (s.setState .idle).link = s.becomeIdle.link :=
    congrArg (fun back => { (s.setState .idle).link with scanReturnState := back })
      walk.sound.scans
  have leaves := leaves.trans idle
  exact walk.change (.gaveUp (.inr phase) joined)
    ((walk.sound.of_buffers (t := s.becomeIdle) rfl nofun rfl).of_link leaves) leaves

theorem doAssociate_walks (walk : Walk observer op first s r)
    (authenticating : s.state = .authenticating)
    (joined : s.link.joined = first.1.link.joined) :
    Walks observer op first doAssociate s r fun _ _ _ => True := by
  refine .fetch (.when walk (fun _ => ?_) fun _ => trivial)
  refine .through (isQuiet_authenticationCancelled _) walk fun cancelled t now same => ?_
  refine .when now (fun _ => .fetch (.update ?_)) fun _ => trivial
  have joined : t.link.joined = first.1.link.joined := (congrArg Link.joined same).trans joined
  have numbered : Walk observer op first t.bumpTxSeq r := now.quiet rfl
  have began : Walk observer op first (t.bumpTxSeq.setState .associating) r :=
    numbered.next (.associating ((congrArg Link.state same).trans authenticating) joined)
      (numbered.sound.of_buffers numbered.sound.scans nofun rfl)
  refine .through (txMgmtFrame_isQuiet .associate _ fun _ _ => trivial) began
    fun sent u now same' => ?_
  refine .ite (fun _ => ?_) fun _ => .updated ?_ trivial
  · refine .through (isQuiet_authenticationCancelled _) now fun cancelled v now _ => .fetch ?_
    exact .when now (fun _ => .updated (now.quiet rfl) trivial) fun _ => trivial
  · exact gaveUp_walk now (.inr (congrArg Link.state same'))
      ((congrArg Link.joined same').trans joined) rfl

theorem registerSta_walks {skb : Skb} (isRx : op = .rxFrame skb)
    (associates : first.1.link.associates skb = true) (walk : Walk observer op first s r)
    (associating : s.state = .associating) (aid : Nat) :
    Walks observer op first (registerSta aid) s r fun _ t _ => t.state = .associating := by
  refine .fetch (.when walk (fun absent => ?_) fun _ => associating)
  refine .succeeds fun allocated => .when walk (fun _ => .update ?_) fun _ => associating
  have absent : s.sta = none := Option.isNone_iff_eq_none.mp (Bool.and_eq_true_iff.mp absent).1
  have registered : Walk observer op first (s.withSta (s.newSta aid)) r :=
    walk.next (.registered isRx associates associating absent aid) (walk.sound.keep rfl)
  refine (Walks.perform rfl registered).mono ?_
  rintro _ _ _ _ ⟨rfl, -⟩
  exact associating

theorem notifyAssociation_walks {skb : Skb} (isRx : op = .rxFrame skb)
    (associates : first.1.link.associates skb = true) (walk : Walk observer op first s r)
    (associating : s.state = .associating) (aid : Nat) :
    Walks observer op first (notifyAssociation aid) s r fun _ t _ => t.state = .associating := by
  refine .fetch (.when walk (fun _ => .update ?_) fun _ => associating)
  have notified : Walk observer op first (s.associateVif aid) r :=
    walk.next (.vifAssociated isRx associates associating aid) (walk.sound.keep rfl)
  refine (Walks.perform rfl notified).mono ?_
  rintro _ _ _ _ ⟨rfl, -⟩
  exact associating

theorem publishAssociation_walks (walk : Walk observer op first s r)
    (associating : s.state = .associating) :
    Walks observer op first publishAssociation s r fun _ t _ => t.state ≠ .associating := by
  refine .fetch (.ite (fun shakes => .updated ?_ nofun) fun opens => .update ?_)
  · obtain ⟨wpa2, internal⟩ := Bool.and_eq_true_iff.mp shakes
    exact walk.next (.handshaking associating wpa2 (by simpa using internal))
      (walk.sound.of_buffers walk.sound.scans nofun rfl)
  · have connected := walk.change (t := s.setState .connected)
      (.opened associating (Bool.eq_false_of_not_eq_true opens))
      (walk.sound.of_buffers walk.sound.scans nofun rfl) rfl
    refine (Walks.announces connected).bind ?_
    rintro _ _ _ published ⟨rfl, rfl⟩
    have aggregates : Walks observer op first (Prog.when (!(s.setState .connected).wpa2)
        startTxAggregation) (s.setState .connected) _ fun _ t _ => t.state = .connected :=
      .when connected (fun _ => startTxAggregation_walks connected rfl) fun _ => rfl
    refine .fetch (aggregates.bind fun _ t _ now state => .updated (now.quiet rfl) ?_)
    exact ne_of_eq_of_ne state nofun

/-- What holds once an association response was handled: unless the connection moves on, it
leaves nothing behind. -/
def EndsAssociation (first : Ieee80211 × γ) (t : Ieee80211) : Prop :=
  t.state = .associating → t.link.joined = first.1.link.joined

theorem processAssocResponse_walks {skb : Skb} (isRx : op = .rxFrame skb)
    (associates : first.1.link.associates skb = true) (walk : Walk observer op first s r)
    (associating : s.state = .associating) (joined : s.link.joined = first.1.link.joined) :
    Walks observer op first (processAssocResponse skb) s r fun _ t _ =>
      EndsAssociation first t := by
  have freed : Walk observer op first (s.kfreeSkb skb) r := walk.quiet rfl
  refine .fetch (.update (.whenSome freed (fun fields _ => ?_) fun _ _ => joined))
  refine .through (isQuiet_authenticationCancelled _) freed fun cancelled t now same => ?_
  have associating : t.state = .associating := (congrArg Link.state same).trans associating
  have joined : t.link.joined = first.1.link.joined := (congrArg Link.joined same).trans joined
  refine .when now (fun _ => .ite (fun _ => .updated ?_ nofun) fun _ => .update ?_)
    fun _ _ => joined
  · exact gaveUp_walk now (.inr associating) joined rfl
  · have noted : Walk observer op first (t.withAssocAID fields.aid) r := now.quiet rfl
    refine (registerSta_walks isRx associates noted associating _).bind ?_
    intro _ u _ now associating
    refine (notifyAssociation_walks isRx associates now associating _).bind ?_
    intro _ v _ now associating
    exact (publishAssociation_walks now associating).mono fun _ t _ _ moved stays =>
      absurd stays moved

theorem cmdInstallExternalKey_walks (walk : Walk observer op first s r) (pairwise : Bool)
    (keyidx : UInt8) (cipher : Nat) (key : Option Bytes) :
    Walks observer op first (cmdInstallExternalKey pairwise keyidx cipher key) s r
      fun _ _ _ => True := by
  refine .fetch (.ite (fun _ => .ret walk trivial) fun accepted => ?_)
  obtain ⟨external, connected⟩ : s.externalSupplicant = true ∧ s.state = .connected := by
    simp only [Bool.or_eq_true, Bool.not_eq_true', decide_eq_true_eq, not_or] at accepted
    exact ⟨by simpa using accepted.1.1, not_not.mp accepted.2⟩
  split
  · exact .ret walk trivial
  · rename_i content _
    refine .ite (fun _ => .ret walk trivial) fun _ => ?_
    refine (installKey_walks walk _ _ _ (fun _ => content) _
      (.emptied _ (.inr connected)) ?_).bind ?_
    · intro t key same _
      exact .keyedExternally ((congrArg Link.state same).trans connected)
        ((congrArg Link.externalSupplicant same).trans external) _ _
    · exact fun installed _ _ now _ =>
        .ite (fun _ => .ret now trivial) fun _ => .ret now trivial

theorem onTimer_walks {deadline : Deadline} (isTimer : op = .timerFired deadline)
    (walk : Walk observer op first s r) (same : s.link = first.1.link) :
    Walks observer op first onTimer s r fun _ t _ =>
      op.tearsDown first.1.link = true → t.state = .idle := by
  have joined := congrArg Link.joined same
  have shakes : op.tearsDown first.1.link = true ↔ s.state = .handshaking := by
    rw [isTimer, ← same]
    exact decide_eq_true_iff
  have other : ∀ {program : M Unit}, s.state ≠ .handshaking →
      Walks observer op first program s r (fun _ _ _ => True) →
      Walks observer op first program s r fun _ t _ =>
        op.tearsDown first.1.link = true → t.state = .idle :=
    fun notShaking runs => runs.mono fun _ _ _ _ _ tearsDown =>
      absurd (shakes.mp tearsDown) notShaking
  refine .fetch ?_
  split
  · rename_i scanning
    exact other (by simp [scanning]) (scanTimeout_walks walk scanning joined)
  · rename_i authenticating
    refine other (by simp [authenticating]) ?_
    refine .through (isQuiet_authenticationCancelled _) walk fun cancelled t now _ => ?_
    exact .when now (fun _ => .updated (now.quiet rfl) trivial) fun _ => trivial
  · rename_i associating
    refine other (by simp [associating]) ?_
    exact .updated (gaveUp_walk walk (.inr associating) joined rfl) trivial
  · rename_i handshaking
    exact (doDisconnect_walks walk same (shakes.mpr handshaking)).mono fun _ _ _ _ idle _ => idle
  · rename_i notShaking
    exact other notShaking (.ret walk trivial)

end M

/-! ## Reception -/

/-- An entry of the table is replaced, but stays. -/
theorem isSome_update {table : RxBaTable Skb} {tid : Fin kRxBaNumTid} {old : RxReorder Skb}
    (known : table tid = some old) (new : RxReorder Skb) (other : Fin kRxBaNumTid) :
    (Function.update table tid (some new) other).isSome = (table other).isSome := by
  by_cases same : other = tid
  · subst same
    simp [known]
  · simp [same]

theorem isSome_rxReorderInput (table : RxBaTable Skb) (tid other : Fin kRxBaNumTid) (skb : Skb)
    (sn : Nat) : ((rxReorderInput table tid skb sn).table other).isSome = (table other).isSome := by
  unfold rxReorderInput
  split
  · rfl
  · rename_i known
    dsimp only
    split
    · rfl
    split
    · rfl
    split
    · exact isSome_update known _ other
    · exact isSome_update known _ other

theorem isSome_rxReorderFlushStale (table : RxBaTable Skb) (other : Fin kRxBaNumTid) :
    ((rxReorderFlushStale table).table other).isSome = (table other).isSome := by
  have flushes : ∀ (current : RxBaOutcome Skb) tid,
      ((flushTid current tid).table other).isSome = (current.table other).isSome := by
    intro current tid
    unfold flushTid
    split
    · rfl
    · rename_i known
      split
      · rfl
      · exact isSome_update known _ other
  have swept : ∀ (tids : List (Fin kRxBaNumTid)) (current : RxBaOutcome Skb),
      ((tids.foldl flushTid current).table other).isSome = (current.table other).isSome := by
    intro tids
    induction tids with
    | nil => exact fun _ => rfl
    | cons tid rest ih => exact fun current => (ih _).trans (flushes current tid)
  exact swept _ _

theorem Ieee80211.link_leaveRxBa (s : Ieee80211) {outcome : RxBaOutcome Skb}
    (same : ∀ tid, (outcome.table tid).isSome = (s.rxBa tid).isSome) :
    (s.leaveRxBa outcome).link = s.link :=
  congrArg (fun hasRxBa : Fin kRxBaNumTid → Bool => { s.link with hasRxBa }) (funext same)

namespace Walks

theorem forEach {α : Type} {elements : List α} {body : α → M Unit}
    (runs : ∀ element s r, Walk observer op first s r →
      Walks observer op first (body element) s r fun _ _ _ => True)
    (walk : Walk observer op first s r) :
    Walks observer op first (Prog.forEach elements body) s r fun _ _ _ => True := by
  induction elements generalizing s r with
  | nil => exact .ret walk trivial
  | cons element rest ih => exact (runs element s r walk).andThen fun _ _ _ now => ih now

/-- The delivery of a frame is seen. -/
theorem delivers {skb : Skb} {rest : Unit → M Unit} {post : Unit → Ieee80211 → γ → Prop}
    (walk : Walk observer op first s r)
    (runs : observer.allows (.delivered skb) s.link (observer.sees (.delivered skb) s.link r) →
      Walk observer op first s (observer.sees (.delivered skb) s.link r) →
      Walks observer op first (rest ()) s (observer.sees (.delivered skb) s.link r) post) :
    Walks observer op first ((M.perform (.deliver skb)).bind rest) s r post := by
  have seen : Walk observer op first s (observer.sees (.delivered skb) s.link r) :=
    ⟨walk.sound, walk.path.tail (.delivers skb)⟩
  exact ⟨seen, fun _ allowed _ => (runs (allowed _ rfl) seen).ends⟩

end Walks

namespace M

theorem deliverEthernet_walks (walk : Walk observer op first s r) (skb : Skb) (msdu : Msdu) :
    Walks observer op first (deliverEthernet skb msdu) s r fun _ _ _ => True := by
  refine .fetch (.when walk (fun _ => ?_) fun _ => trivial)
  refine .through (fillInputPacket_isQuiet _ _) walk fun filled t now _ => ?_
  exact .when now (fun _ => (Walks.perform rfl now).mono fun _ _ _ _ _ => trivial) fun _ => trivial

theorem deliverDataFrame_walks (walk : Walk observer op first s r) (skb : Skb) :
    Walks observer op first (deliverDataFrame skb) s r fun _ _ _ => True := by
  refine .delivers walk fun allowed seen => ?_
  refine .ite (fun _ => ?_) fun single => ?_
  · exact (Walks.forEach (fun msdu s r now => deliverEthernet_walks now skb msdu) seen).andThen
      fun _ _ _ now => .updated (now.quiet rfl) trivial
  · refine .andThen (.when seen (fun carries => ?_) fun _ => trivial)
      fun _ _ _ now => .updated (now.quiet rfl) trivial
    refine .through (.when (isQuiet_update fun _ => rfl)) seen fun _ t now same => .fetch ?_
    refine .ite (fun takes => ?_) fun _ => deliverEthernet_walks now skb _
    unfold Ieee80211.takesEapol at takes
    obtain ⟨ethertype, handshaking, internal⟩ := of_decide_eq_true takes
    exact handleEAPOL_walks now ⟨handshaking, Bool.eq_false_of_not_eq_true internal,
      ⟨Bool.eq_false_of_not_eq_true single, of_decide_eq_true carries, ethertype⟩, s.link, r, rfl,
      allowed, congrArg Link.unkeyed same⟩

theorem deliverReleased_walks (walk : Walk observer op first s r) (outcome : RxBaOutcome Skb) :
    Walks observer op first (deliverReleased outcome) s r fun _ _ _ => True :=
  (Walks.forEach (fun skb _ _ now => deliverDataFrame_walks now skb) walk).andThen
    fun _ _ _ now => .when now (fun _ => .updated (now.quiet rfl) trivial) fun _ => trivial

theorem processRxData_walks (walk : Walk observer op first s r) (skb : Skb) :
    Walks observer op first (processRxData skb) s r fun _ _ _ => True := by
  refine .fetch (.ite (fun _ => .updated (walk.quiet rfl) trivial) fun _ => ?_)
  split
  · rename_i tid _
    have handled : Walk observer op first
        (s.leaveRxBa (AirportRtw88.rxReorderInput s.rxBa tid skb (skb.data.seqCtrl / 16))) r :=
      walk.quiet (s.link_leaveRxBa fun _ => isSome_rxReorderInput _ _ _ _ _)
    exact .fetch (.update (deliverReleased_walks handled _))
  · exact deliverDataFrame_walks walk skb

/-! ## Management frames -/

theorem handleBackAction_walks {skb : Skb} {b : Bytes} (isRx : op = .rxFrame skb)
    (walk : Walk observer op first s r) (same : s.link = first.1.link) (fresh : r = first.2)
    (action : s.link.backAction skb = some b) :
    Walks observer op first (handleBackAction b) s r fun _ t _ =>
      b.endsTxAgreement s.baTid = true → t.txBaActive = false := by
  have connected : s.state = .connected := by
    unfold Link.backAction at action
    dsimp only at action
    split at action
    · rename_i conditions
      exact conditions.2.2.2.1
    · simp at action
  have agrees : ∀ active, (active = true → s.txBaActive = true ∨
      ∃ b, s.link.backAction skb = some b ∧ b.acceptsTxAgreement s.baTid = true) →
      Walk observer op first { s with txBaActive := active } r := fun active responds =>
    walk.next (.txAgreed isRx same fresh connected active responds) (walk.sound.keep rfl)
  have tables : ∀ outcome : RxBaOutcome Skb, Walk observer op first (s.leaveRxBa outcome) r :=
    fun outcome => walk.change (.rxAgreed isRx connected outcome.table) (walk.sound.keep rfl) rfl
  refine .ite (fun request => ?_) fun notRequest => .ite (fun response => ?_) fun notResponse => ?_
  · have other : ∀ t : Ieee80211, b.endsTxAgreement s.baTid = true → t.txBaActive = false := by
      intro t ends
      simp [Bytes.endsTxAgreement, request] at ends
    refine .when walk (fun _ => .succeeds fun allocated => .update ?_) fun _ => other s
    exact (sendAddbaResponse_walks (tables _) _ _ _ _).mono fun _ t _ _ _ => other t
  · have other : ∀ t : Ieee80211, b.endsTxAgreement s.baTid = true → t.txBaActive = false := by
      intro t ends
      simp [Bytes.endsTxAgreement, response] at ends
    refine .when walk (fun long => .updated (agrees _ fun active => ?_) (other _)) fun _ => other s
    refine (of_decide_eq_true active).imp id fun ⟨status, tid⟩ => ⟨b, action, ?_⟩
    exact decide_eq_true ⟨response, of_decide_eq_true long, status, tid⟩
  · refine .when walk (fun del => .ite (fun recipient => ?_) fun initiator => ?_) fun notDel => ?_
    · refine .updated (agrees _ fun active => .inl (of_decide_eq_true active).1) fun ends => ?_
      have tid := (of_decide_eq_true ends).2.2.2
      exact decide_eq_false fun ⟨_, other⟩ => other tid
    · refine .updated (tables _) fun ends => ?_
      exact absurd (of_decide_eq_true ends).2.2.1 initiator
    · intro ends
      have ends := of_decide_eq_true ends
      exact absurd ⟨ends.1, ends.2.1⟩ (of_decide_eq_false notDel)

/-- What holds once a frame was handled: an agreement that it ends is over. -/
def EndsAgreement (first : Ieee80211 × γ) (skb : Skb) (t : Ieee80211) : Prop :=
  ∀ b, first.1.link.backAction skb = some b → b.endsTxAgreement first.1.baTid = true →
    t.txBaActive = false

/-- A frame that is no BlockAck action ends no agreement. -/
theorem endsAgreement_of_other {skb : Skb} (other : first.1.link.backAction skb = none)
    (t : Ieee80211) : EndsAgreement first skb t := by
  intro b action
  rw [other] at action
  exact nomatch action

theorem processRxAction_walks {skb : Skb} (isRx : op = .rxFrame skb)
    (walk : Walk observer op first s r) (same : s.link = first.1.link) (fresh : r = first.2)
    (isAction : 24 ≤ skb.data.length ∧ skb.data.isMgmt = true ∧
      skb.data.frameControl &&& 0x00f0 = 0x00D0) :
    Walks observer op first (processRxAction skb) s r fun _ t _ => EndsAgreement first skb t := by
  have frees : ∀ t r, Walk observer op first t r → EndsAgreement first skb t →
      Walks observer op first (Prog.update fun s => s.kfreeSkb skb) t r fun _ t _ =>
        EndsAgreement first skb t := fun t r now ends => .updated (now.quiet rfl) ends
  refine .fetch (.through (.when (isQuiet_perform fun _ => trivial)) walk fun _ t now same' => ?_)
  have same := same'.trans same
  refine .fetch ((Walks.when now (fun takes => ?_) fun refuses => ?_).bind
    fun _ u r now ends => frees u r now ends)
  · have takes := of_decide_eq_true takes
    have action : t.link.backAction skb = some (skb.data.drop 24) :=
      if_pos ⟨isAction.1, isAction.2.1, isAction.2.2, takes⟩
    refine (handleBackAction_walks isRx now same fresh action).mono fun _ u _ _ ends b found => ?_
    rw [← same, action] at found
    cases found
    rw [show first.1.baTid = t.baTid from (congrArg Link.baTid same).symm]
    exact ends
  · refine endsAgreement_of_other ?_ t
    rw [← same]
    exact if_neg fun conditions => of_decide_eq_false refuses conditions.2.2.2

theorem processRxDeauth_walks {skb : Skb} (isRx : op = .rxFrame skb)
    (walk : Walk observer op first s r) (same : s.link = first.1.link)
    (isDeauth : 24 ≤ skb.data.length ∧ skb.data.isMgmt = true ∧
      (skb.data.frameControl &&& 0x00f0 = 0x00A0 ∨ skb.data.frameControl &&& 0x00f0 = 0x00C0)) :
    Walks observer op first (processRxDeauth skb) s r fun _ _ _ => True := by
  refine .fetch (.andThen (.when walk (fun taken => .update ?_) fun _ => trivial)
    fun _ _ _ now => .updated (now.quiet rfl) trivial)
  have obeys : first.1.link.obeysDeauth skb = true := by
    obtain ⟨receives, obeys⟩ := Bool.and_eq_true_iff.mp taken
    have receives := of_decide_eq_true receives
    have obeys := of_decide_eq_true obeys
    rw [← same]
    exact decide_eq_true ⟨isDeauth.1, isDeauth.2.1, isDeauth.2.2, receives, obeys⟩
  have noted : Walk observer op first (s.noteDeauth skb.data) r := walk.quiet rfl
  refine (clearKeys_walks noted).bind ?_
  rintro _ _ r wiped ⟨rfl, rfl⟩
  have left := wiped.change (t := (s.noteDeauth skb.data).wipeKeys.leaveDeauthenticated)
    (.deauthenticated isRx obeys (congrArg Link.wipeKeys same))
    (wiped.sound.of_buffers rfl nofun rfl) rfl
  exact .update (.fetch ((Walks.announces left).mono fun _ _ _ _ _ => trivial))

theorem processRxAuth_walks {skb : Skb} (walk : Walk observer op first s r)
    (same : s.link = first.1.link) :
    Walks observer op first (processRxAuth skb) s r fun _ _ _ => True := by
  refine .fetch (.andThen (.when walk (fun authenticating => ?_) fun _ => trivial)
    fun _ _ _ now => .updated (now.quiet rfl) trivial)
  refine .through (isQuiet_authenticationCancelled _) walk fun cancelled t now same' => .fetch ?_
  have authenticating : t.state = .authenticating :=
    (congrArg Link.state same').trans (of_decide_eq_true authenticating)
  have joined := congrArg Link.joined (same'.trans same)
  refine .when now (fun _ => ?_) fun _ => trivial
  refine .whenSome now (fun status _ => ?_) fun _ => trivial
  refine .ite (fun _ => doAssociate_walks now authenticating joined) fun _ => .updated ?_ trivial
  exact gaveUp_walk now (.inl authenticating) joined rfl

/-- What holds once a frame was handled. -/
structure RxEnds (first : Ieee80211 × γ) (skb : Skb) (t : Ieee80211) : Prop where
  agreement : EndsAgreement first skb t
  association : first.1.link.associates skb = true → EndsAssociation first t

theorem rxEnds_of_other {skb : Skb} (noAction : first.1.link.backAction skb = none)
    (noResponse : first.1.link.associates skb = false) (t : Ieee80211) : RxEnds first skb t :=
  ⟨endsAgreement_of_other noAction t, fun associates => by simp [noResponse] at associates⟩

theorem processRxMgmt_walks {skb : Skb} (isRx : op = .rxFrame skb)
    (walk : Walk observer op first s r) (same : s.link = first.1.link) (fresh : r = first.2)
    (long : 24 ≤ skb.data.length) (isMgmt : skb.data.isMgmt = true) :
    Walks observer op first (processRxMgmt skb) s r fun _ t _ => RxEnds first skb t := by
  generalize isType : skb.data.frameControl &&& 0x00f0 = stype
  have noAction : stype ≠ 0x00D0 → first.1.link.backAction skb = none := fun other =>
    if_neg fun conditions => other (isType.symm.trans conditions.2.2.1)
  have noResponse : stype ≠ 0x0010 → stype ≠ 0x0030 → first.1.link.associates skb = false :=
    fun other other' => decide_eq_false fun conditions =>
      conditions.2.2.1.elim (fun is => other (isType.symm.trans is))
        fun is => other' (isType.symm.trans is)
  have frees : Walks observer op first (Prog.update fun s => s.kfreeSkb skb) s r
      fun _ _ _ => True :=
    .updated (walk.quiet rfl) trivial
  have other : ∀ {program : M Unit}, stype ≠ 0x00D0 → stype ≠ 0x0010 → stype ≠ 0x0030 →
      Walks observer op first program s r (fun _ _ _ => True) →
      Walks observer op first program s r fun _ t _ => RxEnds first skb t :=
    fun notAction notAssoc notReassoc runs => runs.mono fun _ t _ _ _ =>
      rxEnds_of_other (noAction notAction) (noResponse notAssoc notReassoc) t
  unfold processRxMgmt
  rw [isType]
  refine .fetch (.ite (fun beacon => ?_) fun _ => .ite (fun auth => ?_) fun _ =>
    .ite (fun assoc => ?_) fun notAssoc => .ite (fun deauth => ?_) fun _ =>
    .ite (fun action => ?_) fun notAction => ?_)
  · refine other ?_ ?_ ?_ (.ite (fun _ => processScanResult_walks walk skb) fun _ => frees) <;>
      rcases beacon with rfl | rfl <;> decide
  · subst auth
    exact other (by decide) (by decide) (by decide) (processRxAuth_walks walk same)
  · have notAction : stype ≠ 0x00D0 := by rcases assoc with rfl | rfl <;> decide
    have ended := fun t => endsAgreement_of_other (noAction notAction) t
    refine .fetch (.ite (fun associating => ?_) fun notAssociating => ?_)
    · have associates : first.1.link.associates skb = true :=
        decide_eq_true ⟨long, isMgmt, isType ▸ assoc, same ▸ associating⟩
      refine (processAssocResponse_walks isRx associates walk associating
        (congrArg Link.joined same)).mono ?_
      exact fun _ t _ _ ends => ⟨ended t, fun _ => ends⟩
    · refine frees.mono fun _ t _ _ _ => rxEnds_of_other (noAction notAction) ?_ t
      rw [← same]
      exact decide_eq_false fun conditions => notAssociating conditions.2.2.2
  · refine other ?_ (notAssoc ∘ .inl) (notAssoc ∘ .inr)
      (processRxDeauth_walks isRx walk same ⟨long, isMgmt, isType ▸ deauth⟩)
    rcases deauth with rfl | rfl <;> decide
  · refine (processRxAction_walks isRx walk same fresh ⟨long, isMgmt, isType.trans action⟩).mono ?_
    have none := noResponse (notAssoc ∘ .inl) (notAssoc ∘ .inr)
    exact fun _ t _ _ ends => ⟨ends, fun associates => by simp [none] at associates⟩
  · exact other notAction (notAssoc ∘ .inl) (notAssoc ∘ .inr) frees

theorem rxFrame_walks {skb : Skb} (isRx : op = .rxFrame skb) (walk : Walk observer op first s r)
    (same : s.link = first.1.link) (fresh : r = first.2) :
    Walks observer op first (rxFrame skb) s r fun _ t _ => RxEnds first skb t := by
  have frees : ∀ t, Walk observer op first t r → (∀ u, RxEnds first skb u) →
      Walks observer op first (Prog.update fun s => s.kfreeSkb skb) t r fun _ t _ =>
        RxEnds first skb t :=
    fun t now other => .updated (now.quiet rfl) (other _)
  refine .ite (fun short => ?_) fun long => .update ?_
  · exact frees s walk (rxEnds_of_other (if_neg fun conditions => by omega)
      (decide_eq_false fun conditions => by omega))
  have counted : Walk observer op first (s.countRx skb) r := walk.quiet rfl
  refine .ite (fun isMgmt => ?_) fun notMgmt => ?_
  · exact processRxMgmt_walks isRx counted same fresh (Nat.le_of_not_lt long) isMgmt
  have other : ∀ t, RxEnds first skb t :=
    rxEnds_of_other (if_neg fun conditions => notMgmt conditions.2.1)
      (decide_eq_false fun conditions => notMgmt conditions.2.1)
  refine .ite (fun _ => ?_) fun _ => frees _ counted other
  refine .through (tryDeliverAWDLDataFrame_isQuiet skb) counted fun consumed t now _ => ?_
  refine .when now (fun _ => ?_) fun _ => other t
  exact (processRxData_walks now skb).mono fun _ _ _ _ _ => other _

/-! ## Transmission -/

theorem txDataFrame_walks {m m' : Mbuf} (isOutput : op = .outputPacket m')
    (walk : Walk observer op first s r) :
    Walks observer op first (txDataFrame m) s r fun _ _ _ => True := by
  have drops : ∀ t, Walk observer op first t r →
      Walks observer op first (dropMbuf m) t r fun _ _ _ => True := fun t now =>
    .lastly (dropMbuf_isQuiet m) now
  refine .fetch (.ite (fun _ => drops s walk) fun _ => .ite (fun _ => drops s walk) fun _ => ?_)
  refine .succeeds fun built => .ite (fun _ => drops s walk) fun _ => ?_
  refine .through allocSkb_isQuiet walk fun skb s walk _ => ?_
  cases skb with
  | none => exact drops s walk
  | some number =>
      refine .update (.fetch (.update ?_))
      generalize isCounted : s.bumpTxPn (Bytes.be16At (m.data.take 14) 12) = counted
      have isCountedLink : counted.link =
          { s with
            ccmpTxPn := counted.ccmpTxPn
            submitted := s.submitted }.link := by
        rw [← isCounted]
        rfl
      have counts : Walk observer op first counted r :=
        walk.change (.sent isOutput _ _) (isCounted ▸ walk.sound.bumpTxPn _) isCountedLink
      have numbered : Walk observer op first counted.bumpDataSeq r := counts.quiet rfl
      refine .through (copies_isQuiet _) numbered fun copied t now _ => ?_
      refine .ite (fun _ => .update (drops _ (now.quiet rfl))) fun _ => .update ?_
      have handed : Walk observer op first (t.handSkb number) r := now.quiet rfl
      have submits : ∀ skb,
          Walks observer op first (submit .data skb) (t.handSkb number) r fun _ _ _ => True := by
        intro skb
        have recorded : Walk observer op first ((t.handSkb number).recordTx skb) r :=
          handed.next (.sent isOutput t.ccmpTxPn (skb :: t.submitted)) (handed.sound.recordTx skb)
        exact .update ((Walks.perform rfl recorded).mono fun _ _ _ _ _ => trivial)
      exact (submits _).andThen fun _ _ _ now => .update (.ret (now.quiet rfl) trivial)

theorem outputPacket_walks {m : Mbuf} (isOutput : op = .outputPacket m)
    (walk : Walk observer op first s r) :
    Walks observer op first (outputPacket m) s r fun _ _ _ => True := by
  refine .fetch (.ite (fun _ => .update (.ret (walk.quiet rfl) trivial)) fun _ => ?_)
  exact (txDataFrame_walks isOutput walk).andThen fun _ _ _ now =>
    .ite (fun _ => .ret now trivial) fun _ => .ret now trivial

end M

/-! ## The operations -/

/-- What is known at the end of an operation. -/
structure Op.Finishes (op : Op) (first : Ieee80211 × γ) (t : Ieee80211) : Prop where
  received : ∀ skb, op = .rxFrame skb → M.RxEnds first skb t
  stopped : op = .stop → t.link.Stopped
  tornDown : op.tearsDown first.1.link = true → t.state = .idle

/-- Every operation stays on its walk. -/
theorem program_walks (op : Op) {s : Ieee80211} (sound : s.Sound) (r : γ) :
    Walks observer op (s, r) op.program s r fun _ t _ => op.Finishes (s, r) t := by
  have start : Walk observer op (s, r) s r := .start sound
  have leaves : ∀ {program : M IOReturn}, (∀ skb, op ≠ .rxFrame skb) → op ≠ .stop →
      Walks observer op (s, r) program s r (fun _ t _ =>
        op.tearsDown s.link = true → t.state = .idle) →
      Walks observer op (s, r) program s r fun _ t _ => op.Finishes (s, r) t :=
    fun notRx notStop runs => runs.mono fun _ _ _ _ tornDown =>
      ⟨fun skb isRx => absurd isRx (notRx skb), fun isStop => absurd isStop notStop, tornDown⟩
  have other : ∀ {program : M IOReturn}, (∀ skb, op ≠ .rxFrame skb) →
      op.tearsDown s.link ≠ true → op ≠ .stop →
      Walks observer op (s, r) program s r (fun _ _ _ => True) →
      Walks observer op (s, r) program s r fun _ t _ => op.Finishes (s, r) t :=
    fun notRx stays notStop runs => leaves notRx notStop
      (runs.mono fun _ _ _ _ _ tearsDown => absurd tearsDown stays)
  have returns : ∀ {body : M Unit}, Walks observer op (s, r) body s r (fun _ _ _ => True) →
      Walks observer op (s, r) (M.returning body) s r fun _ _ _ => True := fun runs =>
    runs.andThen fun _ _ _ now => .ret now trivial
  have reports : ∀ {body : M Bool}, M.IsQuiet body →
      Walks observer op (s, r) (M.reporting body) s r fun _ _ _ => True := fun isQuiet =>
    .through isQuiet start fun _ _ now _ =>
      .ite (fun _ => .ret now trivial) fun _ => .ret now trivial
  cases op with
  | rxFrame skb =>
      refine (M.rxFrame_walks rfl start rfl rfl).bind fun _ t r now ends =>
        .ret now ⟨?_, nofun, nofun⟩
      rintro _ ⟨⟩
      exact ends
  | scanDone aborted => exact other nofun nofun nofun (returns (M.scanDone_walks start rfl aborted))
  | timerFired deadline =>
      refine leaves nofun nofun (.bind ?_ fun _ _ _ now idle => .ret now idle)
      exact .update (M.onTimer_walks rfl (start.quiet rfl) rfl)
  | reorderTimerFired =>
      have flushed : Walk observer .reorderTimerFired (s, r)
          (s.cancelReorderTimer.leaveRxBa (rxReorderFlushStale s.rxBa)) r :=
        start.quiet (Ieee80211.link_leaveRxBa s fun _ => isSome_rxReorderFlushStale _ _)
      exact other nofun nofun nofun
        (returns (.update (.fetch (.update (M.deliverReleased_walks flushed _)))))
  | connectCall =>
      have dispatched : Walk observer .connectCall (s, r)
          (s.withConnectTC s.connectTC.dispatch) r := start.quiet rfl
      refine other nofun nofun nofun (returns
        (.fetch (.update (.andThen (.when dispatched ?_ ?_) ?_))))
      · exact fun _ => M.doAuthenticate_walks dispatched
      · exact fun _ => trivial
      · exact fun _ _ _ now => .updated (now.quiet rfl) trivial
  | manualScanCall =>
      have dispatched : Walk observer .manualScanCall (s, r)
          (s.withManualScanTC s.manualScanTC.dispatch) r := start.quiet rfl
      refine other nofun nofun nofun (returns
        (.fetch (.update (.andThen (.when dispatched ?_ ?_) ?_))))
      · exact fun _ => M.runManualScan_walks dispatched rfl
      · exact fun _ => trivial
      · exact fun _ _ _ now => .updated (now.quiet rfl) trivial
  | outputPacket m => exact other nofun nofun nofun (M.outputPacket_walks rfl start)
  | txRawManagementFrame frame =>
      exact other nofun nofun nofun (reports (M.txRawManagementFrame_isQuiet frame))
  | txAWDLDataFrame m => exact other nofun nofun nofun (reports (M.txAWDLDataFrame_isQuiet m))
  | cmdScan => exact other nofun nofun nofun (M.cmdScan_walks start rfl)
  | cmdConnect args => exact other nofun nofun nofun (M.cmdConnect_walks rfl start rfl rfl)
  | cmdDisconnect ticket => 
      exact leaves nofun nofun ((M.cmdDisconnect_walks rfl start rfl).mono
        fun _ _ _ _ idle _ => idle)
  | cmdPowerOn => exact other nofun nofun nofun (M.cmdPowerOn_walks start)
  | cmdPowerOff ticket => exact leaves nofun nofun (M.cmdPowerOff_walks rfl start rfl)
  | cmdInstallExternalKey pairwise keyidx cipher key =>
      exact other nofun nofun nofun (M.cmdInstallExternalKey_walks start pairwise keyidx cipher key)
  | cmdSetAssocRsnIE ie =>
      exact other nofun nofun nofun (.lastly (M.cmdSetAssocRsnIE_isQuiet ie) start)
  | setReceiveMulticast active =>
      exact other nofun nofun nofun (.lastly (M.setReceiveMulticast_isQuiet active) start)
  | setAWDLReceiveMode active =>
      exact other nofun nofun nofun (.lastly (M.setAWDLReceiveMode_isQuiet active) start)
  | setAWDLChannel channel =>
      exact other nofun nofun nofun (.lastly (M.setAWDLChannel_isQuiet channel) start)
  | powerOn => exact other nofun nofun nofun (M.powerOn_walks start)
  | powerOff =>
      exact other nofun nofun nofun
        (returns ((M.powerOff_walks start (.inl rfl)).mono fun _ _ _ _ _ => trivial))
  | stop =>
      exact (M.stop_walks rfl start rfl).bind fun _ _ _ now stopped =>
        .ret now ⟨nofun, fun _ => stopped, fun _ => stopped.state⟩

/-- An operation that starts in a state with `holds`, as far as the observer admits it. -/
structure Begins (observer : LinkObserver γ) (holds : Ieee80211 → γ → Prop) (op : Op)
    (first : Ieee80211 × γ) : Prop where
  sound : first.1.Sound
  enabled : op.enabled first.1 = true
  before : ∃ r, holds first.1 r ∧ observer.starts op first.1.link r ∧
    first.2 = observer.begins op first.1.link r

/-- The rule for invariants of the watched runs of the driver: what every walk of an operation
keeps holds between the operations, and in between a walk is under way. -/
theorem watched_walks {holds : Ieee80211 → γ → Prop}
    (kept : ∀ op first t r, Begins observer holds op first → Walk observer op first t r →
      op.Finishes first t → holds t r)
    {s : Ieee80211} {r : γ} (sound : s.Sound) (initially : holds s r) {now : DriverConfig × γ}
    (run : rtw88.Watched observer.watch (⟨s, []⟩, r) now) :
    (now.1.threads = [] ∧ now.1.state.Sound ∧ holds now.1.state now.2) ∨
      now.1.threads ≠ [] ∧
        ∃ op first, Begins observer holds op first ∧ Walk observer op first now.1.state now.2 := by
  have underway : rtw88.Underway observer.watch
      (fun _ s r => ∃ op first, Begins observer holds op first ∧ Walk observer op first s r)
      (fun s r => s.Sound ∧ holds s r) now := by
    refine System.Watched.underway ?_ (.inl ⟨rfl, sound, initially⟩) run
    intro op s r enabled starts held
    have begins : Begins observer holds op (s, observer.begins op s.link r) :=
      ⟨held.1, enabled, r, held.2, starts, rfl⟩
    refine (program_walks op held.1 _).ends.mono ?_ ?_
    · exact fun _ _ _ walk => ⟨op, _, begins, walk⟩
    · exact fun _ t r ends => ⟨ends.1.sound, kept op _ t r begins ends.1 ends.2⟩
  rcases underway with ⟨idle, held⟩ | ⟨thread, busy, safe, -⟩
  · exact .inl ⟨idle, held⟩
  · exact .inr ⟨by simp [busy], safe⟩

theorem watched_idle {holds : Ieee80211 → γ → Prop}
    (kept : ∀ op first t r, Begins observer holds op first → Walk observer op first t r →
      op.Finishes first t → holds t r)
    {s : Ieee80211} {r : γ} (sound : s.Sound) (initially : holds s r) {now : DriverConfig × γ}
    (run : rtw88.Watched observer.watch (⟨s, []⟩, r) now) (idle : now.1.threads = []) :
    now.1.state.Sound ∧ holds now.1.state now.2 :=
  (watched_walks kept sound initially run).elim And.right fun busy => absurd idle busy.1

end

end AirportRtw88
