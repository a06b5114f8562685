import AirportRtw88.LinkSteps

/-!
# The walks of the functions

Every function of the class stays on the walk of the operation that calls it.
-/

namespace AirportRtw88

open Interleave Bytes

section

variable {γ : Type} {observer : LinkObserver γ} {op : Op} {first : Ieee80211 × γ}
  {s t : Ieee80211} {r : γ}

namespace Walks

variable {α : Type} {post : α → Ieee80211 → γ → Prop}

theorem ite {condition : Prop} [Decidable condition] {yes no : M α}
    (first' : condition → Walks observer op first yes s r post)
    (second : ¬ condition → Walks observer op first no s r post) :
    Walks observer op first (if condition then yes else no) s r post := by
  split
  · exact first' ‹_›
  · exact second ‹_›

theorem when {condition : Bool} {body : M Unit} {post : Unit → Ieee80211 → γ → Prop}
    (walk : Walk observer op first s r)
    (runs : condition = true → Walks observer op first body s r post)
    (skips : condition = false → post () s r) :
    Walks observer op first (Prog.when condition body) s r post :=
  .ite runs fun no => .ret walk (skips (Bool.eq_false_of_not_eq_true no))

theorem whenSome {value : Option α} {body : α → M Unit} {post : Unit → Ieee80211 → γ → Prop}
    (walk : Walk observer op first s r)
    (runs : ∀ content, value = some content → Walks observer op first (body content) s r post)
    (skips : value = none → post () s r) :
    Walks observer op first (Prog.whenSome value body) s r post := by
  cases value with
  | none => exact .ret walk (skips rfl)
  | some content => exact runs content rfl

theorem choose {rest : Answer → M α}
    (runs : ∀ answer, Walks observer op first (rest answer) s r post) :
    Walks observer op first (Prog.choose.bind rest) s r post :=
  ⟨fun answer => (runs answer).ends⟩

theorem succeeds {rest : Bool → M α} (runs : ∀ ok, Walks observer op first (rest ok) s r post) :
    Walks observer op first (M.succeeds.bind rest) s r post :=
  ⟨fun _ => (runs _).ends⟩

/-- The last write of a function. -/
theorem updated {change : Ieee80211 → Ieee80211} {post : Unit → Ieee80211 → γ → Prop}
    (walk : Walk observer op first (change s) r) (holds : post () (change s) r) :
    Walks observer op first (Prog.update change) s r post :=
  ⟨walk, holds⟩

/-- A request that is not seen. -/
theorem await {call : Call} {rest : Answer → M α} (unseen : call.sight = none)
    (walk : Walk observer op first s r)
    (runs : ∀ answer, Walks observer op first (rest answer) s r post) :
    Walks observer op first ((Prog.await call).bind rest) s r post := by
  have same : observer.watch.notes call s r = r := by simp [LinkObserver.watch, unseen]
  refine ⟨?_⟩
  rw [Prog.ends_bind, Prog.ends_await, same]
  exact ⟨walk, fun _ _ answer => (runs answer).ends⟩

theorem perform {call : Call} (unseen : call.sight = none) (walk : Walk observer op first s r) :
    Walks observer op first (M.perform call) s r fun _ t r' => t = s ∧ r' = r :=
  .await unseen walk fun _ => .ret walk ⟨rfl, rfl⟩

/-- The published status, if there is a parent. -/
theorem announces {active : Bool} (walk : Walk observer op first s
      (observer.announce (some active) s r)) :
    Walks observer op first (Prog.when s.parent (M.perform (.setLinkStatus active))) s r
      fun _ t r' => t = s ∧ r' = observer.announce (some active) s r := by
  unfold LinkObserver.announce at *
  refine .ite (fun parent => ?_) fun none => ?_
  · simp only [parent, if_true] at *
    exact ⟨walk, fun _ _ _ => ⟨walk, rfl, rfl⟩⟩
  · simp only [none, Bool.false_eq_true, if_false] at *
    exact .ret walk ⟨rfl, rfl⟩

end Walks

namespace M

/-! ## Keys and BlockAck requests -/

theorem clearKeys_walks (walk : Walk observer op first s r) :
    Walks observer op first clearKeys s r fun _ t r' => t = s.wipeKeys ∧ r' = r := by
  have disables : ∀ pairwise, Walks observer op first (disableKey pairwise) s r
      fun _ t r' => t = s ∧ r' = r := fun pairwise =>
    .fetch (.whenSome walk (fun key _ => .perform rfl walk) fun _ => ⟨rfl, rfl⟩)
  have wiped : Walk observer op first s.wipeKeys r :=
    walk.next .wiped (Ieee80211.sound_of_steady (Ieee80211.steady_wipeKeys s) walk.sound)
  have bothDisabled : Walks observer op first
      (Prog.when (s.powered && s.hasOp Ops.setKey) (do disableKey true; disableKey false)) s r
      fun _ t r' => t = s ∧ r' = r := by
    refine .when walk (fun _ => (disables true).bind ?_) fun _ => ⟨rfl, rfl⟩
    rintro _ _ _ _ ⟨rfl, rfl⟩
    exact disables false
  refine .fetch (bothDisabled.bind ?_)
  rintro _ _ _ _ ⟨rfl, rfl⟩
  exact .updated wiped ⟨rfl, rfl⟩

theorem releaseSta_walks (walk : Walk observer op first s r)
    (leaves : s.state = .idle ∨ op = .stop ∨ op.tearsDown first.1.link = true) :
    Walks observer op first releaseSta s r fun _ t r' => t = s.withoutSta ∧ r' = r := by
  refine .fetch (.when walk (fun present => ?_) fun absent => ?_)
  · have released : s.withoutSta = s.forgetSta.rxBaTeardownAll := if_pos present
    have removes : Walks observer op first
        (Prog.when (s.hasOp Ops.staRemove && s.vif.isSome) (perform .staRemove)) s r
        fun _ t r' => t = s ∧ r' = r :=
      .when walk (fun _ => .perform rfl walk) fun _ => ⟨rfl, rfl⟩
    refine removes.bind ?_
    rintro _ _ _ _ ⟨rfl, rfl⟩
    refine .updated ?_ ⟨released.symm, rfl⟩
    exact released ▸ walk.next (.released leaves) (released ▸ walk.sound.keep rfl)
  · exact ⟨(if_neg (by simp [absent])).symm, rfl⟩

/-- A key slot is emptied, and filled if the driver accepts the key. -/
theorem installKey_walks (walk : Walk observer op first s r) (pairwise : Bool) (keyidx : UInt8)
    (cipher : Nat) (tk : Ieee80211 → Bytes) (tkLen : Nat)
    (empties : Change observer op first (s, r) (s.setKeySlot pairwise none) none)
    (fills : ∀ t key, t.link.unkeyed = s.link.unkeyed → key.key = (tk t).take tkLen →
      Change observer op first (t, r) ((t.setKeySlot pairwise (some key)).resetTxPn pairwise)
        none) :
    Walks observer op first (installKey pairwise keyidx cipher tk tkLen) s r fun _ t r' =>
      t.link.unkeyed = s.link.unkeyed ∧ r' = r := by
  refine .fetch (.ite (fun _ => .ret walk ⟨rfl, rfl⟩) fun _ => ?_)
  have disables : Walks observer op first (Prog.whenSome (s.keySlot pairwise) fun old => do
      perform (.setKey .installKey false pairwise old)
      Prog.update fun s => s.setKeySlot pairwise none) s r
      fun _ t r' => t.link.unkeyed = s.link.unkeyed ∧ r' = r := by
    refine .whenSome walk (fun old _ => (Walks.perform rfl walk).bind ?_) fun _ => ⟨rfl, rfl⟩
    rintro _ _ _ _ ⟨rfl, rfl⟩
    exact .updated (walk.next empties (walk.sound.keep rfl)) ⟨rfl, rfl⟩
  refine disables.bind ?_
  rintro _ t _ now ⟨same, rfl⟩
  refine .succeeds fun allocated => .ite (fun _ => .ret now ⟨same, rfl⟩) fun _ => .fetch ?_
  refine .await rfl now fun answer => .ite (fun _ => .ret now ⟨same, rfl⟩) fun _ => .update ?_
  have sound := now.sound
  refine .ret (now.next (fills t _ same rfl) ?_) ⟨same, rfl⟩
  cases pairwise
  · exact sound.keep rfl
  · exact ⟨⟨sound.scans, sound.connects⟩, sound.macAddr, sound.target, sound.cache, rfl⟩

/-- A BlockAck frame is seen. -/
theorem txBlockAck_walks (walk : Walk observer op first s r) (frame : Bytes)
    (requests : frame.byte 24 = 3 → frame.byte 25 = 0 →
      s.link.state = .connected ∧ s.link.sta.isSome = true) :
    Walks observer op first (txMgmtFrame .blockAck frame) s r fun _ t _ => t.link = s.link := by
  refine .fetch (.ite (fun _ => .ret walk rfl) fun _ => .succeeds fun built => ?_)
  refine .ite (fun _ => .ret walk rfl) fun _ => ?_
  have submits : ∀ skb : TxSkb, skb.hwKey = none → skb.data = frame →
      Walks observer op first (submit .blockAck skb) s r fun _ t _ => t.link = s.link := by
    intro skb bare data
    have recorded := Ieee80211.link_recordTx s bare
    have seen : Walk observer op first (s.recordTx skb)
        (observer.sees (.agreement skb) (s.recordTx skb).link r) := by
      refine ⟨walk.sound.of_link recorded, (walk.quiet recorded).path.tail (.agrees skb ?_)⟩
      intro isRequest
      obtain ⟨category, action⟩ := of_decide_eq_true isRequest
      exact recorded ▸ requests (data ▸ category) (data ▸ action)
    exact .update ⟨seen, fun _ _ _ => ⟨seen, recorded⟩⟩
  exact (submits _ rfl rfl).bind fun _ _ _ now same => .ret now same

theorem startTxAggregation_walks (walk : Walk observer op first s r)
    (connected : s.state = .connected) :
    Walks observer op first startTxAggregation s r fun _ t _ => t.state = .connected := by
  refine .fetch
    (.when walk (fun starts => .fetch (.update (.update (.fetch ?_)))) fun _ => connected)
  have present : s.sta.isSome = true := by
    cases absent : s.sta <;> simp_all
  have numbered : Walk observer op first s.bumpTxSeq r := walk.quiet rfl
  have bumped : Walk observer op first s.bumpTxSeq.bumpBaDialog r :=
    numbered.next (.dialog connected) (numbered.sound.keep rfl)
  refine (txBlockAck_walks bumped _ fun _ _ => ⟨connected, present⟩).bind fun _ t _ now same =>
    .ret now ?_
  exact (congrArg Link.state same).trans connected

theorem sendAddbaResponse_walks (walk : Walk observer op first s r)
    (tid dialog reqParam baTimeout : Nat) :
    Walks observer op first (sendAddbaResponse tid dialog reqParam baTimeout) s r fun _ t _ =>
      t.link = s.link := by
  have numbered : Walk observer op first s.bumpTxSeq r := walk.quiet rfl
  have whole := Ieee80211.length_mgmtHeader walk.sound.macAddr walk.sound.target stypeAction
  refine .fetch (.update ((txBlockAck_walks numbered _ ?_).bind fun _ _ _ now same =>
    .ret now same))
  intro _ request
  rw [Ieee80211.action_addbaResponse whole] at request
  cases request

/-! ## Scans -/

theorem processScanResult_walks (walk : Walk observer op first s r) (skb : Skb) :
    Walks observer op first (processScanResult skb) s r fun _ _ _ => True := by
  have adds : Walks observer op first (Prog.when (24 + 12 ≤ skb.data.length) do
      let allocated ← succeeds
      Prog.when allocated do
        Prog.update fun s => s.addBss (beaconBss skb s.scanGeneration)) s r fun _ _ _ => True := by
    refine .when walk (fun long => .succeeds fun allocated => ?_) fun _ => trivial
    refine .when walk (fun _ => .updated ?_ trivial) fun _ => trivial
    have address := length_bssid_beaconBss (of_decide_eq_true long) s.scanGeneration
    exact walk.change (.cached _)
      (Ieee80211.sound_of_steady (Ieee80211.steady_addBss s address) walk.sound) rfl
  exact adds.bind fun _ _ _ now _ => .updated (now.quiet rfl) trivial

/-- A scan is left for the idle state. -/
theorem leftScan_walk (walk : Walk observer op first s r) (scanning : s.state = .scanning)
    (joined : s.link.joined = first.1.link.joined) {left : Ieee80211}
    (leaves : left.link = s.becomeIdle.link) : Walk observer op first left r :=
  walk.change (.gaveUp (.inl scanning) joined)
    ((walk.sound.of_buffers (t := s.becomeIdle) rfl nofun rfl).of_link leaves) leaves

theorem leaveActiveScan_walks (walk : Walk observer op first s r)
    (joined : s.link.joined = first.1.link.joined) :
    Walks observer op first leaveActiveScan s r fun _ _ _ => True := by
  refine .fetch (.when walk (fun scanning => ?_) fun _ => trivial)
  have scanning := of_decide_eq_true scanning
  dsimp only
  rw [walk.sound.scans]
  refine .through (.when restoreConnectedChannel_isQuiet) walk fun _ t now same => ?_
  have state : t.state = .scanning := (congrArg Link.state same).trans scanning
  have left : Walk observer op first (t.finishScan .idle) r :=
    leftScan_walk now state ((congrArg Link.joined same).trans joined) rfl
  refine .update (.fetch (.when left (fun _ => ?_) fun _ => trivial))
  exact .through (setAWDLChannel_isQuiet _) left fun _ _ now _ => .ret now trivial

theorem scanDone_walks (walk : Walk observer op first s r)
    (joined : s.link.joined = first.1.link.joined) (aborted : Bool) :
    Walks observer op first (scanDone aborted) s r fun _ _ _ => True := by
  have prunes : Walks observer op first
      (Prog.when (!aborted) (Prog.update Ieee80211.pruneBssList)) s r fun _ t r' =>
        t.link.joined = s.link.joined := by
    refine .when walk (fun _ => .updated ?_ rfl) fun _ => rfl
    exact walk.change (.cached _)
      (Ieee80211.sound_of_steady (Ieee80211.steady_pruneBssList s) walk.sound) rfl
  refine prunes.bind fun _ t _ now same => ?_
  refine (leaveActiveScan_walks now (same.trans joined)).bind fun _ t _ now _ => .fetch ?_
  exact .when now (fun _ => (Walks.perform rfl now).mono fun _ _ _ _ _ => trivial) fun _ => trivial

theorem leaveAbortedScan_walks (walk : Walk observer op first s r)
    (joined : s.link.joined = first.1.link.joined) :
    Walks observer op first (leaveAbortedScan .idle) s r fun left t r' => r' = r ∧
      (left = true → t.link = if s.state = .scanning then s.becomeIdle.link else s.link) := by
  refine .fetch
    (.ite (fun scanning => .ite (fun _ => .ret walk ⟨rfl, nofun⟩) fun _ => ?_) fun other => ?_)
  · refine .through (.when restoreConnectedChannel_isQuiet) walk fun _ t now same => ?_
    have state : t.state = .scanning := (congrArg Link.state same).trans scanning
    have left : Walk observer op first (t.giveUpScan .idle) r :=
      leftScan_walk now state ((congrArg Link.joined same).trans joined) rfl
    refine .update (.fetch (.ret left ⟨rfl, fun _ => ?_⟩))
    rw [if_pos scanning]
    exact congrArg Link.becomeIdle same
  · exact .ret walk ⟨rfl, fun _ => by rw [if_neg other]⟩

theorem abortActiveScan_walks (walk : Walk observer op first s r)
    (joined : s.link.joined = first.1.link.joined) :
    Walks observer op first (abortActiveScan true) s r fun left t r' => r' = r ∧
      (left = true → t.link = if s.state = .scanning then s.becomeIdle.link else s.link) ∧
      (left = false → s.state = .scanning) := by
  refine .fetch (.ite (fun other => .ret walk ⟨rfl, fun _ => (if_neg other).symm, nofun⟩) ?_)
  intro scanning
  have waits : ∀ t : Ieee80211, Walk observer op first t r → t.link = s.link →
      Walks observer op first (do
        waitForScan 40
        leaveAbortedScan .idle) t r fun left t r' => r' = r ∧
      (left = true → t.link = if s.state = .scanning then s.becomeIdle.link else s.link) ∧
      (left = false → s.state = .scanning) := by
    intro t now same
    refine .through (waitForScan_isQuiet 40) now fun _ u now same' => ?_
    have same := same'.trans same
    refine (leaveAbortedScan_walks now ((congrArg Link.joined same).trans joined)).mono ?_
    rintro left v _ _ ⟨rfl, leaves⟩
    refine ⟨rfl, fun isLeft => (leaves isLeft).trans ?_, fun _ => not_not.mp scanning⟩
    rw [show u.state = s.state from congrArg Link.state same, Ieee80211.link_becomeIdle, same]
    rfl
  rw [walk.sound.scans]
  refine .ite (fun _ => .update (waits _ (walk.quiet rfl) rfl)) fun _ => ?_
  have cancels : Walks observer op first
      (Prog.when (s.hasOp Ops.cancelHwScan) (perform .cancelHwScan)) s r
      fun _ t r' => t = s ∧ r' = r :=
    .when walk (fun _ => .perform rfl walk) fun _ => ⟨rfl, rfl⟩
  refine cancels.bind ?_
  rintro _ _ _ now ⟨rfl, rfl⟩
  exact waits _ now rfl

theorem refuseScan_walks (walk : Walk observer op first s r) (scanning : s.state = .scanning)
    (joined : s.link.joined = first.1.link.joined) (reason : IOReturn) :
    Walks observer op first (refuseScan .idle reason) s r fun _ _ _ => True :=
  .update (.ret (leftScan_walk walk scanning joined rfl) trivial)

theorem startScan_walks (walk : Walk observer op first s r) (scanning : s.state = .scanning)
    (joined : s.link.joined = first.1.link.joined) :
    Walks observer op first (startScan .idle) s r fun _ _ _ => True := by
  refine .fetch (.ite (fun _ => refuseScan_walks walk scanning joined _) fun _ => ?_)
  have logged : Walk observer op first { s with manualScanFallbackLogged := true } r :=
    walk.quiet rfl
  refine .succeeds fun offload => .ite (fun _ => .update ?_) fun _ => ?_
  · exact .lastly (startManualScan_isQuiet _) logged
  · exact .lastly (startHwScan_isQuiet _) walk

theorem cmdScan_walks (walk : Walk observer op first s r)
    (joined : s.link.joined = first.1.link.joined) :
    Walks observer op first cmdScan s r fun _ _ _ => True := by
  refine .fetch (.ite (fun _ => .ret walk trivial) fun idle => .ite (fun _ => .ret walk trivial) ?_)
  intro ready
  have idle := not_not.mp idle
  obtain ⟨powered, hw⟩ : s.powered = true ∧ s.hw.isSome = true := by
    cases hw : s.hw <;> simp_all
  have aged : Walk observer op first s.nextGeneration r := walk.change (.cached _)
    (Ieee80211.sound_of_steady (Ieee80211.steady_nextGeneration s) walk.sound) rfl
  have began : Walk observer op first
      { s.nextGeneration.setState .scanning with scanReturnState := .idle } r :=
    aged.change (.scanBegan idle powered hw)
      (aged.sound.of_buffers rfl nofun rfl)
      (congrArg (fun back => { (s.nextGeneration.setState .scanning).link with
        scanReturnState := back }) walk.sound.scans.symm)
  refine .update ?_
  simp only [idle, reduceCtorEq, if_false]
  refine .ite (fun _ => startScan_walks began rfl joined) fun _ => .succeeds fun allocated => ?_
  refine .ite (fun _ => .update (startScan_walks (began.quiet rfl) rfl joined)) fun _ => ?_
  exact refuseScan_walks began rfl joined _

theorem runManualScan_walks (walk : Walk observer op first s r)
    (joined : s.link.joined = first.1.link.joined) :
    Walks observer op first runManualScan s r fun _ _ _ => True := by
  have ends : ∀ (t : Ieee80211) (aborted : Bool) (abort : Ieee80211 → Bool),
      Walk observer op first t r → t.link.joined = first.1.link.joined →
      Walks observer op first (do
        scanDone aborted
        Prog.update fun s => s.endManualScan (abort s)) t r fun _ _ _ => True := by
    intro t aborted abort now joined
    exact (scanDone_walks now joined aborted).bind fun _ _ _ now _ =>
      .updated (now.quiet rfl) trivial
  refine .fetch (.ite (fun _ => ends s true Ieee80211.manualScanAbort walk joined) fun _ => ?_)
  refine .through (isQuiet_perform fun _ => trivial) walk fun _ t now same => ?_
  refine .through (scanChannels_isQuiet _ _ _) now fun _ u now same' => .update ?_
  have home : Walk observer op first (u.setOnHomeChannel false) r := now.quiet rfl
  refine .through (isQuiet_perform fun _ => trivial) home fun _ v now same'' => ?_
  refine .through (.when (.bind restoreConnectedChannel_isQuiet fun _ =>
    .bind (txNullFunc_isQuiet _) fun _ => .ret _)) now fun _ w now last => .fetch ?_
  have unchanged : w.link = s.link := last.trans (same''.trans (same'.trans same))
  exact ends w _ (fun _ => false) now ((congrArg Link.joined unchanged).trans joined)

theorem scanTimeout_walks (walk : Walk observer op first s r) (scanning : s.state = .scanning)
    (joined : s.link.joined = first.1.link.joined) :
    Walks observer op first scanTimeout s r fun _ _ _ => True := by
  refine .fetch (.ite (fun _ => .updated (walk.quiet rfl) trivial) fun _ => ?_)
  refine .through (.when (isQuiet_perform fun _ => trivial)) walk fun _ t now same => .fetch ?_
  dsimp only
  rw [now.sound.scans]
  refine .through (.when restoreConnectedChannel_isQuiet) now fun _ u now same' => ?_
  have unchanged := same'.trans same
  exact .updated (leftScan_walk now ((congrArg Link.state unchanged).trans scanning)
    ((congrArg Link.joined unchanged).trans joined) rfl) trivial

/-! ## The handshake -/

/-- The handling of a frame goes on as long as only keys are installed. -/
theorem shaking_of_unkeyed {skb : Skb} (shaking : Shaking observer skb s r)
    (same : t.link.unkeyed = s.link.unkeyed) : Shaking observer skb t r := by
  obtain ⟨before, earlier, seen, allowed, unkeyed⟩ := shaking.seen
  refine ⟨?_, ?_, shaking.eapol, before, earlier, seen, allowed, same.trans unkeyed⟩
  · exact (congrArg Link.state same).trans shaking.state
  · exact (congrArg Link.externalSupplicant same).trans shaking.internal

/-- The state machine becomes connected, and publishes it. -/
theorem publishes_walks {tail : M Unit} {post : Unit → Ieee80211 → γ → Prop} {connected : Ieee80211}
    (walk : Walk observer op first connected (observer.announce (some true) connected r))
    (runs : Walks observer op first tail connected
      (observer.announce (some true) connected r) post) :
    Walks observer op first (do
      let s ← Prog.fetch
      Prog.when s.parent (perform (.setLinkStatus true))
      tail) connected r post := by
  refine .fetch ((Walks.announces walk).bind ?_)
  rintro _ _ _ _ ⟨rfl, rfl⟩
  exact runs

theorem completeHandshake_walks {skb : Skb} (walk : Walk observer op first s r)
    (shaking : Shaking observer skb s r) (m3 : skb.VerifiesM3 s.kck) :
    Walks observer op first completeHandshake s r fun _ _ _ => True := by
  refine .fetch (.through (sendEAPOLKey_isQuiet _ _ _ _ _) walk fun _ t now same => .update ?_)
  have shaking := shaking_of_unkeyed shaking (congrArg Link.unkeyed same)
  have m3 : skb.VerifiesM3 t.kck := by
    rwa [show t.kck = s.kck from congrArg (fun l : Link => l.ptk.take 16) same]
  have connected := now.change (t := (t.setState .connected).cancelTimeout) (.completed shaking m3)
    (now.sound.of_buffers now.sound.scans nofun rfl) rfl
  refine publishes_walks connected ?_
  exact (startTxAggregation_walks connected rfl).mono fun _ _ _ _ _ => trivial

theorem installHandshakeKeys_walks {skb : Skb} (walk : Walk observer op first s r)
    (shaking : Shaking observer skb s r) (m3 : skb.VerifiesM3 s.kck) (gtk : Option GtkKde) :
    Walks observer op first (installHandshakeKeys gtk) s r fun _ _ _ => True := by
  have verifies : ∀ {t : Ieee80211}, t.link.unkeyed = s.link.unkeyed → skb.VerifiesM3 t.kck := by
    intro t same
    rwa [show t.kck = s.kck from congrArg (fun l : Link => l.ptk.take 16) same]
  refine (installKey_walks walk true 0 cipherCcmp Ieee80211.tk 16 (.emptied _ (.inl shaking.state))
    fun t key same derived => .keyed (shaking_of_unkeyed shaking same) (verifies same) _ _
      fun _ => derived).bind ?_
  rintro installed t _ now ⟨same, rfl⟩
  refine .when now (fun _ => .fetch ?_) fun _ => trivial
  have shaking := shaking_of_unkeyed shaking same
  have m3 := verifies same
  dsimp only
  split
  · exact completeHandshake_walks now shaking m3
  · refine (installKey_walks now false _ _ _ _ (.emptied _ (.inl shaking.state)) ?_).bind ?_
    · intro u key same' _
      exact .keyed (shaking_of_unkeyed shaking same') (verifies (same'.trans same)) _ _ nofun
    · rintro grouped u _ both ⟨same', rfl⟩
      exact .when both (fun _ => completeHandshake_walks both (shaking_of_unkeyed shaking same')
        (verifies (same'.trans same))) fun _ => trivial

theorem handleEAPOL_walks {skb : Skb} (walk : Walk observer op first s r)
    (shaking : Shaking observer skb s r) :
    Walks observer op first (handleEAPOL skb.eapol) s r fun _ _ _ => True := by
  unfold handleEAPOL
  refine .when walk (fun key => ?_) fun _ => trivial
  refine Walks.ite (fun isM1 => ?_) fun notM1 => ?_
  · unfold handleM1
    refine Walks.choose fun random => ?_
    generalize (random.bytes ++ zeros 32).take 32 = snonce
    have accepted : Walk observer op first (s.acceptM1 skb.eapol snonce) r :=
      walk.next (.m1 shaking key isM1 _) (walk.sound.keep rfl)
    refine Walks.update (Walks.fetch ?_)
    refine .through (sendEAPOLKey_isQuiet _ _ _ _ _) accepted fun _ t now same => ?_
    exact .updated (now.quiet rfl) trivial
  · refine .when walk (fun isM3 => ?_) fun _ => trivial
    have verifies : Walks observer op first (eapolMicOk s.kck skb.eapol.eapolFrame) s r
        fun ok t r' => (t = s ∧ r' = r) ∧
          (ok = true → eapolMicMatches s.kck skb.eapol.eapolFrame = true) := by
      refine .ite (fun _ => .ret walk ⟨⟨rfl, rfl⟩, nofun⟩) fun _ => .succeeds fun allocated => ?_
      refine .ite (fun _ => .ret walk ⟨⟨rfl, rfl⟩, nofun⟩) fun _ => ?_
      exact .ret walk ⟨⟨rfl, rfl⟩, id⟩
    unfold handleM3
    refine .fetch (verifies.bind ?_)
    rintro verified s r walk ⟨⟨rfl, rfl⟩, code⟩
    refine .when walk (fun checked => ?_) fun _ => trivial
    refine .whenSome walk (fun keyData _ => .update ?_) fun _ => trivial
    have m3 : skb.VerifiesM3 s.kck := ⟨key, Bool.eq_false_of_not_eq_true notM1, isM3,
      code (Bool.and_eq_true_iff.mp checked).1⟩
    have accepted : Walk observer op first (s.acceptM3 skb.eapol) r := walk.quiet rfl
    exact installHandshakeKeys_walks accepted (shaking_of_unkeyed shaking rfl) m3 _

/-! ## Disconnecting and power -/

theorem tearDownLink_walks (walk : Walk observer op first s r)
    (tearsDown : op.tearsDown first.1.link = true) :
    Walks observer op first tearDownLink s r fun _ t r' => t.link = s.link.tornDown ∧ r' = r := by
  refine (clearKeys_walks walk).bind ?_
  rintro _ _ r wiped ⟨rfl, rfl⟩
  refine .fetch (.through (txMgmtFrame_isQuiet .deauth _ fun _ _ => trivial) wiped ?_)
  intro _ t now same
  have left : Walk observer op first (t.modifyVif fun vif => { vif with assoc := false }) r :=
    now.next .unassociated (now.sound.keep rfl)
  refine .update (.fetch (.through (.when (isQuiet_perform fun _ => trivial)) left ?_))
  intro _ u now same'
  refine (releaseSta_walks now (.inr (.inr tearsDown))).mono ?_
  rintro _ _ _ _ ⟨rfl, rfl⟩
  refine ⟨?_, rfl⟩
  rw [Ieee80211.link_withoutSta, same']
  exact congrArg (fun l : Link =>
    ({ l with vif := l.vif.map fun vif => { vif with assoc := false } } : Link).withoutSta) same

theorem doDisconnect_walks (walk : Walk observer op first s r) (same : s.link = first.1.link)
    (tearsDown : op.tearsDown first.1.link = true) :
    Walks observer op first doDisconnect s r fun _ t _ => t.state = .idle := by
  refine .fetch (.ite (fun gone => ?_) fun _ => ?_)
  · have gone : s.hw.isNone = true ∨ s.vif.isNone = true := Bool.or_eq_true_iff.mp gone
    exact .updated (walk.next (.abandoned same gone) (walk.sound.of_buffers rfl nofun rfl)) rfl
  · refine (tearDownLink_walks walk tearsDown).bind ?_
    rintro _ t r torn ⟨same', rfl⟩
    have left := torn.change (t := t.becomeIdle.cancelTimeout)
      (.disconnected tearsDown (same'.trans (congrArg Link.tornDown same)))
      (torn.sound.of_buffers rfl nofun rfl) rfl
    refine .update (.fetch ((Walks.announces left).mono ?_))
    rintro _ _ _ _ ⟨rfl, -⟩
    rfl

theorem cmdDisconnect_walks {ticket : Nat} (isDisconnect : op = .cmdDisconnect ticket)
    (walk : Walk observer op first s r) (same : s.link = first.1.link) :
    Walks observer op first cmdDisconnect s r fun _ t _ => t.state = .idle := by
  refine .through cancelAuthentication_isQuiet walk fun _ t now same' => .fetch ?_
  have same := same'.trans same
  have leaves : Walks observer op first (Prog.when (decide (t.state ≠ .idle)) doDisconnect) t r
      fun _ t _ => t.state = .idle := by
    refine .when now (fun busy => doDisconnect_walks now same ?_) fun idle => ?_
    · rw [isDisconnect, ← same]
      exact busy
    · exact not_not.mp (of_decide_eq_false idle)
  exact leaves.bind fun _ _ _ now idle => .ret now idle

theorem powerOn_walks (walk : Walk observer op first s r) :
    Walks observer op first powerOn s r fun _ _ _ => True := by
  refine .fetch (.ite (fun _ => .ret walk trivial) fun _ => .ite (fun _ => .ret walk trivial) ?_)
  refine fun starts => .await rfl walk fun answer => .ite (fun _ => .ret walk trivial) fun _ => ?_
  have hw : s.hw.isSome = true := by
    cases known : s.hw <;> simp_all [Ieee80211.hasOp]
  have powered : Walk observer op first (s.withPowered true) r :=
    walk.next (.poweredOn hw) (walk.sound.keep rfl)
  exact .update (.fetch (.lastly (setReceiveMulticast_isQuiet _) powered))

theorem cmdPowerOn_walks (walk : Walk observer op first s r) :
    Walks observer op first cmdPowerOn s r fun _ _ _ => True := by
  refine (powerOn_walks walk).bind fun ret t _ now _ => .fetch ?_
  refine .andThen (.when now (fun resumes => ?_) fun _ => trivial) ?_
  · exact absurd (of_decide_eq_true resumes).2 now.sound.connects
  · exact fun _ _ _ now => .ret now trivial

theorem powerOff_walks (walk : Walk observer op first s r)
    (switches : op = .powerOff ∨ op = .stop ∨
      ((∃ ticket, op = .cmdPowerOff ticket) ∧ s.state = .idle)) :
    Walks observer op first powerOff s r fun _ t _ => t.state = s.state := by
  refine .fetch (.when walk (fun _ => ?_) fun _ => rfl)
  have stops : Walks observer op first (Prog.when (s.hasOp Ops.stop) (perform .stop)) s r
      fun _ t r' => t = s ∧ r' = r := .when walk (fun _ => .perform rfl walk) fun _ => ⟨rfl, rfl⟩
  refine stops.bind ?_
  rintro _ s r now ⟨rfl, rfl⟩
  exact .updated (now.next (.poweredOff switches) (now.sound.keep rfl)) rfl

theorem finishPowerOff_walks {ticket : Nat} (isPowerOff : op = .cmdPowerOff ticket)
    (walk : Walk observer op first s r)
    (left : s.link = if first.1.state = .scanning then first.1.link.becomeIdle else first.1.link) :
    Walks observer op first finishPowerOff s r fun _ t _ => t.state = .idle := by
  have ends : ∀ t r, Walk observer op first t r → t.state = .idle →
      Walks observer op first (do
        powerOff
        Prog.update Ieee80211.becomeIdle
        let s ← Prog.fetch
        Prog.when s.parent (perform (.setLinkStatus false))
        return IOReturn.success) t r fun _ t _ => t.state = .idle := by
    intro t r now idle
    have walks := powerOff_walks now (.inr (.inr ⟨⟨ticket, isPowerOff⟩, idle⟩))
    refine walks.bind fun _ u _ off same => ?_
    have switched := off.change (t := u.becomeIdle) (.switchedOff ⟨ticket, isPowerOff⟩
      (same.trans idle)) (off.sound.of_buffers rfl nofun rfl) rfl
    refine .update (.fetch ((Walks.announces switched).bind ?_))
    rintro _ _ _ now ⟨rfl, -⟩
    exact .ret now rfl
  refine .fetch (.ite (fun busy => ?_) fun other => ?_)
  · have same : s.link = first.1.link := by
      split at left
      · have idle : s.state = .idle := congrArg Link.state left
        simp [idle] at busy
      · exact left
    have tearsDown : op.tearsDown first.1.link = true := by
      rw [isPowerOff, ← same]
      exact decide_eq_true busy
    exact (doDisconnect_walks walk same tearsDown).bind fun _ t _ now idle => ends t _ now idle
  · have idle : s.state = .idle := by
      have state := congrArg Link.state left
      have connects := walk.sound.connects
      split at state
      · exact state
      · rename_i notScanning
        have same : s.state = first.1.state := state
        cases phase : s.state <;> simp_all
    refine (clearKeys_walks walk).bind ?_
    rintro _ _ r wiped ⟨rfl, rfl⟩
    refine (releaseSta_walks wiped (.inl idle)).bind ?_
    rintro _ _ r released ⟨rfl, rfl⟩
    refine ends _ _ released ?_
    rw [Ieee80211.state_withoutSta]
    exact idle

theorem cmdPowerOff_walks {ticket : Nat} (isPowerOff : op = .cmdPowerOff ticket)
    (walk : Walk observer op first s r) (same : s.link = first.1.link) :
    Walks observer op first cmdPowerOff s r fun _ t _ =>
      op.tearsDown first.1.link = true → t.state = .idle := by
  refine .through cancelAuthentication_isQuiet walk fun _ t now same' => ?_
  have same := same'.trans same
  have state : t.state = first.1.state := congrArg Link.state same
  refine (abortActiveScan_walks now (congrArg Link.joined same)).bind ?_
  rintro aborted u r later ⟨rfl, left, busy⟩
  refine .ite (fun isLeft => ?_) fun stays => .ret later fun tearsDown => ?_
  · refine (finishPowerOff_walks isPowerOff later ((left isLeft).trans ?_)).mono
      fun _ _ _ _ idle _ => idle
    rw [Ieee80211.link_becomeIdle, same, state]
  · have scanning : first.1.link.state = .scanning :=
      state.symm.trans (busy (Bool.eq_false_of_not_eq_true stays))
    simp [isPowerOff, Op.tearsDown, scanning] at tearsDown

theorem removeInterface_walks (isStop : op = .stop) (walk : Walk observer op first s r) :
    Walks observer op first removeInterface s r fun _ t r' =>
      t.link = { s.link with vif := none, powered := false } ∧ r' = r := by
  refine .fetch (.through (.when (isQuiet_perform fun _ => trivial)) walk fun _ t now same => ?_)
  have removed : Walk observer op first t.forgetVif r :=
    now.next (.interfaceRemoved isStop) (now.sound.keep rfl)
  refine .update (.fetch (.through (.when (isQuiet_perform fun _ => trivial)) removed ?_))
  intro _ u now same'
  refine .updated (now.next (.poweredOff (.inr (.inl isStop))) (now.sound.keep rfl)) ⟨?_, rfl⟩
  exact congrArg (fun l : Link => { l with powered := false })
    (same'.trans (congrArg (fun l : Link => { l with vif := none }) same))

theorem removeHardware_walks (isStop : op = .stop) (walk : Walk observer op first s r)
    (left : s.state = .idle ∨ (op.tearsDown first.1.link = false ∧
      s.link = first.1.link.wipeKeys.withoutSta)) :
    Walks observer op first removeHardware s r fun _ t _ => t.link.Stopped := by
  refine .fetch (.through (.when (isQuiet_perform fun _ => trivial)) walk fun _ t now same => ?_)
  refine (removeInterface_walks isStop now).bind ?_
  rintro _ u r later ⟨same', rfl⟩
  refine .through (isQuiet_perform fun _ => trivial) later fun _ v now same'' => ?_
  have gone := same''.trans (same'.trans
    (congrArg (fun l : Link => { l with vif := none, powered := false }) same))
  refine .updated (now.next (.hardwareRemoved isStop (congrArg Link.vif gone) ?_)
    (now.sound.of_buffers rfl nofun rfl)) 
    ⟨rfl, congrArg Link.vif gone, rfl, congrArg Link.powered gone⟩
  refine left.imp (fun idle => (congrArg Link.state gone).trans idle) fun ⟨stays, wiped⟩ => ?_
  refine ⟨stays, ?_, (congrArg Link.joined gone).trans
    (congrArg (fun l : Link => { l with vif := none }.joined) wiped)⟩
  have same : v.state = s.state := congrArg Link.state gone
  exact same.trans ((congrArg Link.state wiped).trans (Link.state_withoutSta _))

theorem stop_walks (isStop : op = .stop) (walk : Walk observer op first s r)
    (same : s.link = first.1.link) :
    Walks observer op first stop s r fun _ t _ => t.link.Stopped := by
  refine .through cancelAuthentication_isQuiet walk fun _ t now same' => .choose fun answer => ?_
  have canceled : ∀ call, Walk observer op first (t.abortManualScan.withManualScanTC call) r :=
    fun call => now.quiet rfl
  refine .update (.through (isQuiet_perform fun _ => trivial) (canceled _) fun _ u now first' => ?_)
  have resumed : Walk observer op first (u.withManualScanTC u.manualScanTC.resume) r :=
    now.quiet rfl
  refine .update (.through drainConnectCall_isQuiet resumed fun _ v now second => ?_)
  have silenced : Walk observer op first v.cancelTimeout.cancelReorderTimer r := now.quiet rfl
  have same : v.cancelTimeout.cancelReorderTimer.link = first.1.link :=
    second.trans (first'.trans (same'.trans same))
  refine .update (.fetch (.ite (fun busy => ?_) fun other => ?_))
  · have tearsDown : op.tearsDown first.1.link = true := by
      rw [isStop, ← same]
      exact busy
    exact (doDisconnect_walks silenced same tearsDown).bind fun _ _ _ now idle =>
      removeHardware_walks isStop now (.inl idle)
  · refine (clearKeys_walks silenced).bind ?_
    rintro _ _ r wiped ⟨rfl, rfl⟩
    refine (releaseSta_walks wiped (.inr (.inl isStop))).bind ?_
    rintro _ _ r released ⟨rfl, rfl⟩
    refine removeHardware_walks isStop released (.inr ⟨?_, ?_⟩)
    · rw [isStop, ← same]
      exact Bool.eq_false_of_not_eq_true other
    · rw [Ieee80211.link_withoutSta, Ieee80211.link_wipeKeys, same]

end M

end

end AirportRtw88
