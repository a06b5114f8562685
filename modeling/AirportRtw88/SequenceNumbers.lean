import AirportRtw88.Interleave.History
import AirportRtw88.LinkSteps

/-!
# The sequence numbers of QoS data frames

The functions that transmit, the scans, and the registration and the release of the station, in
any interleaving.  QoS data frames are numbered without gaps unless the payload of one cannot be
copied after its number was taken.
-/

namespace AirportRtw88

open Interleave Bytes

/-! ## The functions that transmit -/

/-- The functions whose calls are interleaved. -/
inductive TxOp : Type where
  | txDataFrame (m : Mbuf)
  | txMgmtFrame (site : TxSite) (frame : Bytes)
  | txRawManagementFrame (frame : Bytes)
  | startTxAggregation
  | sendAddbaResponse (tid dialog reqParam baTimeout : Nat)
  | txNullFunc (powerSave : Bool)
  | txProbeRequest
  | txAWDLDataFrame (m : Mbuf)
  | cmdScan
  | runManualScan
  | scanDone (aborted : Bool)
  | abortActiveScan (waitForIdle : Bool)
  | scanTimeout
  | registerSta (aid : Nat)
  | releaseSta
  deriving DecidableEq

/-- A function whose result is not used. -/
def M.ignoring {α : Type} (body : M α) : M Unit := do
  let _ ← body
  return ()

def TxOp.program : TxOp → M Unit
  | .txDataFrame m => M.ignoring (M.txDataFrame m)
  | .txMgmtFrame site frame => M.ignoring (M.txMgmtFrame site frame)
  | .txRawManagementFrame frame => M.ignoring (M.txRawManagementFrame frame)
  | .startTxAggregation => M.startTxAggregation
  | .sendAddbaResponse tid dialog reqParam baTimeout =>
      M.sendAddbaResponse tid dialog reqParam baTimeout
  | .txNullFunc powerSave => M.ignoring (M.txNullFunc powerSave)
  | .txProbeRequest => M.ignoring M.txProbeRequest
  | .txAWDLDataFrame m => M.ignoring (M.txAWDLDataFrame m)
  | .cmdScan => M.ignoring M.cmdScan
  | .runManualScan => M.runManualScan
  | .scanDone aborted => M.scanDone aborted
  | .abortActiveScan waitForIdle => M.ignoring (M.abortActiveScan waitForIdle)
  | .scanTimeout => M.scanTimeout
  | .registerSta aid => M.registerSta aid
  | .releaseSta => M.releaseSta

/-- Authentication, association and deauthentication frames are those that are handed to
`txMgmtFrame` as they are. -/
def TxOp.enabled : TxOp → Bool
  | .txMgmtFrame site _ => site = .authenticate ∨ site = .associate ∨ site = .deauth
  | _ => true

/-- The functions that transmit, called at any time and from any thread. -/
def transmitting : System Ieee80211 Call Answer TxOp Unit where
  program := TxOp.program
  enabled op _ := op.enabled
  ready _ _ := True

instance (op : TxOp) (s : Ieee80211) : Decidable (transmitting.enabled op s) :=
  inferInstanceAs (Decidable (op.enabled = true))

instance (call : Call) (s : Ieee80211) : Decidable (transmitting.ready call s) :=
  inferInstanceAs (Decidable True)

abbrev TxConfig : Type := Config Ieee80211 Call Answer TxOp Unit
abbrev TxMove : Type := Move Call Answer TxOp Unit

/-! ## The numbers -/

namespace TxSkb

/-- The number in the sequence control field. -/
def sequenceNumber (skb : TxSkb) : Nat :=
  skb.data.seqCtrl / 16

/-- The starting sequence number of an ADDBA request. -/
def startingSequence (skb : TxSkb) : Nat :=
  skb.data.le16At 31 / 16

end TxSkb

namespace Ieee80211

/-- The fields that number the QoS data frames of a station. -/
def numbering (s : Ieee80211) : Bool × Nat × Bytes × Bss :=
  (s.sta.isSome, s.dataSeq, s.macAddr, s.targetBSS)

/-- The addresses in the headers are whole. -/
structure Addressed (s : Ieee80211) : Prop where
  macAddr : s.macAddr.length = 6
  target : s.targetBSS.bssid.length = 6

theorem Addressed.of_numbering {s t : Ieee80211} (addressed : s.Addressed)
    (same : t.numbering = s.numbering) : t.Addressed := by
  simp only [numbering, Prod.mk.injEq] at same
  obtain ⟨-, -, mac, target⟩ := same
  constructor
  · exact mac ▸ addressed.macAddr
  · exact target ▸ addressed.target

end Ieee80211

/-- An ADDBA request announces the next number, and no data frame is sent. -/
def Call.Unnumbered (call : Call) (s : Ieee80211) : Prop :=
  (∀ skb, call ≠ .tx .data skb) ∧
    ∀ skb, call = .tx .blockAck skb → skb.isAddbaRequest →
      skb.startingSequence = s.dataSeq % 4096

/-- What the functions that send no data frame have in common. -/
def unnumbered : Discipline Ieee80211 Call Answer where
  ready := (transmitting.guarded Ieee80211.Addressed).ready
  stable := Ieee80211.Addressed
  keeps _ before after := after.numbering = before.numbering
  calls := Call.Unnumbered
  refl := fun _ _ => rfl
  trans := fun _ _ _ _ early late => late.trans early
  respected := fun _ _ isReady => isReady.2
  preserved := fun _ _ _ => Ieee80211.Addressed.of_numbering

namespace M

open Ieee80211 Prog

abbrev IsUnnumbered {α : Type} (program : M α) : Prop :=
  program.Upholds unnumbered

theorem isUnnumbered_update {change : Ieee80211 → Ieee80211}
    (same : ∀ s, (change s).numbering = s.numbering) : IsUnnumbered (Prog.update change) :=
  .update fun _ s _ => same s

theorem isUnnumbered_perform {call : Call} (other : ∀ site skb, call ≠ .tx site skb) :
    IsUnnumbered (perform call) := by
  refine .bind (.await fun s _ => ⟨other .data, ?_⟩) fun _ => .ret ()
  exact fun skb same => absurd same (other .blockAck skb)

theorem isUnnumbered_succeeds : IsUnnumbered succeeds :=
  .bind .choose fun _ => .ret _

theorem isUnnumbered_submit {site : TxSite} (skb : TxSkb) (data : site ≠ .data)
    (blockAck : site ≠ .blockAck) : IsUnnumbered (submit site skb) := by
  refine .bind (isUnnumbered_update fun _ => rfl) fun _ => .bind (.await fun s _ => ?_) fun _ => ?_
  · constructor
    · rintro _ ⟨⟩
      exact data rfl
    · rintro _ ⟨⟩
      exact absurd rfl blockAck
  · exact .ret ()

/-! ## Transmission -/

theorem txMgmtFrame_isUnnumbered {site : TxSite} (frame : Bytes) (data : site ≠ .data)
    (blockAck : site ≠ .blockAck) : IsUnnumbered (txMgmtFrame site frame) := by
  refine .bind .fetch fun s => .ite (.ret _) (.bind isUnnumbered_succeeds fun built => ?_)
  exact .ite (.ret _) (.bind (isUnnumbered_submit _ data blockAck) fun _ => .ret _)

theorem dropMbuf_isUnnumbered (m : Mbuf) : IsUnnumbered (dropMbuf m) :=
  .bind (isUnnumbered_update fun _ => rfl) fun _ => .ret _

theorem txNullFunc_isUnnumbered (powerSave : Bool) : IsUnnumbered (txNullFunc powerSave) := by
  refine .bind .fetch fun s => .ite (.ret _) (.bind isUnnumbered_succeeds fun built => ?_)
  refine .ite (.ret _) (.bind (isUnnumbered_update fun _ => rfl) fun _ => ?_)
  exact .bind (isUnnumbered_submit _ nofun nofun) fun _ => .ret _

theorem txProbeRequest_isUnnumbered : IsUnnumbered txProbeRequest := by
  refine .bind .fetch fun s => .ite (.ret _) (.bind (isUnnumbered_update fun _ => rfl) fun _ => ?_)
  exact txMgmtFrame_isUnnumbered _ nofun nofun

theorem txRawManagementFrame_isUnnumbered (frame : Bytes) :
    IsUnnumbered (txRawManagementFrame frame) :=
  .ite (.ret _) (.ite (.ret _) (txMgmtFrame_isUnnumbered _ nofun nofun))

theorem txAWDLDataFrame_isUnnumbered (m : Mbuf) : IsUnnumbered (txAWDLDataFrame m) := by
  have drops : IsUnnumbered (dropMbuf m) := dropMbuf_isUnnumbered m
  refine .bind .fetch fun s => .ite drops (.ite drops ?_)
  refine .bind isUnnumbered_succeeds fun built => .ite drops ?_
  have allocates : IsUnnumbered allocSkb := by
    refine .bind .fetch fun s => .bind isUnnumbered_succeeds fun built => .ite ?_ (.ret _)
    exact .bind (isUnnumbered_update fun _ => rfl) fun _ => .ret _
  refine .bind allocates fun skb => ?_
  cases skb with
  | none => exact drops
  | some number =>
      have copies : IsUnnumbered (copies (m.data.drop 14)) := .ite (.ret _) isUnnumbered_succeeds
      refine .bind (isUnnumbered_update fun _ => rfl) fun _ => .bind copies fun copied => ?_
      refine .ite (.bind (isUnnumbered_update fun _ => rfl) fun _ => drops) ?_
      refine .bind (isUnnumbered_update fun _ => rfl) fun _ => ?_
      refine .bind (isUnnumbered_submit _ nofun nofun) fun _ => ?_
      exact .bind (isUnnumbered_update fun _ => rfl) fun _ => .ret _

theorem txBlockAck_isUnnumbered {frame : Bytes} {s : Ieee80211}
    (announces : ∀ skb : TxSkb, skb.data = frame → skb.isAddbaRequest →
      skb.startingSequence = s.dataSeq % 4096) {start now : Ieee80211}
    {resumed : Option (Call × Answer)} (addressed : now.Addressed)
    (kept : now.numbering = start.numbering) (same : now.dataSeq = s.dataSeq) :
    (txMgmtFrame .blockAck frame).Conforms unnumbered.ready
      (fun resumed start request now =>
        unnumbered.keeps resumed start now ∧ unnumbered.calls request now)
      resumed start now
      fun resumed start _ now => unnumbered.stable now ∧ unnumbered.keeps resumed start now := by
  unfold txMgmtFrame succeeds submit perform
  simp only [bind_eq_bind, pure_eq_ret, conforms_bind, conforms_fetch, conforms_ite,
    conforms_update, conforms_ret, conforms_choose, conforms_await]
  refine ⟨fun _ => ⟨addressed, kept⟩, fun _ answer => ⟨fun _ => ⟨addressed, kept⟩, fun _ => ?_⟩⟩
  refine ⟨⟨kept, by rintro _ ⟨⟩, ?_⟩, fun _ later isReady => ⟨isReady.2, rfl⟩⟩
  rintro skb ⟨⟩ request
  exact (announces _ rfl request).trans (congrArg (· % 4096) same.symm)

/-- An ADDBA request announces the number of the next QoS data frame. -/
theorem startingSequence_addbaRequest {header : Bytes} (whole : header.length = 24) (dialog : UInt8)
    (param number : Nat) {skb : TxSkb}
    (data : skb.data = header ++ [3, 0, dialog] ++ le16 param ++ [0, 0] ++
      le16 (number % 4096 * 16)) : skb.startingSequence = number % 4096 := by
  have front : (header ++ [3, 0, dialog] ++ le16 param ++ [0, 0]).length = 31 := by
    simp [whole, le16]
  have read := le16At_le16 (header ++ [3, 0, dialog] ++ le16 param ++ [0, 0]) []
    (number % 4096 * 16) (by omega)
  rw [front, List.append_nil, ← data] at read
  rw [TxSkb.startingSequence, read]
  omega

theorem startTxAggregation_isUnnumbered : IsUnnumbered startTxAggregation := by
  refine .bind .fetch fun s => .when ⟨fun resumed => ⟨fun start now addressed kept => ?_⟩⟩
  unfold sendAddbaRequest
  simp only [bind_eq_bind, pure_eq_ret, conforms_bind, conforms_fetch, conforms_update,
    conforms_ret]
  refine txBlockAck_isUnnumbered (s := now) ?_ ⟨addressed.macAddr, addressed.target⟩ kept rfl
  intro skb data _
  have whole := Ieee80211.length_mgmtHeader addressed.macAddr addressed.target stypeAction
  exact startingSequence_addbaRequest whole _ _ _ data

theorem sendAddbaResponse_isUnnumbered (tid dialog reqParam baTimeout : Nat) :
    IsUnnumbered (sendAddbaResponse tid dialog reqParam baTimeout) := by
  refine ⟨fun resumed => ⟨fun start now addressed kept => ?_⟩⟩
  unfold sendAddbaResponse
  simp only [bind_eq_bind, pure_eq_ret, conforms_bind, conforms_fetch, conforms_update,
    conforms_ret]
  refine txBlockAck_isUnnumbered (s := now) ?_ ⟨addressed.macAddr, addressed.target⟩ kept rfl
  intro skb data request
  have whole := Ieee80211.length_mgmtHeader addressed.macAddr addressed.target stypeAction
  have action : skb.data.byte 25 = 1 := data ▸ Ieee80211.action_addbaResponse whole _ _ _
  simp [TxSkb.isAddbaRequest, action] at request

/-! ## Scans -/

theorem restoreConnectedChannel_isUnnumbered : IsUnnumbered restoreConnectedChannel := by
  refine .bind .fetch fun s => .when (.bind (.whenSome fun chan => ?_) fun _ => ?_)
  · exact isUnnumbered_update fun _ => rfl
  · exact .bind (isUnnumbered_perform nofun) fun _ => isUnnumbered_update fun _ => rfl

theorem waitForScan_isUnnumbered (rounds : Nat) : IsUnnumbered (waitForScan rounds) := by
  induction rounds with
  | zero => exact .ret ()
  | succ rounds ih =>
      exact .bind .fetch fun s => .when (.bind (isUnnumbered_perform nofun) fun _ => ih)

theorem abortActiveScan_isUnnumbered (waitForIdle : Bool) :
    IsUnnumbered (abortActiveScan waitForIdle) := by
  have leaves : ∀ returnState, IsUnnumbered (leaveAbortedScan returnState) := by
    refine fun returnState => .bind .fetch fun s => .ite (.ite (.ret _) ?_) (.ret _)
    refine .bind (.when restoreConnectedChannel_isUnnumbered) fun _ => ?_
    exact .bind (isUnnumbered_update fun _ => rfl) fun _ => .bind .fetch fun _ => .ret _
  refine .bind .fetch fun s => .ite (.ret _) ?_
  have waits : IsUnnumbered (do
      if !waitForIdle then return true
      else
        waitForScan 40
        leaveAbortedScan s.scanReturnState) :=
    .ite (.ret _) (.bind (waitForScan_isUnnumbered 40) fun _ => leaves _)
  exact .ite (.bind (isUnnumbered_update fun _ => rfl) fun _ => waits)
    (.bind (.when (isUnnumbered_perform nofun)) fun _ => waits)

theorem setAWDLChannel_isUnnumbered (channel : Nat) : IsUnnumbered (setAWDLChannel channel) := by
  refine .bind .fetch fun s => .ite (.ret _) ?_
  refine .bind (isUnnumbered_update fun _ => rfl) fun _ => .ite (.ret _) ?_
  split
  · exact .ret _
  · exact .bind (isUnnumbered_update fun _ => rfl) fun _ =>
      .bind (isUnnumbered_perform nofun) fun _ => .ret _

theorem scanDone_isUnnumbered (aborted : Bool) : IsUnnumbered (scanDone aborted) := by
  have leaves : IsUnnumbered leaveActiveScan := by
    refine .bind .fetch fun s => .when (.bind (.when restoreConnectedChannel_isUnnumbered) ?_)
    refine fun _ => .bind (isUnnumbered_update fun _ => rfl) fun _ => .bind .fetch fun s => ?_
    exact .when (.bind (setAWDLChannel_isUnnumbered _) fun _ => .ret _)
  refine .bind (.when (isUnnumbered_update fun _ => rfl)) fun _ => .bind leaves fun _ => ?_
  exact .bind .fetch fun s => .when (isUnnumbered_perform nofun)

theorem startManualScan_isUnnumbered (channels : List Channel) :
    IsUnnumbered (startManualScan channels) :=
  .bind (isUnnumbered_update fun _ => rfl) fun _ =>
    .bind (isUnnumbered_update fun _ => rfl) fun _ => .ret _

theorem startScan_isUnnumbered (returnState : Rtw88State) :
    IsUnnumbered (startScan returnState) := by
  have offloads : ∀ channels, IsUnnumbered (startHwScan channels) := by
    refine fun channels => .bind (isUnnumbered_update fun _ => rfl) fun _ => ?_
    refine .bind (.await fun _ _ => ⟨nofun, nofun⟩) fun answer => ?_
    refine .ite (startManualScan_isUnnumbered _) (.bind (isUnnumbered_update fun _ => rfl) ?_)
    exact fun _ => .bind (isUnnumbered_update fun _ => rfl) fun _ => .ret _
  refine .bind .fetch fun s => .ite ?_ (.bind isUnnumbered_succeeds fun offload => ?_)
  · exact .bind (isUnnumbered_update fun _ => rfl) fun _ => .ret _
  · refine .ite (.bind (isUnnumbered_update fun _ => rfl) fun _ => ?_) (offloads _)
    exact startManualScan_isUnnumbered _

theorem cmdScan_isUnnumbered : IsUnnumbered cmdScan := by
  have generation : ∀ s : Ieee80211, s.nextGeneration.numbering = s.numbering := fun _ => rfl
  refine .bind .fetch fun s => .ite (.ret _) (.ite (.ret _) ?_)
  refine .bind (isUnnumbered_update generation) fun _ => .ite (startScan_isUnnumbered _) ?_
  refine .bind isUnnumbered_succeeds fun allocated => .ite ?_ ?_
  · exact .bind (isUnnumbered_update fun _ => rfl) fun _ => startScan_isUnnumbered _
  · exact .bind (isUnnumbered_update fun _ => rfl) fun _ => .ret _

theorem scanChannel_isUnnumbered (connectedScan : Bool) (chan : Channel) :
    IsUnnumbered (scanChannel connectedScan chan) := by
  refine .bind (isUnnumbered_update fun _ => rfl) fun _ => .bind (.when ?_) fun _ => ?_
  · refine .bind restoreConnectedChannel_isUnnumbered fun _ => ?_
    exact .bind (txNullFunc_isUnnumbered _) fun _ => isUnnumbered_perform nofun
  refine .bind (isUnnumbered_update fun _ => rfl) fun _ => .bind (isUnnumbered_perform nofun) ?_
  refine fun _ => .bind (.when (.bind txProbeRequest_isUnnumbered fun _ => .ret _)) fun _ => ?_
  refine .bind (isUnnumbered_perform nofun) fun _ => .bind .fetch fun s => .when ?_
  refine .bind restoreConnectedChannel_isUnnumbered fun _ => ?_
  refine .bind (txNullFunc_isUnnumbered _) fun _ => ?_
  exact .bind (isUnnumbered_update fun _ => rfl) fun _ => isUnnumbered_perform nofun

theorem scanChannels_isUnnumbered (connectedScan : Bool) (remaining i : Nat) :
    IsUnnumbered (scanChannels connectedScan remaining i) := by
  induction remaining generalizing i with
  | zero => exact .ret ()
  | succ remaining ih =>
      refine .bind .fetch fun s => .when (.bind (.whenSome fun chan => ?_) fun _ => ih _)
      exact scanChannel_isUnnumbered _ chan

theorem runManualScan_isUnnumbered : IsUnnumbered runManualScan := by
  have ends : ∀ abort : Ieee80211 → Bool,
      IsUnnumbered (Prog.update fun s => s.endManualScan (abort s)) :=
    fun _ => isUnnumbered_update fun _ => rfl
  refine .bind .fetch fun s => .ite (.bind (scanDone_isUnnumbered _) fun _ => ends _) ?_
  refine .bind (isUnnumbered_perform nofun) fun _ => .bind (scanChannels_isUnnumbered _ _ _) ?_
  refine fun _ => .bind (isUnnumbered_update fun _ => rfl) fun _ => ?_
  refine .bind (isUnnumbered_perform nofun) fun _ => .bind (.when ?_) fun _ => ?_
  · refine .bind restoreConnectedChannel_isUnnumbered fun _ => ?_
    exact .bind (txNullFunc_isUnnumbered _) fun _ => .ret _
  · exact .bind .fetch fun s => .bind (scanDone_isUnnumbered _) fun _ => ends fun _ => false

theorem scanTimeout_isUnnumbered : IsUnnumbered scanTimeout := by
  refine .bind .fetch fun s => .ite (isUnnumbered_update fun _ => rfl) ?_
  refine .bind (.when (isUnnumbered_perform nofun)) fun _ => .bind .fetch fun s => ?_
  refine .bind (.when restoreConnectedChannel_isUnnumbered) fun _ => ?_
  exact isUnnumbered_update fun _ => rfl

end M

/-! ## The steps -/

/-- One atomic block of `txDataFrame`: nothing is numbered, the number of a frame is lost, or the
frame is handed over under it. -/
def DataStep (m : Mbuf) (resumed : Option (Call × Answer)) (start : Ieee80211)
    (stop : Stop Call Unit) (now : Ieee80211) : Prop :=
  (stop = .returns () ∧ now.numbering = start.numbering) ∨
    (resumed = none ∧ start.sta.isSome = true ∧ now.numbering = start.bumpDataSeq.numbering ∧
      (stop = .returns () ∨
        ∃ s : Ieee80211, s.numbering = start.numbering ∧ 14 ≤ m.data.length ∧
          stop = .waits (.tx .data (s.encapsulate (m.data.take 14) (m.data.drop 14)))))

/-- The station is registered. -/
def RegistersSta (start now : Ieee80211) : Prop :=
  start.sta.isSome = false ∧ now.numbering = (true, start.numbering.2)

/-- The station is released. -/
def ReleasesSta (start now : Ieee80211) : Prop :=
  now.numbering = (false, 0, start.numbering.2.2)

/-- What one atomic block of a function does to the numbers. -/
def NumberStep : System.BlockRelation Ieee80211 Call Answer TxOp Unit
  | .txDataFrame m, resumed, start, stop, now => DataStep m resumed start stop now
  | .registerSta _, _, start, stop, now =>
      (now.numbering = start.numbering ∨ RegistersSta start now) ∧
        ∀ request, stop = .waits request → request.Unnumbered now
  | .releaseSta, _, start, stop, now =>
      (now.numbering = start.numbering ∧ ∀ request, stop = .waits request →
        request.Unnumbered now) ∨
        (ReleasesSta start now ∧ stop = .returns ())
  | _, resumed, start, stop, now => unnumbered.Block resumed start stop now

theorem unnumbered_other {call : Call} (other : ∀ site skb, call ≠ .tx site skb)
    (s : Ieee80211) : call.Unnumbered s :=
  ⟨other .data, fun skb same => absurd same (other .blockAck skb)⟩

theorem registerSta_follows (aid : Nat) (s : Ieee80211) :
    (transmitting.guarded Ieee80211.Addressed).Follows NumberStep (.registerSta aid)
      (M.registerSta aid) none s := by
  unfold System.Follows M.registerSta M.succeeds M.perform
  simp only [Prog.bind_eq_bind, Prog.pure_eq_ret, Prog.conforms_bind, Prog.conforms_fetch,
    Prog.conforms_when, Prog.conforms_update, Prog.conforms_ret, Prog.conforms_choose,
    Prog.conforms_await]
  have idle : ∀ resumed s, NumberStep (.registerSta aid) resumed s (.returns ()) s :=
    fun _ _ => ⟨.inl rfl, by rintro _ ⟨⟩⟩
  refine ⟨fun absent answer => ⟨fun _ => ⟨⟨.inr ⟨?_, rfl⟩, ?_⟩, ?_⟩, fun _ => idle _ _⟩, ?_⟩
  · rw [Bool.and_eq_true] at absent
    simpa using absent.1
  · rintro _ ⟨⟩
    apply unnumbered_other
    rintro _ _ ⟨⟩
  · exact fun _ _ _ => idle _ _
  · exact fun _ => idle _ _

theorem releaseSta_follows (s : Ieee80211) :
    (transmitting.guarded Ieee80211.Addressed).Follows NumberStep .releaseSta
      M.releaseSta none s := by
  unfold System.Follows M.releaseSta M.perform
  simp only [Prog.bind_eq_bind, Prog.pure_eq_ret, Prog.conforms_bind, Prog.conforms_fetch,
    Prog.conforms_when, Prog.conforms_update, Prog.conforms_ret, Prog.conforms_await]
  have forgets : ∀ resumed s,
      NumberStep .releaseSta resumed s (.returns ()) s.forgetSta.rxBaTeardownAll :=
    fun _ _ => .inr ⟨rfl, rfl⟩
  refine ⟨fun _ => ⟨fun _ => ⟨.inl ⟨rfl, ?_⟩, fun _ _ _ => forgets _ _⟩, fun _ => forgets _ _⟩, ?_⟩
  · rintro _ ⟨⟩
    apply unnumbered_other
    rintro _ _ ⟨⟩
  · exact fun _ => .inl ⟨rfl, by rintro _ ⟨⟩⟩

theorem numbering_bumpDataSeq {s t : Ieee80211} (same : t.numbering = s.numbering) :
    t.bumpDataSeq.numbering = s.bumpDataSeq.numbering := by
  simp only [Ieee80211.numbering, Prod.mk.injEq] at same
  obtain ⟨present, number, mac, target⟩ := same
  have allowed : t.htAllowed = s.htAllowed := by rw [Ieee80211.htAllowed, target]; rfl
  simp only [Ieee80211.numbering, Ieee80211.bumpDataSeq, allowed, present, number, mac, target]

/-- Without a station the packet is dropped. -/
theorem txDataFrame_without_sta {m : Mbuf} {s : Ieee80211} (absent : s.sta = none)
    {ready : Call → Ieee80211 → Prop}
    {step : Option (Call × Answer) → Ieee80211 → Call → Ieee80211 → Prop}
    {resumed : Option (Call × Answer)} {start : Ieee80211}
    {post : Option (Call × Answer) → Ieee80211 → Bool → Ieee80211 → Prop}
    (drops : post resumed start false (s.mbufFreem m)) :
    (M.txDataFrame m).Conforms ready step resumed start s post := by
  unfold M.txDataFrame M.dropMbuf
  simp only [Prog.bind_eq_bind, Prog.pure_eq_ret, Prog.conforms_bind, Prog.conforms_fetch, absent,
    Option.isNone_none, Bool.or_true, if_true, Prog.conforms_update, Prog.conforms_ret]
  exact drops

theorem txDataFrame_follows (m : Mbuf) (s : Ieee80211) :
    (transmitting.guarded Ieee80211.Addressed).Follows NumberStep (.txDataFrame m)
      (M.ignoring (M.txDataFrame m)) none s := by
  have idle : ∀ resumed (s now : Ieee80211), now.numbering = s.numbering →
      NumberStep (.txDataFrame m) resumed s (.returns ()) now := fun _ _ _ same => .inl ⟨rfl, same⟩
  unfold System.Follows M.ignoring
  simp only [Prog.bind_eq_bind, Prog.pure_eq_ret, Prog.conforms_bind, Prog.conforms_ret]
  cases registered : s.sta with
  | none => exact txDataFrame_without_sta registered (idle _ _ _ rfl)
  | some sta =>
      have present : s.sta.isSome = true := by rw [registered]; rfl
      have same : (s.takeSkb.bumpTxPn (Bytes.be16At (m.data.take 14) 12)).numbering =
          s.numbering := rfl
      generalize isCounted : s.takeSkb.bumpTxPn (Bytes.be16At (m.data.take 14) 12) = counted
        at same
      have numbered := numbering_bumpDataSeq same
      refine M.txDataFrame_conforms m rfl isCounted rfl (idle _ _ _ rfl) ?_ ?_ ?_
      · exact fun _ _ => .inr ⟨rfl, present, numbered, .inl rfl⟩
      · intro whole number
        refine .inr ⟨rfl, present, numbered, .inr ⟨counted, same, ?_, rfl⟩⟩
        rw [List.length_take] at whole
        omega
      · exact fun _ _ _ => idle _ _ _ rfl

theorem respects_numberStep :
    (transmitting.guarded Ieee80211.Addressed).Respects NumberStep := by
  intro op s enabled
  have addressed := enabled.2
  have ignoring : ∀ {α : Type} {body : M α}, M.IsUnnumbered body →
      M.IsUnnumbered (M.ignoring body) := fun body => .bind body fun _ => .ret _
  cases op with
  | txDataFrame m => exact txDataFrame_follows m s
  | registerSta aid => exact registerSta_follows aid s
  | releaseSta => exact releaseSta_follows s
  | txMgmtFrame site frame =>
      have management : site ≠ .data ∧ site ≠ .blockAck := by
        have isSite := enabled.1
        simp only [transmitting, TxOp.enabled, decide_eq_true_eq] at isSite
        rcases isSite with rfl | rfl | rfl <;> exact ⟨nofun, nofun⟩
      exact (ignoring (M.txMgmtFrame_isUnnumbered frame management.1 management.2)).follows rfl
        (fun _ _ _ _ => id) addressed
  | txRawManagementFrame frame =>
      exact (ignoring (M.txRawManagementFrame_isUnnumbered frame)).follows rfl
        (fun _ _ _ _ => id) addressed
  | startTxAggregation =>
      exact M.startTxAggregation_isUnnumbered.follows rfl (fun _ _ _ _ => id) addressed
  | sendAddbaResponse tid dialog reqParam baTimeout =>
      exact (M.sendAddbaResponse_isUnnumbered _ _ _ _).follows rfl (fun _ _ _ _ => id) addressed
  | txNullFunc powerSave =>
      exact (ignoring (M.txNullFunc_isUnnumbered _)).follows rfl (fun _ _ _ _ => id) addressed
  | txProbeRequest =>
      exact (ignoring M.txProbeRequest_isUnnumbered).follows rfl (fun _ _ _ _ => id) addressed
  | txAWDLDataFrame m =>
      exact (ignoring (M.txAWDLDataFrame_isUnnumbered m)).follows rfl (fun _ _ _ _ => id) addressed
  | cmdScan => exact (ignoring M.cmdScan_isUnnumbered).follows rfl (fun _ _ _ _ => id) addressed
  | runManualScan =>
      exact M.runManualScan_isUnnumbered.follows rfl (fun _ _ _ _ => id) addressed
  | scanDone aborted =>
      exact (M.scanDone_isUnnumbered _).follows rfl (fun _ _ _ _ => id) addressed
  | abortActiveScan waitForIdle =>
      exact (ignoring (M.abortActiveScan_isUnnumbered _)).follows rfl (fun _ _ _ _ => id) addressed
  | scanTimeout => exact M.scanTimeout_isUnnumbered.follows rfl (fun _ _ _ _ => id) addressed

/-! ## Gaps -/

/-- The payload of a QoS data frame cannot be copied after the frame got its number. -/
structure CopyFails (m : Mbuf) (answers : List Answer) (s : Ieee80211) : Prop where
  qos : s.htAllowed = true
  sends : s.hasOp Ops.tx = true ∧ s.vif.isSome = true ∧ s.sta.isSome = true
  length : 14 < m.data.length ∧ m.data.length ≤ 2048
  header : (answers.getD 0 default).code = 0
  allocated : (answers.getD 1 default).code = 0
  payload : (answers.getD 2 default).code ≠ 0

/-- A number is lost only if the payload cannot be copied. -/
theorem copyFails_of_lost {m : Mbuf} {s now : Ieee80211} {answers : List Answer}
    (ends : (M.ignoring (M.txDataFrame m)).block s answers = (now, .finished ()))
    (lost : now.numbering ≠ s.numbering) : CopyFails m answers s := by
  have first : answers.headD default = answers.getD 0 default := by cases answers <;> rfl
  have second : answers.tail.headD default = answers.getD 1 default := by
    rcases answers with _ | ⟨_, _ | ⟨_, _⟩⟩ <;> rfl
  have third : answers.tail.tail.headD default = answers.getD 2 default := by
    rcases answers with _ | ⟨_, _ | ⟨_, _ | ⟨_, _⟩⟩⟩ <;> rfl
  have drops : ∀ rest, ((M.dropMbuf m).bind fun _ => .ret ()).block s rest ≠
      (now, .finished ()) := by
    rintro rest ⟨⟩
    exact lost rfl
  unfold M.ignoring M.txDataFrame M.allocSkb M.copies M.succeeds M.submit M.perform at ends
  simp only [Prog.bind_eq_bind, Prog.pure_eq_ret, Prog.fetch, Prog.update, Prog.choose, Prog.await,
    Prog.bind, Prog.block] at ends
  split at ends
  · exact absurd ends (drops _)
  rename_i sends
  simp only [Bool.or_eq_true, not_or, Bool.not_eq_true, Bool.not_eq_false'] at sends
  split at ends
  · exact absurd ends (drops _)
  rename_i length
  simp only [Prog.bind, Prog.block] at ends
  split at ends
  · exact absurd ends (drops _)
  rename_i header
  simp only [Prog.bind, Prog.block] at ends
  split at ends
  case isFalse => exact absurd ends (drops _)
  rename_i allocated
  simp only [Prog.bind, Prog.block] at ends
  split at ends
  case isTrue => simp [Prog.bind, Prog.block] at ends
  rename_i payload
  simp only [Prog.bind, Prog.block, third] at ends
  split at ends
  case isFalse => simp [Prog.bind, Prog.block] at ends
  rename_i copied
  simp only [Prog.bind, Prog.block] at ends
  obtain ⟨rfl, -⟩ := ends
  constructor
  case qos =>
    by_contra fails
    apply lost
    have same : (s.takeSkb.bumpTxPn (Bytes.be16At (m.data.take 14) 12)).numbering = s.numbering :=
      rfl
    have unchanged : s.bumpDataSeq.numbering = s.numbering := by
      simp only [Ieee80211.numbering, Ieee80211.bumpDataSeq, if_neg fails]
    exact (numbering_bumpDataSeq same).trans unchanged
  case sends =>
    obtain ⟨⟨tx, vif⟩, sta⟩ := sends
    exact ⟨tx, by simpa using vif, by simpa using sta⟩
  case length =>
    have more : m.data.drop 14 ≠ [] := payload
    rw [← List.length_pos_iff, List.length_drop] at more
    omega
  case header =>
    rw [← first]
    simpa only [Bool.not_eq_true', decide_eq_false_iff_not, not_not] using header
  case allocated =>
    rw [← second]
    exact of_decide_eq_true allocated
  case payload => simpa using copied

/-- The numbers of the QoS data frames since the station was registered, the last one first. -/
def noteNumber (move : TxMove) (now : Ieee80211) (sent : List Nat) : List Nat :=
  if now.sta.isNone then []
  else
    match move.stop with
    | .waits (.tx .data skb) => if skb.data.isDataQos then skb.sequenceNumber :: sent else sent
    | _ => sent

/-- The numbers count up from zero, modulo 4096. -/
def GapFree (sent : List Nat) : Prop :=
  sent.reverse = (List.range sent.length).map fun count => count % 4096

/-- The state before a station is registered. -/
structure Ieee80211.Unregistered (s : Ieee80211) : Prop where
  addressed : s.Addressed
  sta : s.sta = none
  dataSeq : s.dataSeq = 0

/-- In the runs of allowed turns the numbers of the QoS data frames have no gaps, and an ADDBA
request announces the next one. -/
def NumbersGapFree (allows : Turn Answer TxOp → Ieee80211 → Prop) (s : Ieee80211)
    (config : TxConfig) (sent : List Nat) : Prop :=
  s.Unregistered → transmitting.Noted noteNumber allows (⟨s, []⟩, []) (config, sent) →
    GapFree sent ∧ ∀ next move config', allows next config.state →
      transmitting.turn config next = some (move, config') → ∀ skb,
      move.stop = .waits (.tx .blockAck skb) → skb.isAddbaRequest →
      skb.startingSequence = sent.length % 4096

/-- The payloads of QoS data frames can be copied. -/
def CopiesPayload (next : Turn Answer TxOp) (s : Ieee80211) : Prop :=
  ∀ m answers, next = .start (.txDataFrame m) answers → ¬ CopyFails m answers s

namespace Ieee80211

section

variable (s : Ieee80211) (eh payload : Bytes)

theorem isDataQos_encapsulate : (s.encapsulate eh payload).data.isDataQos = s.htAllowed := by
  unfold Bytes.isDataQos
  rw [frameControl_encapsulate]
  unfold dataFrameControl
  cases s.protects (eh.be16At 12) <;> cases s.htAllowed <;> decide

variable {s eh}

theorem sequenceNumber_encapsulate (addressed : s.Addressed) (whole : 6 ≤ eh.length)
    (qos : s.htAllowed = true) :
    (s.encapsulate eh payload).sequenceNumber = s.dataSeq % 4096 := by
  have front : (le16 (s.dataFrameControl (eh.be16At 12)) ++ [0, 0] ++ s.targetBSS.bssid ++
      s.macAddr ++ eh.take 6).length = 22 := by
    simp [le16, addressed.macAddr, addressed.target, whole]
  have read := le16At_le16 (le16 (s.dataFrameControl (eh.be16At 12)) ++ [0, 0] ++
    s.targetBSS.bssid ++ s.macAddr ++ eh.take 6) ([UInt8.ofNat (s.baTid &&& 0xf), 0] ++
    ((if s.protects (eh.be16At 12) then
      ccmpHeader s.ccmpTxPn ((s.ptkConf.map KeyConf.keyidx).getD 0) else []) ++
      (snapHeader (eh.be16At 12) ++ payload))) (s.dataSeq % 4096 * 16) (by omega)
  have data : (s.encapsulate eh payload).data = _ := s.data_encapsulate eh payload
  rw [front] at read
  unfold TxSkb.sequenceNumber Bytes.seqCtrl
  rw [data, dataHeader, header3addr, if_pos qos, if_pos qos]
  simp only [List.append_assoc] at read ⊢
  rw [read]
  omega

end

end Ieee80211

theorem gapFree_cons {sent : List Nat} {number : Nat} (gapFree : GapFree sent)
    (next : number = sent.length % 4096) : GapFree (number :: sent) := by
  unfold GapFree at *
  rw [List.reverse_cons, gapFree, List.length_cons, List.range_succ, List.map_append, next]
  rfl

/-- The step loses no number. -/
def KeepsNumbers (move : TxMove) (start now : Ieee80211) : Prop :=
  ∀ m, move.op = .txDataFrame m → move.resumed = none → move.stop = .returns () →
    now.numbering = start.numbering

theorem keepsNumbers_of_copies {config config' : TxConfig} {move : TxMove}
    {next : Turn Answer TxOp} (copies : CopiesPayload next config.state)
    (taken : transmitting.turn config next = some (move, config')) :
    KeepsNumbers move config.state config'.state := by
  rintro m isData starts returns
  cases next with
  | start op answers =>
      simp only [System.turn] at taken
      split at taken
      case isFalse => cases taken
      cases taken
      obtain rfl : op = .txDataFrame m := isData
      cases ends : ((transmitting.program (.txDataFrame m)).block config.state answers).2 with
      | suspended request rest =>
          rw [ends] at returns
          cases returns
      | finished value =>
          by_contra lost
          exact copies m answers rfl (copyFails_of_lost (Prod.ext rfl ends) lost)
  | resume position answer answers =>
      simp only [System.turn] at taken
      split at taken
      case isFalse => cases taken
      split at taken
      · cases taken
        cases starts
      · cases taken

/-- The counter is the number of the frames that were sent, and these have no gaps. -/
structure Sequenced (s : Ieee80211) (sent : List Nat) : Prop where
  unregistered : s.sta.isSome = false → s.dataSeq = 0 ∧ sent = []
  next : s.dataSeq % 4096 = sent.length % 4096
  gapFree : GapFree sent

namespace Sequenced

variable {start now : Ieee80211} {sent : List Nat} {move : TxMove}

/-- Nothing is sent, and no station comes or goes. -/
theorem same (sequenced : Sequenced start sent) (same : now.numbering = start.numbering)
    (silent : ∀ skb, move.stop ≠ .waits (.tx .data skb)) :
    Sequenced now (noteNumber move now sent) := by
  simp only [Ieee80211.numbering, Prod.mk.injEq] at same
  obtain ⟨present, number, -⟩ := same
  have noted : noteNumber move now sent = sent := by
    unfold noteNumber
    split
    case isTrue absent =>
      have absent : start.sta.isSome = false := present ▸ by simpa using absent
      exact (sequenced.unregistered absent).2.symm
    case isFalse =>
      split
      · exact absurd ‹_› (silent _)
      · rfl
  rw [noted]
  constructor
  · rw [present, number]
    exact sequenced.unregistered
  · exact number ▸ sequenced.next
  · exact sequenced.gapFree

theorem registers (sequenced : Sequenced start sent) (registers : RegistersSta start now)
    (silent : ∀ skb, move.stop ≠ .waits (.tx .data skb)) :
    Sequenced now (noteNumber move now sent) := by
  obtain ⟨absent, present⟩ := registers
  simp only [Ieee80211.numbering, Prod.mk.injEq] at present
  obtain ⟨present, number, -⟩ := present
  obtain ⟨-, rfl⟩ := sequenced.unregistered absent
  have noted : noteNumber move now [] = [] := by
    unfold noteNumber
    split
    · rfl
    · split
      · exact absurd ‹_› (silent _)
      · rfl
  rw [noted]
  constructor
  · intro gone
    exact absurd (present.symm.trans gone) nofun
  · exact number ▸ sequenced.next
  · exact sequenced.gapFree

theorem releases (releases : ReleasesSta start now) : Sequenced now (noteNumber move now sent) := by
  simp only [ReleasesSta, Ieee80211.numbering, Prod.mk.injEq] at releases
  obtain ⟨absent, zero, -⟩ := releases
  have noted : noteNumber move now sent = [] := if_pos (by simpa using absent)
  rw [noted]
  exact ⟨fun _ => ⟨zero, rfl⟩, by rw [zero]; rfl, rfl⟩

/-- A frame is sent. -/
theorem sends (sequenced : Sequenced start sent) (present : start.sta.isSome = true)
    (counts : now.numbering = start.bumpDataSeq.numbering) {s : Ieee80211} {eh payload : Bytes}
    (addressed : s.Addressed) (whole : 6 ≤ eh.length) (same : s.numbering = start.numbering)
    (stop : move.stop = .waits (.tx .data (s.encapsulate eh payload))) :
    Sequenced now (noteNumber move now sent) := by
  have bumped := counts.trans (numbering_bumpDataSeq same).symm
  simp only [Ieee80211.numbering, Prod.mk.injEq] at bumped same
  obtain ⟨registered, number, -⟩ := bumped
  have there : now.sta.isSome = true := by
    rw [registered]
    exact same.1.trans present
  have noted : noteNumber move now sent =
      if s.htAllowed then s.dataSeq % 4096 :: sent else sent := by
    unfold noteNumber
    rw [if_neg (by simp [Option.isNone_eq_false_iff.mpr there]), stop]
    simp only [s.isDataQos_encapsulate]
    split
    · rw [Ieee80211.sequenceNumber_encapsulate _ addressed whole ‹_›]
    · rfl
  have next : s.dataSeq % 4096 = sent.length % 4096 := same.2.1 ▸ sequenced.next
  rw [noted]
  cases qos : s.htAllowed with
  | false =>
      have number : now.dataSeq = s.dataSeq := by
        rw [number, Ieee80211.bumpDataSeq, qos]
        rfl
      exact ⟨fun gone => absurd (there.symm.trans gone) (by rintro ⟨⟩), number ▸ next,
        sequenced.gapFree⟩
  | true =>
      have number : now.dataSeq = (s.dataSeq + 1) % 65536 := by
        rw [number, Ieee80211.bumpDataSeq, qos]
        rfl
      refine ⟨fun gone => absurd (there.symm.trans gone) (by rintro ⟨⟩), ?_, ?_⟩
      · rw [if_pos rfl, List.length_cons, number]
        omega
      · exact gapFree_cons sequenced.gapFree next

theorem step (sequenced : Sequenced start sent) (addressed : start.Addressed)
    (step : NumberStep move.op move.resumed start move.stop now)
    (keeps : KeepsNumbers move start now) : Sequenced now (noteNumber move now sent) := by
  have silent : (∀ request, move.stop = .waits request → request.Unnumbered now) →
      ∀ skb, move.stop ≠ .waits (.tx .data skb) :=
    fun calls skb sends => (calls _ sends).1 skb rfl
  cases isOp : move.op <;> rw [isOp] at step
  case txDataFrame m =>
    rcases step with ⟨returns, same⟩ | ⟨starts, present, counts, returns | ⟨s, same, long, stop⟩⟩
    · exact sequenced.same same fun skb sends => nomatch returns.symm.trans sends
    · exact sequenced.same (keeps m isOp starts returns) fun skb sends =>
        nomatch returns.symm.trans sends
    · refine sequenced.sends present counts (addressed.of_numbering same) ?_ same stop
      rw [List.length_take]
      omega
  case registerSta aid =>
    rcases step with ⟨same | registers, calls⟩
    · exact sequenced.same same (silent calls)
    · exact sequenced.registers registers (silent calls)
  case releaseSta =>
    rcases step with ⟨same, calls⟩ | ⟨releases, -⟩
    · exact sequenced.same same (silent calls)
    · exact .releases releases
  all_goals exact sequenced.same step.1 (silent step.2)

end Sequenced

theorem numberStep_addressed (op : TxOp) (resumed : Option (Call × Answer)) (start : Ieee80211)
    (stop : Stop Call Unit) (now : Ieee80211) (step : NumberStep op resumed start stop now)
    (addressed : start.Addressed) : now.Addressed := by
  have stays : now.numbering.2.2 = start.numbering.2.2 := by
    cases op
    case txDataFrame m =>
      rcases step with ⟨-, same⟩ | ⟨-, -, same, -⟩
      · rw [same]
      · rw [same]; rfl
    case registerSta aid => rcases step.1 with same | ⟨-, same⟩ <;> rw [same]
    case releaseSta => rcases step with ⟨same, -⟩ | ⟨same, -⟩ <;> rw [same]
    all_goals
      have same : now.numbering = start.numbering := step.1
      rw [same]
  simp only [Ieee80211.numbering, Prod.mk.injEq] at stays
  constructor
  · exact stays.1 ▸ addressed.macAddr
  · exact stays.2 ▸ addressed.target

/-- An ADDBA request announces the counter. -/
theorem announces_of_step {start now : Ieee80211} {move : TxMove} {skb : TxSkb}
    (step : NumberStep move.op move.resumed start move.stop now)
    (stop : move.stop = .waits (.tx .blockAck skb)) (request : skb.isAddbaRequest = true) :
    skb.startingSequence = start.dataSeq % 4096 := by
  have announced {now : Ieee80211} (kept : now.dataSeq = start.dataSeq)
      (calls : ∀ request, move.stop = .waits request → request.Unnumbered now) :
      skb.startingSequence = start.dataSeq % 4096 := by
    rw [(calls _ stop).2 skb rfl request, kept]
  cases isOp : move.op <;> rw [isOp] at step
  case txDataFrame m =>
    rcases step with ⟨returns, -⟩ | ⟨-, -, -, returns | ⟨_, _, _, sends⟩⟩
    · exact nomatch stop.symm.trans returns
    · exact nomatch stop.symm.trans returns
    · exact nomatch stop.symm.trans sends
  case registerSta aid =>
    rcases step with ⟨same | ⟨-, same⟩, calls⟩
    · exact announced (congrArg (fun fields => fields.2.1) same) calls
    · exact announced (congrArg (fun fields => fields.2.1) same) calls
  case releaseSta =>
    rcases step with ⟨same, calls⟩ | ⟨-, returns⟩
    · exact announced (congrArg (fun fields => fields.2.1) same) calls
    · exact nomatch stop.symm.trans returns
  all_goals
    have same : now.numbering = start.numbering := step.1
    exact announced (congrArg (fun fields => fields.2.1) same) step.2

/-- QoS data frames are numbered without gaps as long as their payloads can be copied. -/
theorem numbersGapFree (s : Ieee80211) (config : TxConfig) (sent : List Nat) :
    NumbersGapFree CopiesPayload s config sent := by
  intro unregistered run
  let holds (now : TxConfig × List Nat) : Prop :=
    transmitting.Tracked Ieee80211.Addressed NumberStep now.1 ∧ Sequenced now.1.state now.2
  have started : holds (⟨s, []⟩, []) := by
    refine ⟨System.tracked_nil NumberStep unregistered.addressed, ?_⟩
    exact ⟨fun _ => ⟨unregistered.dataSeq, rfl⟩, by rw [unregistered.dataSeq]; rfl, rfl⟩
  have kept : holds (config, sent) := by
    refine run.invariant holds started ?_
    rintro ⟨config, sent⟩ next move config' ⟨tracked, sequenced⟩ copies taken
    have related := tracked.related respects_numberStep numberStep_addressed
      (System.step_of_turn taken)
    refine ⟨related.2, ?_⟩
    exact sequenced.step tracked.guard related.1 (keepsNumbers_of_copies copies taken)
  obtain ⟨tracked, sequenced⟩ := kept
  refine ⟨sequenced.gapFree, fun next move config' copies taken skb stop request => ?_⟩
  have related := tracked.related respects_numberStep numberStep_addressed
    (System.step_of_turn taken)
  rw [announces_of_step related.1 stop request]
  exact sequenced.next

namespace Scenario

/-- A station is registered, the payload of a packet cannot be copied, and the next is sent. -/
def copyFailure : List (Turn Answer TxOp) :=
  let packet : Mbuf := ⟨1, apAddr ++ ownAddr ++ [8, 0] ++ [0x45]⟩
  [.start (.registerSta 1) [], .resume 0 default [],
    .start (.txDataFrame packet) [⟨0, []⟩, ⟨0, []⟩, ⟨-1, []⟩], .start (.txDataFrame packet) []]

theorem copyFailure_numbers :
    (transmitting.playNoted noteNumber (⟨.started attachment, []⟩, []) copyFailure).map Prod.snd =
      some [1] := by
  decide +kernel

end Scenario

/-- The number of a frame that was not copied is missing. -/
theorem not_numbersGapFree :
    ¬ ∀ s config sent, NumbersGapFree (fun _ _ => True) s config sent := by
  intro numbered
  obtain ⟨⟨config, sent⟩, played, last⟩ := Option.map_eq_some_iff.mp Scenario.copyFailure_numbers
  obtain rfl : sent = [1] := last
  have unregistered : (Ieee80211.started Scenario.attachment).Unregistered :=
    ⟨⟨rfl, rfl⟩, rfl, rfl⟩
  have gapFree := (numbered _ config [1] unregistered
    (System.noted_of_play played fun _ _ _ => trivial)).1
  unfold GapFree at gapFree
  exact absurd gapFree (by decide)

end AirportRtw88
