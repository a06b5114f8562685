import AirportRtw88.Access
import AirportRtw88.BeaconCopy
import AirportRtw88.BufferLedger
import AirportRtw88.Interleave.History

/-!
# The RSN element of an association

`cmdSetAssocRsnIE` stores an element for the association that follows, and nothing clears it.
The file follows the stored element over sequences of associations, and says exactly when what
`copyTargetRsnIE` hands out belongs to the current one.
-/

namespace AirportRtw88

open Interleave Bytes

/-! ## The requests -/

/-- `struct apple80211_assoc_data`, as far as `handleASSOCIATE` reads it. -/
structure AssocData where
  version : Nat
  adAuthLower : Nat
  adAuthUpper : Nat
  adSsidLen : Nat
  adSsid : Bytes
  adBssid : Bytes
  adKeyLen : Nat
  adKey : Bytes
  adRsnIe : Bytes
  length_adRsnIe : adRsnIe.length = 258
  deriving DecidableEq

def authtypeOpen : Nat := 1
def authtypeNone : Nat := 0
def authtypeWpaPsk : Nat := 0x2
def authtypeWpa2Psk : Nat := 0x8
def authtypeSha256Psk : Nat := 0x400

/-- `APPLE80211_MAX_RSN_IE_LEN`. -/
def maxRsnIeLen : Nat := 257

namespace AssocData

/-- The version and the name are ones that `handleASSOCIATE` accepts. -/
def isValid (d : AssocData) : Bool :=
  d.version = 1 ∧ d.adSsidLen ≠ 0 ∧ d.adSsidLen ≤ 32

/-- The element that `handleASSOCIATE` takes out of the payload. -/
def rsnIe (d : AssocData) : Option Bytes :=
  let rsnLen := (d.adRsnIe.byte 1).toNat + 2
  if d.adRsnIe.byte 0 = 48 ∧ rsnLen ≤ maxRsnIeLen then some (d.adRsnIe.take rsnLen) else none

def isSecure (d : AssocData) : Bool :=
  d.adAuthUpper &&& (authtypeWpaPsk ||| authtypeWpa2Psk ||| authtypeSha256Psk) ≠ 0

/-- The authentication types and the key are ones that `handleASSOCIATE` supports. -/
def isSupported (d : AssocData) : Bool :=
  d.adAuthLower = authtypeOpen ∧
    (d.isSecure = true ∨ d.adAuthUpper = authtypeNone) ∧
    (d.adAuthUpper &&& (authtypeWpa2Psk ||| authtypeSha256Psk) ≠ 0 ∨
      d.adAuthUpper = authtypeNone) ∧
    d.adKeyLen = if d.isSecure then 32 else 0

def connectArgs (d : AssocData) : ConnectArgs where
  ssid := some (d.adSsid.take d.adSsidLen)
  password := none
  pmk := if d.isSecure then some d.adKey else none
  bssid := if d.adBssid ≠ zeros 6 then some d.adBssid else none
  externalSupplicant := false

end AssocData

/-- The element that is taken out of the payload is whole. -/
theorem AssocData.isRsnIe_of_rsnIe (d : AssocData) {ie : Bytes} (taken : d.rsnIe = some ie) :
    isRsnIe ie = true := by
  simp only [rsnIe] at taken
  split at taken
  · rename_i shaped
    obtain ⟨id, fits⟩ := shaped
    have byteBound := (d.adRsnIe.byte 1).toNat_lt
    have length : ie.length = (d.adRsnIe.byte 1).toNat + 2 := by
      rw [← Option.some.inj taken, List.length_take, d.length_adRsnIe]
      omega
    have first : ie.byte 0 = d.adRsnIe.byte 0 := by
      rw [← Option.some.inj taken]
      exact byte_take (by omega)
    have second : ie.byte 1 = d.adRsnIe.byte 1 := by
      rw [← Option.some.inj taken]
      exact byte_take (by omega)
    have bounds : 2 ≤ ie.length ∧ ie.length ≤ 257 := by omega
    exact decide_eq_true ⟨bounds.1, bounds.2, first.trans id, by rw [second, length]⟩
  · cases taken

/-- `handleASSOCIATE`: the element is stored before the request is checked. -/
def M.handleASSOCIATE (d : AssocData) : M IOReturn := do
  if !d.isValid then
    return .badArgument
  else
    Prog.whenSome d.rsnIe fun ie => do
      let _ ← M.cmdSetAssocRsnIE (some ie)
      return ()
    if !d.isSupported then
      return .unsupported
    else
      M.cmdConnect d.connectArgs

namespace Ieee80211

/-- What `handleRSN_IE` answers to a request for the element. -/
def handleRSNIE (s : Ieee80211) : RsnIeCopy :=
  s.copyTargetRsnIE maxRsnIeLen

/-- What `handleAP_IE_LIST` answers to a request with room for `len` bytes; `none` is
`kIOReturnBadArgument`. -/
def handleAPIELIST (s : Ieee80211) (len : Nat) : Option RsnIeCopy :=
  if len = 0 then none
  else
    match s.copyTargetRsnIE maxRsnIeLen with
    | .success ie => some (if ie.length > len then .noSpace else .success ie)
    | refused => some refused

/-- A request hands out this element. -/
def HandsOut (s : Ieee80211) (ie : Bytes) : Prop :=
  (∃ capacity, s.copyTargetRsnIE capacity = .success ie) ∨ s.handleRSNIE = .success ie ∨
    ∃ len, s.handleAPIELIST len = some (.success ie)

end Ieee80211

/-! ## The operations on the stored element -/

/-- The operations of an association, and any other change: no other function writes
`_assocRsnIE`. -/
inductive RsnOp : Type where
  | cmdSetAssocRsnIE (ie : Option Bytes)
  | handleASSOCIATE (d : AssocData)
  | cmdConnect (args : ConnectArgs)
  | cmdDisconnect
  | doDisconnect
  | cmdScan
  | scanDone (aborted : Bool)
  | elsewhere (other : Ieee80211)

/-- Everything but the stored element changes. -/
def Ieee80211.exceptRsn (s other : Ieee80211) : Ieee80211 :=
  { other with assocRsnIE := s.assocRsnIE }

def RsnOp.program : RsnOp → M IOReturn
  | .cmdSetAssocRsnIE ie => M.cmdSetAssocRsnIE ie
  | .handleASSOCIATE d => M.handleASSOCIATE d
  | .cmdConnect args => M.cmdConnect args
  | .cmdDisconnect => M.cmdDisconnect
  | .doDisconnect => M.returning M.doDisconnect
  | .cmdScan => M.cmdScan
  | .scanDone aborted => M.returning (M.scanDone aborted)
  | .elsewhere other => M.returning (Prog.update fun s => s.exceptRsn other)

/-- These operations with everything else around them. -/
def associating : System Ieee80211 Call Answer RsnOp IOReturn where
  program := RsnOp.program
  enabled _ _ := True
  ready call s := call.ready s

instance (op : RsnOp) (s : Ieee80211) : Decidable (associating.enabled op s) :=
  inferInstanceAs (Decidable True)

instance (call : Call) (s : Ieee80211) : Decidable (associating.ready call s) :=
  inferInstanceAs (Decidable (call.ready s = true))

/-- The element that an operation stores. -/
def RsnOp.stores : RsnOp → Option Bytes
  | .cmdSetAssocRsnIE ie => ie.filter isRsnIe
  | .handleASSOCIATE d => if d.isValid then d.rsnIe else none
  | _ => none

/-- The element that was stored last, and the one that was stored since the last disconnect. -/
structure RsnHistory where
  last : Option Bytes
  current : Option Bytes

namespace RsnHistory

def none : RsnHistory :=
  ⟨.none, .none⟩

def disconnected (history : RsnHistory) : RsnHistory :=
  { history with current := .none }

def store (history : RsnHistory) (stored : Option Bytes) : RsnHistory :=
  stored.elim history fun ie => ⟨some ie, some ie⟩

def started (history : RsnHistory) (op : RsnOp) : RsnHistory :=
  match op with
  | .cmdDisconnect | .doDisconnect => history.disconnected
  | op => history.store op.stores

def after (next : Turn Answer RsnOp) (_ : Ieee80211) (history : RsnHistory) : RsnHistory :=
  match next with
  | .start op _ => history.started op
  | .resume _ _ _ => history

end RsnHistory

abbrev RsnConfig : Type := Config Ieee80211 Call Answer RsnOp IOReturn × RsnHistory

/-- The runs of these operations, in any order and interleaving. -/
def RsnRuns : RsnConfig → RsnConfig → Prop :=
  associating.Recorded RsnHistory.after fun _ _ _ => True

/-- Every element that is handed out was stored since the last disconnect, or is the target's
own. -/
def RsnConfig.Fresh (now : RsnConfig) : Prop :=
  ∀ ie, now.1.state.HandsOut ie → now.2.current = some ie ∨ now.1.state.targetBSS.rsnIe = some ie

/-! ## The stored element over a run -/

namespace M

open Ieee80211 Prog

/-- The function leaves the stored element alone. -/
abbrev KeepsRsn {α : Type} (program : M α) : Prop :=
  program.Frames assocRsnIE

theorem clearKeys_keepsRsn : KeepsRsn clearKeys := by
  have disables (pairwise : Bool) : KeepsRsn (disableKey pairwise) :=
    .bind .fetch fun s => .whenSome fun key => perform_keeps _
  refine .bind .fetch fun s => .bind (.when ?_) fun _ => .update fun _ => rfl
  exact .bind (disables true) fun _ => disables false

theorem releaseSta_keepsRsn : KeepsRsn releaseSta := by
  refine .bind .fetch fun s => .when (.bind (.when (perform_keeps _)) fun _ => ?_)
  exact .update fun _ => rfl

theorem restoreConnectedChannel_keepsRsn : KeepsRsn restoreConnectedChannel := by
  refine .bind .fetch fun s => .when ?_
  refine .bind (.whenSome fun chan => .update fun _ => rfl) fun _ => ?_
  exact .bind (perform_keeps _) fun _ => .update fun _ => rfl

theorem abortActiveScan_keepsRsn (waitForIdle : Bool) : KeepsRsn (abortActiveScan waitForIdle) := by
  have waits (rounds : Nat) : KeepsRsn (waitForScan rounds) := by
    induction rounds with
    | zero => exact .ret ()
    | succ rounds ih => exact .bind .fetch fun s => .when (.bind (perform_keeps _) fun _ => ih)
  have leaves (returnState : ScanReturn) : KeepsRsn (leaveAbortedScan returnState) := by
    refine .bind .fetch fun s => .ite (.ite (.ret _) ?_) (.ret _)
    refine .bind (.when restoreConnectedChannel_keepsRsn) fun _ => ?_
    exact .bind (.update fun _ => rfl) fun _ => .bind .fetch fun _ => .ret _
  have rest (returnState : ScanReturn) : KeepsRsn (if !waitForIdle then pure true else do
      waitForScan 40
      leaveAbortedScan returnState) :=
    .ite (.ret _) (.bind (waits 40) fun _ => leaves returnState)
  refine .bind .fetch fun s => .ite (.ret _) (.ite (.bind (.update fun _ => rfl) fun _ => ?_) ?_)
  · exact rest s.scanReturnState
  · exact .bind (.when (perform_keeps _)) fun _ => rest s.scanReturnState

theorem setAWDLChannel_keepsRsn (channel : Nat) : KeepsRsn (setAWDLChannel channel) := by
  refine .bind .fetch fun s => .ite (.ret _) (.bind (.update fun _ => rfl) fun _ => ?_)
  refine .ite (.ret _) ?_
  split
  · exact .ret _
  · exact .bind (.update fun _ => rfl) fun _ => .bind (perform_keeps _) fun _ => .ret _

theorem scanDone_keepsRsn (aborted : Bool) : KeepsRsn (scanDone aborted) := by
  refine .bind (.when (.update fun _ => rfl)) fun _ => .bind ?_ fun _ => ?_
  · refine .bind .fetch fun s => .when ?_
    refine .bind (.when restoreConnectedChannel_keepsRsn) fun _ => ?_
    refine .bind (.update fun _ => rfl) fun _ => .bind .fetch fun s => .when ?_
    exact .bind (setAWDLChannel_keepsRsn _) fun _ => .ret _
  · exact .bind .fetch fun s => .when (perform_keeps _)

theorem cmdScan_keepsRsn : KeepsRsn cmdScan := by
  have manual (channels : List Channel) : KeepsRsn (startManualScan channels) :=
    .bind (.update fun _ => rfl) fun _ => .bind (.update fun _ => rfl) fun _ => .ret _
  have offloaded (channels : List Channel) : KeepsRsn (startHwScan channels) := by
    refine .bind (.update fun _ => rfl) fun _ => .bind (.await _) fun answer => ?_
    refine .ite (manual _) (.bind (.update fun _ => rfl) fun _ => ?_)
    exact .bind (.update fun _ => rfl) fun _ => .ret _
  have refuses (returnState : Rtw88State) (reason : IOReturn) :
      KeepsRsn (refuseScan returnState reason) :=
    .bind (.update fun _ => rfl) fun _ => .ret _
  have starts (returnState : Rtw88State) : KeepsRsn (startScan returnState) := by
    refine .bind .fetch fun s => .ite (refuses _ _) ?_
    refine .bind succeeds_keeps fun offload => .ite ?_ (offloaded _)
    exact .bind (.update fun _ => rfl) fun _ => manual _
  refine .bind .fetch fun s => .ite (.ret _) (.ite (.ret _) (.bind (.update fun _ => rfl) ?_))
  refine fun _ => .ite (starts _) (.bind succeeds_keeps fun allocated => .ite ?_ (refuses _ _))
  exact .bind (.update fun _ => rfl) fun _ => starts _

theorem doDisconnect_keepsRsn : KeepsRsn doDisconnect := by
  have submits (site : TxSite) (frame : Bytes) : KeepsRsn (txMgmtFrame site frame) := by
    refine .bind .fetch fun s => .ite (.ret _) (.bind succeeds_keeps fun built => ?_)
    refine .ite (.ret _) (.bind (.bind (.update fun _ => rfl) fun _ => ?_) fun _ => .ret _)
    exact perform_keeps _
  have tears : KeepsRsn tearDownLink := by
    refine .bind clearKeys_keepsRsn fun _ => .bind .fetch fun s => ?_
    refine .bind (submits _ _) fun _ => .bind (.update fun _ => rfl) fun _ => ?_
    refine .bind .fetch fun s => .bind (.when (perform_keeps _)) fun _ => ?_
    exact releaseSta_keepsRsn
  refine .bind .fetch fun s => .ite (.update fun _ => rfl) (.bind tears fun _ => ?_)
  refine .bind (.update fun _ => rfl) fun _ => .bind .fetch fun s => ?_
  exact .when (perform_keeps _)

theorem cmdDisconnect_keepsRsn : KeepsRsn cmdDisconnect := by
  have drains : KeepsRsn drainConnectCall := by
    refine .bind .choose fun answer => .bind (.update fun _ => rfl) fun _ => ?_
    exact .bind (perform_keeps _) fun _ => .update fun _ => rfl
  refine .bind (.bind (.update fun _ => rfl) fun _ => drains) fun _ => .bind .fetch fun s => ?_
  exact .bind (.when doDisconnect_keepsRsn) fun _ => .ret _

theorem cmdConnect_keepsRsn (args : ConnectArgs) : KeepsRsn (cmdConnect args) := by
  have connects : KeepsRsn (connectIdle args) := by
    refine .bind .fetch fun s => .ite (.ret _) (.ite (.ret _) (.ite (.ret _) ?_))
    refine .bind clearKeys_keepsRsn fun _ => .bind releaseSta_keepsRsn fun _ => ?_
    refine .bind .fetch fun s => ?_
    split
    · exact .ret _
    · refine .bind (.update fun _ => rfl) fun _ => .ite (.ret _) ?_
      exact .bind (.update fun _ => rfl) fun _ => .ret _
  exact .bind (abortActiveScan_keepsRsn true) fun idle => .ite connects (.ret _)

end M

/-- An element that is stored is whole. -/
theorem RsnOp.isRsnIe_of_stores {op : RsnOp} {ie : Bytes} (stores : op.stores = some ie) :
    isRsnIe ie = true := by
  cases op with
  | cmdSetAssocRsnIE given => exact (Option.filter_eq_some_iff.mp stores).2
  | handleASSOCIATE d =>
      simp only [RsnOp.stores] at stores
      split at stores
      · exact d.isRsnIe_of_rsnIe stores
      · cases stores
  | _ => cases stores

/-- `_assocRsnIE` and `_assocRsnIELen` are written. -/
def Ieee80211.storeRsn (s : Ieee80211) (ie : Bytes) : Ieee80211 :=
  { s with assocRsnIE := ie }

namespace M

/-- An element that is whole is stored. -/
theorem cmdSetAssocRsnIE_of_whole {given : Option Bytes} {ie : Bytes}
    (accepted : given.filter isRsnIe = some ie) :
    cmdSetAssocRsnIE given = (do
      Prog.update fun s => s.storeRsn ie
      return .success) := by
  unfold cmdSetAssocRsnIE
  rw [accepted]
  rfl

theorem cmdSetAssocRsnIE_of_broken {given : Option Bytes}
    (refused : given.filter isRsnIe = none) :
    cmdSetAssocRsnIE given = return .badArgument := by
  unfold cmdSetAssocRsnIE
  rw [refused]

end M

/-- The first block of an operation stores its element, and nothing else does. -/
theorem RsnOp.block_program (op : RsnOp) (answers : List Answer) (s : Ieee80211) :
    (op.program.block s answers).1.assocRsnIE = op.stores.getD s.assocRsnIE ∧
      (op.program.block s answers).2.Frames Ieee80211.assocRsnIE := by
  have returns {body : M Unit} (frames : M.KeepsRsn body) : M.KeepsRsn (M.returning body) :=
    frames.bind fun _ => .ret _
  cases op with
  | cmdSetAssocRsnIE ie =>
      rw [RsnOp.program, RsnOp.stores]
      cases accepted : ie.filter isRsnIe with
      | none =>
          rw [M.cmdSetAssocRsnIE_of_broken accepted]
          exact ⟨rfl, trivial⟩
      | some ie =>
          rw [M.cmdSetAssocRsnIE_of_whole accepted]
          exact ⟨rfl, trivial⟩
  | handleASSOCIATE d =>
      have connects : M.KeepsRsn (if !d.isSupported then pure .unsupported
          else M.cmdConnect d.connectArgs) := .ite (.ret _) (M.cmdConnect_keepsRsn _)
      rw [RsnOp.program, RsnOp.stores, M.handleASSOCIATE]
      cases d.isValid with
      | false => exact ⟨rfl, trivial⟩
      | true =>
          cases taken : d.rsnIe with
          | none => exact connects.block s answers
          | some ie =>
              have whole : (some ie).filter isRsnIe = some ie := by
                simp [d.isRsnIe_of_rsnIe taken]
              have first : (Prog.whenSome (some ie) fun ie => do
                  let _ ← M.cmdSetAssocRsnIE (some ie)
                  return () : M Unit) = Prog.update fun s => s.storeRsn ie := by
                change ((M.cmdSetAssocRsnIE (some ie)).bind fun _ => .ret ()) = _
                rw [M.cmdSetAssocRsnIE_of_whole whole]
                rfl
              rw [first]
              exact connects.block (s.storeRsn ie) answers
  | cmdConnect args => exact (M.cmdConnect_keepsRsn args).block s answers
  | cmdDisconnect => exact M.cmdDisconnect_keepsRsn.block s answers
  | doDisconnect => exact (returns M.doDisconnect_keepsRsn).block s answers
  | cmdScan => exact M.cmdScan_keepsRsn.block s answers
  | scanDone aborted => exact (returns (M.scanDone_keepsRsn aborted)).block s answers
  | elsewhere other => exact ⟨rfl, trivial⟩

namespace RsnHistory

/-- What was stored since the last disconnect was stored last. -/
def Recent (history : RsnHistory) : Prop :=
  ∀ ie, history.current = some ie → history.last = some ie

theorem recent_store {history : RsnHistory} (recent : history.Recent) (stored : Option Bytes) :
    (history.store stored).Recent := by
  cases stored with
  | none => exact recent
  | some ie => exact fun _ current => current

theorem last_started (history : RsnHistory) (op : RsnOp) :
    (history.started op).last = op.stores.or history.last := by
  have stores (stored : Option Bytes) : (history.store stored).last = stored.or history.last := by
    cases stored <;> rfl
  cases op with
  | cmdDisconnect | doDisconnect => rfl
  | _ => exact stores _

theorem recent_started {history : RsnHistory} (recent : history.Recent) (op : RsnOp) :
    (history.started op).Recent := by
  cases op with
  | cmdDisconnect | doDisconnect => exact nofun
  | _ => exact recent_store recent _

end RsnHistory

/-- The history knows the stored element, and suspended operations leave it alone. -/
structure RsnConfig.Sound (now : RsnConfig) : Prop where
  stored : now.1.state.assocRsnIE = now.2.last.getD []
  whole : ∀ ie, now.2.last = some ie → isRsnIe ie = true
  recent : now.2.Recent
  frames : now.1.Frames Ieee80211.assocRsnIE

theorem RsnConfig.Sound.turn {now : RsnConfig} (sound : now.Sound) {next : Turn Answer RsnOp}
    {move : Move Call Answer RsnOp IOReturn}
    {config : Config Ieee80211 Call Answer RsnOp IOReturn}
    (taken : associating.turn now.1 next = some (move, config)) :
    RsnConfig.Sound (config, RsnHistory.after next now.1.state now.2) := by
  cases next with
  | resume position answer answers =>
      obtain ⟨frames, same⟩ := sound.frames.resume taken
      exact ⟨same.trans sound.stored, sound.whole, sound.recent, frames⟩
  | start op answers =>
      have block := op.block_program answers now.1.state
      obtain ⟨frames, state⟩ := sound.frames.start taken block.2
      have last := now.2.last_started op
      have stored : config.state.assocRsnIE = op.stores.getD now.1.state.assocRsnIE :=
        state ▸ block.1
      refine ⟨?_, ?_, RsnHistory.recent_started sound.recent op, frames⟩
      · rw [stored, sound.stored, RsnHistory.after, last]
        cases op.stores <;> rfl
      · intro ie latest
        rw [RsnHistory.after, last] at latest
        cases stores : op.stores with
        | none =>
            rw [stores] at latest
            exact sound.whole ie latest
        | some given =>
            rw [stores] at latest
            obtain rfl : given = ie := Option.some.inj latest
            exact RsnOp.isRsnIe_of_stores stores

theorem RsnRuns.sound {s : Ieee80211} (initial : s.initial) {now : RsnConfig}
    (run : RsnRuns (⟨s, []⟩, .none) now) : now.Sound := by
  apply run.invariant RsnConfig.Sound
  · obtain ⟨attached, -, rfl⟩ := initial
    exact ⟨rfl, nofun, nofun, .nil _⟩
  · intro now next move config sound _ taken
    exact sound.turn taken

/-! ## What is handed out -/

namespace Ieee80211

variable {s : Ieee80211} {ie : Bytes}

theorem HandsOut.copied (handed : s.HandsOut ie) :
    ∃ capacity, s.copyTargetRsnIE capacity = .success ie := by
  rcases handed with copied | answered | ⟨len, answered⟩
  · exact copied
  · exact ⟨maxRsnIeLen, answered⟩
  · rw [handleAPIELIST] at answered
    split at answered
    · cases answered
    · split at answered
      · rename_i copied
        split at answered
        · cases answered
        · cases answered
          exact ⟨maxRsnIeLen, copied⟩
      · rename_i refused
        exact ⟨maxRsnIeLen, Option.some.inj answered⟩

/-- A stored element is what every request hands out. -/
theorem handsOut_iff_of_stored (whole : isRsnIe s.assocRsnIE = true) :
    s.HandsOut ie ↔ ie = s.assocRsnIE := by
  obtain ⟨long, -⟩ := of_decide_eq_true whole
  constructor
  · intro handed
    obtain ⟨capacity, copied⟩ := handed.copied
    rw [copyTargetRsnIE, if_pos long] at copied
    split at copied
    · cases copied
    · cases copied
      rfl
  · rintro rfl
    refine .inl ⟨s.assocRsnIE.length, ?_⟩
    rw [copyTargetRsnIE, if_pos long, if_neg (lt_irrefl _)]

/-- Without a stored element the requests hand out that of the target. -/
theorem HandsOut.of_target (empty : s.assocRsnIE = []) (handed : s.HandsOut ie) :
    s.targetBSS.rsnIe = some ie := by
  obtain ⟨capacity, copied⟩ := handed.copied
  rw [copyTargetRsnIE, if_neg (by simp [empty])] at copied
  split at copied
  · cases copied
  · rename_i own
    split at copied
    · cases copied
    · cases copied
      exact own

end Ieee80211

/-- What is handed out is fresh exactly when no element was ever stored, or one was stored since
the last disconnect, or the last one is the same as the target's own. -/
theorem RsnConfig.Sound.fresh_iff {now : RsnConfig} (sound : now.Sound) :
    now.Fresh ↔ now.2.last = none ∨ now.2.current.isSome = true ∨
      now.2.last = now.1.state.targetBSS.rsnIe := by
  have stored := sound.stored
  cases last : now.2.last with
  | none =>
      rw [last] at stored
      exact iff_of_true (fun ie handed => .inr (handed.of_target stored)) (.inl rfl)
  | some ie =>
      rw [last, Option.getD_some] at stored
      have whole : isRsnIe now.1.state.assocRsnIE = true := stored ▸ sound.whole ie last
      have fresh : now.Fresh ↔ now.2.current = some ie ∨ now.1.state.targetBSS.rsnIe = some ie := by
        simp only [RsnConfig.Fresh, Ieee80211.handsOut_iff_of_stored whole, stored, forall_eq]
      rw [fresh]
      constructor
      · rintro (current | own)
        · exact .inr (.inl (by simp [current]))
        · exact .inr (.inr own.symm)
      · rintro (none | current | own)
        · cases none
        · obtain ⟨other, known⟩ := Option.isSome_iff_exists.mp current
          have same := (sound.recent other known).symm.trans last
          exact .inl (known.trans same)
        · exact .inr own.symm

/-- In every run, in particular whenever `cmdConnect` has succeeded. -/
theorem rsnIe_fresh_iff {s : Ieee80211} (initial : s.initial) {now : RsnConfig}
    (run : RsnRuns (⟨s, []⟩, .none) now) :
    now.Fresh ↔ now.2.last = none ∨ now.2.current.isSome = true ∨
      now.2.last = now.1.state.targetBSS.rsnIe := by
  have sound := run.sound initial
  exact sound.fresh_iff

namespace Scenario

/-- An RSN element with this group cipher. -/
def rsnWithGroup (suite : UInt8) : Bytes :=
  [48, 20, 1, 0, 0, 15, 172, suite, 1, 0, 0, 15, 172, 4, 1, 0, 0, 15, 172, 2, 0, 0]

/-- A cached network with this name and this element. -/
def cached (name last : UInt8) (ies : Bytes) : Bss :=
  { Bss.empty with
    ssid := [name] ++ zeros 32
    ssidLen := 1
    bssid := [2, 0, 0, 0, 0, last]
    capabilities := 0x11
    cipher := cipherCcmp
    groupCipher := cipherCcmp
    akm := akmPsk
    ies := ies }

def named (name : UInt8) : ConnectArgs :=
  { toNetwork (some (zeros 32)) false with ssid := some [name] }

/-- An element is stored for the network "A"; then the station goes to "B". -/
def moved : List (Turn Answer RsnOp) :=
  [.start (.elsewhere { Ieee80211.started attachment with
      bssList := [cached 65 2 (rsnWithGroup 2), cached 66 3 (rsnWithGroup 4)] }) [],
    .start (.cmdSetAssocRsnIE (some (rsnWithGroup 2))) [],
    .start (.cmdConnect (named 65)) [],
    .start .doDisconnect [], .resume 0 default [], .resume 0 default [], .resume 0 default [],
    .start (.cmdConnect (named 66)) []]

def afterMove : Option RsnConfig :=
  associating.playRecorded RsnHistory.after (⟨.started attachment, []⟩, .none) moved

theorem afterMove_stale : (afterMove.any fun now =>
    now.1.state.state = .authenticating && now.2.last = some (rsnWithGroup 2) &&
      now.2.current = none && now.1.state.targetBSS.rsnIe = some (rsnWithGroup 4)) = true := by
  decide +kernel

theorem exists_afterMove : ∃ now, RsnRuns (⟨.started attachment, []⟩, .none) now ∧
    now.1.state.state = .authenticating ∧ now.2.last = some (rsnWithGroup 2) ∧
      now.2.current = none ∧ now.1.state.targetBSS.rsnIe = some (rsnWithGroup 4) := by
  obtain ⟨now, played, stale⟩ := Option.any_eq_true _ _ |>.mp afterMove_stale
  simp only [Bool.and_eq_true, decide_eq_true_eq, and_assoc] at stale
  exact ⟨now, System.recorded_of_play played fun _ _ _ _ => trivial, stale⟩

end Scenario

theorem rsnIe_fresh_iff_moved : ∃ now, RsnRuns (⟨.started Scenario.attachment, []⟩, .none) now ∧
    (now.Fresh ↔ now.2.last = none ∨ now.2.current.isSome = true ∨
      now.2.last = now.1.state.targetBSS.rsnIe) := by
  obtain ⟨now, run, -⟩ := Scenario.exists_afterMove
  exact ⟨now, run, rsnIe_fresh_iff ⟨Scenario.attachment, rfl, rfl⟩ run⟩

/-- After a successful `cmdConnect` the element of the network before is handed out. -/
theorem not_rsnIe_fresh : ¬ ∀ s : Ieee80211, s.initial → ∀ now : RsnConfig,
    RsnRuns (⟨s, []⟩, .none) now → now.1.state.state = .authenticating → now.Fresh := by
  intro always
  obtain ⟨now, run, connecting, last, current, own⟩ := Scenario.exists_afterMove
  have initial : (Ieee80211.started Scenario.attachment).initial :=
    ⟨Scenario.attachment, rfl, rfl⟩
  have fresh := (run.sound initial).fresh_iff.mp (always _ initial now run connecting)
  rw [last, current, own] at fresh
  revert fresh
  decide

end AirportRtw88
