import AirportRtw88.Crypto
import AirportRtw88.Frame
import AirportRtw88.RxReorder
import AirportRtw88.Interleave.Prog

/-!
# The 802.11 state machine: data

The fields of `RTW88IEEE80211`, the requests it makes to the driver, to its
parent and to the kernel, and the primitive programs from which its functions
are written.  A pointer that is only tested for null or dereferenced is an
option, a fixed buffer is a byte string of its length and a counter that wraps
is a natural number below its modulus.
-/

namespace AirportRtw88

open Interleave Bytes

/-! ## Enumerations -/

inductive Rtw88State : Type where
  | idle
  | scanning
  | authenticating
  | associating
  | handshaking
  | connected
  | disconnecting
  deriving DecidableEq, Repr

/-- The values `_scanReturnState` takes: `cmdScan` stores a state other than
`IDLE` only when it is `CONNECTED`. -/
inductive ScanReturn : Type where
  | idle
  | connected
  deriving DecidableEq, Repr

def ScanReturn.state : ScanReturn → Rtw88State
  | .idle => .idle
  | .connected => .connected

inductive IOReturn : Type where
  | success
  | error
  | busy
  | badArgument
  | notReady
  | notFound
  | unsupported
  | noMemory
  | outputDropped
  deriving DecidableEq, Repr

inductive ChanWidth : Type where
  | width20NoHt
  | width40
  | width80
  deriving DecidableEq, Repr

/-! ## Frames and packets -/

/-- A received `sk_buff` with the fields of its RX status that are used.  The
number tells apart buffers with the same contents. -/
structure Skb where
  id : Nat
  data : Bytes
  signal : Int
  freq : Nat
  band : Nat
  deriving DecidableEq

structure Mbuf where
  id : Nat
  data : Bytes
  deriving DecidableEq

structure KeyConf where
  cipher : Nat
  keyidx : UInt8
  pairwise : Bool
  ivLen : Nat
  icvLen : Nat
  key : Bytes
  deriving DecidableEq

/-- A frame handed to `ops->tx`, with the fields of its TX info. -/
structure TxSkb where
  data : Bytes
  protocol : Nat
  queueMapping : Nat
  flags : Nat
  band : Nat
  hasSta : Bool
  hwKey : Option KeyConf
  deriving DecidableEq

def txCtlNoAck : Nat := 4
def txCtlFirstFragment : Nat := 16
def txCtlAmpdu : Nat := 64
def acBe : Nat := 2

/-! ## Hardware description -/

structure HtCap where
  cap : Nat
  htSupported : Bool
  ampduFactor : Nat
  ampduDensity : Nat
  rxMask : Bytes
  rxHighest : Nat
  txParams : Nat
  deriving DecidableEq

structure VhtCap where
  vhtSupported : Bool
  cap : Nat
  rxMcsMap : Nat
  rxHighest : Nat
  txMcsMap : Nat
  txHighest : Nat
  deriving DecidableEq

def htCapSupWidth20_40 : Nat := 0x0002
def htCapSgi40 : Nat := 0x0040
def htCapDsssCck40 : Nat := 0x1000

def HtCap.none : HtCap := ⟨0, false, 0, 0, zeros 10, 0, 0⟩

def VhtCap.none : VhtCap := ⟨false, 0, 0, 0, 0, 0⟩

/-- Without the 40 MHz bits. -/
def HtCap.narrow (cap : Nat) : Nat :=
  cap &&& (0xFFFF ^^^ (htCapSupWidth20_40 ||| htCapSgi40 ||| htCapDsssCck40))

structure Channel where
  band : Nat
  centerFreq : Nat
  hwValue : Nat
  flags : Nat
  deriving DecidableEq

def chanDisabled : Nat := 1
def chanNoIr : Nat := 2
def chanRadar : Nat := 128

structure SupportedBand where
  band : Nat
  channels : List Channel
  htCap : HtCap
  vhtCap : VhtCap
  deriving DecidableEq

/-- The operations of the driver that the source tests for null. -/
structure Ops where
  tx : Bool
  setKey : Bool
  staAdd : Bool
  staRemove : Bool
  bssInfoChanged : Bool
  hwScan : Bool
  cancelHwScan : Bool
  configureFilter : Bool
  start : Bool
  stop : Bool
  removeInterface : Bool
  deriving DecidableEq

structure Chandef where
  chan : Option Channel
  width : ChanWidth
  centerFreq1 : Int
  deriving DecidableEq

/-- `struct ieee80211_hw`; `start` refuses a driver without `wiphy` or `ops`. -/
structure Hw where
  ops : Ops
  bands : List (Option SupportedBand)
  chandef : Chandef
  deriving DecidableEq

/-- The association state of the virtual interface: `bss_conf` and `cfg`. -/
structure Vif where
  bssid : Bytes
  assoc : Bool
  aid : Nat
  qos : Bool
  cfgAssoc : Bool
  cfgAid : Nat
  deriving DecidableEq

structure Sta where
  addr : Bytes
  aid : Nat
  suppRates2g : Nat
  suppRates5g : Nat
  bandwidth : Nat
  htCap : HtCap
  vhtCap : VhtCap
  deriving DecidableEq

/-- `RTW88BSS`, without its list link. -/
structure Bss where
  ssid : Bytes
  ssidLen : Nat
  bssid : Bytes
  rssi : Int
  freq : Nat
  channel : Nat
  capabilities : Nat
  beaconInterval : Nat
  cipher : Nat
  groupCipher : Nat
  akm : Nat
  lastSeenScan : Nat
  ies : Bytes
  deriving DecidableEq

def Bss.empty : Bss where
  ssid := zeros 33
  ssidLen := 0
  bssid := zeros 6
  rssi := 0
  freq := 0
  channel := 0
  capabilities := 0
  beaconInterval := 0
  cipher := 0
  groupCipher := 0
  akm := 0
  lastSeenScan := 0
  ies := []

/-! ## Timers and thread calls -/

/-- An armed deadline.  `phase` is recorded for the specification: it tells in
which phase of the state machine the deadline was armed. -/
structure Deadline where
  ms : Nat
  phase : Nat
  deriving DecidableEq

/-- `struct rtw88_call`: the part of a thread call that the shim keeps. -/
structure ThreadCall where
  pending : Bool
  canceling : Bool
  running : Nat
  deriving DecidableEq

namespace ThreadCall

def idle : ThreadCall := ⟨false, false, 0⟩

/-- `rtw88_thread_call_enter`. -/
def enter (call : ThreadCall) : ThreadCall :=
  { call with pending := call.pending || !call.canceling }

/-- The first critical section of `rtw88_call_dispatch`. -/
def dispatch (call : ThreadCall) : ThreadCall :=
  { call with pending := false, running := call.running + 1 }

/-- The last critical section of `rtw88_call_dispatch`. -/
def finish (call : ThreadCall) : ThreadCall :=
  { call with running := call.running - 1 }

/-- `rtw88_thread_call_cancel_wait` up to its wait; `canceled` is whether the
native call was still queued. -/
def cancel (call : ThreadCall) (canceled : Bool) : ThreadCall :=
  { call with canceling := true, pending := call.pending && !canceled }

/-- The condition that `rtw88_thread_call_cancel_wait` waits for. -/
def drained (call : ThreadCall) : Bool :=
  !call.pending && call.running = 0

/-- The end of `rtw88_thread_call_cancel_wait`. -/
def resume (call : ThreadCall) : ThreadCall :=
  { call with canceling := false }

end ThreadCall

/-! ## The object -/

/-- The fields of `RTW88IEEE80211`.  The last ones are for the specification
only: `phase` counts the writes of `_state`, and the lists record the frames
handed to `ops->tx` (the last one first) and the buffers freed.  The buffers
that packets are encapsulated in are numbered when they are allocated; their
numbers are recorded when they are handed to `ops->tx` or freed. -/
structure Ieee80211 where
  state : Rtw88State
  connectCancelled : Bool
  deauthReason : Nat
  scanReturnState : ScanReturn
  powered : Bool
  pmkProvided : Bool
  externalSupplicant : Bool
  receiveMulticast : Bool
  awdlReceiveMode : Bool
  awdlChannel : Nat
  macAddr : Bytes
  timeoutMs : Nat
  bssList : List Bss
  bssCount : Nat
  scanGeneration : Nat
  scanRequest : Bool
  manualScanChannels : List Channel
  manualScanChannelCount : Nat
  manualScanAbort : Bool
  manualScanOnHomeChannel : Bool
  manualScanFallbackLogged : Bool
  targetBSS : Bss
  password : Bytes
  pmk : Bytes
  ptk : Bytes
  gtk : Bytes
  ptkConf : Option KeyConf
  gtkConf : Option KeyConf
  anonce : Bytes
  snonce : Bytes
  replayCtr : Bytes
  ccmpTxPn : Bytes
  rxCcmpIvSkipLogged : Bool
  wpa2 : Bool
  assocRsnIE : Bytes
  txSeq : Nat
  dataSeq : Nat
  awdlDataSeq : Nat
  assocAID : Nat
  txBaActive : Bool
  baTid : Nat
  connChanWidth : Nat
  baDialog : Nat
  baBufSize : Nat
  rxBa : RxBaTable Skb
  reorderTimer : Bool
  rssi : Int
  rxFrameCount : Nat
  parent : Bool
  delegate : Bool
  rtwdev : Bool
  hw : Option Hw
  vif : Option Vif
  sta : Option Sta
  timer : Option Deadline
  connectTC : ThreadCall
  manualScanTC : ThreadCall
  phase : Nat
  submitted : List TxSkb
  freedSkbs : List Skb
  freedMbufs : List Mbuf
  allocatedSkbs : Nat
  handedSkbs : List Nat
  droppedSkbs : List Nat

namespace Ieee80211

/-- `_hw && _hw->ops && _hw->ops->op`. -/
def hasOp (s : Ieee80211) (op : Ops → Bool) : Bool :=
  s.hw.any fun hw => op hw.ops

/-- `_state = next`. -/
def setState (s : Ieee80211) (next : Rtw88State) : Ieee80211 :=
  { s with state := next, phase := s.phase + 1 }

/-- `_timer->wakeAtTime`, with a deadline `ms` milliseconds ahead. -/
def wakeAtTime (s : Ieee80211) (ms : Nat) : Ieee80211 :=
  { s with timer := some ⟨ms, s.phase⟩ }

/-- `_timer->cancelTimeout`. -/
def cancelTimeout (s : Ieee80211) : Ieee80211 :=
  { s with timer := none }

def kfreeSkb (s : Ieee80211) (skb : Skb) : Ieee80211 :=
  { s with freedSkbs := skb :: s.freedSkbs }

def mbufFreem (s : Ieee80211) (m : Mbuf) : Ieee80211 :=
  { s with freedMbufs := m :: s.freedMbufs }

/-- `alloc_skb` returned a buffer. -/
def takeSkb (s : Ieee80211) : Ieee80211 :=
  { s with allocatedSkbs := s.allocatedSkbs + 1 }

/-- `kfree_skb` of such a buffer. -/
def dropSkb (s : Ieee80211) (number : Nat) : Ieee80211 :=
  { s with droppedSkbs := number :: s.droppedSkbs }

/-- `ops->tx` owns such a buffer. -/
def handSkb (s : Ieee80211) (number : Nat) : Ieee80211 :=
  { s with handedSkbs := number :: s.handedSkbs }

/-- `_txSeq++`. -/
def bumpTxSeq (s : Ieee80211) : Ieee80211 :=
  { s with txSeq := (s.txSeq + 1) % 65536 }

/-- A frame was handed to `ops->tx`. -/
def recordTx (s : Ieee80211) (skb : TxSkb) : Ieee80211 :=
  { s with submitted := skb :: s.submitted }

def withConnectTC (s : Ieee80211) (call : ThreadCall) : Ieee80211 :=
  { s with connectTC := call }

def withManualScanTC (s : Ieee80211) (call : ThreadCall) : Ieee80211 :=
  { s with manualScanTC := call }

def modifyVif (s : Ieee80211) (change : Vif → Vif) : Ieee80211 :=
  { s with vif := s.vif.map change }

def modifyChandef (s : Ieee80211) (change : Chandef → Chandef) : Ieee80211 :=
  { s with hw := s.hw.map fun hw => { hw with chandef := change hw.chandef } }

/-- `_state == CONNECTED`, or a scan that returns there. -/
def connectedOrScanning (s : Ieee80211) : Bool :=
  s.state = .connected ∨ (s.state = .scanning ∧ s.scanReturnState = .connected)

/-- `_targetBSS.channel > 14` as a band index. -/
def targetBand (s : Ieee80211) : Nat :=
  if s.targetBSS.channel > 14 then 1 else 0

/-- The band table of the target. -/
def targetSupportedBand (s : Ieee80211) : Option SupportedBand :=
  (s.hw.bind fun hw => hw.bands[s.targetBand]?).join

def htAllowed (s : Ieee80211) : Bool :=
  s.targetBSS.cipher ≠ cipherTkip ∧ s.targetBSS.groupCipher ≠ cipherTkip

end Ieee80211

/-! ## Requests -/

/-- The places that test `authenticationCancelled()`. -/
inductive CancelCheck : Type where
  | authResponse
  | associate
  | associateSent
  | assocResponse
  | authenticateEntry
  | authenticateScanWait
  | authenticateScanDone
  | authenticateSettled
  | authenticateSetup
  | authenticateSend
  | authenticateSent
  | retry
  deriving DecidableEq, Repr

/-- The functions that hand frames to `ops->tx`. -/
inductive TxSite : Type where
  | authenticate
  | associate
  | deauth
  | blockAck
  | nullFunc
  | probe
  | data
  | awdl
  | raw
  deriving DecidableEq, Repr

/-- Who calls `ops->set_key`. -/
inductive KeyUser : Type where
  | clearKeys
  | installKey
  deriving DecidableEq, Repr

/-- The requests at which another thread may run: calls of the driver, of the
parent and of the kernel, and the atomic loads of `_connectCancelled`, which
are issued right after the load with the value loaded.  `deliver` marks the
entry of `deliverDataFrame`, with `_rxBaLock` dropped; `injectRxFrame` names
the 802.11 frame its Ethernet frame comes from. -/
inductive Call : Type where
  | load (check : CancelCheck) (cancelled : Bool)
  | cancelWait
  | cancelWaitManualScan
  | sleep (ms : Nat)
  | tx (site : TxSite) (skb : TxSkb)
  | setKey (user : KeyUser) (install pairwise : Bool) (key : KeyConf)
  | staAdd (sta : Sta)
  | staRemove
  | bssInfoChanged (assoc qos : Bool)
  | hwScan (channels : List Channel)
  | cancelHwScan
  | configureFilter (changed flags : Nat)
  | start
  | stop
  | removeInterface
  | connectHwSetup (bssid : Bytes)
  | restoreConnectedHw (bssid : Bytes)
  | awdlSwitchChannel
  | swScanStart
  | swScanSwitchChannel
  | swScanComplete
  | pciRemove
  | setLinkStatus (active : Bool)
  | allocateInputPacket (len : Nat)
  | injectRxFrame (source : Skb) (frame : Bytes)
  | injectRxActionFrame (frame : Bytes) (channel : Nat)
  | injectRxAWDLFrame (frame : Bytes)
  | scanDoneEvent (aborted : Bool)
  | deliver (skb : Skb)
  deriving DecidableEq

/-- What the surroundings answer: a return code, which is zero on success, and
bytes. -/
structure Answer where
  code : Int
  bytes : Bytes
  deriving DecidableEq

instance : Inhabited Answer := ⟨⟨0, []⟩⟩

/-- The functions of the class are programs over its fields. -/
abbrev M : Type → Type := Prog Ieee80211 Call Answer

namespace M

/-- Whether an allocation or a copy succeeds. -/
def succeeds : M Bool := do
  let answer ← Prog.choose
  return answer.code = 0

/-- A call whose return value is not used. -/
def perform (call : Call) : M Unit := do
  let _ ← Prog.await call
  return ()

/-- `authenticationCancelled()`. -/
def authenticationCancelled (check : CancelCheck) : M Bool := do
  let s ← Prog.fetch
  perform (.load check s.connectCancelled)
  return s.connectCancelled

/-- Hand a frame to `ops->tx`. -/
def submit (site : TxSite) (skb : TxSkb) : M Unit := do
  Prog.update fun s => s.recordTx skb
  perform (.tx site skb)

end M

end AirportRtw88
