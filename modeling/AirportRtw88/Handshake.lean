import AirportRtw88.Transmit

/-!
# The four-way handshake

`handleEAPOL` and `sendEAPOLKey`.  A message is recognised from the bits of its
key information field; there is no other handshake state.
-/

namespace AirportRtw88

open Interleave Bytes

namespace Bytes

/-- The length of an EAPOL frame by its own header. -/
def eapolLength (data : Bytes) : Nat :=
  4 + data.be16At 2

/-- The frame without what follows it in the buffer. -/
def eapolFrame (data : Bytes) : Bytes :=
  data.take data.eapolLength

def keyInfo (data : Bytes) : Nat :=
  data.be16At 5

def keyDataLen (data : Bytes) : Nat :=
  data.be16At 97

/-- The first checks of `handleEAPOL`. -/
def isEapolKey (data : Bytes) : Bool :=
  99 ≤ data.length ∧ data.byte 1 = 3 ∧ data.eapolLength ≤ data.length ∧
    99 ≤ data.eapolLength

def isM1 (data : Bytes) : Bool :=
  data.keyInfo &&& 0x0088 = 0x0088 ∧ data.keyInfo &&& 0x0100 = 0

def isM3 (data : Bytes) : Bool :=
  data.keyInfo &&& 0x01c8 = 0x01c8

/-- The key data of the frame. -/
def keyData (data : Bytes) : Bytes :=
  data.slice 99 data.keyDataLen

end Bytes

/-- The key data of an M3, unwrapped if it is encrypted. -/
def plainKeyData (kek data : Bytes) : Option Bytes :=
  if data.keyDataLen = 0 then some []
  else if data.keyInfo &&& 0x1000 ≠ 0 then aesUnwrap128 kek data.keyData
  else some data.keyData

/-- The fields of an EAPOL-Key frame up to its MIC. -/
def eapolKeyHead (bodyLen keyInfo : Nat) (replayCounter snonce : Bytes) : Bytes :=
  [2, 3] ++ be16 bodyLen ++ [2] ++ be16 keyInfo ++ [0, 16] ++ replayCounter ++ snonce ++
    zeros 32

namespace Ieee80211

/-- The key confirmation key, the key encryption key and the temporal key. -/
def kck (s : Ieee80211) : Bytes := s.ptk.take 16
def kek (s : Ieee80211) : Bytes := s.ptk.slice 16 16
def tk (s : Ieee80211) : Bytes := s.ptk.drop 32

/-- What an M1 leaves in the key fields; `random` is what `read_random` wrote. -/
def acceptM1 (s : Ieee80211) (data random : Bytes) : Ieee80211 :=
  let anonce := data.slice 17 32
  { s with
    anonce := anonce
    snonce := random
    ptk := derivePTK s.pmk anonce random s.macAddr s.targetBSS.bssid
    replayCtr := data.slice 9 8 }

/-- What an M3 leaves in the key fields before its keys are installed. -/
def acceptM3 (s : Ieee80211) (data : Bytes) : Ieee80211 :=
  { s with replayCtr := data.slice 9 8 }

/-- The frame `sendEAPOLKey` builds. -/
def eapolKeyFrame (s : Ieee80211) (step : Nat) (replayCounter : Bytes)
    (install ack mic : Bool) : Bytes :=
  let ki := 0x000A ||| (if mic then 0x0100 else 0) ||| (if install then 0x0040 else 0) |||
    (if ack then 0x0080 else 0) ||| (if step = 4 then 0x0200 else 0)
  let keyData := if step = 2 then rtw88BuildSelectedRsnIe s.targetBSS.groupCipher else []
  let head := eapolKeyHead (95 + keyData.length) ki replayCounter s.snonce
  let tail := be16 keyData.length ++ keyData
  let code :=
    if mic then (kernHmacSha1 s.kck (head ++ zeros 16 ++ tail)).take 16 else zeros 16
  s.targetBSS.bssid ++ s.macAddr ++ be16 ethPPae ++ head ++ code ++ tail

end Ieee80211

namespace M

def sendEAPOLKey (step : Nat) (replayCounter : Bytes) (install ack mic : Bool) :
    M Unit := do
  let s ← Prog.fetch
  let frame := s.eapolKeyFrame step replayCounter install ack mic
  let allocated ← succeeds
  Prog.when allocated do
    -- Number 0 is a packet that the class made itself.
    let _ ← txDataFrame ⟨0, frame⟩
    return ()

def eapolMicOk (kck eapol : Bytes) : M Bool := do
  if eapol.length < 99 then
    return false
  else if !(← succeeds) then
    return false
  else
    return eapolMicMatches kck eapol

/-- The keys of an M3 are in place: publish the connection. -/
def completeHandshake : M Unit := do
  let s ← Prog.fetch
  sendEAPOLKey 4 s.replayCtr false false true
  Prog.update fun s => (s.setState .connected).cancelTimeout
  let s ← Prog.fetch
  Prog.when s.parent (perform (.setLinkStatus true))
  startTxAggregation

/-- Install the keys of an M3 whose key data was read. -/
def installHandshakeKeys (gtk : Option GtkKde) : M Unit := do
  let installed ← installKey true 0 cipherCcmp Ieee80211.tk 16
  Prog.when installed do
    let s ← Prog.fetch
    let groupCipher :=
      if s.targetBSS.groupCipher = cipherTkip then cipherTkip else cipherCcmp
    match gtk.filter fun kde => kde.gtk ≠ [] with
    | none => completeHandshake
    | some kde =>
        let grouped ← installKey false (UInt8.ofNat kde.idx) groupCipher
          (fun _ => kde.gtk) kde.gtk.length
        Prog.when grouped completeHandshake

def handleM1 (data : Bytes) : M Unit := do
  let random ← Prog.choose
  Prog.update fun s => s.acceptM1 data ((random.bytes ++ zeros 32).take 32)
  let s ← Prog.fetch
  sendEAPOLKey 2 s.replayCtr false false true
  Prog.update fun s => s.wakeAtTime 5000

def handleM3 (data : Bytes) : M Unit := do
  let s ← Prog.fetch
  let verified ← eapolMicOk s.kck data.eapolFrame
  Prog.when (verified && decide (99 + data.keyDataLen ≤ data.eapolLength)) do
    Prog.whenSome (plainKeyData s.kek data) fun keyData => do
      Prog.update fun s => s.acceptM3 data
      installHandshakeKeys (extractGtkFromKde keyData)

def handleEAPOL (data : Bytes) : M Unit :=
  Prog.when data.isEapolKey do
    if data.isM1 then
      handleM1 data
    else
      Prog.when data.isM3 (handleM3 data)

end M

end AirportRtw88
