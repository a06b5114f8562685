import AirportRtw88.State

/-!
# Keys and the peer station

`clearKeys`, `releaseSta` and `installKey`, and the reorder buffers torn down
with the station.
-/

namespace AirportRtw88

open Interleave Bytes

namespace Ieee80211

/-- What a critical section under `_rxBaLock` leaves in the fields. -/
def leaveRxBa (s : Ieee80211) (outcome : RxBaOutcome Skb) : Ieee80211 :=
  { s with rxBa := outcome.table, freedSkbs := outcome.freed.reverse ++ s.freedSkbs }

/-- `rxBaTeardown`. -/
def rxBaTeardown (s : Ieee80211) (tid : Nat) : Ieee80211 :=
  s.leaveRxBa (AirportRtw88.rxBaTeardown s.rxBa tid)

/-- `rxBaTeardownAll`. -/
def rxBaTeardownAll (s : Ieee80211) : Ieee80211 :=
  let swept := (List.range kRxBaNumTid).foldl rxBaTeardown s
  { s with rxBa := swept.rxBa, freedSkbs := swept.freedSkbs }

/-- The key material that `clearKeys` zeroes. -/
def wipeKeys (s : Ieee80211) : Ieee80211 :=
  { s with
    ptkConf := none
    gtkConf := none
    pmk := zeros 32
    password := zeros 64
    pmkProvided := false
    ptk := zeros 64
    gtk := zeros 32
    ccmpTxPn := zeros 6
    rxCcmpIvSkipLogged := false }

/-- `_ptkConf` or `_gtkConf`. -/
def keySlot (s : Ieee80211) (pairwise : Bool) : Option KeyConf :=
  if pairwise then s.ptkConf else s.gtkConf

def setKeySlot (s : Ieee80211) (pairwise : Bool) (key : Option KeyConf) : Ieee80211 :=
  { s with
    ptkConf := if pairwise then key else s.ptkConf
    gtkConf := if pairwise then s.gtkConf else key }

/-- A successful pairwise installation restarts the packet number. -/
def resetTxPn (s : Ieee80211) (pairwise : Bool) : Ieee80211 :=
  { s with ccmpTxPn := if pairwise then zeros 6 else s.ccmpTxPn }

/-- What `releaseSta` resets once the driver has removed the station. -/
def forgetSta (s : Ieee80211) : Ieee80211 :=
  { s with sta := none, txBaActive := false, dataSeq := 0 }

end Ieee80211

namespace M

/-- `DISABLE_KEY` for the key in a slot, if there is one. -/
def disableKey (pairwise : Bool) : M Unit := do
  let s ← Prog.fetch
  Prog.whenSome (s.keySlot pairwise) fun key =>
    perform (.setKey .clearKeys false pairwise key)

def clearKeys : M Unit := do
  let s ← Prog.fetch
  Prog.when (s.powered && s.hasOp Ops.setKey) do
    disableKey true
    disableKey false
  Prog.update Ieee80211.wipeKeys

def releaseSta : M Unit := do
  let s ← Prog.fetch
  Prog.when s.sta.isSome do
    Prog.when (s.hasOp Ops.staRemove && s.vif.isSome) (perform .staRemove)
    Prog.update fun s => s.forgetSta.rxBaTeardownAll

/-- The arguments that `installKey` accepts. -/
def keyAccepted (cipher tkLen : Nat) : Bool :=
  (cipher = cipherCcmp ∧ tkLen = 16) ∨ (cipher = cipherTkip ∧ tkLen = 32)

/-- `installKey` for the slot of `pairwise`.  The key is read through its
pointer when it is copied, after the old key was disabled. -/
def installKey (pairwise : Bool) (keyidx : UInt8) (cipher : Nat)
    (tk : Ieee80211 → Bytes) (tkLen : Nat) : M Bool := do
  let s ← Prog.fetch
  if !(s.hasOp Ops.setKey) || !(keyAccepted cipher tkLen) then
    return false
  else
    Prog.whenSome (s.keySlot pairwise) fun old => do
      perform (.setKey .installKey false pairwise old)
      Prog.update fun s => s.setKeySlot pairwise none
    if !(← succeeds) then
      return false
    else
      let s ← Prog.fetch
      let key : KeyConf :=
        { cipher, keyidx, pairwise, ivLen := 8,
          icvLen := if cipher = cipherTkip then 4 else 8,
          key := (tk s).take tkLen }
      let answer ← Prog.await (.setKey .installKey true pairwise key)
      if answer.code ≠ 0 then
        return false
      else
        Prog.update fun s => (s.setKeySlot pairwise (some key)).resetTxPn pairwise
        return true

end M

end AirportRtw88
