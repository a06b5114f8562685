import AirportRtw88.CheckedFrame
import Mathlib.Algebra.Order.BigOperators.Group.List
import Mathlib.Algebra.Order.Ring.Nat

/-!
# The parsers of data frames, with checked accesses

The classification of data frames, the split of A-MSDUs, the frames of the handshake and their key
data, and the arrays of the reorder buffers.
-/

namespace AirportRtw88

open Bytes

/-- The 32-bit sums of `deAmsdu` do not wrap for frames of this length: the length field of a
subframe is less than 65536. -/
def Skb.Short (skb : Skb) : Prop :=
  skb.data.length + 65536 ≤ 4294967296

/-- The lengths of the frame have 32 bits, and so have the sums of `deAmsdu` if it is an
A-MSDU. -/
structure Skb.Fits (skb : Skb) : Prop where
  small : skb.data.length < 4294967296
  amsdu : skb.data.isAmsdu = true → skb.Short

namespace Checked

/-! ## Data frames -/

/-- `ieee80211_get_hdrlen_from_skb`. -/
def hdrLen (frame : Bytes) : Option Nat := do
  let fc ← frame.readLe16 0
  let hasA4 := fc &&& (fctlToDS ||| fctlFromDS) = (fctlToDS ||| fctlFromDS)
  let isQos := fc &&& 0x0080 ≠ 0 ∧ fc &&& 0x000c = ftypeData
  return 24 + (if hasA4 then 6 else 0) + (if isQos then 2 else 0)

/-- `ieee80211_is_data_qos`. -/
def isDataQos (frame : Bytes) : Option Bool := do
  let fc ← frame.readLe16 0
  return fc &&& (0x000c ||| 0x0080) = ftypeData ||| 0x0080

/-- The address filter of `processRxData`. -/
def fromOurAp (s : Ieee80211) (frame : Bytes) : Option Bool := do
  let fc ← frame.readLe16 0
  let addr1 ← frame.copy 4 6
  let addr2 ← frame.copy 10 6
  return fc &&& fctlFromDS ≠ 0 ∧ (addr1 = s.macAddr ∨ isMulticastEtherAddr addr1) ∧
    addr2 = s.targetBSS.bssid

/-- The reorder buffer that takes a frame, looked up in the array `_rxBa`. -/
def reorderTid (s : Ieee80211) (frame : Bytes) (n : Nat) :
    Option (Option (Fin kRxBaNumTid)) := do
  let qos ← isDataQos frame
  if !qos then return none
  let hdrlen ← hdrLen frame
  if n < hdrlen then return none
  let control ← frame.read (hdrlen - 2)
  if inside : (control &&& 0x0f).toNat < kRxBaNumTid then
    let tid : Fin kRxBaNumTid := ⟨_, inside⟩
    return if (s.rxBa tid).any RxReorder.active then some tid else none
  else return none

/-- The A-MSDU bit of the QoS control field. -/
def isAmsdu (frame : Bytes) (hdrlen : Nat) : Option Bool := do
  let qos ← isDataQos frame
  if !qos then return false
  let control ← frame.read (hdrlen - 2)
  return control &&& 0x80 ≠ 0

/-- `ieee80211_has_protected`. -/
def hasProtected (frame : Bytes) : Option Bool := do
  let fc ← frame.readLe16 0
  return fc &&& fctlProtected ≠ 0

/-- Whether the bytes at an offset start with the SNAP header. -/
def isSnap (frame : Bytes) (llc : Nat) : Option Bool := do
  let first ← frame.read llc
  let second ← frame.read (llc + 1)
  let third ← frame.read (llc + 2)
  return first = 0xAA ∧ second = 0xAA ∧ third = 0x03

/-- A single MSDU still carries its CCMP header. -/
def carriesCcmpIv (frame : Bytes) (n hdrlen : Nat) : Option Bool := do
  let plain ← isSnap frame hdrlen
  let sealed ← hasProtected frame
  if plain ∨ ¬ sealed ∨ n < hdrlen + 8 + 8 then return false
  isSnap frame (hdrlen + 8)

/-- The EtherType behind the SNAP header at an offset. -/
def llcEthertype (frame : Bytes) (llc : Nat) : Option Nat := do
  let snap ← isSnap frame llc
  if !snap then return 0
  frame.readBe16 (llc + 6)

/-- The arguments of `deliverEthernet` for a single MSDU. -/
def singleMsdu (frame : Bytes) (n payloadOff ethertype : Nat) : Option Msdu := do
  let da ← frame.copy 4 6
  let sa ← frame.copy 16 6
  let payload ← frame.copy (payloadOff + 8) (sub32 n (payloadOff + 8))
  return ⟨da, sa, ethertype, payload⟩

/-- `deAmsdu`, from the subframe at `pos` on. -/
def deAmsdu : Nat → Bytes → Nat → Nat → Option (List Msdu)
  | 0, _, _, _ => some []
  | fuel + 1, data, len, pos => do
      if u32 (pos + 14) > len then return []
      let sublen ← data.readBe16 (pos + 12)
      if sublen < 8 ∨ u32 (pos + 14 + sublen) > len then return []
      let snap ← isSnap data (pos + 14)
      let next := u32 (pos + (14 + sublen + 3) / 4 * 4)
      if !snap then deAmsdu fuel data len next
      else
        let ethertype ← data.readBe16 (pos + 14 + 6)
        let da ← data.copy pos 6
        let sa ← data.copy (pos + 6) 6
        let payload ← data.copy (pos + 14 + 8) (sublen - 8)
        let later ← deAmsdu fuel data len next
        return ⟨da, sa, ethertype, payload⟩ :: later

/-- The MSDU of an AWDL data frame, by `tryDeliverAWDLDataFrame`. -/
def awdlMsdu (frame : Bytes) (n : Nat) : Option (Option Msdu) := do
  if n < 24 + 8 + 8 then return none
  let fc ← frame.readLe16 0
  if fc &&& (fctlToDS ||| fctlFromDS) ≠ 0 then return none
  let addr3 ← frame.copy 16 6
  if addr3 ≠ awdlBssid then return none
  let hdrlen ← hdrLen frame
  if hdrlen < 24 ∨ n < hdrlen + 16 then return none
  let magic ← frame.copy hdrlen 10
  if magic ≠ M.awdlMagic then return none
  let ethertype ← frame.readBe16 (hdrlen + 8 + 6)
  let da ← frame.copy 4 6
  let sa ← frame.copy 10 6
  let payload ← frame.copy (hdrlen + 16) (sub32 n (hdrlen + 16))
  return some ⟨da, sa, ethertype, payload⟩

section Data

variable {frame : Bytes}

theorem hdrLen_eq (long : 24 ≤ frame.length) : hdrLen frame = some frame.hdrLen := by
  unfold hdrLen
  rw [readLe16_eq (by omega)]
  rfl

theorem isDataQos_eq (long : 24 ≤ frame.length) : isDataQos frame = some frame.isDataQos := by
  unfold isDataQos
  rw [readLe16_eq (by omega)]
  rfl

theorem hasProtected_eq (long : 24 ≤ frame.length) :
    hasProtected frame = some frame.hasProtected := by
  unfold hasProtected
  rw [readLe16_eq (by omega)]
  rfl

theorem fromOurAp_eq (s : Ieee80211) (long : 24 ≤ frame.length) :
    fromOurAp s frame = some (s.fromOurAp frame) := by
  unfold fromOurAp
  rw [readLe16_eq (by omega), copy_eq (by omega), copy_eq (by omega)]
  rfl

theorem le_hdrLen (frame : Bytes) : 24 ≤ frame.hdrLen := by
  unfold Bytes.hdrLen
  exact Nat.le_add_right_of_le (Nat.le_add_right 24 _)

theorem reorderTid_eq (s : Ieee80211) (long : 24 ≤ frame.length) :
    reorderTid s frame frame.length = some (s.reorderTid frame) := by
  have header := le_hdrLen frame
  unfold reorderTid Ieee80211.reorderTid
  rw [isDataQos_eq long, hdrLen_eq long]
  simp only [Option.bind_eq_bind, Option.bind_some]
  by_cases qos : frame.isDataQos = true
  · rw [if_neg (by simp [qos])]
    by_cases cut : frame.length < frame.hdrLen
    · rw [if_pos cut, dif_neg (by omega)]
      rfl
    rw [if_neg cut, read_eq (by omega)]
    simp only [Option.bind_some]
    split
    · rename_i inside
      rw [dif_pos ⟨qos, by omega, inside⟩]
      rfl
    · rename_i outside
      rw [dif_neg fun all => outside all.2.2]
      rfl
  · rw [if_pos (by simp [qos]), dif_neg fun all => qos all.1]
    rfl

theorem isAmsdu_eq (long : 24 ≤ frame.length) (whole : frame.hdrLen ≤ frame.length) :
    isAmsdu frame frame.hdrLen = some frame.isAmsdu := by
  have header := le_hdrLen frame
  unfold isAmsdu Bytes.isAmsdu
  rw [isDataQos_eq long]
  cases qos : frame.isDataQos with
  | false => simp
  | true =>
      rw [read_eq (by omega)]
      simp

theorem isSnap_eq {llc : Nat} (inside : llc + 3 ≤ frame.length) :
    isSnap frame llc = some (Bytes.isSnap (frame.drop llc)) := by
  unfold isSnap Bytes.isSnap
  rw [read_eq (by omega), read_eq (by omega), read_eq (by omega)]
  simp only [byte_drop]
  rfl

theorem carriesCcmpIv_eq (room : frame.hdrLen + 8 ≤ frame.length) :
    carriesCcmpIv frame frame.length frame.hdrLen = some frame.carriesCcmpIv := by
  have header := le_hdrLen frame
  unfold carriesCcmpIv Bytes.carriesCcmpIv
  rw [isSnap_eq (by omega), hasProtected_eq (by omega)]
  simp only [Option.bind_eq_bind, Option.bind_some]
  split
  · rename_i without
    refine congrArg some (Eq.symm (decide_eq_false fun all => ?_))
    rcases without with plain | opened | short
    · exact all.1 plain
    · exact opened all.2.1
    · omega
  · rename_i sealed
    rw [isSnap_eq (by omega)]
    simp only [not_or, not_not, Nat.not_lt] at sealed
    simp [sealed.1, sealed.2.1, sealed.2.2]

theorem llcEthertype_eq {llc : Nat} (inside : llc + 8 ≤ frame.length) :
    llcEthertype frame llc = some (Bytes.llcEthertype (frame.drop llc)) := by
  unfold llcEthertype Bytes.llcEthertype
  rw [isSnap_eq (by omega), readBe16_eq (by omega), be16At_drop]
  cases Bytes.isSnap (frame.drop llc) <;> rfl

/-- The LLC bytes of a single MSDU are inside the frame. -/
theorem payloadOffset_le (room : frame.hdrLen + 8 ≤ frame.length) :
    frame.payloadOffset + 8 ≤ frame.length := by
  unfold payloadOffset
  cases sealed : frame.carriesCcmpIv with
  | false => exact room
  | true =>
      simp only [Bytes.carriesCcmpIv, decide_eq_true_eq] at sealed
      exact sealed.2.2.1

theorem singleMsdu_eq (room : frame.hdrLen + 8 ≤ frame.length) (small : frame.length < 4294967296) :
    singleMsdu frame frame.length frame.payloadOffset frame.llc.llcEthertype =
      some (AirportRtw88.singleMsdu frame) := by
  have header := le_hdrLen frame
  have inside := payloadOffset_le room
  unfold singleMsdu AirportRtw88.singleMsdu
  rw [sub32_eq inside small, copy_eq (by omega), copy_eq (by omega), copy_eq (by omega)]
  have payload : frame.slice (frame.payloadOffset + 8) (frame.length - (frame.payloadOffset + 8)) =
      frame.llc.drop 8 := by
    rw [Bytes.llc, List.drop_drop, slice, List.take_of_length_le (by simp)]
  rw [payload]
  rfl

theorem deAmsdu_eq {data : Bytes} (short : data.length + 65536 ≤ 4294967296) (fuel : Nat)
    {pos : Nat} (bound : pos ≤ data.length + 3) :
    deAmsdu fuel data data.length pos = some (amsduMsdus fuel (data.drop pos)) := by
  induction fuel generalizing pos with
  | zero => rfl
  | succ fuel ih =>
      unfold deAmsdu amsduMsdus
      simp only [List.length_drop, be16At_drop, slice_drop, List.drop_drop]
      rw [u32_eq (by omega)]
      by_cases ended : pos + 14 > data.length
      · rw [if_pos ended, if_pos (by omega)]
        rfl
      have sublen_lt := data.be16At_lt (pos + 12)
      rw [if_neg ended, if_neg (by omega), readBe16_eq (by omega)]
      simp only [Option.bind_eq_bind, Option.bind_some]
      generalize data.be16At (pos + 12) = sublen at sublen_lt ⊢
      rw [u32_eq (by omega)]
      by_cases cut : sublen < 8 ∨ pos + 14 + sublen > data.length
      · rw [if_pos cut, if_pos (by omega)]
        rfl
      have next : pos + (14 + sublen + 3) / 4 * 4 ≤ data.length + 3 := by omega
      rw [if_neg cut, if_neg (by omega), isSnap_eq (by omega), u32_eq (by omega)]
      simp only [Option.bind_some, ih next]
      cases Bytes.isSnap (data.drop (pos + 14)) with
      | false => rfl
      | true =>
          rw [readBe16_eq (by omega), copy_eq (by omega), copy_eq (by omega), copy_eq (by omega)]
          rfl

theorem awdlMsdu_eq (small : frame.length < 4294967296) :
    awdlMsdu frame frame.length =
      some (if M.isAwdlData frame then
        some ⟨frame.addr1, frame.addr2, Bytes.be16At (frame.drop (frame.hdrLen + 8)) 6,
          (frame.drop (frame.hdrLen + 8)).drop 8⟩ else none) := by
  have header := le_hdrLen frame
  unfold awdlMsdu M.isAwdlData
  by_cases short : frame.length < 24 + 8 + 8
  · rw [if_pos short, if_neg (by simp; omega)]
    rfl
  rw [if_neg short, readLe16_eq (by omega), copy_eq (by omega), hdrLen_eq (by omega)]
  simp only [Option.bind_eq_bind, Option.bind_some, decide_eq_true_eq]
  by_cases direct : frame.frameControl &&& (fctlToDS ||| fctlFromDS) = 0
  swap
  · rw [if_pos (show frame.le16At 0 &&& _ ≠ 0 from direct), if_neg fun all => direct all.2.1]
    rfl
  rw [if_neg (show ¬ frame.le16At 0 &&& _ ≠ 0 from not_not.mpr direct)]
  by_cases awdl : frame.addr3 = awdlBssid
  swap
  · rw [if_pos (show frame.slice 16 6 ≠ _ from awdl), if_neg fun all => awdl all.2.2.1]
    rfl
  rw [if_neg (show ¬ frame.slice 16 6 ≠ _ from not_not.mpr awdl)]
  by_cases cut : frame.length < frame.hdrLen + 16
  · rw [if_pos (.inr cut), if_neg fun all => Nat.not_le.mpr cut all.2.2.2.1]
    rfl
  rw [if_neg (by omega), copy_eq (by omega), readBe16_eq (by omega)]
  simp only [Option.bind_some]
  by_cases magic : frame.slice frame.hdrLen 10 = M.awdlMagic
  swap
  · rw [if_pos magic, if_neg fun all => magic all.2.2.2.2]
    rfl
  have payload : frame.slice (frame.hdrLen + 16) (frame.length - (frame.hdrLen + 16)) =
      (frame.drop (frame.hdrLen + 8)).drop 8 := by
    rw [List.drop_drop, slice, List.take_of_length_le (by simp)]
  have taken : 40 ≤ frame.length ∧ frame.frameControl &&& (fctlToDS ||| fctlFromDS) = 0 ∧
      frame.addr3 = awdlBssid ∧ frame.hdrLen + 16 ≤ frame.length ∧
      frame.slice frame.hdrLen 10 = M.awdlMagic := ⟨by omega, direct, awdl, by omega, magic⟩
  rw [if_neg (not_not.mpr magic), sub32_eq (by omega) small, copy_eq (by omega),
    copy_eq (by omega), copy_eq (by omega), payload, if_pos taken, be16At_drop]
  rfl

end Data

/-! ## The handshake -/

/-- The first checks of `handleEAPOL`. -/
def isEapolKey (data : Bytes) (len : Nat) : Option Bool := do
  if len < 99 then return false
  let type ← data.read 1
  if type ≠ 3 then return false
  let bodyLen ← data.readBe16 2
  return ¬ (4 + bodyLen > len ∨ 4 + bodyLen < 99)

/-- The copy of the frame that `eapol_mic_ok` makes, with the MIC in it overwritten. -/
def eapolMicInput (data : Bytes) (eapolLen : Nat) : Option Bytes := do
  let tmp ← data.copy 0 eapolLen
  let _ ← tmp.copy 81 16
  store eapolLen 81 16
  return tmp

/-- The rounds of `aes_unwrap_128` over the blocks in `r[32][8]`. -/
def unwrapRounds (kek : Bytes) (n : Nat) (start : Bytes × List Bytes) :
    Option (Bytes × List Bytes) :=
  [5, 4, 3, 2, 1, 0].foldlM (fun current j =>
    (List.range n).reverse.foldlM (fun current i => do
      store 32 i 1
      return unwrapStep kek n j i current) current) start

/-- `aes_unwrap_128`, with the arrays `r[32][8]` and `unwrapped[256]`. -/
def aesUnwrap128 (kek input : Bytes) (inLen : Nat) : Option (Option Bytes) := do
  if inLen < 16 ∨ inLen % 8 ≠ 0 then return none
  let n := inLen / 8 - 1
  if n = 0 ∨ n > 32 then return none
  let a ← input.copy 0 8
  let r ← (List.range n).mapM fun i => do
    store 32 i 1
    input.copy (8 + i * 8) 8
  let final ← unwrapRounds kek n (a, r)
  if final.1 ≠ List.replicate 8 0xa6 then return none
  forM (List.range n) fun i => store 256 (i * 8) 8
  return some final.2.flatten

/-- The walk of `extract_gtk_from_kde` from the 16-bit offset `pos` on. -/
def extractGtkFrom : Nat → Bytes → Nat → Nat → Option (Option GtkKde)
  | 0, _, _, _ => some none
  | fuel + 1, keyData, keyDataLen, pos => do
      if pos + 2 > keyDataLen then return none
      let id ← keyData.read pos
      let len ← keyData.read (pos + 1)
      let len := len.toNat
      if pos + 2 + len > keyDataLen then return none
      let isGtk ← if id = 0xdd ∧ len ≥ 6 then do
          let oui ← keyData.copy (pos + 2) 4
          pure (decide (oui = [0x00, 0x0f, 0xac, 0x01]))
        else pure false
      if isGtk then
        if len - 6 > 32 then return none
        let idx ← keyData.read (pos + 2 + 4)
        store 32 0 (len - 6)
        let gtk ← keyData.copy (pos + 2 + 6) (len - 6)
        return some ⟨gtk, (idx &&& 0x3).toNat⟩
      else extractGtkFrom fuel keyData keyDataLen ((pos + 2 + len) % 65536)

/-- `extract_gtk_from_kde`. -/
def extractGtkFromKde (keyData : Bytes) (keyDataLen : Nat) : Option (Option GtkKde) :=
  extractGtkFrom (keyDataLen + 1) keyData keyDataLen 0

/-- What `handleEAPOL` reads of the key data of an M3. -/
def handshakeGtk (kek data : Bytes) (keyInfo keyDataLen : Nat) :
    Option (Option (Option GtkKde)) := do
  if keyDataLen = 0 then return some none
  if keyInfo &&& 0x1000 ≠ 0 then
    match ← aesUnwrap128 kek (data.drop 99) keyDataLen with
    | none => return none
    | some unwrapped =>
        let gtk ← extractGtkFromKde unwrapped unwrapped.length
        return some gtk
  else
    let gtk ← extractGtkFromKde (data.drop 99) keyDataLen
    return some gtk

theorem isEapolKey_eq (data : Bytes) : isEapolKey data data.length = some data.isEapolKey := by
  unfold isEapolKey Bytes.isEapolKey
  by_cases short : data.length < 99
  · rw [if_pos short]
    simp [Nat.not_le.mpr short]
  rw [if_neg short, read_eq (by omega), readBe16_eq (by omega)]
  simp only [Option.bind_eq_bind, Option.bind_some]
  have long : 99 ≤ data.length := by omega
  split
  · rename_i other
    simp [other]
  · rename_i key
    simp only [not_not] at key
    simp [long, key, eapolLength]

theorem eapolMicInput_eq {data : Bytes} {eapolLen : Nat} (long : 99 ≤ eapolLen)
    (bound : eapolLen ≤ data.length) : eapolMicInput data eapolLen = some (data.take eapolLen) := by
  have length : (data.take eapolLen).length = eapolLen := List.length_take_of_le bound
  unfold eapolMicInput
  rw [copy_eq (by omega), store_eq (by omega)]
  simp only [Option.bind_eq_bind, Option.bind_some, slice, List.drop_zero]
  rw [copy_eq (by omega)]
  rfl

theorem foldlM_eq_some {α β : Type} {elements : List α} {step : β → α → Option β}
    {next : β → α → β}
    (steps : ∀ element ∈ elements, ∀ current, step current element = some (next current element))
    (current : β) : elements.foldlM step current = some (elements.foldl next current) := by
  induction elements generalizing current with
  | nil => rfl
  | cons element rest ih =>
      rw [List.foldlM_cons, steps element (by simp), List.foldl_cons]
      exact ih (fun other member => steps other (by simp [member])) _

theorem forM_eq_some {α : Type} {elements : List α} {check : α → Option Unit}
    (checks : ∀ element ∈ elements, check element = some ()) : forM elements check = some () := by
  induction elements with
  | nil => rfl
  | cons element rest ih =>
      rw [List.forM_cons, checks element (by simp)]
      exact ih fun other member => checks other (by simp [member])

theorem unwrapRounds_eq (kek : Bytes) {n : Nat} (room : n ≤ 32) (start : Bytes × List Bytes) :
    unwrapRounds kek n start = some ([5, 4, 3, 2, 1, 0].foldl (fun current j =>
      (List.range n).reverse.foldl (fun current i => unwrapStep kek n j i current) current)
      start) := by
  refine foldlM_eq_some
    (fun j _ current => foldlM_eq_some (fun i member current => ?_) current) start
  have below := List.mem_range.mp (List.mem_reverse.mp member)
  rw [store_eq (by omega)]
  rfl

theorem aesUnwrap128_eq (kek : Bytes) {input : Bytes} {inLen : Nat}
    (bound : inLen ≤ input.length) :
    aesUnwrap128 kek input inLen = some (AirportRtw88.aesUnwrap128 kek (input.take inLen)) := by
  have length : (input.take inLen).length = inLen := List.length_take_of_le bound
  unfold aesUnwrap128 AirportRtw88.aesUnwrap128
  simp only [length]
  split
  · rfl
  split
  · rfl
  have room : inLen / 8 - 1 ≤ 32 := by omega
  have rows : ((List.range (inLen / 8 - 1)).mapM fun i => do
      store 32 i 1
      input.copy (8 + i * 8) 8) = some ((List.range (inLen / 8 - 1)).map fun i =>
        Bytes.slice (input.take inLen) (8 + i * 8) 8) := by
    refine mapM_eq_some fun i member => ?_
    have below := List.mem_range.mp member
    have last : 8 + i * 8 + 8 ≤ inLen := by omega
    rw [store_eq (by omega), copy_eq (by omega), slice_take last]
    rfl
  have written : (forM (List.range (inLen / 8 - 1)) fun i => store 256 (i * 8) 8) = some () := by
    refine forM_eq_some fun i member => ?_
    have below := List.mem_range.mp member
    exact store_eq (by omega)
  have first : (input.take inLen).take 8 = input.slice 0 8 := by
    rw [List.take_take, Nat.min_eq_left (by omega), slice, List.drop_zero]
  rw [copy_eq (by omega), rows, written, first]
  simp only [Option.bind_eq_bind, Option.bind_some, unwrapRounds_eq kek room]
  split
  · rfl
  · rename_i same
    rw [if_pos (not_not.mp same)]
    rfl

theorem extractGtkFrom_eq (fuel : Nat) {keyData : Bytes} {keyDataLen : Nat}
    (bound : keyDataLen ≤ keyData.length) (small : keyDataLen < 65536) {pos : Nat}
    (inside : pos ≤ keyDataLen) :
    extractGtkFrom fuel keyData keyDataLen pos =
      some (AirportRtw88.extractGtkFrom fuel ((keyData.take keyDataLen).drop pos)) := by
  have length : (keyData.take keyDataLen).length = keyDataLen := List.length_take_of_le bound
  induction fuel generalizing pos with
  | zero => rfl
  | succ fuel ih =>
      unfold extractGtkFrom AirportRtw88.extractGtkFrom
      simp only [List.length_drop, length, byte_drop, slice_drop, List.drop_drop, Nat.add_zero]
      by_cases ended : pos + 2 > keyDataLen
      · rw [if_pos ended, if_pos (by omega)]
        rfl
      rw [if_neg ended, if_neg (by omega), read_eq (by omega), read_eq (by omega),
        byte_take (by omega), byte_take (by omega)]
      simp only [Option.bind_eq_bind, Option.bind_some]
      generalize (keyData.byte (pos + 1)).toNat = len
      by_cases cut : pos + 2 + len > keyDataLen
      · rw [if_pos cut, if_pos (by omega)]
        rfl
      rw [if_neg cut, if_neg (show ¬ 2 + len > keyDataLen - pos by omega)]
      have later := ih (show pos + 2 + len ≤ keyDataLen by omega)
      have wraps : (pos + 2 + len) % 65536 = pos + 2 + len := Nat.mod_eq_of_lt (by omega)
      by_cases fits : keyData.byte pos = 0xdd ∧ len ≥ 6
      · have oui : ((keyData.take keyDataLen).drop (pos + 2)).take 4 = keyData.slice (pos + 2) 4 :=
          slice_take (by omega)
        rw [if_pos fits, copy_eq (by omega), oui]
        simp only [fits, true_and, Option.bind_some, Option.pure_def, decide_eq_true_eq]
        by_cases gtk : keyData.slice (pos + 2) 4 = [0x00, 0x0f, 0xac, 0x01]
        · rw [if_pos gtk, if_pos gtk]
          by_cases large : len - 6 > 32
          · rw [if_pos large, if_pos large]
          have key : Bytes.slice (keyData.take keyDataLen) (pos + 2 + 6) (len - 6) =
              keyData.slice (pos + 2 + 6) (len - 6) := slice_take (by omega)
          rw [if_neg large, if_neg large, read_eq (by omega), store_eq (by omega),
            copy_eq (by omega), key, byte_take (by omega)]
          rfl
        · rw [if_neg gtk, if_neg gtk, wraps, later, Nat.add_assoc]
      · rw [if_neg fits]
        simp only [Option.pure_def, Option.bind_some, Bool.false_eq_true, if_false]
        rw [wraps, later, if_neg fun all => fits ⟨all.1, all.2.1⟩, Nat.add_assoc]

theorem extractGtkFromKde_eq {keyData : Bytes} {keyDataLen : Nat}
    (bound : keyDataLen ≤ keyData.length) (small : keyDataLen < 65536) :
    extractGtkFromKde keyData keyDataLen =
      some (AirportRtw88.extractGtkFromKde (keyData.take keyDataLen)) := by
  unfold extractGtkFromKde AirportRtw88.extractGtkFromKde
  rw [extractGtkFrom_eq _ bound small (Nat.zero_le _), List.drop_zero,
    List.length_take_of_le bound]

/-- The blocks in `r[32][8]`. -/
def Rows (n : Nat) (current : Bytes × List Bytes) : Prop :=
  current.2.length = n ∧ ∀ row ∈ current.2, row.length ≤ 8

theorem rows_unwrapStep (kek : Bytes) (n j i : Nat) {current : Bytes × List Bytes}
    (rows : Rows n current) : Rows n (unwrapStep kek n j i current) := by
  refine ⟨List.length_set.trans rows.1, fun row member => ?_⟩
  rcases List.mem_or_eq_of_mem_set member with old | new
  · exact rows.2 row old
  · rw [new]
    exact length_slice_le _ _ _

theorem foldl_keeps {α β : Type} {holds : β → Prop} {next : β → α → β}
    (kept : ∀ current element, holds current → holds (next current element)) (elements : List α)
    {current : β} (initially : holds current) : holds (elements.foldl next current) := by
  induction elements generalizing current with
  | nil => exact initially
  | cons element rest ih => exact ih (kept current element initially)

/-- The array `unwrapped[256]` holds what `aes_unwrap_128` puts out. -/
theorem length_aesUnwrap128_le {kek input unwrapped : Bytes}
    (unwraps : AirportRtw88.aesUnwrap128 kek input = some unwrapped) : unwrapped.length ≤ 256 := by
  unfold AirportRtw88.aesUnwrap128 at unwraps
  split at unwraps
  · cases unwraps
  dsimp only at unwraps
  split at unwraps
  · cases unwraps
  rename_i room
  generalize input.length / 8 - 1 = n at room unwraps
  have start : Rows n (input.take 8, (List.range n).map fun i => input.slice (8 + i * 8) 8) :=
    ⟨by simp, by simp [length_slice_le]⟩
  have rows := foldl_keeps (fun current j held => foldl_keeps
    (fun current i held => rows_unwrapStep kek n j i held) (List.range n).reverse held)
    [5, 4, 3, 2, 1, 0] start
  split at unwraps
  · cases unwraps
    have sum := List.sum_le_card_nsmul _ 8 (List.forall_mem_map.mpr rows.2)
    rw [List.length_map, rows.1, Nat.nsmul_eq_mul] at sum
    rw [List.length_flatten]
    omega
  · cases unwraps

/-- The key data of an M3 that fits its frame is read inside it. -/
theorem handshakeGtk_eq (kek : Bytes) {data : Bytes} (room : 99 + data.keyDataLen ≤ data.length) :
    handshakeGtk kek data data.keyInfo data.keyDataLen =
      some ((plainKeyData kek data).map AirportRtw88.extractGtkFromKde) := by
  have small : data.keyDataLen < 65536 := data.be16At_lt 97
  have bound : data.keyDataLen ≤ (data.drop 99).length := by
    simp only [List.length_drop]
    omega
  have keyData : (data.drop 99).take data.keyDataLen = data.keyData := rfl
  unfold handshakeGtk plainKeyData
  split
  · rfl
  split
  · rw [aesUnwrap128_eq kek bound, keyData]
    cases unwraps : AirportRtw88.aesUnwrap128 kek data.keyData with
    | none => rfl
    | some unwrapped =>
        have fits := length_aesUnwrap128_le unwraps
        have read := extractGtkFromKde_eq (le_refl unwrapped.length) (by omega)
        rw [List.take_length] at read
        simp only [Option.bind_eq_bind, Option.bind_some, read]
        rfl
  · rw [extractGtkFromKde_eq bound small, keyData]
    rfl

/-! ## The arrays of the reorder buffers

The index of a slot is a `Fin kRxBaMaxBuf` and that of a buffer a `Fin kRxBaNumTid`, so only the
writes into the arrays `out` and `freelist` are left to check. -/

variable {α : Type}

/-- `out[nout++] = skb`. -/
def append (out : List α) (skb : α) : Option (List α) := do
  store kRxBaMaxBuf out.length 1
  return out ++ [skb]

/-- Move the frame at the head into `out` and advance. -/
def release (d : Draining α) (skb : α) : Option (Draining α) := do
  let out ← append d.out skb
  return ⟨d.reorder.clearHead.advance, out⟩

/-- The loop of `rxReorderInput` that slides the window up to `newHead`. -/
def slide (newHead : Nat) : Nat → Draining α → Option (Draining α)
  | 0, d => some d
  | fuel + 1, d =>
      if snDiff newHead d.reorder.headSn ≠ 0 ∧ snDiff newHead d.reorder.headSn < 2048 ∧
          d.out.length < kRxBaMaxBuf then
        match d.reorder.buf (slotOf d.reorder.headSn) with
        | some skb => do
            let released ← release d skb
            slide newHead fuel released
        | none => slide newHead fuel { d with reorder := d.reorder.advance }
      else some d

/-- The loop that releases the in-order run starting at the head. -/
def releaseRun : Nat → Draining α → Option (Draining α)
  | 0, d => some d
  | fuel + 1, d =>
      if 0 < d.reorder.stored ∧ d.out.length < kRxBaMaxBuf then
        match d.reorder.buf (slotOf d.reorder.headSn) with
        | some skb => do
            let released ← release d skb
            releaseRun fuel released
        | none => some d
      else some d

/-- Slide the window up if `sn` is ahead of it. -/
def slideFor (r : RxReorder α) (sn : Nat) : Option (Draining α) :=
  if snDiff sn r.headSn ≥ r.bufSize then slide (snDiff (sn + 1) r.bufSize) 4096 ⟨r, []⟩
  else some ⟨r, []⟩

/-- `rxReorderInput`. -/
def rxReorderInput (table : RxBaTable α) (tid : Fin kRxBaNumTid) (skb : α) (sn : Nat) :
    Option (RxBaOutcome α) :=
  match table tid with
  | none => some ⟨table, [skb], [], false⟩
  | some r =>
      if ¬ r.active then some ⟨table, [skb], [], false⟩
      else if snDiff sn r.headSn ≥ 2048 then some ⟨table, [], [skb], false⟩
      else do
        let slid ← slideFor r sn
        match slid.reorder.buf (slotOf sn) with
        | some _ =>
            let done ← releaseRun kRxBaMaxBuf slid
            return ⟨Function.update table tid (some done.reorder), done.out, [skb],
              0 < done.reorder.stored⟩
        | none =>
            let done ← releaseRun kRxBaMaxBuf (slid.store sn skb)
            return ⟨Function.update table tid (some done.reorder), done.out, [],
              0 < done.reorder.stored⟩

/-- The body of the loop of `rxReorderFlushStale` over the TIDs. -/
def flushTid (current : RxBaOutcome α) (tid : Fin kRxBaNumTid) : Option (RxBaOutcome α) :=
  match current.table tid with
  | none => some current
  | some r =>
      if ¬ r.active ∨ r.stored = 0 then some current
      else do
        let done ← releaseRun kRxBaMaxBuf ⟨r.skipHoles 4096, current.out⟩
        return { current with
          table := Function.update current.table tid (some done.reorder)
          out := done.out
          again := current.again || decide (0 < done.reorder.stored) }

/-- `rxReorderFlushStale`. -/
def rxReorderFlushStale (table : RxBaTable α) : Option (RxBaOutcome α) :=
  (List.finRange kRxBaNumTid).foldlM flushTid ⟨table, [], [], false⟩

/-- The array `freelist` of `rxBaTeardown`. -/
def freelist (r : RxReorder α) : Option (List α) :=
  (List.finRange kRxBaMaxBuf).foldlM (fun freed i =>
    match r.buf i with
    | some skb => append freed skb
    | none => some freed) []

/-- `rxBaTeardown`. -/
def rxBaTeardown (s : Ieee80211) (tid : Nat) : Option Ieee80211 :=
  if inside : tid < kRxBaNumTid then
    match s.rxBa ⟨tid, inside⟩ with
    | some r => do
        let freed ← freelist r
        return s.leaveRxBa ⟨Function.update s.rxBa ⟨tid, inside⟩ none, [], freed, false⟩
    | none => some (s.leaveRxBa ⟨s.rxBa, [], [], false⟩)
  else some (s.leaveRxBa ⟨s.rxBa, [], [], false⟩)

/-- `rxBaTeardownAll`. -/
def rxBaTeardownAll (s : Ieee80211) : Option Ieee80211 := do
  let swept ← (List.range kRxBaNumTid).foldlM rxBaTeardown s
  return { s with rxBa := swept.rxBa, freedSkbs := swept.freedSkbs }

theorem release_eq {d : Draining α} (skb : α) (room : d.out.length < kRxBaMaxBuf) :
    release d skb = some (d.release skb) := by
  unfold release append
  rw [store_eq room]
  rfl

theorem slide_eq (newHead fuel : Nat) (d : Draining α) :
    slide newHead fuel d = some (d.slide newHead fuel) := by
  induction fuel generalizing d with
  | zero => rfl
  | succ fuel ih =>
      unfold slide Draining.slide
      split
      · rename_i ahead
        cases d.reorder.buf (slotOf d.reorder.headSn) with
        | some skb =>
            simp only [release_eq skb ahead.2.2]
            exact ih _
        | none => exact ih _
      · rfl

theorem releaseRun_eq (fuel : Nat) (d : Draining α) :
    releaseRun fuel d = some (d.releaseRun fuel) := by
  induction fuel generalizing d with
  | zero => rfl
  | succ fuel ih =>
      unfold releaseRun Draining.releaseRun
      split
      · rename_i more
        cases d.reorder.buf (slotOf d.reorder.headSn) with
        | some skb =>
            simp only [release_eq skb more.2]
            exact ih _
        | none => rfl
      · rfl

theorem slideFor_eq (r : RxReorder α) (sn : Nat) : slideFor r sn = some (r.slideFor sn) := by
  unfold slideFor RxReorder.slideFor
  split
  · exact slide_eq _ _ _
  · rfl

theorem rxReorderInput_eq (table : RxBaTable α) (tid : Fin kRxBaNumTid) (skb : α) (sn : Nat) :
    rxReorderInput table tid skb sn = some (AirportRtw88.rxReorderInput table tid skb sn) := by
  unfold rxReorderInput AirportRtw88.rxReorderInput
  cases table tid with
  | none => rfl
  | some r =>
      dsimp only
      split
      · rfl
      split
      · rfl
      rw [slideFor_eq]
      simp only [Option.bind_eq_bind, Option.bind_some, releaseRun_eq]
      cases (r.slideFor sn).reorder.buf (slotOf sn) <;> rfl

theorem rxReorderFlushStale_eq (table : RxBaTable α) :
    rxReorderFlushStale table = some (AirportRtw88.rxReorderFlushStale table) := by
  refine foldlM_eq_some (fun tid _ current => ?_) _
  unfold flushTid AirportRtw88.flushTid
  cases current.table tid with
  | none => rfl
  | some r =>
      dsimp only
      rw [releaseRun_eq]
      split <;> rfl

theorem freelist_eq (r : RxReorder α) : freelist r = some r.frames := by
  have fills : ∀ (slots : List (Fin kRxBaMaxBuf)) (freed : List α),
      freed.length + slots.length ≤ kRxBaMaxBuf →
      (slots.foldlM (fun freed i =>
        match r.buf i with
        | some skb => append freed skb
        | none => some freed) freed) = some (freed ++ slots.filterMap r.buf) := by
    intro slots
    induction slots with
    | nil => exact fun freed _ => congrArg some (List.append_nil freed).symm
    | cons slot slots ih =>
        intro freed room
        rw [List.length_cons] at room
        rw [List.foldlM_cons, List.filterMap_cons]
        cases r.buf slot with
        | none => exact ih freed (by omega)
        | some skb =>
            simp only [append]
            rw [store_eq (by omega)]
            refine (ih (freed ++ [skb]) ?_).trans (by simp)
            simp only [List.length_append, List.length_singleton]
            omega
  refine fills (List.finRange kRxBaMaxBuf) [] ?_
  simp

theorem rxBaTeardown_eq (s : Ieee80211) (tid : Nat) :
    rxBaTeardown s tid = some (s.rxBaTeardown tid) := by
  unfold rxBaTeardown Ieee80211.rxBaTeardown AirportRtw88.rxBaTeardown
  split
  · dsimp only
    cases s.rxBa ⟨tid, _⟩ with
    | none => rfl
    | some r =>
        simp only [freelist_eq]
        rfl
  · rfl

theorem rxBaTeardownAll_eq (s : Ieee80211) : rxBaTeardownAll s = some s.rxBaTeardownAll := by
  unfold rxBaTeardownAll Ieee80211.rxBaTeardownAll
  rw [foldlM_eq_some fun tid _ current => rxBaTeardown_eq current tid]
  rfl

end Checked

end AirportRtw88
