import AirportRtw88.BeaconCopy
import AirportRtw88.Interleave.Machine
import AirportRtw88.ListCursor
import AirportRtw88.ScanCache

/-!
# Scan results

The controller hands the scan cache to its clients one entry at a time, by an index that each
answer moves on, while beacons enter the cache and scans end.
-/

namespace AirportRtw88

open Interleave Bytes InfoElements

/-! ## The entries -/

/-- `apple80211_scan_result`. -/
structure ScanResult where
  channel : Nat
  is2GHz : Bool
  noise : Int
  rssi : Int
  snr : Int
  beaconInt : Int
  cap : Int
  age : Nat
  bssid : Bytes
  ssidLen : Nat
  ssid : Bytes
  ieData : Bytes
  rates : Bytes
  deriving DecidableEq

/-- `(int16_t)`. -/
def toInt16 (number : Int) : Int :=
  (number + 32768) % 65536 - 32768

/-- The inner loop over the rates of an element. -/
def pushRates (maxRates : Nat) : Bytes → Bytes → Bytes
  | [], rates => rates
  | rate :: rest, rates =>
      if rates.length < maxRates then pushRates maxRates rest (rates ++ [rate]) else rates

/-- The walk over the elements for their rates. -/
def collectRates (maxRates : Nat) : Nat → Bytes → Bytes → Bytes
  | 0, _, rates => rates
  | fuel + 1, rest, rates =>
      if rest.length < 2 then rates
      else
        let n := (rest.byte 1).toNat + 2
        if n > rest.length then rates
        else
          collectRates maxRates fuel (rest.drop n)
            (if rest.byte 0 = 1 ∨ rest.byte 0 = 50 then
              pushRates maxRates (rest.slice 2 (n - 2)) rates
            else rates)

/-- `fillScanResultFromBSS`, with the number of rates that a result has space for. -/
def fillScanResultFromBSS (maxRates : Nat) (fullIEs : Bool) (b : Bss) : ScanResult where
  channel := b.channel
  is2GHz := b.channel ≤ 14
  noise := -95
  rssi := b.rssi
  snr := toInt16 (b.rssi - -95)
  beaconInt := toInt16 b.beaconInterval
  cap := toInt16 b.capabilities
  age := 0
  bssid := b.bssid
  ssidLen := if b.ssidLen > 32 then 32 else b.ssidLen
  ssid := b.ssid.take (if b.ssidLen > 32 then 32 else b.ssidLen)
  ieData := if fullIEs then (b.ies.take 512).take 1024 else b.scanResultRsnIe.getD []
  rates := collectRates maxRates ((b.ies.take 512).length + 1) (b.ies.take 512) []

theorem pushRates_eq (maxRates : Nat) (body rates : Bytes) (few : rates.length ≤ maxRates) :
    pushRates maxRates body rates = (rates ++ body).take maxRates := by
  induction body generalizing rates with
  | nil =>
      rw [pushRates, List.append_nil, List.take_of_length_le few]
  | cons rate rest ih =>
      rw [pushRates]
      split
      · rw [ih (rates ++ [rate]) (by rw [List.length_append, List.length_singleton]; omega),
          List.append_assoc, List.singleton_append]
      · have full : maxRates = rates.length := by omega
        rw [full, List.take_left]

/-- The rates that an element of the supported or extended rates has. -/
def Element.rates (element : Element) : Bytes :=
  if element.id = 1 ∨ element.id = 50 then element.body else []

theorem collectRates_walks (maxRates : Nat) :
    InfoElements.Walks (collectRates maxRates) fun rates element =>
      if element.id = 1 ∨ element.id = 50 then pushRates maxRates element.body rates
      else rates where
  stop fuel tail rates truncated := by
    rw [collectRates]
    by_cases short : List.length tail < 2
    · rw [if_pos short]
    · have beyond := truncated.resolve_left short
      rw [if_neg short, if_pos]
      rw [byte]
      omega
  next fuel element rest rates := by
    have long : 2 + element.body.length ≤ (element.encode ++ rest).length := by
      rw [List.length_append, element.length_encode]
      omega
    obtain ⟨id, length⟩ := byte_encode element rest
    have total : element.body.length + 2 = 2 + element.body.length := Nat.add_comm _ _
    have body : slice (element.encode ++ rest) 2 element.body.length = element.body := by
      rw [slice, List.drop_append_of_le_length (by rw [element.length_encode]; omega)]
      exact List.take_left
    rw [collectRates, if_neg (by omega)]
    simp only [id, length, total, drop_encode, Nat.add_sub_cancel_left, body]
    rw [if_neg (by omega)]

theorem take_take_append (front back : Bytes) (size : Nat) :
    (front.take size ++ back).take size = (front ++ back).take size := by
  rcases Nat.le_total front.length size with fits | full
  · rw [List.take_of_length_le fits]
  · rw [List.take_append_of_le_length full, List.take_append_of_le_length, List.take_take,
      Nat.min_self]
    rw [List.length_take_of_le full]

/-- The walk collects the rates of the elements one after the other, as many as there is space
for. -/
theorem foldl_pushRates (maxRates : Nat) (elements : List Element) (rates : Bytes)
    (few : rates.length ≤ maxRates) :
    elements.foldl (fun rates element =>
        if element.id = 1 ∨ element.id = 50 then pushRates maxRates element.body rates
        else rates) rates =
      (rates ++ elements.flatMap Element.rates).take maxRates := by
  induction elements generalizing rates with
  | nil =>
      rw [List.foldl_nil, List.flatMap_nil, List.append_nil, List.take_of_length_le few]
  | cons element elements ih =>
      rw [List.foldl_cons, List.flatMap_cons]
      by_cases rated : element.id = 1 ∨ element.id = 50
      · rw [if_pos rated, pushRates_eq maxRates _ _ few, ih _ (List.length_take_le _ _),
          Element.rates, if_pos rated, ← List.append_assoc, take_take_append]
      · rw [if_neg rated, ih rates few, Element.rates, if_neg rated, List.nil_append]

/-- What a client reads about a network. -/
structure ReadsBeacon (maxRates : Nat) (elements : List Element) (fullIEs : Bool)
    (result : ScanResult) : Prop where
  name : result.ssid = lastSsid elements
  nameLength : result.ssidLen = result.ssid.length
  nameShort : result.ssidLen ≤ 32
  rates : result.rates = ((keepElements [] elements).flatMap Element.rates).take maxRates
  all : fullIEs = true → result.ieData = encodeAll (keepElements [] elements)
  rsn : fullIEs = false → result.ieData =
    (((keepElements [] elements).find? fun element => element.id = eidRsn).map
      Element.encode).getD []
  dataShort : result.ieData.length ≤ 1024

theorem length_keepElements (elements : List Element) :
    (encodeAll (keepElements [] elements)).length < 512 := by
  induction elements using List.reverseRecOn with
  | nil => exact Nat.succ_pos 511
  | append_singleton elements element ih =>
      rw [keepElements_append]
      split
      · rename_i fits
        rw [encodeAll_append, encodeAll_cons, encodeAll_nil, List.append_nil, List.length_append]
        exact fits
      · exact ih

/-- A scan result has the name of the beacon, the rates of its elements in their order as far as
there is space, and the elements or the first RSN element of the copy, within its arrays. -/
theorem scanResult_readsBeacon (maxRates : Nat) (fullIEs : Bool) {skb : Skb}
    {elements : List Element} (carries : Carries skb elements) (generation : Nat) :
    ReadsBeacon maxRates elements fullIEs
      (fillScanResultFromBSS maxRates fullIEs (beaconBss skb generation)) := by
  have copy := beaconBss_whole carries generation
  have buffer := beaconBss_name carries generation
  have short : (beaconBss skb generation).ies.length < 512 := by
    rw [copy.whole]
    exact length_keepElements elements
  have whole : (beaconBss skb generation).ies.take 512 = encodeAll (keepElements [] elements) := by
    rw [List.take_of_length_le (Nat.le_of_lt short), copy.whole]
  have notLong : ¬ (beaconBss skb generation).ssidLen > 32 := Nat.not_lt.mpr buffer.bound
  constructor
  case name =>
    rw [fillScanResultFromBSS]
    simp only [if_neg notLong]
    exact buffer.counted
  case nameLength =>
    rw [fillScanResultFromBSS]
    simp only [if_neg notLong]
    rw [buffer.counted, buffer.count]
  case nameShort =>
    rw [fillScanResultFromBSS]
    simp only [if_neg notLong]
    exact buffer.bound
  case rates =>
    have walked := (collectRates_walks maxRates).eq_foldl truncated_nil
      (Nat.lt_succ_of_le (length_le_encodeAll (keepElements [] elements))) []
    rw [List.append_nil] at walked
    rw [fillScanResultFromBSS]
    simp only [whole]
    rw [walked, foldl_pushRates maxRates _ [] (Nat.zero_le _), List.nil_append]
  case all =>
    intro full
    rw [fillScanResultFromBSS]
    simp only [full, if_true, whole]
    exact List.take_of_length_le (by have less := length_keepElements elements; omega)
  case rsn =>
    intro part
    rw [fillScanResultFromBSS]
    simp only [part, Bool.false_eq_true, if_false]
    rw [copy.scanResultRsnIe, copy.rsnIe]
  case dataShort =>
    rw [fillScanResultFromBSS]
    dsimp only
    split
    · exact List.length_take_le _ _
    · rw [copy.scanResultRsnIe, copy.rsnIe]
      cases (keepElements [] elements).find? fun element => element.id = eidRsn with
      | none => exact Nat.zero_le 1024
      | some element =>
          have bounded := element.short
          rw [Option.map_some, Option.getD_some, element.length_encode]
          omega

/-- A beacon with a name and two elements of rates. -/
def ratedBeacon : Skb :=
  ⟨0, zeros 36 ++ [0, 1, 65, 1, 2, 130, 132, 50, 1, 12], 0, 0, 0⟩

theorem scanResult_readsBeacon_rates :
    (fillScanResultFromBSS 15 false (beaconBss ratedBeacon 0)).rates = [130, 132, 12] := by
  let name : Element := ⟨0, [65], by decide⟩
  let supported : Element := ⟨1, [130, 132], by decide⟩
  let extended : Element := ⟨50, [12], by decide⟩
  have carries : Carries ratedBeacon [name, supported, extended] := ⟨[], truncated_nil, rfl⟩
  rw [(scanResult_readsBeacon 15 false carries 0).rates]
  decide

/-! ## The requests -/

/-- The scan state of the controller, over the state machine. -/
structure ScanClient where
  s : Ieee80211
  scanInProgress : Bool
  scanCursor : Nat

/-- What a request returns. -/
inductive ScanAnswer where
  | success
  | busy
  | refused
  | entry (result : ScanResult)
  | endOfList
  deriving DecidableEq

/-- What changes the scan state or the cache. -/
inductive ScanStep where
  | scanReq (valid : Bool) (after : Ieee80211) (accepted : Bool)
  | cacheClear
  | scanResult
  | beacon (bss : Bss)
  | scanDone (aborted : Bool)
  | elsewhere (after : Ieee80211)

namespace ScanClient

/-- `copyScanBSS`. -/
def copyScanBSS (client : ScanClient) : Option Bss :=
  client.s.bssList[client.scanCursor]?

/-- `handleSCAN_RESULT`. -/
def handleScanResult (maxRates : Nat) (client : ScanClient) : ScanClient × ScanAnswer :=
  if client.scanInProgress then (client, .busy)
  else
    match client.copyScanBSS with
    | none => ({ client with scanCursor := 0 }, .endOfList)
    | some b =>
        ({ client with scanCursor := (client.scanCursor + 1) % 4294967296 },
          .entry (fillScanResultFromBSS maxRates false b))

/-- `handleSCAN_REQ`, and the same steps for `SCAN_REQ_MULTIPLE`.  A connection is not left for a
scan; otherwise `cmdScan` leaves the state machine as `after`. -/
def handleScanReq (valid : Bool) (after : Ieee80211) (accepted : Bool) (client : ScanClient) :
    ScanClient × ScanAnswer :=
  if !valid then (client, .refused)
  else if client.scanInProgress then (client, .success)
  else if client.s.state = .connected then ({ client with scanCursor := 0 }, .success)
  else
    ({ s := after, scanInProgress := accepted, scanCursor := 0 },
      if accepted then .success else .refused)

/-- `rtw88Event` for the end of a scan. -/
def scanDoneEvent (client : ScanClient) : ScanClient :=
  { client with
    scanInProgress := false
    scanCursor := 0 }

/-- `cmdScan` counts a scan or leaves the cache alone, and other functions do so too. -/
def step (maxRates : Nat) : ScanStep → ScanClient → Option (ScanClient × ScanAnswer)
  | .scanReq valid after accepted, client =>
      if after.bssList = client.s.bssList ∨ after.bssList = client.s.nextGeneration.bssList then
        some (client.handleScanReq valid after accepted)
      else none
  | .cacheClear, client => some ({ client with scanCursor := 0 }, .success)
  | .scanResult, client => some (client.handleScanResult maxRates)
  | .beacon bss, client => some ({ client with s := client.s.addBss bss }, .success)
  | .scanDone aborted, client =>
      let s := if aborted then client.s else client.s.pruneBssList
      some (({ client with s := s } : ScanClient).scanDoneEvent, .success)
  | .elsewhere after, client =>
      if after.bssList = client.s.bssList then some ({ client with s := after }, .success)
      else none

/-! ## The walks -/

def bssids (client : ScanClient) : List Bytes :=
  client.s.bssList.map Bss.bssid

/-- The walk of a client: it starts anew where the index is set back, and moves on with each
entry. -/
def track (before : ScanClient) (walk : ListCursor Bytes) : ScanStep → ScanClient × ScanAnswer →
    ListCursor Bytes
  | .scanReq valid _ _, (after, _) =>
      if valid && !before.scanInProgress then .start after.bssids else walk
  | .cacheClear, (after, _) => .start after.bssids
  | .scanResult, (after, .endOfList) => .start after.bssids
  | .scanResult, (_, .entry result) => walk.next result.bssid
  | .scanResult, _ => walk
  | .beacon bss, _ => if bss.bssid ∈ before.bssids then walk else walk.insert
  | .scanDone _, (after, _) => .start after.bssids
  | .elsewhere _, _ => walk

/-- A client and its walk. -/
def walking (maxRates : Nat) : Machine ScanStep (ScanClient × ListCursor Bytes) where
  step label state :=
    (state.1.step maxRates label).map fun result => (result.1, state.1.track state.2 label result)

variable {maxRates : Nat} {client : ScanClient} {walk : ListCursor Bytes}

/-- The walk covers the addresses of the cache. -/
def Covered (client : ScanClient) (walk : ListCursor Bytes) : Prop :=
  walk.Covers 4294967296 client.bssids client.scanCursor

theorem covered_start (zero : client.scanCursor = 0) : client.Covered (.start client.bssids) := by
  rw [Covered, zero]
  exact ListCursor.covers_start _ _

theorem Covered.scanReq (covered : client.Covered walk) (valid : Bool) (after : Ieee80211)
    (accepted : Bool) :
    (client.handleScanReq valid after accepted).1.Covered
      (client.track walk (.scanReq valid after accepted)
        (client.handleScanReq valid after accepted)) := by
  rw [track]
  cases valid with
  | false => exact covered
  | true =>
      cases progress : client.scanInProgress with
      | true =>
          have same : client.handleScanReq true after accepted = (client, .success) := by
            simp [handleScanReq, progress]
          rw [same]
          exact covered
      | false =>
          apply covered_start
          by_cases connected : client.s.state = .connected
          · simp [handleScanReq, progress, connected]
          · simp [handleScanReq, progress, connected]

theorem Covered.scanResult (covered : client.Covered walk) :
    (client.handleScanResult maxRates).1.Covered
      (client.track walk .scanResult (client.handleScanResult maxRates)) := by
  rw [handleScanResult]
  split
  · exact covered
  · split
    · exact covered_start rfl
    · rename_i b found
      apply ListCursor.Covers.next covered
      rw [bssids, List.getElem?_map]
      exact congrArg (Option.map Bss.bssid) found

/-- A beacon enters the cache in front, or in place of an older one. -/
theorem Covered.beacon (covered : client.Covered walk) (bss : Bss) :
    ({ client with s := client.s.addBss bss } : ScanClient).Covered
      (if bss.bssid ∈ client.bssids then walk else walk.insert) := by
  cases known : client.s.bssList.findIdx? fun entry => entry.bssid = bss.bssid with
  | none =>
      have fresh : bss.bssid ∉ client.bssids := by
        intro member
        obtain ⟨entry, inside, same⟩ := List.mem_map.mp member
        have other := List.findIdx?_eq_none_iff.mp known entry inside
        exact absurd same (of_decide_eq_false other)
      have inserted := ListCursor.Covers.insert covered bss.bssid
      rw [if_neg fresh]
      simpa [Covered, bssids, Ieee80211.addBss, known] using inserted
  | some index =>
      obtain ⟨-, same⟩ := Ieee80211.map_bssid_set known
      obtain ⟨inside, found, -⟩ := List.findIdx?_eq_some_iff_getElem.mp known
      have member : bss.bssid ∈ client.bssids :=
        List.mem_map.mpr ⟨_, List.getElem_mem inside, of_decide_eq_true found⟩
      rw [if_pos member, Covered, bssids]
      simp only [Ieee80211.addBss, known, Option.elim_some]
      rw [same]
      exact covered

theorem Covered.step (covered : client.Covered walk) {label : ScanStep}
    {result : ScanClient × ScanAnswer} (steps : client.step maxRates label = some result) :
    result.1.Covered (client.track walk label result) := by
  cases label with
  | scanReq valid after accepted =>
      obtain ⟨-, same⟩ := Option.ite_none_right_eq_some.mp steps
      cases same
      exact covered.scanReq valid after accepted
  | cacheClear =>
      cases steps
      exact covered_start rfl
  | scanResult =>
      cases steps
      exact covered.scanResult
  | beacon bss =>
      cases steps
      exact covered.beacon bss
  | scanDone aborted =>
      cases steps
      exact covered_start rfl
  | elsewhere after =>
      obtain ⟨same, next⟩ := Option.ite_none_right_eq_some.mp steps
      cases next
      rw [track, Covered, bssids, same]
      exact covered

/-- Along any run, a client that is told that the list has ended has been given every network that
was in the cache when its walk began.  It has been given one entry more for each network that was
added since then, and just the list if there was none. -/
theorem scanResults_cover {first : ScanClient} (zero : first.scanCursor = 0)
    (reaches : (walking maxRates).Reaches Machine.free (first, .start first.bssids)
      (client, walk)) {later : ScanClient}
    (ended : client.step maxRates .scanResult = some (later, .endOfList)) :
    (∀ bssid ∈ walk.initial, bssid ∈ walk.returned) ∧
      (client.s.bssList.length < 4294967296 →
        walk.returned.length = walk.initial.length + walk.inserted ∧
          (walk.inserted = 0 → walk.returned = walk.initial)) := by
  have covered : client.Covered walk := by
    apply reaches.keeps fun state => state.1.Covered state.2
    · intro label before after _ steps covered
      obtain ⟨result, same, rfl⟩ := Option.map_eq_some_iff.mp steps
      exact covered.step same
    · exact covered_start zero
  have past : client.bssids[client.scanCursor]? = none := by
    have gives := congrArg Prod.snd (Option.some.inj ended)
    rw [handleScanResult] at gives
    split at gives
    · cases gives
    · split at gives
      · rename_i none
        rw [bssids, List.getElem?_map]
        exact congrArg (Option.map Bss.bssid) none
      · cases gives
  have finished := ListCursor.Covers.ended covered past
  rw [bssids, List.length_map] at finished
  exact finished

/-- A driver that has seen one network. -/
def oneNetwork : ScanClient where
  s := (Ieee80211.started Scenario.attachment).addBss { Bss.empty with bssid := [1] }
  scanInProgress := false
  scanCursor := 0

/-- A second network enters the cache in front of it after the first answer. -/
theorem scanResults_cover_grown : ∃ client walk,
    (walking 15).play [.scanResult, .beacon { Bss.empty with bssid := [2] }, .scanResult]
      (oneNetwork, .start oneNetwork.bssids) = some (client, walk) ∧
    [1] ∈ walk.returned ∧ walk.returned.length = 2 := by
  obtain ⟨⟨client, walk⟩, plays⟩ : ∃ state, (walking 15).play
      [.scanResult, .beacon { Bss.empty with bssid := [2] }, .scanResult]
      (oneNetwork, .start oneNetwork.bssids) = some state := ⟨_, rfl⟩
  have last : some (client, walk) = _ := plays.symm.trans rfl
  cases last
  have cover := scanResults_cover rfl (Machine.reaches_of_play _ plays) rfl
  exact ⟨_, _, plays, cover.1 [1] (List.mem_singleton_self _), (cover.2 (by decide)).1⟩

end ScanClient

end AirportRtw88
