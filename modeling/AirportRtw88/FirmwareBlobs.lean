import AirportRtw88.Bytes
import Mathlib.Data.List.Nodup

/-!
# Embedded firmware

`gen_fw_blobs.py` packs the firmware files of a directory into a table of compressed images, and
the loader expands an image into a buffer of four times its compressed size.  The compression
library is a parameter; what it documents is stated as hypotheses.
-/

namespace AirportRtw88

/-- The functions of zlib that the packer and the loader use. -/
structure Zlib where
  /-- `zlib.compress(raw, 9)`. -/
  compress : Bytes → Bytes
  /-- What `inflateInit` returns. -/
  init : Int
  /-- `inflate` with `Z_FINISH` and a room for the output: what it returns and has written. -/
  inflate : Bytes → Nat → Int × Bytes
  /-- What `inflateEnd` returns. -/
  finish : Int
  /-- The content of the complete stream that some bytes begin with. -/
  content : Bytes → Option Bytes

/-- `inflate` returns `Z_STREAM_END` exactly for a complete stream whose content fits, with all of
it written, and with `Z_FINISH` it never returns `Z_OK`. -/
structure Zlib.Correct (zlib : Zlib) : Prop where
  ends_iff : ∀ src room out, zlib.inflate src room = (1, out) ↔
    zlib.content src = some out ∧ out.length ≤ room
  not_ok : ∀ src room, (zlib.inflate src room).1 ≠ 0

/-- The stream of a file has the file as its content, and no shorter part of it is complete. -/
structure Zlib.Packs (zlib : Zlib) (raw : Bytes) : Prop where
  whole : zlib.content (zlib.compress raw) = some raw
  part : ∀ length, length < (zlib.compress raw).length →
    zlib.content ((zlib.compress raw).take length) = none

/-- `struct rtw88_fw_blob`. -/
structure FwBlob where
  name : Bytes
  data : Bytes
  compressedSize : Nat
  originalSize : Nat

/-- A directory: the names and contents of its files. -/
structure Directory where
  files : List (Bytes × Bytes)
  distinct : (files.map Prod.fst).Nodup

/-- Whether a name ends in `.bin`. -/
def isBinary (name : Bytes) : Bool :=
  [46, 98, 105, 110].isSuffixOf name

/-- The entry of a file in the table. -/
def packed (zlib : Zlib) (file : Bytes × Bytes) : FwBlob where
  name := file.1
  data := zlib.compress file.2
  compressedSize := (zlib.compress file.2).length
  originalSize := file.2.length

/-- The table that `gen_fw_blobs.py` generates, without its terminator. -/
def genFwBlobs (zlib : Zlib) (directory : Directory) : List FwBlob :=
  let bins := (directory.files.filter fun file => isBinary file.1).mergeSort
    fun first second => decide (first.1 ≤ second.1)
  bins.map (packed zlib)

/-- `rtw88_decompress`: what it returns, `*dest_len`, and what is written to the buffer. -/
def rtw88Decompress (zlib : Zlib) (destLen : Nat) (src : Bytes) : Int × Nat × Bytes :=
  if zlib.init ≠ 0 then (zlib.init, destLen, [])
  else
    let (err, out) := zlib.inflate src destLen
    if err ≠ 1 then (err, destLen, out)
    else (zlib.finish, out.length % 4294967296, out)

/-- `struct firmware`; of the buffer, what was written to it. -/
structure Firmware where
  size : Nat
  data : Bytes
  allocSize : Nat

/-- Which of the two allocations of the loader succeed. -/
structure FwMemory where
  buffer : Bool
  firmware : Bool

/-- What a load returns, and the sizes of the blocks it leaves allocated. -/
structure FwLoad where
  firmware : Option Firmware
  live : List Nat

/-- The bytes of a blob that `inflate` may read: the size is cast to 32 bits. -/
def FwBlob.src (blob : FwBlob) : Bytes :=
  blob.data.take (blob.compressedSize % 4294967296)

/-- The size of the buffer for a blob. -/
def FwBlob.alloc (blob : FwBlob) : Nat :=
  blob.compressedSize * 4 % 18446744073709551616

def loadFwFromBlob (zlib : Zlib) (memory : FwMemory) : List FwBlob → Bytes → FwLoad
  | [], _ => { firmware := none, live := [] }
  | blob :: blobs, base =>
      if blob.name ≠ base then loadFwFromBlob zlib memory blobs base
      else if !memory.buffer then { firmware := none, live := [] }
      else
        let live := [blob.alloc]
        let (err, outLen, out) := rtw88Decompress zlib (blob.alloc % 4294967296) blob.src
        if err ≠ 0 then { firmware := none, live := live.erase blob.alloc }
        else if !memory.firmware then { firmware := none, live := live.erase blob.alloc }
        else
          { firmware := some { size := outLen, data := out, allocSize := blob.alloc }
            -- The second block is the structure itself.
            live := 24 :: live }

section

variable {zlib : Zlib} {memory : FwMemory}

/-- The decompression succeeds exactly if the content of the source fits, and with all of it. -/
theorem rtw88Decompress_eq_iff (correct : zlib.Correct) {destLen : Nat} {src : Bytes}
    (small : destLen < 4294967296) {outLen : Nat} {out : Bytes} :
    rtw88Decompress zlib destLen src = (0, outLen, out) ↔
      zlib.init = 0 ∧ zlib.finish = 0 ∧ zlib.content src = some out ∧ out.length ≤ destLen ∧
        outLen = out.length := by
  unfold rtw88Decompress
  by_cases init : zlib.init = 0
  · rw [if_neg (not_not.mpr init)]
    rcases inflated : zlib.inflate src destLen with ⟨err, written⟩
    by_cases ends : err = 1
    · rw [ends] at inflated
      obtain ⟨content, fits⟩ := (correct.ends_iff src destLen written).mp inflated
      have exact_length : written.length % 4294967296 = written.length :=
        Nat.mod_eq_of_lt (by omega)
      simp only [ends, ne_eq, not_true_eq_false, if_false, exact_length, Prod.mk.injEq]
      constructor
      · rintro ⟨finish, rfl, rfl⟩
        exact ⟨init, finish, content, fits, rfl⟩
      · rintro ⟨_, finish, content', _, length⟩
        obtain rfl : written = out := Option.some.inj (content.symm.trans content')
        exact ⟨finish, length.symm, rfl⟩
    · have failed := correct.not_ok src destLen
      rw [inflated] at failed
      simp only [ne_eq, ends, not_false_eq_true, if_true, Prod.mk.injEq]
      constructor
      · rintro ⟨ok, _, _⟩
        exact absurd ok failed
      · rintro ⟨_, _, content, fits, _⟩
        rw [(correct.ends_iff src destLen out).mpr ⟨content, fits⟩] at inflated
        exact absurd (congrArg Prod.fst inflated).symm ends
  · rw [if_pos init]
    constructor
    · intro same
      exact absurd (congrArg Prod.fst same) init
    · rintro ⟨ok, _⟩
      exact absurd ok init

/-- What the loader returns for the blob it finds. -/
theorem loadFwFromBlob_found {blob : FwBlob} {blobs : List FwBlob}
    {base : Bytes} (named : blob.name = base) (fw : Firmware) :
    (loadFwFromBlob zlib memory (blob :: blobs) base).firmware = some fw ↔
      memory.buffer = true ∧ memory.firmware = true ∧ fw.allocSize = blob.alloc ∧
        rtw88Decompress zlib (blob.alloc % 4294967296) blob.src = (0, fw.size, fw.data) := by
  rw [loadFwFromBlob, if_neg (not_not.mpr named)]
  cases memory.buffer with
  | false => simp
  | true =>
      rcases rtw88Decompress zlib (blob.alloc % 4294967296) blob.src with ⟨err, outLen, out⟩
      by_cases failed : err = 0
      · cases memory.firmware with
        | false => simp
        | true =>
            obtain ⟨size, data, allocSize⟩ := fw
            simp only [failed, Bool.not_true, Bool.false_eq_true, if_false, ne_eq,
              not_true_eq_false, Option.some.injEq, Firmware.mk.injEq, Prod.mk.injEq, true_and]
            grind
      · simp [failed]

/-- A load that fails leaves no block allocated. -/
theorem live_of_failed {blobs : List FwBlob} {base : Bytes}
    (failed : (loadFwFromBlob zlib memory blobs base).firmware = none) :
    (loadFwFromBlob zlib memory blobs base).live = [] := by
  induction blobs with
  | nil => rfl
  | cons blob blobs ih =>
      rw [loadFwFromBlob] at failed ⊢
      by_cases named : blob.name = base
      · rw [if_neg (not_not.mpr named)] at failed ⊢
        cases room : memory.buffer with
        | false => rfl
        | true =>
            rw [room] at failed
            rcases expanded : rtw88Decompress zlib (blob.alloc % 4294967296) blob.src with
              ⟨err, outLen, out⟩
            rw [expanded] at failed
            by_cases ok : err = 0
            · cases enough : memory.firmware with
              | false => simp [ok]
              | true => simp [ok, enough] at failed
            · simp [ok]
      · rw [if_pos named] at failed ⊢
        exact ih failed

/-- A load that succeeds returns the whole content of the blob of that name. -/
theorem content_of_loaded (correct : zlib.Correct) {blobs : List FwBlob} {base : Bytes}
    {fw : Firmware} (loaded : (loadFwFromBlob zlib memory blobs base).firmware = some fw) :
    ∃ blob ∈ blobs, blob.name = base ∧ zlib.content blob.src = some fw.data ∧
      fw.size = fw.data.length := by
  induction blobs with
  | nil => cases loaded
  | cons blob blobs ih =>
      by_cases named : blob.name = base
      · obtain ⟨-, -, -, expanded⟩ := (loadFwFromBlob_found named fw).mp loaded
        obtain ⟨-, -, content, -, size⟩ := (rtw88Decompress_eq_iff correct
          (Nat.mod_lt blob.alloc (by decide))).mp expanded
        exact ⟨blob, by simp, named, content, size⟩
      · rw [loadFwFromBlob, if_pos named] at loaded
        obtain ⟨other, member, rest⟩ := ih loaded
        exact ⟨other, by simp [member], rest⟩

/-- The table has the blob of each firmware file, and no other of its name. -/
theorem mem_genFwBlobs {directory : Directory} {blob : FwBlob} :
    blob ∈ genFwBlobs zlib directory ↔
      ∃ file ∈ directory.files, isBinary file.1 = true ∧ packed zlib file = blob := by
  simp only [genFwBlobs, List.mem_map, List.mem_mergeSort, List.mem_filter, and_assoc]

theorem packed_unique {directory : Directory} {name raw : Bytes}
    (member : (name, raw) ∈ directory.files) {blob : FwBlob}
    (other : blob ∈ genFwBlobs zlib directory) (named : blob.name = name) :
    blob = packed zlib (name, raw) := by
  obtain ⟨file, there, -, rfl⟩ := mem_genFwBlobs.mp other
  have same := List.inj_on_of_nodup_map directory.distinct there member named
  rw [same]

/-- The loader finds the blob of a file. -/
theorem loadFwFromBlob_eq_found (zlib : Zlib) (memory : FwMemory) {blobs : List FwBlob}
    {blob : FwBlob} {base : Bytes}
    (member : blob ∈ blobs) (named : blob.name = base)
    (unique : ∀ other ∈ blobs, other.name = base → other = blob) :
    ∃ rest, loadFwFromBlob zlib memory blobs base =
      loadFwFromBlob zlib memory (blob :: rest) base := by
  induction blobs with
  | nil => cases member
  | cons first blobs ih =>
      by_cases found : first.name = base
      · obtain rfl := unique first (by simp) found
        exact ⟨blobs, rfl⟩
      · have later : blob ∈ blobs := by
          rcases List.mem_cons.mp member with rfl | later
          · exact absurd named found
          · exact later
        obtain ⟨rest, same⟩ := ih later fun other there =>
          unique other (List.mem_cons_of_mem first there)
        refine ⟨rest, ?_⟩
        rw [← same, loadFwFromBlob, if_pos found]

end

theorem expands_packed_iff {zlib : Zlib} (correct : zlib.Correct) {raw : Bytes}
    (packs : zlib.Packs raw) (init : zlib.init = 0) (finish : zlib.finish = 0) (name : Bytes) :
    rtw88Decompress zlib ((packed zlib (name, raw)).alloc % 4294967296)
        (packed zlib (name, raw)).src = (0, raw.length, raw) ↔
      (zlib.compress raw).length < 4294967296 ∧
        raw.length ≤ 4 * (zlib.compress raw).length % 4294967296 := by
  have room : (packed zlib (name, raw)).alloc % 4294967296 =
      4 * (zlib.compress raw).length % 4294967296 := by
    simp only [packed, FwBlob.alloc]
    omega
  rw [rtw88Decompress_eq_iff correct (Nat.mod_lt _ (by decide)), room]
  by_cases short : (zlib.compress raw).length < 4294967296
  · have src : (packed zlib (name, raw)).src = zlib.compress raw := by
      rw [FwBlob.src, packed, Nat.mod_eq_of_lt short, List.take_length]
    simp [init, finish, src, packs.whole, short]
  · -- The cast leaves a part of the stream, which is not complete.
    have src : zlib.content (packed zlib (name, raw)).src = none :=
      packs.part _ (Nat.lt_of_lt_of_le (Nat.mod_lt _ (by decide)) (Nat.le_of_not_lt short))
    simp [src, short]

/-- When the blob of a file yields the file. -/
theorem loaded_packed_iff {zlib : Zlib} (correct : zlib.Correct) (directory : Directory)
    {name raw : Bytes} (member : (name, raw) ∈ directory.files) (binary : isBinary name = true)
    (packs : zlib.Packs raw) (init : zlib.init = 0) (finish : zlib.finish = 0) :
    (∃ fw, (loadFwFromBlob zlib ⟨true, true⟩ (genFwBlobs zlib directory) name).firmware =
        some fw ∧ fw.data = raw ∧ fw.size = raw.length) ↔
      (zlib.compress raw).length < 4294967296 ∧
        raw.length ≤ 4 * (zlib.compress raw).length % 4294967296 := by
  have there : packed zlib (name, raw) ∈ genFwBlobs zlib directory :=
    mem_genFwBlobs.mpr ⟨(name, raw), member, binary, rfl⟩
  obtain ⟨rest, found⟩ := loadFwFromBlob_eq_found zlib ⟨true, true⟩ there rfl
    fun other present named => packed_unique member present named
  change loadFwFromBlob zlib ⟨true, true⟩ (genFwBlobs zlib directory) name = _ at found
  rw [found, ← expands_packed_iff correct packs init finish name]
  constructor
  · rintro ⟨fw, loaded, rfl, size⟩
    obtain ⟨-, -, -, expanded⟩ := (loadFwFromBlob_found rfl fw).mp loaded
    rw [expanded, size]
  · intro expanded
    exact ⟨⟨raw.length, raw, (packed zlib (name, raw)).alloc⟩,
      (loadFwFromBlob_found rfl _).mpr ⟨rfl, rfl, rfl, expanded⟩, rfl, rfl⟩

/-- A packed file is loaded, memory permitting, exactly if its compressed image is shorter than
four gigabytes and it fits four times the size of that image, as a 32-bit number.  Every load
that fails leaves nothing allocated, and every load that succeeds returns the whole content of
the blob's stream, so none does on a corrupted or truncated blob. -/
theorem loadFwFromBlob_packed_iff {zlib : Zlib} (correct : zlib.Correct) (directory : Directory)
    {name raw : Bytes} (member : (name, raw) ∈ directory.files) (binary : isBinary name = true)
    (packs : zlib.Packs raw) :
    (zlib.init = 0 → zlib.finish = 0 →
      ((∃ fw, (loadFwFromBlob zlib ⟨true, true⟩ (genFwBlobs zlib directory) name).firmware =
          some fw ∧ fw.data = raw ∧ fw.size = raw.length) ↔
        (zlib.compress raw).length < 4294967296 ∧
          raw.length ≤ 4 * (zlib.compress raw).length % 4294967296)) ∧
    ∀ memory blobs base,
      ((loadFwFromBlob zlib memory blobs base).firmware = none →
        (loadFwFromBlob zlib memory blobs base).live = []) ∧
      (∀ fw, (loadFwFromBlob zlib memory blobs base).firmware = some fw →
        ∃ blob ∈ blobs, blob.name = base ∧ zlib.content blob.src = some fw.data ∧
          fw.size = fw.data.length) := by
  constructor
  · exact loaded_packed_iff correct directory member binary packs
  · intro memory blobs base
    exact ⟨live_of_failed, fun fw => content_of_loaded correct⟩

/-- What zlib does with one file, whose stream is given. -/
def zlibOn (raw stream : Bytes) : Zlib where
  compress := fun _ => stream
  init := 0
  inflate := fun src room =>
    if stream.isPrefixOf src && raw.length ≤ room then (1, raw) else (-5, [])
  finish := 0
  content := fun src => if stream.isPrefixOf src then some raw else none

theorem zlibOn_correct (raw stream : Bytes) : (zlibOn raw stream).Correct where
  ends_iff := by
    intro src room out
    simp only [zlibOn]
    by_cases begins : stream.isPrefixOf src = true
    · by_cases fits : raw.length ≤ room
      · simp only [begins, fits, decide_true, Bool.and_self, if_true, Prod.mk.injEq, true_and,
          Option.some.injEq]
        constructor
        · rintro rfl
          exact ⟨rfl, fits⟩
        · exact And.left
      · simp only [begins, fits, decide_false, Bool.and_false, Bool.false_eq_true, if_false,
          if_true, Prod.mk.injEq, Option.some.injEq]
        constructor
        · rintro ⟨wrong, -⟩
          cases wrong
        · rintro ⟨rfl, small⟩
          exact absurd small fits
    · simp [begins]
  not_ok := by
    intro src room
    simp only [zlibOn]
    split
    · exact Int.one_ne_zero
    · decide

theorem zlibOn_packs (raw stream : Bytes) : (zlibOn raw stream).Packs raw where
  whole := by simp [zlibOn]
  part := by
    intro length short
    have longer : ¬ stream <+: stream.take length := by
      intro begins
      have size := begins.length_le
      rw [List.length_take] at size
      change length < stream.length at short
      omega
    simp [zlibOn, longer]

/-- A directory with one firmware file, `fw.bin`. -/
def oneFile (raw : Bytes) : Directory where
  files := [([102, 119, 46, 98, 105, 110], raw)]
  distinct := List.nodup_singleton _

theorem loadFwFromBlob_rtw88 :
    let raw := [114, 116, 119, 56, 56]
    let zlib := zlibOn raw [120, 218, 43, 42, 41, 183, 176, 0, 0, 6, 28, 1, 206]
    ∃ fw, (loadFwFromBlob zlib ⟨true, true⟩ (genFwBlobs zlib (oneFile raw))
      [102, 119, 46, 98, 105, 110]).firmware = some fw ∧ fw.data = raw ∧
        fw.size = raw.length := by
  intro raw zlib
  exact ((loadFwFromBlob_packed_iff (zlibOn_correct _ _) (oneFile raw) (by simp [oneFile])
    (by decide) (zlibOn_packs raw _)).1 rfl rfl).mpr (by decide)

/-- A hundred zeros take twelve bytes, and do not fit four times as many. -/
theorem not_loadFwFromBlob_packed :
    ¬ ∀ (zlib : Zlib) (directory : Directory) (name raw : Bytes), zlib.Correct →
      (name, raw) ∈ directory.files → isBinary name = true → zlib.Packs raw →
      zlib.init = 0 → zlib.finish = 0 →
      ∃ fw, (loadFwFromBlob zlib ⟨true, true⟩ (genFwBlobs zlib directory) name).firmware =
        some fw ∧ fw.data = raw ∧ fw.size = raw.length := by
  intro loads
  let stream : Bytes := [120, 218, 99, 96, 160, 61, 0, 0, 0, 100, 0, 1]
  let zeros := Bytes.zeros 100
  have member : ([102, 119, 46, 98, 105, 110], zeros) ∈ (oneFile zeros).files := by
    simp [oneFile]
  have loaded := loads (zlibOn zeros stream) (oneFile zeros) _ zeros (zlibOn_correct _ _) member
    (by decide) (zlibOn_packs _ _) rfl rfl
  rw [loaded_packed_iff (zlibOn_correct _ _) _ member (by decide) (zlibOn_packs _ _) rfl rfl]
    at loaded
  exact absurd loaded.2 (by decide)

end AirportRtw88
