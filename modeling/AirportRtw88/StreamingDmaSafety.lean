import AirportRtw88.DmaStoreSafety
import AirportRtw88.StreamingDma
import Mathlib.Data.List.Pairwise

/-!
# When the bounce buffers do not show

Driver and device observe what they would if the device accessed the buffers itself, exactly as
long as the copies that the shim leaves out have nothing to move.
-/

namespace AirportRtw88

open Heap

/-- No address is in both ranges. -/
def Apart (start size start' size' : Nat) : Prop :=
  ∀ offset < size, ∀ offset' < size', start + offset ≠ start' + offset'

/-- A buffer on the live list. -/
def DmaStore.Live (s : DmaStore) (entry : DmaEntry) : Prop :=
  ∃ live address, Chain s.memory s.dmaList live ∧ (address, entry) ∈ live

namespace StreamingDma

/-! ## What is promised -/

/-- What the CPU and the device may read now is what it would be without bounce buffers. -/
def Current (s : StreamingDma) : Prop :=
  ∀ m ∈ s.mappings,
    (∀ offset < m.size, m.holder offset = .cpu → s.ram (m.buffer + offset) = m.contents offset) ∧
    (m.dir ≠ .fromDevice → ∀ start length,
      (∀ index < length, start + index < m.size ∧ m.holder (start + index) ≠ .cpu) →
      s.store.deviceRead m.handle start length = some (m.slice start length))

/-- The buffer that an operation unmaps holds what it would without bounce buffers. -/
def HandsBack (s : StreamingDma) (op : StreamOp) (after : StreamingDma) : Prop :=
  match op with
  | .unmapSingle handle _ _ _ => ∀ m ∈ s.mappings, m.handle = handle →
      ∀ offset < m.size, after.ram (m.buffer + offset) = m.contents offset
  | _ => True

/-- Only the CPU changes mapped buffers, except that a sync for it changes the buffer that it is
about. -/
def Spares (s : StreamingDma) (op : StreamOp) (after : StreamingDma) : Prop :=
  match op with
  | .cpuWrite _ _ => True
  | .syncForCpu handle _ _ => ∀ m ∈ s.mappings, m.handle ≠ handle →
      ∀ offset < m.size, after.ram (m.buffer + offset) = s.ram (m.buffer + offset)
  | _ => ∀ m ∈ s.mappings,
      ∀ offset < m.size, after.ram (m.buffer + offset) = s.ram (m.buffer + offset)

/-- The bounce buffers do not show in a run. -/
def Refines : List StreamOp → StreamingDma → Prop
  | [], s => s.Current
  | op :: rest, s => s.Current ∧ ∃ after, s.step op = some after ∧ s.HandsBack op after ∧
      s.Spares op after ∧ Refines rest after

/-! ## What driver, device and kernel respect -/

/-- The kernel answers with a buffer that is in nobody's use. -/
def Grants (s : StreamingDma) (size : Nat) (grant : DmaGrant) : Prop :=
  s.store.Admits (.allocCoherent size grant) ∧
    (∀ entry, s.store.Live entry → Apart grant.virt size entry.virt entry.size) ∧
    ∀ m ∈ s.mappings, Apart m.buffer m.size grant.virt size

/-- The rules of the DMA interface. -/
def Respects (s : StreamingDma) : StreamOp → Prop
  | .mapSingle ptr size dir grant =>
      s.Grants size grant ∧ Apart ptr size grant.virt size ∧
        (∀ entry, s.store.Live entry → Apart ptr size entry.virt entry.size) ∧
        -- A buffer is mapped twice only if the device writes neither mapping.
        ∀ m ∈ s.mappings, Apart ptr size m.buffer m.size ∨ (dir = .toDevice ∧ m.dir = .toDevice)
  | .unmapSingle handle size dir _ =>
      ∃ m ∈ s.mappings, m.handle = handle ∧ m.size = size ∧ m.dir = dir
  | .syncForCpu handle size dir | .syncForDevice handle size dir =>
      ∃ m ∈ s.mappings, m.handle = handle ∧ size ≤ m.size ∧ m.dir = dir
  | .cpuWrite address bytes => ∀ index < bytes.length,
      (∀ m ∈ s.mappings, ∀ offset < m.size, address + index = m.buffer + offset →
        m.holder offset = .cpu) ∧
      ∀ entry, s.store.Live entry → entry.origVa ≠ 0 → ∀ offset < entry.size,
        address + index ≠ entry.virt + offset
  | .deviceWrite handle start bytes => ∃ m ∈ s.mappings, m.handle = handle ∧ m.dir ≠ .toDevice ∧
      ∀ index < bytes.length, start + index < m.size ∧ m.holder (start + index) ≠ .cpu
  | .allocCoherent size grant => s.Grants size grant
  | .freeCoherent cpuAddr _ => ∀ entry, s.store.Live entry → entry.virt = cpuAddr →
      entry.origVa = 0
  | .drainPendingFree => True

def Respected : List StreamOp → StreamingDma → Prop
  | [], _ => True
  | op :: rest, s => s.Respects op ∧ ∀ after, s.step op = some after → Respected rest after

/-! ## When the promise is kept -/

/-- A byte is the same in the buffer and in the bounce buffer. -/
def Same (s : StreamingDma) (m : DmaMapping) (offset : Nat) : Prop :=
  s.store.deviceRead m.handle offset 1 = some [s.ram (m.buffer + offset)]

/-- What the shim does not copy is the same already, and so is what it copies although the device
has not written it. -/
def Settled (s : StreamingDma) : StreamOp → Prop
  | .syncForCpu handle size _ => ∀ m ∈ s.mappings, m.handle = handle → ∀ offset < size,
      (m.dir = .fromDevice ↔ m.holder offset ≠ .written) → s.Same m offset
  | .syncForDevice handle size _ => ∀ m ∈ s.mappings, m.handle = handle → ∀ offset < size,
      m.dir ≠ .fromDevice → m.holder offset = .cpu → s.Same m offset
  | .unmapSingle handle _ _ _ => ∀ m ∈ s.mappings, m.handle = handle → ∀ offset < m.size,
      m.holder offset = .written → s.Same m offset
  | _ => True

def AllSettled : List StreamOp → StreamingDma → Prop
  | [], _ => True
  | op :: rest, s => s.Settled op ∧ ∀ after, s.step op = some after → AllSettled rest after

end StreamingDma

/-! ## Memory -/

namespace Ram

variable {ram : Ram} {address : Nat} {bytes : Bytes}

theorem write_of_inside {index : Nat} (inside : index < bytes.length) :
    ram.write address bytes (address + index) = bytes.byte index := by
  rw [write, if_pos ⟨by omega, by omega⟩, Nat.add_sub_cancel_left]

theorem write_of_apart {other : Nat} (apart : ∀ index < bytes.length, other ≠ address + index) :
    ram.write address bytes other = ram other := by
  refine if_neg ?_
  rintro ⟨low, high⟩
  exact apart (other - address) (by omega) (by omega)

theorem length_read (ram : Ram) (address length : Nat) :
    (ram.read address length).length = length := by
  simp [read]

theorem byte_read {index length : Nat} (inside : index < length) :
    (ram.read address length).byte index = ram (address + index) := by
  simp [read, Bytes.byte, inside]

theorem copy_of_inside {target source length index : Nat} (inside : index < length) :
    ram.copy target source length (target + index) = ram (source + index) := by
  rw [copy, write_of_inside (by rwa [length_read]), byte_read inside]

theorem copy_of_apart {target source length other : Nat}
    (apart : ∀ index < length, other ≠ target + index) :
    ram.copy target source length other = ram other := by
  apply write_of_apart
  rwa [length_read]

end Ram

namespace DmaStore

variable {s : DmaStore} {live pending : DmaEntries}

theorem Tracks.live_iff (tracks : s.Tracks live pending) (entry : DmaEntry) :
    s.Live entry ↔ ∃ address, (address, entry) ∈ live := by
  constructor
  · rintro ⟨other, address, chain, member⟩
    exact ⟨address, tracks.current.unique chain ▸ member⟩
  · rintro ⟨address, member⟩
    exact ⟨live, address, tracks.current, member⟩

/-- The memory may change behind the lists. -/
theorem Tracks.withRam (tracks : s.Tracks live pending) (ram : Ram) :
    ({ s with ram } : DmaStore).Tracks live pending :=
  ⟨⟨tracks.current, tracks.deferred, tracks.distinct, tracks.only⟩,
    ⟨tracks.once, tracks.completed, tracks.prepared, tracks.known, tracks.virts, tracks.physes⟩⟩

/-- The walk finds the only entry that is wanted. -/
theorem Tracks.find_eq (tracks : s.Tracks live pending) {address : Nat} {entry : DmaEntry}
    (member : (address, entry) ∈ live) (wanted : DmaEntry → Bool) (isWanted : wanted entry = true)
    (only : ∀ other ∈ live, wanted other.2 = true → other = (address, entry)) :
    ∃ link next, find s.memory wanted s.created .head s.dmaList =
      some (some (link, address, ⟨entry, next⟩)) := by
  obtain ⟨before, after, rfl⟩ := List.append_of_mem member
  have early : ∀ other ∈ before, wanted other.2 = false := by
    intro other earlier
    refine Bool.eq_false_iff.mpr fun again => ?_
    have same := only other (List.mem_append_left _ earlier) again
    have distinct := tracks.current.nodup
    rw [List.map_append, List.nodup_append] at distinct
    have twice : address ∈ before.map Prod.fst := List.mem_map.mpr ⟨other, earlier, by rw [same]⟩
    exact distinct.2.2 address twice address (by simp) rfl
  obtain ⟨next, -, -, found⟩ :=
    tracks.current.find_eq_some wanted tracks.enough .head early isWanted
  exact ⟨_, next, found⟩

/-- The physical addresses tell the entries apart. -/
theorem Tracks.eq_of_phys (tracks : s.Tracks live pending) {first second : Nat × DmaEntry}
    (member : first ∈ live) (member' : second ∈ live) (same : first.2.phys = second.2.phys) :
    first = second :=
  List.inj_on_of_nodup_map tracks.physes member member' same

theorem Tracks.busAddress (tracks : s.Tracks live pending) {address : Nat} {entry : DmaEntry}
    (member : (address, entry) ∈ live) : s.busAddress entry.phys = some entry.virt := by
  obtain ⟨link, next, found⟩ := tracks.find_eq member
    (fun other => other.phys = entry.phys) (by simp)
    fun other listed same => tracks.eq_of_phys listed member (of_decide_eq_true same)
  simp [DmaStore.busAddress, found]

theorem Tracks.deviceRead (tracks : s.Tracks live pending) {address : Nat} {entry : DmaEntry}
    (member : (address, entry) ∈ live) (offset length : Nat) :
    s.deviceRead entry.phys offset length = some (s.ram.read (entry.virt + offset) length) := by
  simp [DmaStore.deviceRead, tracks.busAddress member]

theorem Tracks.deviceWrite (tracks : s.Tracks live pending) {address : Nat} {entry : DmaEntry}
    (member : (address, entry) ∈ live) (offset : Nat) (bytes : Bytes) :
    s.deviceWrite entry.phys offset bytes =
      some { s with ram := s.ram.write (entry.virt + offset) bytes } := by
  simp [DmaStore.deviceWrite, tracks.busAddress member]

theorem ram_setBounceOrigVA {phys origVa : Nat} {after : DmaStore}
    (done : s.setBounceOrigVA phys origVa = some after) : after.ram = s.ram := by
  simp only [DmaStore.setBounceOrigVA, Option.bind_eq_bind, Option.bind_eq_some_iff] at done
  obtain ⟨found, -, done⟩ := done
  rcases found with _ | ⟨link, address, cell⟩ <;> cases done <;> rfl

theorem ram_freeEntry {wanted : DmaEntry → Bool} {preemptible : Bool} {after : DmaStore}
    (done : s.freeEntry wanted preemptible = some after) : after.ram = s.ram := by
  simp only [DmaStore.freeEntry, Option.bind_eq_bind, Option.bind_eq_some_iff] at done
  obtain ⟨found, -, done⟩ := done
  rcases found with _ | ⟨link, address, cell⟩
  · cases done
    rfl
  · simp only [Option.bind_eq_some_iff] at done
    obtain ⟨unlinked, -, done⟩ := done
    split at done
    · simp only [DmaStore.dispose, Option.bind_eq_bind, Option.bind_eq_some_iff] at done
      obtain ⟨cell, -, done⟩ := done
      cases done
      rfl
    · simp only [DmaStore.defer, Option.bind_eq_bind, Option.bind_eq_some_iff] at done
      obtain ⟨cell, -, done⟩ := done
      cases done
      rfl

theorem Tracks.syncBounceForCpu (tracks : s.Tracks live pending) {address : Nat} {entry : DmaEntry}
    (member : (address, entry) ∈ live) (origVa : entry.origVa ≠ 0) (virt : entry.virt ≠ 0)
    {size : Nat} (fits : size ≤ entry.size) :
    s.syncBounceForCpu entry.phys size =
      some { s with ram := s.ram.copy entry.origVa entry.virt size } := by
  obtain ⟨link, next, found⟩ := tracks.find_eq member
    (fun other => other.phys = entry.phys ∧ other.origVa ≠ 0 ∧ other.virt ≠ 0)
    (by simp [origVa, virt]) fun other listed same =>
      tracks.eq_of_phys listed member (of_decide_eq_true same).1
  rw [DmaStore.syncBounceForCpu, found]
  simp [fits]

theorem Tracks.ram_drainPendingFree (tracks : s.Tracks live pending) :
    ∃ after, s.drainPendingFree = some after ∧ after.Tracks live [] ∧ after.ram = s.ram := by
  obtain ⟨after, drains, tracked, -, -⟩ := tracks.drainPendingFree
  obtain ⟨memory, disposes, -⟩ := disposeAll_tracks tracks List.perm_append_comm
    tracks.deferred s.dmaList none
  refine ⟨after, drains, tracked, ?_⟩
  obtain rfl := Option.some.inj (drains.symm.trans disposes)
  rfl

end DmaStore

/-! ## The invariant -/

theorem Apart.symm {start size start' size' : Nat} (apart : Apart start size start' size') :
    Apart start' size' start size :=
  fun offset inside offset' inside' same => apart offset' inside' offset inside same.symm

/-- Two entries have no byte in common. -/
def DmaEntry.Separate (entry other : Nat × DmaEntry) : Prop :=
  Apart entry.2.virt entry.2.size other.2.virt other.2.size

instance : Std.Symm DmaEntry.Separate :=
  ⟨fun _ _ separate => separate.symm⟩

namespace DmaMapping

/-- Two mappings have no byte in common that a device may write. -/
def Distinct (m other : DmaMapping) : Prop :=
  m.handle ≠ other.handle ∧
    (Apart m.buffer m.size other.buffer other.size ∨ m.dir = .toDevice ∧ other.dir = .toDevice)

instance : Std.Symm Distinct :=
  ⟨fun _ _ distinct => ⟨distinct.1.symm, distinct.2.imp Apart.symm And.symm⟩⟩

/-- An entry of the store is the bounce buffer of a mapping. -/
structure Bounced (m : DmaMapping) (entry : DmaEntry) : Prop where
  phys : entry.phys = m.handle
  origVa : entry.origVa = m.buffer
  size : entry.size = m.size
  virt : entry.virt ≠ 0
  buffer : m.buffer ≠ 0

/-- Where the bytes of a mapping are up to date. -/
structure Faithful (m : DmaMapping) (ram : Ram) (virt : Nat) : Prop where
  buffer : ∀ offset < m.size, m.holder offset ≠ .written →
    ram (m.buffer + offset) = m.contents offset
  bounce : ∀ offset < m.size, m.holder offset = .written ∨
    m.holder offset = .device ∧ m.dir ≠ .fromDevice → ram (virt + offset) = m.contents offset
  writes : ∀ offset < m.size, m.holder offset = .written → m.dir ≠ .toDevice

/-- Two states of one mapping. -/
structure Alike (m other : DmaMapping) : Prop where
  handle : m.handle = other.handle
  buffer : m.buffer = other.buffer
  size : m.size = other.size
  dir : m.dir = other.dir

variable {m other : DmaMapping} {ram ram' : Ram} {virt : Nat}

theorem Bounced.alike {entry : DmaEntry} (bounced : m.Bounced entry) (alike : other.Alike m) :
    other.Bounced entry := by
  refine ⟨?_, ?_, ?_, bounced.virt, ?_⟩
  · rw [bounced.phys, alike.handle]
  · rw [bounced.origVa, alike.buffer]
  · rw [bounced.size, alike.size]
  · rw [alike.buffer]
    exact bounced.buffer

theorem Faithful.frame (faithful : m.Faithful ram virt)
    (buffer : ∀ offset < m.size, ram' (m.buffer + offset) = ram (m.buffer + offset))
    (bounce : ∀ offset < m.size, ram' (virt + offset) = ram (virt + offset)) :
    m.Faithful ram' virt where
  buffer offset inside held := (buffer offset inside).trans (faithful.buffer offset inside held)
  bounce offset inside held := (bounce offset inside).trans (faithful.bounce offset inside held)
  writes := faithful.writes

/-- The bounce buffer has the byte of the mapping. -/
theorem Faithful.bounce_iff (faithful : m.Faithful ram virt) {offset : Nat}
    (fits : offset < m.size) : ram (virt + offset) = m.contents offset ↔
      (m.holder offset ≠ .written → ram (virt + offset) = ram (m.buffer + offset)) := by
  by_cases held : m.holder offset = .written
  · exact iff_of_true (faithful.bounce offset fits (.inl held)) fun other => absurd held other
  · rw [faithful.buffer offset fits held]
    exact ⟨fun same _ => same, fun same => same held⟩

/-- The buffer has the byte of the mapping. -/
theorem Faithful.buffer_iff (faithful : m.Faithful ram virt) {offset : Nat}
    (fits : offset < m.size) : ram (m.buffer + offset) = m.contents offset ↔
      (m.holder offset = .written → ram (virt + offset) = ram (m.buffer + offset)) := by
  by_cases held : m.holder offset = .written
  · rw [faithful.bounce offset fits (.inl held)]
    exact ⟨fun same _ => same.symm, fun same => (same held).symm⟩
  · exact iff_of_true (faithful.buffer offset fits held) fun other => absurd other held

/-- The first bytes are the CPU's now. -/
theorem Faithful.forCpu (faithful : m.Faithful ram virt) {size : Nat}
    (arrived : ∀ offset < size, offset < m.size → ram' (m.buffer + offset) = m.contents offset)
    (buffer : ∀ offset < m.size, ¬offset < size →
      ram' (m.buffer + offset) = ram (m.buffer + offset))
    (bounce : ∀ offset < m.size, ram' (virt + offset) = ram (virt + offset)) :
    (m.forCpu size).Faithful ram' virt := by
  constructor
  · intro offset fits held
    by_cases synced : offset < size
    · exact arrived offset synced fits
    · rw [holder_forCpu, if_neg synced] at held
      exact (buffer offset fits synced).trans (faithful.buffer offset fits held)
  · intro offset fits held
    by_cases synced : offset < size
    · simp [holder_forCpu, synced] at held
    · rw [holder_forCpu, if_neg synced] at held
      exact (bounce offset fits).trans (faithful.bounce offset fits held)
  · intro offset fits held
    by_cases synced : offset < size
    · simp [holder_forCpu, synced] at held
    · rw [holder_forCpu, if_neg synced] at held
      exact faithful.writes offset fits held

/-- The first bytes are the device's now. -/
theorem Faithful.forDevice (faithful : m.Faithful ram virt) {size : Nat}
    (same : ∀ offset < size, offset < m.size → m.dir ≠ .fromDevice → m.holder offset = .cpu →
      ram (virt + offset) = ram (m.buffer + offset)) : (m.forDevice size).Faithful ram virt := by
  have written : ∀ offset, (m.forDevice size).holder offset = .written ↔
      m.holder offset = .written := by
    intro offset
    rw [holder_forDevice]
    split
    · rename_i handed
      rw [handed.2]
      decide
    · rfl
  constructor
  · exact fun offset fits held =>
      faithful.buffer offset fits fun before => held ((written offset).mpr before)
  · intro offset fits held
    by_cases handed : offset < size ∧ m.holder offset = .cpu
    · have toDevice : m.dir ≠ .fromDevice := by
        rcases held with held | held
        · rw [written, handed.2] at held
          cases held
        · exact held.2
      refine (same offset handed.1 fits toDevice handed.2).trans (faithful.buffer offset fits ?_)
      rw [handed.2]
      decide
    · rw [holder_forDevice, if_neg handed] at held
      exact faithful.bounce offset fits held
  · exact fun offset fits held => faithful.writes offset fits ((written offset).mp held)

end DmaMapping

namespace StreamingDma

variable {s t : StreamingDma} {live pending : DmaEntries}

/-- Every mapping has a bounce buffer, and no two buffers share a byte that may change. -/
structure Sound (s : StreamingDma) (live pending : DmaEntries) : Prop where
  tracks : s.store.Tracks live pending
  attached : s.mappings ≠ [] → s.shim.pciDevInstance = true
  bounces : live.Pairwise DmaEntry.Separate
  buffers : s.mappings.Pairwise DmaMapping.Distinct
  clear : ∀ m ∈ s.mappings, ∀ entry ∈ live, Apart m.buffer m.size entry.2.virt entry.2.size
  bounced : ∀ m ∈ s.mappings, ∃ entry ∈ live, m.Bounced entry.2 ∧ m.Faithful s.ram entry.2.virt

theorem sound_start (pciDevInstance : Bool) (ram : Ram) :
    (start pciDevInstance ram).Sound [] [] where
  tracks := DmaStore.tracks_start ram
  attached mapped := absurd rfl mapped
  bounces := .nil
  buffers := .nil
  clear := by simp [start]
  bounced := by simp [start]

theorem Sound.apart_bounces (sound : s.Sound live pending) {entry other : Nat × DmaEntry}
    (member : entry ∈ live) (member' : other ∈ live) (differ : entry.2.phys ≠ other.2.phys) :
    Apart entry.2.virt entry.2.size other.2.virt other.2.size := by
  apply sound.bounces.forall member member'
  rintro rfl
  exact differ rfl

theorem Sound.apart_buffers (sound : s.Sound live pending) {m other : DmaMapping}
    (member : m ∈ s.mappings) (member' : other ∈ s.mappings) (differ : m.handle ≠ other.handle) :
    Apart m.buffer m.size other.buffer other.size ∨ m.dir = .toDevice ∧ other.dir = .toDevice := by
  have distinct : m ≠ other := by
    rintro rfl
    exact differ rfl
  exact (sound.buffers.forall member member' distinct).2

theorem Sound.eq_of_handle (sound : s.Sound live pending) {m other : DmaMapping}
    (member : m ∈ s.mappings) (member' : other ∈ s.mappings) (same : m.handle = other.handle) :
    m = other := by
  by_contra differ
  exact (sound.buffers.forall member member' differ).1 same

theorem Sound.same_iff (sound : s.Sound live pending) {m : DmaMapping} {entry : Nat × DmaEntry}
    (listed : entry ∈ live) (bounced : m.Bounced entry.2) (offset : Nat) :
    s.Same m offset ↔ s.ram (entry.2.virt + offset) = s.ram (m.buffer + offset) := by
  rw [Same, ← bounced.phys, sound.tracks.deviceRead listed]
  simp [Ram.read, ram, store]

/-- What is read is up to date. -/
theorem Sound.current (sound : s.Sound live pending) : s.Current := by
  intro m member
  obtain ⟨entry, listed, bounced, faithful⟩ := sound.bounced m member
  refine ⟨fun offset inside held => faithful.buffer offset inside (by rw [held]; decide), ?_⟩
  intro toDevice start length held
  rw [← bounced.phys, sound.tracks.deviceRead listed, Ram.read, DmaMapping.slice]
  refine congrArg some (List.map_congr_left fun index inside => ?_)
  obtain ⟨fits, owned⟩ := held index (List.mem_range.mp inside)
  rw [Nat.add_assoc]
  apply faithful.bounce (start + index) fits
  cases holder : m.holder (start + index) with
  | cpu => exact absurd holder owned
  | device => exact .inr ⟨rfl, toDevice⟩
  | written => exact .inl rfl

/-! ## How the invariant moves -/

/-- The mappings change, and the memory with them. -/
theorem Sound.change (sound : s.Sound live pending) (change : DmaMapping → DmaMapping) (ram : Ram)
    (alike : ∀ m, (change m).Alike m)
    (faithful : ∀ m ∈ s.mappings, ∀ entry ∈ live, m.Bounced entry.2 →
      m.Faithful s.ram entry.2.virt → (change m).Faithful ram entry.2.virt)
    (shim : t.shim = { s.shim with store := { s.shim.store with ram } })
    (mappings : t.mappings = s.mappings.map change) : t.Sound live pending where
  tracks := by
    rw [store, shim]
    exact sound.tracks.withRam ram
  attached mapped := by
    rw [mappings, Ne, List.map_eq_nil_iff] at mapped
    rw [shim]
    exact sound.attached mapped
  bounces := sound.bounces
  buffers := by
    rw [mappings, List.pairwise_map]
    refine sound.buffers.imp fun {m other} distinct => ?_
    rw [DmaMapping.Distinct, (alike m).handle, (alike m).buffer, (alike m).size, (alike m).dir,
      (alike other).handle, (alike other).buffer, (alike other).size, (alike other).dir]
    exact distinct
  clear := by
    rw [mappings, List.forall_mem_map]
    intro m member entry listed
    rw [(alike m).buffer, (alike m).size]
    exact sound.clear m member entry listed
  bounced := by
    rw [mappings, List.forall_mem_map]
    intro m member
    obtain ⟨entry, listed, bounced, same⟩ := sound.bounced m member
    have memory : t.ram = ram := by rw [StreamingDma.ram, shim]
    rw [memory]
    exact ⟨entry, listed, bounced.alike (alike m), faithful m member entry listed bounced same⟩

/-- The memory changes where neither buffers nor bounce buffers are. -/
theorem Sound.keep {pending' : DmaEntries} (sound : s.Sound live pending)
    (tracks : t.store.Tracks live pending') (mappings : t.mappings = s.mappings)
    (attached : t.shim.pciDevInstance = s.shim.pciDevInstance)
    (buffers : ∀ m ∈ s.mappings, ∀ offset < m.size,
      t.ram (m.buffer + offset) = s.ram (m.buffer + offset))
    (bounces : ∀ entry ∈ live, ∀ offset < entry.2.size,
      t.ram (entry.2.virt + offset) = s.ram (entry.2.virt + offset)) :
    t.Sound live pending' where
  tracks := tracks
  attached mapped := attached ▸ sound.attached (mappings ▸ mapped)
  bounces := sound.bounces
  buffers := mappings ▸ sound.buffers
  clear := mappings ▸ sound.clear
  bounced := by
    rw [mappings]
    intro m member
    obtain ⟨entry, listed, bounced, faithful⟩ := sound.bounced m member
    refine ⟨entry, listed, bounced, faithful.frame (buffers m member) ?_⟩
    rw [← bounced.size]
    exact bounces entry listed

/-- A new buffer of the store, apart from all others. -/
theorem Sound.push (sound : s.Sound live pending) {entry : Nat × DmaEntry}
    (apart : ∀ other ∈ live, Apart entry.2.virt entry.2.size other.2.virt other.2.size)
    (clear : ∀ m ∈ s.mappings, Apart m.buffer m.size entry.2.virt entry.2.size)
    (tracks : t.store.Tracks (entry :: live) pending) (mappings : t.mappings = s.mappings)
    (attached : t.shim.pciDevInstance = s.shim.pciDevInstance)
    (frame : ∀ address, (∀ offset < entry.2.size, address ≠ entry.2.virt + offset) →
      t.ram address = s.ram address) : t.Sound (entry :: live) pending where
  tracks := tracks
  attached mapped := attached ▸ sound.attached (mappings ▸ mapped)
  bounces := .cons apart sound.bounces
  buffers := mappings ▸ sound.buffers
  clear := by
    rw [mappings]
    intro m member
    exact List.forall_mem_cons.mpr ⟨clear m member, sound.clear m member⟩
  bounced := by
    rw [mappings]
    intro m member
    obtain ⟨other, listed, bounced, faithful⟩ := sound.bounced m member
    refine ⟨other, List.mem_cons_of_mem _ listed, bounced, faithful.frame ?_ ?_⟩
    · exact fun offset inside => frame _ fun offset' inside' => clear m member _ inside _ inside'
    · refine fun offset inside => frame _ fun offset' inside' => ?_
      exact (apart other listed).symm offset (bounced.size ▸ inside) offset' inside'

/-- Buffers of the store and mappings go, and what is left still fits together. -/
theorem Sound.fewer {live' pending' : DmaEntries} (sound : s.Sound live pending)
    (tracks : t.store.Tracks live' pending') (less : live'.Sublist live)
    (mappings : t.mappings.Sublist s.mappings) (memory : t.ram = s.ram)
    (attached : t.shim.pciDevInstance = s.shim.pciDevInstance)
    (still : ∀ m ∈ t.mappings, ∀ entry ∈ live, m.Bounced entry.2 → entry ∈ live') :
    t.Sound live' pending' where
  tracks := tracks
  attached mapped := by
    rw [attached]
    apply sound.attached
    intro none
    rw [none] at mappings
    exact mapped (List.sublist_nil.mp mappings)
  bounces := sound.bounces.sublist less
  buffers := sound.buffers.sublist mappings
  clear m member entry listed := sound.clear m (mappings.mem member) entry (less.mem listed)
  bounced m member := by
    obtain ⟨entry, listed, bounced, faithful⟩ := sound.bounced m (mappings.mem member)
    exact ⟨entry, still m member entry listed bounced, bounced, memory ▸ faithful⟩

/-! ## The operations -/

/-- What an operation does that respects the rules. -/
structure Steps (s : StreamingDma) (op : StreamOp) (after : StreamingDma) : Prop where
  spares : s.Spares op after
  settled : s.HandsBack op after → after.Current → s.Settled op
  sound : s.Settled op → s.HandsBack op after ∧ ∃ live pending, after.Sound live pending

theorem Sound.cpuWrite (sound : s.Sound live pending) {address : Nat} {bytes : Bytes}
    (respects : s.Respects (.cpuWrite address bytes)) :
    ∃ after, s.step (.cpuWrite address bytes) = some after ∧
      s.Steps (.cpuWrite address bytes) after := by
  refine ⟨_, rfl, trivial, fun _ _ => trivial, fun _ => ⟨trivial, live, pending, ?_⟩⟩
  refine sound.change (·.cpuWrite address bytes) (s.ram.write address bytes)
    (fun m => ⟨rfl, rfl, rfl, rfl⟩) (fun m member entry listed bounced faithful => ?_) rfl rfl
  have outside : ∀ offset < m.size, m.holder offset ≠ .cpu → ∀ index < bytes.length,
      m.buffer + offset ≠ address + index := by
    intro offset inside held index inside' same
    exact held ((respects index inside').1 m member offset inside same.symm)
  have kept : ∀ offset < m.size, m.holder offset ≠ .cpu →
      (m.cpuWrite address bytes).contents offset = m.contents offset := by
    intro offset inside held
    refine if_neg ?_
    rintro ⟨low, high⟩
    exact outside offset inside held (m.buffer + offset - address) (by omega) (by omega)
  constructor
  · intro offset inside held
    rw [DmaMapping.contents_cpuWrite]
    change s.ram.write address bytes (m.buffer + offset) = _
    split
    · rename_i range
      obtain ⟨index, same⟩ := Nat.exists_eq_add_of_le range.1
      rw [same, Nat.add_sub_cancel_left, Ram.write_of_inside (by omega)]
    · rename_i range
      rw [Ram.write_of_apart fun index inside' same => range ⟨by omega, by omega⟩]
      exact faithful.buffer offset inside held
  · intro offset inside held
    have owned : m.holder offset ≠ .cpu := by
      rcases held with held | held
      · exact ne_of_eq_of_ne held (by decide)
      · exact ne_of_eq_of_ne held.1 (by decide)
    rw [kept offset inside owned, Ram.write_of_apart fun index inside' same => ?_]
    · exact faithful.bounce offset inside held
    · have live := (sound.tracks.live_iff entry.2).mpr ⟨entry.1, listed⟩
      refine (respects index inside').2 entry.2 live ?_ offset (bounced.size ▸ inside) same.symm
      rw [bounced.origVa]
      exact bounced.buffer
  · exact faithful.writes

theorem alike_onMapping (change : DmaMapping → DmaMapping) (alike : ∀ m, (change m).Alike m)
    (handle : Nat) (m : DmaMapping) : (if m.handle = handle then change m else m).Alike m := by
  split
  · exact alike m
  · exact ⟨rfl, rfl, rfl, rfl⟩

theorem Sound.deviceWrite (sound : s.Sound live pending) {handle start : Nat} {bytes : Bytes}
    (respects : s.Respects (.deviceWrite handle start bytes)) :
    ∃ after, s.step (.deviceWrite handle start bytes) = some after ∧
      s.Steps (.deviceWrite handle start bytes) after := by
  obtain ⟨target, member, rfl, writable, range⟩ := respects
  obtain ⟨entry, listed, bounced, -⟩ := sound.bounced target member
  have writes := sound.tracks.deviceWrite listed start bytes
  rw [bounced.phys] at writes
  have inside : ∀ index < bytes.length, start + index < entry.2.size := fun index below =>
    bounced.size ▸ (range index below).1
  have spared : ∀ m ∈ s.mappings, ∀ offset < m.size,
      s.ram.write (entry.2.virt + start) bytes (m.buffer + offset) = s.ram (m.buffer + offset) := by
    intro m listed' offset fits
    apply Ram.write_of_apart
    intro index below
    rw [Nat.add_assoc]
    exact sound.clear m listed' entry listed offset fits _ (inside index below)
  refine ⟨{ s.withStore { s.store with ram := s.ram.write (entry.2.virt + start) bytes } with
    mappings := s.onMapping target.handle (·.deviceWrite start bytes) },
    by rw [step, writes]; rfl, spared, fun _ _ => trivial, fun _ => ⟨trivial, live, pending, ?_⟩⟩
  refine sound.change _ (s.ram.write (entry.2.virt + start) bytes)
    (alike_onMapping (·.deviceWrite start bytes) (fun _ => ⟨rfl, rfl, rfl, rfl⟩) target.handle)
    (fun m member' entry' listed' bounced' faithful => ?_) rfl rfl
  split
  · rename_i same
    obtain rfl := sound.eq_of_handle member' member same
    obtain rfl := sound.tracks.eq_of_phys listed' listed (bounced'.phys.trans bounced.phys.symm)
    constructor
    · intro offset fits held
      have outside : ¬(start ≤ offset ∧ offset < start + bytes.length) := fun within =>
        held (if_pos within)
      rw [DmaMapping.holder_deviceWrite, if_neg outside] at held
      rw [DmaMapping.contents_deviceWrite, if_neg outside]
      exact (spared m member offset fits).trans (faithful.buffer offset fits held)
    · intro offset fits held
      by_cases within : start ≤ offset ∧ offset < start + bytes.length
      · obtain ⟨index, rfl⟩ := Nat.exists_eq_add_of_le within.1
        rw [DmaMapping.contents_deviceWrite, if_pos within, Nat.add_sub_cancel_left,
          ← Nat.add_assoc, Ram.write_of_inside (by omega)]
      · rw [DmaMapping.holder_deviceWrite, if_neg within] at held
        rw [DmaMapping.contents_deviceWrite, if_neg within,
          Ram.write_of_apart fun index below same => within ⟨by omega, by omega⟩]
        exact faithful.bounce offset fits held
    · exact fun _ _ _ => writable
  · rename_i other
    apply faithful.frame (spared m member')
    intro offset fits
    apply Ram.write_of_apart
    intro index below
    rw [Nat.add_assoc]
    refine sound.apart_bounces listed' listed ?_ offset (bounced'.size ▸ fits) _
      (inside index below)
    rw [bounced'.phys, bounced.phys]
    exact other

/-- A sync for the CPU copies the bounce buffer of a from-device mapping, and nothing else. -/
theorem Sound.syncs (sound : s.Sound live pending) {target : DmaMapping}
    (member : target ∈ s.mappings) {entry : Nat × DmaEntry} (listed : entry ∈ live)
    (bounced : target.Bounced entry.2) {size : Nat} (fits : size ≤ target.size) :
    ∃ ram, s.step (.syncForCpu target.handle size target.dir) =
        some ⟨{ s.shim with store := { s.shim.store with ram } },
          s.onMapping target.handle (·.forCpu size)⟩ ∧
      (∀ offset < size, ram (target.buffer + offset) = if target.dir = .fromDevice
        then s.ram (entry.2.virt + offset) else s.ram (target.buffer + offset)) ∧
      ∀ address, (target.dir = .fromDevice → ∀ offset < size, address ≠ target.buffer + offset) →
        ram address = s.ram address := by
  by_cases copies : target.dir = .fromDevice
  · have attached := sound.attached (List.ne_nil_of_mem member)
    have origVa : entry.2.origVa ≠ 0 := bounced.origVa ▸ bounced.buffer
    have copied := sound.tracks.syncBounceForCpu listed origVa bounced.virt (bounced.size ▸ fits)
    rw [bounced.phys, bounced.origVa] at copied
    refine ⟨s.ram.copy target.buffer entry.2.virt size, ?_, fun offset synced => ?_,
      fun address apart => Ram.copy_of_apart (apart copies)⟩
    · rw [step, DmaShim.compatDmaSyncCpu, if_pos ⟨copies, attached⟩]
      change ((s.store.syncBounceForCpu _ _).bind _).bind _ = _
      rw [copied]
      rfl
    · rw [if_pos copies, Ram.copy_of_inside synced]
  · refine ⟨s.ram, ?_, fun offset synced => (if_neg copies).symm, fun _ _ => rfl⟩
    rw [step, DmaShim.compatDmaSyncCpu, if_neg fun both => copies both.1]
    rfl

theorem Sound.syncForCpu (sound : s.Sound live pending) {handle size : Nat} {dir : DmaDirection}
    (respects : s.Respects (.syncForCpu handle size dir)) :
    ∃ after, s.step (.syncForCpu handle size dir) = some after ∧
      s.Steps (.syncForCpu handle size dir) after := by
  obtain ⟨target, member, rfl, fits, rfl⟩ := respects
  obtain ⟨entry, listed, bounced, faithful⟩ := sound.bounced target member
  obtain ⟨ram, taken, copied, frame⟩ := sound.syncs member listed bounced fits
  -- The step is right exactly if every byte that the CPU gets is the byte of the mapping.
  have settled_iff : s.Settled (.syncForCpu target.handle size target.dir) ↔
      ∀ offset < size, ram (target.buffer + offset) = target.contents offset := by
    constructor
    · intro settled offset synced
      have inside : offset < target.size := Nat.lt_of_lt_of_le synced fits
      have same := settled target member rfl offset synced
      rw [sound.same_iff listed bounced] at same
      rw [copied offset synced]
      split
      · rename_i fromDevice
        exact (faithful.bounce_iff inside).mpr fun held => same (iff_of_true fromDevice held)
      · rename_i other
        refine (faithful.buffer_iff inside).mpr fun held => same (iff_of_false other ?_)
        exact fun differs => differs held
    · intro arrives m member' same offset synced which
      obtain rfl := sound.eq_of_handle member' member same
      have inside : offset < m.size := Nat.lt_of_lt_of_le synced fits
      have arrived := arrives offset synced
      rw [copied offset synced] at arrived
      rw [sound.same_iff listed bounced]
      split at arrived
      · rename_i fromDevice
        exact (faithful.bounce_iff inside).mp arrived (which.mp fromDevice)
      · rename_i other
        refine (faithful.buffer_iff inside).mp arrived ?_
        by_contra held
        exact other (which.mpr held)
  have apart : ∀ m ∈ s.mappings, m.handle ≠ target.handle → ∀ offset < m.size,
      ram (m.buffer + offset) = s.ram (m.buffer + offset) := by
    intro m member' other offset inside
    refine frame _ fun fromDevice index synced => ?_
    rcases sound.apart_buffers member' member other with apart | ⟨-, toDevice⟩
    · exact apart offset inside index (Nat.lt_of_lt_of_le synced fits)
    · rw [fromDevice] at toDevice
      cases toDevice
  refine ⟨_, taken, apart, fun _ current => settled_iff.mpr ?_, fun settled => ⟨trivial, live,
    pending, ?_⟩⟩
  · intro offset synced
    have changed : target.forCpu size ∈ s.onMapping target.handle (·.forCpu size) :=
      List.mem_map.mpr ⟨target, member, if_pos rfl⟩
    refine (current _ changed).1 offset (Nat.lt_of_lt_of_le synced fits) ?_
    rw [DmaMapping.holder_forCpu, if_pos synced]
  · refine sound.change _ ram
      (alike_onMapping (·.forCpu size) (fun _ => ⟨rfl, rfl, rfl, rfl⟩) target.handle)
      (fun m member' entry' listed' bounced' faithful' => ?_) rfl rfl
    have bounces : ∀ offset < m.size,
        ram (entry'.2.virt + offset) = s.ram (entry'.2.virt + offset) := by
      refine fun offset inside => frame _ fun _ index synced same => ?_
      exact sound.clear target member entry' listed' index (Nat.lt_of_lt_of_le synced fits) offset
        (bounced'.size ▸ inside) same.symm
    split
    · rename_i same
      obtain rfl := sound.eq_of_handle member' member same
      refine faithful'.forCpu (fun offset synced _ => settled_iff.mp settled offset synced) ?_
        bounces
      refine fun offset inside kept => frame _ fun _ index synced same => ?_
      omega
    · rename_i other
      exact faithful'.frame (apart m member' other) bounces

theorem Sound.syncForDevice (sound : s.Sound live pending) {handle size : Nat}
    {dir : DmaDirection} (respects : s.Respects (.syncForDevice handle size dir)) :
    ∃ after, s.step (.syncForDevice handle size dir) = some after ∧
      s.Steps (.syncForDevice handle size dir) after := by
  obtain ⟨target, member, rfl, fits, rfl⟩ := respects
  obtain ⟨entry, listed, bounced, faithful⟩ := sound.bounced target member
  refine ⟨⟨s.shim, s.onMapping target.handle (·.forDevice size)⟩, rfl, fun _ _ _ _ => rfl,
    fun _ current => ?_, fun settled => ⟨trivial, live, pending, ?_⟩⟩
  · intro m member' same offset synced toDevice held
    have changed : m.forDevice size ∈ s.onMapping target.handle (·.forDevice size) :=
      List.mem_map.mpr ⟨m, member', if_pos same⟩
    obtain rfl := sound.eq_of_handle member' member same
    have inside : offset < m.size := Nat.lt_of_lt_of_le synced fits
    -- The device may read the byte, and the mapping has the byte of the CPU.
    have read := (current _ changed).2 toDevice offset 1 fun index below => by
      obtain rfl : index = 0 := Nat.lt_one_iff.mp below
      refine ⟨inside, ?_⟩
      rw [Nat.add_zero, DmaMapping.holder_forDevice, if_pos ⟨synced, held⟩]
      decide
    refine Eq.trans read (congrArg some ?_)
    have own : s.ram (m.buffer + offset) = m.contents offset :=
      faithful.buffer offset inside (by rw [held]; decide)
    rw [own]
    rfl
  · refine sound.change _ s.ram
      (alike_onMapping (·.forDevice size) (fun _ => ⟨rfl, rfl, rfl, rfl⟩) target.handle)
      (fun m member' entry' listed' bounced' faithful' => ?_) rfl rfl
    split
    · rename_i same
      refine faithful'.forDevice fun offset synced inside toDevice held => ?_
      rw [← sound.same_iff listed' bounced']
      exact settled m member' same offset synced toDevice held
    · exact faithful'

theorem Sound.unmapSingle (sound : s.Sound live pending) {handle size : Nat} {dir : DmaDirection}
    {preemptible : Bool} (respects : s.Respects (.unmapSingle handle size dir preemptible)) :
    ∃ after, s.step (.unmapSingle handle size dir preemptible) = some after ∧
      s.Steps (.unmapSingle handle size dir preemptible) after := by
  obtain ⟨target, member, rfl, -, -⟩ := respects
  obtain ⟨entry, listed, bounced, faithful⟩ := sound.bounced target member
  obtain ⟨-, store, frees, tracks⟩ := sound.tracks.frees.2 target.handle preemptible
  have memory : store.ram = s.ram := DmaStore.ram_freeEntry frees
  have taken : s.step (.unmapSingle target.handle size dir preemptible) =
      some ⟨{ s.shim with store }, s.mappings.filter fun m => m.handle ≠ target.handle⟩ := by
    rw [step, DmaShim.compatDmaUnmap, if_pos (sound.attached (List.ne_nil_of_mem member))]
    change ((s.store.freeCoherentByPhys _ _).bind _).bind _ = _
    rw [frees]
    rfl
  have left : ∃ live pending, StreamingDma.Sound
      ⟨{ s.shim with store }, s.mappings.filter fun m => m.handle ≠ target.handle⟩
      live pending := by
    refine ⟨_, _, sound.fewer tracks List.filter_sublist List.filter_sublist memory rfl ?_⟩
    intro m member' other listed' bounced'
    refine List.mem_filter.mpr ⟨listed', ?_⟩
    have differs := (List.mem_filter.mp member').2
    simpa [bounced'.phys] using differs
  refine ⟨_, taken, fun m _ offset _ => congrFun memory _, fun hands _ => ?_,
    fun settled => ⟨?_, left⟩⟩
  · intro m member' same offset fits held
    obtain ⟨entry', listed', bounced', faithful'⟩ := sound.bounced m member'
    rw [sound.same_iff listed' bounced']
    refine (faithful'.buffer_iff fits).mp ?_ held
    rw [← memory]
    exact hands m member' same offset fits
  · intro m member' same offset fits
    obtain ⟨entry', listed', bounced', faithful'⟩ := sound.bounced m member'
    have back := (faithful'.buffer_iff fits).mpr fun held =>
      (sound.same_iff listed' bounced' offset).mp (settled m member' same offset fits held)
    exact (congrFun memory _).trans back

theorem Sound.drainPendingFree (sound : s.Sound live pending) :
    ∃ after, s.step .drainPendingFree = some after ∧ s.Steps .drainPendingFree after := by
  obtain ⟨store, drains, tracks, memory⟩ := sound.tracks.ram_drainPendingFree
  have taken : s.step .drainPendingFree = some (s.withStore store) := by
    change (s.store.drainPendingFree.bind _) = _
    rw [drains]
    rfl
  refine ⟨_, taken, fun m _ offset _ => congrFun memory _, fun _ _ => trivial,
    fun _ => ⟨trivial, live, _, sound.keep tracks rfl rfl ?_ ?_⟩⟩
  · exact fun _ _ _ _ => congrFun memory _
  · exact fun _ _ _ _ => congrFun memory _

theorem Sound.freeCoherent (sound : s.Sound live pending) {cpuAddr : Nat} {preemptible : Bool}
    (respects : s.Respects (.freeCoherent cpuAddr preemptible)) :
    ∃ after, s.step (.freeCoherent cpuAddr preemptible) = some after ∧
      s.Steps (.freeCoherent cpuAddr preemptible) after := by
  cases attached : s.shim.pciDevInstance with
  | false =>
      have taken : s.step (.freeCoherent cpuAddr preemptible) = some s := by
        simp [step, DmaShim.compatDmaFree, attached]
      exact ⟨s, taken, fun _ _ _ _ => rfl, fun _ _ => trivial,
        fun _ => ⟨trivial, live, pending, sound⟩⟩
  | true =>
      obtain ⟨-, store, frees, tracks⟩ := sound.tracks.frees.1 cpuAddr preemptible
      have memory : store.ram = s.ram := DmaStore.ram_freeEntry frees
      have taken : s.step (.freeCoherent cpuAddr preemptible) = some (s.withStore store) := by
        rw [step, DmaShim.compatDmaFree, if_pos attached]
        change ((s.store.freeCoherent _ _).bind _).bind _ = _
        rw [frees]
        rfl
      refine ⟨_, taken, fun m _ offset _ => congrFun memory _, fun _ _ => trivial,
        fun _ => ⟨trivial, _, _, sound.fewer tracks List.filter_sublist (.refl _) memory rfl ?_⟩⟩
      intro m member entry listed bounced
      have kept : entry.2.virt ≠ cpuAddr := by
        intro freed
        refine bounced.buffer (bounced.origVa.symm.trans ?_)
        exact respects entry.2 ((sound.tracks.live_iff _).mpr ⟨entry.1, listed⟩) freed
      exact List.mem_filter.mpr ⟨listed, by simpa using kept⟩

theorem Sound.separate (sound : s.Sound live pending) {size : Nat} {grant : DmaGrant}
    (grants : s.Grants size grant) (other : Nat × DmaEntry) (listed : other ∈ live) :
    Apart grant.virt size other.2.virt other.2.size :=
  grants.2.1 other.2 ((sound.tracks.live_iff _).mpr ⟨other.1, listed⟩)

/-- An allocation changes nothing but the new buffer. -/
theorem Sound.ram_allocCoherent (sound : s.Sound live pending) {size : Nat} {grant : DmaGrant}
    (grants : s.Grants size grant) {address : Nat}
    (outside : ∀ offset < size, address ≠ grant.virt + offset) :
    (s.store.allocCoherent size grant).1.ram address = s.ram address := by
  rcases (sound.tracks.allocCoherent_cases grants.1).2 with same | cleared
  · rw [same]
    rfl
  · rw [cleared]
    exact Ram.write_of_apart (by simpa using outside)

/-- After an allocation that failed everything is as it was. -/
theorem Sound.refused (sound : s.Sound live pending) {size : Nat} {grant : DmaGrant}
    (grants : s.Grants size grant)
    (tracks : (s.store.allocCoherent size grant).1.Tracks live pending) :
    (s.withStore (s.store.allocCoherent size grant).1).Sound live pending := by
  refine sound.keep tracks rfl rfl ?_ ?_
  · exact fun m member offset inside => sound.ram_allocCoherent grants fun index below =>
      grants.2.2 m member offset inside index below
  · exact fun entry listed offset inside => sound.ram_allocCoherent grants fun index below =>
      (sound.separate grants entry listed).symm offset inside index below

theorem Sound.allocCoherent (sound : s.Sound live pending) {size : Nat} {grant : DmaGrant}
    (respects : s.Respects (.allocCoherent size grant)) :
    ∃ after, s.step (.allocCoherent size grant) = some after ∧
      s.Steps (.allocCoherent size grant) after := by
  cases attached : s.shim.pciDevInstance with
  | false =>
      have taken : s.step (.allocCoherent size grant) = some s := by
        simp [step, DmaShim.compatDmaAlloc, attached]
      exact ⟨s, taken, fun _ _ _ _ => rfl, fun _ _ => trivial,
        fun _ => ⟨trivial, live, pending, sound⟩⟩
  | true =>
      have taken : s.step (.allocCoherent size grant) =
          some (s.withStore (s.store.allocCoherent size grant).1) := by
        simp [step, DmaShim.compatDmaAlloc, attached, withStore, store]
      refine ⟨_, taken, ?_, fun _ _ => trivial, fun _ => ⟨trivial, ?_⟩⟩
      · exact fun m member offset inside => sound.ram_allocCoherent respects fun index below =>
          respects.2.2 m member offset inside index below
      · rcases (sound.tracks.allocCoherent_cases respects.1).1 with ⟨-, tracks⟩ |
          ⟨-, -, -, address, desc, tracks⟩
        · exact ⟨live, pending, sound.refused respects tracks⟩
        · exact ⟨_, pending, sound.push (sound.separate respects) respects.2.2 tracks rfl rfl
            fun _ outside => sound.ram_allocCoherent respects outside⟩

/-- A new mapping of a buffer that is apart from all others. -/
theorem Sound.adopt (sound : s.Sound live pending) (attached : s.shim.pciDevInstance = true)
    {m : DmaMapping} (distinct : ∀ other ∈ s.mappings, m.Distinct other)
    (clear : ∀ entry ∈ live, Apart m.buffer m.size entry.2.virt entry.2.size)
    (bounced : ∃ entry ∈ live, m.Bounced entry.2 ∧ m.Faithful s.ram entry.2.virt) :
    StreamingDma.Sound ⟨s.shim, m :: s.mappings⟩ live pending where
  tracks := sound.tracks
  attached _ := attached
  bounces := sound.bounces
  buffers := .cons distinct sound.buffers
  clear := List.forall_mem_cons.mpr ⟨clear, sound.clear⟩
  bounced := List.forall_mem_cons.mpr ⟨bounced, sound.bounced⟩

/-- A buffer is mapped: the store has a registered bounce buffer, which has the bytes of the buffer
unless the device is to write them. -/
theorem Sound.registers (sound : s.Sound live pending) {ptr size : Nat} (dir : DmaDirection)
    {grant : DmaGrant} (grants : s.Grants size grant) {address desc : Nat}
    (tracks : (s.store.allocCoherent size grant).1.Tracks
      ((address, ⟨desc, grant.virt, grant.phys, size, 0⟩) :: live) pending)
    (attached : s.shim.pciDevInstance = true) (named : ptr ≠ 0) (virt : grant.virt ≠ 0)
    (granted : (s.store.allocCoherent size grant).2 = grant.virt) :
    ∃ store : DmaStore, s.shim.compatDmaMap ptr size dir grant =
        some ({ s.shim with store }, grant.phys) ∧
      store.Tracks ((address, ⟨desc, grant.virt, grant.phys, size, ptr⟩) :: live) pending ∧
      (∀ other, (∀ offset < size, other ≠ grant.virt + offset) → store.ram other = s.ram other) ∧
      (dir ≠ .fromDevice → (∀ offset < size, ∀ index < size, ptr + offset ≠ grant.virt + index) →
        ∀ offset < size, store.ram (grant.virt + offset) = s.ram (ptr + offset)) := by
  obtain ⟨registered, registers, tracked⟩ := tracks.setBounceOrigVA grant.phys ptr
  have memory := DmaStore.ram_setBounceOrigVA registers
  have others : ∀ entry ∈ live, decide (entry.2.phys = grant.phys) = false := by
    intro entry listed
    refine decide_eq_false fun same => ?_
    exact (List.nodup_cons.mp tracks.physes).1 (List.mem_map.mpr ⟨entry, listed, same⟩)
  rw [List.map_cons, DmaStore.map_register ptr others, DmaStore.register, if_pos rfl] at tracked
  let ram := if dir = .toDevice ∨ dir = .bidirectional then
    registered.ram.copy grant.virt ptr size else registered.ram
  refine ⟨{ registered with ram }, ?_, tracked.withRam _, fun other outside => ?_, ?_⟩
  · have pair : s.shim.store.allocCoherent size grant =
        ((s.store.allocCoherent size grant).1, grant.virt) := Prod.ext rfl granted
    simp [DmaShim.compatDmaMap, attached, named, pair, virt, registers, ram]
  · have kept : registered.ram other = s.ram other := by
      rw [memory]
      exact sound.ram_allocCoherent grants outside
    change ram other = _
    rw [← kept]
    simp only [ram]
    split
    · exact Ram.copy_of_apart outside
    · rfl
  · intro toDevice apart offset inside
    have copies : dir = .toDevice ∨ dir = .bidirectional := by
      cases dir with
      | fromDevice => exact absurd rfl toDevice
      | toDevice => exact .inl rfl
      | bidirectional => exact .inr rfl
    change ram (grant.virt + offset) = _
    simp only [ram]
    rw [if_pos copies, Ram.copy_of_inside inside, memory]
    exact sound.ram_allocCoherent grants (apart offset inside)

/-- The shim maps nothing. -/
theorem Steps.unmapped {ptr size : Nat} {dir : DmaDirection} {grant : DmaGrant}
    (spared : ∀ m ∈ s.mappings, ∀ offset < m.size,
      t.ram (m.buffer + offset) = s.ram (m.buffer + offset))
    (sound : ∃ live pending, t.Sound live pending) : s.Steps (.mapSingle ptr size dir grant) t :=
  ⟨spared, fun _ _ => trivial, fun _ => ⟨trivial, sound⟩⟩

theorem Sound.mapSingle (sound : s.Sound live pending) {ptr size : Nat} {dir : DmaDirection}
    {grant : DmaGrant} (respects : s.Respects (.mapSingle ptr size dir grant)) :
    ∃ after, s.step (.mapSingle ptr size dir grant) = some after ∧
      s.Steps (.mapSingle ptr size dir grant) after := by
  obtain ⟨grants, ownApart, bouncesApart, buffersApart⟩ := respects
  by_cases ready : s.shim.pciDevInstance = true ∧ ptr ≠ 0
  case neg =>
    have taken : s.step (.mapSingle ptr size dir grant) = some s := by
      have refuses : s.shim.pciDevInstance = false ∨ ptr = 0 := by
        simpa [imp_iff_not_or] using ready
      simp [step, DmaShim.compatDmaMap, refuses, dmaMappingError]
    exact ⟨s, taken, .unmapped (fun _ _ _ _ => rfl) ⟨live, pending, sound⟩⟩
  obtain ⟨attached, named⟩ := ready
  rcases (sound.tracks.allocCoherent_cases grants.1).1 with ⟨none, tracks⟩ |
    ⟨virt, phys, granted, address, desc, tracks⟩
  · have pair : s.shim.store.allocCoherent size grant =
        ((s.store.allocCoherent size grant).1, 0) := Prod.ext rfl none
    have taken : s.step (.mapSingle ptr size dir grant) =
        some (s.withStore (s.store.allocCoherent size grant).1) := by
      simp [step, DmaShim.compatDmaMap, attached, named, pair, dmaMappingError, withStore]
    refine ⟨_, taken, .unmapped ?_ ⟨live, pending, sound.refused grants tracks⟩⟩
    exact fun m member offset inside => sound.ram_allocCoherent grants fun index below =>
      grants.2.2 m member offset inside index below
  · obtain ⟨store, maps, tracked, frame, filled⟩ :=
      sound.registers dir grants tracks attached named virt granted
    have spared : ∀ m ∈ s.mappings, ∀ offset < m.size,
        store.ram (m.buffer + offset) = s.ram (m.buffer + offset) :=
      fun m member offset inside => frame _ (grants.2.2 m member offset inside)
    have pushed : (s.withStore store).Sound
        ((address, ⟨desc, grant.virt, grant.phys, size, ptr⟩) :: live) pending :=
      sound.push (sound.separate grants) grants.2.2 tracked rfl rfl frame
    by_cases error : dmaMappingError grant.phys = true
    · have taken : s.step (.mapSingle ptr size dir grant) = some (s.withStore store) := by
        simp [step, maps, error, withStore]
      exact ⟨_, taken, .unmapped spared ⟨_, pending, pushed⟩⟩
    · have taken : s.step (.mapSingle ptr size dir grant) =
          some ⟨{ s.shim with store }, .mapped grant.phys ptr size dir s.ram :: s.mappings⟩ := by
        simp [step, maps, error]
      refine ⟨_, taken, .unmapped spared ⟨_, pending, pushed.adopt attached ?_ ?_ ?_⟩⟩
      · intro other member
        obtain ⟨entry, listed, bounced, -⟩ := sound.bounced other member
        refine ⟨fun same => ?_, buffersApart other member⟩
        refine (List.nodup_cons.mp tracks.physes).1 (List.mem_map.mpr ⟨entry, listed, ?_⟩)
        exact bounced.phys.trans same.symm
      · refine List.forall_mem_cons.mpr ⟨ownApart, fun entry listed => ?_⟩
        exact bouncesApart entry.2 ((sound.tracks.live_iff _).mpr ⟨entry.1, listed⟩)
      · refine ⟨_, List.mem_cons_self, ⟨rfl, rfl, rfl, virt, named⟩, ?_, ?_, ?_⟩
        · exact fun offset inside _ => frame _ (ownApart offset inside)
        · intro offset inside held
          refine filled ?_ ownApart offset inside
          rcases held with held | held
          · cases held
          · exact held.2
        · intro offset inside held
          cases held

theorem Sound.step (sound : s.Sound live pending) {op : StreamOp} (respects : s.Respects op) :
    ∃ after, s.step op = some after ∧ s.Steps op after := by
  cases op with
  | mapSingle ptr size dir grant => exact sound.mapSingle respects
  | unmapSingle handle size dir preemptible => exact sound.unmapSingle respects
  | syncForCpu handle size dir => exact sound.syncForCpu respects
  | syncForDevice handle size dir => exact sound.syncForDevice respects
  | cpuWrite address bytes => exact sound.cpuWrite respects
  | deviceWrite handle offset bytes => exact sound.deviceWrite respects
  | allocCoherent size grant => exact sound.allocCoherent respects
  | freeCoherent cpuAddr preemptible => exact sound.freeCoherent respects
  | drainPendingFree => exact sound.drainPendingFree

theorem Sound.refines_iff (sound : s.Sound live pending) {ops : List StreamOp}
    (respected : Respected ops s) : Refines ops s ↔ AllSettled ops s := by
  induction ops generalizing s live pending with
  | nil => exact iff_of_true sound.current trivial
  | cons op rest ih =>
      obtain ⟨after, taken, steps⟩ := sound.step respected.1
      have unique : ∀ other, s.step op = some other → other = after := fun other taken' =>
        Option.some.inj (taken'.symm.trans taken)
      constructor
      · rintro ⟨-, other, taken', hands, -, refines⟩
        obtain rfl := unique other taken'
        have current : other.Current := by
          cases rest with
          | nil => exact refines
          | cons next later => exact refines.1
        have settled := steps.settled hands current
        obtain ⟨-, live', pending', sound'⟩ := steps.sound settled
        refine ⟨settled, fun again taken'' => ?_⟩
        rw [unique again taken'']
        exact (ih sound' (respected.2 _ taken)).mp refines
      · rintro ⟨settled, later⟩
        obtain ⟨hands, live', pending', sound'⟩ := steps.sound settled
        exact ⟨sound.current, after, taken, hands, steps.spares,
          (ih sound' (respected.2 after taken)).mpr (later after taken)⟩

/-- In every run in which driver, device and kernel keep to the rules, the bounce buffers do not
show exactly as long as no copy is missing and none is made too much. -/
theorem streamingDma_refines_iff (pciDevInstance : Bool) (ram : Ram) (ops : List StreamOp)
    (respected : Respected ops (start pciDevInstance ram)) :
    Refines ops (start pciDevInstance ram) ↔ AllSettled ops (start pciDevInstance ram) :=
  (sound_start pciDevInstance ram).refines_iff respected

/-- A buffer of one byte is mapped, the device writes it, and the driver looks at it. -/
def exchange (dir : DmaDirection) : List StreamOp :=
  [.mapSingle 16 1 dir ⟨true, true, 4096, 256, some 1⟩, .deviceWrite 4096 0 [7],
    .syncForCpu 4096 1 dir]

theorem respected_exchange {dir : DmaDirection} (writable : dir ≠ .toDevice) :
    Respected (exchange dir) (start true fun _ => 0) := by
  have none : ∀ live, Chain (start true fun _ => 0).store.memory
      (start true fun _ => 0).store.dmaList live → live = [] := fun _ chain =>
    chain.unique rfl
  have unused : ∀ entry, ¬(start true fun _ => 0).store.Live entry := by
    rintro entry ⟨live, address, chain, member⟩
    rw [none live chain] at member
    cases member
  refine ⟨⟨⟨⟨fun _ _ => rfl, ?_⟩, ?_, by rintro _ ⟨⟩⟩, ?_, ?_, by rintro _ ⟨⟩⟩, ?_⟩
  · intro live chain
    rw [none live chain]
    rintro _ ⟨⟩
  · exact fun entry listed => absurd listed (unused entry)
  · intro offset fits index below
    change 16 + offset ≠ 256 + index
    omega
  · exact fun entry listed => absurd listed (unused entry)
  · cases dir with
    | toDevice => exact absurd rfl writable
    | fromDevice | bidirectional =>
        rintro mapped ⟨⟩
        refine ⟨⟨_, List.mem_singleton_self _, rfl, writable, fun index below => ?_⟩, ?_⟩
        · exact ⟨(Nat.zero_add index).symm ▸ below, by simp [DmaMapping.mapped]⟩
        · rintro written ⟨⟩
          exact ⟨⟨_, List.mem_singleton_self _, rfl, Nat.le_refl 1, rfl⟩, fun _ _ => trivial⟩

/-- The received byte arrives. -/
theorem streamingDma_refines_iff_received :
    Refines (exchange .fromDevice) (start true fun _ => 0) := by
  refine (streamingDma_refines_iff true _ _ (respected_exchange (by decide))).mpr ?_
  refine ⟨trivial, ?_⟩
  rintro mapped ⟨⟩
  refine ⟨trivial, ?_⟩
  rintro written ⟨⟩
  refine ⟨?_, fun _ _ => trivial⟩
  intro m member same offset synced which
  obtain rfl := List.mem_singleton.mp member
  obtain rfl : offset = 0 := Nat.lt_one_iff.mp synced
  exact absurd rfl (which.mp rfl)

/-- A byte that the device writes to a bidirectional buffer does not reach the CPU. -/
theorem not_streamingDma_refines : ¬∀ (pciDevInstance : Bool) (ram : Ram) (ops : List StreamOp),
    Respected ops (start pciDevInstance ram) → Refines ops (start pciDevInstance ram) := by
  intro claim
  have refines := claim true (fun _ => 0) _ (respected_exchange (by decide : .bidirectional ≠ _))
  obtain ⟨-, mapped, ⟨⟩, -, -, -, written, ⟨⟩, -, -, -, synced, ⟨⟩, -, -, current⟩ := refines
  have stale := (current _ (List.mem_singleton_self _)).1 0 Nat.one_pos rfl
  exact absurd stale (by decide)

end StreamingDma

end AirportRtw88
