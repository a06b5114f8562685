import AirportRtw88.DmaStore

/-!
# Streaming DMA

The driver maps a buffer, and the shim gives the device a bounce buffer of the store in its place.
Beside the shim stand the mappings as the driver understands them: who may access each byte, and
what the byte would be if the device accessed the buffer itself.
-/

namespace AirportRtw88

open Heap

/-- The value of `DMA_FROM_DEVICE`, `DMA_TO_DEVICE` or `DMA_BIDIRECTIONAL`. -/
inductive DmaDirection where
  | fromDevice
  | toDevice
  | bidirectional
  deriving DecidableEq

/-! ## The shim -/

/-- `g_pci_dev_instance`: whether it is set, and its buffers. -/
structure DmaShim where
  pciDevInstance : Bool
  store : DmaStore

namespace DmaShim

/-- `compat_dma_alloc`, with the address of the buffer, or zero. -/
def compatDmaAlloc (size : Nat) (grant : DmaGrant) (s : DmaShim) : DmaShim × Nat :=
  if !s.pciDevInstance then (s, 0)
  else
    let (store, virt) := s.store.allocCoherent size grant
    ({ s with store }, virt)

/-- `compat_dma_free`. -/
def compatDmaFree (cpuAddr : Nat) (preemptible : Bool) (s : DmaShim) : Option DmaShim :=
  if s.pciDevInstance then do
    let store ← s.store.freeCoherent cpuAddr preemptible
    return { s with store }
  else some s

/-- `compat_dma_map`, with the address for the device, or zero. -/
def compatDmaMap (ptr size : Nat) (dir : DmaDirection) (grant : DmaGrant) (s : DmaShim) :
    Option (DmaShim × Nat) :=
  if !s.pciDevInstance ∨ ptr = 0 then some (s, 0)
  else
    let (store, bounce) := s.store.allocCoherent size grant
    if bounce = 0 then some ({ s with store }, 0)
    else do
      let store ← store.setBounceOrigVA grant.phys ptr
      let ram := if dir = .toDevice ∨ dir = .bidirectional then store.ram.copy bounce ptr size
        else store.ram
      return ({ s with store := { store with ram } }, grant.phys)

/-- `compat_dma_unmap`. -/
def compatDmaUnmap (addr : Nat) (preemptible : Bool) (s : DmaShim) : Option DmaShim :=
  if s.pciDevInstance then do
    let store ← s.store.freeCoherentByPhys addr preemptible
    return { s with store }
  else some s

/-- `compat_dma_sync_cpu`. -/
def compatDmaSyncCpu (addr size : Nat) (dir : DmaDirection) (s : DmaShim) : Option DmaShim :=
  if dir = .fromDevice ∧ s.pciDevInstance then do
    let store ← s.store.syncBounceForCpu addr size
    return { s with store }
  else some s

/-- `compat_dma_sync_dev`. -/
def compatDmaSyncDev (_addr _size : Nat) (_dir : DmaDirection) (s : DmaShim) : Option DmaShim :=
  some s

end DmaShim

/-- `dma_mapping_error`. -/
def dmaMappingError (addr : Nat) : Bool :=
  addr = 0 || addr = 18446744073709551615

namespace DmaStore

/-- The buffer that the device reaches at this physical address. -/
def busAddress (phys : Nat) (s : DmaStore) : Option Nat := do
  let found ← find s.memory (fun entry => entry.phys = phys) s.created .head s.dmaList
  let (_, _, cell) ← found
  return cell.content.virt

def deviceRead (phys offset length : Nat) (s : DmaStore) : Option Bytes := do
  let virt ← s.busAddress phys
  return s.ram.read (virt + offset) length

def deviceWrite (phys offset : Nat) (bytes : Bytes) (s : DmaStore) : Option DmaStore := do
  let virt ← s.busAddress phys
  return { s with ram := s.ram.write (virt + offset) bytes }

end DmaStore

/-! ## The mappings -/

/-- Who may access a byte of a mapped buffer: the CPU, the device, or the device that has written
the byte since it may. -/
inductive Holder where
  | cpu
  | device
  | written
  deriving DecidableEq

/-- A mapped buffer, with its bytes as if the device accessed them itself. -/
structure DmaMapping where
  handle : Nat
  buffer : Nat
  size : Nat
  dir : DmaDirection
  holder : Nat → Holder
  contents : Nat → UInt8

namespace DmaMapping

/-- A buffer that `dma_map_single` has handed to the device. -/
def mapped (handle ptr size : Nat) (dir : DmaDirection) (ram : Ram) : DmaMapping :=
  ⟨handle, ptr, size, dir, fun _ => .device, fun offset => ram (ptr + offset)⟩

def cpuWrite (address : Nat) (bytes : Bytes) (m : DmaMapping) : DmaMapping :=
  { m with contents := fun offset =>
      if address ≤ m.buffer + offset ∧ m.buffer + offset < address + bytes.length then
        bytes.byte (m.buffer + offset - address)
      else m.contents offset }

def deviceWrite (start : Nat) (bytes : Bytes) (m : DmaMapping) : DmaMapping :=
  { m with
    holder := fun offset =>
      if start ≤ offset ∧ offset < start + bytes.length then .written else m.holder offset
    contents := fun offset =>
      if start ≤ offset ∧ offset < start + bytes.length then bytes.byte (offset - start)
      else m.contents offset }

/-- `dma_sync_single_for_cpu` hands the first bytes to the CPU. -/
def forCpu (size : Nat) (m : DmaMapping) : DmaMapping :=
  { m with holder := fun offset => if offset < size then .cpu else m.holder offset }

/-- `dma_sync_single_for_device` hands the first bytes to the device. -/
def forDevice (size : Nat) (m : DmaMapping) : DmaMapping :=
  { m with holder := fun offset =>
      if offset < size ∧ m.holder offset = .cpu then .device else m.holder offset }

/-- What a read at this offset returns. -/
def slice (offset length : Nat) (m : DmaMapping) : Bytes :=
  (List.range length).map fun index => m.contents (offset + index)

section

variable (m : DmaMapping) (start size offset : Nat) (bytes : Bytes)

theorem contents_cpuWrite : (m.cpuWrite start bytes).contents offset =
    if start ≤ m.buffer + offset ∧ m.buffer + offset < start + bytes.length then
      bytes.byte (m.buffer + offset - start)
    else m.contents offset :=
  rfl

theorem holder_deviceWrite : (m.deviceWrite start bytes).holder offset =
    if start ≤ offset ∧ offset < start + bytes.length then .written else m.holder offset :=
  rfl

theorem contents_deviceWrite : (m.deviceWrite start bytes).contents offset =
    if start ≤ offset ∧ offset < start + bytes.length then bytes.byte (offset - start)
    else m.contents offset :=
  rfl

theorem holder_forCpu : (m.forCpu size).holder offset =
    if offset < size then .cpu else m.holder offset :=
  rfl

theorem holder_forDevice : (m.forDevice size).holder offset =
    if offset < size ∧ m.holder offset = .cpu then .device else m.holder offset :=
  rfl

end

end DmaMapping

/-! ## Runs -/

/-- What the driver and the device do with buffers.  The device only names a mapping and an
offset. -/
inductive StreamOp where
  | mapSingle (ptr size : Nat) (dir : DmaDirection) (grant : DmaGrant)
  | unmapSingle (handle size : Nat) (dir : DmaDirection) (preemptible : Bool)
  | syncForCpu (handle size : Nat) (dir : DmaDirection)
  | syncForDevice (handle size : Nat) (dir : DmaDirection)
  | cpuWrite (address : Nat) (bytes : Bytes)
  | deviceWrite (handle offset : Nat) (bytes : Bytes)
  | allocCoherent (size : Nat) (grant : DmaGrant)
  | freeCoherent (cpuAddr : Nat) (preemptible : Bool)
  | drainPendingFree

/-- The shim and the mappings. -/
structure StreamingDma where
  shim : DmaShim
  mappings : List DmaMapping

namespace StreamingDma

/-- No buffer is mapped or allocated yet. -/
def start (pciDevInstance : Bool) (ram : Ram) : StreamingDma :=
  ⟨⟨pciDevInstance, DmaStore.start ram⟩, []⟩

def store (s : StreamingDma) : DmaStore :=
  s.shim.store

def ram (s : StreamingDma) : Ram :=
  s.shim.store.ram

def withStore (store : DmaStore) (s : StreamingDma) : StreamingDma :=
  { s with shim := { s.shim with store } }

/-- The mappings, where the one with this handle has changed. -/
def onMapping (handle : Nat) (change : DmaMapping → DmaMapping) (s : StreamingDma) :
    List DmaMapping :=
  s.mappings.map fun m => if m.handle = handle then change m else m

/-- What the shim does, and what it means for the mappings. -/
def step (op : StreamOp) (s : StreamingDma) : Option StreamingDma :=
  match op with
  | .mapSingle ptr size dir grant => do
      let (shim, handle) ← s.shim.compatDmaMap ptr size dir grant
      if dmaMappingError handle then return { s with shim }
      else return ⟨shim, .mapped handle ptr size dir s.ram :: s.mappings⟩
  | .unmapSingle handle _ _ preemptible => do
      let shim ← s.shim.compatDmaUnmap handle preemptible
      return ⟨shim, s.mappings.filter fun m => m.handle ≠ handle⟩
  | .syncForCpu handle size dir => do
      let shim ← s.shim.compatDmaSyncCpu handle size dir
      return ⟨shim, s.onMapping handle (·.forCpu size)⟩
  | .syncForDevice handle size dir => do
      let shim ← s.shim.compatDmaSyncDev handle size dir
      return ⟨shim, s.onMapping handle (·.forDevice size)⟩
  | .cpuWrite address bytes =>
      some { s.withStore { s.store with ram := s.ram.write address bytes } with
        mappings := s.mappings.map (·.cpuWrite address bytes) }
  | .deviceWrite handle offset bytes => do
      let store ← s.store.deviceWrite handle offset bytes
      return { s.withStore store with mappings := s.onMapping handle (·.deviceWrite offset bytes) }
  | .allocCoherent size grant => some { s with shim := (s.shim.compatDmaAlloc size grant).1 }
  | .freeCoherent cpuAddr preemptible => do
      let shim ← s.shim.compatDmaFree cpuAddr preemptible
      return { s with shim }
  | .drainPendingFree => do
      let store ← s.store.drainPendingFree
      return s.withStore store

end StreamingDma

end AirportRtw88
