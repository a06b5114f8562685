import AirportRtw88.Bytes
import AirportRtw88.Heap.Chain

/-!
# The store of DMA buffers

`AirportRTW88` keeps its DMA buffers in two linked lists: the live ones, and those whose release
waits for a context that may block.
-/

namespace AirportRtw88

open Heap

/-- The kernel's address space. -/
abbrev Ram : Type :=
  Nat → UInt8

namespace Ram

/-- `memcpy` from a buffer with these bytes. -/
def write (ram : Ram) (address : Nat) (bytes : Bytes) : Ram := fun other =>
  if address ≤ other ∧ other < address + bytes.length then bytes.byte (other - address)
  else ram other

def read (ram : Ram) (address length : Nat) : Bytes :=
  (List.range length).map fun offset => ram (address + offset)

/-- `memcpy`. -/
def copy (ram : Ram) (target source length : Nat) : Ram :=
  ram.write target (ram.read source length)

end Ram

/-- `struct RTW88DMAEntry`, without the link.  Descriptors are numbered in the order of their
creation. -/
structure DmaEntry where
  desc : Nat
  virt : Nat
  phys : Nat
  size : Nat
  origVa : Nat
  deriving DecidableEq

/-- `_dmaList` and `_dmaPendingFree`, the memory of their entries, the address space, and what
was done with the descriptors. -/
structure DmaStore where
  memory : Memory DmaEntry
  dmaList : Option Nat
  dmaPendingFree : Option Nat
  ram : Ram
  created : Nat
  prepared : List Nat
  completed : List Nat
  released : List Nat

/-- What the kernel answers in `allocCoherent`: whether there is a descriptor and it can be
prepared, the addresses of its buffer, and the address of the entry. -/
structure DmaGrant where
  desc : Bool
  prepared : Bool
  phys : Nat
  virt : Nat
  entry : Option Nat

namespace DmaStore

/-- The lists after `start`. -/
def start (ram : Ram) : DmaStore :=
  ⟨fun _ => none, none, none, ram, 0, [], [], []⟩

/-- `desc->complete()`. -/
def complete (s : DmaStore) (desc : Nat) : DmaStore :=
  { s with completed := desc :: s.completed }

/-- `desc->release()`. -/
def release (s : DmaStore) (desc : Nat) : DmaStore :=
  { s with released := desc :: s.released }

/-- The entry that `allocCoherent` puts in front of the live list. -/
def link (s : DmaStore) (address : Nat) (entry : DmaEntry) : DmaStore :=
  { s with
    memory := Function.update s.memory address (some ⟨entry, s.dmaList⟩)
    dmaList := some address }

/-- `allocCoherent`, with the address of the buffer, or zero. -/
def allocCoherent (size : Nat) (grant : DmaGrant) (s : DmaStore) : DmaStore × Nat :=
  if !grant.desc then (s, 0)
  else
    let desc := s.created
    let created := { s with created := desc + 1 }
    if !grant.prepared then (created.release desc, 0)
    else
      let held := { created with prepared := desc :: created.prepared }
      if grant.virt = 0 ∨ grant.phys = 0 then ((held.complete desc).release desc, 0)
      else
        let cleared := { held with ram := held.ram.write grant.virt (Bytes.zeros size) }
        match grant.entry with
        | none => ((cleared.complete desc).release desc, 0)
        | some address =>
            (cleared.link address ⟨desc, grant.virt, grant.phys, size, 0⟩, grant.virt)

/-- Complete and release the descriptor of an entry, and free the entry. -/
def dispose (s : DmaStore) (address : Nat) : Option DmaStore := do
  let cell ← s.memory address
  let emptied := (s.complete cell.content.desc).release cell.content.desc
  return { emptied with memory := Function.update s.memory address none }

/-- Put an entry in front of the pending list. -/
def defer (s : DmaStore) (address : Nat) : Option DmaStore := do
  let cell ← s.memory address
  return { s with
    memory := Function.update s.memory address (some ⟨cell.content, s.dmaPendingFree⟩)
    dmaPendingFree := some address }

/-- Unlink the first live entry that is wanted; release it where that may block. -/
def freeEntry (wanted : DmaEntry → Bool) (preemptible : Bool) (s : DmaStore) :
    Option DmaStore := do
  let found ← find s.memory wanted s.created .head s.dmaList
  match found with
  | none => return s
  | some (prev, address, cell) => do
      let (head, memory) ← prev.write cell.next (s.dmaList, s.memory)
      let unlinked := { s with dmaList := head, memory := memory }
      if preemptible then unlinked.dispose address else unlinked.defer address

def freeCoherent (virt : Nat) (preemptible : Bool) (s : DmaStore) : Option DmaStore :=
  s.freeEntry (fun entry => entry.virt = virt) preemptible

def freeCoherentByPhys (phys : Nat) (preemptible : Bool) (s : DmaStore) : Option DmaStore :=
  s.freeEntry (fun entry => entry.phys = phys) preemptible

def setBounceOrigVA (phys origVa : Nat) (s : DmaStore) : Option DmaStore := do
  let found ← find s.memory (fun entry => entry.phys = phys) s.created .head s.dmaList
  match found with
  | none => return s
  | some (_, address, cell) =>
      let content := { cell.content with origVa }
      return { s with memory := Function.update s.memory address (some { cell with content }) }

def syncBounceForCpu (dma size : Nat) (s : DmaStore) : Option DmaStore := do
  let found ← find s.memory (fun entry => entry.phys = dma ∧ entry.origVa ≠ 0 ∧ entry.virt ≠ 0)
    s.created .head s.dmaList
  match found with
  | none => return s
  | some (_, _, cell) =>
      let copyLen := if size ≤ cell.content.size then size else cell.content.size
      return { s with ram := s.ram.copy cell.content.origVa cell.content.virt copyLen }

/-- Dispose of the entries of a list, at most as many as the bound. -/
def disposeAll : Nat → Option Nat → DmaStore → Option DmaStore
  | _, none, s => some s
  | 0, some _, _ => none
  | bound + 1, some address, s => do
      let cell ← s.memory address
      let rest ← s.dispose address
      disposeAll bound cell.next rest

def drainPendingFree (s : DmaStore) : Option DmaStore :=
  disposeAll s.created s.dmaPendingFree { s with dmaPendingFree := none }

def releaseDMAEntries (s : DmaStore) : Option DmaStore :=
  disposeAll s.created s.dmaList { s with dmaList := none }

/-- What `teardown` does with the buffers. -/
def teardown (s : DmaStore) : Option DmaStore := do
  let drained ← s.drainPendingFree
  drained.releaseDMAEntries

end DmaStore

/-- The calls that the store receives. -/
inductive DmaOp where
  | allocCoherent (size : Nat) (grant : DmaGrant)
  | setBounceOrigVA (phys origVa : Nat)
  | freeCoherent (virt : Nat) (preemptible : Bool)
  | freeCoherentByPhys (phys : Nat) (preemptible : Bool)
  | drainPendingFree

namespace DmaStore

def perform (op : DmaOp) (s : DmaStore) : Option DmaStore :=
  match op with
  | .allocCoherent size grant => some (s.allocCoherent size grant).1
  | .setBounceOrigVA phys origVa => s.setBounceOrigVA phys origVa
  | .freeCoherent virt preemptible => s.freeCoherent virt preemptible
  | .freeCoherentByPhys phys preemptible => s.freeCoherentByPhys phys preemptible
  | .drainPendingFree => s.drainPendingFree

def run (ops : List DmaOp) (s : DmaStore) : Option DmaStore :=
  ops.foldlM (fun s op => s.perform op) s

end DmaStore

end AirportRtw88
