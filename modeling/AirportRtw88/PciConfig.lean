import Mathlib.Logic.Function.Basic
import Mathlib.Tactic.Common

/-!
# PCI Express capability registers

The driver reaches the registers of the PCI Express capability through the accessors of the
compatibility header, its table of operations and the word accessors of the controller, which cut
an offset to 8 bits.  None of them looks the capability up.
-/

namespace AirportRtw88

/-- The configuration space of a device as its 16-bit words. -/
abbrev ConfigSpace : Type :=
  Nat → UInt16

namespace ConfigSpace

/-- The word that holds the byte at an address. -/
def word (space : ConfigSpace) (address : Nat) : UInt16 :=
  space (address / 2)

def setWord (space : ConfigSpace) (address : Nat) (value : UInt16) : ConfigSpace :=
  Function.update space (address / 2) value

def byte (space : ConfigSpace) (address : Nat) : UInt8 :=
  if address % 2 = 0 then (space.word address).toUInt8 else (space.word address >>> 8).toUInt8

/-- A pointer of the capability list; its two low bits are reserved. -/
def pointer (space : ConfigSpace) (address : Nat) : Nat :=
  (space.byte address).toNat / 4 * 4

/-- A place in the capability list, which starts at the pointer at `0x34`. -/
inductive Listed (space : ConfigSpace) : Nat → Prop where
  | first : space.pointer 0x34 ≠ 0 → Listed space (space.pointer 0x34)
  | next {place : Nat} : Listed space place → space.pointer (place + 1) ≠ 0 →
      Listed space (space.pointer (place + 1))

/-- The capability list places the PCI Express capability, whose identifier is `0x10`, at an
offset. -/
structure Places (space : ConfigSpace) (base : Nat) : Prop where
  listed : space.Listed base
  identifier : space.byte base = 0x10

end ConfigSpace

/-- The controller: whether `rtw88_pci_io_ops` and `g_pci_dev_instance` are set, and the
configuration space of the device. -/
structure Pci where
  ioOps : Bool
  devInstance : Bool
  space : ConfigSpace

namespace Pci

/-- The offset after its cast to `UInt8`. -/
def cut (offset : Int) : Nat :=
  (offset % 256).toNat

def pciReadWord (offset : Int) (pci : Pci) : UInt16 :=
  pci.space.word (cut offset)

def pciWriteWord (offset : Int) (val : UInt16) (pci : Pci) : Pci :=
  { pci with space := pci.space.setWord (cut offset) val }

def compatPciReadConfigWord (offset : Int) (pci : Pci) : Int × UInt16 :=
  if !pci.devInstance then (-1, 0xffff) else (0, pci.pciReadWord offset)

def compatPciWriteConfigWord (offset : Int) (val : UInt16) (pci : Pci) : Int × Pci :=
  if !pci.devInstance then (-1, pci) else (0, pci.pciWriteWord offset val)

def pciReadConfigWord (offset : Int) (pci : Pci) : Int × UInt16 :=
  if pci.ioOps then pci.compatPciReadConfigWord offset else (-1, 0xffff)

def pciWriteConfigWord (offset : Int) (val : UInt16) (pci : Pci) : Int × Pci :=
  if pci.ioOps then pci.compatPciWriteConfigWord offset val else (-1, pci)

def pcieCapabilityReadWord (pos : Int) (pci : Pci) : Int × UInt16 :=
  pci.pciReadConfigWord pos

def pcieCapabilitySetWord (offset : Int) (set : UInt16) (pci : Pci) : Int × Pci :=
  let (ret, val) := pci.pciReadConfigWord (0x100 + offset)
  if ret ≠ 0 then (ret, pci) else pci.pciWriteConfigWord (0x100 + offset) (val ||| set)

def pcieCapabilityClearWord (offset : Int) (clear : UInt16) (pci : Pci) : Int × Pci :=
  let (ret, val) := pci.pciReadConfigWord (0x100 + offset)
  if ret ≠ 0 then (ret, pci) else pci.pciWriteConfigWord (0x100 + offset) (val &&& ~~~clear)

/-- The controller with the right change of the register at an address. -/
def changed (pci : Pci) (address : Nat) (change : UInt16 → UInt16) : Pci :=
  { pci with space := pci.space.setWord address (change (pci.space.word address)) }

/-- The accessors are set up. -/
structure Ready (pci : Pci) : Prop where
  ioOps : pci.ioOps = true
  devInstance : pci.devInstance = true

end Pci

theorem ConfigSpace.Places.base_ne_zero {space : ConfigSpace} {base : Nat}
    (places : space.Places base) : base ≠ 0 ∧ base % 4 = 0 := by
  cases places.listed with
  | first set => exact ⟨set, Nat.mul_mod_left _ 4⟩
  | next _ set => exact ⟨set, Nat.mul_mod_left _ 4⟩

namespace Pci

variable {pci : Pci}

theorem cut_natCast (offset : Nat) : cut offset = offset % 256 := by
  unfold cut
  omega

theorem cut_extended (offset : Nat) : cut (0x100 + offset) = offset % 256 := by
  unfold cut
  omega

theorem pcieCapabilityReadWord_eq (ready : pci.Ready) (offset : Nat) :
    pci.pcieCapabilityReadWord offset = (0, pci.space.word (offset % 256)) := by
  simp [pcieCapabilityReadWord, pciReadConfigWord, compatPciReadConfigWord, pciReadWord,
    ready.ioOps, ready.devInstance, cut_natCast]

theorem pcieCapabilitySetWord_eq (ready : pci.Ready) (offset : Nat) (set : UInt16) :
    pci.pcieCapabilitySetWord offset set = (0, pci.changed (offset % 256) (· ||| set)) := by
  simp [pcieCapabilitySetWord, pciReadConfigWord, compatPciReadConfigWord, pciReadWord,
    pciWriteConfigWord, compatPciWriteConfigWord, pciWriteWord, changed,
    ready.ioOps, ready.devInstance, cut_extended]

theorem pcieCapabilityClearWord_eq (ready : pci.Ready) (offset : Nat) (clear : UInt16) :
    pci.pcieCapabilityClearWord offset clear =
      (0, pci.changed (offset % 256) (· &&& ~~~clear)) := by
  simp [pcieCapabilityClearWord, pciReadConfigWord, compatPciReadConfigWord, pciReadWord,
    pciWriteConfigWord, compatPciWriteConfigWord, pciWriteWord, changed,
    ready.ioOps, ready.devInstance, cut_extended]

/-- A change of one register is the change of another one only if neither does anything. -/
theorem changed_eq_iff {first second : Nat} (apart : first / 2 ≠ second / 2)
    (change : UInt16 → UInt16) :
    pci.changed first change = pci.changed second change ↔
      change (pci.space.word first) = pci.space.word first ∧
        change (pci.space.word second) = pci.space.word second := by
  have spaces : pci.changed first change = pci.changed second change ↔
      Function.update pci.space (first / 2) (change (pci.space.word first)) =
        Function.update pci.space (second / 2) (change (pci.space.word second)) := by
    constructor
    · exact congrArg Pci.space
    · intro same
      exact congrArg (fun space => { pci with space := space }) same
  rw [spaces]
  constructor
  · intro same
    have atFirst := congrFun same (first / 2)
    have atSecond := congrFun same (second / 2)
    rw [Function.update_self, Function.update_of_ne apart] at atFirst
    rw [Function.update_self, Function.update_of_ne apart.symm] at atSecond
    exact ⟨atFirst, atSecond.symm⟩
  · rintro ⟨firstKept, secondKept⟩
    rw [firstKept, secondKept]
    exact (Function.update_eq_self _ _).trans (Function.update_eq_self _ _).symm

/-- The accessors use the word at the register's offset in the configuration space, whatever the
place of the capability: what they return or change is right only if that word and the register
agree. -/
theorem pcieCapability_right_iff (ready : pci.Ready) {base : Nat}
    (places : pci.space.Places base) (offset : Nat) (bits : UInt16) :
    (pci.pcieCapabilityReadWord offset = (0, pci.space.word (base + offset)) ↔
      pci.space.word (offset % 256) = pci.space.word (base + offset)) ∧
    (pci.pcieCapabilitySetWord offset bits = (0, pci.changed (base + offset) (· ||| bits)) ↔
      pci.space.word (offset % 256) ||| bits = pci.space.word (offset % 256) ∧
        pci.space.word (base + offset) ||| bits = pci.space.word (base + offset)) ∧
    (pci.pcieCapabilityClearWord offset bits = (0, pci.changed (base + offset) (· &&& ~~~bits)) ↔
      pci.space.word (offset % 256) &&& ~~~bits = pci.space.word (offset % 256) ∧
        pci.space.word (base + offset) &&& ~~~bits = pci.space.word (base + offset)) := by
  obtain ⟨nonzero, aligned⟩ := places.base_ne_zero
  have apart : offset % 256 / 2 ≠ (base + offset) / 2 := by omega
  refine ⟨?_, ?_, ?_⟩
  · rw [pcieCapabilityReadWord_eq ready, Prod.mk.injEq]
    exact ⟨And.right, .intro rfl⟩
  · rw [pcieCapabilitySetWord_eq ready, Prod.mk.injEq, ← changed_eq_iff apart (· ||| bits)]
    exact ⟨And.right, .intro rfl⟩
  · rw [pcieCapabilityClearWord_eq ready, Prod.mk.injEq, ← changed_eq_iff apart (· &&& ~~~bits)]
    exact ⟨And.right, .intro rfl⟩

end Pci

/-- A device whose PCI Express capability is at `0x70`. -/
def expressDevice : Pci where
  ioOps := true
  devInstance := true
  space := fun index => if index = 0x1a then 0x70 else if index = 0x38 then 0x10 else 0

theorem expressDevice_ready : expressDevice.Ready :=
  ⟨rfl, rfl⟩

theorem expressDevice_places : expressDevice.space.Places 0x70 where
  listed := .first (by decide)
  identifier := by decide

/-- The same device with an I/O range at `0xe100` and the clock request enabled. -/
def clockedDevice : Pci where
  ioOps := true
  devInstance := true
  space := fun index =>
    if index = 0x08 then 0xe101 else if index = 0x40 then 0x0142 else expressDevice.space index

theorem clockedDevice_ready : clockedDevice.Ready :=
  ⟨rfl, rfl⟩

theorem clockedDevice_places : clockedDevice.space.Places 0x70 where
  listed := .first (by decide)
  identifier := by decide

/-- The clock request bit is set in the word at `0x10` and in the link control register. -/
theorem pcieCapability_linkControl :
    clockedDevice.pcieCapabilitySetWord (0x10 : Nat) 0x100 =
      (0, clockedDevice.changed 0x80 (· ||| 0x100)) := by
  apply (Pci.pcieCapability_right_iff clockedDevice_ready clockedDevice_places 0x10 0x100).2.1.mpr
  decide

/-- Setting the clock request bit of the link control register changes the word at `0x10`, the
first base address register. -/
theorem not_pcieCapabilitySetWord_right :
    ¬ ∀ (pci : Pci) (base offset : Nat) (set : UInt16), pci.Ready → pci.space.Places base →
      pci.pcieCapabilitySetWord offset set = (0, pci.changed (base + offset) (· ||| set)) := by
  intro right
  have same := right expressDevice 0x70 0x10 0x100 expressDevice_ready expressDevice_places
  rw [Pci.pcieCapabilitySetWord_eq expressDevice_ready, Prod.mk.injEq] at same
  have words := congrFun (congrArg Pci.space same.2) 8
  revert words
  decide

end AirportRtw88
