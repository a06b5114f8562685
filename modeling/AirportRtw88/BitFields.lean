import AirportRtw88.Words.BitField

/-!
# Bit-field accessors

The compatibility header defines the accessors the driver reads and writes the fields of
registers and descriptors with.  All of them but `le64_get_bits` are the operations on fields
of words.
-/

namespace AirportRtw88

open Words

/-- The number of trailing zeros of an `unsigned long`. -/
def ffs (word : BitVec 64) : Nat :=
  word.ctz.toNat

def fieldPrep (mask val : BitVec 64) : BitVec 64 :=
  (val <<< ffs mask) &&& mask

def fieldGet (mask val : BitVec 64) : BitVec 64 :=
  (val &&& mask) >>> ffs mask

section

variable {width : Nat}

/-- The common body of the `*_encode_bits`. -/
def encodeBits (v mask : BitVec width) : BitVec width :=
  (fieldPrep (mask.setWidth 64) (v.setWidth 64)).setWidth width

/-- The common body of the `*_get_bits`. -/
def getBits (v mask : BitVec width) : BitVec width :=
  (fieldGet (mask.setWidth 64) (v.setWidth 64)).setWidth width

/-- The common body of the `*p_replace_bits`: what is left at the pointer. -/
def replaceBits (word val mask : BitVec width) : BitVec width :=
  (word &&& ~~~mask) ||| encodeBits val mask

end

def u8EncodeBits (v mask : BitVec 8) : BitVec 8 := encodeBits v mask
def u8GetBits (v mask : BitVec 8) : BitVec 8 := getBits v mask
def u8pReplaceBits (p val mask : BitVec 8) : BitVec 8 := replaceBits p val mask

def u16EncodeBits (v mask : BitVec 16) : BitVec 16 := encodeBits v mask
def u16GetBits (v mask : BitVec 16) : BitVec 16 := getBits v mask

def u32EncodeBits (v mask : BitVec 32) : BitVec 32 := encodeBits v mask
def u32GetBits (v mask : BitVec 32) : BitVec 32 := getBits v mask
def u32pReplaceBits (p val mask : BitVec 32) : BitVec 32 := replaceBits p val mask

def u64EncodeBits (v mask : BitVec 64) : BitVec 64 := encodeBits v mask

def le16GetBits (v mask : BitVec 16) : BitVec 16 := u16GetBits v mask
def le32GetBits (v mask : BitVec 32) : BitVec 32 := u32GetBits v mask
def le32EncodeBits (v mask : BitVec 32) : BitVec 32 := u32EncodeBits v mask
def le32pReplaceBits (p val mask : BitVec 32) : BitVec 32 := u32pReplaceBits p val mask

/-- The 64-bit accessor calls the encoder where its siblings call a getter. -/
def le64GetBits (v mask : BitVec 64) : BitVec 64 := u64EncodeBits (v &&& mask) mask

/-- The accessors that read a field of a word of some width. -/
inductive Getter : Nat → Type where
  | u8 : Getter 8
  | u16 : Getter 16
  | u32 : Getter 32
  | le16 : Getter 16
  | le32 : Getter 32
  | le64 : Getter 64

/-- The accessors that make a word with a field. -/
inductive Encoder : Nat → Type where
  | u8 : Encoder 8
  | u16 : Encoder 16
  | u32 : Encoder 32
  | u64 : Encoder 64
  | le32 : Encoder 32

/-- The accessors that change a field of a word. -/
inductive Replacer : Nat → Type where
  | u8 : Replacer 8
  | u32 : Replacer 32
  | le32 : Replacer 32

def Getter.call {width : Nat} : Getter width → BitVec width → BitVec width → BitVec width
  | u8 => u8GetBits
  | u16 => u16GetBits
  | u32 => u32GetBits
  | le16 => le16GetBits
  | le32 => le32GetBits
  | le64 => le64GetBits

def Encoder.call {width : Nat} : Encoder width → BitVec width → BitVec width → BitVec width
  | u8 => u8EncodeBits
  | u16 => u16EncodeBits
  | u32 => u32EncodeBits
  | u64 => u64EncodeBits
  | le32 => le32EncodeBits

def Replacer.call {width : Nat} :
    Replacer width → BitVec width → BitVec width → BitVec width → BitVec width
  | u8 => u8pReplaceBits
  | u32 => u32pReplaceBits
  | le32 => le32pReplaceBits

/-- The getter that calls an encoder. -/
def Getter.encodes {width : Nat} : Getter width → Bool
  | le64 => true
  | _ => false

section

variable {width : Nat} (field : Field width)

theorem getBits_mask (small : width ≤ 64) (word : BitVec width) :
    getBits word field.mask = (field.get word).setWidth width := by
  have := field.fits
  have low : ffs (field.mask.setWidth 64) = field.low := field.ctz_setWidth_mask small
  apply BitVec.eq_of_getLsbD_eq
  intro index inside
  rw [getBits, fieldGet, low]
  simp only [BitVec.getLsbD_setWidth, BitVec.getLsbD_ushiftRight, BitVec.getLsbD_and,
    field.getLsbD_mask, Field.getLsbD_get, inside, decide_true, Bool.true_and]
  by_cases within : index < field.len
  · simp [within, show field.low + index < 64 by omega]
  · simp [within]

theorem getLsbD_encodeBits (small : width ≤ 64) (value : BitVec width) (index : Nat) :
    (encodeBits value field.mask).getLsbD index =
      (field.mask.getLsbD index && value.getLsbD (index - field.low)) := by
  have := field.fits
  have low : ffs (field.mask.setWidth 64) = field.low := field.ctz_setWidth_mask small
  rw [encodeBits, fieldPrep, low]
  simp only [BitVec.getLsbD_setWidth, BitVec.getLsbD_shiftLeft, BitVec.getLsbD_and,
    Field.getLsbD_mask]
  by_cases within : field.low ≤ index ∧ index < field.low + field.len
  · simp [within, show index < width by omega, show index < 64 by omega,
      show ¬ index < field.low by omega, show index - field.low < 64 by omega]
  · rw [decide_eq_false within]
    simp

/-- An encoded word has no bit outside its mask. -/
theorem encodeBits_within (small : width ≤ 64) (value : BitVec width) :
    encodeBits value field.mask &&& ~~~field.mask = 0 := by
  apply BitVec.eq_of_getLsbD_eq
  intro index inside
  rw [BitVec.getLsbD_and, getLsbD_encodeBits field small, BitVec.getLsbD_not]
  cases field.mask.getLsbD index <;> simp

/-- The field of an encoded word is the value, cut to the length of the field. -/
theorem get_encodeBits (small : width ≤ 64) (value : BitVec width) :
    field.get (encodeBits value field.mask) = value.setWidth field.len := by
  apply BitVec.eq_of_getLsbD_eq
  intro index inside
  rw [Field.getLsbD_get, getLsbD_encodeBits field small, BitVec.getLsbD_setWidth]
  simp [inside]

theorem replaceBits_outside (small : width ≤ 64) (word value : BitVec width) :
    replaceBits word value field.mask &&& ~~~field.mask = word &&& ~~~field.mask := by
  apply BitVec.eq_of_getLsbD_eq
  intro index inside
  simp only [replaceBits, BitVec.getLsbD_and, BitVec.getLsbD_or, BitVec.getLsbD_not,
    getLsbD_encodeBits field small, inside, decide_true, Bool.true_and]
  cases field.mask.getLsbD index <;> simp

theorem get_replaceBits (small : width ≤ 64) (word value : BitVec width) :
    field.get (replaceBits word value field.mask) = value.setWidth field.len := by
  rw [← get_encodeBits field small value]
  apply BitVec.eq_of_getLsbD_eq
  intro index inside
  rw [Field.getLsbD_get, Field.getLsbD_get, replaceBits, BitVec.getLsbD_or, BitVec.getLsbD_and,
    BitVec.getLsbD_not, field.getLsbD_mask]
  simp [inside]

/-- A value that fits is not changed by cutting it. -/
theorem setWidth_setWidth_of_fits {value : BitVec width} (fits : value.toNat < 2 ^ field.len) :
    (value.setWidth field.len).setWidth width = value := by
  apply BitVec.eq_of_getLsbD_eq
  intro index inside
  rw [BitVec.getLsbD_setWidth, BitVec.getLsbD_setWidth, decide_eq_true inside, Bool.true_and]
  by_cases within : index < field.len
  · simp [within]
  · rw [field.getLsbD_of_fits fits (Nat.le_of_not_lt within), Bool.and_false]

theorem encodeBits_masked (small : width ≤ 64) (value : BitVec width) :
    encodeBits value field.mask &&& field.mask = encodeBits value field.mask := by
  apply BitVec.eq_of_getLsbD_eq
  intro index inside
  rw [BitVec.getLsbD_and, getLsbD_encodeBits field small]
  cases field.mask.getLsbD index <;> simp

theorem encodeBits_eq_zero_iff (small : width ≤ 64) {value : BitVec width}
    (fits : value.toNat < 2 ^ field.len) : encodeBits value field.mask = 0 ↔ value = 0 := by
  have field_eq := get_encodeBits field small value
  constructor
  · intro zero
    rw [← setWidth_setWidth_of_fits field fits, ← field_eq, zero]
    simp [Field.get]
  · rintro rfl
    apply BitVec.eq_of_getLsbD_eq
    intro index _
    simp [getLsbD_encodeBits field small]

end

/-- The 64-bit accessor shifts the field up once more: it is right only for a mask that starts at
bit 0 and for an empty field. -/
theorem le64GetBits_eq_iff (field : Field 64) (word : BitVec 64) :
    le64GetBits word field.mask = (field.get word).setWidth 64 ↔
      field.low = 0 ∨ word &&& field.mask = 0 := by
  rw [← getBits_mask field le_rfl, le64GetBits, u64EncodeBits]
  have low : ffs field.mask = field.low := by
    have same := field.ctz_setWidth_mask le_rfl
    rwa [BitVec.setWidth_eq] at same
  have read : getBits word field.mask = (word &&& field.mask) >>> field.low := by
    simp [getBits, fieldGet, low]
  have bit (index : Nat) :
      (encodeBits (word &&& field.mask) field.mask).getLsbD index =
        (field.mask.getLsbD index && (word &&& field.mask).getLsbD (index - field.low)) :=
    getLsbD_encodeBits field le_rfl _ index
  rw [read]
  constructor
  · intro same
    by_contra! wrong
    obtain ⟨shifted, some⟩ := wrong
    -- Every bit of the field is a copy of one below it, and there is none below the field.
    have clear (index : Nat) : (word &&& field.mask).getLsbD index = false := by
      induction index using Nat.strong_induction_on with
      | _ index ih =>
          by_cases below : index < field.low
          · rw [BitVec.getLsbD_and, field.getLsbD_mask, decide_eq_false (by omega),
              Bool.and_false]
          · have copied := congrArg (BitVec.getLsbD · (index - field.low)) same
            have place : field.low + (index - field.low) = index := by omega
            simp only [bit, BitVec.getLsbD_ushiftRight, place] at copied
            rw [← copied, ih (index - field.low - field.low) (by omega), Bool.and_false]
    apply some
    apply BitVec.eq_of_getLsbD_eq
    intro index _
    rw [clear index]
    simp
  · rintro (zero | none)
    · apply BitVec.eq_of_getLsbD_eq
      intro index _
      rw [bit, zero]
      simp [BitVec.getLsbD_and, Bool.and_comm]
    · rw [none]
      apply BitVec.eq_of_getLsbD_eq
      intro index _
      rw [← none, bit, none]
      simp

namespace Getter

variable {width : Nat}

theorem call_eq_iff (getter : Getter width) (field : Field width) (word : BitVec width) :
    getter.call word field.mask = (field.get word).setWidth width ↔
      getter.encodes = false ∨ field.low = 0 ∨ word &&& field.mask = 0 := by
  cases getter with
  | le64 =>
      simp only [call, encodes, Bool.true_eq_false, false_or]
      exact le64GetBits_eq_iff field word
  | _ =>
      apply iff_of_true
      · exact getBits_mask field (by decide) word
      · exact .inl rfl

end Getter

theorem Encoder.call_eq {width : Nat} (encoder : Encoder width) (v mask : BitVec width) :
    encoder.call v mask = encodeBits v mask := by
  cases encoder <;> rfl

theorem Encoder.width_le {width : Nat} (encoder : Encoder width) : width ≤ 64 := by
  cases encoder <;> decide

theorem Replacer.call_eq {width : Nat} (replacer : Replacer width) (p val mask : BitVec width) :
    replacer.call p val mask = replaceBits p val mask := by
  cases replacer <;> rfl

theorem Replacer.width_le {width : Nat} (replacer : Replacer width) : width ≤ 64 := by
  cases replacer <;> decide

/-- The laws of the accessors: each getter but `le64_get_bits` reads its field, each encoder
makes a word with that field only, each replacer changes that field only, and a getter reads back
what an encoder of its width made. -/
theorem accessors_lawful_iff {width : Nat} (getter : Getter width) (field : Field width)
    (word : BitVec width) :
    (getter.call word field.mask = (field.get word).setWidth width ↔
      getter.encodes = false ∨ field.low = 0 ∨ word &&& field.mask = 0) ∧
    (∀ {width : Nat} (encoder : Encoder width) (field : Field width) (v : BitVec width),
      encoder.call v field.mask &&& ~~~field.mask = 0 ∧
        (v.toNat < 2 ^ field.len →
          (field.get (encoder.call v field.mask)).setWidth width = v)) ∧
    (∀ {width : Nat} (replacer : Replacer width) (field : Field width) (word val : BitVec width),
      replacer.call word val field.mask &&& ~~~field.mask = word &&& ~~~field.mask ∧
        (val.toNat < 2 ^ field.len →
          (field.get (replacer.call word val field.mask)).setWidth width = val)) ∧
    (∀ (encoder : Encoder width) (v : BitVec width), v.toNat < 2 ^ field.len →
      (getter.call (encoder.call v field.mask) field.mask = v ↔
        getter.encodes = false ∨ field.low = 0 ∨ v = 0)) := by
  refine ⟨getter.call_eq_iff field word, ?_, ?_, ?_⟩
  · intro width encoder field v
    rw [encoder.call_eq, get_encodeBits field encoder.width_le]
    exact ⟨encodeBits_within field encoder.width_le v, setWidth_setWidth_of_fits field⟩
  · intro width replacer field word val
    rw [replacer.call_eq, get_replaceBits field replacer.width_le]
    exact ⟨replaceBits_outside field replacer.width_le word val, setWidth_setWidth_of_fits field⟩
  · intro encoder v fits
    have read := getter.call_eq_iff field (encodeBits v field.mask)
    rw [get_encodeBits field encoder.width_le, setWidth_setWidth_of_fits field fits] at read
    rw [encoder.call_eq, read, encodeBits_masked field encoder.width_le,
      encodeBits_eq_zero_iff field encoder.width_le fits]

/-- The second nibble of `0x50` is read as 0. -/
theorem not_le64GetBits_eq :
    ¬ ∀ (field : Field 64) (word : BitVec 64),
      le64GetBits word field.mask = (field.get word).setWidth 64 := by
  intro reads
  let nibble : Field 64 := ⟨4, 4, by decide, by decide⟩
  have wrong := (le64GetBits_eq_iff nibble 0x50#64).mp (reads nibble 0x50#64)
  revert wrong
  decide

end AirportRtw88
