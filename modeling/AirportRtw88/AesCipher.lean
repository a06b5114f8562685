import AirportRtw88.Crypto
import AirportRtw88.Iteration

/-!
# AES-128 decryption inverts encryption

The cipher of FIPS 197 on the tables and the key expansion of the supplicant.  Every layer of a
round is inverted by its counterpart: the tables by inspection of all bytes, `MixColumns` because
multiplication by a constant is additive, so that only the entries of a matrix product remain.
-/

namespace AirportRtw88

open Bytes

/-! ## The cipher -/

/-- `SubBytes`. -/
def aesSubBytes (s : Bytes) : Bytes :=
  s.map fun value => aesSbox.byte value.toNat

/-- `ShiftRows`, on a state whose columns follow each other. -/
def aesShiftRows (s : Bytes) : Bytes :=
  [0, 5, 10, 15, 4, 9, 14, 3, 8, 13, 2, 7, 12, 1, 6, 11].map s.byte

/-- One column of `MixColumns`. -/
def aesMixColumn (a0 a1 a2 a3 : UInt8) : Bytes :=
  [aesMul a0 0x02 ^^^ aesMul a1 0x03 ^^^ a2 ^^^ a3,
    a0 ^^^ aesMul a1 0x02 ^^^ aesMul a2 0x03 ^^^ a3,
    a0 ^^^ a1 ^^^ aesMul a2 0x02 ^^^ aesMul a3 0x03,
    aesMul a0 0x03 ^^^ a1 ^^^ a2 ^^^ aesMul a3 0x02]

/-- `MixColumns`. -/
def aesMixColumns (s : Bytes) : Bytes :=
  (List.range 4).flatMap fun c =>
    aesMixColumn (s.byte (4 * c)) (s.byte (4 * c + 1)) (s.byte (4 * c + 2))
      (s.byte (4 * c + 3))

/-- The cipher of FIPS 197 with a key of 128 bits. -/
def aes128EncryptBlock (key input : Bytes) : Bytes :=
  let rk := aes128KeyExpand key
  let s := xorBytes (input.take 16) (rk.slice 0 16)
  let s := [1, 2, 3, 4, 5, 6, 7, 8, 9].foldl (fun s round =>
    xorBytes (aesMixColumns (aesShiftRows (aesSubBytes s))) (rk.slice (round * 16) 16)) s
  xorBytes (aesShiftRows (aesSubBytes s)) (rk.slice 160 16)

/-! ## Round keys -/

theorem length_xorBytes {first second : Bytes} (same : first.length = second.length) :
    (xorBytes first second).length = first.length := by
  rw [xorBytes, List.length_zipWith, ← same, Nat.min_self]

/-- Adding a key twice cancels. -/
theorem xorBytes_cancel {bytes key : Bytes} (same : bytes.length = key.length) :
    xorBytes (xorBytes bytes key) key = bytes := by
  induction bytes generalizing key with
  | nil => rfl
  | cons byte bytes ih =>
      cases key with
      | nil => cases same
      | cons other key =>
          have rest := ih (Nat.succ.inj same)
          simp only [xorBytes, List.zipWith_cons_cons, UInt8.xor_assoc, UInt8.xor_self,
            UInt8.xor_zero] at rest ⊢
          rw [rest]

theorem length_expandWord {roundKey : Bytes} {index : Nat} (four : 4 ≤ index)
    (long : roundKey.length = 4 * index) :
    (expandWord roundKey index).length = 4 * (index + 1) := by
  have previous : (roundKey.slice (4 * index - 16) 4).length = 4 := length_slice (by omega)
  have last : (roundKey.slice (4 * index - 4) 4).length = 4 := length_slice (by omega)
  rw [expandWord, List.length_append, length_xorBytes, previous, long]
  · omega
  · split
    · exact previous
    · rw [previous, last]

theorem length_expandWords (roundKey : Bytes) (start count : Nat) (four : 4 ≤ start)
    (long : roundKey.length = 4 * start) :
    ((List.range' start count).foldl expandWord roundKey).length = 4 * (start + count) := by
  induction count generalizing roundKey start with
  | zero => exact long
  | succ count ih =>
      rw [List.range'_succ, List.foldl_cons, ih _ (start + 1) (by omega)
        (length_expandWord four long)]
      omega

theorem length_aes128KeyExpand {key : Bytes} (long : key.length = 16) :
    (aes128KeyExpand key).length = 176 :=
  length_expandWords (key.take 16) 4 40 (by omega) (by rw [List.length_take, long]; rfl)

theorem length_roundKey {key : Bytes} (long : key.length = 16) (start : Nat)
    (inside : start ≤ 160) : ((aes128KeyExpand key).slice start 16).length = 16 := by
  apply length_slice
  rw [length_aes128KeyExpand long]
  omega

/-! ## The tables -/

theorem aesRsbox_aesSbox :
    ∀ value < 256, aesRsbox.byte (aesSbox.byte value).toNat = UInt8.ofNat value := by
  decide +kernel

theorem aesSbox_aesRsbox :
    ∀ value < 256, aesSbox.byte (aesRsbox.byte value).toNat = UInt8.ofNat value := by
  decide +kernel

theorem aesInvSubBytes_aesSubBytes (s : Bytes) : aesInvSubBytes (aesSubBytes s) = s := by
  induction s with
  | nil => rfl
  | cons value s ih =>
      have head := aesRsbox_aesSbox value.toNat value.toNat_lt
      rw [UInt8.ofNat_toNat] at head
      simp only [aesInvSubBytes, aesSubBytes, List.map_cons, head] at ih ⊢
      rw [ih]

theorem aesSubBytes_aesInvSubBytes (s : Bytes) : aesSubBytes (aesInvSubBytes s) = s := by
  induction s with
  | nil => rfl
  | cons value s ih =>
      have head := aesSbox_aesRsbox value.toNat value.toNat_lt
      rw [UInt8.ofNat_toNat] at head
      simp only [aesInvSubBytes, aesSubBytes, List.map_cons, head] at ih ⊢
      rw [ih]

/-! ## The permutation -/

/-- A state is the list of its sixteen bytes. -/
theorem eq_of_length_16 {s : Bytes} (long : s.length = 16) :
    s = [s.byte 0, s.byte 1, s.byte 2, s.byte 3, s.byte 4, s.byte 5, s.byte 6, s.byte 7,
      s.byte 8, s.byte 9, s.byte 10, s.byte 11, s.byte 12, s.byte 13, s.byte 14, s.byte 15] := by
  have listed : s = (List.range 16).map s.byte := by
    apply List.ext_getElem
    · simp [long]
    · intro index inside _
      simp [byte, inside]
  exact listed

theorem aesInvShiftRows_aesShiftRows {s : Bytes} (long : s.length = 16) :
    aesInvShiftRows (aesShiftRows s) = s := by
  conv_rhs => rw [eq_of_length_16 long]
  rfl

theorem aesShiftRows_aesInvShiftRows {s : Bytes} (long : s.length = 16) :
    aesShiftRows (aesInvShiftRows s) = s := by
  conv_rhs => rw [eq_of_length_16 long]
  rfl

/-! ## The matrix -/

theorem and_0x80 : ∀ value < 256,
    UInt8.ofNat value &&& 0x80 = 0 ∨ UInt8.ofNat value &&& 0x80 = 0x80 := by
  decide +kernel

theorem xor_and (x y mask : UInt8) : (x ^^^ y) &&& mask = (x &&& mask) ^^^ (y &&& mask) := by
  apply UInt8.toBitVec_inj.mp
  ext index inside
  simp [Bool.and_xor_distrib_right]

theorem aesXtime_xor (x y : UInt8) : aesXtime (x ^^^ y) = aesXtime x ^^^ aesXtime y := by
  have first := and_0x80 x.toNat x.toNat_lt
  have second := and_0x80 y.toNat y.toNat_lt
  rw [UInt8.ofNat_toNat] at first second
  unfold aesXtime
  rw [UInt8.shiftLeft_xor, xor_and]
  have cancel : (27 : UInt8) ^^^ ((27 : UInt8) ^^^ (x <<< 1 ^^^ y <<< 1)) =
      x <<< 1 ^^^ y <<< 1 := by
    rw [← UInt8.xor_assoc, UInt8.xor_self, UInt8.zero_xor]
  rcases first with first | first <;> rcases second with second | second <;>
    simp only [first, second] <;> simp
  · ac_rfl
  · ac_rfl
  · rw [← cancel]
    ac_rfl

theorem aesMulBits_xor (bits : Nat) (x x' y r r' : UInt8) :
    aesMulBits bits (x ^^^ x') y (r ^^^ r') =
      aesMulBits bits x y r ^^^ aesMulBits bits x' y r' := by
  induction bits generalizing x x' y r r' with
  | zero => rfl
  | succ bits ih =>
      rw [aesMulBits, aesMulBits, aesMulBits, aesXtime_xor, ← ih]
      split
      · congr 1
        ac_rfl
      · rfl

/-- Multiplication by a constant is additive. -/
theorem aesMul_xor (x x' y : UInt8) : aesMul (x ^^^ x') y = aesMul x y ^^^ aesMul x' y :=
  aesMulBits_xor 8 x x' y 0 0

/-- The entries of the product of the matrices of `InvMixColumns` and `MixColumns`. -/
theorem invMix_mix : ∀ value < 256, let v := UInt8.ofNat value
    aesMul (aesMul v 0x02) 0x0e ^^^ aesMul v 0x0b ^^^ aesMul v 0x0d ^^^
        aesMul (aesMul v 0x03) 0x09 = v ∧
      aesMul (aesMul v 0x03) 0x0e ^^^ aesMul (aesMul v 0x02) 0x0b ^^^ aesMul v 0x0d ^^^
        aesMul v 0x09 = 0 ∧
      aesMul v 0x0e ^^^ aesMul (aesMul v 0x03) 0x0b ^^^ aesMul (aesMul v 0x02) 0x0d ^^^
        aesMul v 0x09 = 0 ∧
      aesMul v 0x0e ^^^ aesMul v 0x0b ^^^ aesMul (aesMul v 0x03) 0x0d ^^^
        aesMul (aesMul v 0x02) 0x09 = 0 := by
  decide +kernel

/-- The entries of the product in the other order. -/
theorem mix_invMix : ∀ value < 256, let v := UInt8.ofNat value
    aesMul (aesMul v 0x0e) 0x02 ^^^ aesMul (aesMul v 0x09) 0x03 ^^^ aesMul v 0x0d ^^^
        aesMul v 0x0b = v ∧
      aesMul (aesMul v 0x0b) 0x02 ^^^ aesMul (aesMul v 0x0e) 0x03 ^^^ aesMul v 0x09 ^^^
        aesMul v 0x0d = 0 ∧
      aesMul (aesMul v 0x0d) 0x02 ^^^ aesMul (aesMul v 0x0b) 0x03 ^^^ aesMul v 0x0e ^^^
        aesMul v 0x09 = 0 ∧
      aesMul (aesMul v 0x09) 0x02 ^^^ aesMul (aesMul v 0x0d) 0x03 ^^^ aesMul v 0x0b ^^^
        aesMul v 0x0e = 0 := by
  decide +kernel

/-- The first row of `MixColumns`; the others rotate its arguments. -/
def mixRow (a b c d : UInt8) : UInt8 :=
  aesMul a 0x02 ^^^ aesMul b 0x03 ^^^ c ^^^ d

/-- The first row of `InvMixColumns`. -/
def invMixRow (a b c d : UInt8) : UInt8 :=
  aesMul a 0x0e ^^^ aesMul b 0x0b ^^^ aesMul c 0x0d ^^^ aesMul d 0x09

theorem aesMixColumn_eq (a b c d : UInt8) :
    aesMixColumn a b c d = [mixRow a b c d, mixRow b c d a, mixRow c d a b, mixRow d a b c] := by
  unfold aesMixColumn mixRow
  congr 1
  congr 1
  · ac_rfl
  congr 1
  · ac_rfl
  congr 1
  ac_rfl

theorem aesInvMixColumn_eq (a b c d : UInt8) :
    aesInvMixColumn a b c d =
      [invMixRow a b c d, invMixRow b c d a, invMixRow c d a b, invMixRow d a b c] := by
  unfold aesInvMixColumn invMixRow
  congr 1
  congr 1
  · ac_rfl
  congr 1
  · ac_rfl
  congr 1
  ac_rfl

theorem invMixRow_mixRow (a b c d : UInt8) :
    invMixRow (mixRow a b c d) (mixRow b c d a) (mixRow c d a b) (mixRow d a b c) = a := by
  have first := (invMix_mix a.toNat a.toNat_lt).1
  have second := (invMix_mix b.toNat b.toNat_lt).2.1
  have third := (invMix_mix c.toNat c.toNat_lt).2.2.1
  have fourth := (invMix_mix d.toNat d.toNat_lt).2.2.2
  rw [UInt8.ofNat_toNat] at first second third fourth
  calc invMixRow (mixRow a b c d) (mixRow b c d a) (mixRow c d a b) (mixRow d a b c)
      = (aesMul (aesMul a 0x02) 0x0e ^^^ aesMul a 0x0b ^^^ aesMul a 0x0d ^^^
            aesMul (aesMul a 0x03) 0x09) ^^^
          (aesMul (aesMul b 0x03) 0x0e ^^^ aesMul (aesMul b 0x02) 0x0b ^^^ aesMul b 0x0d ^^^
            aesMul b 0x09) ^^^
          (aesMul c 0x0e ^^^ aesMul (aesMul c 0x03) 0x0b ^^^ aesMul (aesMul c 0x02) 0x0d ^^^
            aesMul c 0x09) ^^^
          (aesMul d 0x0e ^^^ aesMul d 0x0b ^^^ aesMul (aesMul d 0x03) 0x0d ^^^
            aesMul (aesMul d 0x02) 0x09) := by
        simp only [invMixRow, mixRow, aesMul_xor]
        ac_rfl
    _ = a := by rw [first, second, third, fourth, UInt8.xor_zero, UInt8.xor_zero, UInt8.xor_zero]

theorem mixRow_invMixRow (a b c d : UInt8) :
    mixRow (invMixRow a b c d) (invMixRow b c d a) (invMixRow c d a b) (invMixRow d a b c) = a := by
  have first := (mix_invMix a.toNat a.toNat_lt).1
  have second := (mix_invMix b.toNat b.toNat_lt).2.1
  have third := (mix_invMix c.toNat c.toNat_lt).2.2.1
  have fourth := (mix_invMix d.toNat d.toNat_lt).2.2.2
  rw [UInt8.ofNat_toNat] at first second third fourth
  calc mixRow (invMixRow a b c d) (invMixRow b c d a) (invMixRow c d a b) (invMixRow d a b c)
      = (aesMul (aesMul a 0x0e) 0x02 ^^^ aesMul (aesMul a 0x09) 0x03 ^^^ aesMul a 0x0d ^^^
            aesMul a 0x0b) ^^^
          (aesMul (aesMul b 0x0b) 0x02 ^^^ aesMul (aesMul b 0x0e) 0x03 ^^^ aesMul b 0x09 ^^^
            aesMul b 0x0d) ^^^
          (aesMul (aesMul c 0x0d) 0x02 ^^^ aesMul (aesMul c 0x0b) 0x03 ^^^ aesMul c 0x0e ^^^
            aesMul c 0x09) ^^^
          (aesMul (aesMul d 0x09) 0x02 ^^^ aesMul (aesMul d 0x0d) 0x03 ^^^ aesMul d 0x0b ^^^
            aesMul d 0x0e) := by
        simp only [invMixRow, mixRow, aesMul_xor]
        ac_rfl
    _ = a := by rw [first, second, third, fourth, UInt8.xor_zero, UInt8.xor_zero, UInt8.xor_zero]

theorem aesInvMixColumns_aesMixColumns {s : Bytes} (long : s.length = 16) :
    aesInvMixColumns (aesMixColumns s) = s := by
  conv_rhs => rw [eq_of_length_16 long]
  simp [aesInvMixColumns, aesMixColumns, aesMixColumn_eq, aesInvMixColumn_eq, List.range_succ, byte,
    invMixRow_mixRow]

theorem aesMixColumns_aesInvMixColumns {s : Bytes} (long : s.length = 16) :
    aesMixColumns (aesInvMixColumns s) = s := by
  conv_rhs => rw [eq_of_length_16 long]
  simp [aesInvMixColumns, aesMixColumns, aesMixColumn_eq, aesInvMixColumn_eq, List.range_succ, byte,
    mixRow_invMixRow]

/-! ## The rounds -/

@[simp]
theorem length_aesSubBytes (s : Bytes) : (aesSubBytes s).length = s.length :=
  List.length_map ..

@[simp]
theorem length_aesInvSubBytes (s : Bytes) : (aesInvSubBytes s).length = s.length :=
  List.length_map ..

@[simp]
theorem length_aesShiftRows (s : Bytes) : (aesShiftRows s).length = 16 := rfl

@[simp]
theorem length_aesInvShiftRows (s : Bytes) : (aesInvShiftRows s).length = 16 := rfl

@[simp]
theorem length_aesMixColumns (s : Bytes) : (aesMixColumns s).length = 16 := rfl

@[simp]
theorem length_aesInvMixColumns (s : Bytes) : (aesInvMixColumns s).length = 16 := rfl

/-- `SubBytes` and `ShiftRows`. -/
def subShift (s : Bytes) : Bytes :=
  aesShiftRows (aesSubBytes s)

/-- Their inverses, in the order of the decryption. -/
def invSubShift (s : Bytes) : Bytes :=
  aesInvSubBytes (aesInvShiftRows s)

theorem invSubShift_subShift {s : Bytes} (long : s.length = 16) : invSubShift (subShift s) = s := by
  rw [invSubShift, subShift, aesInvShiftRows_aesShiftRows (by simpa using long),
    aesInvSubBytes_aesSubBytes]

theorem subShift_invSubShift {s : Bytes} (long : s.length = 16) : subShift (invSubShift s) = s := by
  rw [invSubShift, subShift, aesSubBytes_aesInvSubBytes, aesShiftRows_aesInvShiftRows long]

/-- A round of the cipher, from `SubBytes` and `ShiftRows` of the last state to those of the
next. -/
def cipherRound (rk s : Bytes) (round : Nat) : Bytes :=
  subShift (xorBytes (aesMixColumns s) (rk.slice (round * 16) 16))

/-- A round of `aes128_decrypt_block`. -/
def decryptRound (rk s : Bytes) (round : Nat) : Bytes :=
  aesInvMixColumns (xorBytes (invSubShift s) (rk.slice (round * 16) 16))

theorem aes128EncryptBlock_eq (key input : Bytes) :
    aes128EncryptBlock key input =
      xorBytes
        ([1, 2, 3, 4, 5, 6, 7, 8, 9].foldl (cipherRound (aes128KeyExpand key))
          (subShift (xorBytes (input.take 16) ((aes128KeyExpand key).slice 0 16))))
        ((aes128KeyExpand key).slice 160 16) := by
  rw [List.foldl_hom subShift fun _ _ => rfl]
  rfl

theorem aes128DecryptBlock_eq (key input : Bytes) :
    aes128DecryptBlock key input =
      xorBytes
        (invSubShift ([9, 8, 7, 6, 5, 4, 3, 2, 1].foldl
          (decryptRound (aes128KeyExpand key))
          (xorBytes (input.take 16) ((aes128KeyExpand key).slice 160 16))))
        ((aes128KeyExpand key).slice 0 16) := rfl

section Rounds

variable {key : Bytes} (long : key.length = 16)
include long

theorem decryptRound_cipherRound {s : Bytes} (state : s.length = 16) {round : Nat}
    (inside : round ≤ 10) :
    decryptRound (aes128KeyExpand key) (cipherRound (aes128KeyExpand key) s round) round = s := by
  have whole := length_roundKey long (round * 16) (by omega)
  rw [decryptRound, cipherRound, invSubShift_subShift, xorBytes_cancel,
    aesInvMixColumns_aesMixColumns state]
  · rw [whole, length_aesMixColumns]
  · rw [length_xorBytes, length_aesMixColumns]
    rw [whole, length_aesMixColumns]

theorem cipherRound_decryptRound {s : Bytes} (state : s.length = 16) {round : Nat}
    (inside : round ≤ 10) :
    cipherRound (aes128KeyExpand key) (decryptRound (aes128KeyExpand key) s round) round = s := by
  have whole := length_roundKey long (round * 16) (by omega)
  have shifted : (invSubShift s).length = 16 := by simp [invSubShift]
  rw [decryptRound, cipherRound, aesMixColumns_aesInvMixColumns, xorBytes_cancel,
    subShift_invSubShift state]
  · rw [whole, shifted]
  · rw [length_xorBytes, shifted]
    rw [whole, shifted]

theorem aes128DecryptBlock_encrypt {block : Bytes} (state : block.length = 16) :
    aes128DecryptBlock key (aes128EncryptBlock key block) = block := by
  have first := length_roundKey long 0 (by omega)
  have last := length_roundKey long 160 (by omega)
  have keeps : ∀ s : Bytes, ∀ round ∈ [1, 2, 3, 4, 5, 6, 7, 8, 9], s.length = 16 →
      (cipherRound (aes128KeyExpand key) s round).length = 16 := fun _ _ _ _ => rfl
  have undo : ∀ s : Bytes, ∀ round ∈ [1, 2, 3, 4, 5, 6, 7, 8, 9], s.length = 16 →
      decryptRound (aes128KeyExpand key) (cipherRound (aes128KeyExpand key) s round) round = s :=
    fun s round member state => decryptRound_cipherRound long state (by simp at member; omega)
  have start : (subShift (xorBytes block ((aes128KeyExpand key).slice 0 16))).length = 16 := rfl
  have undone := Iteration.foldl_reverse_undo _ _ keeps undo start
  have ended := Iteration.foldl_keeps _ _ keeps start
  rw [aes128EncryptBlock_eq, List.take_of_length_le (by omega)]
  generalize [1, 2, 3, 4, 5, 6, 7, 8, 9].foldl (cipherRound (aes128KeyExpand key))
    (subShift (xorBytes block ((aes128KeyExpand key).slice 0 16))) = ciphered at undone ended
  rw [aes128DecryptBlock_eq, List.take_of_length_le (by rw [length_xorBytes] <;> omega),
    xorBytes_cancel (by omega)]
  simp only [List.reverse_cons, List.reverse_nil, List.nil_append, List.cons_append] at undone
  rw [undone, invSubShift_subShift (by rw [length_xorBytes] <;> omega), xorBytes_cancel (by omega)]

theorem aes128EncryptBlock_decrypt {block : Bytes} (state : block.length = 16) :
    aes128EncryptBlock key (aes128DecryptBlock key block) = block := by
  have first := length_roundKey long 0 (by omega)
  have last := length_roundKey long 160 (by omega)
  have keeps : ∀ s : Bytes, ∀ round ∈ [9, 8, 7, 6, 5, 4, 3, 2, 1], s.length = 16 →
      (decryptRound (aes128KeyExpand key) s round).length = 16 := fun _ _ _ _ => rfl
  have undo : ∀ s : Bytes, ∀ round ∈ [9, 8, 7, 6, 5, 4, 3, 2, 1], s.length = 16 →
      cipherRound (aes128KeyExpand key) (decryptRound (aes128KeyExpand key) s round) round = s :=
    fun s round member state => cipherRound_decryptRound long state (by simp at member; omega)
  have start : (xorBytes block ((aes128KeyExpand key).slice 160 16)).length = 16 := by
    rw [length_xorBytes] <;> omega
  have undone := Iteration.foldl_reverse_undo _ _ keeps undo start
  have ended := Iteration.foldl_keeps _ _ keeps start
  rw [aes128DecryptBlock_eq, List.take_of_length_le (by omega)]
  generalize [9, 8, 7, 6, 5, 4, 3, 2, 1].foldl (decryptRound (aes128KeyExpand key))
    (xorBytes block ((aes128KeyExpand key).slice 160 16)) = deciphered at undone ended
  have shifted : (invSubShift deciphered).length = 16 := by simp [invSubShift]
  rw [aes128EncryptBlock_eq, List.take_of_length_le (by rw [length_xorBytes] <;> omega),
    xorBytes_cancel (by omega), subShift_invSubShift ended]
  simp only [List.reverse_cons, List.reverse_nil, List.nil_append, List.cons_append] at undone
  rw [undone, xorBytes_cancel (by omega)]

@[simp]
theorem length_aes128EncryptBlock (block : Bytes) : (aes128EncryptBlock key block).length = 16 := by
  have last := length_roundKey long 160 (by omega)
  rw [aes128EncryptBlock, length_xorBytes] <;> simp [last]

@[simp]
theorem length_aes128DecryptBlock (block : Bytes) : (aes128DecryptBlock key block).length = 16 := by
  have first := length_roundKey long 0 (by omega)
  rw [aes128DecryptBlock, length_xorBytes] <;> simp [first]

end Rounds

/-- Decryption inverts encryption, and encryption decryption. -/
theorem aes128_inverse {key block : Bytes} (long : key.length = 16) (state : block.length = 16) :
    aes128DecryptBlock key (aes128EncryptBlock key block) = block ∧
      aes128EncryptBlock key (aes128DecryptBlock key block) = block :=
  ⟨aes128DecryptBlock_encrypt long state, aes128EncryptBlock_decrypt long state⟩

/-- The bytes from 0 to 15, as a key. -/
def countingKey : Bytes :=
  [0x00, 0x01, 0x02, 0x03, 0x04, 0x05, 0x06, 0x07, 0x08, 0x09, 0x0a, 0x0b, 0x0c, 0x0d, 0x0e, 0x0f]

/-- The sixteen bytes with two equal digits. -/
def doubledBlock : Bytes :=
  [0x00, 0x11, 0x22, 0x33, 0x44, 0x55, 0x66, 0x77, 0x88, 0x99, 0xaa, 0xbb, 0xcc, 0xdd, 0xee, 0xff]

theorem aes128_inverse_doubledBlock :
    aes128DecryptBlock countingKey (aes128EncryptBlock countingKey doubledBlock) = doubledBlock ∧
      aes128EncryptBlock countingKey (aes128DecryptBlock countingKey doubledBlock) =
        doubledBlock :=
  aes128_inverse rfl rfl

end AirportRtw88
