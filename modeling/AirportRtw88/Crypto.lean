import AirportRtw88.Bytes

/-!
# The cryptographic functions of the supplicant

SHA-1 and HMAC, the two key derivations, and the AES key unwrap that the
four-way handshake uses.  The state of a hash is passed explicitly, buffers are
byte strings, and a loop of the source is a recursion over its counter.
-/

namespace AirportRtw88

open Bytes

/-! ## SHA-1 -/

/-- `KERN_SHA1_CTX`. -/
structure Sha1Context where
  state : List UInt32
  countLow : UInt32
  countHigh : UInt32
  buffer : Bytes
  deriving DecidableEq

/-- The macro `rol`. -/
def rol (value : UInt32) (bits : UInt32) : UInt32 :=
  (value <<< bits) ||| (value >>> (32 - bits))

/-- The working variables in the order in which a round macro takes them. -/
structure Sha1Registers where
  v : UInt32
  w : UInt32
  x : UInt32
  y : UInt32
  z : UInt32

/-- A word of the message block as the union reads it on a little-endian
machine. -/
def blockWord (buffer : Bytes) (index : Nat) : UInt32 :=
  UInt32.ofNat (buffer.le16At (4 * index) + 65536 * buffer.le16At (4 * index + 2))

/-- The macro `blk0`. -/
def blk0 (block : List UInt32) (index : Nat) : UInt32 :=
  (rol (block.getD index 0) 24 &&& 0xFF00FF00) |||
    (rol (block.getD index 0) 8 &&& 0x00FF00FF)

/-- The macro `blk`. -/
def blk (block : List UInt32) (index : Nat) : UInt32 :=
  rol (block.getD ((index + 13) % 16) 0 ^^^ block.getD ((index + 8) % 16) 0 ^^^
    block.getD ((index + 2) % 16) 0 ^^^ block.getD (index % 16) 0) 1

/-- The Boolean function and the constant of the macros `r0` to `r4`. -/
def roundMix (index : Nat) (w x y : UInt32) : UInt32 :=
  if index < 20 then ((w &&& (x ^^^ y)) ^^^ y) + 0x5A827999
  else if index < 40 then (w ^^^ x ^^^ y) + 0x6ED9EBA1
  else if index < 60 then (((w ||| x) &&& y) ||| (w &&& x)) + 0x8F1BBCDC
  else (w ^^^ x ^^^ y) + 0xCA62C1D6

/-- One round macro.  Its arguments rotate from one call to the next. -/
def sha1Round (index : Nat) (current : Sha1Registers × List UInt32) :
    Sha1Registers × List UInt32 :=
  let registers := current.1
  let word := if index < 16 then blk0 current.2 index else blk current.2 index
  ({ v := registers.z + (roundMix index registers.w registers.x registers.y + word +
        rol registers.v 5),
     w := registers.v, x := rol registers.w 30, y := registers.x, z := registers.y },
    current.2.set (index % 16) word)

/-- `kern_sha1_transform`. -/
def kernSha1Transform (state : List UInt32) (buffer : Bytes) : List UInt32 :=
  let final := ((List.range 80).foldl (fun current index => sha1Round index current)
    (⟨state.getD 0 0, state.getD 1 0, state.getD 2 0, state.getD 3 0, state.getD 4 0⟩,
      (List.range 16).map (blockWord buffer))).1
  [state.getD 0 0 + final.v, state.getD 1 0 + final.w, state.getD 2 0 + final.x,
    state.getD 3 0 + final.y, state.getD 4 0 + final.z]

/-- `kern_sha1_init`. -/
def kernSha1Init : Sha1Context where
  state := [0x67452301, 0xEFCDAB89, 0x98BADCFE, 0x10325476, 0xC3D2E1F0]
  countLow := 0
  countHigh := 0
  buffer := zeros 64

/-- Transform the whole blocks of `data`. -/
def transformBlocks : Nat → List UInt32 → Bytes → List UInt32
  | 0, state, _ => state
  | blocks + 1, state, data =>
      transformBlocks blocks (kernSha1Transform state (data.take 64)) (data.drop 64)

/-- `kern_sha1_update`. -/
def kernSha1Update (context : Sha1Context) (data : Bytes) : Sha1Context :=
  let len := UInt32.ofNat data.length
  let countLow := context.countLow + (len <<< 3)
  let countHigh := context.countHigh +
    (if countLow < context.countLow then (1 : UInt32) else 0) + (len >>> 29)
  let j := ((context.countLow >>> 3) &&& 63).toNat
  if j + data.length > 63 then
    let filled := context.buffer.overwrite j (data.take (64 - j))
    let rest := data.drop (64 - j)
    let blocks := rest.length / 64
    { state := transformBlocks blocks (kernSha1Transform context.state filled) rest
      countLow, countHigh
      buffer := filled.overwrite 0 (rest.drop (64 * blocks)) }
  else
    { context with countLow, countHigh, buffer := context.buffer.overwrite j data }

/-- The zero bytes that `kern_sha1_final` appends until eight are missing. -/
def padZeros : Nat → Sha1Context → Sha1Context
  | 0, context => context
  | fuel + 1, context =>
      if context.countLow &&& 504 ≠ 448 then
        padZeros fuel (kernSha1Update context [0])
      else context

/-- A word in big-endian order. -/
def wordBytes (word : UInt32) : Bytes :=
  be32 word.toNat

/-- `kern_sha1_final`.  At most 64 zero bytes complete a block. -/
def kernSha1Final (context : Sha1Context) : Bytes :=
  let finalcount := wordBytes context.countHigh ++ wordBytes context.countLow
  let padded := padZeros 64 (kernSha1Update context [0x80])
  ((kernSha1Update padded finalcount).state).flatMap wordBytes

/-- `kern_hmac_sha1`. -/
def kernHmacSha1 (key data : Bytes) : Bytes :=
  let key := if key.length > 64 then kernSha1Final (kernSha1Update kernSha1Init key) else key
  let padded := (zeros 64).overwrite 0 key
  let kIpad := padded.map (· ^^^ 0x36)
  let kOpad := padded.map (· ^^^ 0x5c)
  let mac := kernSha1Final (kernSha1Update (kernSha1Update kernSha1Init kIpad) data)
  kernSha1Final (kernSha1Update (kernSha1Update kernSha1Init kOpad) mac)

/-! ## Key derivation -/

/-- Bytewise exclusive or. -/
def xorBytes (first second : Bytes) : Bytes :=
  List.zipWith (· ^^^ ·) first second

/-- The remaining iterations of one block of PBKDF2: `u` is the last HMAC and
`t` the sum so far. -/
def pbkdf2Iterations (passphrase : Bytes) : Nat → Bytes → Bytes → Bytes
  | 0, _, t => t
  | iterations + 1, u, t =>
      let u' := kernHmacSha1 passphrase u
      pbkdf2Iterations passphrase iterations u' (xorBytes t u')

/-- `derivePMK`, for a passphrase without its terminator. -/
def derivePMK (passphrase ssid : Bytes) : Bytes :=
  let ssid := ssid.take 120
  let hashed := fun number : Nat =>
    let u := kernHmacSha1 passphrase (ssid ++ be32 number)
    pbkdf2Iterations passphrase 4095 u u
  hashed 1 ++ (hashed 2).take 12

/-- The label `"Pairwise key expansion"`. -/
def pairwiseLabel : Bytes :=
  [0x50, 0x61, 0x69, 0x72, 0x77, 0x69, 0x73, 0x65, 0x20, 0x6b, 0x65, 0x79, 0x20,
    0x65, 0x78, 0x70, 0x61, 0x6e, 0x73, 0x69, 0x6f, 0x6e]

/-- `derivePTK`: the key confirmation key, the key encryption key and the
temporal key. -/
def derivePTK (pmk anonce snonce spa aa : Bytes) : Bytes :=
  let macs := if lexLess spa aa then spa ++ aa else aa ++ spa
  let nonces := if lexLess snonce anonce then snonce ++ anonce else anonce ++ snonce
  let data := pairwiseLabel ++ [0] ++ macs ++ nonces
  kernHmacSha1 pmk (data ++ [0]) ++ kernHmacSha1 pmk (data ++ [1]) ++
    kernHmacSha1 pmk (data ++ [2]) ++ (kernHmacSha1 pmk (data ++ [3])).take 4

/-- The comparison of `eapol_mic_ok`, once its copy of the frame is allocated. -/
def eapolMicMatches (kck eapol : Bytes) : Bool :=
  let zeroed := eapol.overwrite 81 (zeros 16)
  eapol.slice 81 16 == (kernHmacSha1 kck zeroed).take 16

/-! ## AES key unwrap -/

/-- `aes_sbox`. -/
def aesSbox : Bytes :=
  [0x63, 0x7c, 0x77, 0x7b, 0xf2, 0x6b, 0x6f, 0xc5, 0x30, 0x01, 0x67, 0x2b, 0xfe, 0xd7, 0xab, 0x76,
    0xca, 0x82, 0xc9, 0x7d, 0xfa, 0x59, 0x47, 0xf0, 0xad, 0xd4, 0xa2, 0xaf, 0x9c, 0xa4, 0x72, 0xc0,
    0xb7, 0xfd, 0x93, 0x26, 0x36, 0x3f, 0xf7, 0xcc, 0x34, 0xa5, 0xe5, 0xf1, 0x71, 0xd8, 0x31, 0x15,
    0x04, 0xc7, 0x23, 0xc3, 0x18, 0x96, 0x05, 0x9a, 0x07, 0x12, 0x80, 0xe2, 0xeb, 0x27, 0xb2, 0x75,
    0x09, 0x83, 0x2c, 0x1a, 0x1b, 0x6e, 0x5a, 0xa0, 0x52, 0x3b, 0xd6, 0xb3, 0x29, 0xe3, 0x2f, 0x84,
    0x53, 0xd1, 0x00, 0xed, 0x20, 0xfc, 0xb1, 0x5b, 0x6a, 0xcb, 0xbe, 0x39, 0x4a, 0x4c, 0x58, 0xcf,
    0xd0, 0xef, 0xaa, 0xfb, 0x43, 0x4d, 0x33, 0x85, 0x45, 0xf9, 0x02, 0x7f, 0x50, 0x3c, 0x9f, 0xa8,
    0x51, 0xa3, 0x40, 0x8f, 0x92, 0x9d, 0x38, 0xf5, 0xbc, 0xb6, 0xda, 0x21, 0x10, 0xff, 0xf3, 0xd2,
    0xcd, 0x0c, 0x13, 0xec, 0x5f, 0x97, 0x44, 0x17, 0xc4, 0xa7, 0x7e, 0x3d, 0x64, 0x5d, 0x19, 0x73,
    0x60, 0x81, 0x4f, 0xdc, 0x22, 0x2a, 0x90, 0x88, 0x46, 0xee, 0xb8, 0x14, 0xde, 0x5e, 0x0b, 0xdb,
    0xe0, 0x32, 0x3a, 0x0a, 0x49, 0x06, 0x24, 0x5c, 0xc2, 0xd3, 0xac, 0x62, 0x91, 0x95, 0xe4, 0x79,
    0xe7, 0xc8, 0x37, 0x6d, 0x8d, 0xd5, 0x4e, 0xa9, 0x6c, 0x56, 0xf4, 0xea, 0x65, 0x7a, 0xae, 0x08,
    0xba, 0x78, 0x25, 0x2e, 0x1c, 0xa6, 0xb4, 0xc6, 0xe8, 0xdd, 0x74, 0x1f, 0x4b, 0xbd, 0x8b, 0x8a,
    0x70, 0x3e, 0xb5, 0x66, 0x48, 0x03, 0xf6, 0x0e, 0x61, 0x35, 0x57, 0xb9, 0x86, 0xc1, 0x1d, 0x9e,
    0xe1, 0xf8, 0x98, 0x11, 0x69, 0xd9, 0x8e, 0x94, 0x9b, 0x1e, 0x87, 0xe9, 0xce, 0x55, 0x28, 0xdf,
    0x8c, 0xa1, 0x89, 0x0d, 0xbf, 0xe6, 0x42, 0x68, 0x41, 0x99, 0x2d, 0x0f, 0xb0, 0x54, 0xbb, 0x16]

/-- `aes_rsbox`. -/
def aesRsbox : Bytes :=
  [0x52, 0x09, 0x6a, 0xd5, 0x30, 0x36, 0xa5, 0x38, 0xbf, 0x40, 0xa3, 0x9e, 0x81, 0xf3, 0xd7, 0xfb,
    0x7c, 0xe3, 0x39, 0x82, 0x9b, 0x2f, 0xff, 0x87, 0x34, 0x8e, 0x43, 0x44, 0xc4, 0xde, 0xe9, 0xcb,
    0x54, 0x7b, 0x94, 0x32, 0xa6, 0xc2, 0x23, 0x3d, 0xee, 0x4c, 0x95, 0x0b, 0x42, 0xfa, 0xc3, 0x4e,
    0x08, 0x2e, 0xa1, 0x66, 0x28, 0xd9, 0x24, 0xb2, 0x76, 0x5b, 0xa2, 0x49, 0x6d, 0x8b, 0xd1, 0x25,
    0x72, 0xf8, 0xf6, 0x64, 0x86, 0x68, 0x98, 0x16, 0xd4, 0xa4, 0x5c, 0xcc, 0x5d, 0x65, 0xb6, 0x92,
    0x6c, 0x70, 0x48, 0x50, 0xfd, 0xed, 0xb9, 0xda, 0x5e, 0x15, 0x46, 0x57, 0xa7, 0x8d, 0x9d, 0x84,
    0x90, 0xd8, 0xab, 0x00, 0x8c, 0xbc, 0xd3, 0x0a, 0xf7, 0xe4, 0x58, 0x05, 0xb8, 0xb3, 0x45, 0x06,
    0xd0, 0x2c, 0x1e, 0x8f, 0xca, 0x3f, 0x0f, 0x02, 0xc1, 0xaf, 0xbd, 0x03, 0x01, 0x13, 0x8a, 0x6b,
    0x3a, 0x91, 0x11, 0x41, 0x4f, 0x67, 0xdc, 0xea, 0x97, 0xf2, 0xcf, 0xce, 0xf0, 0xb4, 0xe6, 0x73,
    0x96, 0xac, 0x74, 0x22, 0xe7, 0xad, 0x35, 0x85, 0xe2, 0xf9, 0x37, 0xe8, 0x1c, 0x75, 0xdf, 0x6e,
    0x47, 0xf1, 0x1a, 0x71, 0x1d, 0x29, 0xc5, 0x89, 0x6f, 0xb7, 0x62, 0x0e, 0xaa, 0x18, 0xbe, 0x1b,
    0xfc, 0x56, 0x3e, 0x4b, 0xc6, 0xd2, 0x79, 0x20, 0x9a, 0xdb, 0xc0, 0xfe, 0x78, 0xcd, 0x5a, 0xf4,
    0x1f, 0xdd, 0xa8, 0x33, 0x88, 0x07, 0xc7, 0x31, 0xb1, 0x12, 0x10, 0x59, 0x27, 0x80, 0xec, 0x5f,
    0x60, 0x51, 0x7f, 0xa9, 0x19, 0xb5, 0x4a, 0x0d, 0x2d, 0xe5, 0x7a, 0x9f, 0x93, 0xc9, 0x9c, 0xef,
    0xa0, 0xe0, 0x3b, 0x4d, 0xae, 0x2a, 0xf5, 0xb0, 0xc8, 0xeb, 0xbb, 0x3c, 0x83, 0x53, 0x99, 0x61,
    0x17, 0x2b, 0x04, 0x7e, 0xba, 0x77, 0xd6, 0x26, 0xe1, 0x69, 0x14, 0x63, 0x55, 0x21, 0x0c, 0x7d]

/-- `aes_xtime`. -/
def aesXtime (x : UInt8) : UInt8 :=
  (x <<< 1) ^^^ (if x &&& 0x80 ≠ 0 then 0x1b else 0)

/-- The loop of `aes_mul` over the bits of `y`. -/
def aesMulBits : Nat → UInt8 → UInt8 → UInt8 → UInt8
  | 0, _, _, r => r
  | bits + 1, x, y, r =>
      aesMulBits bits (aesXtime x) (y >>> 1) (if y &&& 1 ≠ 0 then r ^^^ x else r)

/-- `aes_mul`. -/
def aesMul (x y : UInt8) : UInt8 :=
  aesMulBits 8 x y 0

/-- The table `rcon` of `aes128_key_expand`. -/
def aesRcon : Bytes :=
  [0x01, 0x02, 0x04, 0x08, 0x10, 0x20, 0x40, 0x80, 0x1b, 0x36]

/-- One iteration of `aes128_key_expand`: append word `index` of the round keys. -/
def expandWord (roundKey : Bytes) (index : Nat) : Bytes :=
  let t := roundKey.slice (4 * index - 4) 4
  let t :=
    if index % 4 = 0 then
      [aesSbox.byte (t.byte 1).toNat ^^^ aesRcon.byte (index / 4 - 1),
        aesSbox.byte (t.byte 2).toNat, aesSbox.byte (t.byte 3).toNat,
        aesSbox.byte (t.byte 0).toNat]
    else t
  roundKey ++ xorBytes (roundKey.slice (4 * index - 16) 4) t

/-- `aes128_key_expand`. -/
def aes128KeyExpand (key : Bytes) : Bytes :=
  (List.range' 4 40).foldl expandWord (key.take 16)

/-- `aes_inv_shift_rows`. -/
def aesInvShiftRows (s : Bytes) : Bytes :=
  [0, 13, 10, 7, 4, 1, 14, 11, 8, 5, 2, 15, 12, 9, 6, 3].map s.byte

/-- `aes_inv_sub_bytes`. -/
def aesInvSubBytes (s : Bytes) : Bytes :=
  s.map fun value => aesRsbox.byte value.toNat

/-- One column of `aes_inv_mix_columns`. -/
def aesInvMixColumn (a0 a1 a2 a3 : UInt8) : Bytes :=
  [aesMul a0 0x0e ^^^ aesMul a1 0x0b ^^^ aesMul a2 0x0d ^^^ aesMul a3 0x09,
    aesMul a0 0x09 ^^^ aesMul a1 0x0e ^^^ aesMul a2 0x0b ^^^ aesMul a3 0x0d,
    aesMul a0 0x0d ^^^ aesMul a1 0x09 ^^^ aesMul a2 0x0e ^^^ aesMul a3 0x0b,
    aesMul a0 0x0b ^^^ aesMul a1 0x0d ^^^ aesMul a2 0x09 ^^^ aesMul a3 0x0e]

/-- `aes_inv_mix_columns`. -/
def aesInvMixColumns (s : Bytes) : Bytes :=
  (List.range 4).flatMap fun c =>
    aesInvMixColumn (s.byte (4 * c)) (s.byte (4 * c + 1)) (s.byte (4 * c + 2))
      (s.byte (4 * c + 3))

/-- `aes128_decrypt_block`. -/
def aes128DecryptBlock (key input : Bytes) : Bytes :=
  let rk := aes128KeyExpand key
  let s := xorBytes (input.take 16) (rk.slice 160 16)
  let s := [9, 8, 7, 6, 5, 4, 3, 2, 1].foldl (fun s round =>
    aesInvMixColumns
      (xorBytes (aesInvSubBytes (aesInvShiftRows s)) (rk.slice (round * 16) 16))) s
  xorBytes (aesInvSubBytes (aesInvShiftRows s)) (rk.slice 0 16)

/-- One step of `aes_unwrap_128` on the register `a` and the blocks `r`. -/
def unwrapStep (kek : Bytes) (n j i : Nat) (current : Bytes × List Bytes) :
    Bytes × List Bytes :=
  let t := n * j + i + 1
  -- The counter fits two bytes: it is at most 6 * 32.
  let block := xorBytes current.1 (zeros 6 ++ be16 t) ++ current.2.getD i []
  let plain := aes128DecryptBlock kek block
  (plain.take 8, current.2.set i (plain.slice 8 8))

/-- `aes_unwrap_128`. -/
def aesUnwrap128 (kek input : Bytes) : Option Bytes :=
  if input.length < 16 ∨ input.length % 8 ≠ 0 then none
  else
    let n := input.length / 8 - 1
    if n = 0 ∨ n > 32 then none
    else
      let r := (List.range n).map fun i => input.slice (8 + i * 8) 8
      let final := [5, 4, 3, 2, 1, 0].foldl (fun current j =>
        (List.range n).reverse.foldl (fun current i => unwrapStep kek n j i current) current)
        (input.take 8, r)
      if final.1 = List.replicate 8 0xa6 then some final.2.flatten else none

/-! ## Key data -/

/-- A group key found in the key data. -/
structure GtkKde where
  gtk : Bytes
  idx : Nat
  deriving DecidableEq

/-- The walk of `extract_gtk_from_kde` from an offset on. -/
def extractGtkFrom : Nat → Bytes → Option GtkKde
  | 0, _ => none
  | fuel + 1, rest =>
      if rest.length < 2 then none
      else
        let id := rest.byte 0
        let len := (rest.byte 1).toNat
        let body : Bytes := rest.drop 2
        if 2 + len > rest.length then none
        else if id = 0xdd ∧ len ≥ 6 ∧ body.take 4 = [0x00, 0x0f, 0xac, 0x01] then
          if len - 6 > 32 then none
          else some ⟨body.slice 6 (len - 6), (body.byte 4 &&& 0x3).toNat⟩
        else extractGtkFrom fuel (rest.drop (2 + len))

/-- `extract_gtk_from_kde`.  Every element takes at least two bytes. -/
def extractGtkFromKde (keyData : Bytes) : Option GtkKde :=
  extractGtkFrom (keyData.length + 1) keyData

end AirportRtw88
