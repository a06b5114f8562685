import AirportRtw88.BitFields
import AirportRtw88.Words.Search

/-!
# Searching a bitmap

The four searches of the compatibility header look at a bitmap one `unsigned long` at a time.
They round the size up to words in 64 bits, so the count wraps for the largest sizes.
-/

namespace AirportRtw88

open Words

/-- The words of a bitmap. -/
abbrev Bitmap : Type := List (BitVec 64)

/-- `(size + BITS_PER_LONG - 1) / BITS_PER_LONG`. -/
def bitmapWords (size : Nat) : Nat :=
  (size + 63) % 2 ^ 64 / 64

/-- `bit < size ? bit : size`. -/
def cutOff (bit size : Nat) : Nat :=
  if bit < size then bit else size

/-- The common loop, from word `i` on; `look` is the identity or the complement.  There is no
answer if it reads outside the bitmap. -/
def findInWords (look : BitVec 64 → BitVec 64) (addr : Bitmap) (size : Nat) :
    Nat → Nat → Option Nat
  | 0, _ => some size
  | remaining + 1, i => do
      let word ← addr[i]?
      let v := look word
      if v ≠ 0 then
        return cutOff (i * 64 + ffs v) size
      else
        findInWords look addr size remaining (i + 1)

/-- The common body of `find_first_bit` and `find_first_zero_bit`. -/
def findFirst (look : BitVec 64 → BitVec 64) (addr : Bitmap) (size : Nat) : Option Nat :=
  findInWords look addr size (bitmapWords size) 0

/-- The common body of `find_next_bit` and `find_next_zero_bit`. -/
def findNext (look : BitVec 64 → BitVec 64) (addr : Bitmap) (size offset : Nat) : Option Nat := do
  if offset ≥ size then
    return size
  else
    let idx := offset / 64
    let start := offset % 64
    let word ← addr[idx]?
    let mask := look word &&& (BitVec.allOnes 64 <<< start)
    if mask ≠ 0 then
      return cutOff (idx * 64 + ffs mask) size
    else
      findInWords look addr size (bitmapWords size - (idx + 1)) (idx + 1)

def findFirstBit (addr : Bitmap) (size : Nat) : Option Nat :=
  findFirst id addr size

def findFirstZeroBit (addr : Bitmap) (size : Nat) : Option Nat :=
  findFirst (fun word => ~~~word) addr size

def findNextBit (addr : Bitmap) (size offset : Nat) : Option Nat :=
  findNext id addr size offset

def findNextZeroBit (addr : Bitmap) (size offset : Nat) : Option Nat :=
  findNext (fun word => ~~~word) addr size offset

/-! ## What the searches are for -/

/-- A bit of a bitmap. -/
def Bitmap.bit (addr : Bitmap) (index : Nat) : Bool :=
  (addr.getD (index / 64) 0).getLsbD (index % 64)

/-- The searches. -/
inductive BitmapSearch : Type where
  | firstBit
  | firstZeroBit
  | nextBit (offset : Nat)
  | nextZeroBit (offset : Nat)

namespace BitmapSearch

def run : BitmapSearch → Bitmap → Nat → Option Nat
  | firstBit, addr, size => findFirstBit addr size
  | firstZeroBit, addr, size => findFirstZeroBit addr size
  | nextBit offset, addr, size => findNextBit addr size offset
  | nextZeroBit offset, addr, size => findNextZeroBit addr size offset

def start : BitmapSearch → Nat
  | firstBit | firstZeroBit => 0
  | nextBit offset | nextZeroBit offset => offset

/-- The value of the bits that are searched for. -/
def value : BitmapSearch → Bool
  | firstBit | nextBit _ => true
  | firstZeroBit | nextZeroBit _ => false

/-- The search returns the first bit with its value, and reads no word behind the one that holds
the last bit: it needs no others. -/
def Finds (search : BitmapSearch) (addr : Bitmap) (size : Nat) : Prop :=
  ∃ found, search.run addr size = some found ∧
    search.run (addr.take ((size + 63) / 64)) size = some found ∧
      First (fun index => addr.bit index = search.value) search.start size found

/-- The word that the search starts in is read apart from the loop. -/
def readsFirstWord : BitmapSearch → Bool
  | firstBit | firstZeroBit => false
  | nextBit _ | nextZeroBit _ => true

/-- The size does not wrap when it is rounded up to words, or the loop has nothing to find: there
is no such bit, or it is in the first word of a search that reads this word apart. -/
def Fits (search : BitmapSearch) (addr : Bitmap) (size : Nat) : Prop :=
  size ≤ 2 ^ 64 - 64 ∨
    (∀ index, search.start ≤ index → index < size → addr.bit index ≠ search.value) ∨
    (search.readsFirstWord = true ∧ ∃ index, search.start ≤ index ∧ index < size ∧
      index / 64 = search.start / 64 ∧ addr.bit index = search.value)

end BitmapSearch

/-! ## The words that are read -/

section

variable {look : BitVec 64 → BitVec 64} {addr : Bitmap} {size : Nat}

theorem bitmapWords_of_le (fits : size ≤ 2 ^ 64 - 64) : bitmapWords size = (size + 63) / 64 := by
  rw [bitmapWords, Nat.mod_eq_of_lt (by omega)]

/-- The rounded size wraps to less than a word. -/
theorem bitmapWords_of_wraps (ulong : size < 2 ^ 64) (wraps : ¬ size ≤ 2 ^ 64 - 64) :
    bitmapWords size = 0 := by
  rw [bitmapWords]
  omega

theorem bitmapWords_le (size : Nat) : bitmapWords size ≤ (size + 63) / 64 :=
  Nat.div_le_div_right (Nat.mod_le _ _)

/-- The loop reads no word but those it counts. -/
theorem findInWords_take {count remaining i : Nat} (inside : i + remaining ≤ count) :
    findInWords look (addr.take count) size remaining i =
      findInWords look addr size remaining i := by
  induction remaining generalizing i with
  | zero => rfl
  | succ remaining ih =>
      unfold findInWords
      rw [List.getElem?_take_of_lt (by omega), ih (by omega)]

theorem findFirst_take {count : Nat} (enough : (size + 63) / 64 ≤ count) :
    findFirst look (addr.take count) size = findFirst look addr size := by
  have counted := bitmapWords_le size
  exact findInWords_take (by omega)

theorem findNext_take {count offset : Nat} (enough : (size + 63) / 64 ≤ count) :
    findNext look (addr.take count) size offset = findNext look addr size offset := by
  unfold findNext
  by_cases ended : offset ≥ size
  · rw [if_pos ended, if_pos ended]
  · have counted := bitmapWords_le size
    rw [if_neg ended, if_neg ended]
    dsimp only
    rw [List.getElem?_take_of_lt (by omega)]
    rcases Nat.le_total (bitmapWords size) (offset / 64 + 1) with none | some
    · rw [Nat.sub_eq_zero_of_le none]
      rfl
    · rw [findInWords_take (by omega)]

theorem BitmapSearch.run_take (search : BitmapSearch) (addr : Bitmap) (size : Nat) :
    search.run (addr.take ((size + 63) / 64)) size = search.run addr size := by
  cases search with
  | firstBit => exact findFirst_take (le_refl _)
  | firstZeroBit => exact findFirst_take (le_refl _)
  | nextBit offset => exact findNext_take (le_refl _)
  | nextZeroBit offset => exact findNext_take (le_refl _)

/-! ## The bits that are found -/

/-- A word is looked at for the bits with this value. -/
def LooksFor (look : BitVec 64 → BitVec 64) (value : Bool) : Prop :=
  ∀ (word : BitVec 64), ∀ bit < 64, (look word).getLsbD bit = true ↔ word.getLsbD bit = value

theorem looksFor_true : LooksFor id true :=
  fun _ _ _ => Iff.rfl

theorem looksFor_false : LooksFor (fun word => ~~~word) false := by
  intro word bit inside
  rw [BitVec.getLsbD_not, decide_eq_true inside, Bool.true_and, Bool.not_eq_true']

variable {value : Bool} (looks : LooksFor look value)
include looks

/-- A word that was read shows its bits. -/
theorem LooksFor.shows {i : Nat} {word : BitVec 64} (read : addr[i]? = some word) :
    Shows (look word) (fun index => addr.bit index = value) (i * 64) i := by
  refine ⟨le_refl _, fun bit inside => ?_⟩
  have place : (i * 64 + bit) / 64 = i := by omega
  have within : (i * 64 + bit) % 64 = bit := by omega
  have held : addr.getD i 0 = word := by rw [List.getD_eq_getElem?_getD, read, Option.getD_some]
  rw [looks word bit inside, Bitmap.bit, place, within, held]
  exact (and_iff_right (Nat.le_add_right _ _)).symm

/-- The loop finds the first bit behind the words before it. -/
theorem LooksFor.loop {remaining i : Nat} (inside : i + remaining ≤ addr.length)
    (covers : size ≤ (i + remaining) * 64) :
    ∃ found, findInWords look addr size remaining i = some found ∧
      First (fun index => addr.bit index = value) (i * 64) size found := by
  induction remaining generalizing i with
  | zero => exact ⟨size, rfl, first_size_iff.mpr fun index late below => by omega⟩
  | succ remaining ih =>
      obtain ⟨word, read⟩ : ∃ word, addr[i]? = some word :=
        ⟨addr[i], List.getElem?_eq_getElem (by omega)⟩
      have shown := looks.shows read
      rw [findInWords, read]
      simp only [Option.bind_eq_bind, Option.bind_some]
      by_cases zero : look word = 0
      · have bound : i + 1 + remaining ≤ addr.length := by omega
        obtain ⟨found, goesOn, first⟩ := ih bound (by omega)
        rw [if_neg (not_not.mpr zero)]
        rw [zero] at shown
        exact ⟨found, goesOn, first.skip (by omega) shown.clear⟩
      · rw [if_pos zero]
        exact ⟨_, rfl, first_of_isLeast (shown.isLeast zero)⟩

/-- What a search of this kind returns, and that it is right. -/
def Answers (answer : Option Nat) (addr : Bitmap) (value : Bool) (start size : Nat) : Prop :=
  ∃ found, answer = some found ∧ First (fun index => addr.bit index = value) start size found

omit looks in
theorem answers_some {found start : Nat} : Answers (some found) addr value start size ↔
    First (fun index => addr.bit index = value) start size found := by
  simp [Answers]

/-- A search that starts in the loop is right if the size does not wrap, or if there is nothing
to find. -/
theorem LooksFor.findFirst_iff (whole : size ≤ 64 * addr.length) (ulong : size < 2 ^ 64) :
    Answers (findFirst look addr size) addr value 0 size ↔
      size ≤ 2 ^ 64 - 64 ∨ ∀ index, 0 ≤ index → index < size → addr.bit index ≠ value := by
  by_cases fits : size ≤ 2 ^ 64 - 64
  · have counted := bitmapWords_of_le fits
    have inside : 0 + bitmapWords size ≤ addr.length := by omega
    obtain ⟨found, answer, first⟩ := looks.loop inside (show size ≤ _ by omega)
    rw [Nat.zero_mul] at first
    exact iff_of_true ⟨found, answer, first⟩ (.inl fits)
  · have answer : findFirst look addr size = some size := by
      rw [findFirst, bitmapWords_of_wraps ulong fits]
      rfl
    rw [answer, answers_some, first_size_iff]
    exact (or_iff_right fits).symm

/-- The word of the offset is read whatever the rounded size is. -/
theorem LooksFor.findNext_iff (whole : size ≤ 64 * addr.length) (ulong : size < 2 ^ 64)
    (offset : Nat) :
    Answers (findNext look addr size offset) addr value offset size ↔
      size ≤ 2 ^ 64 - 64 ∨
        (∀ index, offset ≤ index → index < size → addr.bit index ≠ value) ∨
        ∃ index, offset ≤ index ∧ index < size ∧ index / 64 = offset / 64 ∧
          addr.bit index = value := by
  unfold findNext
  by_cases ended : offset ≥ size
  · have none : ∀ index, offset ≤ index → index < size → addr.bit index ≠ value :=
      fun index late below => by omega
    rw [if_pos ended]
    exact iff_of_true ⟨size, rfl, first_size_iff.mpr none⟩ (.inr (.inl none))
  obtain ⟨word, read⟩ : ∃ word, addr[offset / 64]? = some word :=
    ⟨addr[offset / 64], List.getElem?_eq_getElem (by omega)⟩
  have shown := (looks.shows read).masked
  rw [if_neg ended]
  simp only [read, Option.bind_eq_bind, Option.bind_some]
  by_cases zero : look word &&& (BitVec.allOnes 64 <<< (offset % 64)) = 0
  · rw [zero] at shown
    rw [if_neg (not_not.mpr zero)]
    by_cases fits : size ≤ 2 ^ 64 - 64
    · have counted := bitmapWords_of_le fits
      have inside : offset / 64 + 1 + (bitmapWords size - (offset / 64 + 1)) ≤ addr.length := by
        omega
      obtain ⟨found, answer, first⟩ := looks.loop inside (show size ≤ _ by omega)
      exact iff_of_true ⟨found, answer, first.skip (by omega) shown.clear⟩ (.inl fits)
    · have answer : findInWords look addr size (bitmapWords size - (offset / 64 + 1))
          (offset / 64 + 1) = some size := by
        rw [bitmapWords_of_wraps ulong fits, Nat.zero_sub]
        rfl
      rw [answer, answers_some, first_size_iff]
      refine ⟨fun none => .inr (.inl none), ?_⟩
      rintro (small | none | ⟨index, late, below, same, isValue⟩)
      · exact absurd small fits
      · exact none
      · exact absurd isValue (shown.clear index late (by omega))
  · have least := shown.isLeast zero
    have inWord := ctz_lt zero
    rw [if_pos zero]
    refine iff_of_true ⟨_, rfl, first_of_isLeast least⟩ ?_
    rcases lt_or_ge (offset / 64 * 64 + ffs (look word &&& (BitVec.allOnes 64 <<< (offset % 64))))
      size with inside | beyond
    · refine .inr (.inr ⟨_, least.1.1, inside, ?_, least.1.2⟩)
      omega
    · refine .inr (.inl fun index late below isValue => ?_)
      have behind := least.2 ⟨late, isValue⟩
      exact absurd (below.trans_le beyond) (not_lt.mpr behind)

end

namespace BitmapSearch

variable (search : BitmapSearch) (addr : Bitmap) (size : Nat)

theorem finds_iff_answers :
    search.Finds addr size ↔
      Answers (search.run addr size) addr search.value search.start size := by
  simp only [Finds, search.run_take addr size, Answers, and_self_left]

theorem fits_of_first (inLoop : search.readsFirstWord = false) :
    search.Fits addr size ↔ size ≤ 2 ^ 64 - 64 ∨
      ∀ index, search.start ≤ index → index < size → addr.bit index ≠ search.value := by
  simp [Fits, inLoop]

theorem fits_of_next (apart : search.readsFirstWord = true) :
    search.Fits addr size ↔ size ≤ 2 ^ 64 - 64 ∨
      (∀ index, search.start ≤ index → index < size → addr.bit index ≠ search.value) ∨
      ∃ index, search.start ≤ index ∧ index < size ∧ index / 64 = search.start / 64 ∧
        addr.bit index = search.value := by
  simp [Fits, apart]

end BitmapSearch

/-- Every search finds its bit in a bitmap of every size exactly if the size does not wrap, or the
loop has nothing to find. -/
theorem bitmapSearch_finds_iff (search : BitmapSearch) {addr : Bitmap} {size : Nat}
    (whole : size ≤ 64 * addr.length) (ulong : size < 2 ^ 64) :
    search.Finds addr size ↔ search.Fits addr size := by
  rw [search.finds_iff_answers]
  cases search with
  | firstBit =>
      rw [BitmapSearch.fits_of_first _ _ _ rfl]
      exact looksFor_true.findFirst_iff whole ulong
  | firstZeroBit =>
      rw [BitmapSearch.fits_of_first _ _ _ rfl]
      exact looksFor_false.findFirst_iff whole ulong
  | nextBit offset =>
      rw [BitmapSearch.fits_of_next _ _ _ rfl]
      exact looksFor_true.findNext_iff whole ulong offset
  | nextZeroBit offset =>
      rw [BitmapSearch.fits_of_next _ _ _ rfl]
      exact looksFor_false.findNext_iff whole ulong offset

/-- The last bit of a bitmap of 70 bits is found from bit 3 on. -/
theorem bitmapSearch_finds_iff_partial :
    (BitmapSearch.nextBit 3).Finds [7, 0x20] 70 ∧ findNextBit [7, 0x20] 70 3 = some 69 :=
  ⟨(bitmapSearch_finds_iff (.nextBit 3) (by decide) (by omega)).mpr (.inl (by omega)),
    by decide +kernel⟩

namespace Scenario

/-- A bitmap for `ULONG_MAX` bits, with bit 0 of every word set. -/
def longBitmap : Bitmap :=
  List.replicate (2 ^ 58) 1

end Scenario

/-- The words of such a bitmap are not even looked at. -/
theorem not_finds_of_wraps {addr : Bitmap} (whole : 2 ^ 64 - 1 ≤ 64 * addr.length)
    (set : addr.bit 0 = true) : ¬ BitmapSearch.firstBit.Finds addr (2 ^ 64 - 1) := by
  rw [BitmapSearch.finds_iff_answers]
  intro answers
  rcases (looksFor_true.findFirst_iff whole (by omega)).mp answers with fits | none
  · omega
  · exact none 0 (le_refl 0) (by omega) set

theorem not_bitmapSearch_finds : ¬ ∀ (search : BitmapSearch) (addr : Bitmap) (size : Nat),
    size ≤ 64 * addr.length → size < 2 ^ 64 → search.Finds addr size := by
  intro finds
  have length : Scenario.longBitmap.length = 2 ^ 58 := List.length_replicate
  have set : Scenario.longBitmap.bit 0 = true := by
    have word : Scenario.longBitmap.getD 0 0 = 1 := by
      rw [Scenario.longBitmap, List.getD_eq_getElem?_getD, List.getElem?_replicate,
        if_pos (by omega)]
      rfl
    rw [Bitmap.bit, Nat.zero_div, word]
    decide
  exact not_finds_of_wraps (by omega) set (finds .firstBit _ _ (by omega) (by omega))

end AirportRtw88
