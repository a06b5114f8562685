import AirportRtw88.Access
import AirportRtw88.Frame

/-!
# The fields of a frame that was built

A three-address header is read back field by field, with whatever follows it.
-/

namespace AirportRtw88

namespace Bytes

/-- A part of a buffer is read back from its place. -/
theorem slice_middle (front middle back : Bytes) {start length : Nat}
    (place : front.length = start) (whole : middle.length = length) :
    (front ++ (middle ++ back)).slice start length = middle := by
  rw [slice, List.drop_left' place, List.take_left' whole]

/-- A word that is written where it was read. -/
theorem be16_be16At {bytes : Bytes} {index : Nat} (inside : index + 2 ≤ bytes.length) :
    be16 (bytes.be16At index) = bytes.slice index 2 := by
  have high := (bytes.byte index).toNat_lt
  have low := (bytes.byte (index + 1)).toNat_lt
  have first : UInt8.ofNat (bytes.be16At index / 256) = bytes.byte index := by
    rw [← UInt8.toNat_inj, UInt8.toNat_ofNat', be16At]
    omega
  have second : UInt8.ofNat (bytes.be16At index) = bytes.byte (index + 1) := by
    rw [← UInt8.toNat_inj, UInt8.toNat_ofNat', be16At]
    omega
  have parts : bytes.slice index 2 = [bytes.byte index, bytes.byte (index + 1)] := by
    have here : bytes[index] = bytes.byte index := by
      simp [byte, show index < bytes.length by omega]
    have next : bytes[index + 1] = bytes.byte (index + 1) := by
      simp [byte, show index + 1 < bytes.length by omega]
    rw [slice, List.drop_eq_getElem_cons (by omega), List.drop_eq_getElem_cons (by omega), here,
      next]
    rfl
  rw [be16, first, second, parts]

end Bytes

open Bytes

/-- A header with three addresses, each field within its width. -/
structure MacHeader where
  fc : Nat
  duration : Nat
  addr1 : Bytes
  addr2 : Bytes
  addr3 : Bytes
  seqCtrl : Nat
  fc_lt : fc < 65536
  seqCtrl_lt : seqCtrl < 65536
  length_addr1 : addr1.length = 6
  length_addr2 : addr2.length = 6
  length_addr3 : addr3.length = 6

namespace MacHeader

def bytes (h : MacHeader) : Bytes :=
  le16 h.fc ++ le16 h.duration ++ h.addr1 ++ h.addr2 ++ h.addr3 ++ le16 h.seqCtrl

variable (h : MacHeader) (rest : Bytes)

@[simp]
theorem length_bytes : h.bytes.length = 24 := by
  simp [bytes, le16, h.length_addr1, h.length_addr2, h.length_addr3]

/-- `header3addr` writes a header without a duration. -/
theorem bytes_eq_header3addr (unset : h.duration = 0) :
    h.bytes = header3addr h.fc h.addr1 h.addr2 h.addr3 h.seqCtrl := by
  rw [bytes, unset]
  rfl

@[simp]
theorem frameControl_append : Bytes.frameControl (h.bytes ++ rest) = h.fc := by
  have read := le16At_le16 [] (le16 h.duration ++ h.addr1 ++ h.addr2 ++ h.addr3 ++
    le16 h.seqCtrl ++ rest) h.fc h.fc_lt
  simpa only [frameControl, bytes, List.append_assoc, List.nil_append, List.length_nil] using read

@[simp]
theorem addr1_append : Bytes.addr1 (h.bytes ++ rest) = h.addr1 := by
  have place : (le16 h.fc ++ le16 h.duration).length = 4 := rfl
  have read := slice_middle _ h.addr1 (h.addr2 ++ h.addr3 ++ le16 h.seqCtrl ++ rest) place
    h.length_addr1
  simpa only [Bytes.addr1, bytes, List.append_assoc] using read

@[simp]
theorem addr2_append : Bytes.addr2 (h.bytes ++ rest) = h.addr2 := by
  have place : (le16 h.fc ++ le16 h.duration ++ h.addr1).length = 10 := by
    simp [le16, h.length_addr1]
  have read := slice_middle _ h.addr2 (h.addr3 ++ le16 h.seqCtrl ++ rest) place h.length_addr2
  simpa only [Bytes.addr2, bytes, List.append_assoc] using read

@[simp]
theorem addr3_append : Bytes.addr3 (h.bytes ++ rest) = h.addr3 := by
  have place : (le16 h.fc ++ le16 h.duration ++ h.addr1 ++ h.addr2).length = 16 := by
    simp [le16, h.length_addr1, h.length_addr2]
  have read := slice_middle _ h.addr3 (le16 h.seqCtrl ++ rest) place h.length_addr3
  simpa only [Bytes.addr3, bytes, List.append_assoc] using read

@[simp]
theorem drop_append (skipped : Nat) :
    (h.bytes ++ rest).drop (24 + skipped) = rest.drop skipped := by
  rw [← h.length_bytes, List.drop_length_add_append]

end MacHeader

end AirportRtw88
