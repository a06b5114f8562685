import AirportRtw88.Queue.Ring
import AirportRtw88.Bytes

/-!
# The log ring

Every message the driver prints is kept in a ring of 8192 bytes, from which the control tool
fetches the log.  This file proves that the ring is a bounded tape: reads return the appended
stream in order, and only the oldest of more than 8191 unread bytes are ever lost.
-/

namespace AirportRtw88

open Queue

/-- The static variables of the log; `lock` tells whether `rtw88_log_lock` is allocated. -/
structure Log where
  lock : Bool
  ring : Ring UInt8 8192

/-- The log after `rtw88_compat_init`, which allocates the lock before anything is printed. -/
def Log.initialized : Log where
  lock := true
  ring := { cells := .replicate 8192 0, head := 0, tail := 0 }

/-- The loop of `rtw88_log_append` over the message, up to its NUL. -/
def logAppendLoop : Bytes → Ring UInt8 8192 → Ring UInt8 8192
  | [], ring => ring
  | char :: msg, ring => if char = 0 then ring else logAppendLoop msg (ring.put char)

def logAppend (msg : Bytes) (log : Log) : Log :=
  if !log.lock then log else { log with ring := logAppendLoop msg log.ring }

/-- `rtw88_read_log`; `outBuf` tells whether the buffer is there. -/
def readLog (outBuf : Bool) (maxLen : Nat) (log : Log) : Bytes × Log :=
  if !outBuf || maxLen == 0 || !log.lock then ([], log)
  else
    let (bytes, ring) := log.ring.takeUpTo maxLen
    (bytes, { log with ring := ring })

/-- A call into the log.  Each runs under the lock. -/
inductive LogCall where
  | append (msg : Bytes)
  | read (outBuf : Bool) (maxLen : Nat)

/-- What the reads of a list of calls return, and the log after it. -/
def Log.play : List LogCall → Log → List Bytes × Log
  | [], log => ([], log)
  | .append msg :: rest, log => play rest (logAppend msg log)
  | .read outBuf maxLen :: rest, log =>
      let (bytes, log) := readLog outBuf maxLen log
      let (outputs, last) := play rest log
      (bytes :: outputs, last)

/-- How many bytes a read has room for. -/
def capacity (outBuf : Bool) (maxLen : Nat) : Nat :=
  if outBuf then maxLen else 0

/-- A call as a use of the tape of all messages. -/
def LogCall.onTape : LogCall → Call UInt8
  | append msg => .write msg.cString
  | read outBuf maxLen => .read (capacity outBuf maxLen)

/-- The tape of all messages after some calls. -/
def messages (calls : List LogCall) : Tape UInt8 :=
  (Tape.play 8191 (calls.map LogCall.onTape) .blank).2

/-- The ring of a log holds the unread part of a tape. -/
structure Log.Shows (log : Log) (tape : Tape UInt8) : Prop where
  locked : log.lock = true
  held : log.ring.Holds tape.unread

theorem Log.shows_initialized : Log.initialized.Shows .blank where
  locked := rfl
  held := .of_empty rfl

theorem logAppendLoop_eq (msg : Bytes) (ring : Ring UInt8 8192) :
    logAppendLoop msg ring = ring.putAll msg.cString := by
  induction msg generalizing ring with
  | nil => rfl
  | cons char msg ih =>
      by_cases ends : char = 0
      · simp [logAppendLoop, Bytes.cString, ends, Ring.putAll]
      · simp only [logAppendLoop, if_neg ends, ih]
        simp [Bytes.cString, ends, Ring.putAll]

variable {log : Log} {tape : Tape UInt8}

theorem Log.Shows.append (shown : log.Shows tape) (msg : Bytes) :
    (logAppend msg log).Shows (tape.write 8191 msg.cString) := by
  have appended : logAppend msg log = { log with ring := log.ring.putAll msg.cString } := by
    simp [logAppend, shown.locked, logAppendLoop_eq]
  rw [appended]
  constructor
  · exact shown.locked
  · rw [Tape.unread_write]
    exact shown.held.putAll msg.cString

theorem Log.Shows.read (shown : log.Shows tape) (outBuf : Bool) (maxLen : Nat) :
    (readLog outBuf maxLen log).1 = tape.unread.take (capacity outBuf maxLen) ∧
      (readLog outBuf maxLen log).2.Shows (tape.advance (capacity outBuf maxLen)) := by
  have taken : readLog outBuf maxLen log =
      ((log.ring.takeUpTo (capacity outBuf maxLen)).1,
        { log with ring := (log.ring.takeUpTo (capacity outBuf maxLen)).2 }) := by
    cases outBuf with
    | false => rfl
    | true =>
        cases maxLen with
        | zero => rfl
        | succ maxLen => simp [readLog, shown.locked, capacity]
  obtain ⟨outputs, left⟩ := shown.held.takeUpTo (capacity outBuf maxLen)
  rw [taken]
  refine ⟨outputs, shown.locked, ?_⟩
  rw [Tape.unread_advance]
  exact left

/-- The log refines the tape. -/
theorem Log.Shows.play (shown : log.Shows tape) (calls : List LogCall) :
    (log.play calls).1 = (Tape.play 8191 (calls.map LogCall.onTape) tape).1 ∧
      (log.play calls).2.Shows (Tape.play 8191 (calls.map LogCall.onTape) tape).2 := by
  induction calls generalizing log tape with
  | nil => exact ⟨rfl, shown⟩
  | cons call calls ih =>
      cases call with
      | append msg => exact ih (shown.append msg)
      | read outBuf maxLen =>
          obtain ⟨outputs, later⟩ := shown.read outBuf maxLen
          obtain ⟨rest, last⟩ := ih later
          exact ⟨congrArg₂ List.cons outputs rest, last⟩

theorem log_shows_messages (calls : List LogCall) :
    (Log.initialized.play calls).2.Shows (messages calls) :=
  (Log.shows_initialized.play calls).2

theorem written_messages (calls : List LogCall) :
    (messages calls).written = Call.writes (calls.map LogCall.onTape) := by
  rw [messages, Tape.written_play]
  rfl

theorem messages_snoc (calls : List LogCall) (call : LogCall) :
    messages (calls ++ [call]) =
      (Tape.play 8191 [call.onTape] (messages calls)).2 := by
  rw [messages, List.map_append, Tape.play_append]
  rfl

/-- After any calls, a read returns the unread bytes of the appended stream from the first one
on, as many as it has room for; the stream only loses its oldest unread bytes to an append that
leaves more than 8191 of them; and all later reads together return a subsequence of what is
unread or appended later. -/
theorem readLog_stream (calls later : List LogCall) (outBuf : Bool) (maxLen : Nat) (msg : Bytes) :
    let log := (Log.initialized.play calls).2
    let stream := Call.writes (calls.map LogCall.onTape)
    let next := (messages calls).next
    let unread := stream.drop next
    let returned := (readLog outBuf maxLen log).1
    unread.length ≤ 8191 ∧
      returned = unread.take (capacity outBuf maxLen) ∧
      returned.length = min (capacity outBuf maxLen) unread.length ∧
      (messages (calls ++ [.read outBuf maxLen])).next = next + returned.length ∧
      (unread.length + msg.cString.length ≤ 8191 →
        (messages (calls ++ [.append msg])).next = next) ∧
      (8191 < unread.length + msg.cString.length →
        (messages (calls ++ [.append msg])).next + 8191 = (stream ++ msg.cString).length) ∧
      (log.play later).1.flatten.Sublist
        (unread ++ Call.writes (later.map LogCall.onTape)) := by
  intro log stream next unread returned
  have shown : log.Shows (messages calls) := log_shows_messages calls
  have written : (messages calls).written = stream := written_messages calls
  have left : (messages calls).unread = unread := by
    rw [Tape.unread, written]
  have first : returned = unread.take (capacity outBuf maxLen) := by
    rw [← left]
    exact (shown.read outBuf maxLen).1
  have count : returned.length = min (capacity outBuf maxLen) unread.length := by
    rw [first, List.length_take]
  refine ⟨?_, first, count, ?_, ?_, ?_, ?_⟩
  · have small := shown.held.fits
    rw [left] at small
    omega
  · rw [messages_snoc, count, ← left]
    rfl
  · intro fits
    rw [← left] at fits
    rw [messages_snoc]
    exact Tape.next_write_of_fits 8191 (messages calls) msg.cString fits
  · intro exceeds
    rw [← left] at exceeds
    rw [messages_snoc, ← written]
    exact Tape.next_write_of_exceeds 8191 (messages calls) msg.cString exceeds
  · rw [(shown.play later).1, ← left]
    exact Tape.flatten_play_sublist 8191 (messages calls) (later.map LogCall.onTape)

end AirportRtw88
