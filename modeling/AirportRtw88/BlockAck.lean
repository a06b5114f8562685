import AirportRtw88.System

/-!
# BlockAck agreements for received frames

An ADDBA request makes the class install a reorder buffer and answer with the parameters
of the agreement.  The two are computed apart; the file says for which requests they are
the same.
-/

namespace AirportRtw88

open Interleave Bytes

/-- An ADDBA request, from its category on. -/
structure AddbaRequest where
  tid : Nat
  bufferSize : Nat
  ssn : Nat
  deriving DecidableEq

/-- The fields of an ADDBA request. -/
def readAddbaRequest (b : Bytes) : Option AddbaRequest :=
  if b.byte 1 = 0 ∧ 9 ≤ b.length then
    some ⟨b.le16At 3 / 4 % 16, b.le16At 3 / 64, b.le16At 7 / 16⟩
  else none

/-- The nine bytes of an ADDBA response, which end its frame. -/
def addbaResponseBody (frame : Bytes) : Bytes :=
  frame.drop (frame.length - 9)

/-- A response that accepts a request. -/
def acceptsAddba (frame : Bytes) : Bool :=
  (addbaResponseBody frame).byte 1 = 1 ∧ (addbaResponseBody frame).le16At 3 = 0

/-- The agreement that a response announces is that of an installed reorder buffer, which
starts where the request asked for. -/
def Installed (table : RxBaTable Skb) (request : AddbaRequest) (frame : Bytes) : Prop :=
  ∃ tid : Fin kRxBaNumTid, ∃ reorder, table tid = some reorder ∧ reorder.active = true ∧
    tid.val = request.tid ∧
    (addbaResponseBody frame).le16At 5 / 4 % 16 = tid.val ∧
    (addbaResponseBody frame).le16At 5 / 64 = reorder.bufSize ∧
    reorder.headSn = request.ssn % 4096

/-- Every response that accepts the request announces an installed buffer, when the
allocation of the buffer ends in `allocation`. -/
def AcceptsTruthfully (s : Ieee80211) (b : Bytes) (allocation : Answer) : Prop :=
  ∀ answers, ∀ entry ∈ ((M.handleBackAction b).run s (allocation :: answers)).issued,
    ∀ skb, entry.request = .tx .blockAck skb → acceptsAddba skb.data = true →
      ∃ request, readAddbaRequest b = some request ∧
        Installed entry.state.rxBa request skb.data

/-- The buffer size of a request, as far as a buffer can hold it. -/
def AddbaRequest.granted (request : AddbaRequest) : Nat :=
  if request.bufferSize = 0 ∨ request.bufferSize > kRxBaMaxBuf then kRxBaMaxBuf
  else request.bufferSize

/-- The table after a request. -/
def answeredTable (s : Ieee80211) (request : AddbaRequest) (allocation : Answer) :
    RxBaTable Skb :=
  (rxBaSetup s.rxBa request.tid request.ssn request.bufferSize (allocation.code = 0)).table

/-- The response to a request. -/
def addbaResponse (s : Ieee80211) (b : Bytes) (request : AddbaRequest) : Bytes :=
  s.mgmtHeader stypeAction ++ ([3, 1, UInt8.ofNat (b.byte 2).toNat, 0, 0] ++
    le16 ((b.le16At 3 &&& 1) ||| s.baParam request.tid) ++ le16 (b.le16At 5))

namespace M

/-- What is transmitted for a request. -/
theorem issued_of_request (s : Ieee80211) {b : Bytes} {request : AddbaRequest}
    (reads : readAddbaRequest b = some request) (allocation : Answer) (answers : List Answer) :
    ((handleBackAction b).run s (allocation :: answers)).issued.map
        (fun entry => (entry.request, entry.state.rxBa)) =
      if s.hasOp Ops.tx = true ∧ (answers.headD default).code = 0 then
        [(.tx .blockAck
            { data := addbaResponse s b request, protocol := 0, queueMapping := 0,
              flags := txCtlFirstFragment ||| txCtlNoAck, band := 0, hasSta := false,
              hwKey := none },
          answeredTable s request allocation)]
      else [] := by
  have parts : b.byte 1 = 0 ∧ 9 ≤ b.length ∧
      request = ⟨b.le16At 3 / 4 % 16, b.le16At 3 / 64, b.le16At 7 / 16⟩ := by
    unfold readAddbaRequest at reads
    split at reads <;> simp_all
  obtain ⟨kind, long, rfl⟩ := parts
  have operations : ∀ outcome : RxBaOutcome Skb,
      (s.leaveRxBa outcome).bumpTxSeq.hasOp Ops.tx = s.hasOp Ops.tx := fun _ => rfl
  have unchanged : ∀ outcome : RxBaOutcome Skb,
      (s.leaveRxBa outcome).mgmtHeader stypeAction = s.mgmtHeader stypeAction ∧
        (s.leaveRxBa outcome).baParam (b.le16At 3 / 4 % 16) = s.baParam (b.le16At 3 / 4 % 16) ∧
        (s.leaveRxBa outcome).rxBa = outcome.table := fun _ => ⟨rfl, rfl, rfl⟩
  have recorded : ∀ (t : Ieee80211) skb, (t.bumpTxSeq.recordTx skb).rxBa = t.rxBa :=
    fun _ _ => rfl
  by_cases op : s.hasOp Ops.tx = true <;> by_cases built : (answers.head?.getD default).code = 0 <;>
    simp [handleBackAction, kind, long, Prog.when, succeeds, Prog.choose, Prog.update,
      Prog.bind, Prog.run, sendAddbaResponse, Prog.fetch, txMgmtFrame, submit, perform,
      Prog.await, operations, unchanged, recorded, op, built, addbaResponse, answeredTable]

/-- Without a request nothing is transmitted. -/
theorem issued_of_no_request (s : Ieee80211) {b : Bytes} (reads : readAddbaRequest b = none)
    (answers : List Answer) : ((handleBackAction b).run s answers).issued = [] := by
  have other : b.byte 1 = 0 → ¬ 9 ≤ b.length := by
    simpa [readAddbaRequest] using reads
  have silent : (handleBackAction b).Ensures (fun _ _ => False) s fun _ _ => True := by
    simp only [handleBackAction, Prog.bind_eq_bind, Prog.ensures_bind, Prog.ensures_ite,
      Prog.ensures_when, Prog.ensures_update]
    refine ⟨fun kind => ⟨fun long => absurd (by simpa using long) (other kind), fun _ => trivial⟩,
      fun _ => ?_⟩
    simp
  exact List.eq_nil_iff_forall_not_mem.mpr fun entry member =>
    (silent.run answers).1 entry member

end M
/-- The parameter set of a response, field by field. -/
theorem addbaParam_eq (s : Ieee80211) (param tid : Nat) :
    (param &&& 1) ||| s.baParam tid =
      param % 2 + 2 + 4 * (tid % 16) + 64 * (s.baBufSize % 1024) := by
  have bits : ∀ low high width : Nat, low < 2 ^ width →
      low ||| high <<< width = low + 2 ^ width * high := by
    intro low high width small
    rw [Nat.or_comm, ← Nat.shiftLeft_add_eq_or_of_lt small, Nat.shiftLeft_eq,
      Nat.mul_comm, Nat.add_comm]
  have flags : (param &&& 1) ||| 2 = param % 2 + 2 := by
    rcases Nat.mod_two_eq_zero_or_one param with even | odd <;>
      simp [Nat.and_one_is_mod, *]
  have tidField : tid &&& 0xf = tid % 16 := Nat.and_two_pow_sub_one_eq_mod tid 4
  have sizeField : s.baBufSize &&& 0x3ff = s.baBufSize % 1024 :=
    Nat.and_two_pow_sub_one_eq_mod s.baBufSize 10
  have param : (param &&& 1) ||| s.baParam tid =
      param % 2 + 2 + 2 ^ 2 * (tid % 16) + 2 ^ 6 * (s.baBufSize % 1024) := by
    rw [Ieee80211.baParam, tidField, sizeField, ← Nat.or_assoc, ← Nat.or_assoc, flags,
      bits _ _ 2 (by omega), bits _ _ 6 (by omega)]
  exact param

theorem readAddbaRequest_tid {b : Bytes} {request : AddbaRequest}
    (reads : readAddbaRequest b = some request) : request.tid < 16 := by
  unfold readAddbaRequest at reads
  split at reads
  · cases reads
    exact Nat.mod_lt _ (by decide)
  · simp at reads

/-- What a response says about the agreement. -/
theorem addbaResponse_fields (s : Ieee80211) {b : Bytes} {request : AddbaRequest}
    (reads : readAddbaRequest b = some request) :
    acceptsAddba (addbaResponse s b request) = true ∧
      (addbaResponseBody (addbaResponse s b request)).le16At 5 / 4 % 16 = request.tid ∧
      (addbaResponseBody (addbaResponse s b request)).le16At 5 / 64 = s.baBufSize % 1024 := by
  have tid := readAddbaRequest_tid reads
  have body : addbaResponseBody (addbaResponse s b request) =
      [3, 1, UInt8.ofNat (b.byte 2).toNat, 0, 0] ++
        (le16 ((b.le16At 3 &&& 1) ||| s.baParam request.tid) ++ le16 (b.le16At 5)) := by
    simp [addbaResponseBody, addbaResponse, le16]
  have param := le16At_le16 [3, 1, UInt8.ofNat (b.byte 2).toNat, 0, 0] (le16 (b.le16At 5))
    ((b.le16At 3 &&& 1) ||| s.baParam request.tid) (by rw [addbaParam_eq]; omega)
  refine ⟨by simp [acceptsAddba, body, le16At, byte], ?_, ?_⟩
  · rw [body]
    refine (congrArg (· / 4 % 16) param).trans ?_
    rw [addbaParam_eq]
    omega
  · rw [body]
    refine (congrArg (· / 64) param).trans ?_
    rw [addbaParam_eq]
    omega

/-- A request whose agreement the class can announce as it installs it: of a TID with a
buffer, or with memory for one, and for a window of the size it always announces. -/
def Agreeable (s : Ieee80211) (request : AddbaRequest) (allocation : Answer) : Prop :=
  ∃ tid : Fin kRxBaNumTid, tid.val = request.tid ∧
    ((s.rxBa tid).isSome ∨ allocation.code = 0) ∧ request.granted = s.baBufSize % 1024

theorem answeredTable_eq (s : Ieee80211) {request : AddbaRequest} (allocation : Answer)
    {tid : Fin kRxBaNumTid} (same : tid.val = request.tid) :
    answeredTable s request allocation tid =
      if (s.rxBa tid).isSome ∨ allocation.code = 0 then
        some (RxReorder.fresh request.ssn request.bufferSize)
      else none := by
  have inside : request.tid < kRxBaNumTid := same ▸ tid.isLt
  have slot : (⟨request.tid, inside⟩ : Fin kRxBaNumTid) = tid := Fin.ext same.symm
  rw [answeredTable, rxBaSetup, dif_pos inside]
  simp only [slot]
  cases present : s.rxBa tid with
  | some reorder => simp
  | none => by_cases allocated : allocation.code = 0 <;> simp [allocated, present]

theorem installed_iff (s : Ieee80211) {b : Bytes} {request : AddbaRequest}
    (reads : readAddbaRequest b = some request) (allocation : Answer) :
    Installed (answeredTable s request allocation) request (addbaResponse s b request) ↔
      Agreeable s request allocation := by
  obtain ⟨-, tidField, sizeField⟩ := addbaResponse_fields s reads
  constructor
  · rintro ⟨tid, reorder, present, -, same, -, size, -⟩
    rw [answeredTable_eq s allocation same] at present
    split at present
    · cases present
      exact ⟨tid, same, ‹_›, size.symm.trans sizeField⟩
    · simp at present
  · rintro ⟨tid, same, installs, size⟩
    refine ⟨tid, RxReorder.fresh request.ssn request.bufferSize, ?_, rfl, same,
      tidField.trans same.symm, sizeField.trans size.symm, rfl⟩
    rw [answeredTable_eq s allocation same, if_pos installs]

/-- A request that is accepted truthfully is one whose agreement can be announced. -/
theorem agreeable_of_truthful {s : Ieee80211} {b : Bytes} {request : AddbaRequest}
    {allocation : Answer} (reads : readAddbaRequest b = some request)
    (op : s.hasOp Ops.tx = true) (truthful : AcceptsTruthfully s b allocation) :
    Agreeable s request allocation := by
  have issued := M.issued_of_request s reads allocation []
  rw [if_pos ⟨op, rfl⟩] at issued
  obtain ⟨entry, member, sent⟩ := List.map_eq_singleton_iff.mp issued
  obtain ⟨sent, table⟩ := Prod.mk.inj sent
  obtain ⟨_, same, installed⟩ := truthful [] entry (by simp [member]) _ sent
    (addbaResponse_fields s reads).1
  rw [reads] at same
  cases same
  rw [table] at installed
  exact (installed_iff s reads allocation).mp installed

/-- Every request that is accepted in `CONNECTED` gets the agreement that its response
announces. -/
def AddbaAgreement : Prop :=
  ∀ config : DriverConfig, rtw88.Reachable Ieee80211.initial config →
    config.state.state = .connected →
    ∀ b allocation, AcceptsTruthfully config.state b allocation

/-- A request is accepted truthfully exactly if its agreement can be announced. -/
theorem acceptsTruthfully_iff (s : Ieee80211) (b : Bytes) (allocation : Answer) :
    AcceptsTruthfully s b allocation ↔
      ∀ request, readAddbaRequest b = some request → s.hasOp Ops.tx = true →
        Agreeable s request allocation := by
  cases reads : readAddbaRequest b with
  | none =>
      refine ⟨fun _ => nofun, fun _ answers entry member => ?_⟩
      rw [M.issued_of_no_request s reads] at member
      simp at member
  | some request =>
      refine ⟨fun truthful other same op => ?_, fun agreeable answers entry member skb sent _ => ?_⟩
      · cases same
        exact agreeable_of_truthful reads op truthful
      · have issued := List.mem_map_of_mem (f := fun entry => (entry.request, entry.state.rxBa))
          member
        rw [M.issued_of_request s reads] at issued
        split at issued
        · obtain ⟨same, table⟩ := Prod.mk.inj (List.mem_singleton.mp issued)
          rw [sent] at same
          cases same
          refine ⟨request, reads, ?_⟩
          rw [table]
          exact (installed_iff s reads allocation).mpr (agreeable request rfl (by tauto))
        · simp at issued

namespace Scenario

/-- A request for TID 0 and a window of 32 frames. -/
def smallWindow : Bytes :=
  [3, 0, 1] ++ le16 (2 + 32 * 64) ++ [0, 0] ++ [0, 0]

def connectedOpen : Option Bool := do
  let config ← play (attempt ++ associate)
  return config.state.state = .connected && config.state.hasOp Ops.tx &&
    config.state.baBufSize = 64

theorem connectedOpen_true : connectedOpen = some true := by
  decide +kernel

end Scenario

theorem not_addbaAgreement : ¬ AddbaAgreement := by
  intro agreement
  have run := Scenario.connectedOpen_true
  simp only [Scenario.connectedOpen, Option.bind_eq_bind, Option.bind_eq_some_iff,
    Option.pure_def, Option.some.injEq, Bool.and_eq_true, decide_eq_true_eq] at run
  obtain ⟨config, played, ⟨connected, op⟩, size⟩ := run
  have truthful := agreement config (Scenario.reachable_of_play played) connected
    Scenario.smallWindow default
  have reads : readAddbaRequest Scenario.smallWindow = some ⟨0, 32, 0⟩ := by decide
  obtain ⟨tid, -, -, granted⟩ := agreeable_of_truthful reads op truthful
  simp [AddbaRequest.granted, kRxBaMaxBuf, size] at granted

end AirportRtw88
