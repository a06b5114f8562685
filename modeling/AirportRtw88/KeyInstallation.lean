import AirportRtw88.Interleave.Attended
import AirportRtw88.ReplayCounters

/-!
# Key installation

`installKey` takes the old key out of the driver and of its slot before it knows that the new one
can be installed, and an M3 installs two keys.  The file runs them with the keys of the driver and
proves exactly when they are all or nothing.
-/

namespace AirportRtw88

open Interleave Bytes

/-- The pairwise and the group key that the driver has, and what `SET_KEY` installed. -/
structure DriverKeys where
  keys : Bool → Option KeyConf
  sets : List (Bool × KeyConf)

namespace DriverKeys

def set (driver : DriverKeys) (pairwise : Bool) (key : KeyConf) : DriverKeys where
  keys := Function.update driver.keys pairwise (some key)
  sets := (pairwise, key) :: driver.sets

def disable (driver : DriverKeys) (pairwise : Bool) : DriverKeys :=
  { driver with keys := Function.update driver.keys pairwise none }

/-- `ops->set_key` in the driver: a `SET_KEY` that fails changes nothing. -/
def respond : Call → Answer → DriverKeys → DriverKeys
  | .setKey _ true pairwise key, answer, driver =>
      if answer.code = 0 then driver.set pairwise key else driver
  | .setKey _ false pairwise _, _, driver => driver.disable pairwise
  | _, _, driver => driver

/-- What was installed stays recorded. -/
theorem sets_subset_respond (call : Call) (answer : Answer) (driver : DriverKeys) :
    driver.sets ⊆ (respond call answer driver).sets := by
  unfold respond
  split
  · split
    · exact List.subset_cons_self _ _
    · exact List.Subset.refl _
  · exact List.Subset.refl _
  · exact List.Subset.refl _

end DriverKeys

/-- A run together with the driver's keys. -/
abbrev M.keyRun {α : Type} (program : M α) (s : Ieee80211) (driver : DriverKeys)
    (answers : List Answer) : Attended Ieee80211 Answer DriverKeys α :=
  program.attended DriverKeys.respond s driver answers

theorem M.sets_subset_keyRun {α : Type} (program : M α) (s : Ieee80211) (driver : DriverKeys)
    (answers : List Answer) : driver.sets ⊆ (program.keyRun s driver answers).world.sets := by
  apply Prog.attended_keeps DriverKeys.respond fun before after => before.sets ⊆ after.sets
  · intro driver
    exact List.Subset.refl driver.sets
  · exact List.Subset.trans
  · exact DriverKeys.sets_subset_respond

namespace Ieee80211

/-- `installKey` gets past its checks. -/
def acceptsKey (s : Ieee80211) (cipher tkLen : Nat) : Bool :=
  s.hasOp Ops.setKey && M.keyAccepted cipher tkLen

/-- The slot and the driver without the old key. -/
def vacated (s : Ieee80211) (pairwise : Bool) : Ieee80211 :=
  if (s.keySlot pairwise).isSome then s.setKeySlot pairwise none else s

/-- The answers that are left after the old key was disabled. -/
def laterAnswers (s : Ieee80211) (pairwise : Bool) (answers : List Answer) : List Answer :=
  if (s.keySlot pairwise).isSome then answers.tail else answers

/-- The allocation and `SET_KEY` of the new key succeed. -/
def keyFits (s : Ieee80211) (pairwise : Bool) (answers : List Answer) : Bool :=
  ((s.laterAnswers pairwise answers).headD default).code = 0 ∧
    ((s.laterAnswers pairwise answers).tail.headD default).code = 0

/-- The key that `installKey` makes. -/
def newKey (s : Ieee80211) (pairwise : Bool) (keyidx : UInt8) (cipher : Nat)
    (tk : Ieee80211 → Bytes) (tkLen : Nat) : KeyConf where
  cipher := cipher
  keyidx := keyidx
  pairwise := pairwise
  ivLen := 8
  icvLen := if cipher = cipherTkip then 4 else 8
  key := (tk (s.vacated pairwise)).take tkLen

end Ieee80211

/-- The driver without the old key. -/
def DriverKeys.vacated (driver : DriverKeys) (s : Ieee80211) (pairwise : Bool) : DriverKeys :=
  if (s.keySlot pairwise).isSome then driver.disable pairwise else driver

namespace M

variable (pairwise : Bool) (keyidx : UInt8) (cipher : Nat) (tk : Ieee80211 → Bytes) (tkLen : Nat)
  (s : Ieee80211) (driver : DriverKeys) (answers : List Answer)

/-- `installKey` from the allocation of the new key on. -/
def placeKey : M Bool := do
  if !(← succeeds) then
    return false
  else
    let s ← Prog.fetch
    let key : KeyConf :=
      { cipher, keyidx, pairwise, ivLen := 8,
        icvLen := if cipher = cipherTkip then 4 else 8,
        key := (tk s).take tkLen }
    let answer ← Prog.await (.setKey .installKey true pairwise key)
    if answer.code ≠ 0 then
      return false
    else
      Prog.update fun s => (s.setKeySlot pairwise (some key)).resetTxPn pairwise
      return true

theorem keyRun_placeKey :
    (placeKey pairwise keyidx cipher tk tkLen).keyRun s driver answers =
      let key : KeyConf :=
        { cipher, keyidx, pairwise, ivLen := 8,
          icvLen := if cipher = cipherTkip then 4 else 8,
          key := (tk s).take tkLen }
      if (answers.headD default).code ≠ 0 then ⟨s, driver, false, answers.tail⟩
      else if (answers.tail.headD default).code ≠ 0 then ⟨s, driver, false, answers.tail.tail⟩
      else ⟨(s.setKeySlot pairwise (some key)).resetTxPn pairwise, driver.set pairwise key, true,
        answers.tail.tail⟩ := by
  unfold keyRun placeKey
  by_cases allocated : (answers.headD default).code = 0
  · by_cases set : (answers.tail.headD default).code = 0
    · simp only [succeeds, Prog.choose, Prog.fetch, Prog.await, Prog.update, Prog.bind_eq_bind,
        Prog.pure_eq_ret, Prog.bind, Prog.attended, allocated, set, DriverKeys.respond,
        decide_true, Bool.not_true, Bool.false_eq_true, if_false, ne_eq, not_true_eq_false, if_true]
    · simp only [succeeds, Prog.choose, Prog.fetch, Prog.await, Prog.bind_eq_bind,
        Prog.pure_eq_ret, Prog.bind, Prog.attended, allocated, set, DriverKeys.respond,
        decide_true, Bool.not_true, Bool.false_eq_true, if_false, ne_eq, not_true_eq_false,
        not_false_eq_true, if_true]
  · simp only [succeeds, Prog.choose, Prog.bind_eq_bind, Prog.pure_eq_ret, Prog.bind,
      Prog.attended, allocated, decide_false, Bool.not_false, if_true, ne_eq, not_false_eq_true]

/-- What `installKey` does, left alone. -/
theorem keyRun_installKey :
    (installKey pairwise keyidx cipher tk tkLen).keyRun s driver answers =
      if s.acceptsKey cipher tkLen then
        (placeKey pairwise keyidx cipher tk tkLen).keyRun (s.vacated pairwise)
          (driver.vacated s pairwise) (s.laterAnswers pairwise answers)
      else ⟨s, driver, false, answers⟩ := by
  have checks : (!s.hasOp Ops.setKey || !keyAccepted cipher tkLen) =
      !(s.acceptsKey cipher tkLen) := by
    rw [Ieee80211.acceptsKey, Bool.not_and]
  unfold keyRun
  rw [installKey, Prog.bind_eq_bind, Prog.fetch, Prog.bind, Prog.attended, Prog.bind, checks]
  cases s.acceptsKey cipher tkLen with
  | false => rfl
  | true =>
      rw [Ieee80211.vacated, DriverKeys.vacated, Ieee80211.laterAnswers]
      cases slot : s.keySlot pairwise with
      | none => rfl
      | some old => rfl

end M

/-- Either a key is installed in its slot and in the driver, or they are as before. -/
def AllOrNothing (s : Ieee80211) (driver : DriverKeys) (pairwise : Bool) (key : KeyConf)
    (succeeded : Bool) (s' : Ieee80211) (driver' : DriverKeys) : Prop :=
  if succeeded then s'.keySlot pairwise = some key ∧ driver'.keys pairwise = some key
  else s'.keySlot pairwise = s.keySlot pairwise ∧ driver'.keys = driver.keys ∧
    s'.ccmpTxPn = s.ccmpTxPn

section

variable (s : Ieee80211) (driver : DriverKeys) (pairwise : Bool)

@[simp]
theorem Ieee80211.keySlot_setKeySlot (key : Option KeyConf) :
    (s.setKeySlot pairwise key).keySlot pairwise = key := by
  cases pairwise <;> rfl

@[simp]
theorem Ieee80211.keySlot_resetTxPn (reset : Bool) :
    (s.resetTxPn reset).keySlot pairwise = s.keySlot pairwise :=
  rfl

theorem Ieee80211.keySlot_vacated : (s.vacated pairwise).keySlot pairwise = none := by
  rw [vacated]
  cases slot : s.keySlot pairwise with
  | none => exact slot
  | some old => exact keySlot_setKeySlot s pairwise none

@[simp]
theorem DriverKeys.keys_set (key : KeyConf) : (driver.set pairwise key).keys pairwise = some key :=
  Function.update_self _ _ _

theorem Ieee80211.vacated_of_none {s : Ieee80211} {pairwise : Bool}
    (empty : s.keySlot pairwise = none) : s.vacated pairwise = s := by
  simp [vacated, empty]

theorem DriverKeys.vacated_of_none {s : Ieee80211} {pairwise : Bool}
    (empty : s.keySlot pairwise = none) : driver.vacated s pairwise = driver := by
  simp [vacated, empty]

end

section

variable (pairwise : Bool) (keyidx : UInt8) (cipher : Nat) (tk : Ieee80211 → Bytes) (tkLen : Nat)
  (s : Ieee80211) (driver : DriverKeys) (answers : List Answer)

/-- `installKey` ends in one of three ways: refused, installed, or with an empty slot. -/
theorem M.keyRun_installKey_cases :
    let run := (M.installKey pairwise keyidx cipher tk tkLen).keyRun s driver answers
    if s.acceptsKey cipher tkLen = false then
      run.value = false ∧ run.state = s ∧ run.world = driver
    else if s.keyFits pairwise answers then
      run.value = true ∧
        run.state = ((s.vacated pairwise).setKeySlot pairwise
          (some (s.newKey pairwise keyidx cipher tk tkLen))).resetTxPn pairwise ∧
        run.world = (driver.vacated s pairwise).set pairwise
          (s.newKey pairwise keyidx cipher tk tkLen) ∧
        run.answers = (s.laterAnswers pairwise answers).tail.tail
    else
      run.value = false ∧ run.state = s.vacated pairwise ∧
        run.world = driver.vacated s pairwise := by
  intro run
  have run_eq : run = _ := M.keyRun_installKey pairwise keyidx cipher tk tkLen s driver answers
  cases accepted : s.acceptsKey cipher tkLen with
  | false =>
      rw [accepted] at run_eq
      simp [run_eq]
  | true =>
      rw [accepted, if_pos rfl, M.keyRun_placeKey] at run_eq
      rw [if_neg (by decide)]
      by_cases allocated : ((s.laterAnswers pairwise answers).headD default).code = 0
      · by_cases set : ((s.laterAnswers pairwise answers).tail.headD default).code = 0
        · have fits : s.keyFits pairwise answers = true := decide_eq_true ⟨allocated, set⟩
          simp only [allocated, set, ne_eq, not_true_eq_false, if_false] at run_eq
          rw [if_pos fits, run_eq]
          exact ⟨rfl, rfl, rfl, rfl⟩
        · have misfit : ¬ s.keyFits pairwise answers = true := by
            intro fits
            exact set (of_decide_eq_true fits).2
          simp only [allocated, set, ne_eq, not_true_eq_false, if_false, not_false_eq_true,
            if_true] at run_eq
          rw [if_neg misfit, run_eq]
          exact ⟨rfl, rfl, rfl⟩
      · have misfit : ¬ s.keyFits pairwise answers = true := by
          intro fits
          exact allocated (of_decide_eq_true fits).1
        simp only [allocated, ne_eq, not_false_eq_true, if_true] at run_eq
        rw [if_neg misfit, run_eq]
        exact ⟨rfl, rfl, rfl⟩

/-- Key installation is all or nothing unless it fails with an old key in the slot. -/
theorem installKey_allOrNothing_iff :
    let run := (M.installKey pairwise keyidx cipher tk tkLen).keyRun s driver answers
    AllOrNothing s driver pairwise (s.newKey pairwise keyidx cipher tk tkLen) run.value run.state
        run.world ↔
      s.acceptsKey cipher tkLen = false ∨ s.keySlot pairwise = none ∨
        s.keyFits pairwise answers = true := by
  have outcome := M.keyRun_installKey_cases pairwise keyidx cipher tk tkLen s driver answers
  revert outcome
  generalize (M.installKey pairwise keyidx cipher tk tkLen).keyRun s driver answers = run
  intro outcome
  cases accepted : s.acceptsKey cipher tkLen with
  | false =>
      rw [accepted, if_pos rfl] at outcome
      obtain ⟨failed, same, sameDriver⟩ := outcome
      simp [AllOrNothing, failed, same, sameDriver]
  | true =>
      rw [accepted, if_neg (by decide)] at outcome
      cases fits : s.keyFits pairwise answers with
      | true =>
          rw [fits, if_pos rfl] at outcome
          obtain ⟨installed, state, world, -⟩ := outcome
          simp [AllOrNothing, installed, state, world]
      | false =>
          rw [fits, if_neg (by decide)] at outcome
          obtain ⟨failed, state, world⟩ := outcome
          simp only [AllOrNothing, failed, state, world, Bool.false_eq_true, if_false,
            Bool.true_eq_false, false_or, or_false, s.keySlot_vacated]
          constructor
          · rintro ⟨empty, -⟩
            exact empty.symm
          · intro empty
            rw [empty, Ieee80211.vacated_of_none empty, DriverKeys.vacated_of_none driver empty]
            exact ⟨rfl, rfl, rfl⟩

end

/-! ## The external supplicant -/

/-- `cmdInstallExternalKey` gets past its checks. -/
def Ieee80211.admitsExternal (s : Ieee80211) (pairwise : Bool) (key : Option Bytes) : Bool :=
  !(!s.externalSupplicant || !s.wpa2 || decide (s.state ≠ .connected)) &&
    (key.filter fun key => key ≠ []).isSome && !(pairwise && s.sta.isNone)

section

variable (pairwise : Bool) (keyidx : UInt8) (cipher : Nat) (key : Option Bytes)
  (s : Ieee80211) (driver : DriverKeys) (answers : List Answer)

theorem M.keyRun_cmdInstallExternalKey :
    let run := (M.cmdInstallExternalKey pairwise keyidx cipher key).keyRun s driver answers
    if s.admitsExternal pairwise key then
      let install := (M.installKey pairwise keyidx cipher (fun _ => key.getD [])
        (key.getD []).length).keyRun s driver answers
      decide (run.value = .success) = install.value ∧ run.state = install.state ∧
        run.world = install.world
    else run.value ≠ .success ∧ run.state = s ∧ run.world = driver := by
  unfold M.keyRun M.cmdInstallExternalKey Ieee80211.admitsExternal
  simp only [Prog.bind_eq_bind, Prog.fetch, Prog.bind, Prog.attended, Prog.pure_eq_ret]
  cases !s.externalSupplicant || !s.wpa2 || decide (s.state ≠ .connected) with
  | true => exact ⟨by rintro ⟨⟩, rfl, rfl⟩
  | false =>
      cases filtered : key.filter fun key => key ≠ [] with
      | none => exact ⟨by rintro ⟨⟩, rfl, rfl⟩
      | some bytes =>
          obtain ⟨rfl, -⟩ := Option.filter_eq_some_iff.mp filtered
          cases pairwise && s.sta.isNone with
          | true => exact ⟨by rintro ⟨⟩, rfl, rfl⟩
          | false =>
              simp only [Bool.false_eq_true, if_false, Prog.attended_bind, Option.getD_some]
              generalize (M.installKey pairwise keyidx cipher
                (fun _ => bytes) bytes.length).attended
                DriverKeys.respond s driver answers = install
              cases installed : install.value <;> exact ⟨rfl, rfl, rfl⟩

/-- The same condition for the keys of an external supplicant. -/
theorem cmdInstallExternalKey_allOrNothing_iff :
    let run := (M.cmdInstallExternalKey pairwise keyidx cipher key).keyRun s driver answers
    AllOrNothing s driver pairwise
        (s.newKey pairwise keyidx cipher (fun _ => key.getD []) (key.getD []).length)
        (decide (run.value = .success)) run.state run.world ↔
      s.admitsExternal pairwise key = false ∨ s.acceptsKey cipher (key.getD []).length = false ∨
        s.keySlot pairwise = none ∨ s.keyFits pairwise answers = true := by
  intro run
  have outcome := M.keyRun_cmdInstallExternalKey pairwise keyidx cipher key s driver answers
  cases admitted : s.admitsExternal pairwise key with
  | false =>
      rw [admitted, if_neg (by decide)] at outcome
      obtain ⟨failed, same, sameDriver⟩ : run.value ≠ .success ∧ run.state = s ∧
        run.world = driver := outcome
      simp [AllOrNothing, failed, same, sameDriver]
  | true =>
      rw [admitted, if_pos rfl] at outcome
      obtain ⟨value, state, world⟩ := outcome
      rw [show decide (run.value = .success) = _ from value, show run.state = _ from state,
        show run.world = _ from world]
      have inner := installKey_allOrNothing_iff pairwise keyidx cipher (fun _ => key.getD [])
        (key.getD []).length s driver answers
      simpa using inner

end

/-! ## The keys of an M3 -/

namespace Ieee80211

/-- The group key that an M3 carries. -/
def m3Gtk (s : Ieee80211) (data : Bytes) : Option GtkKde :=
  if data.isEapolKey && !data.isM1 && data.isM3 then
    (plainKeyData s.kek data).bind fun keyData =>
      (extractGtkFromKde keyData).filter fun kde => kde.gtk ≠ []
  else none

def groupCipher (s : Ieee80211) : Nat :=
  if s.targetBSS.groupCipher = cipherTkip then cipherTkip else cipherCcmp

/-- `installKey` succeeds. -/
def installs (s : Ieee80211) (pairwise : Bool) (cipher tkLen : Nat) (answers : List Answer) :
    Bool :=
  s.acceptsKey cipher tkLen && s.keyFits pairwise answers

end Ieee80211

/-- An M3 leaves its pairwise key installed although it carries a group key and that was not
installed. -/
def HalfInstalls (s : Ieee80211) (driver : DriverKeys) (data : Bytes) (answers : List Answer) :
    Prop :=
  let run := (M.handleEAPOL data).keyRun s { driver with sets := [] } answers
  (s.m3Gtk data).isSome ∧
    (∃ key, (true, key) ∈ run.world.sets ∧
      (run.state.ptkConf = some key ∨ run.world.keys true = some key)) ∧
    ∀ key, (false, key) ∉ run.world.sets

namespace M

variable {data : Bytes} {answers : List Answer} {s : Ieee80211} {driver : DriverKeys}

theorem keyRun_handleM3_of_rejected (shaped : data.isEapolKey = true)
    (rejected : s.acceptsM3 data answers = false) :
    ((handleM3 data).keyRun s driver answers).world = driver := by
  have long : ¬ data.eapolFrame.length < 99 := not_lt.mpr (Bytes.le_length_eapolFrame shaped)
  have missing := of_decide_eq_false rejected
  rw [List.headD_eq_head?_getD] at missing
  by_cases allocated : (answers.head?.getD default).code = 0 <;>
    cases verified : eapolMicMatches s.kck data.eapolFrame <;>
    by_cases whole : 99 + data.keyDataLen ≤ data.eapolLength <;>
    cases read : plainKeyData s.kek data <;>
    simp [allocated, verified, whole, read, handleM3, eapolMicOk, succeeds, Prog.bind,
      Prog.attended, Prog.fetch, Prog.choose, Prog.when, Prog.whenSome, long, keyRun] at missing ⊢

theorem keyRun_handleM3_of_accepted (driver : DriverKeys) (shaped : data.isEapolKey = true)
    (accepted : s.acceptsM3 data answers = true) :
    ∃ keyData, plainKeyData s.kek data = some keyData ∧
      (handleM3 data).keyRun s driver answers =
        (installHandshakeKeys (extractGtkFromKde keyData)).keyRun (s.acceptM3 data) driver
          answers.tail := by
  have long : ¬ data.eapolFrame.length < 99 := not_lt.mpr (Bytes.le_length_eapolFrame shaped)
  obtain ⟨allocated, verified, whole, read⟩ := of_decide_eq_true accepted
  obtain ⟨keyData, read⟩ := Option.isSome_iff_exists.mp read
  refine ⟨keyData, read, ?_⟩
  rw [List.headD_eq_head?_getD] at allocated
  simp [handleM3, eapolMicOk, succeeds, Prog.bind, Prog.attended, Prog.fetch, Prog.choose,
    Prog.when, Prog.whenSome, Prog.update, long, allocated, verified, whole, read, keyRun]

end M

section

variable (s : Ieee80211) (driver : DriverKeys) (pairwise : Bool) (cipher tkLen : Nat)

@[simp]
theorem DriverKeys.sets_vacated : (driver.vacated s pairwise).sets = driver.sets := by
  rw [vacated]
  split <;> rfl

/-- The other slot is not touched. -/
theorem Ieee80211.keySlot_vacated_not : (s.vacated pairwise).keySlot (!pairwise) =
    s.keySlot (!pairwise) := by
  rw [vacated]
  split
  · cases pairwise <;> rfl
  · rfl

theorem Ieee80211.hasOp_vacated (op : Ops → Bool) : (s.vacated pairwise).hasOp op = s.hasOp op := by
  rw [vacated]
  split <;> rfl

theorem Ieee80211.targetBSS_vacated : (s.vacated pairwise).targetBSS = s.targetBSS := by
  rw [vacated]
  split <;> rfl

/-- Whether a key can be installed depends on the operation and on the slot only. -/
theorem Ieee80211.installs_congr {s s' : Ieee80211} {pairwise : Bool}
    (op : s'.hasOp Ops.setKey = s.hasOp Ops.setKey)
    (slot : s'.keySlot pairwise = s.keySlot pairwise) (cipher tkLen : Nat) (answers : List Answer) :
    s'.installs pairwise cipher tkLen answers = s.installs pairwise cipher tkLen answers := by
  have later : s'.laterAnswers pairwise answers = s.laterAnswers pairwise answers := by
    rw [laterAnswers, laterAnswers, slot]
  rw [installs, installs, acceptsKey, acceptsKey, op, keyFits, keyFits, later]

end

section

variable (pairwise : Bool) (keyidx : UInt8) (cipher : Nat) (tk : Ieee80211 → Bytes) (tkLen : Nat)
  (s : Ieee80211) (driver : DriverKeys) (answers : List Answer)

/-- `installKey` in the terms of its success. -/
theorem M.keyRun_installKey_installs :
    let run := (M.installKey pairwise keyidx cipher tk tkLen).keyRun s driver answers
    if s.installs pairwise cipher tkLen answers then
      run.value = true ∧
        run.state = ((s.vacated pairwise).setKeySlot pairwise
          (some (s.newKey pairwise keyidx cipher tk tkLen))).resetTxPn pairwise ∧
        run.world = (driver.vacated s pairwise).set pairwise
          (s.newKey pairwise keyidx cipher tk tkLen) ∧
        run.answers = (s.laterAnswers pairwise answers).tail.tail
    else
      run.value = false ∧ run.world.sets = driver.sets ∧
        run.state.keySlot (!pairwise) = s.keySlot (!pairwise) := by
  intro run
  have outcome := M.keyRun_installKey_cases pairwise keyidx cipher tk tkLen s driver answers
  rw [Ieee80211.installs]
  cases accepted : s.acceptsKey cipher tkLen with
  | false =>
      rw [accepted, if_pos rfl] at outcome
      obtain ⟨failed, same, sameDriver⟩ : run.value = false ∧ run.state = s ∧ run.world = driver :=
        outcome
      simp [failed, same, sameDriver]
  | true =>
      rw [accepted, if_neg (by decide)] at outcome
      cases fits : s.keyFits pairwise answers with
      | true =>
          rw [fits, if_pos rfl] at outcome
          exact outcome
      | false =>
          rw [fits, if_neg (by decide)] at outcome
          obtain ⟨failed, state, world⟩ : run.value = false ∧ run.state = s.vacated pairwise ∧
            run.world = driver.vacated s pairwise := outcome
          simp [failed, state, world, s.keySlot_vacated_not]

end

namespace M

variable {kde : GtkKde} {gtk : Option GtkKde} (s : Ieee80211) (driver : DriverKeys)
  (answers : List Answer)

/-- Without the pairwise key there is no group key. -/
theorem sets_installHandshakeKeys_of_failed
    (failed : s.installs true cipherCcmp 16 answers = false) :
    ((installHandshakeKeys gtk).keyRun s driver answers).world.sets = driver.sets := by
  have pairwise := keyRun_installKey_installs true 0 cipherCcmp Ieee80211.tk 16 s driver answers
  rw [failed, if_neg (by decide)] at pairwise
  obtain ⟨value, sets, -⟩ := pairwise
  rw [keyRun, installHandshakeKeys, Prog.bind_eq_bind, Prog.attended_bind, value]
  exact sets

/-- The group key is tried once the pairwise key is installed. -/
theorem keyRun_installHandshakeKeys_of_installed
    (installed : s.installs true cipherCcmp 16 answers = true)
    (carried : (gtk.filter fun kde => kde.gtk ≠ []) = some kde) :
    let run := (installHandshakeKeys gtk).keyRun s driver answers
    let key := s.newKey true 0 cipherCcmp Ieee80211.tk 16
    if s.installs false s.groupCipher kde.gtk.length (s.laterAnswers true answers).tail.tail then
      ∃ key, (false, key) ∈ run.world.sets
    else run.world.sets = (true, key) :: driver.sets ∧ run.state.ptkConf = some key := by
  intro run key
  have pairwise := keyRun_installKey_installs true 0 cipherCcmp Ieee80211.tk 16 s driver answers
  rw [installed, if_pos rfl] at pairwise
  obtain ⟨value, state, world, left⟩ := pairwise
  let s' := ((s.vacated true).setKeySlot true (some key)).resetTxPn true
  let driver' := (driver.vacated s true).set true key
  let later := (s.laterAnswers true answers).tail.tail
  have target : s'.targetBSS = s.targetBSS := s.targetBSS_vacated true
  have same : s'.installs false s.groupCipher kde.gtk.length later =
      s.installs false s.groupCipher kde.gtk.length later :=
    Ieee80211.installs_congr (s.hasOp_vacated true _) (s.keySlot_vacated_not true) _ _ _
  have group := keyRun_installKey_installs false (UInt8.ofNat kde.idx) s.groupCipher
    (fun _ => kde.gtk) kde.gtk.length s' driver' later
  have run_eq : run = keyRun ((installKey false (UInt8.ofNat kde.idx) s.groupCipher
      (fun _ => kde.gtk) kde.gtk.length).bind fun grouped => Prog.when grouped completeHandshake)
        s' driver' later := by
    simp only [run, keyRun, installHandshakeKeys, Prog.bind_eq_bind]
    rw [Prog.attended_bind, value, state, world, left]
    simp only [Prog.when, if_true, Prog.fetch, Prog.bind, Prog.attended, carried,
      Ieee80211.groupCipher, ← target]
    rfl
  rw [run_eq, keyRun, Prog.attended_bind]
  rw [same] at group
  cases grouped : s.installs false s.groupCipher kde.gtk.length later with
  | true =>
      rw [grouped, if_pos rfl] at group
      obtain ⟨-, -, sets, -⟩ := group
      rw [if_pos rfl]
      exists s'.newKey false (UInt8.ofNat kde.idx) s.groupCipher (fun _ => kde.gtk) kde.gtk.length
      apply sets_subset_keyRun
      rw [sets]
      exact List.mem_cons_self
  | false =>
      rw [grouped, if_neg (by decide)] at group
      obtain ⟨failed, sets, slot⟩ := group
      rw [if_neg (by decide), failed]
      exact ⟨sets.trans (by simp [driver', DriverKeys.set]), slot⟩

end M

section

variable (s : Ieee80211) (driver : DriverKeys) (data : Bytes) (answers : List Answer)

/-- An M3 half installs its keys exactly when its group key fails after its pairwise key. -/
theorem halfInstalls_iff :
    HalfInstalls s driver data answers ↔
      ∃ kde, s.m3Gtk data = some kde ∧ s.acceptsM3 data answers = true ∧
        s.installs true cipherCcmp 16 answers.tail = true ∧
        s.installs false s.groupCipher kde.gtk.length
          (s.laterAnswers true answers.tail).tail.tail = false := by
  rw [HalfInstalls]
  cases carried : s.m3Gtk data with
  | none => simp
  | some kde =>
      rw [Ieee80211.m3Gtk] at carried
      split at carried
      · rename_i shape
        obtain ⟨⟨shaped, first⟩, third⟩ : (data.isEapolKey = true ∧ data.isM1 = false) ∧
          data.isM3 = true := by simpa using shape
        have same : M.handleEAPOL data = M.handleM3 data := by
          simp [M.handleEAPOL, shaped, first, third, Prog.when]
        rw [same]
        cases accepted : s.acceptsM3 data answers with
        | false =>
            rw [M.keyRun_handleM3_of_rejected shaped accepted]
            simp
        | true =>
            obtain ⟨keyData, read, run_eq⟩ :=
              M.keyRun_handleM3_of_accepted { driver with sets := [] } shaped accepted
            rw [read, Option.bind_some] at carried
            rw [run_eq]
            have same : (s.acceptM3 data).installs true cipherCcmp 16 answers.tail =
              s.installs true cipherCcmp 16 answers.tail := Ieee80211.installs_congr rfl rfl _ _ _
            cases installed : s.installs true cipherCcmp 16 answers.tail with
            | false =>
                rw [M.sets_installHandshakeKeys_of_failed _ _ _ (same.trans installed)]
                simp
            | true =>
                have outcome := M.keyRun_installHandshakeKeys_of_installed (s.acceptM3 data)
                  { driver with sets := [] } answers.tail (same.trans installed) carried
                have group : (s.acceptM3 data).installs false (s.acceptM3 data).groupCipher
                    kde.gtk.length ((s.acceptM3 data).laterAnswers true answers.tail).tail.tail =
                  s.installs false s.groupCipher kde.gtk.length
                    (s.laterAnswers true answers.tail).tail.tail :=
                  Ieee80211.installs_congr rfl rfl _ _ _
                rw [group] at outcome
                cases grouped : s.installs false s.groupCipher kde.gtk.length
                    (s.laterAnswers true answers.tail).tail.tail with
                | true =>
                    rw [grouped, if_pos rfl] at outcome
                    obtain ⟨key, member⟩ := outcome
                    constructor
                    · rintro ⟨-, -, none⟩
                      exact absurd member (none key)
                    · rintro ⟨other, same, -, -, failed⟩
                      obtain rfl : kde = other := Option.some.inj same
                      exact absurd (grouped.symm.trans failed) (by decide)
                | false =>
                    rw [grouped, if_neg (by decide)] at outcome
                    obtain ⟨sets, slot⟩ := outcome
                    simp [grouped, sets, slot]
      · cases carried

end

/-- Key installation is all or nothing exactly when it is refused at once, finds an empty slot, or
meets no failure; and an M3 leaves no half of its keys exactly when its group key, if it comes to
that, meets none either. -/
theorem keyInstallation_lawful_iff (s : Ieee80211) (driver : DriverKeys) (answers : List Answer) :
    (∀ pairwise keyidx cipher tk tkLen,
      let run := (M.installKey pairwise keyidx cipher tk tkLen).keyRun s driver answers
      AllOrNothing s driver pairwise (s.newKey pairwise keyidx cipher tk tkLen) run.value
          run.state run.world ↔
        s.acceptsKey cipher tkLen = false ∨ s.keySlot pairwise = none ∨
          s.keyFits pairwise answers = true) ∧
    (∀ pairwise keyidx cipher key,
      let run := (M.cmdInstallExternalKey pairwise keyidx cipher key).keyRun s driver answers
      AllOrNothing s driver pairwise
          (s.newKey pairwise keyidx cipher (fun _ => key.getD []) (key.getD []).length)
          (decide (run.value = .success)) run.state run.world ↔
        s.admitsExternal pairwise key = false ∨ s.acceptsKey cipher (key.getD []).length = false ∨
          s.keySlot pairwise = none ∨ s.keyFits pairwise answers = true) ∧
    ∀ data, ¬ HalfInstalls s driver data answers ↔
      ∀ kde, s.m3Gtk data = some kde → s.acceptsM3 data answers = true →
        s.installs true cipherCcmp 16 answers.tail = true →
        s.installs false s.groupCipher kde.gtk.length
          (s.laterAnswers true answers.tail).tail.tail = true := by
  refine ⟨?_, ?_, ?_⟩
  · intro pairwise keyidx cipher tk tkLen
    exact installKey_allOrNothing_iff pairwise keyidx cipher tk tkLen s driver answers
  · intro pairwise keyidx cipher key
    exact cmdInstallExternalKey_allOrNothing_iff pairwise keyidx cipher key s driver answers
  · intro data
    rw [halfInstalls_iff]
    push Not
    simp only [Bool.not_eq_false]

/-- A connected station with the pairwise key of its first handshake. -/
def keyedStation : Ieee80211 :=
  { Ieee80211.started Scenario.attachment with
    state := .connected
    ptkConf := some ⟨cipherCcmp, 0, true, 8, 8, zeros 16⟩ }

/-- A second handshake whose key cannot be allocated takes the first key away. -/
theorem not_installKey_allOrNothing :
    ¬ ∀ pairwise keyidx cipher tk tkLen s driver answers,
      let run := (M.installKey pairwise keyidx cipher tk tkLen).keyRun s driver answers
      AllOrNothing s driver pairwise (s.newKey pairwise keyidx cipher tk tkLen) run.value
        run.state run.world := by
  intro lawful
  let failing : List Answer := [default, { (default : Answer) with code := -12 }]
  have kept := (installKey_allOrNothing_iff true 0 cipherCcmp Ieee80211.tk 16 keyedStation
    ⟨keyedStation.keySlot, []⟩ failing).mp (lawful _ _ _ _ _ _ _ _)
  revert kept
  decide

end AirportRtw88
