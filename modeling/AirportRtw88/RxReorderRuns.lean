import AirportRtw88.RxReorderInvariant

/-!
# Runs of the RX reorder buffer

A run is a sequence of the critical sections under `_rxBaLock`, in any order
and on any TID.  Its history records every frame handed to `rxReorderInput`
and what became of it; the frames released under one agreement are recorded by
how far they lie from the start of that agreement.
-/

namespace AirportRtw88

open scoped List

/-- A frame with the sequence number that it is submitted with. -/
structure Numbered (β : Type) where
  skb : β
  sn : Fin 4096

variable {β : Type}

def Numbered.number (frame : Numbered β) : Nat :=
  frame.sn

/-- The critical sections. -/
inductive RxBaOp (β : Type) : Type where
  | setup (tid ssn bufsize : Nat) (allocated : Bool)
  | input (tid : Fin kRxBaNumTid) (frame : Numbered β)
  | flushStale
  | teardown (tid : Nat)

/-- The reorder buffers and the history of a run.  `position` is how far the
head of a TID has moved since its agreement was set up and `order` the places,
counted from the same start, of the frames released since. -/
structure RxBaRun (β : Type) where
  table : RxBaTable (Numbered β)
  accepted : List (Numbered β)
  released : List (Numbered β)
  freed : List (Numbered β)
  position : Fin kRxBaNumTid → Nat
  order : Fin kRxBaNumTid → List Nat

/-- The frames in the slots of all buffers. -/
def slots (table : RxBaTable (Numbered β)) : List (Numbered β) :=
  (List.finRange kRxBaNumTid).flatMap fun tid =>
    (table tid).elim [] RxReorder.frames

/-! ## What is freed -/

/-- The frame is behind the window, or one of its number is in its slot. -/
def RxReorder.Refuses (r : RxReorder (Numbered β)) (frame : Numbered β) : Prop :=
  2048 ≤ snDiff frame.number r.headSn ∨
    ∃ other, r.buf (slotOf frame.number) = some other ∧ other.number = frame.number

/-- `rxReorderInput` frees a frame exactly if the buffer refuses it, and no other; the frame is
released or goes to its slot otherwise. -/
structure InputFrees (table : RxBaTable (Numbered β)) (tid : Fin kRxBaNumTid)
    (frame : Numbered β) : Prop where
  passes : table tid = none →
    rxReorderInput table tid frame frame.number = ⟨table, [frame], [], false⟩
  refuses : ∀ r, table tid = some r → r.Refuses frame →
    (rxReorderInput table tid frame frame.number).freed = [frame]
  takes : ∀ r, table tid = some r → ¬ r.Refuses frame →
    (rxReorderInput table tid frame frame.number).freed = [] ∧
      (frame ∈ (rxReorderInput table tid frame frame.number).out ∨
        ∃ r', (rxReorderInput table tid frame frame.number).table tid = some r' ∧
          r'.buf (slotOf frame.number) = some frame)

/-- Why frames are freed: `rxReorderInput` frees a stale frame and a duplicate, a setup and a
teardown free what is left of the agreement before, and a flush frees nothing. -/
structure FreesOnly (table : RxBaTable (Numbered β)) : Prop where
  input : ∀ tid frame, InputFrees table tid frame
  flushStale : (rxReorderFlushStale table).freed = []
  setup : ∀ (tid : Fin kRxBaNumTid) ssn bufsize allocated,
    (rxBaSetup table tid ssn bufsize allocated).freed = (table tid).elim [] RxReorder.frames
  teardown : ∀ tid : Fin kRxBaNumTid,
    (rxBaTeardown table tid).freed = (table tid).elim [] RxReorder.frames
  beyond : ∀ tid, kRxBaNumTid ≤ tid → (∀ ssn bufsize allocated,
    (rxBaSetup table tid ssn bufsize allocated).freed = []) ∧ (rxBaTeardown table tid).freed = []

namespace RxBaRun

def initial : RxBaRun β :=
  ⟨fun _ => none, [], [], [], fun _ => 0, fun _ => []⟩

/-- Count from the start of a new agreement. -/
def restart (run : RxBaRun β) (tid : Nat) : RxBaRun β :=
  if inside : tid < kRxBaNumTid then
    { run with
      position := Function.update run.position ⟨tid, inside⟩ 0
      order := Function.update run.order ⟨tid, inside⟩ [] }
  else run

/-- Record that the buffer of `tid` released `out`. -/
def note (run : RxBaRun β) (tid : Fin kRxBaNumTid)
    (before after : Option (RxReorder (Numbered β))) (out : List (Numbered β)) :
    RxBaRun β :=
  match before, after with
  | some r, some r' =>
      { run with
        position := Function.update run.position tid
          (run.position tid + snDiff r'.headSn r.headSn)
        order := Function.update run.order tid
          (run.order tid ++
            out.map fun frame => run.position tid + snDiff frame.number r.headSn) }
  | _, _ => run

/-- One TID of a flush, with the record of what it releases. -/
def flushStep (current : RxBaRun β × RxBaOutcome (Numbered β))
    (tid : Fin kRxBaNumTid) : RxBaRun β × RxBaOutcome (Numbered β) :=
  let next := flushTid current.2 tid
  (current.1.note tid (current.2.table tid) (next.table tid)
      (next.out.drop current.2.out.length), next)

/-- A flush that has handled some of the TIDs. -/
def settle (current : RxBaRun β × RxBaOutcome (Numbered β)) : RxBaRun β :=
  { current.1 with
    table := current.2.table
    released := current.1.released ++ current.2.out }

def step (run : RxBaRun β) : RxBaOp β → RxBaRun β
  | .setup tid ssn bufsize allocated =>
      let outcome := rxBaSetup run.table tid ssn bufsize allocated
      { run.restart tid with
        table := outcome.table
        freed := run.freed ++ outcome.freed }
  | .input tid frame =>
      let outcome := rxReorderInput run.table tid frame frame.number
      { run.note tid (run.table tid) (outcome.table tid) outcome.out with
        table := outcome.table
        accepted := run.accepted ++ [frame]
        released := run.released ++ outcome.out
        freed := run.freed ++ outcome.freed }
  | .flushStale =>
      settle ((List.finRange kRxBaNumTid).foldl flushStep
        (run, ⟨run.table, [], [], false⟩))
  | .teardown tid =>
      let outcome := rxBaTeardown run.table tid
      { run.restart tid with
        table := outcome.table
        freed := run.freed ++ outcome.freed }

/-- The recorded flush is `rxReorderFlushStale`. -/
theorem foldl_flushStep (tids : List (Fin kRxBaNumTid))
    (current : RxBaRun β × RxBaOutcome (Numbered β)) :
    (tids.foldl flushStep current).2 = tids.foldl flushTid current.2 := by
  induction tids generalizing current with
  | nil => rfl
  | cons tid tids ih => exact ih (flushStep current tid)

/-- A flush frees nothing. -/
theorem foldl_flushTid_freed (tids : List (Fin kRxBaNumTid)) (current : RxBaOutcome (Numbered β)) :
    (tids.foldl flushTid current).freed = current.freed := by
  induction tids generalizing current with
  | nil => rfl
  | cons tid tids ih =>
      rw [List.foldl_cons, ih, flushTid]
      split
      · rfl
      · split
        · rfl
        · rfl

/-! ## The invariant -/

/-- Every buffer is well formed and has a free slot, nothing is lost or
duplicated, and every release lies past those before it. -/
structure Invariant (run : RxBaRun β) : Prop where
  active : ∀ tid r, run.table tid = some r → r.active = true
  wellFormed : ∀ tid r, run.table tid = some r → r.WellFormed Numbered.number
  room : ∀ tid r, run.table tid = some r → r.stored < kRxBaMaxBuf
  conserved : run.accepted ~ run.released ++ run.freed ++ slots run.table
  behind : ∀ tid, ∀ place ∈ run.order tid, place < run.position tid
  ordered : ∀ tid, (run.order tid).Pairwise (· < ·)

theorem slots_split (table : RxBaTable (Numbered β)) (tid : Fin kRxBaNumTid)
    (value : Option (RxReorder (Numbered β))) :
    slots (Function.update table tid value) ~
      value.elim [] RxReorder.frames ++
        ((List.finRange kRxBaNumTid).erase tid).flatMap fun other =>
          (table other).elim [] RxReorder.frames := by
  have moved := (List.perm_cons_erase (List.mem_finRange tid)).flatMap_right
    fun other => (Function.update table tid value other).elim [] RxReorder.frames
  rw [List.flatMap_cons, Function.update_self] at moved
  refine moved.trans (List.Perm.append_left _ ?_)
  refine List.Perm.of_eq (List.flatMap_congr ?_)
  intro other member
  have distinct : other ≠ tid :=
    ((List.nodup_finRange kRxBaNumTid).mem_erase_iff.mp member).1
  rw [Function.update_of_ne distinct]

/-- The slots after one buffer was replaced. -/
theorem slots_update {table : RxBaTable (Numbered β)} {tid : Fin kRxBaNumTid}
    {old new : Option (RxReorder (Numbered β))} (found : table tid = old)
    {gone : List (Numbered β)} {come : List (Numbered β)}
    (changed : come ++ old.elim [] RxReorder.frames ~
      gone ++ new.elim [] RxReorder.frames) :
    come ++ slots table ~ gone ++ slots (Function.update table tid new) := by
  have before := slots_split table tid old
  rw [← found, Function.update_eq_self, found] at before
  have after := slots_split table tid new
  calc come ++ slots table
      _ ~ come ++ (old.elim [] RxReorder.frames ++ _) := before.append_left come
      _ ~ gone ++ new.elim [] RxReorder.frames ++ _ := by
        rw [← List.append_assoc]
        exact changed.append_right _
      _ ~ gone ++ slots (Function.update table tid new) := by
        rw [List.append_assoc]
        exact after.symm.append_left gone

theorem invariant_initial : (initial : RxBaRun β).Invariant where
  active := by simp [initial]
  wellFormed := by simp [initial]
  room := by simp [initial]
  conserved := by simp [initial, slots]
  behind := by simp [initial]
  ordered := by simp [initial]

namespace Invariant

variable {run : RxBaRun β}

/-- A critical section that replaces a buffer by one that it handled. -/
theorem handled (invariant : run.Invariant) {tid : Fin kRxBaNumTid}
    {r r' : RxReorder (Numbered β)} {arrived out freed : List (Numbered β)} {moved : Nat}
    (found : run.table tid = some r)
    (done : Handled Numbered.number r r' arrived out freed moved) :
    Invariant
      { run.note tid (some r) (some r') out with
        table := Function.update run.table tid (some r')
        accepted := run.accepted ++ arrived
        released := run.released ++ out
        freed := run.freed ++ freed } := by
  have moves : snDiff r'.headSn r.headSn = moved :=
    snDiff_of_eq_add done.small done.head
  have updated : ∀ other s, Function.update run.table tid (some r') other = some s →
      (other = tid ∧ s = r') ∨ run.table other = some s := by
    intro other s is
    by_cases same : other = tid
    · subst same
      rw [Function.update_self] at is
      exact .inl ⟨rfl, (Option.some.inj is).symm⟩
    · rw [Function.update_of_ne same] at is
      exact .inr is
  constructor
  case active =>
    intro other s is
    rcases updated other s is with ⟨_, rfl⟩ | old
    · exact done.active.trans (invariant.active tid r found)
    · exact invariant.active other s old
  case wellFormed =>
    intro other s is
    rcases updated other s is with ⟨_, rfl⟩ | old
    · exact done.wellFormed
    · exact invariant.wellFormed other s old
  case room =>
    intro other s is
    rcases updated other s is with ⟨_, rfl⟩ | old
    · exact done.room
    · exact invariant.room other s old
  case conserved =>
    have inSlots : arrived ++ slots run.table ~
        out ++ freed ++ slots (Function.update run.table tid (some r')) :=
      slots_update found done.conserved
    calc run.accepted ++ arrived
        _ ~ run.released ++ run.freed ++ slots run.table ++ arrived :=
          invariant.conserved.append_right arrived
        _ ~ run.released ++ run.freed ++ (arrived ++ slots run.table) := by
          rw [List.append_assoc]
          exact List.perm_append_comm.append_left _
        _ ~ run.released ++ run.freed ++ (out ++ freed ++ slots _) :=
          inSlots.append_left _
        _ ~ run.released ++ out ++ (run.freed ++ freed) ++ slots _ := by
          simp only [← List.append_assoc]
          refine List.Perm.append_right _ (List.Perm.append_right freed ?_)
          simp only [List.append_assoc]
          exact List.perm_append_comm.append_left run.released
  case behind =>
    intro other place member
    by_cases same : other = tid
    · subst same
      simp only [note, Function.update_self, moves] at member ⊢
      rcases List.mem_append.mp member with old | new
      · have := invariant.behind other place old
        omega
      · obtain ⟨frame, frameIn, rfl⟩ := List.mem_map.mp new
        have := done.offsets frame frameIn
        omega
    · simp only [note, Function.update_of_ne same] at member ⊢
      exact invariant.behind other place member
  case ordered =>
    intro other
    by_cases same : other = tid
    · subst same
      simp only [note, Function.update_self]
      refine List.pairwise_append.mpr ⟨invariant.ordered other, ?_, ?_⟩
      · rw [List.pairwise_map]
        exact done.ordered.imp fun less => by omega
      · intro first firstIn second secondIn
        obtain ⟨frame, _, rfl⟩ := List.mem_map.mp secondIn
        have := invariant.behind other first firstIn
        omega
    · simp only [note, Function.update_of_ne same]
      exact invariant.ordered other

/-- Replacing a buffer by none or by a fresh one starts its history again. -/
theorem replaced (invariant : run.Invariant) {tid : Nat} (inside : tid < kRxBaNumTid)
    (new : Option (RxReorder (Numbered β)))
    (fresh : ∀ r, new = some r → r.active = true ∧ r.WellFormed Numbered.number ∧
      r.stored < kRxBaMaxBuf ∧ r.frames = []) :
    Invariant
      { run.restart tid with
        table := Function.update run.table ⟨tid, inside⟩ new
        freed := run.freed ++ (run.table ⟨tid, inside⟩).elim [] RxReorder.frames } := by
  have updated : ∀ other s, Function.update run.table ⟨tid, inside⟩ new other = some s →
      new = some s ∨ run.table other = some s := by
    intro other s is
    by_cases same : other = ⟨tid, inside⟩
    · subst same
      rw [Function.update_self] at is
      exact .inl is
    · rw [Function.update_of_ne same] at is
      exact .inr is
  constructor
  case active =>
    intro other s is
    rcases updated other s is with isNew | old
    · exact (fresh s isNew).1
    · exact invariant.active other s old
  case wellFormed =>
    intro other s is
    rcases updated other s is with isNew | old
    · exact (fresh s isNew).2.1
    · exact invariant.wellFormed other s old
  case room =>
    intro other s is
    rcases updated other s is with isNew | old
    · exact (fresh s isNew).2.2.1
    · exact invariant.room other s old
  case conserved =>
    have noFrames : new.elim [] RxReorder.frames = [] := by
      cases isNew : new with
      | none => rfl
      | some r => exact (fresh r isNew).2.2.2
    have inSlots : [] ++ slots run.table ~
        (run.table ⟨tid, inside⟩).elim [] RxReorder.frames ++
          slots (Function.update run.table ⟨tid, inside⟩ new) :=
      slots_update rfl (by simp [noFrames])
    have accepted : (run.restart tid).accepted = run.accepted := by
      simp [restart, inside]
    have released : (run.restart tid).released = run.released := by
      simp [restart, inside]
    show (run.restart tid).accepted ~ (run.restart tid).released ++ _ ++ _
    rw [accepted, released]
    refine invariant.conserved.trans ?_
    simpa only [List.append_assoc, List.nil_append] using
      inSlots.append_left (run.released ++ run.freed)
  case behind =>
    intro other place member
    by_cases same : other = ⟨tid, inside⟩
    · subst same
      simp [restart, inside] at member
    · simp only [restart, inside, dif_pos, Function.update_of_ne same] at member ⊢
      exact invariant.behind other place member
  case ordered =>
    intro other
    by_cases same : other = ⟨tid, inside⟩
    · subst same
      simp [restart, inside]
    · simp only [restart, inside, dif_pos, Function.update_of_ne same]
      exact invariant.ordered other

theorem restart_of_table (invariant : run.Invariant) (tid : Nat) :
    (run.restart tid).Invariant := by
  unfold restart
  split
  · next inside =>
      constructor
      case active => exact invariant.active
      case wellFormed => exact invariant.wellFormed
      case room => exact invariant.room
      case conserved => exact invariant.conserved
      case behind =>
        intro other place member
        by_cases same : other = ⟨tid, inside⟩
        · subst same
          simp at member
        · simp only [Function.update_of_ne same] at member ⊢
          exact invariant.behind other place member
      case ordered =>
        intro other
        by_cases same : other = ⟨tid, inside⟩
        · subst same
          simp
        · simp only [Function.update_of_ne same]
          exact invariant.ordered other
  · exact invariant

theorem setup (invariant : run.Invariant) (tid ssn bufsize : Nat) (allocated : Bool) :
    (run.step (.setup tid ssn bufsize allocated)).Invariant := by
  have unchanged : Invariant
      { run.restart tid with table := run.table, freed := run.freed ++ [] } := by
    have restarted := invariant.restart_of_table tid
    unfold restart at restarted ⊢
    split <;> simp_all
  by_cases inside : tid < kRxBaNumTid
  · have fresh := invariant.replaced inside (some (RxReorder.fresh ssn bufsize)) (by
      intro r is
      obtain rfl := Option.some.inj is
      exact ⟨rfl, RxReorder.wellFormed_fresh ssn bufsize, by simp [RxReorder.fresh, kRxBaMaxBuf],
        RxReorder.frames_fresh ssn bufsize⟩)
    cases found : run.table ⟨tid, inside⟩ with
    | some r =>
        rw [found] at fresh
        simpa [step, rxBaSetup, inside, found] using fresh
    | none =>
        rw [found] at fresh
        cases allocated
        · simpa [step, rxBaSetup, inside, found] using unchanged
        · simpa [step, rxBaSetup, inside, found] using fresh
  · simpa [step, rxBaSetup, inside] using unchanged

theorem teardown (invariant : run.Invariant) (tid : Nat) :
    (run.step (.teardown tid)).Invariant := by
  have unchanged : Invariant
      { run.restart tid with table := run.table, freed := run.freed ++ [] } := by
    have restarted := invariant.restart_of_table tid
    unfold restart at restarted ⊢
    split <;> simp_all
  by_cases inside : tid < kRxBaNumTid
  · have gone := invariant.replaced inside none (by simp)
    cases found : run.table ⟨tid, inside⟩ with
    | some r =>
        rw [found] at gone
        simpa [step, rxBaTeardown, inside, found] using gone
    | none => simpa [step, rxBaTeardown, inside, found] using unchanged
  · simpa [step, rxBaTeardown, inside] using unchanged

theorem input (invariant : run.Invariant) (tid : Fin kRxBaNumTid) (frame : Numbered β) :
    (run.step (.input tid frame)).Invariant := by
  cases found : run.table tid with
  | none =>
      have outcome : rxReorderInput run.table tid frame frame.number =
          ⟨run.table, [frame], [], false⟩ := by
        simp [rxReorderInput, found]
      constructor
      case active => simpa only [step, outcome] using invariant.active
      case wellFormed => simpa only [step, outcome] using invariant.wellFormed
      case room => simpa only [step, outcome] using invariant.room
      case conserved =>
        have kept := (invariant.conserved.append_right [frame])
        simp only [step, outcome, List.append_nil]
        refine kept.trans ?_
        simp only [List.append_assoc]
        refine List.Perm.append_left run.released ?_
        rw [← List.append_assoc]
        exact List.perm_append_comm
      case behind => simpa only [step, note, outcome, found] using invariant.behind
      case ordered => simpa only [step, note, outcome, found] using invariant.ordered
  | some r =>
      obtain ⟨r', moved, table, done, _⟩ :=
        rxReorderInput_handled Numbered.number found (invariant.active tid r found)
          (invariant.wellFormed tid r found) (invariant.room tid r found)
          (rfl : frame.number = _) frame.sn.isLt
      have next := invariant.handled found done
      simpa only [step, table, found, Function.update_self] using next

/-- Handling one more TID of a flush. -/
theorem flushStep {current : RxBaRun β × RxBaOutcome (Numbered β)}
    (invariant : (settle current).Invariant) (nothing : current.2.freed = [])
    (short : current.2.out.length ≤ kRxBaMaxBuf) (tid : Fin kRxBaNumTid) :
    (settle (RxBaRun.flushStep current tid)).Invariant ∧
      (RxBaRun.flushStep current tid).2.freed = [] ∧
      (RxBaRun.flushStep current tid).2.out.length ≤ kRxBaMaxBuf := by
  cases found : current.2.table tid with
  | none =>
      have next : flushTid current.2 tid = current.2 := by
        simp [flushTid, found]
      have same : RxBaRun.flushStep current tid = current := by
        simp [RxBaRun.flushStep, next, note, found]
      rw [same]
      exact ⟨invariant, nothing, short⟩
  | some r =>
      obtain ⟨r', out, moved, table, outEq, freed, done, bound⟩ :=
        flushTid_handled found (invariant.wellFormed tid r found)
          (invariant.room tid r found) short
      refine ⟨?_, freed.trans nothing, bound⟩
      have next := invariant.handled found done
      have dropped : (current.2.out ++ out).drop current.2.out.length = out := by simp
      simpa only [settle, RxBaRun.flushStep, table, outEq, dropped, found, note,
        Function.update_self, List.append_nil, List.append_assoc] using next

theorem flushStale (invariant : run.Invariant) :
    (run.step .flushStale).Invariant ∧
      (rxReorderFlushStale run.table).out.length ≤ kRxBaMaxBuf := by
  have each : ∀ (tids : List (Fin kRxBaNumTid))
      (current : RxBaRun β × RxBaOutcome (Numbered β)),
      (settle current).Invariant → current.2.freed = [] →
      current.2.out.length ≤ kRxBaMaxBuf →
      (settle (tids.foldl RxBaRun.flushStep current)).Invariant ∧
        (tids.foldl RxBaRun.flushStep current).2.out.length ≤ kRxBaMaxBuf := by
    intro tids
    induction tids with
    | nil => exact fun current holds _ short => ⟨holds, short⟩
    | cons tid tids ih =>
        intro current holds nothing short
        obtain ⟨holds', nothing', short'⟩ := holds.flushStep nothing short tid
        exact ih _ holds' nothing' short'
  have started : (settle (run, ⟨run.table, [], [], false⟩)).Invariant := by
    simpa [settle] using invariant
  have final := each (List.finRange kRxBaNumTid) _ started rfl (Nat.zero_le _)
  rw [foldl_flushStep] at final
  exact final

theorem input_frees (invariant : run.Invariant) (tid : Fin kRxBaNumTid) (frame : Numbered β) :
    InputFrees run.table tid frame := by
  constructor
  case passes =>
    intro absent
    simp [rxReorderInput, absent]
  case refuses =>
    intro r found refuses
    have active := invariant.active tid r found
    by_cases stale : snDiff frame.number r.headSn ≥ 2048
    · simp [rxReorderInput, found, active, stale]
    · have duplicate := refuses.resolve_left stale
      have numbered : frame.number < 4096 := frame.sn.isLt
      obtain ⟨other, taken⟩ := (slideFor_taken_iff (invariant.wellFormed tid r found)
        (invariant.room tid r found) numbered (Nat.lt_of_not_le stale)).mpr duplicate
      simp [rxReorderInput, found, active, stale, taken]
  case takes =>
    intro r found admits
    have active := invariant.active tid r found
    have wellFormed := invariant.wellFormed tid r found
    have room := invariant.room tid r found
    have fresh : snDiff frame.number r.headSn < 2048 :=
      Nat.lt_of_not_le fun stale => admits (.inl stale)
    have free : (r.slideFor frame.number).reorder.buf (slotOf frame.number) = none := by
      apply Option.eq_none_iff_forall_ne_some.mpr
      intro other taken
      exact admits (.inr ((slideFor_taken_iff wellFormed room frame.sn.isLt fresh).mp
        ⟨other, taken⟩))
    have freed : (rxReorderInput run.table tid frame frame.number).freed = [] := by
      simp [rxReorderInput, found, active, Nat.not_le_of_lt fresh, free]
    obtain ⟨r', moved, table, handled, -⟩ :=
      rxReorderInput_handled Numbered.number found active wellFormed room
        (rfl : frame.number = _) frame.sn.isLt
    -- the frame is in the array or in the buffer, and in the buffer it has only one place
    have somewhere : frame ∈ (rxReorderInput run.table tid frame frame.number).out ++
        (rxReorderInput run.table tid frame frame.number).freed ++ r'.frames :=
      handled.conserved.mem_iff.mp (List.mem_append_left _ (List.mem_singleton_self frame))
    rw [freed, List.append_nil, List.mem_append] at somewhere
    refine ⟨freed, somewhere.imp_right fun left => ⟨r', ?_, ?_⟩⟩
    · rw [table, Function.update_self]
    · obtain ⟨idx, -, occupied⟩ := List.mem_filterMap.mp left
      rw [(handled.wellFormed.placed idx frame occupied).2]
      exact occupied

theorem freesOnly (invariant : run.Invariant) : FreesOnly run.table where
  input tid frame := invariant.input_frees tid frame
  flushStale := foldl_flushTid_freed _ _
  setup tid ssn bufsize allocated := by
    cases found : run.table tid with
    | some r => simp [rxBaSetup, found]
    | none => cases allocated <;> simp [rxBaSetup, found]
  teardown tid := by
    cases found : run.table tid with
    | some r => simp [rxBaTeardown, found]
    | none => simp [rxBaTeardown, found]
  beyond tid outside := by
    constructor
    · intro ssn bufsize allocated
      rw [rxBaSetup, dif_neg (Nat.not_lt.mpr outside)]
    · rw [rxBaTeardown, dif_neg (Nat.not_lt.mpr outside)]

theorem step (invariant : run.Invariant) (op : RxBaOp β) : (run.step op).Invariant := by
  cases op with
  | setup tid ssn bufsize allocated => exact invariant.setup tid ssn bufsize allocated
  | input tid frame => exact invariant.input tid frame
  | flushStale => exact invariant.flushStale.1
  | teardown tid => exact invariant.teardown tid

theorem foldl_step (ops : List (RxBaOp β)) (invariant : run.Invariant) :
    (ops.foldl RxBaRun.step run).Invariant := by
  induction ops generalizing run with
  | nil => exact invariant
  | cons op ops ih => exact ih (invariant.step op)

end Invariant

end RxBaRun

/-- The reorder buffers are correct after every sequence of critical sections:
every frame sits in the slot of the only number of the window that belongs
there, no array is overrun or keeps a window from sliding, the frames of one
agreement leave in order, every frame handed in was released, is still in a slot
or was freed, and a frame is only freed where it is stale or a duplicate or its
agreement ends. -/
theorem rxReorder_correct (ops : List (RxBaOp β)) :
    let run := ops.foldl RxBaRun.step RxBaRun.initial
    (∀ tid r, run.table tid = some r →
      (r.stored = (List.finRange kRxBaMaxBuf).countP fun idx => (r.buf idx).isSome) ∧
      1 ≤ r.bufSize ∧ r.bufSize ≤ kRxBaMaxBuf ∧
      ∀ idx frame, r.buf idx = some frame →
        r.InWindow frame.number ∧ slotOf frame.number = idx ∧
        ∀ sn, r.InWindow sn → slotOf sn = idx → sn = frame.number) ∧
    (∀ tid (frame : Numbered β),
      (rxReorderInput run.table tid frame frame.number).out.length ≤ kRxBaMaxBuf ∧
      ∀ r, run.table tid = some r → snDiff frame.number r.headSn < 2048 →
        r.bufSize ≤ snDiff frame.number r.headSn →
        (r.slideFor frame.number).reorder.headSn = snDiff (frame.number + 1) r.bufSize) ∧
    (rxReorderFlushStale run.table).out.length ≤ kRxBaMaxBuf ∧
    (∀ tid, (run.order tid).Pairwise (· < ·)) ∧
    run.accepted ~ run.released ++ run.freed ++ slots run.table ∧ FreesOnly run.table := by
  intro run
  have invariant : run.Invariant := RxBaRun.invariant_initial.foldl_step ops
  refine ⟨?_, ?_, invariant.flushStale.2, invariant.ordered, invariant.conserved,
    invariant.freesOnly⟩
  · intro tid r found
    have wellFormed := invariant.wellFormed tid r found
    refine ⟨wellFormed.stored_eq_countP, wellFormed.size_pos, wellFormed.size_le, ?_⟩
    intro idx frame occupied
    obtain ⟨inside, slot⟩ := wellFormed.placed idx frame occupied
    refine ⟨inside, slot, ?_⟩
    intro sn inside' slot'
    exact wellFormed.eq_of_inWindow inside' inside (slot'.trans slot.symm)
  · intro tid frame
    cases found : run.table tid with
    | none => simp [rxReorderInput, found, kRxBaMaxBuf]
    | some r =>
        have wellFormed := invariant.wellFormed tid r found
        have room := invariant.room tid r found
        obtain ⟨_, _, _, _, short⟩ :=
          rxReorderInput_handled Numbered.number found (invariant.active tid r found)
            wellFormed room (rfl : frame.number = _) frame.sn.isLt
        refine ⟨short, ?_⟩
        intro r' same fresh ahead
        obtain rfl := Option.some.inj same
        obtain ⟨_, _, _, _, _, arrives⟩ :=
          slideFor_drained wellFormed room frame.sn.isLt fresh
        exact arrives ahead

end AirportRtw88
