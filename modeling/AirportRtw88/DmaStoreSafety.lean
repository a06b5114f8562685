import AirportRtw88.DmaStore
import Mathlib.Data.List.Count
import Mathlib.Data.List.Perm.Subperm

/-!
# Every DMA buffer is released once

The two lists of the store are disjoint and have no cycles, whatever is called in whatever order.
Every descriptor is in the live list, in the pending list or released, and after the teardown all
are released.
-/

namespace AirportRtw88

open Heap

/-- The entries of a list, with their addresses. -/
abbrev DmaEntries : Type :=
  List (Nat × DmaEntry)

/-- The addresses of entries. -/
abbrev DmaEntries.addresses (entries : DmaEntries) : List Nat :=
  entries.map Prod.fst

/-- The descriptors of entries. -/
abbrev DmaEntries.descs (entries : DmaEntries) : List Nat :=
  entries.map fun entry => entry.2.desc

namespace DmaStore

/-- The lists hold these entries, and nothing else is allocated. -/
structure Holds (s : DmaStore) (live pending : DmaEntries) : Prop where
  current : Chain s.memory s.dmaList live
  deferred : Chain s.memory s.dmaPendingFree pending
  /-- No list has a cycle, and the lists have no entry in common. -/
  distinct : (DmaEntries.addresses (live ++ pending)).Nodup
  only : ∀ address ∉ DmaEntries.addresses (live ++ pending), s.memory address = none

/-- Every descriptor is in one place, and the addresses of the live buffers tell them apart. -/
structure Counts (s : DmaStore) (live pending : DmaEntries) : Prop where
  /-- Every descriptor is in the live list, in the pending list, or released. -/
  once : ∀ desc, live.descs.count desc + pending.descs.count desc + s.released.count desc =
    if desc < s.created then 1 else 0
  /-- A descriptor is completed when it is released, if it was prepared. -/
  completed : ∀ desc, s.completed.count desc =
    if desc ∈ s.prepared then s.released.count desc else 0
  prepared : ∀ entry ∈ live ++ pending, entry.2.desc ∈ s.prepared
  known : ∀ desc ∈ s.prepared, desc < s.created
  virts : (live.map fun entry => entry.2.virt).Nodup
  physes : (live.map fun entry => entry.2.phys).Nodup

/-- The lists track every descriptor. -/
structure Tracks (s : DmaStore) (live pending : DmaEntries) : Prop
    extends s.Holds live pending, s.Counts live pending

/-- The kernel answers with an entry that is not allocated, and with a buffer whose addresses no
live buffer has. -/
def Admits (s : DmaStore) : DmaOp → Prop
  | .allocCoherent _ grant =>
      (∀ address, grant.entry = some address → s.memory address = none) ∧
        ∀ live, Chain s.memory s.dmaList live → ∀ entry ∈ live,
          entry.2.virt ≠ grant.virt ∧ entry.2.phys ≠ grant.phys
  | _ => True

/-- Every call is admitted where it is made. -/
def Feasible : List DmaOp → DmaStore → Prop
  | [], _ => True
  | op :: rest, s => s.Admits op ∧ ∀ after, s.perform op = some after → Feasible rest after

/-- The pending list after a free has unlinked an entry. -/
def pendingAfter (preemptible : Bool) (unlinked pending : DmaEntries) : DmaEntries :=
  if preemptible then pending else unlinked ++ pending

/-- A free moves the entry that is wanted, if there is one, and leaves the others as they are. -/
def Frees (s : DmaStore) (live pending : DmaEntries) (free : Bool → DmaStore → Option DmaStore)
    (wanted : DmaEntry → Bool) : Prop :=
  ∀ preemptible, (live.filter fun entry => wanted entry.2).length ≤ 1 ∧
    ∃ after, free preemptible s = some after ∧
      after.Tracks (live.filter fun entry => !wanted entry.2)
        (pendingAfter preemptible (live.filter fun entry => wanted entry.2) pending)

/-- The teardown empties the lists and releases what is left. -/
def TearsDown (s : DmaStore) : Prop :=
  ∃ after, s.teardown = some after ∧ (∀ address, after.memory address = none) ∧
    after.dmaList = none ∧ after.dmaPendingFree = none ∧
    ∀ desc, after.released.count desc = (if desc < s.created then 1 else 0) ∧
      after.completed.count desc = if desc ∈ s.prepared then 1 else 0

/-- What a sequence of calls keeps: the lists track every descriptor, each free moves what its key
names, and the teardown releases everything. -/
def Sound (ram : Ram) (ops : List DmaOp) : Prop :=
  Feasible ops (start ram) → ∃ s live pending, (start ram).run ops = some s ∧
    s.Tracks live pending ∧
    (∀ virt, s.Frees live pending (freeCoherent virt) fun entry => entry.virt = virt) ∧
    (∀ phys, s.Frees live pending (freeCoherentByPhys phys) fun entry => entry.phys = phys) ∧
    s.TearsDown

section

variable {s : DmaStore} {live pending : DmaEntries}

/-- A walk through the live list ends. -/
theorem Tracks.length_le (tracks : s.Tracks live pending) :
    (live ++ pending).length ≤ s.created := by
  have counts : ∀ desc, (DmaEntries.descs (live ++ pending)).count desc ≤
      if desc < s.created then 1 else 0 := by
    intro desc
    have once := tracks.once desc
    simp only [DmaEntries.descs, List.map_append, List.count_append] at once ⊢
    omega
  have distinct : (DmaEntries.descs (live ++ pending)).Nodup := by
    refine List.nodup_iff_count_le_one.mpr fun desc => Nat.le_trans (counts desc) ?_
    split <;> omega
  have below : DmaEntries.descs (live ++ pending) ⊆ List.range s.created := by
    intro desc member
    have some := List.count_pos_iff.mpr member
    have bound := counts desc
    rw [List.mem_range]
    split at bound
    · assumption
    · omega
  have fewer := (List.subperm_of_subset distinct below).length_le
  rwa [List.length_map, List.length_range] at fewer

theorem Tracks.enough (tracks : s.Tracks live pending) : live.length ≤ s.created := by
  have both := tracks.length_le
  rw [List.length_append] at both
  omega

theorem tracks_start (ram : Ram) : (start ram).Tracks [] [] where
  current := rfl
  deferred := rfl
  distinct := List.nodup_nil
  only _ _ := rfl
  once desc := by simp [start]
  completed desc := by simp [start]
  prepared := nofun
  known := nofun
  virts := List.nodup_nil
  physes := List.nodup_nil

/-! ## Unlinking -/

/-- An entry was taken out of the live list, and is still allocated. -/
structure Unlinked (s : DmaStore) (live pending : DmaEntries) (address : Nat)
    (content : DmaEntry) : Prop where
  current : Chain s.memory s.dmaList live
  deferred : Chain s.memory s.dmaPendingFree pending
  cell : ∃ next, s.memory address = some ⟨content, next⟩
  distinct : (DmaEntries.addresses ((address, content) :: (live ++ pending))).Nodup
  only : ∀ other ∉ DmaEntries.addresses ((address, content) :: (live ++ pending)),
    s.memory other = none

theorem Holds.unlink {before after : DmaEntries} {address : Nat} {content : DmaEntry}
    (holds : s.Holds (before ++ (address, content) :: after) pending) {next : Option Nat}
    (later : Chain s.memory next after) :
    ∃ head memory, (Link.head.after before).write next (s.dmaList, s.memory) =
        some (head, memory) ∧
      Unlinked { s with dmaList := head, memory := memory } (before ++ after) pending address
        content := by
  have permuted : (before ++ (address, content) :: after ++ pending).Perm
      ((address, content) :: (before ++ after ++ pending)) := by
    rw [List.append_assoc, List.cons_append, List.append_assoc]
    exact List.perm_middle
  have distinct := (permuted.map Prod.fst).nodup_iff.mp holds.distinct
  obtain ⟨head, memory, writes, chain, frame⟩ := holds.current.unlink later
  have elsewhere : ∀ other, other ∉ before.addresses → memory other = s.memory other := frame
  have split := List.nodup_cons.mp distinct
  simp only [List.map_append, List.mem_append, not_or, List.nodup_append] at split
  obtain ⟨⟨⟨early, -⟩, -⟩, -, -, separate⟩ := split
  obtain ⟨next', cell⟩ := holds.current.allocated (address, content) (by simp)
  refine ⟨head, memory, writes, chain, ?_, ⟨next', (elsewhere _ early).trans cell⟩, distinct, ?_⟩
  · refine holds.deferred.frame fun entry member => elsewhere _ fun again => ?_
    exact separate entry.1 (.inl again) entry.1 (List.mem_map_of_mem member) rfl
  · intro other outside
    have unused := holds.only other fun member =>
      outside ((permuted.map Prod.fst).mem_iff.mp member)
    refine (elsewhere _ fun again => outside ?_).trans unused
    simp only [DmaEntries.addresses, List.map_cons, List.map_append, List.mem_cons,
      List.mem_append]
    exact .inr (.inl (.inl again))

/-- The entry is released. -/
theorem Unlinked.dispose {address : Nat} {content : DmaEntry}
    (unlinked : s.Unlinked live pending address content) :
    s.dispose address = some
      { s with
        memory := Function.update s.memory address none
        completed := content.desc :: s.completed
        released := content.desc :: s.released } ∧
      ({ s with
        memory := Function.update s.memory address none
        completed := content.desc :: s.completed
        released := content.desc :: s.released }).Holds live pending := by
  obtain ⟨next, cell⟩ := unlinked.cell
  have distinct := List.nodup_cons.mp unlinked.distinct
  simp only [List.map_append, List.mem_append, not_or] at distinct
  obtain ⟨⟨first, second⟩, distinct⟩ := distinct
  refine ⟨by simp [DmaStore.dispose, cell, complete, release], ?_⟩
  refine ⟨unlinked.current.update first _, unlinked.deferred.update second _, ?_, ?_⟩
  · simpa only [DmaEntries.addresses, List.map_append] using distinct
  · intro other outside
    by_cases same : other = address
    · rw [same]
      exact Function.update_self ..
    · refine (Function.update_of_ne same _ _).trans (unlinked.only other ?_)
      simpa [same] using outside

/-- The release of the entry is put off. -/
theorem Unlinked.defer {address : Nat} {content : DmaEntry}
    (unlinked : s.Unlinked live pending address content) :
    s.defer address = some
      { s with
        memory := Function.update s.memory address (some ⟨content, s.dmaPendingFree⟩)
        dmaPendingFree := some address } ∧
      ({ s with
        memory := Function.update s.memory address (some ⟨content, s.dmaPendingFree⟩)
        dmaPendingFree := some address }).Holds live ((address, content) :: pending) := by
  obtain ⟨next, cell⟩ := unlinked.cell
  have distinct := List.nodup_cons.mp unlinked.distinct
  simp only [List.map_append, List.mem_append, not_or] at distinct
  obtain ⟨⟨first, second⟩, -⟩ := distinct
  refine ⟨by simp [DmaStore.defer, cell], ?_⟩
  refine ⟨unlinked.current.update first _, unlinked.deferred.push second content, ?_, ?_⟩
  · refine ((List.perm_middle.symm.map Prod.fst).nodup_iff).mp unlinked.distinct
  · intro other outside
    have moved : other ∉ DmaEntries.addresses ((address, content) :: (live ++ pending)) :=
      fun member => outside ((List.perm_middle.symm.map Prod.fst).mem_iff.mp member)
    have same : other ≠ address := fun same => moved (by simp [same])
    exact (Function.update_of_ne same _ _).trans (unlinked.only other moved)

/-! ## The calls -/

/-- The first entry that is wanted, where there is at most one. -/
theorem cut_of_filter (wanted : DmaEntry → Bool) {entries : DmaEntries}
    (single : (entries.filter fun entry => wanted entry.2).length ≤ 1) :
    (∀ entry ∈ entries, wanted entry.2 = false) ∨
      ∃ before address content after, entries = before ++ (address, content) :: after ∧
        wanted content = true ∧ (∀ entry ∈ before, wanted entry.2 = false) ∧
        ∀ entry ∈ after, wanted entry.2 = false := by
  by_cases present : ∃ entry ∈ entries, wanted entry.2 = true
  · right
    obtain ⟨⟨address, content⟩, found⟩ : ∃ entry, entries.find? (fun entry => wanted entry.2) =
        some entry := by
      refine Option.isSome_iff_exists.mp ?_
      simpa using present
    obtain ⟨isWanted, before, after, rfl, differ⟩ := List.find?_eq_some_iff_append.mp found
    have early : ∀ entry ∈ before, wanted entry.2 = false := fun entry member => by
      simpa using differ entry member
    refine ⟨before, address, content, after, rfl, isWanted, early, fun entry member => ?_⟩
    by_contra again
    have counted : 0 < (after.filter fun entry => wanted entry.2).length :=
      List.length_pos_of_mem (List.mem_filter.mpr ⟨member, by simpa using again⟩)
    rw [List.filter_append, List.filter_cons_of_pos (by exact isWanted), List.length_append,
      List.length_cons] at single
    omega
  · left
    exact fun entry member => Bool.eq_false_iff.mpr fun found => present ⟨entry, member, found⟩

/-- The descriptors of the lists around an entry. -/
theorem count_descs (before after : DmaEntries) (address : Nat) (content : DmaEntry) (desc : Nat) :
    (DmaEntries.descs (before ++ (address, content) :: after)).count desc =
      (DmaEntries.descs (before ++ after)).count desc + [content.desc].count desc := by
  simp only [DmaEntries.descs, List.map_append, List.map_cons, List.count_append, List.count_cons,
    List.count_nil]
  omega

section Move

variable {before after : DmaEntries} {address : Nat} {content : DmaEntry} {t : DmaStore}

/-- The counts after an entry was unlinked and released. -/
theorem Counts.dispose (counts : s.Counts (before ++ (address, content) :: after) pending)
    (created : t.created = s.created) (prepared : t.prepared = s.prepared)
    (completed : t.completed = content.desc :: s.completed)
    (released : t.released = content.desc :: s.released) :
    t.Counts (before ++ after) pending := by
  have fewer : (before ++ after).Sublist (before ++ (address, content) :: after) :=
    (List.sublist_cons_self _ _).append_left before
  have owned : content.desc ∈ s.prepared := counts.prepared (address, content) (by simp)
  refine ⟨fun desc => ?_, fun desc => ?_, fun entry member => ?_, ?_, ?_, ?_⟩
  · have once := counts.once desc
    rw [count_descs] at once
    rw [created, released, List.count_cons, ← once, List.count_singleton]
    omega
  · rw [completed, prepared, released, List.count_cons, List.count_cons, counts.completed]
    by_cases same : content.desc = desc
    · rw [← same, if_pos owned, if_pos owned]
    · simp [same]
  · rw [prepared]
    refine counts.prepared entry ?_
    rcases List.mem_append.mp member with early | late
    · exact List.mem_append_left _ (fewer.mem early)
    · exact List.mem_append_right _ late
  · rw [prepared, created]
    exact counts.known
  · exact counts.virts.sublist (fewer.map _)
  · exact counts.physes.sublist (fewer.map _)

/-- The counts after an entry was unlinked and put off. -/
theorem Counts.defer (counts : s.Counts (before ++ (address, content) :: after) pending)
    (created : t.created = s.created) (prepared : t.prepared = s.prepared)
    (completed : t.completed = s.completed) (released : t.released = s.released) :
    t.Counts (before ++ after) ((address, content) :: pending) := by
  have fewer : (before ++ after).Sublist (before ++ (address, content) :: after) :=
    (List.sublist_cons_self _ _).append_left before
  refine ⟨fun desc => ?_, fun desc => ?_, fun entry member => ?_, ?_, ?_, ?_⟩
  · have once := counts.once desc
    rw [count_descs] at once
    have moved := count_descs [] pending address content desc
    rw [List.nil_append, List.nil_append] at moved
    rw [created, released, ← once, moved]
    omega
  · rw [completed, prepared, released, counts.completed]
  · rw [prepared]
    refine counts.prepared entry ?_
    simp only [List.mem_append, List.mem_cons] at member ⊢
    tauto
  · rw [prepared, created]
    exact counts.known
  · exact counts.virts.sublist (fewer.map _)
  · exact counts.physes.sublist (fewer.map _)

end Move

/-- One entry is unlinked, and released or put off. -/
theorem Tracks.freeEntry (tracks : s.Tracks live pending) {wanted : DmaEntry → Bool}
    (single : (live.filter fun entry => wanted entry.2).length ≤ 1) (preemptible : Bool) :
    ∃ after, s.freeEntry wanted preemptible = some after ∧
      after.Tracks (live.filter fun entry => !wanted entry.2)
        (pendingAfter preemptible (live.filter fun entry => wanted entry.2) pending) := by
  rcases cut_of_filter _ single with differ | ⟨before, address, content, after, rfl, isWanted,
      early, late⟩
  · have none : live.filter (fun entry => wanted entry.2) = [] :=
      List.filter_eq_nil_iff.mpr fun entry member => by simp [differ entry member]
    have all : live.filter (fun entry => !wanted entry.2) = live :=
      List.filter_eq_self.mpr fun entry member => by simp [differ entry member]
    have found := tracks.current.find_eq_none wanted tracks.enough .head differ
    refine ⟨s, by simp [DmaStore.freeEntry, found], ?_⟩
    rw [none, all, pendingAfter, List.nil_append, ite_self]
    exact tracks
  · have kept : (before ++ (address, content) :: after).filter (fun entry => !wanted entry.2) =
        before ++ after := by
      rw [List.filter_append, List.filter_cons_of_neg (by simp [isWanted]),
        List.filter_eq_self.mpr fun entry member => by simp [early entry member],
        List.filter_eq_self.mpr fun entry member => by simp [late entry member]]
    have moved : (before ++ (address, content) :: after).filter (fun entry => wanted entry.2) =
        [(address, content)] := by
      rw [List.filter_append, List.filter_cons_of_pos (by exact isWanted),
        List.filter_eq_nil_iff.mpr fun entry member => by simp [early entry member],
        List.filter_eq_nil_iff.mpr fun entry member => by simp [late entry member]]
      rfl
    obtain ⟨next, cell, later, found⟩ :=
      tracks.current.find_eq_some wanted tracks.enough .head early isWanted
    obtain ⟨head, memory, writes, unlinked⟩ := tracks.toHolds.unlink later
    rw [kept, moved]
    cases preemptible with
    | true =>
        obtain ⟨disposes, holds⟩ := unlinked.dispose
        refine ⟨_, ?_, ⟨holds, tracks.toCounts.dispose rfl rfl rfl rfl⟩⟩
        simp [DmaStore.freeEntry, found, writes, disposes]
    | false =>
        obtain ⟨defers, holds⟩ := unlinked.defer
        refine ⟨_, ?_, ⟨holds, tracks.toCounts.defer rfl rfl rfl rfl⟩⟩
        simp [DmaStore.freeEntry, found, writes, defers]

/-- The entry with this key is unique. -/
theorem length_filter_le_one {key : DmaEntry → Nat} {entries : DmaEntries}
    (distinct : (entries.map fun entry => key entry.2).Nodup) (value : Nat) :
    (entries.filter fun entry => decide (key entry.2 = value)).length ≤ 1 := by
  have counted := List.nodup_iff_count_le_one.mp distinct value
  rw [List.count_eq_countP, List.countP_map, List.countP_eq_length_filter] at counted
  exact counted

theorem Tracks.frees (tracks : s.Tracks live pending) :
    (∀ virt, s.Frees live pending (freeCoherent virt) fun entry => entry.virt = virt) ∧
      ∀ phys, s.Frees live pending (freeCoherentByPhys phys) fun entry => entry.phys = phys := by
  refine ⟨fun virt preemptible => ?_, fun phys preemptible => ?_⟩
  · have single := length_filter_le_one tracks.virts virt
    exact ⟨single, tracks.freeEntry single preemptible⟩
  · have single := length_filter_le_one tracks.physes phys
    exact ⟨single, tracks.freeEntry single preemptible⟩

/-- The entry with this physical address remembers the buffer that it stands for. -/
def register (phys origVa : Nat) (entry : Nat × DmaEntry) : Nat × DmaEntry :=
  (entry.1, if entry.2.phys = phys then { entry.2 with origVa } else entry.2)

theorem map_register {phys : Nat} (origVa : Nat) {entries : DmaEntries}
    (differ : ∀ entry ∈ entries, decide (entry.2.phys = phys) = false) :
    entries.map (register phys origVa) = entries := by
  have same : ∀ entry ∈ entries, register phys origVa entry = id entry := by
    intro entry member
    rw [register, if_neg (of_decide_eq_false (differ entry member))]
    rfl
  rw [List.map_congr_left same, List.map_id]

theorem Tracks.setBounceOrigVA (tracks : s.Tracks live pending) (phys origVa : Nat) :
    ∃ after, s.setBounceOrigVA phys origVa = some after ∧
      after.Tracks (live.map (register phys origVa)) pending := by
  let wanted (entry : DmaEntry) : Bool := entry.phys = phys
  have single := length_filter_le_one tracks.physes phys
  rcases cut_of_filter wanted single with differ |
    ⟨before, address, content, after, rfl, isWanted, early, late⟩
  · have found := tracks.current.find_eq_none wanted tracks.enough .head differ
    refine ⟨s, by simp [DmaStore.setBounceOrigVA, wanted, found], ?_⟩
    rw [map_register origVa differ]
    exact tracks
  · obtain ⟨next, cell, later, found⟩ :=
      tracks.current.find_eq_some wanted tracks.enough .head early isWanted
    have mapped : (before ++ (address, content) :: after).map (register phys origVa) =
        before ++ (address, { content with origVa }) :: after := by
      rw [List.map_append, List.map_cons, map_register origVa early, map_register origVa late,
        register, if_pos (of_decide_eq_true isWanted)]
    have same : ∀ (key : Nat × DmaEntry → Nat), key (address, { content with origVa }) =
        key (address, content) → ∀ rest : DmaEntries,
          (before ++ (address, { content with origVa }) :: after ++ rest).map key =
            (before ++ (address, content) :: after ++ rest).map key := by
      intro key unchanged rest
      simp [unchanged]
    have listed : DmaEntries.addresses (before ++ (address, { content with origVa }) :: after ++
        pending) = DmaEntries.addresses (before ++ (address, content) :: after ++ pending) :=
      same Prod.fst rfl pending
    have apart : address ∉ DmaEntries.addresses pending := by
      have distinct := tracks.distinct
      rw [DmaEntries.addresses, List.map_append, List.nodup_append] at distinct
      exact fun again => distinct.2.2 address (by simp) address again rfl
    let registered : DmaStore := { s with
      memory := Function.update s.memory address (some ⟨{ content with origVa }, next⟩) }
    have done : s.setBounceOrigVA phys origVa = some registered := by
      simp [DmaStore.setBounceOrigVA, wanted, found, registered]
    rw [mapped]
    refine ⟨registered, done,
      ⟨tracks.current.overwrite cell, tracks.deferred.update apart _, ?_, ?_⟩, ?_⟩
    · rw [listed]
      exact tracks.distinct
    · intro other outside
      rw [listed] at outside
      have differs : other ≠ address := fun same => outside (by simp [same])
      exact (Function.update_of_ne differs _ _).trans (tracks.only other outside)
    · refine ⟨fun desc => ?_, tracks.completed, fun entry member => ?_, tracks.known, ?_, ?_⟩
      · have descs := same (fun entry => entry.2.desc) rfl []
        rw [List.append_nil, List.append_nil] at descs
        rw [DmaEntries.descs, descs]
        exact tracks.once desc
      · have descs := same (fun entry => entry.2.desc) rfl pending
        have kept := List.mem_map_of_mem (f := fun entry : Nat × DmaEntry => entry.2.desc) member
        rw [descs] at kept
        obtain ⟨old, known, desc⟩ := List.mem_map.mp kept
        exact desc ▸ tracks.prepared old known
      · have virts := same (fun entry => entry.2.virt) rfl []
        rw [List.append_nil, List.append_nil] at virts
        rw [virts]
        exact tracks.virts
      · have physes := same (fun entry => entry.2.phys) rfl []
        rw [List.append_nil, List.append_nil] at physes
        rw [physes]
        exact tracks.physes

/-! ## Releasing a list -/

/-- A list is released from its front to its end. -/
theorem disposeAll_eq {entries : DmaEntries} {pointer : Option Nat} {bound : Nat}
    (chain : Chain s.memory pointer entries) (distinct : entries.addresses.Nodup)
    (enough : entries.length ≤ bound) :
    ∃ memory, disposeAll bound pointer s = some { s with
        memory := memory
        completed := entries.descs.reverse ++ s.completed
        released := entries.descs.reverse ++ s.released } ∧
      ∀ address, memory address =
        if address ∈ entries.addresses then none else s.memory address := by
  induction entries generalizing s pointer bound with
  | nil =>
      obtain rfl : pointer = none := chain
      exact ⟨s.memory, by cases bound <;> rfl, fun _ => rfl⟩
  | cons entry rest ih =>
      obtain ⟨rfl, next, cell, later⟩ := chain
      obtain ⟨bound, rfl⟩ : ∃ less, bound = less + 1 :=
        Nat.exists_eq_add_one.mpr (Nat.lt_of_lt_of_le (Nat.succ_pos _) enough)
      have distinct := List.nodup_cons.mp distinct
      have apart : entry.1 ∉ DmaEntries.addresses rest := distinct.1
      have disposed : s.dispose entry.1 = some
          { s with
            memory := Function.update s.memory entry.1 none
            completed := entry.2.desc :: s.completed
            released := entry.2.desc :: s.released } := by
        simp [DmaStore.dispose, cell, complete, release]
      obtain ⟨memory, disposes, empties⟩ := ih (s := { s with
          memory := Function.update s.memory entry.1 none
          completed := entry.2.desc :: s.completed
          released := entry.2.desc :: s.released }) (later.update apart none) distinct.2
        (Nat.le_of_succ_le_succ enough)
      refine ⟨memory, ?_, fun address => ?_⟩
      · simp [disposeAll, cell, disposed, disposes]
      · rw [empties]
        by_cases same : address = entry.1
        · simp [same]
        · have listed : address ∈ DmaEntries.addresses (entry :: rest) ↔
              address ∈ DmaEntries.addresses rest := by simp [same]
          simp only [listed, Function.update_of_ne same]

/-- The entries of one list are released. -/
theorem disposeAll_tracks {entries kept : DmaEntries} (tracks : s.Tracks live pending)
    (split : (live ++ pending).Perm (entries ++ kept)) {pointer : Option Nat}
    (chain : Chain s.memory pointer entries) (dmaList dmaPendingFree : Option Nat) :
    ∃ memory, disposeAll s.created pointer { s with dmaList, dmaPendingFree } = some { s with
        memory, dmaList, dmaPendingFree
        completed := entries.descs.reverse ++ s.completed
        released := entries.descs.reverse ++ s.released } ∧
      (∀ address ∉ kept.addresses, memory address = none) ∧
      (∀ address ∈ kept.addresses, memory address = s.memory address) ∧
      ∀ desc, kept.descs.count desc + (entries.descs.reverse ++ s.released).count desc =
          (if desc < s.created then 1 else 0) ∧
        (entries.descs.reverse ++ s.completed).count desc =
          if desc ∈ s.prepared then (entries.descs.reverse ++ s.released).count desc else 0 := by
  have distinct := (split.map Prod.fst).nodup_iff.mp tracks.distinct
  rw [List.map_append, List.nodup_append] at distinct
  obtain ⟨nodup, -, apart⟩ := distinct
  have enough : entries.length ≤ s.created := by
    have both := tracks.length_le
    rw [split.length_eq, List.length_append] at both
    omega
  obtain ⟨memory, disposes, empties⟩ :=
    disposeAll_eq (s := { s with dmaList, dmaPendingFree }) chain nodup enough
  refine ⟨memory, disposes, fun address outside => ?_, fun address inside => ?_, fun desc => ?_⟩
  · rw [empties]
    split
    · rfl
    · rename_i absent
      refine tracks.only address fun member => ?_
      have listed := (split.map Prod.fst).mem_iff.mp member
      rw [List.map_append, List.mem_append] at listed
      exact listed.elim absent outside
  · rw [empties, if_neg fun again => apart address again address inside rfl]
  · have descs := (split.map fun entry => entry.2.desc).count_eq desc
    have once := tracks.once desc
    have completed := tracks.completed desc
    simp only [List.map_append, List.count_append] at descs
    simp only [DmaEntries.descs, List.count_append, List.count_reverse] at once ⊢
    refine ⟨by omega, ?_⟩
    split
    · rename_i owned
      rw [if_pos owned] at completed
      omega
    · rename_i foreign
      rw [if_neg foreign] at completed
      have none : (entries.map fun entry => entry.2.desc).count desc = 0 := by
        refine List.count_eq_zero.mpr fun member => foreign ?_
        obtain ⟨entry, known, rfl⟩ := List.mem_map.mp member
        exact tracks.prepared entry (split.mem_iff.mpr (List.mem_append_left _ known))
      omega

/-- The pending entries are released. -/
theorem Tracks.drainPendingFree (tracks : s.Tracks live pending) :
    ∃ after, s.drainPendingFree = some after ∧ after.Tracks live [] ∧
      after.created = s.created ∧ after.prepared = s.prepared := by
  obtain ⟨memory, drains, empty, same, counts⟩ := disposeAll_tracks tracks List.perm_append_comm
    tracks.deferred s.dmaList none
  refine ⟨_, drains, ⟨⟨?_, rfl, ?_, ?_⟩, fun desc => ?_, fun desc => (counts desc).2, ?_,
    tracks.known, tracks.virts, tracks.physes⟩, rfl, rfl⟩
  · exact tracks.current.frame fun entry member => same _ (List.mem_map_of_mem member)
  · rw [List.append_nil]
    exact tracks.current.nodup
  · rwa [List.append_nil]
  · exact (counts desc).1
  · intro entry member
    rw [List.append_nil] at member
    exact tracks.prepared entry (List.mem_append_left _ member)

/-- Nothing is left after the teardown. -/
theorem Tracks.tearsDown (tracks : s.Tracks live pending) : s.TearsDown := by
  obtain ⟨drained, drains, tracks, created, prepared⟩ := tracks.drainPendingFree
  have all : (live ++ []).Perm (live ++ []) := .refl _
  obtain ⟨memory, releases, empty, -, counts⟩ := disposeAll_tracks tracks all tracks.current none
    drained.dmaPendingFree
  have tears : s.teardown = some { drained with
      memory := memory
      dmaList := none
      completed := live.descs.reverse ++ drained.completed
      released := live.descs.reverse ++ drained.released } := by
    rw [DmaStore.teardown, drains]
    exact releases
  refine ⟨_, tears, fun address => empty address nofun, rfl, tracks.deferred, fun desc => ?_⟩
  obtain ⟨released, completed⟩ := counts desc
  rw [created, DmaEntries.descs, List.map_nil, List.count_nil, Nat.zero_add] at released
  refine ⟨released, ?_⟩
  rw [completed, released, prepared]
  by_cases owned : desc ∈ s.prepared
  · have below : desc < s.created := created ▸ tracks.known desc (prepared ▸ owned)
    rw [if_pos owned, if_pos owned, if_pos below]
  · rw [if_neg owned, if_neg owned]

/-! ## Allocating -/

/-- The next descriptor is nowhere yet. -/
theorem Counts.fresh (counts : s.Counts live pending) :
    live.descs.count s.created = 0 ∧ pending.descs.count s.created = 0 ∧
      s.released.count s.created = 0 ∧ s.created ∉ s.prepared := by
  have once := counts.once s.created
  rw [if_neg (Nat.lt_irrefl _)] at once
  have unknown : s.created ∉ s.prepared := fun owned =>
    absurd (counts.known s.created owned) (Nat.lt_irrefl _)
  exact ⟨by omega, by omega, by omega, unknown⟩

/-- A new descriptor that is released at once, with or without having been prepared. -/
theorem Counts.abandon (counts : s.Counts live pending) (ready : Bool) {t : DmaStore}
    (created : t.created = s.created + 1)
    (prepared : t.prepared = if ready then s.created :: s.prepared else s.prepared)
    (completed : t.completed = if ready then s.created :: s.completed else s.completed)
    (released : t.released = s.created :: s.released) : t.Counts live pending := by
  obtain ⟨early, late, unreleased, unknown⟩ := counts.fresh
  have kept : ∀ desc ∈ s.prepared, desc ∈ t.prepared := by
    intro desc owned
    rw [prepared]
    split
    · exact List.mem_cons_of_mem _ owned
    · exact owned
  refine ⟨fun desc => ?_, fun desc => ?_, fun entry member => ?_, fun desc owned => ?_,
    counts.virts, counts.physes⟩
  · have once := counts.once desc
    rw [created, released, List.count_cons]
    by_cases same : s.created = desc
    · subst same
      simp [early, late, unreleased]
    · rw [if_neg (by simpa using same), Nat.add_zero, once]
      split <;> split <;> omega
  · have once := counts.completed desc
    rw [completed, prepared, released, List.count_cons]
    by_cases same : s.created = desc
    · subst same
      rw [if_neg unknown] at once
      cases ready <;> simp [unknown, once, unreleased]
    · have differs : desc ≠ s.created := fun again => same again.symm
      cases ready <;> simp [once, same, differs]
  · exact kept _ (counts.prepared entry member)
  · rw [prepared] at owned
    rw [created]
    have below : ∀ {desc}, desc ∈ s.prepared → desc < s.created + 1 := fun owned =>
      Nat.lt_succ_of_lt (counts.known _ owned)
    cases ready with
    | false => exact below owned
    | true =>
        rcases List.mem_cons.mp owned with rfl | owned
        · exact Nat.lt_succ_self _
        · exact below owned

/-- A new buffer in front of the live list. -/
theorem Tracks.link (tracks : s.Tracks live pending) {address : Nat} {entry : DmaEntry} (ram : Ram)
    (free : s.memory address = none) (named : entry.desc = s.created)
    (apart : ∀ other ∈ live, other.2.virt ≠ entry.virt ∧ other.2.phys ≠ entry.phys) :
    (({ s with
      ram := ram
      created := s.created + 1
      prepared := s.created :: s.prepared }).link address entry).Tracks
        ((address, entry) :: live) pending := by
  obtain ⟨early, late, unreleased, unknown⟩ := tracks.fresh
  have unused : address ∉ DmaEntries.addresses (live ++ pending) := by
    intro member
    obtain ⟨other, listed, rfl⟩ := List.mem_map.mp member
    rcases List.mem_append.mp listed with listed | listed
    · obtain ⟨next, cell⟩ := tracks.current.allocated _ listed
      exact absurd (free.symm.trans cell) nofun
    · obtain ⟨next, cell⟩ := tracks.deferred.allocated _ listed
      exact absurd (free.symm.trans cell) nofun
  have outside := unused
  rw [DmaEntries.addresses, List.map_append, List.mem_append, not_or] at outside
  refine ⟨⟨?_, ?_, ?_, ?_⟩, ⟨fun desc => ?_, fun desc => ?_, ?_, ?_, ?_, ?_⟩⟩
  · exact tracks.current.push outside.1 entry
  · exact tracks.deferred.update outside.2 _
  · exact List.nodup_cons.mpr ⟨unused, tracks.distinct⟩
  · intro other elsewhere
    have differs : other ≠ address := fun same => elsewhere (by simp [same])
    refine (Function.update_of_ne differs _ _).trans (tracks.only other fun member => ?_)
    exact elsewhere (List.mem_cons_of_mem _ member)
  · have once := tracks.once desc
    have front := count_descs [] live address entry desc
    rw [List.nil_append, List.nil_append, named, List.count_singleton] at front
    rw [DmaStore.link, front]
    by_cases same : s.created = desc
    · subst same
      simp [early, late, unreleased]
    · rw [if_neg (by simpa using same), Nat.add_zero]
      show live.descs.count desc + pending.descs.count desc + s.released.count desc =
        if desc < s.created + 1 then 1 else 0
      rw [once]
      split <;> split <;> omega
  · have completed := tracks.completed desc
    show s.completed.count desc =
      if desc ∈ s.created :: s.prepared then s.released.count desc else 0
    by_cases same : desc = s.created
    · subst same
      rw [if_neg unknown] at completed
      simp [completed, unreleased]
    · simp [completed, same]
  · intro other member
    show other.2.desc ∈ s.created :: s.prepared
    rcases List.mem_cons.mp member with rfl | member
    · exact named ▸ List.mem_cons_self
    · exact List.mem_cons_of_mem _ (tracks.prepared other member)
  · intro desc owned
    rcases List.mem_cons.mp owned with rfl | owned
    · exact Nat.lt_succ_self _
    · exact Nat.lt_succ_of_lt (tracks.known desc owned)
  · refine List.nodup_cons.mpr ⟨fun member => ?_, tracks.virts⟩
    obtain ⟨other, listed, same⟩ := List.mem_map.mp member
    exact (apart other listed).1 same
  · refine List.nodup_cons.mpr ⟨fun member => ?_, tracks.physes⟩
    obtain ⟨other, listed, same⟩ := List.mem_map.mp member
    exact (apart other listed).2 same

/-- An allocation fails, and may clear the buffer that it gives back, or it puts a cleared buffer
in front of the live list. -/
theorem Tracks.allocCoherent_cases (tracks : s.Tracks live pending) {size : Nat} {grant : DmaGrant}
    (admitted : s.Admits (.allocCoherent size grant)) :
    ((s.allocCoherent size grant).2 = 0 ∧ (s.allocCoherent size grant).1.Tracks live pending ∨
      grant.virt ≠ 0 ∧ grant.phys ≠ 0 ∧ (s.allocCoherent size grant).2 = grant.virt ∧
      ∃ address desc, (s.allocCoherent size grant).1.Tracks
        ((address, ⟨desc, grant.virt, grant.phys, size, 0⟩) :: live) pending) ∧
    ((s.allocCoherent size grant).1.ram = s.ram ∨
      (s.allocCoherent size grant).1.ram = s.ram.write grant.virt (Bytes.zeros size)) := by
  obtain ⟨unallocated, apart⟩ := admitted
  have holds := tracks.toHolds
  unfold DmaStore.allocCoherent
  by_cases desc : grant.desc = true
  case neg => exact ⟨.inl (by simpa [desc] using tracks), .inl (by simp [desc])⟩
  by_cases prepared : grant.prepared = true
  case neg =>
    simp only [desc, prepared]
    exact ⟨.inl ⟨rfl, ⟨holds.current, holds.deferred, holds.distinct, holds.only⟩,
      tracks.abandon false rfl rfl rfl rfl⟩, .inl rfl⟩
  by_cases buffer : grant.virt = 0 ∨ grant.phys = 0
  · simp only [desc, prepared, buffer]
    exact ⟨.inl ⟨rfl, ⟨holds.current, holds.deferred, holds.distinct, holds.only⟩,
      tracks.abandon true rfl rfl rfl rfl⟩, .inl rfl⟩
  have named := not_or.mp buffer
  cases entry : grant.entry with
  | none =>
      simp only [desc, prepared, buffer]
      exact ⟨.inl ⟨rfl, ⟨holds.current, holds.deferred, holds.distinct, holds.only⟩,
        tracks.abandon true rfl rfl rfl rfl⟩, .inr rfl⟩
  | some address =>
      simp only [desc, prepared, buffer]
      exact ⟨.inr ⟨named.1, named.2, rfl, address, _,
        tracks.link _ (unallocated address entry) rfl (apart live tracks.current)⟩, .inr rfl⟩

theorem Tracks.allocCoherent (tracks : s.Tracks live pending) {size : Nat} {grant : DmaGrant}
    (admitted : s.Admits (.allocCoherent size grant)) :
    ∃ live', (s.allocCoherent size grant).1.Tracks live' pending := by
  rcases (tracks.allocCoherent_cases admitted).1 with ⟨-, same⟩ | ⟨-, -, -, address, desc, more⟩
  · exact ⟨live, same⟩
  · exact ⟨_, more⟩

theorem Tracks.perform (tracks : s.Tracks live pending) {op : DmaOp} (admitted : s.Admits op) :
    ∃ after live' pending', s.perform op = some after ∧ after.Tracks live' pending' := by
  cases op with
  | allocCoherent size grant =>
      obtain ⟨live', tracks⟩ := tracks.allocCoherent admitted
      exact ⟨_, live', pending, rfl, tracks⟩
  | setBounceOrigVA phys origVa =>
      obtain ⟨after, done, tracks⟩ := tracks.setBounceOrigVA phys origVa
      exact ⟨after, _, _, done, tracks⟩
  | freeCoherent virt preemptible =>
      obtain ⟨-, after, done, tracks⟩ := tracks.frees.1 virt preemptible
      exact ⟨after, _, _, done, tracks⟩
  | freeCoherentByPhys phys preemptible =>
      obtain ⟨-, after, done, tracks⟩ := tracks.frees.2 phys preemptible
      exact ⟨after, _, _, done, tracks⟩
  | drainPendingFree =>
      obtain ⟨after, done, tracks, -⟩ := tracks.drainPendingFree
      exact ⟨after, _, _, done, tracks⟩

theorem Tracks.run (tracks : s.Tracks live pending) {ops : List DmaOp}
    (feasible : Feasible ops s) :
    ∃ after live' pending', s.run ops = some after ∧ after.Tracks live' pending' := by
  induction ops generalizing s live pending with
  | nil => exact ⟨s, live, pending, rfl, tracks⟩
  | cons op rest ih =>
      obtain ⟨after, live', pending', performed, tracks⟩ := tracks.perform feasible.1
      obtain ⟨last, live', pending', runs, tracks⟩ := ih tracks (feasible.2 after performed)
      refine ⟨last, live', pending', ?_, tracks⟩
      rw [DmaStore.run, List.foldlM_cons, performed]
      exact runs

end

/-- Whatever is called in whatever order, every buffer is in one place and is released once. -/
theorem dmaStore_sound (ram : Ram) (ops : List DmaOp) : Sound ram ops := by
  intro feasible
  obtain ⟨s, live, pending, runs, tracks⟩ := (tracks_start ram).run feasible
  exact ⟨s, live, pending, runs, tracks, tracks.frees.1, tracks.frees.2, tracks.tearsDown⟩

end DmaStore

end AirportRtw88
