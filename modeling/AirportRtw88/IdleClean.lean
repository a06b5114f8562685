import AirportRtw88.LinkStatus

/-!
# What an idle link has left

An operation that makes the link idle tears the connection down, each in its own way.  What
is left afterwards depends on what the tear-down finds, and nothing is left if the tear-down
reaches all that it finds.
-/

namespace AirportRtw88

open Interleave Bytes

namespace Link

/-- The station, the keys and the BlockAck agreements are gone. -/
structure Released (l : Link) : Prop where
  sta : l.sta = none
  ptkConf : l.ptkConf = none
  gtkConf : l.gtkConf = none
  txBaActive : l.txBaActive = false
  rxBa : l.hasRxBa = fun _ => false

/-- The interface is not associated, for `bss_conf` and for `cfg`. -/
def Unassociated (l : Link) : Prop :=
  ∀ vif, l.vif = some vif → vif.assoc = false ∧ vif.cfgAssoc = false

/-- Nothing is left of a connection. -/
structure Clean (l : Link) : Prop extends l.Released where
  unassociated : l.Unassociated

end Link

/-- What an operation that makes the link idle finds is what it tears down: `processRxDeauth`
leaves the station and the association of the interface, `doDisconnect` leaves `cfg.assoc`, and
`releaseSta` tears agreements down only with a station. -/
structure Op.TearsAllDown (op : Op) (l : Link) : Prop where
  deauthenticated : ∀ skb, op = .rxFrame skb → l.obeysDeauth skb = true →
    l.sta = none ∧ l.Unassociated
  disconnected : op ≠ .stop → op.tearsDown l = true → ∀ vif, l.vif = some vif →
    vif.cfgAssoc = false
  released : op = .stop ∨ op.tearsDown l = true → l.sta = none →
    l.txBaActive = false ∧ l.hasRxBa = fun _ => false

/-- Between the operations nothing is left in `IDLE`. -/
def IdleIsClean (admits : Op → Link → Prop) (s : Ieee80211) : Prop :=
  s.initial → ∀ now, rtw88.Watched (LinkObserver.plain admits).watch (⟨s, []⟩, ()) now →
    now.1.threads = [] → now.1.state.state = .idle → now.1.state.link.Clean

namespace Link

variable {l l' : Link}

theorem Released.of_joined (released : l.Released) (same : l'.joined = l.joined) : l'.Released := by
  simp only [joined, Prod.mk.injEq] at same
  obtain ⟨-, sta, ptkConf, gtkConf, txBaActive, rxBa⟩ := same
  exact ⟨sta.trans released.sta, ptkConf.trans released.ptkConf, gtkConf.trans released.gtkConf,
    txBaActive.trans released.txBaActive, rxBa.trans released.rxBa⟩

theorem Released.withoutSta (released : l.Released) : l.withoutSta.Released := by
  have absent : l.withoutSta = l := if_neg (by simp [released.sta])
  rwa [absent]

/-- Without keys, `releaseSta` leaves nothing, if there is a station or no agreement without
one. -/
theorem released_withoutSta (ptkConf : l.ptkConf = none) (gtkConf : l.gtkConf = none)
    (alone : l.sta = none → l.txBaActive = false ∧ l.hasRxBa = fun _ => false) :
    l.withoutSta.Released := by
  unfold Link.withoutSta
  split
  · exact ⟨rfl, ptkConf, gtkConf, rfl, rfl⟩
  · rename_i absent
    have absent : l.sta = none := Option.not_isSome_iff_eq_none.mp absent
    exact ⟨absent, ptkConf, gtkConf, (alone absent).1, (alone absent).2⟩

theorem Unassociated.of_vif (unassociated : l.Unassociated) (same : l'.vif = l.vif) :
    l'.Unassociated :=
  fun vif isVif => unassociated vif (same.symm.trans isVif)

/-- The phases in which no connection is registered. -/
def unregistered (l : Link) : Bool :=
  l.state = .idle ∨ l.state = .scanning ∨ l.state = .authenticating

/-- Nothing is left until a connection is registered. -/
def Settled (l : Link) : Prop :=
  l.unregistered = true ∨ l.state = .associating → l.Clean

/-- Nothing is left, apart from the association of an interface that `stop` removes. -/
structure CleanFor (l : Link) (op : Op) : Prop where
  released : l.Released
  unassociated : op ≠ .stop → l.Unassociated

/-- What holds in the course of an operation that starts with the link `first`: nothing is left
until a connection is registered, which is done in answer to an association response. -/
structure Settles (l : Link) (op : Op) (first : Link) : Prop where
  early : l.unregistered = true → l.CleanFor op
  associating : l.state = .associating →
    l.CleanFor op ∨ ∃ skb, op = .rxFrame skb ∧ first.associates skb = true

variable {op : Op} {first : Link}

theorem Clean.cleanFor (clean : l.Clean) : l.CleanFor op :=
  ⟨clean.toReleased, fun _ => clean.unassociated⟩

theorem CleanFor.of_joined (clean : l.CleanFor op) (same : l'.joined = l.joined) :
    l'.CleanFor op :=
  ⟨clean.released.of_joined same, fun notStop =>
    (clean.unassociated notStop).of_vif (congrArg Prod.fst same)⟩

/-- What `doDisconnect` leaves, if the operation tears down what it finds. -/
theorem cleanFor_tornDown (admitted : op.TearsAllDown l) (tearsDown : op.tearsDown l = true) :
    l.tornDown.CleanFor op := by
  refine ⟨released_withoutSta rfl rfl (admitted.released (.inr tearsDown)), fun notStop => ?_⟩
  intro vif isVif
  rw [show l.tornDown.vif = _ from vif_withoutSta _] at isVif
  obtain ⟨before, isBefore, rfl⟩ := Option.map_eq_some_iff.mp isVif
  exact ⟨rfl, admitted.disconnected notStop tearsDown before isBefore⟩

/-- Only a link in `ASSOCIATING` takes an association response. -/
theorem associating_of_associates {skb : Skb} (associates : l.associates skb = true) :
    l.state = .associating :=
  (of_decide_eq_true associates).2.2.2

/-- A change within a phase that takes parts of a connection away. -/
theorem Settles.of_less (settles : l.Settles op first) (state : l'.state = l.state)
    (less : l.CleanFor op → l'.CleanFor op) : l'.Settles op first := by
  have early : l'.unregistered = l.unregistered := by simp [unregistered, state]
  refine ⟨fun holds => less (settles.early (early.symm.trans holds)), fun associating => ?_⟩
  exact (settles.associating (state.symm.trans associating)).imp_left less

/-- A change after which nothing is left. -/
theorem CleanFor.settles (clean : l.CleanFor op) : l.Settles op first :=
  ⟨fun _ => clean, fun _ => .inl clean⟩

/-- A change that leads to a phase with a connection. -/
theorem Settles.of_joins (joins : l.state = .handshaking ∨ l.state = .connected) :
    l.Settles op first := by
  constructor
  · intro early
    rcases joins with joins | joins <;> simp [unregistered, joins] at early
  · intro associating
    rcases joins with joins | joins <;> simp [joins] at associating

end Link

section

variable {γ : Type} {observer : LinkObserver γ} {op : Op} {first : Ieee80211 × γ}
  {s t : Ieee80211} {r : γ}

theorem Ieee80211.unassociated_modifyVif (unassociated : s.link.Unassociated) {change : Vif → Vif}
    (keeps : ∀ vif, (change vif).assoc = false ∧ (change vif).cfgAssoc = vif.cfgAssoc) :
    (s.modifyVif change).link.Unassociated := by
  intro vif isVif
  obtain ⟨before, isBefore, rfl⟩ := Option.map_eq_some_iff.mp isVif
  exact ⟨(keeps before).1, (keeps before).2.trans (unassociated before isBefore).2⟩

theorem Change.settles {target : Ieee80211} {announced : Option Bool}
    (settled : first.1.link.Settled) (attached : first.1.link.Attached)
    (admitted : op.TearsAllDown first.1.link)
    (change : Change observer op first (s, r) target announced)
    (held : s.link.Settles op first.1.link) : target.link.Settles op first.1.link := by
  have stays : ∀ {phase}, s.state = phase →
      (phase = .idle ∨ phase = .scanning ∨ phase = .authenticating) →
      target.link.joined = s.link.joined → target.link.Settles op first.1.link := by
    intro phase isPhase early same
    have isPhase : s.link.state = phase := isPhase
    have early : s.link.unregistered = true := decide_eq_true (by rwa [isPhase])
    exact ((held.early early).of_joined same).settles
  have registers : ∀ {skb}, op = .rxFrame skb → first.1.link.associates skb = true →
      target.state = .associating → target.link.Settles op first.1.link := by
    intro skb isRx associates associating
    have associating : target.link.state = .associating := associating
    exact ⟨by simp [Link.unregistered, associating], fun _ => .inr ⟨skb, isRx, associates⟩⟩
  cases change with
  | quiet | cached | targeted | dialog | m1 | sent | poweredOn | poweredOff =>
      exact held.of_less rfl fun clean => clean.of_joined rfl
  | wiped =>
      refine held.of_less rfl fun clean => ⟨?_, fun notStop => ?_⟩
      · exact ⟨clean.released.sta, rfl, rfl, clean.released.txBaActive, clean.released.rxBa⟩
      · exact (clean.unassociated notStop).of_vif rfl
  | released =>
      rw [Ieee80211.link_withoutSta]
      refine held.of_less (by simp) fun clean => ⟨clean.released.withoutSta, fun notStop => ?_⟩
      exact (clean.unassociated notStop).of_vif (by simp)
  | unassociated | vifCleared =>
      refine held.of_less rfl fun clean => ⟨?_, fun notStop => ?_⟩
      · exact ⟨clean.released.sta, clean.released.ptkConf, clean.released.gtkConf,
          clean.released.txBaActive, clean.released.rxBa⟩
      · exact Ieee80211.unassociated_modifyVif (clean.unassociated notStop) fun vif => ⟨rfl, rfl⟩
  | interfaceRemoved =>
      refine held.of_less rfl fun clean => ⟨?_, fun _ => nofun⟩
      exact ⟨clean.released.sta, clean.released.ptkConf, clean.released.gtkConf,
        clean.released.txBaActive, clean.released.rxBa⟩
  | scanBegan idle => exact stays idle (.inl rfl) rfl
  | committed isConnect began fresh idle => exact stays idle (.inl rfl) rfl
  | associating authenticating => exact stays authenticating (.inr (.inr rfl)) rfl
  | switchedOff isPowerOff idle => exact stays idle (.inl rfl) rfl
  | gaveUp phase same =>
      rcases phase with scanning | authenticating | associating
      · exact stays scanning (.inr (.inl rfl)) rfl
      · exact stays authenticating (.inr (.inr rfl)) rfl
      · have clean : s.link.CleanFor op := by
          rcases held.associating associating with clean | ⟨skb, -, associates⟩
          · exact clean
          · have began := Link.associating_of_associates associates
            exact (settled (.inr began)).cleanFor.of_joined same
        exact Link.CleanFor.settles (clean.of_joined rfl)
  | registered isRx associates associating =>
      exact registers isRx associates associating
  | vifAssociated isRx associates associating =>
      exact registers isRx associates associating
  | handshaking => exact .of_joins (.inl rfl)
  | opened | completed => exact .of_joins (.inr rfl)
  | keyed shaking => exact .of_joins (.inl shaking.state)
  | emptied pairwise joins => exact .of_joins joins
  | keyedExternally connected => exact .of_joins (.inr connected)
  | rxAgreed isRx connected => exact .of_joins (.inr connected)
  | txAgreed isRx same fresh connected => exact .of_joins (.inr connected)
  | deauthenticated isRx obeys same =>
      obtain ⟨absent, unassociated⟩ := admitted.deauthenticated _ isRx obeys
      have noBuffers := Ieee80211.rxBa_rxBaTeardownAll { s with txBaActive := false }
      have released : s.leaveDeauthenticated.link.Released := by
        refine ⟨(congrArg Link.sta same).trans absent, congrArg Link.ptkConf same,
          congrArg Link.gtkConf same, rfl, ?_⟩
        exact congrArg (fun table tid => Option.isSome (table tid)) noBuffers
      have sameVif := congrArg Link.vif same
      exact Link.CleanFor.settles
        ⟨released, fun _ vif isVif => unassociated vif (sameVif.symm.trans isVif)⟩
  | abandoned same gone =>
      have attached : s.link.Attached := same ▸ attached
      exact stays (attached.stopped gone).state (.inl rfl) rfl
  | disconnected tearsDown same =>
      have joined : s.link.joined = first.1.link.tornDown.joined := congrArg Link.joined same
      have clean := Link.cleanFor_tornDown admitted tearsDown
      exact Link.CleanFor.settles ((clean.of_joined joined).of_joined rfl)
  | hardwareRemoved isStop removed left =>
      rcases left with idle | ⟨-, -, same⟩
      · exact stays idle (.inl rfl) rfl
      · have released := Link.released_withoutSta (l := first.1.link.wipeKeys) rfl rfl
          (admitted.released (.inl isStop))
        have clean : Link.CleanFor { first.1.link.wipeKeys.withoutSta with vif := none } op :=
          ⟨⟨released.sta, released.ptkConf, released.gtkConf, released.txBaActive, released.rxBa⟩,
            fun _ => nofun⟩
        exact Link.CleanFor.settles (clean.of_joined same)

/-- At the end of an operation the connection is registered, or nothing is left. -/
theorem Op.Finishes.settled (finishes : op.Finishes first t) (before : first.1.link.Settled)
    (settles : t.link.Settles op first.1.link) : t.link.Settled := by
  intro phase
  by_cases isStop : op = .stop
  · have stopped := finishes.stopped isStop
    have idle : t.link.unregistered = true := decide_eq_true (.inl stopped.state)
    refine ⟨(settles.early idle).released, fun vif isVif => ?_⟩
    simp [stopped.vif] at isVif
  · have cleans : t.link.CleanFor op → t.link.Clean := fun clean =>
      ⟨clean.released, clean.unassociated isStop⟩
    rcases phase with early | associating
    · exact cleans (settles.early early)
    · rcases settles.associating associating with clean | ⟨skb, isRx, associates⟩
      · exact cleans clean
      · have began := Link.associating_of_associates associates
        have same := (finishes.received skb isRx).association associates associating
        exact cleans ((before (.inr began)).cleanFor.of_joined same)

/-- Between the operations nothing is left until a connection is registered. -/
theorem settled_of_watched {s : Ieee80211} (initial : s.initial) {now : DriverConfig × Unit}
    (run : rtw88.Watched (LinkObserver.plain Op.TearsAllDown).watch (⟨s, []⟩, ()) now)
    (idle : now.1.threads = []) : now.1.state.link.Settled := by
  have initially : s.link.Settled := by
    obtain ⟨attached, -, rfl⟩ := initial
    refine fun _ => ⟨⟨rfl, rfl, rfl, rfl, rfl⟩, ?_⟩
    rintro vif ⟨⟩
    exact ⟨rfl, rfl⟩
  have kept : ∀ op first t r,
      Begins (LinkObserver.plain Op.TearsAllDown)
        (fun s _ => s.link.Attached ∧ s.link.Settled) op first →
      Walk (LinkObserver.plain Op.TearsAllDown) op first t r → op.Finishes first t →
      t.link.Attached ∧ t.link.Settled := by
    intro op first t r begins walk finishes
    obtain ⟨_, ⟨attached, settled⟩, admitted, -⟩ := begins.before
    refine ⟨walk.attached finishes attached, ?_⟩
    have settles : t.link.Settles op first.1.link := by
      refine walk.invariant (fun l _ => l.Settles op first.1.link) ?_ ?_ ?_ ?_
      · exact ⟨fun early => (settled (.inl early)).cleanFor,
          fun associating => .inl (settled (.inr associating)).cleanFor⟩
      · exact fun _ _ _ _ change held => change.settles settled attached admitted held
      · exact fun _ _ _ _ held => held
      · exact fun _ _ _ held => held
    exact finishes.settled settled settles
  exact (watched_idle kept initial.sound ⟨initial.attached, initially⟩ run idle).2.2

end

/-- `IDLE` is clean as long as every tear-down reaches what it finds. -/
theorem idle_isClean (s : Ieee80211) : IdleIsClean Op.TearsAllDown s := by
  intro initial now run idle isIdle
  have isIdle : now.1.state.link.state = .idle := isIdle
  exact settled_of_watched initial run idle (.inl (decide_eq_true (.inl isIdle)))

namespace Scenario

/-- A connection to an open network that is given up. -/
def disconnected : List (Turn Answer Op) :=
  attempt ++ associate ++ .start (.cmdDisconnect 0) [] :: List.replicate 5 (goOn 0)

def associatedInIdle : Option Bool := do
  let (config, _) ←
    rtw88.playAlone (LinkObserver.plain fun _ _ => True).watch (start, ()) disconnected
  return config.threads.isEmpty && config.state.state = .idle &&
    config.state.link.vif.any Vif.cfgAssoc

theorem associatedInIdle_true : associatedInIdle = some true := by
  decide +kernel

end Scenario

theorem not_idle_isClean : ¬ ∀ s, IdleIsClean (fun _ _ => True) s := by
  intro clean
  have run := Scenario.associatedInIdle_true
  simp only [Scenario.associatedInIdle, Option.bind_eq_bind, Option.bind_eq_some_iff, Prod.exists,
    Option.pure_def, Option.some.injEq, Bool.and_eq_true, decide_eq_true_eq,
    Option.any_eq_true] at run
  obtain ⟨config, _, played, ⟨idle, isIdle⟩, vif, isVif, associated⟩ := run
  have watched := System.watched_of_playAlone (fun _ _ _ => trivial)
    (fun _ _ _ _ _ => trivial) played
  have left := clean _ ⟨Scenario.attachment, rfl, rfl⟩ _ watched (List.isEmpty_iff.mp idle) isIdle
  simp [(left.unassociated vif isVif).2] at associated

end AirportRtw88
