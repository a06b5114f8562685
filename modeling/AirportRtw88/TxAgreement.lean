import AirportRtw88.LinkStatus

/-!
# The uplink BlockAck agreement

`_txBaActive` stands for an agreement with the access point: a request that was sent, a
response that accepts it, and no teardown since.  The driver does not compare a response with
its request, so the agreement is real only if the access point answers nothing but requests.
-/

namespace AirportRtw88

open Interleave Bytes Relation

/-- What is exchanged about the uplink agreement, in a phase of the state machine. -/
inductive Exchange : Type where
  | requested (phase : Nat) (token : UInt8) (tid : Nat)
  | accepted (phase : Nat) (token : UInt8) (tid : Nat)
  | ended (phase tid : Nat)
  deriving DecidableEq

def Exchange.phase : Exchange → Nat
  | .requested phase _ _ => phase
  | .accepted phase _ _ => phase
  | .ended phase _ => phase

/-- What was exchanged, the last one first, and the DELBA that is being handled, with its phase
and TID. -/
structure Exchanges where
  history : List Exchange
  ending : Option (Nat × Nat)

/-- What was exchanged once the operation under way has returned. -/
def Exchanges.settled (r : Exchanges) : List Exchange :=
  (r.ending.map fun (phase, tid) => .ended phase tid).toList ++ r.history

/-- A request was sent, a response with its token came after it, and no teardown since. -/
def Agreed (history : List Exchange) (phase tid : Nat) : Prop :=
  ∃ newer between older token,
    history = newer ++ .accepted phase token tid ::
      (between ++ .requested phase token tid :: older) ∧
    .ended phase tid ∉ newer

/-- The uplink agreement is up only if it was agreed in the current association. -/
def Ieee80211.Validated (s : Ieee80211) (history : List Exchange) : Prop :=
  s.txBaActive = true → s.state = .connected ∧ Agreed history s.phase s.baTid

/-- A BlockAck action arrives. -/
def Exchanges.receive (r : Exchanges) (phase : Nat) (b : Bytes) : Exchanges where
  history :=
    (if b.acceptsTxAgreement (b.le16At 5 / 4 % 16) then
      [.accepted phase (b.byte 2) (b.le16At 5 / 4 % 16)] else []) ++ r.settled
  ending := if b.endsTxAgreement (b.le16At 2 / 4096) then some (phase, b.le16At 2 / 4096) else none

/-- An operation starts, perhaps with a BlockAck action that arrives. -/
def Exchanges.start (r : Exchanges) (phase : Nat) : Option Bytes → Exchanges
  | none => ⟨r.settled, none⟩
  | some b => r.receive phase b

/-- The BlockAck action that an operation handles. -/
def Op.backAction (op : Op) (l : Link) : Option Bytes :=
  match op with
  | .rxFrame skb => l.backAction skb
  | _ => none

/-- A BlockAck frame is sent. -/
def Exchanges.send (r : Exchanges) (phase : Nat) (skb : TxSkb) : Exchanges :=
  if skb.isAddbaRequest then
    { r with
      history := .requested phase (skb.data.byte 26) (skb.data.le16At 27 / 4 % 16) :: r.history }
  else r

/-- The exchanges about the uplink agreement, while operations start only if they are
admitted. -/
def exchanges (admits : Op → Link → Exchanges → Prop) : LinkObserver Exchanges where
  starts := admits
  begins op l r := r.start l.phase (op.backAction l)
  sees sight l r :=
    match sight with
    | .agreement skb => r.send l.phase skb
    | _ => r
  allows _ _ _ := True

/-- A response that accepts the agreement, while none is up, answers a request that was sent in
the same association. -/
def Op.AnswersRequest (op : Op) (l : Link) (r : Exchanges) : Prop :=
  ∀ b, op.backAction l = some b → b.acceptsTxAgreement l.baTid = true → l.txBaActive = false →
    .requested l.phase (b.byte 2) l.baTid ∈ r.settled

/-- In every state that is reached the agreement is valid, and `txDataFrame` marks only QoS
frames for aggregation, and only while it is up. -/
def TxAgreementValid (admits : Op → Link → Exchanges → Prop) (s : Ieee80211) : Prop :=
  s.initial → ∀ now, rtw88.Watched (exchanges admits).watch (⟨s, []⟩, ⟨[], none⟩) now →
    now.1.state.Validated now.2.history ∧
    (now.1.threads = [] → now.1.state.Validated now.2.settled) ∧
    ∀ move config' skb, rtw88.Step now.1 move config' →
      (exchanges admits).watch.Admits now.1 now.2 move → move.stop = .waits (.tx .data skb) →
      skb.flags &&& txCtlAmpdu ≠ 0 →
      skb.data.isDataQos = true ∧ config'.state.txBaActive = true ∧
        config'.state.Validated ((exchanges admits).watch.after move now.1 config' now.2).history

/-! ## Histories -/

section

variable {history : List Exchange} {phase tid : Nat}

theorem Agreed.cons (agreed : Agreed history phase tid) {event : Exchange}
    (other : event ≠ .ended phase tid) : Agreed (event :: history) phase tid := by
  obtain ⟨newer, between, older, token, rfl, stands⟩ := agreed
  refine ⟨event :: newer, between, older, token, rfl, fun member => ?_⟩
  rcases List.mem_cons.mp member with same | member
  · exact other same.symm
  · exact stands member

theorem agreed_of_requested {token : UInt8} (requested : .requested phase token tid ∈ history) :
    Agreed (.accepted phase token tid :: history) phase tid := by
  obtain ⟨between, older, rfl⟩ := List.append_of_mem requested
  exact ⟨[], between, older, token, rfl, List.not_mem_nil⟩

end

section

variable {admits : Op → Link → Exchanges → Prop} {op : Op} {first : Ieee80211 × Exchanges}
  {s t : Ieee80211} {r : Exchanges}

/-- What holds in the course of an operation that starts in `first`: a request of this phase was
sent by a connected station, which is still registered unless it is being torn down, and the
agreement is valid. -/
structure Accounted (op : Op) (first : Ieee80211 × Exchanges) (l : Link)
    (r : Exchanges) : Prop where
  ending : r.ending = first.2.ending
  baTid : l.baTid = first.1.baTid
  phases : ∀ event ∈ r.settled, event.phase ≤ l.phase
  stations : ∀ token tid, .requested l.phase token tid ∈ r.history → l.state = .connected ∧
    (l.sta.isSome = true ∨ op = .stop ∨ op.tearsDown first.1.link = true)
  agreement : l.txBaActive = true →
    l.state = .connected ∧ l.sta.isSome = true ∧ Agreed r.history l.phase l.baTid

namespace Accounted

variable {l l' : Link}

theorem inactive (held : Accounted op first l r) (other : l.state ≠ .connected) :
    l.txBaActive = false :=
  Bool.eq_false_of_not_eq_true fun active => other (held.agreement active).1

theorem inactive_of_absent (held : Accounted op first l r) (absent : l.sta = none) :
    l.txBaActive = false :=
  Bool.eq_false_of_not_eq_true fun active => by simpa [absent] using (held.agreement active).2.1

/-- A change that does not concern the association. -/
theorem of_same (held : Accounted op first l r)
    (same : (l'.state, l'.phase, l'.sta, l'.baTid) = (l.state, l.phase, l.sta, l.baTid))
    (active : l'.txBaActive = l.txBaActive) : Accounted op first l' r := by
  simp only [Prod.mk.injEq] at same
  obtain ⟨state, phase, sta, baTid⟩ := same
  refine ⟨held.ending, baTid.trans held.baTid, ?_, ?_, ?_⟩ <;>
    simp only [state, phase, sta, baTid, active]
  · exact held.phases
  · exact held.stations
  · exact held.agreement

/-- A change of phase. -/
theorem of_phase (held : Accounted op first l r) (phase : l'.phase = l.phase + 1)
    (baTid : l'.baTid = l.baTid) (inactive : l'.txBaActive = false) :
    Accounted op first l' r where
  ending := held.ending
  baTid := baTid.trans held.baTid
  phases event member := phase ▸ Nat.le_succ_of_le (held.phases event member)
  stations token tid member := by
    have early := held.phases _ (List.mem_append_right _ member)
    simp only [Exchange.phase, phase] at early
    omega
  agreement active := by simp [inactive] at active

/-- The station is released. -/
theorem withoutSta (held : Accounted op first l r)
    (leaves : l.state = .idle ∨ op = .stop ∨ op.tearsDown first.1.link = true) :
    Accounted op first l.withoutSta r := by
  have inactive : l.withoutSta.txBaActive = false := by
    unfold Link.withoutSta
    split
    · rfl
    · exact held.inactive_of_absent (Option.not_isSome_iff_eq_none.mp ‹_›)
  refine ⟨held.ending, (Link.baTid_withoutSta l).trans held.baTid, ?_, ?_, ?_⟩
  · simpa using held.phases
  · intro token tid member
    have connected := (held.stations token tid (by simpa using member)).1
    refine ⟨by simpa using connected, .inr (leaves.resolve_left ?_)⟩
    simp [connected]
  · intro active
    simp [inactive] at active

end Accounted

/-- What a response is worth that accepts the agreement while none is up. -/
def AnswersWell (op : Op) (first : Ieee80211 × Exchanges) : Prop :=
  ∀ b, op.backAction first.1.link = some b → b.acceptsTxAgreement first.1.baTid = true →
    first.1.txBaActive = false →
    first.1.sta.isSome = true ∧ Agreed first.2.history first.1.phase first.1.baTid

theorem Change.accounted {target : Ieee80211} {announced : Option Bool}
    (attached : first.1.link.Attached) (answers : AnswersWell op first)
    (change : Change (exchanges admits) op first (s, r) target announced)
    (held : Accounted op first s.link r) :
    Accounted op first target.link ((exchanges admits).announce announced target r) := by
  have unseen : (exchanges admits).announce announced target r = r := by
    cases announced with
    | none => rfl
    | some active =>
        exact ite_self r
  rw [unseen]
  have moves : ∀ {phase}, s.state = phase → phase ≠ .connected →
      target.link.phase = s.link.phase + 1 → target.link.baTid = s.link.baTid →
      target.link.txBaActive = s.link.txBaActive → Accounted op first target.link r := by
    intro phase before other next baTid active
    have before : s.link.state ≠ .connected := fun connected => other (before.symm.trans connected)
    exact held.of_phase next baTid (active.trans (held.inactive before))
  cases change with
  | quiet | cached | wiped | unassociated | targeted | vifCleared | vifAssociated | dialog | m1
  | emptied | keyed | keyedExternally | sent | rxAgreed | poweredOn | poweredOff
  | interfaceRemoved => exact held.of_same rfl rfl
  | released leaves =>
      rw [Ieee80211.link_withoutSta]
      exact held.withoutSta leaves
  | scanBegan idle => exact moves idle nofun rfl rfl rfl
  | gaveUp phase =>
      rcases phase with phase | phase | phase <;> exact moves phase nofun rfl rfl rfl
  | committed isConnect began fresh idle => exact moves idle nofun rfl rfl rfl
  | associating phase => exact moves phase nofun rfl rfl rfl
  | registered isRx associates associating =>
      have other : s.link.state ≠ .connected := ne_of_eq_of_ne associating nofun
      exact ⟨held.ending, held.baTid, held.phases,
        fun token tid member => absurd (held.stations token tid member).1 other,
        fun active => absurd (held.agreement active).1 other⟩
  | handshaking phase => exact moves phase nofun rfl rfl rfl
  | opened phase => exact moves phase nofun rfl rfl rfl
  | completed shaking => exact moves shaking.state nofun rfl rfl rfl
  | txAgreed isRx same fresh connected active responds =>
      refine ⟨held.ending, held.baTid, held.phases, held.stations, fun isActive => ?_⟩
      by_cases before : s.txBaActive = true
      · exact held.agreement before
      · obtain ⟨b, action, accepts⟩ := (responds isActive).resolve_left before
        have inactive : s.link.txBaActive = false := Bool.eq_false_of_not_eq_true before
        have accepts : b.acceptsTxAgreement s.link.baTid = true := accepts
        rw [same] at action accepts inactive
        obtain ⟨present, agreed⟩ := answers b (by rw [isRx]; exact action) accepts inactive
        have sta : s.link.sta = first.1.link.sta := congrArg Link.sta same
        have phase : s.link.phase = first.1.link.phase := congrArg Link.phase same
        have baTid : s.link.baTid = first.1.link.baTid := congrArg Link.baTid same
        refine ⟨connected, (congrArg Option.isSome sta).trans present, ?_⟩
        rw [fresh]
        exact (phase ▸ baTid ▸ agreed : Agreed first.2.history s.link.phase s.link.baTid)
  | deauthenticated => exact held.of_phase rfl rfl rfl
  | abandoned same gone =>
      have attached : s.link.Attached := same ▸ attached
      exact moves (attached.stopped gone).state nofun rfl rfl rfl
  | disconnected tearsDown same =>
      have absent : s.link.sta = none := (congrArg Link.sta same).trans (Link.sta_withoutSta _)
      exact held.of_phase rfl rfl (held.inactive_of_absent absent)
  | switchedOff isPowerOff idle => exact moves idle nofun rfl rfl rfl
  | hardwareRemoved isStop removed left =>
      rcases left with idle | ⟨-, -, same⟩
      · exact moves idle nofun rfl rfl rfl
      · have absent : s.link.sta = none :=
          (congrArg (fun joined => joined.2.1) same).trans (Link.sta_withoutSta _)
        exact held.of_phase rfl rfl (held.inactive_of_absent absent)

theorem settled_send (r : Exchanges) (phase : Nat) (skb : TxSkb) :
    (r.send phase skb).ending = r.ending ∧ ((r.send phase skb).history = r.history ∨
      skb.isAddbaRequest = true ∧
        ∃ token tid, (r.send phase skb).history = .requested phase token tid :: r.history) := by
  unfold Exchanges.send
  split
  · exact ⟨rfl, .inr ⟨‹_›, _, _, rfl⟩⟩
  · exact ⟨rfl, .inl rfl⟩

/-- A BlockAck frame is sent. -/
theorem Accounted.send {l : Link} (held : Accounted op first l r) (skb : TxSkb)
    (requests : skb.isAddbaRequest = true → l.state = .connected ∧ l.sta.isSome = true) :
    Accounted op first l (r.send l.phase skb) := by
  obtain ⟨ending, same | ⟨isRequest, token, tid, sent⟩⟩ := settled_send r l.phase skb
  · have same : r.send l.phase skb = r := by
      cases known : r.send l.phase skb
      cases r
      simp_all
    rwa [same]
  · obtain ⟨connected, present⟩ := requests isRequest
    refine ⟨ending.trans held.ending, held.baTid, ?_, fun _ _ _ => ⟨connected, .inl present⟩, ?_⟩
    · intro event member
      simp only [Exchanges.settled, ending, sent, List.mem_append, List.mem_cons] at member
      rcases member with member | rfl | member
      · exact held.phases event (List.mem_append_left _ member)
      · exact Nat.le_refl _
      · exact held.phases event (List.mem_append_right _ member)
    · intro active
      obtain ⟨-, -, agreed⟩ := held.agreement active
      exact ⟨connected, present, sent ▸ agreed.cons nofun⟩

/-! ## From operation to operation -/

/-- What holds between the operations. -/
structure Reckoned (l : Link) (r : Exchanges) : Prop where
  phases : ∀ event ∈ r.settled, event.phase ≤ l.phase
  stations : ∀ token tid, .requested l.phase token tid ∈ r.settled → l.state = .connected ∧
    l.sta.isSome = true
  agreement : l.txBaActive = true → l.state = .connected ∧ l.sta.isSome = true ∧
    Agreed r.history l.phase l.baTid ∧ Agreed r.settled l.phase l.baTid

theorem history_receive {b : Bytes} {tid : Nat} (accepts : b.acceptsTxAgreement tid = true)
    (r : Exchanges) (phase : Nat) :
    (r.receive phase b).history = .accepted phase (b.byte 2) tid :: r.settled := by
  have isTid : b.le16At 5 / 4 % 16 = tid := (of_decide_eq_true accepts).2.2.2
  unfold Exchanges.receive
  rw [isTid, if_pos accepts]
  rfl

theorem history_start (r : Exchanges) (phase : Nat) (action : Option Bytes) :
    (r.start phase action).history = r.settled ∨
      ∃ token tid, (r.start phase action).history = .accepted phase token tid :: r.settled := by
  cases action with
  | none => exact .inl rfl
  | some b =>
      by_cases accepts : b.acceptsTxAgreement (b.le16At 5 / 4 % 16) = true
      · exact .inr ⟨_, _, history_receive accepts r phase⟩
      · exact .inl (congrArg (fun arrived => arrived ++ r.settled) (if_neg accepts))

theorem ending_start {action : Option Bytes} {phase phase' tid : Nat}
    (ending : (r.start phase action).ending = some (phase', tid)) :
    phase' = phase ∧ ∃ b, action = some b ∧ b.endsTxAgreement tid = true := by
  cases action with
  | none => exact nomatch ending
  | some b =>
      unfold Exchanges.start Exchanges.receive at ending
      dsimp only at ending
      split at ending
      · cases ending
        exact ⟨rfl, b, rfl, ‹_›⟩
      · exact nomatch ending

theorem mem_settled {r : Exchanges} {event : Exchange} :
    event ∈ r.settled ↔
      (∃ phase tid, r.ending = some (phase, tid) ∧ event = .ended phase tid) ∨
        event ∈ r.history := by
  unfold Exchanges.settled
  cases r.ending <;> simp [Prod.ext_iff]

/-- What an operation finds when it starts. -/
theorem Reckoned.start (held : Reckoned s.link r) (admitted : op.AnswersRequest s.link r) :
    Accounted op (s, r.start s.phase (op.backAction s.link)) s.link
        (r.start s.phase (op.backAction s.link)) ∧
      AnswersWell op (s, r.start s.phase (op.backAction s.link)) := by
  have requested : ∀ token tid,
      .requested s.phase token tid ∈ (r.start s.phase (op.backAction s.link)).history →
      .requested s.phase token tid ∈ r.settled := by
    intro token tid member
    rcases history_start r s.phase (op.backAction s.link) with same | ⟨_, _, same⟩ <;>
      simpa [same] using member
  constructor
  · refine ⟨rfl, rfl, fun event member => ?_, fun token tid member => ?_, fun active => ?_⟩
    · rcases mem_settled.mp member with ⟨phase, tid, ending, rfl⟩ | member
      · exact (ending_start ending).1.le
      · rcases history_start r s.phase (op.backAction s.link) with same | ⟨_, _, same⟩
        · exact held.phases event (same ▸ member)
        · rcases List.mem_cons.mp (same ▸ member) with rfl | member
          · exact Nat.le_refl _
          · exact held.phases event member
    · obtain ⟨connected, present⟩ := held.stations token tid (requested token tid member)
      exact ⟨connected, .inl present⟩
    · obtain ⟨connected, present, -, agreed⟩ := held.agreement active
      refine ⟨connected, present, ?_⟩
      rcases history_start r s.phase (op.backAction s.link) with same | ⟨_, _, same⟩
      · exact same ▸ agreed
      · exact same ▸ agreed.cons nofun
  · intro b action accepts inactive
    have isRequested := admitted b action accepts inactive
    refine ⟨(held.stations _ _ isRequested).2, ?_⟩
    have received := history_receive accepts r s.phase
    dsimp only at action ⊢
    rw [action]
    exact (show (r.start s.phase (some b)).history = _ from received) ▸
      agreed_of_requested isRequested

/-- What an operation leaves. -/
theorem Accounted.reckoned (held : Accounted op first t.link r) (finishes : op.Finishes first t)
    (began : ∃ r' : Exchanges, first.2 = r'.start first.1.phase (op.backAction first.1.link)) :
    Reckoned t.link r := by
  refine ⟨held.phases, fun token tid member => ?_, fun active => ?_⟩
  · have member : .requested t.link.phase token tid ∈ r.history := by
      simpa [mem_settled] using member
    obtain ⟨connected, present⟩ := held.stations token tid member
    have busy : t.state ≠ .idle := ne_of_eq_of_ne connected nofun
    refine ⟨connected, present.resolve_right fun left => ?_⟩
    rcases left with isStop | tearsDown
    · exact busy (finishes.stopped isStop).state
    · exact busy (finishes.tornDown tearsDown)
  · obtain ⟨connected, present, agreed⟩ := held.agreement active
    refine ⟨connected, present, agreed, ?_⟩
    unfold Exchanges.settled
    cases known : r.ending with
    | none => exact agreed
    | some ending =>
        obtain ⟨phase, tid⟩ := ending
        refine agreed.cons ?_
        rintro ⟨⟩
        -- The teardown was handled, so the agreement is down.
        obtain ⟨r', began⟩ := began
        have ending := held.ending.symm.trans known
        rw [began] at ending
        obtain ⟨-, b, action, ends⟩ := ending_start ending
        obtain ⟨skb, isRx, arrives⟩ : ∃ skb, op = .rxFrame skb ∧
            first.1.link.backAction skb = some b := by
          unfold Op.backAction at action
          split at action
          · exact ⟨_, rfl, action⟩
          · exact nomatch action
        have ended := (finishes.received skb isRx).agreement b arrives (held.baTid ▸ ends)
        exact absurd (active.symm.trans ended) (by decide)

/-- What holds in the course of an operation. -/
theorem accounted_of_walk {op : Op} {first : Ieee80211 × Exchanges} {t : Ieee80211} {r : Exchanges}
    (begins : Begins (exchanges Op.AnswersRequest)
      (fun s r => s.link.Attached ∧ Reckoned s.link r) op first)
    (walk : Walk (exchanges Op.AnswersRequest) op first t r) :
    Accounted op first t.link r ∧
      ∃ r' : Exchanges, first.2 = r'.start first.1.phase (op.backAction first.1.link) := by
  obtain ⟨r', ⟨attached, reckoned⟩, admitted, began⟩ := begins.before
  obtain ⟨s, arrived⟩ := first
  obtain rfl : arrived = r'.start s.phase (op.backAction s.link) := began
  obtain ⟨accounted, answers⟩ := reckoned.start admitted
  refine ⟨walk.invariant (Accounted op _) accounted ?_ ?_ ?_, r', rfl⟩
  · exact fun _ _ _ _ change held => change.accounted attached answers held
  · exact fun _ _ skb requests held => held.send skb requests
  · exact fun _ _ _ held => held

theorem validated_of_watched {s : Ieee80211} (initial : s.initial) {now : DriverConfig × Exchanges}
    (run : rtw88.Watched (exchanges Op.AnswersRequest).watch (⟨s, []⟩, ⟨[], none⟩) now) :
    now.1.state.Validated now.2.history ∧
      (now.1.threads = [] → now.1.state.Validated now.2.settled) := by
  have initially : Reckoned s.link ⟨[], none⟩ := by
    obtain ⟨attached, -, rfl⟩ := initial
    exact ⟨nofun, nofun, nofun⟩
  have kept : ∀ op first t r,
      Begins (exchanges Op.AnswersRequest)
        (fun s r => s.link.Attached ∧ Reckoned s.link r) op first →
      Walk (exchanges Op.AnswersRequest) op first t r → op.Finishes first t →
      t.link.Attached ∧ Reckoned t.link r := by
    intro op first t r begins walk finishes
    obtain ⟨accounted, began⟩ := accounted_of_walk begins walk
    obtain ⟨_, ⟨attached, -⟩, -, -⟩ := begins.before
    exact ⟨walk.attached finishes attached, accounted.reckoned finishes began⟩
  rcases watched_walks kept initial.sound ⟨initial.attached, initially⟩ run with
    ⟨-, -, -, reckoned⟩ | ⟨busy, op, first, begins, walk⟩
  · refine ⟨fun active => ?_, fun _ active => ?_⟩ <;>
      obtain ⟨connected, -, agreed, settled⟩ := reckoned.agreement active
    · exact ⟨connected, agreed⟩
    · exact ⟨connected, settled⟩
  · obtain ⟨accounted, -⟩ := accounted_of_walk begins walk
    refine ⟨fun active => ?_, fun idle => absurd idle busy⟩
    obtain ⟨connected, -, agreed⟩ := accounted.agreement active
    exact ⟨connected, agreed⟩

/-- A data frame that is handed over may be marked for aggregation only if it is a QoS frame and
the agreement is up. -/
theorem mayAggregate_of_keyStep {op : Op} {resumed : Option (Call × Answer)} {start now : Ieee80211}
    {skb : TxSkb} (step : KeyStep op resumed start (.waits (.tx .data skb)) now) :
    skb.MayAggregate now := by
  by_cases output : ∃ m, op = .outputPacket m
  · obtain ⟨m, rfl⟩ := output
    rcases step with ⟨⟨_, returns⟩, -⟩ | ⟨-, -, ⟨⟨_, returns⟩, -⟩ | ⟨hands, same⟩⟩
    · exact nomatch returns
    · exact nomatch returns
    · cases hands
      exact Ieee80211.mayAggregate_encapsulate _ _ _ (congrArg Link.txBaActive same)
  · rw [keyStep_of_steady fun m same => output ⟨m, same⟩] at step
    exact (step.2 _ rfl skb rfl).2.2

/-- The uplink agreement is valid as long as the access point accepts only what was requested. -/
theorem txAgreement_valid (s : Ieee80211) : TxAgreementValid Op.AnswersRequest s := by
  intro initial now run
  obtain ⟨valid, settled⟩ := validated_of_watched initial run
  refine ⟨valid, settled, fun move config' skb taken admits stops marked => ?_⟩
  have keyed := keyed_of_reachable ⟨s, initial, run.reaches⟩
  have step := (keyed.step taken).1
  rw [stops] at step
  obtain ⟨isQos, active⟩ := mayAggregate_of_keyStep step marked
  have next : rtw88.Watched (exchanges Op.AnswersRequest).watch (⟨s, []⟩, ⟨[], none⟩)
      (config', (exchanges Op.AnswersRequest).watch.after move now.1 config' now.2) :=
    run.tail ⟨move, taken, admits, rfl⟩
  exact ⟨isQos, active, (validated_of_watched initial next).1⟩

namespace Scenario

/-- A response that no request asked for. -/
def unsolicited : Skb :=
  fromAp 0x00D0 ownAddr ([3, 1, 7] ++ le16 0 ++ le16 0x1002 ++ [0, 0])

def agreedUnasked : Option Bool := do
  let (config, exchanged) ←
    rtw88.playAlone (exchanges fun _ _ _ => True).watch (start, ⟨[], none⟩)
      (attempt ++ associate ++ [.start (.rxFrame unsolicited) [], goOn 0])
  return config.state.txBaActive && exchanged.history = [.accepted config.state.phase 7 0]

theorem agreedUnasked_true : agreedUnasked = some true := by
  decide +kernel

end Scenario

theorem not_txAgreement_valid : ¬ ∀ s, TxAgreementValid (fun _ _ _ => True) s := by
  intro valid
  have run := Scenario.agreedUnasked_true
  simp only [Scenario.agreedUnasked, Option.bind_eq_bind, Option.bind_eq_some_iff, Prod.exists,
    Option.pure_def, Option.some.injEq, Bool.and_eq_true, decide_eq_true_eq] at run
  obtain ⟨config, exchanged, played, active, history⟩ := run
  have watched := System.watched_of_playAlone (fun _ _ _ => trivial)
    (fun _ _ _ _ _ => trivial) played
  have validated := (valid _ ⟨Scenario.attachment, rfl, rfl⟩ _ watched).1 active
  obtain ⟨-, newer, between, older, token, exchanges, -⟩ := validated
  have requested : .requested config.state.phase token config.state.baTid ∈ exchanged.history := by
    rw [show exchanged.history = _ from exchanges]
    simp
  simp [history] at requested

end

end AirportRtw88
