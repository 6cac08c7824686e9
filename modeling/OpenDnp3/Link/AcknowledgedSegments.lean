import OpenDnp3.Link.DeliveredSegments

/-!
# Acknowledged segments

A segment is sent until it is acknowledged, unless its last retry fails or the
link is closed. While neither happens, no segment is missing at the other end.
-/

set_option autoImplicit false

namespace OpenDnp3.Link.PrimaryStation

open OpenDnp3.Transport

variable {config : LinkLayerConfig} {station after : PrimaryStation} {frames : List LinkFrame}
  {stimulus : Stimulus}

/-- The station gets the acknowledgement that it waits for. -/
def acknowledges (station : PrimaryStation) (stimulus : Stimulus) : Bool :=
  stimulus = .answer .secAck && station.state = .confDataWait

/-- A segment is sent until it is acknowledged. -/
theorem Reacts.current (reacts : Reacts config stimulus station frames after)
    (succeeds : stimulus.fails = true → station.state ≠ .confDataWait)
    (waits : station.acknowledges stimulus = false) (sends : station.current ≠ none) :
    after.current ≠ none := by
  have asks : station.state.asks = some .priConfirmedUserData := by
    by_contra other
    exact sends (Agrees.current_of_ne other)
  have other {state : PriState} {claim : Prop} (is : station.state = state)
      (different : state.asks ≠ some .priConfirmedUserData) : claim := by
    rw [is] at asks
    exact absurd asks different
  cases reacts with
  | same => exact sends
  | take free => exact absurd (by rw [PrimaryStation.current, free]; simp) sends
  | transmitted next =>
      rw [PrimaryStation.current, PriState.asks_of_waits next, if_pos asks]
      rwa [PrimaryStation.current, if_pos asks] at sends
  | unconfirmedMore state | unconfirmedLast state => exact other state (by decide)
  | resetAcknowledged state | resetFailed state | resetRepeated state | statusDone state =>
      exact other state (by decide)
  | dataAcknowledgedMore state | dataAcknowledgedLast state => simp [acknowledges, state] at waits
  | dataFailed state fails => exact absurd state (succeeds fails)
  | dataRefused state => exact absurd state (succeeds rfl)
  | dataRepeated => exact Option.some_ne_none _

theorem Starts.current (starts : Starts config station frames after)
    (sends : station.current ≠ none) : after.current = station.current := by
  have idle {claim : Prop} (idle : station.state = .idle) : claim :=
    absurd (Agrees.current_of_ne (by rw [idle]; decide)) sends
  cases starts with
  | nothing => rfl
  | asks free | data free | resets free | unconfirmed free => exact idle free

end OpenDnp3.Link.PrimaryStation

namespace OpenDnp3.Link.LinkPair

open OpenDnp3.Library OpenDnp3.Transport
open OpenDnp3.Master (MonotonicTimestamp)

variable {pair after : LinkPair} {context : LinkContext} {input : LinkInput}

/-! ## Acknowledgements -/

theorem acknowledges_of_local (isLocal : input.isLocal = true) :
    pair.sender.primaryStation.acknowledges (pair.sender.stimulus input) = false := by
  rcases @stimulus_of_local pair.sender _ isLocal with other | ⟨_, timeout⟩
  · simp [PrimaryStation.acknowledges, other]
  · simp [PrimaryStation.acknowledges, timeout]

theorem acknowledges_stimulus (frame : LinkFrame) (now : MonotonicTimestamp) :
    pair.acknowledges frame = pair.sender.primaryStation.acknowledges
      (pair.sender.stimulus (.frame now frame.header frame.userData)) := by
  rw [LinkPair.acknowledges, PrimaryStation.acknowledges, ← Bool.decide_and, decide_eq_decide,
    LinkContext.stimulus]
  constructor
  · rintro ⟨accepts, ack, waits⟩
    rw [if_pos ⟨accepts, by rw [ack]; rfl⟩, ack]
    exact ⟨rfl, waits⟩
  · rintro ⟨heard, waits⟩
    split at heard
    · next accepts => exact ⟨accepts.1, Stimulus.answer.inj heard, waits⟩
    · cases heard

/-- A frame on its way to the sender does not make a transmission fail. -/
theorem Serves.succeeds {frame : LinkFrame} {backward : List LinkFrame} {now : MonotonicTimestamp}
    (serves : pair.Serves) (first : pair.backward = frame :: backward) :
    (pair.sender.stimulus (.frame now frame.header frame.userData)).fails = true →
      pair.sender.priState ≠ .resetLinkWait ∧ pair.sender.priState ≠ .confDataWait := by
  intro fails
  rw [LinkContext.stimulus] at fails
  split at fails
  · next heard =>
      have exchange := serves.agrees.exchange
      rw [LinkPair.answers, first, List.filter_cons, if_pos (by simp [heard.2]),
        List.cons_append] at exchange
      generalize pair.requests = requests at exchange
      generalize backward.filter (!·.header.func.isPrimary) ++
        pair.receiver.pendingSecTx.toList = rest at exchange
      cases exchange with
      | reset _ func | received _ func =>
          rw [func] at fails
          cases fails
      | status asks =>
          constructor
          · rintro waits
            rw [show pair.sender.primaryStation.state = .resetLinkWait from waits] at asks
            cases asks
          · rintro waits
            rw [show pair.sender.primaryStation.state = .confDataWait from waits] at asks
            cases asks
  · cases fails

/-! ## Interruptions -/

/-- No segment is given up, neither after its last retry nor because the link is closed. -/
def Uninterrupted (pair : LinkPair) : PairInput → Prop
  | .sender .responseTimeout =>
      pair.sender.priState = .confDataWait → pair.sender.numRetryRemaining ≠ 0
  | .disconnect => pair.sender.primaryStation.current = none
  | _ => True

instance : DecidableRel Uninterrupted
  | _, .sender .responseTimeout => inferInstanceAs (Decidable (_ → _))
  | pair, .disconnect =>
      decidable_of_iff (pair.sender.primaryStation.current.isNone = true) Option.isNone_iff_eq_none
  | _, .sender (.lowerLayerUp _) | _, .sender .lowerLayerDown | _, .sender (.send _)
  | _, .sender .txReady | _, .sender (.frame _ _ _) | _, .sender (.keepAliveTimeout _)
  | _, .receiver _ | _, .deliver _ | _, .answer _ | _, .lose | _, .loseAnswer => .isTrue trivial

theorem Uninterrupted.keepsPassed {input : PairInput} (goesOn : pair.Uninterrupted input) :
    pair.KeepsPassed input := by
  cases input with
  | sender input =>
      cases input with
      | responseTimeout => exact fun waits last => absurd last (goesOn waits)
      | _ => trivial
  | _ => trivial

/-- A segment that has not been acknowledged is still being sent. -/
theorem intact_advance (sound : pair.sender.Sound) (connected : input ≠ .lowerLayerDown)
    (received : pair.sender.receive input = some context)
    (succeeds : (pair.sender.stimulus input).fails = true → pair.sender.priState ≠ .confDataWait) :
    (pair.advance (pair.sender.primaryStation.acknowledges (pair.sender.stimulus input))
      context).intact = pair.intact := by
  obtain ⟨_, _, _, _, middle, _, reacts, _, starts, _⟩ :=
    LinkContext.receive_moves sound connected received
  cases acks : pair.sender.primaryStation.acknowledges (pair.sender.stimulus input) with
  | true => simp [advance]
  | false =>
      have kept : pair.sender.primaryStation.current ≠ none →
          context.primaryStation.current ≠ none := by
        intro sends
        have middleSends := reacts.current succeeds acks sends
        rwa [starts.current middleSends]
      cases current : pair.sender.primaryStation.current with
      | none => simp [advance, current]
      | some item =>
          obtain ⟨next, some⟩ := Option.ne_none_iff_exists'.mp (kept (by simp [current]))
          simp [advance, current, some]

theorem Serves.intact_step {input : PairInput} (serves : pair.Serves)
    (goesOn : pair.Uninterrupted input) (stepped : pair.step input = some after) :
    after.intact = pair.intact := by
  cases input with
  | sender input =>
      rw [LinkPair.step] at stepped
      split at stepped
      · next allowed =>
          obtain ⟨context, received, rfl⟩ := Option.map_eq_some_iff.mp stepped
          have isLocal : input.isLocal = true := (Bool.and_eq_true_iff.mp allowed).1
          have succeeds : (pair.sender.stimulus input).fails = true →
              pair.sender.priState ≠ .confDataWait := by
            intro fails waits
            rcases @stimulus_of_local pair.sender _ isLocal with other | ⟨rfl, timeout⟩
            · rw [other] at fails
              cases fails
            · rw [timeout] at fails
              exact goesOn waits (of_decide_eq_true fails)
          have kept := intact_advance serves.sender (connected_of_local isLocal) received succeeds
          rwa [acknowledges_of_local isLocal] at kept
      · cases stepped
  | receiver input =>
      rw [LinkPair.step] at stepped
      split at stepped
      · obtain ⟨context, _, rfl⟩ := Option.map_eq_some_iff.mp stepped
        rfl
      · cases stepped
  | deliver now =>
      rw [LinkPair.step] at stepped
      split at stepped
      · cases stepped
      · obtain ⟨context, _, rfl⟩ := Option.map_eq_some_iff.mp stepped
        rfl
  | answer now =>
      rw [LinkPair.step] at stepped
      split at stepped
      · cases stepped
      · next frame backward first =>
          obtain ⟨context, received, rfl⟩ := Option.map_eq_some_iff.mp stepped
          have kept := intact_advance serves.sender (by rintro ⟨⟩) received
            fun fails => (serves.succeeds first fails).2
          rwa [← acknowledges_stimulus] at kept
  | lose | loseAnswer =>
      rw [LinkPair.step] at stepped
      split at stepped
      · cases stepped
      · obtain rfl := Option.some.inj stepped
        rfl
  | disconnect =>
      obtain rfl := Option.some.inj stepped
      have idle : pair.sender.primaryStation.current = none := goesOn
      simp [advance, arrive, idle]

/-! ## Runs -/

/-- All segments that were begun are acknowledged, but the one that is waited for, and the
receiver has passed up just these: with the one that is waited for, or without it. -/
theorem acknowledged_of_reachesWhile {sender receiver : LinkLayerConfig} {now : MonotonicTimestamp}
    (confirms : sender.useConfirms = true)
    (reached : machine.ReachesWhile Uninterrupted (initial sender receiver now) pair) :
    pair.offered = pair.acknowledged ++ pair.sender.primaryStation.current.toList ∧
      (pair.delivered = pair.acknowledged ∨ pair.delivered = pair.offered) := by
  have both : pair.Serves ∧ pair.intact = true := by
    induction reached with
    | start => exact ⟨serves_initial sender receiver now confirms, rfl⟩
    | step _ goesOn stepped both =>
        obtain ⟨next, success, same⟩ := Option.map_eq_some_iff.mp stepped
        obtain ⟨rfl, _⟩ := Prod.mk.inj same
        obtain ⟨serves, intact⟩ := both
        exact ⟨serves.step goesOn.keepsPassed success,
          (serves.intact_step goesOn success).trans intact⟩
  have ordered := both.1.agrees.ordered
  have offered : pair.offered = pair.acknowledged ++ pair.sender.primaryStation.current.toList :=
    ordered.intact both.2
  refine ⟨offered, ?_⟩
  rw [offered]
  exact ordered.delivered_eq both.2

/-- The first message takes two segments, one of which is lost once, and then its acknowledgement.
The link is closed and opened again, and a segment of the second message has been passed up. -/
theorem acknowledged_of_reachesWhile_twoMessages : ∃ pair : LinkPair,
    pair.offered.length = 3 ∧ pair.acknowledged.length = 2 ∧ pair.delivered.length = 3 ∧
      pair.offered = pair.acknowledged ++ pair.sender.primaryStation.current.toList ∧
      (pair.delivered = pair.acknowledged ∨ pair.delivered = pair.offered) := by
  obtain ⟨pair, reached, check⟩ :=
    @Machine.exists_reachesWhile_of_runWhile _ _ _ machine Uninterrupted _ (confirming 2)
      (fun pair => pair.offered.length = 3 ∧ pair.acknowledged.length = 2 ∧
        pair.delivered.length = 3)
      (resetLink (List.replicate 250 0) ++
        [.sender .txReady, .lose, .sender .responseTimeout, .sender .txReady, .deliver 0,
          .receiver .txReady, .loseAnswer, .sender .responseTimeout] ++
        passSegment ++ passSegment ++ [.disconnect] ++ resetLink [1] ++
        [.sender .txReady, .deliver 0, .receiver .txReady])
      (by decide +kernel)
  obtain ⟨offered, acknowledged, passed⟩ := of_decide_eq_true check
  exact ⟨pair, offered, acknowledged, passed, acknowledged_of_reachesWhile rfl reached⟩

end OpenDnp3.Link.LinkPair
