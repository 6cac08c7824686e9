import OpenDnp3.Link.ConfirmedService

/-!
# Delivered segments

Each segment is passed up once or not at all, between its beginning and that of
the next one, and it is acknowledged only when it has been passed up.
-/

set_option autoImplicit false

namespace OpenDnp3.Link.LinkPair

open OpenDnp3.Library OpenDnp3.Transport
open OpenDnp3.Master (MonotonicTimestamp)

variable {pair after : LinkPair} {input : PairInput} {offered delivered acknowledged : List Message}
  {segment : Message}

/-! ## Earlier segments -/

/-- Other segments have come before. -/
def behind (offered delivered acknowledged : List Message) (pair : LinkPair) : LinkPair :=
  { pair with
    offered := offered ++ pair.offered
    delivered := delivered ++ pair.delivered
    acknowledged := acknowledged ++ pair.acknowledged }

theorem advance_behind (pair : LinkPair) (acknowledges : Bool) (context : LinkContext) :
    (pair.behind offered delivered acknowledged).advance acknowledges context =
      (pair.advance acknowledges context).behind offered delivered acknowledged := by
  simp [advance, behind, List.append_assoc]

theorem arrive_behind (pair : LinkPair) (context : LinkContext) :
    (pair.behind offered delivered acknowledged).arrive context =
      (pair.arrive context).behind offered delivered acknowledged := by
  simp [arrive, behind, List.append_assoc]

/-- What has become of the segments before does not matter to either end. -/
theorem exists_step_of_behind
    (stepped : (pair.behind offered delivered acknowledged).step input = some after) :
    ∃ next, pair.step input = some next ∧ after = next.behind offered delivered acknowledged := by
  cases input with
  | sender input =>
      rw [step] at stepped
      split at stepped
      · next allowed =>
          obtain ⟨context, received, rfl⟩ := Option.map_eq_some_iff.mp stepped
          exact ⟨_, (if_pos allowed).trans (congrArg (Option.map _) received),
            advance_behind pair false context⟩
      · cases stepped
  | receiver input =>
      rw [step] at stepped
      split at stepped
      · next isLocal =>
          obtain ⟨context, received, rfl⟩ := Option.map_eq_some_iff.mp stepped
          exact ⟨_, (if_pos isLocal).trans (congrArg (Option.map _) received),
            arrive_behind pair context⟩
      · cases stepped
  | deliver now =>
      rw [step] at stepped
      split at stepped
      · cases stepped
      · next frame forward first =>
          obtain ⟨context, received, rfl⟩ := Option.map_eq_some_iff.mp stepped
          have first : pair.forward = frame :: forward := first
          refine ⟨_, ?_, arrive_behind { pair with forward } context⟩
          rw [step, first]
          exact congrArg (Option.map _) received
  | answer now =>
      rw [step] at stepped
      split at stepped
      · cases stepped
      · next frame backward first =>
          obtain ⟨context, received, rfl⟩ := Option.map_eq_some_iff.mp stepped
          have first : pair.backward = frame :: backward := first
          refine ⟨_, ?_, advance_behind { pair with backward } _ context⟩
          rw [step, first]
          exact congrArg (Option.map _) received
  | lose | loseAnswer =>
      rw [step] at stepped
      split at stepped
      · cases stepped
      · next some =>
          obtain rfl := Option.some.inj stepped
          exact ⟨_, if_neg some, rfl⟩
  | disconnect =>
      obtain rfl := Option.some.inj stepped
      refine ⟨_, rfl, ?_⟩
      rw [← arrive_behind, ← advance_behind]
      rfl

theorem exists_run_of_behind
    (run : machine.ReachesWhile KeepsPassed (pair.behind offered delivered acknowledged) after) :
    ∃ next, machine.ReachesWhile KeepsPassed pair next ∧
      after = next.behind offered delivered acknowledged := by
  induction run with
  | start => exact ⟨pair, .start, rfl⟩
  | step _ keeps stepped ih =>
      obtain ⟨middle, run, rfl⟩ := ih
      obtain ⟨after, success, same⟩ := Option.map_eq_some_iff.mp stepped
      obtain ⟨rfl, _⟩ := Prod.mk.inj same
      obtain ⟨next, goes, rfl⟩ := exists_step_of_behind success
      exact ⟨next, .step run keeps (congrArg (Option.map _) goes), rfl⟩

/-- Segments are only added to what has become of them. -/
theorem exists_added (run : machine.ReachesWhile KeepsPassed pair after) :
    ∃ begun passed acks, after.offered = pair.offered ++ begun ∧
      after.delivered = pair.delivered ++ passed ∧
      after.acknowledged = pair.acknowledged ++ acks := by
  have all : pair = LinkPair.behind pair.offered pair.delivered pair.acknowledged
      { pair with offered := [], delivered := [], acknowledged := [] } := by
    simp [behind]
  rw [all] at run
  obtain ⟨next, _, rfl⟩ := exists_run_of_behind run
  exact ⟨_, _, _, rfl, rfl, rfl⟩

/-! ## The segment under way -/

/-- Only the segment under way is known, and whether it has been passed up. -/
def fresh (pair : LinkPair) : LinkPair :=
  { pair with
    offered := pair.sender.primaryStation.current.toList
    delivered :=
      if pair.receiver.nextReadFCB = pair.sender.nextWriteFCB then []
      else pair.sender.primaryStation.current.toList
    acknowledged := [] }

theorem Serves.aligned (serves : pair.Serves)
    (sends : pair.sender.primaryStation.current ≠ none) : pair.transfer.Aligned := by
  refine serves.agrees.aligned (serves.agrees.sending ?_).1
  by_contra other
  exact sends (Agrees.current_of_ne other)

theorem Serves.fresh (serves : pair.Serves) : pair.fresh.Serves := by
  obtain ⟨sender, receiver, senderRests, receiverRests, confirms, agrees⟩ := serves
  refine ⟨sender, receiver, senderRests, receiverRests, confirms, agrees.confirms,
    agrees.exchange, agrees.resetting, agrees.sending, rfl, rfl, ⟨List.nil_sublist _, ?_,
      fun _ => rfl⟩, fun reset => ⟨(agrees.aligned reset).idle, fun item current => ?_⟩⟩
  · change List.Sublist (if _ then _ else _) _
    split
    · exact List.nil_sublist _
    · exact .refl _
  · have current : pair.sender.primaryStation.current = some item := current
    refine ⟨[], current, ?_, fun alike => ?_, fun other => ⟨[], ?_, .slnil⟩⟩
    · exact congrArg Option.toList current
    · exact List.sublist_nil.mpr (if_pos alike)
    · exact (if_neg other).trans (congrArg Option.toList current)

theorem Serves.exists_behind (serves : pair.Serves) :
    ∃ offered delivered acknowledged, pair = pair.fresh.behind offered delivered acknowledged := by
  cases current : pair.sender.primaryStation.current with
  | none =>
      refine ⟨pair.offered, pair.delivered, pair.acknowledged, ?_⟩
      simp [behind, LinkPair.fresh, current]
  | some item =>
      obtain ⟨earlier, pending⟩ := (serves.aligned (by simp [current])).pending item current
      have begun : pair.offered = earlier ++ [item] := pending.offered
      by_cases alike : pair.receiver.nextReadFCB = pair.sender.nextWriteFCB
      · refine ⟨earlier, pair.delivered, pair.acknowledged, ?_⟩
        simp [behind, LinkPair.fresh, current, alike, ← begun]
      · obtain ⟨before, passed, _⟩ := pending.read alike
        have passed : pair.delivered = before ++ [item] := passed
        refine ⟨earlier, before, pair.acknowledged, ?_⟩
        simp [behind, LinkPair.fresh, current, alike, ← begun, ← passed]

/-! ## Steps -/

theorem current_onLowerLayerDown {context : LinkContext}
    (idle : context.primaryStation.current = none) :
    context.onLowerLayerDown.primaryStation.current = none := by
  unfold LinkContext.onLowerLayerDown
  split
  · rfl
  · exact idle

/-- Nothing is passed up in the step in which a segment is begun, and the one before is acknowledged
in it, if there is one. -/
theorem begins_of_step (stepped : pair.step input = some after)
    (begins : after.offered = pair.offered ++ [segment]) :
    after.delivered = pair.delivered ∧
      after.acknowledged = pair.acknowledged ++ pair.sender.primaryStation.current.toList := by
  have unchanged {claim : Prop} (same : after.offered = pair.offered) : claim := by
    have length := congrArg List.length (begins.symm.trans same)
    simp at length
  have advanced {acknowledges : Bool} {context : LinkContext}
      (same : after.offered = (pair.advance acknowledges context).offered) :
      (pair.advance acknowledges context).acknowledged =
        pair.acknowledged ++ pair.sender.primaryStation.current.toList := by
    cases acknowledges with
    | true => rfl
    | false =>
        cases current : pair.sender.primaryStation.current with
        | none => simp [advance]
        | some item => exact unchanged (by simpa [advance, current] using same)
  cases input with
  | sender input =>
      rw [step] at stepped
      split at stepped
      · obtain ⟨context, _, rfl⟩ := Option.map_eq_some_iff.mp stepped
        exact ⟨rfl, advanced rfl⟩
      · cases stepped
  | receiver input =>
      rw [step] at stepped
      split at stepped
      · obtain ⟨context, _, rfl⟩ := Option.map_eq_some_iff.mp stepped
        exact unchanged rfl
      · cases stepped
  | deliver now =>
      rw [step] at stepped
      split at stepped
      · cases stepped
      · obtain ⟨context, _, rfl⟩ := Option.map_eq_some_iff.mp stepped
        exact unchanged rfl
  | answer now =>
      rw [step] at stepped
      split at stepped
      · cases stepped
      · obtain ⟨context, _, rfl⟩ := Option.map_eq_some_iff.mp stepped
        exact ⟨rfl, advanced rfl⟩
  | lose | loseAnswer =>
      rw [step] at stepped
      split at stepped
      · cases stepped
      · obtain rfl := Option.some.inj stepped
        exact unchanged rfl
  | disconnect =>
      obtain rfl := Option.some.inj stepped
      refine unchanged ?_
      cases current : pair.sender.primaryStation.current with
      | none => simp [advance, arrive, current_onLowerLayerDown current]
      | some item => simp [advance, arrive, current]

/-- An acknowledgement does not arrive in a step in which something is passed up. -/
theorem acknowledged_or_delivered_of_step (stepped : pair.step input = some after) :
    after.acknowledged = pair.acknowledged ∨ after.delivered = pair.delivered := by
  cases input with
  | sender input =>
      rw [step] at stepped
      split at stepped
      · obtain ⟨context, _, rfl⟩ := Option.map_eq_some_iff.mp stepped
        exact .inr rfl
      · cases stepped
  | receiver input =>
      rw [step] at stepped
      split at stepped
      · obtain ⟨context, _, rfl⟩ := Option.map_eq_some_iff.mp stepped
        exact .inl rfl
      · cases stepped
  | deliver now =>
      rw [step] at stepped
      split at stepped
      · cases stepped
      · obtain ⟨context, _, rfl⟩ := Option.map_eq_some_iff.mp stepped
        exact .inl rfl
  | answer now =>
      rw [step] at stepped
      split at stepped
      · cases stepped
      · obtain ⟨context, _, rfl⟩ := Option.map_eq_some_iff.mp stepped
        exact .inr rfl
  | lose | loseAnswer =>
      rw [step] at stepped
      split at stepped
      · cases stepped
      · obtain rfl := Option.some.inj stepped
        exact .inl rfl
  | disconnect =>
      obtain rfl := Option.some.inj stepped
      exact .inl (List.append_nil _)

/-! ## Runs -/

/-- What is acknowledged has been passed up, and what is passed up was begun, in this order. From
the step in which a segment is begun to the one in which the next one is, it is passed up once or
not at all, and nothing else is; when it is acknowledged, it has been passed up before. -/
structure DeliversOnce (pair : LinkPair) (allowed : LinkPair → PairInput → Prop) : Prop where
  acknowledged : pair.acknowledged.Sublist pair.delivered
  delivered : pair.delivered.Sublist pair.offered
  once : ∀ segment input begun after next last, allowed pair input →
    pair.step input = some begun → begun.offered = pair.offered ++ [segment] →
    machine.ReachesWhile allowed begun after → after.offered = begun.offered →
    allowed after next → after.step next = some last → ∃ passed acks,
      after.delivered = begun.delivered ++ passed ∧
        last.acknowledged = begun.acknowledged ++ acks ∧
        acks.Sublist passed ∧ passed.Sublist [segment]

theorem Serves.once {begun last : LinkPair} {next : PairInput} (serves : pair.Serves)
    (keeps : pair.KeepsPassed input) (stepped : pair.step input = some begun)
    (begins : begun.offered = pair.offered ++ [segment])
    (run : machine.ReachesWhile KeepsPassed begun after) (same : after.offered = begun.offered)
    (still : after.KeepsPassed next) (moved : after.step next = some last) : ∃ passed acks,
      after.delivered = begun.delivered ++ passed ∧
        last.acknowledged = begun.acknowledged ++ acks ∧
        acks.Sublist passed ∧ passed.Sublist [segment] := by
  -- only the segment that is under way before matters
  obtain ⟨offered, delivered, acknowledged, all⟩ := serves.exists_behind
  have whole : pair.offered = offered ++ pair.fresh.offered := congrArg LinkPair.offered all
  rw [all] at stepped
  obtain ⟨begun, starts, rfl⟩ := exists_step_of_behind stepped
  obtain ⟨after, goes, rfl⟩ := exists_run_of_behind run
  obtain ⟨last, moves, rfl⟩ := exists_step_of_behind moved
  have begins : begun.offered = pair.fresh.offered ++ [segment] := by
    rw [whole, List.append_assoc] at begins
    exact List.append_cancel_left begins
  have same : after.offered = begun.offered := List.append_cancel_left same
  have still : after.KeepsPassed next := still
  have servesBegun : begun.Serves := serves.fresh.step keeps starts
  have servesAfter := servesBegun.run goes
  have servesLast := servesAfter.step still moves
  obtain ⟨_, passed, more, _, grown, acked⟩ := exists_added goes
  obtain ⟨_, _, further, _, _, ackedLast⟩ :=
    exists_added (.step .start still (congrArg (Option.map _) moves))
  obtain ⟨quiet, first⟩ := begins_of_step starts begins
  have first : begun.acknowledged = pair.sender.primaryStation.current.toList := first
  have up : begun.delivered = pair.sender.primaryStation.current.toList := by
    have order : begun.acknowledged.Sublist begun.delivered :=
      servesBegun.agrees.ordered.acknowledged
    rw [first, quiet, LinkPair.fresh] at order
    rw [quiet, LinkPair.fresh]
    dsimp only at order ⊢
    split at order
    · next alike => rw [if_pos alike, List.sublist_nil.mp order]
    · next other => rw [if_neg other]
  have known : last.acknowledged.Sublist after.delivered := by
    rcases acknowledged_or_delivered_of_step moves with kept | kept
    · rw [kept]
      exact servesAfter.agrees.ordered.acknowledged
    · rw [← kept]
      exact servesLast.agrees.ordered.acknowledged
  have order : after.delivered.Sublist after.offered := servesAfter.agrees.ordered.delivered
  rw [ackedLast, acked, grown, first, up, List.append_assoc] at known
  rw [same, begins, grown, up] at order
  refine ⟨passed, more ++ further, ?_, ?_, (List.append_sublist_append_left _).mp known,
    (List.append_sublist_append_left _).mp order⟩
  · exact (congrArg (delivered ++ ·) grown).trans (List.append_assoc _ _ _).symm
  · refine (congrArg (acknowledged ++ ·) (ackedLast.trans (congrArg (· ++ further) acked))).trans ?_
    rw [List.append_assoc, ← List.append_assoc acknowledged]
    rfl

/-- Segments that are to be confirmed are passed up once and in order, whatever is lost and however
often the link is closed, and a segment is acknowledged only when it has been passed up. -/
theorem delivered_of_reachesWhile {sender receiver : LinkLayerConfig} {now : MonotonicTimestamp}
    (confirms : sender.useConfirms = true)
    (reached : machine.ReachesWhile KeepsPassed (initial sender receiver now) pair) :
    pair.DeliversOnce KeepsPassed := by
  have serves := serves_of_reachesWhile confirms reached
  have ordered := serves.agrees.ordered
  exact ⟨ordered.acknowledged, ordered.delivered, fun _ _ _ _ _ _ => serves.once⟩

def confirming (numRetry : UInt32) : LinkPair :=
  initial { isMaster := true, useConfirms := true, numRetry, localAddr := 1, remoteAddr := 2 }
    { isMaster := false, useConfirms := false, localAddr := 2, remoteAddr := 1 } 0

/-- Both ends come online, and the sender resets the link for a message. -/
def resetLink (message : List UInt8) : List PairInput :=
  [.sender (.lowerLayerUp 0), .receiver (.lowerLayerUp 0),
    .sender (.send (TransportTx.configure {} ⟨⟨1, 2⟩, message⟩)),
    .sender .txReady, .deliver 0, .receiver .txReady, .answer 0]

/-- A segment is transmitted, and its acknowledgement arrives. -/
def passSegment : List PairInput :=
  [.sender .txReady, .deliver 0, .receiver .txReady, .answer 0]

/-- The only copy of the first segment is lost, and it is given up. The second message takes two
segments, and an acknowledgement gets lost. -/
theorem delivered_of_reachesWhile_gaveUp : ∃ pair : LinkPair,
    pair.offered.length = 3 ∧ pair.acknowledged.length = 2 ∧ pair.DeliversOnce KeepsPassed := by
  obtain ⟨pair, reached, check⟩ :=
    @Machine.exists_reachesWhile_of_runWhile _ _ _ machine KeepsPassed _ (confirming 1)
      (fun pair => pair.offered.length = 3 ∧ pair.acknowledged.length = 2)
      (resetLink [1] ++
        [.sender .txReady, .lose, .sender .responseTimeout, .sender .txReady, .lose,
          .sender .responseTimeout,
          .sender (.send (TransportTx.configure {} ⟨⟨1, 2⟩, List.replicate 250 0⟩)),
          .sender .txReady, .deliver 0, .receiver .txReady, .loseAnswer,
          .sender .responseTimeout] ++ passSegment ++ passSegment)
      (by decide +kernel)
  obtain ⟨offered, acknowledged⟩ := of_decide_eq_true check
  exact ⟨pair, offered, acknowledged, delivered_of_reachesWhile rfl reached⟩

/-- A segment that has been passed up is given up, and the link is not reset after that: the next
segment is taken for a repeated one. It is acknowledged, and never passed up. -/
theorem not_delivered_of_reaches :
    ¬∀ (sender receiver : LinkLayerConfig) (now : MonotonicTimestamp) (pair : LinkPair),
      sender.useConfirms = true → machine.Reaches (initial sender receiver now) pair →
        pair.DeliversOnce fun _ _ => True := by
  intro delivers
  obtain ⟨pair, reached, check⟩ :=
    @Machine.exists_reaches_of_run _ _ _ machine (confirming 0)
      (fun pair => pair.delivered = [⟨⟨1, 2⟩, [0xC0, 1]⟩] ∧
        pair.acknowledged = [⟨⟨1, 2⟩, [0xC0, 2]⟩])
      (resetLink [1] ++
        [.sender .txReady, .deliver 0, .receiver .txReady, .loseAnswer, .sender .responseTimeout,
          .sender (.send (TransportTx.configure {} ⟨⟨1, 2⟩, [2]⟩))] ++ passSegment)
      (by decide +kernel)
  obtain ⟨passed, acks⟩ := of_decide_eq_true check
  have both := (delivers _ _ _ pair rfl reached).acknowledged
  rw [passed, acks] at both
  exact absurd both (by decide)

end OpenDnp3.Link.LinkPair
