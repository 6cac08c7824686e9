import OpenDnp3.Transport.TransportLayer
import OpenDnp3.Transport.TransportProperties

/-!
# Completions of messages

A callback that is still in the queue when the connection is closed may run in
the next one. While no message is begun before it has run, the application hears
of each message once that the link is done with it.
-/

set_option autoImplicit false

namespace OpenDnp3.Transport

open OpenDnp3.Library OpenDnp3.Link
open OpenDnp3.Master (MonotonicTimestamp)

/-! ## Progress -/

/-- How far a message has got: the link has it, or is done with it, or there is none. -/
inductive Progress where
  | idle
  | sending
  | done
deriving DecidableEq, Repr

/-- A message is begun when there is none, and the application hears of it after the link is done
with it. -/
def TransportActivity.advance : Progress → TransportActivity → Option Progress
  | .idle, .beginTransmit _ => some .sending
  | .sending, .complete => some .done
  | .done, .txReady => some .idle
  | _, .lowerLayerDown => some .idle
  | progress, .lowerLayerUp | progress, .receive _ => some progress
  | _, _ => none

/-- How far the message has got that was begun last, if everything went in order. -/
def TransportActivity.progress (log : List TransportActivity) : Option Progress :=
  log.foldlM advance .idle

def TransportActivity.begun? : TransportActivity → Option Message
  | .beginTransmit message => some message
  | _ => none

/-- The message that was begun last. -/
def TransportActivity.lastBegun (log : List TransportActivity) : Option Message :=
  (log.filterMap begun?).getLast?

theorem progress_concat {log : List TransportActivity} {activity : TransportActivity}
    {progress : Progress} (known : TransportActivity.progress log = some progress) :
    TransportActivity.progress (log ++ [activity]) = activity.advance progress := by
  rw [TransportActivity.progress] at known ⊢
  simp [List.foldlM_append, known]

theorem lastBegun_concat {log : List TransportActivity} {activity : TransportActivity}
    (other : activity.begun? = none) :
    TransportActivity.lastBegun (log ++ [activity]) = TransportActivity.lastBegun log := by
  simp [TransportActivity.lastBegun, other]

/-- What the application and the link have to do with a message, and the end of a connection. -/
def TransportActivity.handles : TransportActivity → Bool
  | .beginTransmit _ | .complete | .txReady | .lowerLayerDown => true
  | .receive _ | .lowerLayerUp => false

/-- What has been done with a message since it was begun. -/
def Progress.since : Progress → Option (List TransportActivity)
  | .idle => none
  | .sending => some []
  | .done => some [.complete]

/-- Whether the link has a message. -/
def Progress.held : Progress → Nat
  | .sending => 1
  | _ => 0

/-- Whether a callback is in the queue. -/
def Progress.queued : Progress → Nat
  | .done => 1
  | _ => 0

/-! ## Rest of a message -/

namespace TransportTx

variable {tx rest : TransportTx}

theorem transmit_getSegment (tx : TransportTx) : tx.getSegment.1.transmit = tx.transmit := by
  have again : tx.getSegment.1.getSegment = tx.getSegment := by
    cases set : tx.txSegment <;> simp [getSegment, set]
  conv_lhs => rw [transmit, again, message_getSegment]
  conv_rhs => rw [transmit]

theorem transmit_advance (more : tx.advance.2 = true) :
    tx.transmit.2 = ⟨tx.message.addresses, tx.getSegment.2⟩ :: tx.advance.1.transmit.2 := by
  rw [transmit, dif_pos (by rwa [advance_getSegment]), advance_getSegment]

/-- What is still to be sent of a message. -/
def Leaves (tx rest : TransportTx) : Prop :=
  ∃ sent, tx.transmit.2 = sent ++ rest.transmit.2

theorem Leaves.refl (tx : TransportTx) : tx.Leaves tx := ⟨[], rfl⟩

theorem Leaves.getSegment (leaves : tx.Leaves rest) : tx.Leaves rest.getSegment.1 := by
  rwa [Leaves, transmit_getSegment]

theorem Leaves.advance (leaves : tx.Leaves rest) (more : rest.advance.2 = true) :
    tx.Leaves rest.advance.1 := by
  obtain ⟨sent, same⟩ := leaves
  rw [transmit_advance more] at same
  exact ⟨sent ++ [_], same.trans (List.append_cons _ _ _)⟩

end TransportTx

end OpenDnp3.Transport

namespace OpenDnp3.Link.PrimaryStation

open OpenDnp3.Transport

variable {config : LinkLayerConfig} {station after : PrimaryStation} {frames : List LinkFrame}
  {tx held rest : TransportTx}

theorem Reacts.leaves {stimulus : Stimulus} (reacts : Reacts config stimulus station frames after)
    (holds : station.segments = some held) (leaves : tx.Leaves held)
    (still : after.segments = some rest) : tx.Leaves rest := by
  cases reacts with
  | same | transmitted | dataRefused | resetRepeated | statusDone =>
      exact Option.some.inj (holds.symm.trans still) ▸ leaves
  | take free => cases free.symm.trans holds
  | unconfirmedMore state has more =>
      obtain rfl := Option.some.inj (has.symm.trans holds)
      exact Option.some.inj still ▸ (leaves.advance more).getSegment
  | resetAcknowledged state has | dataRepeated state has =>
      obtain rfl := Option.some.inj (has.symm.trans holds)
      exact Option.some.inj still ▸ leaves.getSegment
  | dataAcknowledgedMore state has more =>
      obtain rfl := Option.some.inj (has.symm.trans holds)
      exact Option.some.inj still ▸ (leaves.advance more).getSegment
  | unconfirmedLast | dataAcknowledgedLast | resetFailed | dataFailed => cases still

theorem Starts.leaves (starts : Starts config station frames after)
    (holds : station.segments = some held) (leaves : tx.Leaves held)
    (still : after.segments = some rest) : tx.Leaves rest := by
  cases starts with
  | nothing | asks | resets => exact Option.some.inj (holds.symm.trans still) ▸ leaves
  | data idle has | unconfirmed idle has =>
      obtain rfl := Option.some.inj (has.symm.trans holds)
      exact Option.some.inj still ▸ leaves.getSegment

end OpenDnp3.Link.PrimaryStation

namespace OpenDnp3.Transport

open OpenDnp3.Library OpenDnp3.Link
open OpenDnp3.Master (MonotonicTimestamp)

/-! ## What the layer hears -/

namespace TransportLayer

variable {layer : TransportLayer} {progress : Progress}

/-- The layer has followed the message that was begun last. -/
structure Follows (layer : TransportLayer) (progress : Progress) : Prop where
  known : TransportActivity.progress layer.log = some progress
  sending : layer.isSending = true ↔ progress ≠ .idle
  online : progress ≠ .idle → layer.isOnline = true

theorem follows_idle (known : TransportActivity.progress layer.log = some .idle)
    (quiet : layer.isSending = false) : layer.Follows .idle :=
  ⟨known, by simp [quiet], fun busy => absurd rfl busy⟩

theorem Follows.record {activity : TransportActivity} {next : Progress}
    (follows : layer.Follows progress) (goes : activity.advance progress = some next)
    (same : next = .idle ↔ progress = .idle) : (layer.record activity).Follows next where
  known := (progress_concat follows.known).trans goes
  sending := follows.sending.trans (not_congr same.symm)
  online := fun busy => follows.online fun idle => busy (same.mpr idle)

theorem Follows.onReceive (follows : layer.Follows progress) (message : Message) :
    (layer.onReceive message).Follows progress ∧
      (layer.onReceive message).isOnline = layer.isOnline ∧
      TransportActivity.lastBegun (layer.onReceive message).log =
        TransportActivity.lastBegun layer.log := by
  unfold TransportLayer.onReceive
  split
  · have received : ({ layer with
        receiver := (layer.receiver.processReceive message).1 } : TransportLayer).Follows
          progress := ⟨follows.known, follows.sending, follows.online⟩
    dsimp only
    split
    · exact ⟨received, rfl, rfl⟩
    · exact ⟨received.record (by cases progress <;> rfl) Iff.rfl, rfl, lastBegun_concat rfl⟩
  · exact ⟨follows, rfl, rfl⟩

/-- The link is done with a message at most once while a connection is open. -/
theorem Follows.hear {activities : List LinkActivity} {left : Nat}
    (follows : layer.Follows progress) (open_ : activities.any LinkActivity.connects = false)
    (counts : LinkActivity.completions activities + left = progress.held) :
    ∃ next : Progress, (activities.foldl hear layer).Follows next ∧
      (activities.foldl TransportLayer.hear layer).isOnline = layer.isOnline ∧
      TransportActivity.lastBegun (activities.foldl TransportLayer.hear layer).log =
        TransportActivity.lastBegun layer.log ∧
      next.held = left ∧
      next.queued = progress.queued + LinkActivity.completions activities ∧
      (next = .idle ↔ progress = .idle) := by
  induction activities generalizing layer progress with
  | nil => exact ⟨progress, follows, rfl, rfl, by simpa [LinkActivity.completions] using counts.symm,
      rfl, Iff.rfl⟩
  | cons activity activities ih =>
      rw [List.any_cons, Bool.or_eq_false_iff] at open_
      obtain ⟨stays, stay⟩ := open_
      have other (same : layer.hear activity = layer) (kept : activity.completes = false) :
          ∃ next : Progress, ((activity :: activities).foldl TransportLayer.hear layer).Follows
              next ∧
            ((activity :: activities).foldl TransportLayer.hear layer).isOnline =
              layer.isOnline ∧
            TransportActivity.lastBegun
                ((activity :: activities).foldl TransportLayer.hear layer).log =
              TransportActivity.lastBegun layer.log ∧
            next.held = left ∧
            next.queued = progress.queued + LinkActivity.completions (activity :: activities) ∧
            (next = .idle ↔ progress = .idle) := by
        have count : LinkActivity.completions (activity :: activities) =
            LinkActivity.completions activities :=
          List.countP_cons_of_neg (by simp [kept])
        rw [List.foldl_cons, same, count]
        exact ih follows stay (count ▸ counts)
      cases activity with
      | lowerLayerUp | lowerLayerDown => cases stays
      | receive message =>
          obtain ⟨received, online, begun⟩ := follows.onReceive message
          obtain ⟨next, goes, same, last, rest⟩ := ih received stay counts
          exact ⟨next, goes, same.trans online, last.trans begun, rest⟩
      | postTxReady =>
          have count : LinkActivity.completions (.postTxReady :: activities) =
              LinkActivity.completions activities + 1 := List.countP_cons_of_pos rfl
          rw [count] at counts ⊢
          cases progress with
          | idle | done =>
              change _ + 1 + left = 0 at counts
              omega
          | sending =>
              change _ + 1 + left = 1 at counts
              have done : (layer.record .complete).Follows .done := follows.record rfl (by decide)
              obtain ⟨next, goes, same, last, held, queued, idle⟩ :=
                ih done stay (show _ + left = 0 by omega)
              refine ⟨next, goes, same, last.trans (lastBegun_concat rfl), held, ?_, ?_⟩
              · change next.queued = 1 + _ at queued
                change next.queued = 0 + _
                omega
              · simpa using idle
      | _ => exact other rfl rfl

end TransportLayer

/-! ## Completions -/

namespace TransportStack

variable {stack after : TransportStack} {progress : Progress} {link : LinkContext}
  {activities : List LinkActivity} {transmitter : TransportTx}

/-- The link sends what is left of the message that was begun last. -/
def Sends (log : List TransportActivity) (link : LinkContext) : Prop :=
  ∀ rest, link.segments = some rest → ∃ (message : Message) (tx : TransportTx),
    TransportActivity.lastBegun log = some message ∧ (tx.configure message).Leaves rest

/-- The layers agree on the message, and on the callback that it will be told of. -/
structure Paired (stack : TransportStack) (progress : Progress) : Prop where
  sound : stack.link.Sound
  rests : stack.link.Rests
  follows : stack.transport.Follows progress
  online : stack.transport.isOnline = stack.link.isOnline
  held : stack.link.holds = progress.held
  posted : stack.posted = stack.stale + progress.queued
  fresh : progress ≠ .idle → stack.stale = 0
  sends : Sends stack.transport.log stack.link

/-- A callback is from an earlier connection no longer when a message is begun. -/
def Timely (stack : TransportStack) : StackInput → Prop
  | .beginTransmit _ => stack.stale = 0
  | _ => True

instance : DecidableRel Timely
  | stack, .beginTransmit _ => inferInstanceAs (Decidable (stack.stale = 0))
  | _, .link _ | _, .callback => .isTrue trivial

theorem paired_follow (sound : link.Sound) (rests : link.Rests)
    (follows : stack.transport.Follows progress)
    (online : stack.transport.isOnline = link.isOnline)
    (log : link.log = stack.link.log ++ activities)
    (open_ : activities.any LinkActivity.connects = false)
    (counts : LinkActivity.completions activities + link.holds = progress.held)
    (posted : stack.posted = stack.stale + progress.queued)
    (fresh : progress ≠ .idle → stack.stale = 0) (sends : Sends stack.transport.log link) :
    ∃ next, (stack.follow link transmitter).Paired next := by
  obtain ⟨next, goes, same, begun, held, queued, idle⟩ := follows.hear open_ counts
  have new : link.log.drop stack.link.log.length = activities := by rw [log, List.drop_left]
  have opened : activities.contains .lowerLayerDown = false := by
    rw [List.contains_eq_any_beq, List.any_eq_false]
    intro activity member same
    obtain rfl := beq_iff_eq.mp same
    exact absurd (List.any_eq_false.mp open_ _ member) (by decide)
  refine ⟨next, sound, rests, ?_, ?_, held.symm, ?_, ?_, ?_⟩
  · rw [follow, new]
    exact ⟨goes.known, goes.sending, goes.online⟩
  · rw [follow, new]
    exact same.trans online
  · simp only [follow, new, opened, Bool.false_eq_true, if_false]
    rw [posted, queued, Nat.add_assoc]
  · simp only [follow, new, opened, Bool.false_eq_true, if_false]
    exact fun busy => fresh fun none => busy (idle.mpr none)
  · rw [follow, new]
    simp only [Sends, begun]
    exact sends

/-- A message is held before and after when none is taken or completed. -/
theorem held_of_holds {before after : LinkContext} {rest : TransportTx}
    (counts : LinkActivity.completions activities + after.holds = before.holds)
    (still : after.segments = some rest) : ∃ held, before.segments = some held := by
  cases none : before.segments with
  | some held => exact ⟨held, rfl⟩
  | none =>
      rw [LinkContext.holds, LinkContext.holds, none, still] at counts
      change _ + 1 = 0 at counts
      omega

theorem Paired.idle_of_offline (paired : stack.Paired progress)
    (offline : stack.link.isOnline = false) : progress = .idle := by
  by_contra busy
  exact absurd ((paired.follows.online busy).symm.trans paired.online) (by simp [offline])

theorem Paired.stays {input : LinkInput} (paired : stack.Paired progress)
    (same : stack.link.prepare input = stack.link) (connected : input ≠ .lowerLayerDown)
    (received : stack.link.receive input = some link) :
    ∃ next, (stack.follow link transmitter).Paired next := by
  obtain ⟨_, _, _, _, middle, emits, reacts, _, starts, _⟩ :=
    LinkContext.receive_moves paired.sound connected received
  rw [same] at emits
  obtain ⟨_, online, activities, log, _, _, _, counts, open_⟩ := emits
  refine paired_follow (paired.sound.receive received)
    (paired.rests.receive paired.sound received) paired.follows (paired.online.trans online.symm)
    log open_ (counts.trans paired.held) paired.posted paired.fresh ?_
  intro rest still
  obtain ⟨held, holds⟩ := held_of_holds counts still
  obtain ⟨message, tx, begun, leaves⟩ := paired.sends held holds
  have kept : middle.segments ≠ none := fun none => by
    cases (starts.segments_eq_none.mpr none).symm.trans still
  obtain ⟨more, goesOn⟩ := Option.ne_none_iff_exists'.mp kept
  exact ⟨message, tx, begun, starts.leaves goesOn (reacts.leaves holds leaves goesOn) still⟩

theorem Paired.up (paired : stack.Paired progress) (now : MonotonicTimestamp) :
    ∃ next, (stack.follow (stack.link.onLowerLayerUp now) transmitter).Paired next := by
  have received : stack.link.receive (.lowerLayerUp now) =
      some (stack.link.onLowerLayerUp now) := rfl
  have sound := paired.sound.receive received
  have rests := paired.rests.receive paired.sound received
  cases online : stack.link.isOnline with
  | true =>
      have same : stack.link.onLowerLayerUp now = stack.link := if_pos online
      rw [same]
      exact paired_follow paired.sound paired.rests paired.follows paired.online
        (List.append_nil _).symm rfl ((Nat.zero_add _).trans paired.held) paired.posted
        paired.fresh paired.sends
  | false =>
      obtain rfl := paired.idle_of_offline online
      have log : (stack.link.onLowerLayerUp now).log =
          stack.link.log ++ [.stateChange .unreset, .lowerLayerUp] := by
        simp [LinkContext.onLowerLayerUp, online, LinkContext.onStateChange, LinkContext.record,
          LinkContext.startKeepAliveTimer]
      have segments : (stack.link.onLowerLayerUp now).segments = none := by
        rw [LinkContext.onLowerLayerUp, if_neg (by simp [online])]
        exact paired.rests.segments online
      have offline := paired.online.trans online
      refine ⟨.idle, sound, rests, ?_, ?_, ?_, ?_, fun busy => absurd rfl busy, ?_⟩
      all_goals
        simp only [follow, log, List.drop_left, List.foldl_cons, List.foldl_nil,
          TransportLayer.hear, TransportLayer.onLowerLayerUp, offline, Bool.false_eq_true,
          if_false]
      · exact ⟨progress_concat paired.follows.known, paired.follows.sending,
          fun busy => absurd rfl busy⟩
      · rw [LinkContext.onLowerLayerUp, if_neg (by simp [online])]
        rfl
      · rw [LinkContext.holds, segments]
        rfl
      · exact paired.posted
      · intro rest still
        cases segments.symm.trans still

/-- A connection is closed, and the callbacks in the queue are left over. -/
theorem Paired.down (paired : stack.Paired progress) :
    ∃ next, (stack.follow stack.link.onLowerLayerDown transmitter).Paired next := by
  have received : stack.link.receive .lowerLayerDown = some stack.link.onLowerLayerDown := rfl
  have sound := paired.sound.receive received
  have rests := paired.rests.receive paired.sound received
  cases online : stack.link.isOnline with
  | false =>
      have same : stack.link.onLowerLayerDown = stack.link := if_neg (by simp [online])
      rw [same]
      exact paired_follow paired.sound paired.rests paired.follows paired.online
        (List.append_nil _).symm rfl ((Nat.zero_add _).trans paired.held) paired.posted
        paired.fresh paired.sends
  | true =>
      have log : stack.link.onLowerLayerDown.log =
          stack.link.log ++ [.stateChange .unreset, .lowerLayerDown] := by
        simp [LinkContext.onLowerLayerDown, online, LinkContext.onStateChange,
          LinkContext.record]
      have closed : stack.link.onLowerLayerDown.segments = none ∧
          stack.link.onLowerLayerDown.isOnline = false := by
        rw [LinkContext.onLowerLayerDown, if_pos online]
        exact ⟨rfl, rfl⟩
      have connected := paired.online.trans online
      refine ⟨.idle, sound, rests, ?_, ?_, ?_, ?_, fun busy => absurd rfl busy, ?_⟩
      all_goals
        simp only [follow, log, List.drop_left, List.foldl_cons, List.foldl_nil,
          TransportLayer.hear, TransportLayer.onLowerLayerDown, connected, if_true]
      · refine TransportLayer.follows_idle ((progress_concat paired.follows.known).trans ?_) rfl
        cases progress <;> rfl
      · exact closed.2.symm
      · rw [LinkContext.holds, closed.1]
        rfl
      · simp [LinkActivity.completions, LinkActivity.completes, Progress.queued]
      · intro rest still
        cases closed.1.symm.trans still

theorem Paired.begins {message : Message} {transport : TransportLayer}
    (paired : stack.Paired progress)
    (begun : stack.transport.beginTransmit message = some transport) :
    progress = .idle ∧ stack.link.segments = none ∧ stack.link.isOnline = true ∧
      message.payload ≠ [] ∧
      transport = { stack.transport with
        isSending := true, transmitter := stack.transport.transmitter.configure message }.record
          (.beginTransmit message) ∧
      stack.beginTransmit message = { stack with transport }.follow
        (stack.link.send transport.transmitter) (stack.link.transmitter
          (.send transport.transmitter) (stack.link.send transport.transmitter)
          transport.transmitter) := by
  have taken := begun
  unfold TransportLayer.beginTransmit at begun
  split at begun
  · cases begun
  next online =>
  split at begun
  · cases begun
  next full =>
  split at begun
  · cases begun
  next ready =>
  have idle : progress = .idle := by
    by_contra busy
    exact ready (paired.follows.sending.mpr busy)
  subst idle
  have free : stack.link.segments = none := by
    have none : stack.link.segments.toList.length = 0 := paired.held
    simpa using none
  have same (tx : TransportTx) : ({ stack.link with
      segments := stack.link.segments.map fun _ => tx } : LinkContext) = stack.link := by
    rw [free, Option.map_none, ← free]
  refine ⟨rfl, free, ?_, by simpa using full, (Option.some.inj begun).symm, ?_⟩
  · rw [← paired.online]
    simpa using online
  · simp only [TransportStack.beginTransmit, taken, same]

theorem send_emits (sound : link.Sound) (free : link.segments = none)
    (online : link.isOnline = true) (tx : TransportTx) :
    ∃ middle started activities, PrimaryStation.Starts link.config middle started
        (link.send tx).primaryStation ∧
      middle.segments = some tx ∧ (link.send tx).isOnline = true ∧
      (link.send tx).log = link.log ++ .take tx.message.addresses :: activities ∧
      LinkActivity.completions activities + (link.send tx).holds = 1 ∧
      activities.any LinkActivity.connects = false := by
  obtain ⟨_, started, _, _, middle, emits, _, taken, starts, _⟩ :=
    LinkContext.receive_moves sound (by rintro ⟨⟩)
      (show link.receive (.send tx) = some (link.send tx) from rfl)
  have admitted : link.prepare (.send tx) =
      { link with segments := some tx }.record (.take tx.message.addresses) :=
    if_pos ⟨online, free⟩
  rw [admitted] at emits taken
  obtain ⟨_, still, activities, log, _, _, _, counts, open_⟩ := emits
  exact ⟨middle, started, activities, starts, by rw [taken rfl]; rfl, still.trans online,
    log.trans (List.append_assoc _ _ _), counts, open_⟩

theorem Paired.beginTransmit (paired : stack.Paired progress) (fresh : stack.stale = 0)
    (message : Message) : ∃ next, (stack.beginTransmit message).Paired next := by
  cases begun : stack.transport.beginTransmit message with
  | none => exact ⟨progress, by rwa [TransportStack.beginTransmit, begun]⟩
  | some transport =>
      obtain ⟨rfl, free, connected, _, configured, same⟩ := paired.begins begun
      have received : stack.link.receive (.send transport.transmitter) =
          some (stack.link.send transport.transmitter) := rfl
      obtain ⟨middle, started, activities, starts, taken, online, log, counts, open_⟩ :=
        send_emits paired.sound free connected transport.transmitter
      have follows : transport.Follows .sending := by
        rw [configured]
        exact ⟨progress_concat paired.follows.known, iff_of_true rfl nofun,
          fun _ => paired.online.trans connected⟩
      have opened : transport.isOnline = true := follows.online nofun
      rw [same]
      refine @paired_follow { stack with transport } .sending _ _ _
        (paired.sound.receive received) (paired.rests.receive paired.sound received) follows
        (opened.trans online.symm) log open_ ?_ paired.posted (fun _ => fresh) ?_
      · rw [LinkActivity.completions, List.countP_cons_of_neg Bool.false_ne_true]
        exact counts
      · intro rest still
        refine ⟨message, stack.transport.transmitter, ?_, ?_⟩
        · simp [configured, TransportLayer.record, TransportActivity.lastBegun,
            TransportActivity.begun?]
        · have first : transport.transmitter = stack.transport.transmitter.configure message := by
            rw [configured]
            rfl
          exact starts.leaves taken (first ▸ .refl _) still

/-- A callback of an earlier connection is of no account. -/
theorem Paired.callback (paired : stack.Paired progress) (waiting : stack.posted ≠ 0) :
    ∃ next, ({ stack with
      transport := stack.transport.onTxReady
      posted := stack.posted - 1
      stale := stack.stale - 1 } : TransportStack).Paired next := by
  have posted := paired.posted
  by_cases idle : progress = .idle
  · subst idle
    have quiet : stack.transport.onTxReady = stack.transport := by
      have none : stack.transport.isSending = false := by
        simpa using mt paired.follows.sending.mp (not_not.mpr rfl)
      simp [TransportLayer.onTxReady, none]
    rw [quiet]
    refine ⟨.idle, paired.sound, paired.rests, paired.follows, paired.online, paired.held, ?_,
      nofun, paired.sends⟩
    change stack.posted = stack.stale + 0 at posted
    change stack.posted - 1 = stack.stale - 1 + 0
    omega
  · have fresh := paired.fresh idle
    have done : progress = .done := by
      cases progress with
      | idle => exact absurd rfl idle
      | done => rfl
      | sending =>
          change stack.posted = stack.stale + 0 at posted
          omega
    subst done
    have online := paired.follows.online nofun
    have sending := paired.follows.sending.mpr nofun
    have told : stack.transport.onTxReady =
        { stack.transport with isSending := false }.record .txReady := by
      simp [TransportLayer.onTxReady, online, sending]
    refine ⟨.idle, paired.sound, paired.rests, ?_, ?_, paired.held, ?_, nofun, ?_⟩
    · rw [told]
      exact TransportLayer.follows_idle (progress_concat paired.follows.known) rfl
    · rw [told]
      exact paired.online
    · change stack.posted = stack.stale + 1 at posted
      change stack.posted - 1 = stack.stale - 1 + 0
      omega
    · intro rest still
      have none : stack.link.segments.toList.length = 0 := paired.held
      rw [still] at none
      cases none

/-! ## Runs -/

theorem Paired.step {input : StackInput} (paired : stack.Paired progress)
    (timely : stack.Timely input) (stepped : stack.step input = some after) :
    ∃ next, after.Paired next := by
  cases input with
  | beginTransmit message =>
      obtain rfl := Option.some.inj stepped
      exact paired.beginTransmit timely message
  | callback =>
      rw [TransportStack.step] at stepped
      split at stepped
      · cases stepped
      · next waiting =>
          obtain rfl := Option.some.inj stepped
          exact paired.callback waiting
  | link input =>
      cases input with
      | send => cases stepped
      | lowerLayerUp now =>
          obtain rfl := Option.some.inj stepped
          exact paired.up now
      | lowerLayerDown =>
          obtain rfl := Option.some.inj stepped
          exact paired.down
      | txReady | frame | responseTimeout | keepAliveTimeout =>
          obtain ⟨link, received, rfl⟩ := Option.map_eq_some_iff.mp stepped
          exact paired.stays rfl (by rintro ⟨⟩) received

theorem paired_of_reachesWhile {size : Nat} {config : LinkLayerConfig}
    {now : MonotonicTimestamp}
    (reached : machine.ReachesWhile Timely (initial size config now) stack) :
    ∃ progress, stack.Paired progress := by
  refine @Machine.ReachesWhile.invariant _ _ _ _ _ _ _
    (fun stack : TransportStack => ∃ progress, stack.Paired progress) reached ?_ ?_
  · exact ⟨.idle, LinkContext.sound_of_reaches .start, LinkContext.rests_initial config now,
      TransportLayer.follows_idle rfl rfl, rfl, rfl, rfl, fun busy => absurd rfl busy, nofun⟩
  · rintro before after input output ⟨progress, paired⟩ timely success
    obtain ⟨next, stepped, same⟩ := Option.map_eq_some_iff.mp success
    obtain ⟨rfl, _⟩ := Prod.mk.inj same
    exact paired.step timely stepped

/-- The application begins a message when there is none, the link has it until it is done with
it, and then the application hears of it, once. No other message gets between the segments of
one. -/
theorem completions_of_reachesWhile {size : Nat} {config : LinkLayerConfig}
    {now : MonotonicTimestamp}
    (reached : machine.ReachesWhile Timely (initial size config now) stack) :
    ∃ progress, TransportActivity.progress stack.transport.log = some progress ∧
      (stack.transport.isSending = true ↔ progress ≠ .idle) ∧
      (stack.link.segments ≠ none ↔ progress = .sending) ∧
      ∀ rest, stack.link.segments = some rest → ∃ (message : Message) (tx : TransportTx),
        TransportActivity.lastBegun stack.transport.log = some message ∧
          (tx.configure message).Leaves rest := by
  obtain ⟨progress, paired⟩ := paired_of_reachesWhile reached
  refine ⟨progress, paired.follows.known, paired.follows.sending, ?_, paired.sends⟩
  have held := paired.held
  rw [LinkContext.holds] at held
  cases holds : stack.link.segments with
  | none =>
      rw [holds] at held
      cases progress <;> simp_all [Progress.held]
  | some rest =>
      rw [holds] at held
      cases progress <;> simp_all [Progress.held]

/-- A callback of the first connection runs in the second one. -/
theorem completions_of_reachesWhile_late : ∃ stack : TransportStack,
    stack.transport.log.length = 7 ∧ ∃ progress,
      TransportActivity.progress stack.transport.log = some progress ∧
      (stack.transport.isSending = true ↔ progress ≠ .idle) ∧
      (stack.link.segments ≠ none ↔ progress = .sending) ∧
      ∀ rest, stack.link.segments = some rest → ∃ (message : Message) (tx : TransportTx),
        TransportActivity.lastBegun stack.transport.log = some message ∧
          (tx.configure message).Leaves rest := by
  obtain ⟨stack, reached, long⟩ :=
    @Machine.exists_reachesWhile_of_runWhile _ _ _ machine Timely _
      (initial 2048 { isMaster := true, useConfirms := false, localAddr := 1, remoteAddr := 2 } 0)
      (fun stack => stack.transport.log.length = 7)
      [.link (.lowerLayerUp 0), .beginTransmit ⟨⟨1, 2⟩, List.replicate 250 0⟩, .link .txReady,
        .link .txReady, .link .lowerLayerDown, .link (.lowerLayerUp 1), .callback,
        .beginTransmit ⟨⟨1, 2⟩, [0]⟩, .link .txReady]
      (by decide +kernel)
  exact ⟨stack, of_decide_eq_true long, completions_of_reachesWhile reached⟩

/-! ## Pairs -/

end TransportStack

end OpenDnp3.Transport
