import OpenDnp3.Channels.SessionLifecycle
import OpenDnp3.Library.History

/-!
# Completed transmissions

Every completion that a session is told of is of a frame that it began to
transmit since it is online, and the frames that it waits for are those that
are queued.
-/

set_option autoImplicit false

namespace OpenDnp3.Channels

open OpenDnp3.Library

variable {Session : Type} [DecidableEq Session]

/-! ## Outstanding frames -/

/-- What an event does to the frames that a session waits for. -/
def observe (session : Session) (outstanding : List (List UInt8)) :
    Event Session → List (List UInt8)
  | .lowerLayerUp other | .lowerLayerDown other => if other = session then [] else outstanding
  | .beginTransmit other txdata =>
      if other = session then outstanding ++ [txdata] else outstanding
  | .txReady other _ => if other = session then outstanding.tail else outstanding
  | _ => outstanding

/-- The frames that a session began to transmit since it was last told of its channel, and that it
was not told to be transmitted. Until then it does not reuse their buffers. -/
def outstanding (session : Session) (history : List (Event Session)) : List (List UInt8) :=
  history.foldl (observe session) []

theorem outstanding_concat (session : Session) (history : List (Event Session))
    (event : Event Session) :
    outstanding session (history ++ [event]) =
      observe session (outstanding session history) event := by
  rw [outstanding, List.foldl_append]
  rfl

/-- A session that is told of a completion is online, and it waits for the frame that was
written. -/
def CompletesOwn (before : List (Event Session)) : Event Session → Prop
  | .txReady session txdata =>
      told session before = true ∧ ∃ others, outstanding session before = txdata :: others
  | _ => True

def Event.isTransmission : Event Session → Bool
  | .beginTransmit _ _ | .txReady _ _ => true
  | _ => false

theorem observe_other {event : Event Session} (other : event.isTransmission = false)
    (session : Session) (frames : List (List UInt8)) :
    observe session frames event =
      if event.notification? session = none then frames else [] := by
  cases event with
  | lowerLayerUp notified =>
      by_cases own : notified = session
      · simp [observe, Event.notification?, own]
      · simp [observe, Event.notification?, own]
  | lowerLayerDown notified =>
      by_cases own : notified = session
      · simp [observe, Event.notification?, own]
      · simp [observe, Event.notification?, own]
  | beginTransmit => cases other
  | txReady => cases other
  | _ => rfl

theorem foldl_observe (session : Session) {events : List (Event Session)}
    (others : ∀ event ∈ events, event.isTransmission = false) (frames : List (List UInt8)) :
    events.foldl (observe session) frames =
      if notifications session events = [] then frames else [] := by
  induction events generalizing frames with
  | nil => rfl
  | cons event events ih =>
      obtain ⟨first, rest⟩ := List.forall_mem_cons.mp others
      rw [List.foldl_cons, ih rest, observe_other first]
      cases notified : event.notification? session with
      | none =>
          have same : notifications session (event :: events) = notifications session events :=
            List.filterMap_cons_none notified
          rw [same, if_pos rfl]
      | some up =>
          have more : notifications session (event :: events) =
              up :: notifications session events := List.filterMap_cons_some notified
          rw [more, if_neg (List.cons_ne_nil _ _)]
          simp

theorem completesOwn_of_other {event : Event Session} (other : event.isTransmission = false)
    (before : List (Event Session)) : CompletesOwn before event := by
  cases event with
  | txReady => cases other
  | _ => trivial

namespace IOHandler

variable {handler next : IOHandler Session}

/-- The frames of a session that are queued. -/
def queued (handler : IOHandler Session) (session : Session) : List (List UInt8) :=
  handler.txQueue.filterMap fun transmission =>
    if transmission.session = session then some transmission.txdata else none

/-! ## Steps without transmissions -/

/-- Sessions are told of what becomes of them, and nothing is transmitted. -/
structure Tells (handler next : IOHandler Session) : Prop where
  events : ∃ events, next.history = handler.history ++ events ∧
    (∀ event ∈ events, event.isTransmission = false) ∧
    ∀ session, notifications session events = change (handler.online session) (next.online session)

theorem Tells.lawful (tells : handler.Tells next) (lawful : Lawful CompletesOwn handler.history) :
    Lawful CompletesOwn next.history := by
  obtain ⟨events, grown, others, _⟩ := tells.events
  rw [grown]
  exact lawful.append fun event member => completesOwn_of_other (others event member)

/-- Whatever a session waited for, it does no more once it is told of its channel. -/
theorem Tells.outstanding (tells : handler.Tells next) (session : Session) :
    outstanding session next.history =
      if next.online session = handler.online session then
        outstanding session handler.history else [] := by
  obtain ⟨events, grown, others, notified⟩ := tells.events
  rw [Channels.outstanding, grown, List.foldl_append, foldl_observe session others,
    notified session, change]
  by_cases same : next.online session = handler.online session
  · rw [if_pos same, if_pos same, if_pos rfl]
    rfl
  · rw [if_neg same, if_neg same, if_neg (by simp)]

theorem Tells.same (sessions : next.sessions = handler.sessions)
    (history : next.history = handler.history) : handler.Tells next := by
  refine ⟨[], by rw [history, List.append_nil], List.forall_mem_nil _, ?_⟩
  intro session
  rw [change, online, find, sessions, if_pos]
  · rfl
  · rfl

/-- One more event, of which no session is told. -/
theorem Tells.event {event : Event Session} (sessions : next.sessions = handler.sessions)
    (grown : next.history = handler.history ++ [event]) (other : event.isTransmission = false)
    (quiet : ∀ session, event.notification? session = none) : handler.Tells next := by
  refine ⟨[event], grown, List.forall_mem_singleton.mpr other, ?_⟩
  intro session
  rw [change, online, find, sessions, if_pos]
  · simp [notifications, quiet session]
  · rfl

omit [DecidableEq Session] in
theorem isTransmission_notify (record : SessionRecord Session) (online : Bool) :
    ∀ event ∈ record.notify online, event.isTransmission = false := by
  rw [SessionRecord.notify]
  split
  · exact List.forall_mem_nil _
  split
  · exact List.forall_mem_singleton.mpr rfl
  · exact List.forall_mem_singleton.mpr rfl

theorem tells_visitAll (consistent : handler.Consistent) {visitor : Visit Session}
    (honest : Honest visitor) : handler.Tells (handler.visitAll visitor) := by
  refine ⟨_, rfl, ?_, notifications_visitAll consistent honest⟩
  intro event member
  obtain ⟨record, _, inside⟩ := List.mem_flatMap.mp member
  rw [honest.events] at inside
  exact isTransmission_notify record _ event inside

theorem tells_visit (handler : IOHandler Session) {visitor : Visit Session}
    (honest : Honest visitor) (session : Session) :
    handler.Tells (handler.visit session visitor) := by
  refine ⟨_, rfl, ?_, notifications_visit honest handler session⟩
  intro event member
  cases found : handler.find session with
  | none =>
      rw [found] at member
      cases member
  | some record =>
      rw [found] at member
      change event ∈ (visitor record).2 at member
      rw [honest.events] at member
      exact isTransmission_notify record _ event member

/-! ## Matching completions -/

/-- Completions so far were of frames that sessions waited for, and only sessions that are online
wait for any. -/
structure Completing (handler : IOHandler Session) : Prop where
  lawful : Lawful CompletesOwn handler.history
  idle : ∀ session, handler.online session = false → outstanding session handler.history = []

/-- What is queued is what sessions wait for. -/
structure Matched (handler : IOHandler Session) : Prop extends Completing handler where
  queued : ∀ session, outstanding session handler.history = handler.queued session

theorem Completing.tells (completing : handler.Completing) (tells : handler.Tells next) :
    next.Completing := by
  refine ⟨tells.lawful completing.lawful, ?_⟩
  intro session offline
  rw [tells.outstanding session]
  split
  · next same => exact completing.idle session (same ▸ offline)
  · rfl

/-- Nothing changes for the sessions that wait for frames. -/
theorem Matched.tells (matched : handler.Matched) (tells : handler.Tells next)
    (txQueue : next.txQueue = handler.txQueue)
    (kept : ∀ session, handler.queued session ≠ [] → next.online session = handler.online session) :
    next.Matched := by
  refine ⟨matched.toCompleting.tells tells, ?_⟩
  intro session
  have same : next.queued session = handler.queued session := by
    rw [IOHandler.queued, IOHandler.queued, txQueue]
  rw [tells.outstanding session, same, ← matched.queued session]
  split
  · rfl
  · next changed =>
    by_contra waiting
    refine changed (kept session ?_)
    rw [← matched.queued session]
    exact fun empty => waiting empty.symm

omit [DecidableEq Session] in
theorem txQueue_reset (handler : IOHandler Session) : handler.reset.txQueue = [] := rfl

/-- Once the channel is gone, nobody waits for anything. -/
theorem Completing.reset (completing : handler.Completing) (orderly : handler.Orderly) :
    handler.reset.Matched := by
  have after := orderly.reset
  have kept : handler.reset.Completing := by
    rw [IOHandler.reset]
    cases present : handler.channel with
    | none => exact ⟨completing.lawful, completing.idle⟩
    | some channel =>
        have dropped : ({ handler with channel := none }.log (.stateChange .closed)).Consistent := by
          have same : { handler with channel := none : IOHandler Session }.Consistent :=
            orderly.consistent.of_quiet orderly.consistent.unique (fun _ => rfl) fun _ => rfl
          exact same.log fun _ => rfl
        have closed : ({ handler with channel := none }.log (.stateChange .closed)).Completing :=
          completing.tells
            (@Tells.event _ _ _ _ (.stateChange .closed) rfl rfl rfl fun _ => rfl)
        have down := closed.tells (tells_visitAll dropped SessionRecord.honest_lowerLayerDown)
        exact ⟨down.lawful, down.idle⟩
  refine ⟨kept, ?_⟩
  intro session
  have offline := after.connected session
  rw [channel_reset, Option.isSome_none, Bool.and_false] at offline
  exact kept.idle session offline

theorem Matched.log (matched : handler.Matched) {event : Event Session}
    (other : event.isTransmission = false) (quiet : ∀ session, event.notification? session = none) :
    (handler.log event).Matched :=
  matched.tells (.event rfl rfl other quiet) rfl fun _ _ => rfl

theorem Completing.failed (completing : handler.Completing) (orderly : handler.Orderly) :
    handler.failed.Matched :=
  ((completing.reset orderly).log rfl fun _ => rfl).log rfl fun _ => rfl

theorem Matched.shutdown (matched : handler.Matched) (orderly : handler.Orderly) :
    handler.shutdown.Matched := by
  rw [IOHandler.shutdown]
  split
  · exact matched
  · have marked : { handler with isShutdown := true : IOHandler Session }.Orderly :=
      orderly.quiet (.same rfl rfl rfl)
    have same : { handler with isShutdown := true : IOHandler Session }.Completing :=
      ⟨matched.lawful, matched.idle⟩
    exact ((same.reset marked).log rfl fun _ => rfl).log rfl fun _ => rfl

theorem Matched.onNewChannel (matched : handler.Matched) (orderly : handler.Orderly) :
    handler.onNewChannel.Matched := by
  rw [IOHandler.onNewChannel]
  split
  · exact matched
  have offline := orderly.reset
  have none := matched.toCompleting.reset orderly
  have empty := handler.txQueue_reset
  generalize handler.reset = dropped at offline none empty
  have opened : ({ dropped with channel := some {} }.log (.stateChange .opened)).Consistent := by
    have same : { dropped with channel := some {} : IOHandler Session }.Consistent :=
      offline.consistent.of_quiet offline.consistent.unique (fun _ => rfl) fun _ => rfl
    exact same.log fun _ => rfl
  have before : ({ dropped with channel := some {} }.log (.stateChange .opened)).Matched :=
    none.tells (.event rfl rfl rfl fun _ => rfl) rfl fun _ _ => rfl
  refine before.tells (tells_visitAll opened SessionRecord.honest_onNewChannel) rfl ?_
  intro session waiting
  refine absurd ?_ waiting
  change List.filterMap _ dropped.txQueue = []
  rw [empty]
  rfl

theorem Matched.checkForSend (matched : handler.Matched) : handler.checkForSend.Matched := by
  rw [IOHandler.checkForSend]
  split
  · next channel transmission others present queued =>
    split
    · exact matched
    · exact matched.tells (.event rfl rfl rfl fun _ => rfl) rfl fun _ _ => rfl
  · exact matched

/-- A session that is online begins to transmit. -/
theorem Matched.beginTransmit (matched : handler.Matched) {session : Session}
    (txdata : List UInt8) (online : handler.channel.isSome = true → handler.online session = true) :
    (handler.beginTransmit session txdata).Matched := by
  rw [IOHandler.beginTransmit]
  split
  · exact matched
  next channel present =>
  have active := online (by rw [present]; rfl)
  refine Matched.checkForSend ⟨⟨matched.lawful.concat trivial, ?_⟩, ?_⟩
  · intro other offline
    have foreign : session ≠ other := by
      rintro rfl
      exact absurd (active.symm.trans offline) (by decide)
    have same := matched.idle other offline
    change outstanding other (handler.history ++ [_]) = []
    rw [outstanding_concat]
    exact (if_neg foreign).trans same
  · intro other
    have before := matched.queued other
    change outstanding other (handler.history ++ [_]) = List.filterMap _ (handler.txQueue ++ [_])
    rw [outstanding_concat, List.filterMap_append, before]
    change _ = handler.queued other ++ _
    by_cases own : session = other
    · simp [observe, own]
    · simp [observe, own]

/-- The frame that was written is the first one that its session waits for. -/
theorem Matched.onWriteComplete (matched : handler.Matched) (orderly : handler.Orderly) :
    (handler.onWriteComplete false).Matched := by
  rw [IOHandler.onWriteComplete, if_neg (by decide)]
  split
  · exact matched.checkForSend
  next transmission others first =>
  have queued (session : Session) : outstanding session handler.history =
      (if transmission.session = session then [transmission.txdata] else []) ++
        IOHandler.queued { handler with txQueue := others } session := by
    rw [matched.queued session, IOHandler.queued, first, IOHandler.queued]
    by_cases own : transmission.session = session
    · simp [own]
    · simp [own]
  have mine := queued transmission.session
  rw [if_pos rfl] at mine
  have online : handler.online transmission.session = true := by
    by_contra offline
    rw [matched.idle _ (by simpa using offline)] at mine
    cases mine
  refine Matched.checkForSend ⟨⟨matched.lawful.concat ⟨?_, _, mine⟩, ?_⟩, ?_⟩
  · rw [orderly.consistent.told]
    exact online
  · intro session offline
    have none := matched.idle session offline
    change outstanding session (handler.history ++ [_]) = []
    rw [outstanding_concat, none, observe, List.tail_nil, ite_self]
  · intro session
    change outstanding session (handler.history ++ [_]) = _
    rw [outstanding_concat, queued session, observe]
    by_cases own : transmission.session = session
    · rw [if_pos own, if_pos own]
      rfl
    · rw [if_neg own, if_neg own]
      rfl

/-! ## Users -/

theorem Matched.addContext (matched : handler.Matched) (session : Session) (route : Route) :
    (handler.addContext session route).1.Matched := by
  rw [IOHandler.addContext]
  split
  · exact matched
  split
  · exact matched
  next unused =>
  refine ⟨⟨matched.lawful, ?_⟩, matched.queued⟩
  intro other offline
  have fresh : handler.find session = none := by simpa using unused
  exact matched.idle other
    ((@online_concat _ _ handler ⟨session, route, false, false⟩ fresh rfl other).symm.trans offline)

/-- The session waits for nothing, and comes online. -/
theorem Matched.enable (matched : handler.Matched) (orderly : handler.Orderly)
    (session : Session) : (handler.enable session).1.Matched := by
  rw [IOHandler.enable]
  split
  · exact matched
  next record found =>
  split
  · exact matched
  next disabled =>
  have honest := @SessionRecord.honest_setEnabled Session true
  have same (other : Session) :
      (handler.visit session (SessionRecord.setEnabled true)).online other =
        handler.online other := by
    rw [online_visit honest]
    split
    · next own => rw [own]; rfl
    · rfl
  have enabled : (handler.visit session (SessionRecord.setEnabled true)).Matched :=
    matched.tells (tells_visit handler honest session) rfl fun other _ => same other
  dsimp only
  split
  · refine enabled.tells
      (tells_visit _ SessionRecord.honest_lowerLayerUp session) rfl ?_
    intro other waiting
    rw [online_visit SessionRecord.honest_lowerLayerUp]
    split
    · next own =>
      have offline := orderly.connected session
      rw [IOHandler.enabled, found] at offline
      have none := matched.idle session (by simpa [disabled] using offline)
      rw [matched.queued session] at none
      exact absurd (own ▸ none) waiting
    · rfl
  · exact (enabled.log rfl fun _ => rfl).log rfl fun _ => rfl

theorem tells_lowerLayerDown (handler : IOHandler Session) (session : Session) :
    handler.Tells (handler.lowerLayerDown session) := by
  rw [lowerLayerDown]
  split
  · exact tells_visit handler SessionRecord.honest_lowerLayerDown session
  · exact .same rfl rfl

/-- A session that is the only one enabled leaves none when it is disabled. -/
theorem eq_of_onlyEnabled {session other : Session}
    (only : handler.OnlyEnabled session) (enabled : handler.enabled other = true) :
    other = session := by
  rw [IOHandler.enabled] at enabled
  cases found : handler.find other with
  | none =>
      rw [found] at enabled
      cases enabled
  | some record =>
      rw [found] at enabled
      have known : record.session = other := Keyed.key_of_find found
      exact known.symm.trans (only.2 record (Keyed.mem_of_find found) enabled)

/-- A session is told that the channel is gone for it, and waits for nothing that is queued. -/
theorem Matched.lowerLayerDown (matched : handler.Matched) {session : Session}
    (unqueued : handler.queued session = []) : (handler.lowerLayerDown session).Matched := by
  have txQueue : (handler.lowerLayerDown session).txQueue = handler.txQueue := by
    rw [IOHandler.lowerLayerDown]
    split
    · rfl
    · rfl
  refine matched.tells (tells_lowerLayerDown handler session) txQueue ?_
  intro other waiting
  have foreign : other ≠ session := by
    rintro rfl
    exact waiting unqueued
  rw [IOHandler.lowerLayerDown]
  split
  · rw [online_visit SessionRecord.honest_lowerLayerDown, if_neg foreign]
  · rfl

/-- A session is disabled that waits for nothing, or with which the channel goes. -/
theorem Matched.disable (matched : handler.Matched) (orderly : handler.Orderly) {session : Session}
    (allowed : handler.queued session = [] ∨ handler.OnlyEnabled session) :
    (handler.disable session).1.Matched := by
  rw [IOHandler.disable]
  split
  · exact matched
  split
  · exact matched
  have honest := @SessionRecord.honest_setEnabled Session false
  have same (other : Session) :
      (handler.visit session (SessionRecord.setEnabled false)).online other =
        handler.online other := by
    rw [online_visit honest]
    split
    · next own => rw [own]; rfl
    · rfl
  have disabled : (handler.visit session (SessionRecord.setEnabled false)).Matched :=
    matched.tells (tells_visit handler honest session) rfl fun other _ => same other
  obtain ⟨after, others⟩ := orderly.disabled session
  dsimp only
  split
  · next any =>
    refine disabled.lowerLayerDown ?_
    rcases allowed with unqueued | only
    · exact unqueued
    · obtain ⟨other, active⟩ := (isAnySessionEnabled_iff after.consistent).mp any
      obtain ⟨foreign, enabled⟩ := others other active
      exact absurd (eq_of_onlyEnabled only enabled) foreign
  · exact ((disabled.toCompleting.tells (tells_lowerLayerDown _ session)).reset after).log rfl
      fun _ => rfl

theorem Matched.remove (matched : handler.Matched) (orderly : handler.Orderly) {session : Session}
    (unqueued : handler.queued session = []) : (handler.remove session).1.Matched := by
  rw [IOHandler.remove]
  split
  · exact matched
  obtain ⟨told, _, offline, _⟩ :=
    lowerLayerDown_offline orderly.consistent (fun _ => orderly.connected) session
  have down := matched.lowerLayerDown unqueued
  have removed : ((handler.lowerLayerDown session).erase session).Matched := by
    refine ⟨⟨down.lawful, ?_⟩, down.queued⟩
    intro other inactive
    by_cases same : other = session
    · exact down.idle other (same ▸ offline)
    · rw [online, find_erase told.unique, if_neg same] at inactive
      exact down.idle other inactive
  dsimp only
  split
  · exact removed
  · exact removed.log rfl fun _ => rfl

/-! ## Runs -/

/-- A session that waits for frames is not removed, and not disabled unless it is the only one
enabled; and only a session that is online transmits. -/
def KeepsMatched (handler : IOHandler Session) : Input Session → Prop
  | .disable session => handler.queued session = [] ∨ handler.OnlyEnabled session
  | .remove session => handler.queued session = []
  | .beginTransmit session _ => handler.channel.isSome = true → handler.online session = true
  | _ => True

theorem Matched.step {input : Input Session} {output : Bool} (matched : handler.Matched)
    (orderly : handler.Orderly) (allowed : handler.KeepsMatched input)
    (step : handler.step input = some (next, output)) : next.Matched := by
  cases input with
  | addContext session route =>
      obtain rfl := (Prod.mk.inj (Option.some.inj step)).1
      exact matched.addContext session route
  | enable session =>
      obtain rfl := (Prod.mk.inj (Option.some.inj step)).1
      exact matched.enable orderly session
  | disable session =>
      obtain rfl := (Prod.mk.inj (Option.some.inj step)).1
      exact matched.disable orderly allowed
  | remove session =>
      obtain rfl := (Prod.mk.inj (Option.some.inj step)).1
      exact matched.remove orderly allowed
  | beginTransmit session txdata =>
      obtain rfl := (Prod.mk.inj (Option.some.inj step)).1
      exact matched.beginTransmit txdata allowed
  | newChannel =>
      obtain rfl := (Prod.mk.inj (Option.some.inj step)).1
      exact matched.onNewChannel orderly
  | readComplete failed =>
      rw [IOHandler.step] at step
      split at step
      · cases step
      · obtain rfl := (Prod.mk.inj (Option.some.inj step)).1
        cases failed with
        | true => exact matched.toCompleting.failed orderly
        | false => exact matched
  | writeComplete failed =>
      rw [IOHandler.step] at step
      split at step
      · next present =>
        obtain rfl := (Prod.mk.inj (Option.some.inj step)).1
        have same : IOHandler.Orderly { handler with channel := some { writing := false } } := by
          refine orderly.quiet (.same rfl ?_ rfl)
          rw [present]
          rfl
        have written : IOHandler.Matched { handler with channel := some { writing := false } } :=
          ⟨⟨matched.lawful, matched.idle⟩, matched.queued⟩
        cases failed with
        | true => exact written.toCompleting.failed same
        | false => exact written.onWriteComplete same
      · cases step
  | shutdown =>
      obtain rfl := (Prod.mk.inj (Option.some.inj step)).1
      exact matched.shutdown orderly

/-- Completions match transmissions, as long as no session goes that waits for frames on a channel
that stays. -/
theorem matched_of_reachesWhile {closeExisting : Bool}
    (reached : machine.ReachesWhile KeepsMatched { closeExisting } handler) :
    Lawful CompletesOwn handler.history ∧
      ∀ session, handler.queued session = outstanding session handler.history := by
  have kept : handler.Orderly ∧ handler.Matched := by
    refine @Machine.ReachesWhile.invariant _ _ _ _ _ _ _
      (fun handler => handler.Orderly ∧ handler.Matched) reached ⟨orderly_initial closeExisting,
        ⟨⟨.nil, fun _ _ => rfl⟩, fun _ => rfl⟩⟩ ?_
    intro before after input output holds allowed step
    obtain ⟨orderly, matched⟩ := holds
    exact ⟨orderly.step step, matched.step orderly allowed step⟩
  exact ⟨kept.2.lawful, fun session => (kept.2.queued session).symm⟩

/-! ## A completion that comes too late -/

instance : DecidableRel (@KeepsMatched Session _)
  | handler, .disable session =>
      inferInstanceAs (Decidable (handler.queued session = [] ∨ handler.OnlyEnabled session))
  | handler, .remove session => inferInstanceAs (Decidable (handler.queued session = []))
  | handler, .beginTransmit session _ =>
      inferInstanceAs (Decidable (handler.channel.isSome = true → handler.online session = true))
  | _, .addContext _ _ | _, .enable _ | _, .newChannel | _, .readComplete _
  | _, .writeComplete _ | _, .shutdown => .isTrue trivial

/-- Two sessions share a channel. -/
def sharedChannel : List (Input Nat) :=
  [.addContext 0 ⟨1, 10⟩, .addContext 1 ⟨2, 10⟩, .enable 0, .enable 1, .newChannel,
    .beginTransmit 0 [1]]

/-- A frame is transmitted, and then its session is disabled and enabled again. -/
theorem matched_sharedChannel :
    ∃ handler : IOHandler Nat,
      machine.ReachesWhile KeepsMatched { closeExisting := false } handler ∧
        handler.queued 0 = [[2]] ∧ Lawful CompletesOwn handler.history ∧
        ∀ session, handler.queued session = outstanding session handler.history := by
  obtain ⟨handler, reached, checked⟩ :=
    @Machine.exists_reachesWhile_of_runWhile _ _ _ machine KeepsMatched _
      ({ closeExisting := false } : IOHandler Nat) (fun handler => handler.queued 0 = [[2]])
      (sharedChannel ++ [.writeComplete false, .disable 0, .enable 0, .beginTransmit 0 [2]])
      (by decide +kernel)
  exact ⟨handler, reached, by simpa using checked, matched_of_reachesWhile reached⟩

/-- The session is disabled and enabled again while its frame is written, and the completion is
taken for that of the next frame. -/
theorem not_matched_reenabled :
    ∃ handler : IOHandler Nat,
      machine.Reaches { closeExisting := false } handler ∧
        ¬(Lawful CompletesOwn handler.history ∧
          ∀ session, handler.queued session = outstanding session handler.history) := by
  obtain ⟨handler, reached, checked⟩ :=
    @Machine.exists_reaches_of_run _ _ _ machine ({ closeExisting := false } : IOHandler Nat)
      (fun handler => handler.history =
        [.stateChange .opening, .beginChannelAccept, .stateChange .opening, .beginChannelAccept,
          .stateChange .opened, .lowerLayerUp 0, .lowerLayerUp 1, .beginTransmit 0 [1],
          .beginWrite [1], .lowerLayerDown 0, .lowerLayerUp 0, .beginTransmit 0 [2]] ++
          [.txReady 0 [1]] ++ [.beginWrite [2]])
      (sharedChannel ++ [.disable 0, .enable 0, .beginTransmit 0 [2], .writeComplete false])
      (by decide +kernel)
  refine ⟨handler, reached, ?_⟩
  rintro ⟨lawful, _⟩
  rw [of_decide_eq_true checked] at lawful
  obtain ⟨_, others, waiting⟩ := lawful _ (.txReady 0 [1]) (List.prefix_append _ _)
  have alone : outstanding 0 [.stateChange .opening, .beginChannelAccept, .stateChange .opening,
      .beginChannelAccept, .stateChange .opened, .lowerLayerUp 0, .lowerLayerUp 1,
      .beginTransmit 0 [1], .beginWrite [1], .lowerLayerDown 0, .lowerLayerUp 0,
      .beginTransmit 0 [2]] = [[2]] := by decide +kernel
  obtain ⟨first, _⟩ := List.cons_eq_cons.mp (waiting.symm.trans alone)
  exact absurd first (by decide)

end IOHandler

end OpenDnp3.Channels
