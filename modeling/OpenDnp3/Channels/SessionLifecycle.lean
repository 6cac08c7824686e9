import Mathlib.Data.List.Chain
import OpenDnp3.Channels.IOHandler

/-!
# Lifecycle of sessions

What sessions are told of their channel: up and down in turn, and up exactly
while they are enabled and there is a channel.
-/

set_option autoImplicit false

namespace OpenDnp3.Channels

open OpenDnp3.Library

variable {Session : Type} [DecidableEq Session]

/-! ## Notifications -/

/-- Whether a session is told that its channel is up or down. -/
def Event.notification? (session : Session) : Event Session → Option Bool
  | .lowerLayerUp other => if other = session then some true else none
  | .lowerLayerDown other => if other = session then some false else none
  | _ => none

def notifications (session : Session) (history : List (Event Session)) : List Bool :=
  history.filterMap (Event.notification? session)

/-- What a session was told last. At first it is not online. -/
def told (session : Session) (history : List (Event Session)) : Bool :=
  (notifications session history).getLastD false

/-- Up comes first, and then up and down in turn. -/
def Alternates (notifications : List Bool) : Prop := (false :: notifications).IsChain (· ≠ ·)

/-- The notification of a change. -/
def change (before after : Bool) : List Bool := if after = before then [] else [after]

theorem notifications_append (session : Session) (history events : List (Event Session)) :
    notifications session (history ++ events) =
      notifications session history ++ notifications session events :=
  List.filterMap_append

theorem alternates_change {notified : List Bool} (alternates : Alternates notified) (after : Bool) :
    Alternates (notified ++ change (notified.getLastD false) after) ∧
      (notified ++ change (notified.getLastD false) after).getLastD false = after := by
  rw [change]
  by_cases same : after = notified.getLastD false
  · rw [if_pos same, List.append_nil]
    exact ⟨alternates, same.symm⟩
  · rw [if_neg same]
    refine ⟨?_, by simp⟩
    rw [Alternates, ← List.cons_append]
    refine List.IsChain.append alternates (List.isChain_singleton _) ?_
    intro last isLast first isFirst
    obtain rfl : after = first := by simpa using isFirst
    obtain rfl : notified.getLastD false = last := by
      rw [List.getLast?_cons] at isLast
      simpa using isLast
    exact fun equal => same equal.symm

/-! ## Visits -/

/-- What a session is told of a change. -/
def SessionRecord.notify (record : SessionRecord Session) (online : Bool) : List (Event Session) :=
  if online = record.online then []
  else if online then [.lowerLayerUp record.session]
  else [.lowerLayerDown record.session]

/-- A visit tells a session what becomes of it. -/
structure Honest (visit : Visit Session) : Prop where
  session : ∀ record, (visit record).1.session = record.session
  events : ∀ record, (visit record).2 = record.notify (visit record).1.online

theorem notifications_notify (record : SessionRecord Session) (online : Bool)
    (session : Session) :
    notifications session (record.notify online) =
      if record.session = session then change record.online online else [] := by
  rw [SessionRecord.notify, change]
  by_cases same : online = record.online
  · simp [same, notifications]
  · rw [if_neg same, if_neg same]
    by_cases own : record.session = session
    · cases online with
      | true => simp [notifications, Event.notification?, own]
      | false => simp [notifications, Event.notification?, own]
    · cases online with
      | true => simp [notifications, Event.notification?, own]
      | false => simp [notifications, Event.notification?, own]

namespace SessionRecord

omit [DecidableEq Session]

theorem online_lowerLayerUp (record : SessionRecord Session) :
    record.lowerLayerUp.1.online = true ∧ record.lowerLayerUp.1.enabled = record.enabled := by
  rw [lowerLayerUp]
  split
  · exact ⟨by assumption, rfl⟩
  · exact ⟨rfl, rfl⟩

theorem online_lowerLayerDown (record : SessionRecord Session) :
    record.lowerLayerDown.1.online = false ∧ record.lowerLayerDown.1.enabled = record.enabled := by
  rw [lowerLayerDown]
  split
  · exact ⟨rfl, rfl⟩
  · exact ⟨by simpa using ‹¬record.online = true›, rfl⟩

theorem honest_lowerLayerUp : Honest (@lowerLayerUp Session) := by
  constructor
  · intro record
    rw [lowerLayerUp]
    split
    · rfl
    · rfl
  · intro record
    rw [lowerLayerUp]
    cases online : record.online with
    | true => simp [notify, online]
    | false => simp [notify, online]

theorem honest_lowerLayerDown : Honest (@lowerLayerDown Session) := by
  constructor
  · intro record
    rw [lowerLayerDown]
    split
    · rfl
    · rfl
  · intro record
    rw [lowerLayerDown]
    cases online : record.online with
    | true => simp [notify, online]
    | false => simp [notify, online]

theorem honest_setEnabled (enabled : Bool) : Honest (@setEnabled Session enabled) := by
  constructor
  · intro record
    rfl
  · intro record
    simp [setEnabled, notify]

theorem honest_onNewChannel : Honest (@onNewChannel Session) := by
  constructor
  · intro record
    rw [onNewChannel]
    split
    · exact honest_lowerLayerUp.session record
    · rfl
  · intro record
    rw [onNewChannel]
    split
    · exact honest_lowerLayerUp.events record
    · simp [notify]

end SessionRecord

/-! ## Handlers -/

namespace IOHandler

def online (handler : IOHandler Session) (session : Session) : Bool :=
  (handler.find session).any fun record => record.online

def enabled (handler : IOHandler Session) (session : Session) : Bool :=
  (handler.find session).any fun record => record.enabled

/-- Sessions were told what the handler knows of them. -/
structure Consistent (handler : IOHandler Session) : Prop where
  unique : (handler.sessions.map SessionRecord.session).Nodup
  told : ∀ session, told session handler.history = handler.online session
  alternates : ∀ session, Alternates (notifications session handler.history)

/-- What is told of every change is consistent. -/
theorem Consistent.of_change {handler next : IOHandler Session} (consistent : handler.Consistent)
    (unique : (next.sessions.map SessionRecord.session).Nodup)
    (notified : ∀ session, notifications session next.history =
      notifications session handler.history ++
        change (handler.online session) (next.online session)) : next.Consistent := by
  refine ⟨unique, ?_, ?_⟩
  · intro session
    rw [Channels.told, notified session, ← consistent.told session]
    exact (alternates_change (consistent.alternates session) _).2
  · intro session
    rw [notified session, ← consistent.told session]
    exact (alternates_change (consistent.alternates session) _).1

/-- Nobody is told anything. -/
theorem Consistent.of_quiet {handler next : IOHandler Session} (consistent : handler.Consistent)
    (unique : (next.sessions.map SessionRecord.session).Nodup)
    (online : ∀ session, next.online session = handler.online session)
    (quiet : ∀ session, notifications session next.history =
      notifications session handler.history) : next.Consistent := by
  refine consistent.of_change unique ?_
  intro session
  rw [quiet session, change, if_pos (online session), List.append_nil]

theorem Consistent.log {handler : IOHandler Session} (consistent : handler.Consistent)
    {event : Event Session} (quiet : ∀ session, event.notification? session = none) :
    (handler.log event).Consistent := by
  refine consistent.of_quiet consistent.unique (fun _ => rfl) ?_
  intro session
  rw [IOHandler.log, notifications_append]
  simp [notifications, quiet session]

variable {visitor : Visit Session}

theorem find_visitAll (honest : Honest visitor) (handler : IOHandler Session) (session : Session) :
    (handler.visitAll visitor).find session =
      (handler.find session).map fun record => (visitor record).1 :=
  Keyed.find_map honest.session session handler.sessions

theorem find_visit (honest : Honest visitor) (handler : IOHandler Session)
    (session other : Session) :
    (handler.visit session visitor).find other =
      if other = session then (handler.find other).map fun record => (visitor record).1
      else handler.find other :=
  Keyed.find_update honest.session session other handler.sessions

/-- What a visit of all sessions tells each of them. -/
theorem notifications_visitAll {handler : IOHandler Session} (consistent : handler.Consistent)
    (honest : Honest visitor) (session : Session) :
    notifications session (handler.sessions.flatMap fun record => (visitor record).2) =
      change (handler.online session) ((handler.visitAll visitor).online session) := by
  have other (record : SessionRecord Session) (different : record.session ≠ session) :
      (visitor record).2.filterMap (Event.notification? session) = [] := by
    rw [honest.events]
    exact (notifications_notify record _ session).trans (if_neg different)
  refine (Keyed.filterMap_flatMap consistent.unique session (fun record => (visitor record).2)
    (Event.notification? session) other).trans ?_
  rw [online, online, find_visitAll honest]
  change (handler.find session).elim [] _ = _
  cases found : handler.find session with
  | none => rfl
  | some record =>
      change (visitor record).2.filterMap _ = _
      rw [honest.events]
      exact (notifications_notify record _ session).trans (if_pos (Keyed.key_of_find found))

/-- What a visit of one session tells each of them. -/
theorem notifications_visit (honest : Honest visitor) (handler : IOHandler Session)
    (session other : Session) :
    notifications other ((handler.find session).elim [] fun record => (visitor record).2) =
      change (handler.online other) ((handler.visit session visitor).online other) := by
  rw [online, online, find_visit honest]
  cases found : handler.find session with
  | none =>
      by_cases same : other = session
      · rw [if_pos same, same, found]
        rfl
      · rw [if_neg same, change, if_pos rfl]
        rfl
  | some record =>
      have known : record.session = session := Keyed.key_of_find found
      change notifications other (visitor record).2 = _
      rw [honest.events, notifications_notify]
      by_cases same : other = session
      · rw [if_pos (known.trans same.symm), if_pos same, same, found]
        rfl
      · rw [if_neg fun equal => same (equal.symm.trans known), if_neg same, change, if_pos rfl]

theorem Consistent.visitAll {handler : IOHandler Session} (consistent : handler.Consistent)
    (honest : Honest visitor) : (handler.visitAll visitor).Consistent := by
  refine consistent.of_change ?_ ?_
  · exact (Keyed.map_key_map honest.session handler.sessions).symm ▸ consistent.unique
  · intro session
    change notifications session (handler.history ++ _) = _
    rw [notifications_append, notifications_visitAll consistent honest]

theorem Consistent.visit {handler : IOHandler Session} (consistent : handler.Consistent)
    (honest : Honest visitor) (session : Session) :
    (handler.visit session visitor).Consistent := by
  refine consistent.of_change ?_ ?_
  · exact (Keyed.map_key_update honest.session session handler.sessions).symm ▸ consistent.unique
  · intro other
    change notifications other (handler.history ++ _) = _
    rw [notifications_append, notifications_visit honest]

/-! ## Quiet steps -/

/-- Sessions and channel are the same, and nobody is told anything. -/
structure Quiet (handler next : IOHandler Session) : Prop where
  sessions : next.sessions = handler.sessions
  channel : next.channel.isSome = handler.channel.isSome
  notified : ∀ session, notifications session next.history =
    notifications session handler.history

theorem Quiet.same {handler next : IOHandler Session} (sessions : next.sessions = handler.sessions)
    (channel : next.channel.isSome = handler.channel.isSome)
    (history : next.history = handler.history) : handler.Quiet next :=
  ⟨sessions, channel, fun session => congrArg (notifications session) history⟩

theorem Quiet.trans {handler middle next : IOHandler Session} (first : handler.Quiet middle)
    (second : middle.Quiet next) : handler.Quiet next :=
  ⟨second.sessions.trans first.sessions, second.channel.trans first.channel,
    fun session => (second.notified session).trans (first.notified session)⟩

theorem Quiet.log {handler next : IOHandler Session} (quiet : handler.Quiet next)
    {event : Event Session} (silent : ∀ session, event.notification? session = none) :
    handler.Quiet (next.log event) := by
  refine quiet.trans ⟨rfl, rfl, ?_⟩
  intro session
  rw [IOHandler.log, notifications_append]
  simp [notifications, silent session]

theorem Quiet.checkForSend {handler next : IOHandler Session} (quiet : handler.Quiet next) :
    handler.Quiet next.checkForSend := by
  rw [IOHandler.checkForSend]
  split
  · next channel transmission others present queued =>
    split
    · exact quiet
    · refine Quiet.log ?_ fun _ => rfl
      refine quiet.trans (.same rfl ?_ rfl)
      rw [present]
      rfl
  · exact quiet

theorem quiet_beginTransmit (handler : IOHandler Session) (session : Session)
    (txdata : List UInt8) : handler.Quiet (handler.beginTransmit session txdata) := by
  rw [beginTransmit]
  split
  · exact .same rfl rfl rfl
  · refine Quiet.checkForSend (Quiet.log ?_ fun _ => rfl)
    exact .same rfl rfl rfl

theorem quiet_onWriteComplete (handler : IOHandler Session) :
    handler.Quiet (handler.onWriteComplete false) := by
  rw [onWriteComplete, if_neg (by decide)]
  split
  · exact Quiet.checkForSend (.same rfl rfl rfl)
  · refine Quiet.checkForSend (Quiet.log ?_ fun _ => rfl)
    exact .same rfl rfl rfl

/-! ## Sessions and their channel -/

/-- Sessions are online exactly while they are enabled and there is a channel. -/
def Connected (handler : IOHandler Session) : Prop :=
  ∀ session, handler.online session = (handler.enabled session && handler.channel.isSome)

/-- What sessions were told, and rightly so. -/
structure Orderly (handler : IOHandler Session) : Prop where
  consistent : handler.Consistent
  connected : handler.Connected

theorem Orderly.quiet {handler next : IOHandler Session} (orderly : handler.Orderly)
    (quiet : handler.Quiet next) : next.Orderly := by
  have found (session : Session) : next.find session = handler.find session :=
    congrArg (Keyed.find SessionRecord.session session) quiet.sessions
  have online (session : Session) : next.online session = handler.online session :=
    congrArg _ (found session)
  have enabled (session : Session) : next.enabled session = handler.enabled session :=
    congrArg _ (found session)
  refine ⟨orderly.consistent.of_quiet ?_ online quiet.notified, ?_⟩
  · rw [quiet.sessions]
    exact orderly.consistent.unique
  · intro session
    rw [online, enabled, quiet.channel]
    exact orderly.connected session

theorem Orderly.log {handler : IOHandler Session} (orderly : handler.Orderly)
    {event : Event Session} (quiet : ∀ session, event.notification? session = none) :
    (handler.log event).Orderly :=
  orderly.quiet (Quiet.log (Quiet.same rfl rfl rfl) quiet)

omit [DecidableEq Session] in
theorem channel_reset (handler : IOHandler Session) : handler.reset.channel = none := by
  rw [reset]
  cases present : handler.channel with
  | none => exact present
  | some channel => rfl

theorem enabled_visitAll (honest : Honest visitor)
    (kept : ∀ record, (visitor record).1.enabled = record.enabled) (handler : IOHandler Session)
    (session : Session) : (handler.visitAll visitor).enabled session = handler.enabled session := by
  rw [enabled, enabled, find_visitAll honest]
  cases handler.find session with
  | none => rfl
  | some record => exact kept record

theorem enabled_reset (handler : IOHandler Session) (session : Session) :
    handler.reset.enabled session = handler.enabled session := by
  rw [reset]
  split
  · rfl
  · exact enabled_visitAll SessionRecord.honest_lowerLayerDown
      (fun record => record.online_lowerLayerDown.2) _ session

/-- Without a channel nobody is online. -/
theorem Orderly.reset {handler : IOHandler Session} (orderly : handler.Orderly) :
    handler.reset.Orderly := by
  rw [IOHandler.reset]
  cases present : handler.channel with
  | none => exact orderly.quiet (.same rfl rfl rfl)
  | some channel =>
      have dropped : ({ handler with channel := none }.log (.stateChange .closed)).Consistent := by
        have same : { handler with channel := none : IOHandler Session }.Consistent :=
          orderly.consistent.of_quiet orderly.consistent.unique (fun _ => rfl) fun _ => rfl
        exact same.log fun _ => rfl
      have told := dropped.visitAll SessionRecord.honest_lowerLayerDown
      refine ⟨told.of_quiet told.unique (fun _ => rfl) fun _ => rfl, ?_⟩
      intro session
      change (({ handler with channel := none }.log (.stateChange .closed)).visitAll
        SessionRecord.lowerLayerDown).online session = (_ && false)
      rw [Bool.and_false, online, find_visitAll SessionRecord.honest_lowerLayerDown]
      cases IOHandler.find _ session with
      | none => rfl
      | some record => exact record.online_lowerLayerDown.1

theorem Orderly.failed {handler : IOHandler Session} (orderly : handler.Orderly) :
    handler.failed.Orderly :=
  (orderly.reset.log fun _ => rfl).log fun _ => rfl

theorem Orderly.shutdown {handler : IOHandler Session} (orderly : handler.Orderly) :
    handler.shutdown.Orderly := by
  rw [IOHandler.shutdown]
  split
  · exact orderly
  · have marked : { handler with isShutdown := true : IOHandler Session }.Orderly :=
      orderly.quiet (.same rfl rfl rfl)
    exact (marked.reset.log fun _ => rfl).log fun _ => rfl

theorem Orderly.onNewChannel {handler : IOHandler Session} (orderly : handler.Orderly) :
    handler.onNewChannel.Orderly := by
  rw [IOHandler.onNewChannel]
  split
  · exact orderly
  have offline := orderly.reset
  have absent := handler.channel_reset
  generalize handler.reset = dropped at offline absent
  have opened : ({ dropped with channel := some {} }.log (.stateChange .opened)).Consistent := by
    have same : { dropped with channel := some {} : IOHandler Session }.Consistent :=
      offline.consistent.of_quiet offline.consistent.unique (fun _ => rfl) fun _ => rfl
    exact same.log fun _ => rfl
  refine ⟨opened.visitAll SessionRecord.honest_onNewChannel, ?_⟩
  intro session
  have before := offline.connected session
  rw [absent, online, enabled] at before
  change _ = (_ && true)
  rw [Bool.and_true, online, enabled, find_visitAll SessionRecord.honest_onNewChannel]
  change ((dropped.find session).map _).any _ = ((dropped.find session).map _).any _
  cases found : dropped.find session with
  | none => rfl
  | some record =>
      have inactive : record.online = false := by simpa [found] using before
      change (SessionRecord.onNewChannel record).1.online =
        (SessionRecord.onNewChannel record).1.enabled
      rw [SessionRecord.onNewChannel]
      cases wanted : record.enabled with
      | false => exact inactive.trans wanted.symm
      | true =>
          obtain ⟨up, kept⟩ := record.online_lowerLayerUp
          exact up.trans (kept.trans wanted).symm

/-! ## Users -/

theorem find_concat {handler : IOHandler Session} {record : SessionRecord Session}
    (fresh : handler.find record.session = none) (other : Session) :
    IOHandler.find { handler with sessions := handler.sessions ++ [record] } other =
      if other = record.session then some record else handler.find other :=
  Keyed.find_concat record fresh

theorem online_concat {handler : IOHandler Session} {record : SessionRecord Session}
    (fresh : handler.find record.session = none) (offline : record.online = false)
    (other : Session) :
    IOHandler.online { handler with sessions := handler.sessions ++ [record] } other =
      handler.online other := by
  rw [online, find_concat fresh, online]
  by_cases same : other = record.session
  · rw [if_pos same, same, fresh]
    exact offline
  · rw [if_neg same]

theorem enabled_concat {handler : IOHandler Session} {record : SessionRecord Session}
    (fresh : handler.find record.session = none) (disabled : record.enabled = false)
    (other : Session) :
    IOHandler.enabled { handler with sessions := handler.sessions ++ [record] } other =
      handler.enabled other := by
  rw [enabled, find_concat fresh, enabled]
  by_cases same : other = record.session
  · rw [if_pos same, same, fresh]
    exact disabled
  · rw [if_neg same]

/-- A session that is neither enabled nor online is added. -/
theorem Orderly.concat {handler : IOHandler Session} (orderly : handler.Orderly)
    {record : SessionRecord Session} (fresh : handler.find record.session = none)
    (offline : record.online = false) (disabled : record.enabled = false) :
    { handler with sessions := handler.sessions ++ [record] : IOHandler Session }.Orderly := by
  refine ⟨orderly.consistent.of_quiet (Keyed.nodup_concat orderly.consistent.unique fresh)
    (online_concat fresh offline) fun _ => rfl, ?_⟩
  intro other
  rw [online_concat fresh offline, enabled_concat fresh disabled]
  exact orderly.connected other

theorem Orderly.addContext {handler : IOHandler Session} (orderly : handler.Orderly)
    (session : Session) (route : Route) : (handler.addContext session route).1.Orderly := by
  rw [IOHandler.addContext]
  split
  · exact orderly
  split
  · exact orderly
  · next unused => exact orderly.concat (by simpa using unused) rfl rfl

theorem online_visit (honest : Honest visitor) (handler : IOHandler Session)
    (session other : Session) :
    (handler.visit session visitor).online other =
      if other = session then (handler.find session).any fun record => (visitor record).1.online
      else handler.online other := by
  rw [online, find_visit honest]
  by_cases same : other = session
  · rw [if_pos same, if_pos same, same, Option.any_map]
  · rw [if_neg same, if_neg same, online]

theorem enabled_visit (honest : Honest visitor) (handler : IOHandler Session)
    (session other : Session) :
    (handler.visit session visitor).enabled other =
      if other = session then (handler.find session).any fun record => (visitor record).1.enabled
      else handler.enabled other := by
  rw [enabled, find_visit honest]
  by_cases same : other = session
  · rw [if_pos same, if_pos same, same, Option.any_map]
  · rw [if_neg same, if_neg same, enabled]

theorem Orderly.enable {handler : IOHandler Session} (orderly : handler.Orderly)
    (session : Session) : (handler.enable session).1.Orderly := by
  rw [IOHandler.enable]
  split
  · exact orderly
  next record found =>
  split
  · exact orderly
  have honest := @SessionRecord.honest_setEnabled Session true
  have consistent := orderly.consistent.visit honest session
  dsimp only
  split
  · next channel present =>
    have honestUp := @SessionRecord.honest_lowerLayerUp Session
    have present : handler.channel = some channel := present
    refine ⟨consistent.visit honestUp session, ?_⟩
    intro other
    have before := orderly.connected other
    change _ = (_ && handler.channel.isSome)
    rw [present, Option.isSome_some, Bool.and_true] at before ⊢
    rw [online_visit honestUp, enabled_visit honestUp, online_visit honest, enabled_visit honest,
      find_visit honest, if_pos rfl, found]
    split
    · obtain ⟨up, kept⟩ := SessionRecord.online_lowerLayerUp (SessionRecord.setEnabled true record).1
      exact up.trans kept.symm
    · exact before
  · next absent =>
    have absent : handler.channel = none := absent
    have opened : (handler.visit session (SessionRecord.setEnabled true)).Orderly := by
      refine ⟨consistent, ?_⟩
      intro other
      have before := orderly.connected other
      change _ = (_ && handler.channel.isSome)
      rw [absent, Option.isSome_none, Bool.and_false] at before ⊢
      rw [online_visit honest]
      split
      · next same =>
        rw [same, online] at before
        exact before
      · exact before
    exact (opened.log fun _ => rfl).log fun _ => rfl

/-- A session whose channel is gone for it is not online. -/
theorem lowerLayerDown_offline {handler : IOHandler Session} (consistent : handler.Consistent)
    (connected : handler.channel = none → handler.Connected) (session : Session) :
    (handler.lowerLayerDown session).Consistent ∧
      (handler.lowerLayerDown session).channel = handler.channel ∧
      (handler.lowerLayerDown session).online session = false ∧
      ∀ other, (other ≠ session → (handler.lowerLayerDown session).online other =
          handler.online other) ∧
        (handler.lowerLayerDown session).enabled other = handler.enabled other := by
  rw [lowerLayerDown]
  have honest := @SessionRecord.honest_lowerLayerDown Session
  cases present : handler.channel with
  | none =>
      refine ⟨consistent, present, ?_, fun other => ⟨fun _ => rfl, rfl⟩⟩
      have offline := connected present session
      rwa [present, Option.isSome_none, Bool.and_false] at offline
  | some channel =>
      refine ⟨consistent.visit honest session, present, ?_, ?_⟩
      · rw [online_visit honest, if_pos rfl]
        cases handler.find session with
        | none => rfl
        | some record => exact record.online_lowerLayerDown.1
      · intro other
        rw [online_visit honest, enabled_visit honest]
        refine ⟨fun foreign => if_neg foreign, ?_⟩
        split
        · next same =>
          rw [same, enabled]
          cases handler.find session with
          | none => rfl
          | some record => exact record.online_lowerLayerDown.2
        · rfl

/-- A session that is enabled no more is told so. -/
theorem Orderly.disabled {handler : IOHandler Session} (orderly : handler.Orderly)
    (session : Session) :
    ((handler.visit session (SessionRecord.setEnabled false)).lowerLayerDown session).Orderly ∧
      ∀ other, ((handler.visit session (SessionRecord.setEnabled false)).lowerLayerDown
        session).enabled other = true → other ≠ session ∧ handler.enabled other = true := by
  have honest := @SessionRecord.honest_setEnabled Session false
  have consistent := orderly.consistent.visit honest session
  have unconnected (absent : (handler.visit session (SessionRecord.setEnabled false)).channel =
      none) : (handler.visit session (SessionRecord.setEnabled false)).Connected := by
    intro other
    have before := orderly.connected other
    have absent : handler.channel = none := absent
    change _ = (_ && handler.channel.isSome)
    rw [absent, Option.isSome_none, Bool.and_false] at before ⊢
    rw [online_visit honest]
    split
    · next same =>
      rw [same, online] at before
      exact before
    · exact before
  obtain ⟨told, channel, offline, others⟩ := lowerLayerDown_offline consistent unconnected session
  have off : ((handler.find session).any fun record =>
      (SessionRecord.setEnabled false record).1.enabled) = false := by
    cases handler.find session with
    | none => rfl
    | some record => rfl
  refine ⟨⟨told, ?_⟩, ?_⟩
  · intro other
    obtain ⟨online, enabled⟩ := others other
    rw [enabled, channel, enabled_visit honest]
    by_cases same : other = session
    · rw [if_pos same, off, same, offline]
      rfl
    · rw [online same, online_visit honest, if_neg same, if_neg same]
      exact orderly.connected other
  · intro other active
    rw [(others other).2, enabled_visit honest] at active
    by_cases same : other = session
    · rw [if_pos same, off] at active
      cases active
    · rw [if_neg same] at active
      exact ⟨same, active⟩

theorem Orderly.disable {handler : IOHandler Session} (orderly : handler.Orderly)
    (session : Session) : (handler.disable session).1.Orderly := by
  rw [IOHandler.disable]
  split
  · exact orderly
  split
  · exact orderly
  have disabled := (orderly.disabled session).1
  dsimp only
  split
  · exact disabled
  · exact disabled.reset.log fun _ => rfl

theorem find_erase {handler : IOHandler Session}
    (unique : (handler.sessions.map SessionRecord.session).Nodup) (session other : Session) :
    (handler.erase session).find other =
      if other = session then none else handler.find other :=
  Keyed.find_erase unique session other

theorem Orderly.remove {handler : IOHandler Session} (orderly : handler.Orderly)
    (session : Session) : (handler.remove session).1.Orderly := by
  rw [IOHandler.remove]
  split
  · exact orderly
  obtain ⟨told, channel, offline, others⟩ :=
    lowerLayerDown_offline orderly.consistent (fun _ => orderly.connected) session
  have removed : ((handler.lowerLayerDown session).erase session).Orderly := by
    have found := find_erase told.unique session
    refine ⟨told.of_quiet (Keyed.nodup_erase told.unique session) ?_ fun _ => rfl, ?_⟩
    · intro other
      rw [online, found]
      by_cases same : other = session
      · rw [if_pos same, same, offline]
        rfl
      · rw [if_neg same, online]
    · intro other
      rw [online, enabled, found]
      by_cases same : other = session
      · rw [if_pos same]
        rfl
      · obtain ⟨online, enabled⟩ := others other
        rw [if_neg same]
        change (handler.lowerLayerDown session).online other =
          ((handler.lowerLayerDown session).enabled other &&
            (handler.lowerLayerDown session).channel.isSome)
        rw [online same, enabled, channel]
        exact orderly.connected other
  dsimp only
  split
  · exact removed
  · exact removed.log fun _ => rfl

/-- Whatever happens, sessions are told up and down in turn, and online exactly while they are
enabled and there is a channel. -/
theorem Orderly.step {handler next : IOHandler Session} {input : Input Session} {output : Bool}
    (orderly : handler.Orderly) (step : handler.step input = some (next, output)) :
    next.Orderly := by
  cases input with
  | addContext session route =>
      obtain rfl := (Prod.mk.inj (Option.some.inj step)).1
      exact orderly.addContext session route
  | enable session =>
      obtain rfl := (Prod.mk.inj (Option.some.inj step)).1
      exact orderly.enable session
  | disable session =>
      obtain rfl := (Prod.mk.inj (Option.some.inj step)).1
      exact orderly.disable session
  | remove session =>
      obtain rfl := (Prod.mk.inj (Option.some.inj step)).1
      exact orderly.remove session
  | beginTransmit session txdata =>
      obtain rfl := (Prod.mk.inj (Option.some.inj step)).1
      exact orderly.quiet (quiet_beginTransmit handler session txdata)
  | newChannel =>
      obtain rfl := (Prod.mk.inj (Option.some.inj step)).1
      exact orderly.onNewChannel
  | readComplete failed =>
      rw [IOHandler.step] at step
      split at step
      · cases step
      · obtain rfl := (Prod.mk.inj (Option.some.inj step)).1
        cases failed with
        | true => exact orderly.failed
        | false => exact orderly
  | writeComplete failed =>
      rw [IOHandler.step] at step
      split at step
      · next present =>
        obtain rfl := (Prod.mk.inj (Option.some.inj step)).1
        have written : IOHandler.Orderly { handler with channel := some { writing := false } } := by
          refine orderly.quiet (.same rfl ?_ rfl)
          rw [present]
          rfl
        cases failed with
        | true => exact written.failed
        | false => exact written.quiet (quiet_onWriteComplete _)
      · cases step
  | shutdown =>
      obtain rfl := (Prod.mk.inj (Option.some.inj step)).1
      exact orderly.shutdown

/-! ## Channels that nobody uses -/

theorem isAnySessionEnabled_iff {handler : IOHandler Session} (consistent : handler.Consistent) :
    handler.isAnySessionEnabled = true ↔ ∃ session, handler.enabled session = true := by
  rw [isAnySessionEnabled, List.any_eq_true]
  constructor
  · rintro ⟨record, member, enabled⟩
    refine ⟨record.session, ?_⟩
    rw [IOHandler.enabled, find, Keyed.find_of_mem consistent.unique member]
    exact enabled
  · rintro ⟨session, enabled⟩
    rw [IOHandler.enabled] at enabled
    cases found : handler.find session with
    | none =>
        rw [found] at enabled
        cases enabled
    | some record =>
        rw [found] at enabled
        exact ⟨record, Keyed.mem_of_find found, enabled⟩

/-- There is a channel only while some session is enabled. -/
def Attended (handler : IOHandler Session) : Prop :=
  handler.channel.isSome = true → handler.isAnySessionEnabled = true

omit [DecidableEq Session] in
theorem attended_of_none {handler : IOHandler Session} (absent : handler.channel = none) :
    handler.Attended := by
  intro present
  rw [absent] at present
  cases present

def OnlyEnabled (handler : IOHandler Session) (session : Session) : Prop :=
  handler.enabled session = true ∧
    ∀ record ∈ handler.sessions, record.enabled = true → record.session = session

/-- The only session that is enabled is not removed while there is a channel, and no channel is
accepted while no session is enabled. -/
def KeepsAttended (handler : IOHandler Session) : Input Session → Prop
  | .remove session => handler.channel.isSome = true → ¬handler.OnlyEnabled session
  | .newChannel => handler.isAnySessionEnabled = true
  | _ => True

/-- When sessions stay enabled, so does the channel stay attended. -/
theorem Attended.of_enabled {handler next : IOHandler Session} (attended : handler.Attended)
    (consistent : handler.Consistent) (nextConsistent : next.Consistent)
    (channel : next.channel.isSome = handler.channel.isSome)
    (enabled : ∀ session, handler.enabled session = true → next.enabled session = true) :
    next.Attended := by
  intro present
  obtain ⟨session, active⟩ :=
    (isAnySessionEnabled_iff consistent).mp (attended (channel ▸ present))
  exact (isAnySessionEnabled_iff nextConsistent).mpr ⟨session, enabled session active⟩

theorem Attended.quiet {handler next : IOHandler Session} (attended : handler.Attended)
    (quiet : handler.Quiet next) : next.Attended := by
  intro present
  rw [isAnySessionEnabled, quiet.sessions]
  exact attended (quiet.channel ▸ present)

omit [DecidableEq Session] in
theorem attended_failed (handler : IOHandler Session) : handler.failed.Attended :=
  attended_of_none handler.channel_reset

theorem Attended.addContext {handler : IOHandler Session} (attended : handler.Attended)
    (session : Session) (route : Route) : (handler.addContext session route).1.Attended := by
  rw [IOHandler.addContext]
  split
  · exact attended
  split
  · exact attended
  · intro present
    have before := attended present
    rw [isAnySessionEnabled] at before ⊢
    rw [List.any_append, before, Bool.true_or]

theorem Attended.enable {handler : IOHandler Session} (attended : handler.Attended)
    (orderly : handler.Orderly) (session : Session) : (handler.enable session).1.Attended := by
  have after := orderly.enable session
  revert after
  rw [IOHandler.enable]
  split
  · exact fun _ => attended
  next record found =>
  split
  · exact fun _ => attended
  have honest := @SessionRecord.honest_setEnabled Session true
  have kept (other : Session) (active : handler.enabled other = true) :
      (handler.visit session (SessionRecord.setEnabled true)).enabled other = true := by
    rw [enabled_visit honest]
    split
    · rw [found]
      rfl
    · exact active
  dsimp only
  split
  · intro after
    refine attended.of_enabled orderly.consistent after.consistent rfl ?_
    intro other active
    rw [enabled_visit SessionRecord.honest_lowerLayerUp, find_visit honest, if_pos rfl, found]
    split
    · exact (SessionRecord.online_lowerLayerUp _).2
    · exact kept other active
  · intro after
    exact attended.of_enabled orderly.consistent after.consistent rfl kept

theorem Attended.disable {handler : IOHandler Session} (attended : handler.Attended)
    (session : Session) : (handler.disable session).1.Attended := by
  rw [IOHandler.disable]
  split
  · exact attended
  split
  · exact attended
  dsimp only
  split
  · next any => exact fun _ => any
  · exact attended_of_none (channel_reset _)

/-- The channel is kept when a session is removed, and so another session has to be enabled. -/
theorem Attended.remove {handler : IOHandler Session} (attended : handler.Attended)
    (orderly : handler.Orderly) {session : Session}
    (allowed : handler.channel.isSome = true → ¬handler.OnlyEnabled session) :
    (handler.remove session).1.Attended := by
  rw [IOHandler.remove]
  split
  · exact attended
  obtain ⟨told, channel, _, others⟩ :=
    lowerLayerDown_offline orderly.consistent (fun _ => orderly.connected) session
  have removed : ((handler.lowerLayerDown session).erase session).Attended := by
    intro present
    have present : handler.channel.isSome = true := channel ▸ present
    have another : ∃ other, other ≠ session ∧ handler.enabled other = true := by
      by_contra only
      obtain ⟨active, enabled⟩ := (isAnySessionEnabled_iff orderly.consistent).mp (attended present)
      have same : active = session := by
        by_contra foreign
        exact only ⟨active, foreign, enabled⟩
      refine allowed present ⟨same ▸ enabled, ?_⟩
      intro record member wanted
      by_contra foreign
      refine only ⟨record.session, foreign, ?_⟩
      rw [IOHandler.enabled, find, Keyed.find_of_mem orderly.consistent.unique member]
      exact wanted
    obtain ⟨other, foreign, enabled⟩ := another
    have same := (others other).2
    rw [IOHandler.enabled] at same
    rw [isAnySessionEnabled, List.any_eq_true]
    cases found : (handler.lowerLayerDown session).find other with
    | none =>
        rw [found, enabled] at same
        cases same
    | some record =>
        rw [found, enabled] at same
        refine ⟨record, @Keyed.mem_of_find _ _ _ SessionRecord.session other _ _ ?_, same⟩
        exact (find_erase told.unique session other).trans ((if_neg foreign).trans found)
  dsimp only
  split
  · exact removed
  · exact removed

theorem Attended.onNewChannel {handler : IOHandler Session} (orderly : handler.Orderly)
    (attended : handler.isAnySessionEnabled = true) : handler.onNewChannel.Attended := by
  have after := orderly.onNewChannel
  revert after
  rw [IOHandler.onNewChannel]
  split
  · exact fun _ _ => attended
  · intro after _
    obtain ⟨session, enabled⟩ := (isAnySessionEnabled_iff orderly.consistent).mp attended
    refine (isAnySessionEnabled_iff after.consistent).mpr ⟨session, ?_⟩
    rw [enabled_visitAll SessionRecord.honest_onNewChannel]
    · exact (handler.enabled_reset session).trans enabled
    · intro record
      rw [SessionRecord.onNewChannel]
      split
      · exact record.online_lowerLayerUp.2
      · rfl

theorem Attended.step {handler next : IOHandler Session} {input : Input Session} {output : Bool}
    (attended : handler.Attended) (orderly : handler.Orderly) (allowed : handler.KeepsAttended input)
    (step : handler.step input = some (next, output)) : next.Attended := by
  cases input with
  | addContext session route =>
      obtain rfl := (Prod.mk.inj (Option.some.inj step)).1
      exact attended.addContext session route
  | enable session =>
      obtain rfl := (Prod.mk.inj (Option.some.inj step)).1
      exact attended.enable orderly session
  | disable session =>
      obtain rfl := (Prod.mk.inj (Option.some.inj step)).1
      exact attended.disable session
  | remove session =>
      obtain rfl := (Prod.mk.inj (Option.some.inj step)).1
      exact attended.remove orderly allowed
  | beginTransmit session txdata =>
      obtain rfl := (Prod.mk.inj (Option.some.inj step)).1
      exact attended.quiet (quiet_beginTransmit handler session txdata)
  | newChannel =>
      obtain rfl := (Prod.mk.inj (Option.some.inj step)).1
      exact .onNewChannel orderly allowed
  | readComplete failed =>
      rw [IOHandler.step] at step
      split at step
      · cases step
      · obtain rfl := (Prod.mk.inj (Option.some.inj step)).1
        cases failed with
        | true => exact attended_failed handler
        | false => exact attended
  | writeComplete failed =>
      rw [IOHandler.step] at step
      split at step
      · next present =>
        obtain rfl := (Prod.mk.inj (Option.some.inj step)).1
        cases failed with
        | true => exact attended_failed _
        | false =>
            have written : IOHandler.Attended
                { handler with channel := some { writing := false } } := by
              intro _
              exact attended (by rw [present]; rfl)
            exact written.quiet (quiet_onWriteComplete _)
      · cases step
  | shutdown =>
      obtain rfl := (Prod.mk.inj (Option.some.inj step)).1
      rw [IOHandler.shutdown]
      split
      · exact attended
      · exact attended_of_none (channel_reset _)

/-- What a channel and its sessions keep to. -/
structure Lifecycle (handler : IOHandler Session) : Prop where
  told : ∀ session, told session handler.history = true ↔
    handler.enabled session = true ∧ handler.channel.isSome = true
  alternates : ∀ session, Alternates (notifications session handler.history)
  attended : handler.channel.isSome = true → handler.isAnySessionEnabled = true

theorem orderly_initial (closeExisting : Bool) :
    IOHandler.Orderly ({ closeExisting } : IOHandler Session) where
  consistent := ⟨List.nodup_nil, fun _ => rfl, fun _ => List.isChain_singleton _⟩
  connected _ := rfl

/-- A channel is used as long as the only enabled session is not removed from it. -/
theorem lifecycle_of_reachesWhile {closeExisting : Bool} {handler : IOHandler Session}
    (reached : machine.ReachesWhile KeepsAttended { closeExisting } handler) :
    handler.Lifecycle := by
  have kept : handler.Orderly ∧ handler.Attended := by
    refine @Machine.ReachesWhile.invariant _ _ _ _ _ _ _ (fun handler => handler.Orderly ∧ handler.Attended)
      reached ⟨orderly_initial closeExisting, attended_of_none rfl⟩ ?_
    intro before after input output holds allowed step
    obtain ⟨orderly, attended⟩ := holds
    exact ⟨orderly.step step, attended.step orderly allowed step⟩
  obtain ⟨orderly, attended⟩ := kept
  refine ⟨?_, orderly.consistent.alternates, attended⟩
  intro session
  rw [orderly.consistent.told session, orderly.connected session, Bool.and_eq_true]

/-! ## A session that is removed -/

instance (handler : IOHandler Session) (session : Session) :
    Decidable (handler.OnlyEnabled session) :=
  inferInstanceAs (Decidable (_ ∧ _))

instance : DecidableRel (@KeepsAttended Session _)
  | handler, .remove session =>
      inferInstanceAs (Decidable (handler.channel.isSome = true → ¬handler.OnlyEnabled session))
  | handler, .newChannel => inferInstanceAs (Decidable (handler.isAnySessionEnabled = true))
  | _, .addContext _ _ | _, .enable _ | _, .disable _ | _, .beginTransmit _ _
  | _, .readComplete _ | _, .writeComplete _ | _, .shutdown => .isTrue trivial

/-- Two sessions on a channel, of which one is disabled again and the other one stays. -/
theorem lifecycle_twoSessions :
    ∃ handler : IOHandler Nat,
      machine.ReachesWhile KeepsAttended { closeExisting := false } handler ∧
        (handler.channel.isSome && handler.enabled 1 && !handler.enabled 0) = true ∧
        handler.Lifecycle := by
  obtain ⟨handler, reached, checked⟩ :=
    @Machine.exists_reachesWhile_of_runWhile _ _ _ machine KeepsAttended _
      ({ closeExisting := false } : IOHandler Nat)
      (fun handler => handler.channel.isSome && handler.enabled 1 && !handler.enabled 0)
      [.addContext 0 ⟨1, 10⟩, .addContext 1 ⟨2, 10⟩, .enable 0, .newChannel, .enable 1, .disable 0]
      (by decide +kernel)
  exact ⟨handler, reached, checked, lifecycle_of_reachesWhile reached⟩

/-- The only session is removed, and the channel stays open. -/
theorem not_lifecycle_removed :
    ∃ handler : IOHandler Nat,
      machine.Reaches { closeExisting := false } handler ∧ ¬handler.Lifecycle := by
  obtain ⟨handler, reached, checked⟩ :=
    @Machine.exists_reaches_of_run _ _ _ machine ({ closeExisting := false } : IOHandler Nat)
      (fun handler => handler.channel.isSome && !handler.isAnySessionEnabled)
      [.addContext 0 ⟨1, 10⟩, .enable 0, .newChannel, .remove 0] (by decide +kernel)
  refine ⟨handler, reached, ?_⟩
  intro lifecycle
  obtain ⟨present, unused⟩ := Bool.and_eq_true_iff.mp checked
  rw [lifecycle.attended present] at unused
  cases unused

end IOHandler

end OpenDnp3.Channels
