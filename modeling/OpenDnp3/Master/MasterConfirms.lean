import OpenDnp3.Library.History
import OpenDnp3.Master.TaskFlowRefinement

/-!
# Confirms of masters

Which fragments a master confirms. Confirms wait in a queue while something
else is being sent, and the queue outlives the connection.
-/

set_option autoImplicit false

namespace OpenDnp3.Master

open OpenDnp3.App OpenDnp3.Library

/-! ## Confirms -/

def confirmBytes (confirm : APDUHeader) : List UInt8 :=
  [confirm.control.toByte, confirm.function.toType]

/-- The CONFIRM that a response asks for. -/
def responseConfirm (header : APDUResponseHeader) : Option APDUHeader :=
  if header.control.con then
    match header.function with
    | .response => some (.solicitedConfirm header.control.seq)
    | .unsolicitedResponse => some (.unsolicitedConfirm header.control.seq)
    | _ => none
  else none

variable {Runner : Type} [DecidableEq Runner]

namespace Event

/-- The connection of a master begins or ends. -/
def separates (runner : Runner) : Event Runner → Bool
  | .onOpen other | .onClose other => other = runner
  | _ => false

/-- The CONFIRM that a master sends. -/
def confirms (runner : Runner) : Event Runner → List (List UInt8)
  | .beginTransmit other none apdu => if other = runner then [apdu] else []
  | _ => []

/-- The CONFIRM that a fragment asks a master for. -/
def asks (runner : Runner) : Event Runner → List (List UInt8)
  | .received other header _ =>
      if other = runner then (responseConfirm header).toList.map confirmBytes else []
  | _ => []

end Event

/-- What a master has confirmed since it came online. -/
def confirmed (runner : Runner) (history : List (Event Runner)) : List (List UInt8) :=
  since (Event.separates runner) (Event.confirms runner) history

/-- What a master was asked to confirm since it came online. -/
def asked (runner : Runner) (history : List (Event Runner)) : List (List UInt8) :=
  since (Event.separates runner) (Event.asks runner) history

/-- Each CONFIRM sent is one that a fragment of the same connection asked for, each for one
fragment. -/
def ConfirmsAsked (history : List (Event Runner)) : Prop :=
  Lawful (fun before event => ∀ runner,
    List.Sublist (confirmed runner (before ++ [event])) (asked runner (before ++ [event]))) history

theorem ConfirmsAsked.sublist {history : List (Event Runner)} (lawful : ConfirmsAsked history)
    (runner : Runner) : List.Sublist (confirmed runner history) (asked runner history) := by
  rcases history.eq_nil_or_concat with rfl | ⟨before, event, rfl⟩
  · exact .slnil
  · rw [List.concat_eq_append] at lawful ⊢
    exact lawful before event (List.prefix_refl _) runner

/-! ## Queued confirms -/

/-- What is sent and what is still to be sent was asked for. -/
structure Confirming (queue : Runner → List APDUHeader) (history : List (Event Runner)) :
    Prop where
  lawful : ConfirmsAsked history
  queued : ∀ runner, List.Sublist (confirmed runner history ++ (queue runner).map confirmBytes)
    (asked runner history)

namespace Confirming

variable {queue after : Runner → List APDUHeader} {history : List (Event Runner)}

theorem of_queued {event : Event Runner} (confirming : Confirming queue history)
    (queued : ∀ runner,
      List.Sublist (confirmed runner (history ++ [event]) ++ (after runner).map confirmBytes)
        (asked runner (history ++ [event]))) : Confirming after (history ++ [event]) :=
  ⟨confirming.lawful.concat fun runner =>
    (List.sublist_append_left _ _).trans (queued runner), queued⟩

/-- Events that send no confirm and do not end a connection. -/
theorem other (confirming : Confirming queue history) {event : Event Runner}
    (goesOn : ∀ runner, event.separates runner = false)
    (silent : ∀ runner, event.confirms runner = []) : Confirming queue (history ++ [event]) := by
  refine confirming.of_queued fun runner => ?_
  rw [confirmed, asked, since_concat, since_concat, goesOn, if_neg nofun, if_neg nofun, silent,
    List.append_nil]
  exact (confirming.queued runner).trans (List.sublist_append_left _ _)

/-- A fragment that asks for a confirm. -/
theorem received (confirming : Confirming queue history) {runner : Runner}
    {header : APDUResponseHeader} {confirm : List APDUHeader}
    (asks : (responseConfirm header).toList = confirm) (objects : List UInt8) :
    Confirming (Function.update queue runner (queue runner ++ confirm))
      (history ++ [.received runner header objects]) := by
  refine confirming.of_queued fun other => ?_
  rw [confirmed, asked, since_concat, since_concat]
  simp only [Event.separates, Bool.false_eq_true, if_false, Event.confirms, List.append_nil,
    Event.asks, asks]
  rcases eq_or_ne other runner with rfl | foreign
  · rw [Function.update_self, if_pos rfl, List.map_append, ← List.append_assoc]
    exact (confirming.queued other).append (List.Sublist.refl _)
  · rw [Function.update_of_ne foreign, if_neg foreign.symm, List.append_nil]
    exact confirming.queued other

/-- The first confirm of a queue is sent. -/
theorem sends (confirming : Confirming queue history) {runner : Runner} {confirm : APDUHeader}
    {confirms : List APDUHeader} (queued : queue runner = confirm :: confirms) :
    Confirming (Function.update queue runner confirms)
      (history ++ [.beginTransmit runner none (confirmBytes confirm)]) := by
  refine confirming.of_queued fun other => ?_
  rw [confirmed, asked, since_concat, since_concat]
  simp only [Event.separates, Bool.false_eq_true, if_false, Event.confirms, Event.asks,
    List.append_nil]
  have before := confirming.queued other
  rcases eq_or_ne other runner with rfl | foreign
  · rw [queued, List.map_cons] at before
    rwa [Function.update_self, if_pos rfl, List.append_assoc]
  · rwa [Function.update_of_ne foreign, if_neg foreign.symm, List.append_nil]

/-- A connection begins or ends while no confirm is queued. -/
theorem separated (confirming : Confirming queue history) {runner : Runner}
    {event : Event Runner} (separates : event = .onOpen runner ∨ event = .onClose runner)
    (empty : queue runner = []) : Confirming queue (history ++ [event]) := by
  have only (other : Runner) : event.separates other = decide (runner = other) := by
    rcases separates with rfl | rfl <;> rfl
  have silent (other : Runner) : event.confirms other = [] := by
    rcases separates with rfl | rfl <;> rfl
  refine confirming.of_queued fun other => ?_
  rw [confirmed, asked, since_concat, since_concat, only, silent, List.append_nil]
  rcases eq_or_ne runner other with rfl | foreign
  · rw [empty]
    simp
  · rw [if_neg (by simpa using foreign), if_neg (by simpa using foreign)]
    exact (confirming.queued other).trans (List.sublist_append_left _ _)

/-- Completions send no confirms. -/
theorem completions (confirming : Confirming queue history) (body : TaskId Runner → MasterTask)
    (result : TaskCompletion) (records : List (Record Runner)) :
    Confirming queue (history ++ Ledger.completions body result records) := by
  rw [Ledger.completions]
  generalize records.filter (fun record => !(body record.task).isRecurring) = records
  induction records generalizing history with
  | nil =>
      rw [List.map_nil, List.append_nil]
      exact confirming
  | cons record records ih =>
      rw [List.map_cons, ← List.singleton_append, ← List.append_assoc]
      exact ih (confirming.other (fun _ => rfl) fun _ => rfl)

end Confirming

/-! ## Worlds -/

/-- Confirms are queued for fragments of this connection only. -/
structure World.Confirming (world : World Runner) : Prop where
  queued : Master.Confirming (fun runner => (world.party runner).confirmQueue) world.ledger.history
  offline : ∀ runner, (world.party runner).isOnline = false →
    (world.party runner).confirmQueue = []

/-- A connection may end when no confirm is queued. -/
def Permits.noConfirm : Permits Runner := ⟨fun party => party.confirmQueue = [], fun _ _ _ => True⟩

namespace World.Confirming

variable {world : World Runner} {runner : Runner} {after : Party Runner} {next : Ledger Runner}

theorem of_update (confirming : world.Confirming)
    (queued : Master.Confirming
      (Function.update (fun runner => (world.party runner).confirmQueue) runner
        after.confirmQueue) next.history)
    (offline : after.isOnline = false → after.confirmQueue = []) :
    World.Confirming ⟨Function.update world.party runner after, next⟩ := by
  have queue : (fun other => (Function.update world.party runner after other).confirmQueue) =
      Function.update (fun other => (world.party other).confirmQueue) runner after.confirmQueue :=
    Function.comp_update Party.confirmQueue world.party runner after
  refine ⟨queue.symm ▸ queued, ?_⟩
  exact (Function.forall_update_iff world.party fun _ party =>
    party.isOnline = false → party.confirmQueue = []).mpr
      ⟨offline, fun other _ => confirming.offline other⟩

theorem of_online (confirming : world.Confirming) (online : after.isOnline = true)
    (queued : Master.Confirming
      (Function.update (fun runner => (world.party runner).confirmQueue) runner
        after.confirmQueue) next.history) :
    World.Confirming ⟨Function.update world.party runner after, next⟩ := by
  refine confirming.of_update queued fun offline => ?_
  rw [online] at offline
  cases offline

/-- The queue of a master stays as it is. -/
theorem of_same (confirming : world.Confirming)
    (queue : after.confirmQueue = (world.party runner).confirmQueue)
    (online : after.isOnline = false → (world.party runner).isOnline = false)
    (queued : Master.Confirming (fun runner => (world.party runner).confirmQueue) next.history) :
    World.Confirming ⟨Function.update world.party runner after, next⟩ := by
  refine confirming.of_update ?_ fun offline => ?_
  · rw [queue, Function.update_eq_self]
    exact queued
  · rw [queue]
    exact confirming.offline runner (online offline)

variable [FloatOps] {permits : Permits Runner}

omit [FloatOps] in
/-- A response leaves its confirm, and nothing else that is sent. -/
theorem answered (confirming : world.Confirming) {header : APDUResponseHeader}
    (function : header.function = .response) (id : TaskId Runner) (body : MasterTask)
    (objects : List UInt8) (calls : List SOECall) :
    Master.Confirming
      (Function.update (fun runner => (world.party runner).confirmQueue) runner
        ((world.party runner).confirmQueue ++
          if header.control.con then [.solicitedConfirm header.control.seq] else []))
      (world.ledger.answered runner id body header objects calls).history := by
  have asks : (responseConfirm header).toList =
      if header.control.con then [.solicitedConfirm header.control.seq] else [] := by
    rw [responseConfirm, function]
    split <;> rfl
  exact (confirming.queued.received asks objects).other (fun _ => rfl) fun _ => rfl

omit [FloatOps] in
theorem complete_history {queue : Runner → List APDUHeader} {ledger : Ledger Runner}
    (confirming : Master.Confirming queue ledger.history) (id : TaskId Runner)
    (result : TaskCompletion) : Master.Confirming queue (ledger.complete id result).history :=
  confirming.other (fun _ => rfl) fun _ => rfl

omit [FloatOps] in
theorem confirming_history {queue : Runner → List APDUHeader} {ledger : Ledger Runner}
    (confirming : Master.Confirming queue ledger.history) (header : APDUResponseHeader) :
    Master.Confirming queue (ledger.confirming runner header).history := by
  rw [Ledger.confirming]
  split
  · exact confirming.other (fun _ => rfl) fun _ => rfl
  · exact confirming

theorem act (confirming : world.Confirming)
    (move : Move permits runner (world.party runner) world.ledger after next) :
    World.Confirming ⟨Function.update world.party runner after, next⟩ := by
  have queued := confirming.queued
  cases move with
  | note event silent =>
      refine confirming.of_same rfl id (queued.other (fun other => ?_) fun other => ?_)
      · cases event with
        | onOpen | onClose => cases silent
        | _ => rfl
      · cases event with
        | beginTransmit => cases silent
        | _ => rfl
  | opened offline =>
      exact confirming.of_same rfl nofun
        (queued.separated (.inl rfl) (confirming.offline runner offline))
  | added id =>
      obtain ⟨tasks, added⟩ := world.ledger.add_eq id runner
      rw [added]
      exact confirming.of_same rfl (fun offline => offline) queued
  | scheduled params request =>
      obtain ⟨tasks, added⟩ := Ledger.add_eq
        (world.ledger.create runner (request.body params)) (.user runner world.ledger.created) runner
      rw [added]
      exact confirming.of_same rfl (fun offline => offline) queued
  | bound | expired => exact confirming.of_same rfl (fun offline => offline) queued
  | declined | refused | ignored | requested | ready =>
      exact confirming.of_same rfl (fun offline => offline)
        (queued.other (fun _ => rfl) fun _ => rfl)
  | started | reported =>
      exact confirming.of_same rfl (fun offline => offline)
        ((queued.other (fun _ => rfl) fun _ => rfl).other (fun _ => rfl) fun _ => rfl)
  | unformatted id application buffer apdu body =>
      obtain ⟨current, tasks, released⟩ := Ledger.release_eq
        ((world.ledger.setBody id body).complete id .failureMessageFormatError) runner
      rw [released]
      exact confirming.of_same rfl (fun offline => offline)
        (queued.other (fun _ => rfl) fun _ => rfl)
  | timedOut id =>
      obtain ⟨current, tasks, released⟩ := Ledger.release_eq
        (world.ledger.complete id .failureResponseTimeout) runner
      rw [released]
      exact confirming.of_same rfl (fun offline => offline)
        (queued.other (fun _ => rfl) fun _ => rfl)
  | confirmed confirm confirms online quiet first =>
      exact confirming.of_online online (queued.sends first)
  | unsolicited header objects calls online function con =>
      have asks : (responseConfirm header).toList = [.unsolicitedConfirm header.control.seq] := by
        rw [responseConfirm, if_pos con, function]
        rfl
      exact confirming.of_online online (((queued.received asks objects).other (fun _ => rfl)
        fun _ => rfl).other (fun _ => rfl) fun _ => rfl)
  | continued answers | repeated answers =>
      rw [Party.confirming_eq]
      exact confirming.of_online answers.isOnline
        (confirming_history (confirming.answered answers.function _ _ _ _) _)
  | @finished id header objects body calls result completion answers =>
      obtain ⟨current, tasks, released⟩ := Ledger.release_eq (Ledger.confirming (Ledger.complete
        (world.ledger.answered runner id body header objects calls) id completion) runner header)
        runner
      rw [Party.confirming_eq, released]
      exact confirming.of_online answers.isOnline (confirming_history (complete_history
        (confirming.answered answers.function id body objects calls) id completion) header)

omit [FloatOps] in
theorem close_history {queue : Runner → List APDUHeader} {ledger : Ledger Runner}
    (confirming : Master.Confirming queue ledger.history) (runner : Runner)
    (empty : queue runner = []) : Master.Confirming queue (ledger.close runner).history := by
  refine Confirming.separated ?_ (.inr rfl) empty
  split
  · exact confirming
  · refine Confirming.completions ?_ _ _ _
    rw [Ledger.abandon]
    split
    · exact confirming
    · split
      · exact confirming.completions _ _ _
      · exact confirming

theorem step {next : World Runner} (confirming : world.Confirming)
    (step : World.Step .noConfirm world next) : next.Confirming := by
  cases step with
  | act move => exact confirming.act move
  | closed runner online permitted =>
      have empty : (world.party runner).confirmQueue = [] := permitted
      refine confirming.of_update ?_ fun _ => empty
      rw [show (world.party runner).closed.confirmQueue = (world.party runner).confirmQueue from
        rfl, Function.update_eq_self]
      exact close_history confirming.queued runner empty
  | erased result selects => exact ⟨confirming.queued.completions _ _ _, confirming.offline⟩
  | shutdown => exact ⟨confirming.queued, confirming.offline⟩

end World.Confirming

/-! ## Channels -/

/-- A connection does not end while a confirm is queued. -/
def Channel.NoConfirmLost (channel : Channel Runner) (input : Environment Runner × Input Runner) :
    Prop :=
  ∀ runner, input.2 = .lowerLayerDown runner → (channel.master runner).isOnline = true →
    (channel.master runner).confirmQueue = []

/-- As long as no connection ends with a confirm queued, masters confirm what they were asked
to confirm on the same connection. -/
theorem Channel.confirmsAsked_of_reaches [FloatOps] {addresses : Runner → Addresses}
    {params : Runner → MasterParams} {channel : Channel Runner}
    (reached : machine.ReachesWhile NoConfirmLost (initial addresses params) channel) :
    ConfirmsAsked channel.common.history := by
  have confirming : channel.world.Confirming := by
    refine world_invariant reached (fun {channel input} allowed => ?_) ?_
      fun step confirming => confirming.step step
    · cases given : input.2 with
      | lowerLayerDown runner => exact allowed runner given
      | receive runner message => exact fun _ _ _ _ => trivial
      | _ => trivial
    · exact ⟨⟨.nil, fun _ => .slnil⟩, fun _ _ => rfl⟩
  exact confirming.queued.lawful

/-- A fragment is received and confirmed on the same connection, and another one on the next. -/
theorem Channel.confirmsAsked_of_reaches_unsolicited :
    ∃ channel : Channel Unit,
      (@machine Unit _ .atZero).ReachesWhile NoConfirmLost (initial (fun _ => ⟨1, 10⟩) fun _ => {})
        channel ∧
      confirmed () channel.common.history = [[0xD4, 0]] ∧ ConfirmsAsked channel.common.history := by
  have up : (@machine Unit _ .atZero).ReachesWhile NoConfirmLost
      (initial (fun _ => ⟨1, 10⟩) fun _ => {}) _ :=
    .step .start (fun _ given => by cases given)
      (rfl : (@machine Unit _ .atZero).step _ (.atZero, .lowerLayerUp ()) = some _)
  have received := up.step (fun _ given => by cases given)
    (rfl : (@machine Unit _ .atZero).step _
      (.atZero, .receive () ⟨⟨10, 1⟩, [0xF3, 0x82, 0, 0]⟩) = some _)
  have sent := received.step (fun _ given => by cases given)
    (rfl : (@machine Unit _ .atZero).step _ (.atZero, .txReady ()) = some _)
  -- nothing is queued when the connection ends
  have down := sent.step (fun _ _ _ => rfl)
    (rfl : (@machine Unit _ .atZero).step _ (.atZero, .lowerLayerDown ()) = some _)
  have again := down.step (fun _ given => by cases given)
    (rfl : (@machine Unit _ .atZero).step _ (.atZero, .lowerLayerUp ()) = some _)
  have another := again.step (fun _ given => by cases given)
    (rfl : (@machine Unit _ .atZero).step _
      (.atZero, .receive () ⟨⟨10, 1⟩, [0xF4, 0x82, 0, 0]⟩) = some _)
  exact ⟨_, another, by decide +kernel, @confirmsAsked_of_reaches Unit _ .atZero _ _ _ another⟩

/-- An unsolicited fragment arrives while a request is being sent, and its confirm is queued. The
connection ends, and the confirm is sent on the next one, on which nothing was received. -/
theorem Channel.confirm_of_earlier_connection :
    ∃ channel : Channel Unit,
      (@machine Unit _ .atZero).Reaches (initial (fun _ => ⟨1, 10⟩) fun _ => {}) channel ∧
        ¬ConfirmsAsked channel.common.history := by
  refine ⟨_, @reaches_after Unit _ .atZero _
    [(.atZero, .lowerLayerUp ()), (.atZero, .runPosted),
      (.atZero, .receive () ⟨⟨10, 1⟩, [0xF3, 0x82, 0, 0]⟩), (.atZero, .lowerLayerDown ()),
      (.atZero, .lowerLayerUp ()), (.atZero, .runPosted), (.atZero, .txReady ())], fun lawful => ?_⟩
  have sublist := lawful.sublist ()
  revert sublist
  decide +kernel

end OpenDnp3.Master
