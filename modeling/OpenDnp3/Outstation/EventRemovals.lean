import OpenDnp3.Outstation.AwaitedFragments
import OpenDnp3.Outstation.OverflowAnnouncements

/-!
# Removals of events

An event leaves the buffer when it is the oldest of its type and a new one needs its place, or
when the fragment that carries it is confirmed.
-/

set_option autoImplicit false

namespace OpenDnp3.Outstation

open OpenDnp3.App OpenDnp3.Library

namespace EventBuffer

/-- An event is stored. -/
structure Storing where
  before : EventBuffer
  event : AnyEvent
  after : EventBuffer

/-- The events that are stored, one after the other. -/
def storings : List AnyEvent → EventBuffer → List Storing
  | [], _ => []
  | event :: events, buffer =>
      match buffer.update event with
      | none => []
      | some next => ⟨buffer, event, next⟩ :: storings events next

/-- Storing the event discards another one, the oldest of the same type, since the type is full. -/
structure Storing.Discards (storing : Storing) (serial : Nat) : Prop where
  gone : serial ∉ storing.after.serials
  full : storing.before.storage.isFullAndCapacityNotZero storing.event.1 = true
  oldest : ∃ record ∈ storing.before.records, record.serial = serial ∧
    record.type = storing.event.1 ∧
    ∀ other ∈ storing.before.records, other.type = record.type → serial ≤ other.serial

variable {config : EventBufferConfig} {buffer after : EventBuffer} {events : List AnyEvent}
  {serials : List Nat} {storing : Storing} {serial : Nat}

theorem Marks.update_of_storing (marks : buffer.Marks config serials)
    (member : storing ∈ storings events buffer) :
    storing.before.update storing.event = some storing.after ∧
      storing.before.Marks config serials := by
  induction events generalizing buffer with
  | nil => cases member
  | cons event events ih =>
      rw [storings] at member
      split at member
      · cases member
      · next next stored =>
          rcases List.mem_cons.mp member with rfl | later
          · exact ⟨stored, marks⟩
          · exact ih (marks.update stored) later

/-- What is lost when an event is stored is discarded for it. -/
theorem Marks.discards (marks : buffer.Marks config serials)
    (member : storing ∈ storings events buffer) (there : serial ∈ storing.before.serials)
    (gone : serial ∉ storing.after.serials) : storing.Discards serial := by
  obtain ⟨stored, marked⟩ := marks.update_of_storing member
  obtain ⟨record, found, rfl⟩ := List.mem_map.mp there
  obtain ⟨⟨overflow, lists⟩, updated, same⟩ := Option.map_eq_some_iff.mp stored
  have absent : record ∉ lists.events.values := by
    intro kept
    rw [← same] at gone
    exact gone (List.mem_map_of_mem kept)
  obtain ⟨kind, least⟩ := marked.valid.oldest_of_discarded updated found absent
  exact ⟨gone, (marked.valid.discarded_update updated found absent).2, record, found, rfl, kind,
    fun other among same => least other among (same.trans kind)⟩

/-- What is in the buffer at some time, and not at the end, is lost when some event is stored. -/
theorem exists_storing_of_gone (success : updateAll events buffer = some after)
    (there : serial ∈ buffer.serials ∨ ∃ storing ∈ storings events buffer,
      serial ∈ storing.after.serials)
    (gone : serial ∉ after.serials) :
    ∃ storing ∈ storings events buffer, serial ∈ storing.before.serials ∧
      serial ∉ storing.after.serials := by
  induction events generalizing buffer with
  | nil =>
      cases success
      rcases there with there | ⟨_, none, _⟩
      · exact absurd there gone
      · cases none
  | cons event events ih =>
      obtain ⟨next, stored, others⟩ := Option.bind_eq_some_iff.mp success
      rw [storings, stored] at there ⊢
      have behind (still : serial ∈ next.serials ∨ ∃ storing ∈ storings events next,
          serial ∈ storing.after.serials) :
          ∃ storing ∈ (⟨buffer, event, next⟩ : Storing) :: storings events next,
            serial ∈ storing.before.serials ∧ serial ∉ storing.after.serials := by
        obtain ⟨storing, member, lost⟩ := ih others still
        exact ⟨storing, List.mem_cons_of_mem _ member, lost⟩
      rcases there with now | ⟨storing, member, later⟩
      · by_cases still : serial ∈ next.serials
        · exact behind (.inl still)
        · exact ⟨_, List.mem_cons_self, now, still⟩
      · rcases List.mem_cons.mp member with rfl | rest
        · exact behind (.inl later)
        · exact behind (.inr ⟨storing, rest, later⟩)

end EventBuffer

/-- The kind of fragment that a confirm is awaited for. -/
def OutstationState.awaits : OutstationState → Option FunctionCode
  | .idle => none
  | .solicitedConfirmWait => some .response
  | .unsolicitedConfirmWait => some .unsolicitedResponse

namespace OContext

variable [FloatOps]

/-- The events that changes of points store, one after the other. -/
def storings : List DatabaseUpdate → OContext → List EventBuffer.Storing
  | [], _ => []
  | update :: updates, context =>
      EventBuffer.storings (changePoints context.database update).events context.eventBuffer ++
        match context.change update with
        | none => []
        | some next => storings updates next

/-- The events that an input stores. -/
def stores (context : OContext) : Input → List EventBuffer.Storing
  | .apply updates => storings updates context
  | _ => []

/-- The event is in the buffer before the input, or is stored by it. -/
def Holding (context : OContext) (input : Input) (serial : Nat) : Prop :=
  serial ∈ context.eventBuffer.serials ∨
    ∃ storing ∈ context.stores input, serial ∈ storing.after.serials

/-- The input confirms the fragment that the outstation waits on: the last one of its kind that was
begun since the log had a length, with the sequence number and the UNS bit of the confirm. The
fragment carries the event. -/
structure ConfirmsFragment (since : Nat) (context : OContext) (input : Input) (serial : Nat) :
    Prop where
  confirms : ∃ request function destination fragment carried,
    context.requestOf input = some request ∧ request.header.function = .confirm ∧
    context.state.awaits = some function ∧
    lastOf function (context.log.drop since) =
      some (.beginTransmit destination fragment carried) ∧
    (AppControlField.ofByte (fragment.headD 0)).uns = request.header.control.uns ∧
    (AppControlField.ofByte (fragment.headD 0)).seq = request.header.control.seq ∧
    serial ∈ carried

/-- The lower layer has not gone down since it was down and the log had a length. -/
def OnlineSince (start : OContext) (since : Nat) (context : OContext) : Prop :=
  ∃ offline : OContext, machine.Reaches start offline ∧ offline.isOnline = false ∧
    offline.log.length = since ∧
    machine.ReachesWhile (fun _ input => input.2 ≠ .lowerLayerDown) offline context

section removals

variable {config : EventBufferConfig} {environment : Environment} {request : ParsedRequest}
  {context after : OContext} {serial since : Nat} {serials : List Nat}

theorem discards_of_gone {updates : List DatabaseUpdate}
    (marks : context.eventBuffer.Marks config serials)
    (changed : changeAll updates context = some after)
    (there : context.Holding (.apply updates) serial) (gone : serial ∉ after.eventBuffer.serials) :
    ∃ storing ∈ storings updates context, storing.Discards serial := by
  induction updates generalizing context with
  | nil =>
      cases changed
      rcases there with there | ⟨_, none, _⟩
      · exact absurd there gone
      · cases none
  | cons update updates ih =>
      obtain ⟨next, first, others⟩ := Option.bind_eq_some_iff.mp changed
      obtain ⟨buffer, stored, rfl⟩ := Option.map_eq_some_iff.mp first
      have parts : storings (update :: updates) context =
          EventBuffer.storings (changePoints context.database update).events context.eventBuffer ++
            storings updates { context with
              database := (changePoints context.database update).buffers
              eventBuffer := buffer } := by
        rw [storings, first]
      rw [parts]
      have behind (still : Holding { context with
            database := (changePoints context.database update).buffers
            eventBuffer := buffer } (.apply updates) serial) :
          ∃ storing ∈ EventBuffer.storings (changePoints context.database update).events
              context.eventBuffer ++ storings updates { context with
                database := (changePoints context.database update).buffers
                eventBuffer := buffer }, storing.Discards serial := by
        obtain ⟨storing, member, discards⟩ := ih (marks.updateAll stored) others still
        exact ⟨storing, List.mem_append_right _ member, discards⟩
      have now (here : serial ∈ context.eventBuffer.serials ∨ ∃ storing ∈
          EventBuffer.storings (changePoints context.database update).events context.eventBuffer,
            serial ∈ storing.after.serials) :
          ∃ storing ∈ EventBuffer.storings (changePoints context.database update).events
              context.eventBuffer ++ storings updates { context with
                database := (changePoints context.database update).buffers
                eventBuffer := buffer }, storing.Discards serial := by
        by_cases still : serial ∈ buffer.serials
        · exact behind (.inl still)
        · obtain ⟨storing, member, before, lost⟩ :=
            EventBuffer.exists_storing_of_gone stored here still
          exact ⟨storing, List.mem_append_left _ member, marks.discards member before lost⟩
      rcases there with before | ⟨storing, member, later⟩
      · exact now (.inl before)
      · have among : storing ∈ storings (update :: updates) context := member
        rw [parts] at among
        rcases List.mem_append.mp among with early | late
        · exact now (.inr ⟨storing, early, later⟩)
        · exact behind (.inr ⟨storing, late, later⟩)

/-- A request removes events only if it is a confirm that clears them. -/
theorem removed_of_handles (marks : context.eventBuffer.Marks config serials)
    (handles : Handles environment request context after)
    (there : serial ∈ context.eventBuffer.serials) (gone : serial ∉ after.eventBuffer.serials) :
    context.ClearsEvents request ∧ serial ∉ context.eventBuffer.clearWritten.serials := by
  by_cases awaits : context.Awaits request
  · cases handles with
    | confirmedLast waits _ => exact ⟨.inl waits, gone⟩
    | confirmedMore waits _ continued =>
        have same := (continueMultiFragResponse_responds marks.clearWritten continued).serials
        rw [same] at gone
        exact ⟨.inl waits, gone⟩
    | confirmedEvents waits completed => exact ⟨.inr ⟨waits, completed⟩, gone⟩
    | confirmedNull _ _ => exact absurd there gone
    | ignored ignores =>
        cases ignores with
        | confirm _ solicited unsolicited => exact absurd awaits (not_or.mpr ⟨solicited, unsolicited⟩)
        | unsolicited isRequest _ =>
            exact absurd (awaits.elim (·.isConfirm) (·.isConfirm)) isRequest
    | readIdle requests _ | readWaiting requests _ | readHeld requests | nonReadIdle requests
    | nonReadWaiting requests | nonReadUnsolicited requests | repeatReadIdle requests
    | repeatReadWaiting requests | repeatReadHeld requests | repeatNonReadIdle requests
    | repeatNonReadWaiting requests | repeatNonReadUnsolicited requests =>
        exact absurd (awaits.elim (·.isConfirm) (·.isConfirm)) requests.isRequest
  · rw [serials_of_handles marks awaits handles] at gone
    exact absurd there gone

omit [FloatOps] in
/-- The events are those of a state with the same buffer. -/
theorem gone_of_eq {other : OContext}
    (same : after.eventBuffer.serials = other.eventBuffer.serials)
    (gone : serial ∉ after.eventBuffer.serials) : serial ∉ other.eventBuffer.serials :=
  same ▸ gone

/-- Unless points change, an input removes events only if it is a confirm that clears them. -/
theorem removed_of_steps {input : Input} (held : context.HeldBack)
    (regular : context.Regular config) (changes : ∀ updates, input ≠ .apply updates)
    (steps : Steps environment context input after)
    (there : serial ∈ context.eventBuffer.serials) (gone : serial ∉ after.eventBuffer.serials) :
    ∃ request, context.requestOf input = some request ∧ context.ClearsEvents request ∧
      serial ∉ context.eventBuffer.clearWritten.serials := by
  obtain ⟨serials, marks⟩ := regular.marks
  by_cases none : ∀ request, ¬context.Honours input request
  · rw [serials_of_steps held regular none changes steps] at gone
    exact absurd there gone
  · obtain ⟨request, honours⟩ := not_forall_not.mp none
    obtain ⟨about, awaits⟩ := honours
    refine ⟨request, about, ?_⟩
    cases steps with
    | nothing _ => exact absurd there gone
    | setRestartIIN => exact absurd there gone
    | down _ => cases about
    | @starts _ reacted _ reacts starts =>
        have regularly := regular.reacts reacts
        cases reacts with
        | @handled message other _ online accepted acked free handles =>
            have same : context.requestOf (.receive message) = some other := by
              simp [requestOf, online, free, accepted, acked]
            obtain rfl := Option.some.inj (same.symm.trans about)
            have reads := holds_of_reacts held regular (by rintro ⟨⟩)
              (.handled online accepted acked free handles)
            have kept := serials_of_starts regularly (fun request can deferred =>
              not_awaits_of_read (reads (canTransmit_iff.mp can).2 request deferred)) starts
            exact removed_of_handles marks handles there (gone_of_eq kept gone)
        | txReady online busy =>
            obtain ⟨resumed, resumes, reports⟩ := starts
            obtain ⟨later, marked⟩ := (regularly.resumes resumes).marks
            have held : context.deferred = some request := by
              simpa [requestOf, online, busy] using about
            have left := gone_of_eq (serials_of_reports marked reports) gone
            have same : EventBuffer.Marks config serials
                (OContext.eventBuffer { context with isTransmitting := false }) := marks
            cases resumes with
            | blocked _ | none _ | kept _ _ _ => exact absurd there left
            | handled _ deferred _ handles =>
                obtain rfl := Option.some.inj (deferred.symm.trans held)
                obtain ⟨clears, lost⟩ := removed_of_handles same handles there left
                refine ⟨?_, lost⟩
                rcases clears with waits | ⟨waits, completed⟩
                · exact .inl ⟨waits.isConfirm, waits.state, waits.solicited, waits.seq⟩
                · exact .inr
                    ⟨⟨waits.isConfirm, waits.state, waits.unsolicited, waits.seq⟩, completed⟩
        | ignored _ refused => simp [requestOf, refused] at about
        | noAck _ accepted noAck => simp [requestOf, accepted, Option.filter, noAck] at about
        | deferred _ _ _ busy => simp [requestOf, busy] at about
        | up _ | timeout _ | apply _ _ => cases about

omit [FloatOps] in
/-- A confirm clears only events of the fragment that it confirms. -/
theorem Tracks.confirmsFragment {input : Input} (tracks : context.Tracks config since)
    (about : context.requestOf input = some request)
    (clears : context.ClearsEvents request) (there : serial ∈ context.eventBuffer.serials)
    (gone : serial ∉ context.eventBuffer.clearWritten.serials) :
    context.ConfirmsFragment since input serial := by
  have carries {carried : List Nat} (exact : context.eventBuffer.MarksExactly config carried) :
      serial ∈ carried := by
    by_contra absent
    obtain ⟨record, found, rfl⟩ := List.mem_map.mp there
    exact gone (List.mem_map_of_mem (exact.mem_clearWritten.mpr ⟨found, absent⟩))
  rcases clears with awaits | ⟨awaits, completed⟩
  · obtain ⟨exact, header, _, uns, seq, small, destination, last⟩ :=
      tracks.solicited awaits.state
    have control := control_of_header header small
    refine ⟨request, _, destination, _, _, about, awaits.isConfirm, by rw [awaits.state]; rfl, last,
      ?_, ?_, carries exact⟩
    · rw [control, uns, awaits.solicited]
    · rw [control, seq, awaits.seq]
  · obtain ⟨exact, header, made, small, destination, last⟩ := tracks.unsolicited awaits.state
    have control := control_of_header header small
    refine ⟨request, _, destination, _, _, about, awaits.isConfirm, by rw [awaits.state]; rfl, last,
      ?_, ?_, carries (exact completed)⟩
    · rw [control, made, awaits.unsolicited]
    · rw [control, made, awaits.seq]

/-- An event that is not in the buffer any more after an input was discarded for another one, or is
carried by the fragment that the input confirms. -/
theorem removed_of_tracks {input : Input} (tracks : context.Tracks config since)
    (held : context.HeldBack) (regular : context.Regular config)
    (steps : Steps environment context input after) (there : context.Holding input serial)
    (gone : serial ∉ after.eventBuffer.serials) :
    (∃ storing ∈ context.stores input, storing.Discards serial) ∨
      context.ConfirmsFragment since input serial := by
  obtain ⟨serials, marks⟩ := regular.marks
  by_cases changes : ∃ updates, input = .apply updates
  · obtain ⟨updates, rfl⟩ := changes
    refine .inl ?_
    cases steps with
    | nothing ineffective =>
        cases ineffective with
        | apply =>
            rcases there with there | ⟨_, none, _⟩
            · exact absurd there gone
            · cases none
    | starts reacts starts =>
        have reads := holds_of_reacts held regular (by rintro ⟨⟩) reacts
        have kept := serials_of_starts (regular.reacts reacts) (fun request can deferred =>
          not_awaits_of_read (reads (canTransmit_iff.mp can).2 request deferred)) starts
        cases reacts with
        | apply _ changed => exact discards_of_gone marks changed there (gone_of_eq kept gone)
  · have other (updates : List DatabaseUpdate) : input ≠ .apply updates :=
      fun same => changes ⟨updates, same⟩
    have before : serial ∈ context.eventBuffer.serials := by
      rcases there with there | ⟨storing, member, _⟩
      · exact there
      · cases input with
        | apply updates => exact absurd rfl (other updates)
        | _ => cases member
    obtain ⟨request, about, clears, lost⟩ :=
      removed_of_steps held regular other steps before gone
    exact .inr (tracks.confirmsFragment about clears before lost)

/-- The outstation keeps track of what is awaited since the lower layer came up. -/
theorem exists_tracks_of_reaches {addresses : Addresses} {params : OutstationParams}
    {database : DatabaseBuffers}
    (reached : machine.Reaches (initial addresses params config database) context) :
    ∃ since, OnlineSince (initial addresses params config database) since context ∧
      context.Tracks config since := by
  induction reached with
  | start => exact ⟨0, ⟨_, .start, rfl, rfl, .start⟩, tracks_initial ..⟩
  | @step before after input output reached _ success ih =>
      obtain ⟨since, ⟨offline, came, down, length, stays⟩, tracks⟩ := ih
      have regular := regular_of_reaches reached
      obtain ⟨_, stepped, same⟩ := Option.map_eq_some_iff.mp success
      obtain ⟨rfl, _⟩ := Prod.mk.inj same
      have steps := steps_of_step stepped
      by_cases falls : input.2 = .lowerLayerDown
      · rw [falls] at steps
        cases steps with
        | nothing _ => exact ⟨since, ⟨offline, came, down, length, stays⟩, tracks⟩
        | starts reacts _ => cases reacts
        | down online =>
            have state : before.onLowerLayerDown.isOnline = false := by
              rw [onLowerLayerDown, if_neg (by simp [online])]
            refine ⟨_, ⟨_, .step reached trivial success, state, rfl, .start⟩, ?_⟩
            rw [onLowerLayerDown, if_neg (by simp [online])]
            refine ⟨Nat.le_refl _, ?_, ?_, ?_, tracks.number⟩
            all_goals rintro ⟨⟩
      · exact ⟨since, ⟨offline, came, down, length, stays.step falls success⟩,
          tracks.steps (heldBack_of_reaches reached) regular falls steps⟩

/-- An event leaves the buffer only when it is the oldest of its type and is discarded for a new one,
or when the fragment that carries it is confirmed, which was begun since the lower layer came
up. -/
theorem removed_of_reaches {addresses : Addresses} {params : OutstationParams}
    {database : DatabaseBuffers} {input : Environment × Input} {output : List Activity}
    (reached : machine.Reaches (initial addresses params config database) context)
    (success : machine.step context input = some (after, output)) :
    ∃ since, OnlineSince (initial addresses params config database) since context ∧
      ∀ serial, context.Holding input.2 serial → serial ∉ after.eventBuffer.serials →
        (∃ storing ∈ context.stores input.2, storing.Discards serial) ∨
          context.ConfirmsFragment since input.2 serial := by
  obtain ⟨since, online, tracks⟩ := exists_tracks_of_reaches reached
  obtain ⟨_, stepped, same⟩ := Option.map_eq_some_iff.mp success
  obtain ⟨rfl, _⟩ := Prod.mk.inj same
  exact ⟨since, online, fun serial there gone => removed_of_tracks tracks
    (heldBack_of_reaches reached) (regular_of_reaches reached) (steps_of_step stepped) there gone⟩

end removals

omit [FloatOps] in
/-- The master reads an event and confirms it. -/
theorem removed_of_reaches_confirmed :
    ∃ context after : OContext, ∃ output,
      (@machine .atZero).Reaches (.onePoint {}) context ∧
        (@machine .atZero).step context (.atZero, .fragment [0xC0, 0]) = some (after, output) ∧
        context.eventBuffer.serials = [0] ∧ after.eventBuffer.serials = [] ∧
        ∃ since, @OnlineSince .atZero (.onePoint {}) since context ∧
          ∀ serial, @Holding .atZero context (.fragment [0xC0, 0]) serial →
            serial ∉ after.eventBuffer.serials →
              (∃ storing ∈ @stores .atZero context (.fragment [0xC0, 0]),
                storing.Discards serial) ∨
                context.ConfirmsFragment since (.fragment [0xC0, 0]) serial := by
  obtain ⟨context, reached, checked⟩ :=
    @Machine.exists_reaches_of_run _ _ _ (@machine .atZero) (.onePoint {})
      (fun context => context.eventBuffer.serials == [0] &&
        ((@machine .atZero).step context (.atZero, .fragment [0xC0, 0])).any
          (·.1.eventBuffer.serials == []))
      (List.map (Environment.atZero, ·)
        [.lowerLayerUp, .binaryEvent, .fragment [0xC0, 1, 60, 2, 6], .txReady])
      (by decide +kernel)
  obtain ⟨stored, stepped⟩ := Bool.and_eq_true_iff.mp checked
  obtain ⟨⟨after, output⟩, success, cleared⟩ := (Option.any_eq_true _ _).mp stepped
  exact ⟨context, after, output, reached, success, beq_iff_eq.mp stored, beq_iff_eq.mp cleared,
    @removed_of_reaches .atZero _ _ _ _ _ _ _ _ reached success⟩

end OContext

end OpenDnp3.Outstation
