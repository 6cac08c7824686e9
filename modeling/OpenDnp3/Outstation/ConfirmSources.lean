import OpenDnp3.Outstation.HeldRequests
import OpenDnp3.Outstation.WrittenEvents

/-!
# Sources of confirms

An outstation that answers one master takes confirms from that master, and sends
everything to it. One that answers any master takes them from any.
-/

set_option autoImplicit false

namespace OpenDnp3.Outstation

open OpenDnp3.App OpenDnp3.Library

/-- A fragment has been sent to the destination. -/
def SentTo (log : List Activity) (destination : UInt16) : Prop :=
  ∃ fragment carried, .beginTransmit destination fragment carried ∈ log

namespace OContext

/-- The confirm is the one that the outstation waits for. -/
def Awaits (context : OContext) (request : ParsedRequest) : Prop :=
  context.AwaitsSolicited request ∨ context.AwaitsUnsolicited request

/-- The event is about a confirm that the outstation waits for. -/
def Honours (context : OContext) (input : Input) (request : ParsedRequest) : Prop :=
  context.requestOf input = some request ∧ context.Awaits request

/-- What is confirmed was sent to where the confirm comes from, and everything is sent to where the
requests come from. -/
structure StaysWithMaster (context : OContext) (input : Input) (after : OContext) : Prop where
  confirm : ∀ request, context.Honours input request →
    ∀ destination, SentTo context.log destination → destination = request.addresses.source
  read : ∀ message request, context.acceptMessage message = some request →
    ∀ destination, SentTo after.log destination → destination = request.addresses.source

/-- An outstation that answers one master, and has sent everything to it. -/
structure OwnMaster (addresses : Addresses) (context : OContext) : Prop where
  here : context.addresses = addresses
  own : context.params.respondToAnyMaster = false
  deferred : ∀ request, context.deferred = some request →
    request.addresses.source = addresses.destination
  sent : ∀ destination, SentTo context.log destination → destination = addresses.destination

section steps

variable {config : EventBufferConfig} {environment : Environment} {request : ParsedRequest}
  {context after : OContext} {addresses : Addresses}

theorem source_of_acceptMessage {message : Message} (own : context.params.respondToAnyMaster = false)
    (accepted : context.acceptMessage message = some request) :
    request.addresses.source = context.addresses.destination := by
  rw [acceptMessage] at accepted
  split at accepted
  · cases accepted
  · split at accepted
    · cases accepted
    · next matching =>
        have same : message.addresses.source = context.addresses.destination := by
          simpa [own] using matching
        split at accepted
        · cases accepted
        · split at accepted
          · cases accepted
          · split at accepted
            · cases accepted
            · cases accepted
              exact same

theorem SentTo.of_transmits {answered : UInt16 → Prop} {destination : UInt16}
    (transmits : Transmits answered context after) (sent : SentTo after.log destination) :
    SentTo context.log destination ∨ answered destination ∨
      destination = after.addresses.destination := by
  obtain ⟨fragment, carried, member⟩ := sent
  have begun {activities : List Activity} (silent : Silent activities) :
      .beginTransmit destination fragment carried ∉ activities := by
    intro late
    cases silent _ late
  cases transmits with
  | silent log silent _ =>
      rw [log] at member
      rcases List.mem_append.mp member with early | late
      · exact .inl ⟨_, _, early⟩
      · exact absurd late (begun silent)
  | responds log silent answers _ _ =>
      rw [log] at member
      rcases List.mem_append.mp member with early | late
      · exact .inl ⟨_, _, early⟩
      · rcases List.mem_append.mp late with call | last
        · exact absurd call (begun silent)
        · cases List.mem_singleton.mp last
          exact .inr (.inl answers)
  | reports log silent _ _ _ =>
      rw [log] at member
      rcases List.mem_append.mp member with early | late
      · exact .inl ⟨_, _, early⟩
      · rcases List.mem_append.mp late with call | last
        · exact absurd call (begun silent)
        · cases List.mem_singleton.mp last
          exact .inr (.inr rfl)

theorem ownMaster_initial {params : OutstationParams} (own : params.respondToAnyMaster = false)
    (database : DatabaseBuffers) :
    (initial addresses params config database).OwnMaster addresses where
  here := rfl
  own := own
  deferred _ held := by cases held
  sent _ sent := by
    obtain ⟨_, _, member⟩ := sent
    cases member

theorem Keeps.own (kept : context.Keeps after) (own : context.params.respondToAnyMaster = false) :
    after.params.respondToAnyMaster = false := by
  rw [kept.params]
  exact own

variable [FloatOps]

theorem keeps_of_steps {input : Input} (regular : context.Regular config)
    (steps : Steps environment context input after) :
    ∃ online, Keeps { context with isOnline := online } after := by
  cases steps with
  | nothing _ => exact ⟨_, .refl _⟩
  | setRestartIIN => exact ⟨context.isOnline, rfl, rfl, rfl⟩
  | down online =>
      rw [onLowerLayerDown, if_neg (by simp [online])]
      exact ⟨_, rfl, rfl, rfl⟩
  | @starts _ reacted _ reacts starts =>
      obtain ⟨serials, marks⟩ := (regular.reacts reacts).marks
      have started := Keeps.starts marks starts
      rcases keeps_of_reacts regular reacts with kept | ⟨_, rfl⟩
      · exact ⟨context.isOnline, started.behind kept⟩
      · exact ⟨true, started⟩

theorem deferred_of_steps {input : Input} (regular : context.Regular config)
    (steps : Steps environment context input after) {held : ParsedRequest}
    (deferred : after.deferred = some held) :
    (∃ message request space, context.acceptMessage message = some request ∧
        held = request.copyTo space) ∨
      context.deferred = some held := by
  cases steps with
  | nothing _ | setRestartIIN => exact .inr deferred
  | down online =>
      rw [onLowerLayerDown, if_neg (by simp [online])] at deferred
      cases deferred
  | starts reacts starts =>
      rcases deferred_of_reacts regular reacts (deferred_of_starts starts deferred) with
        ⟨message, request, space, _, accepted, same⟩ | before
      · exact .inl ⟨message, request, space, accepted, same⟩
      · exact .inr before

/-- What is accepted comes from the master, and so does what waits. -/
theorem OwnMaster.steps {input : Input} (own : context.OwnMaster addresses)
    (regular : context.Regular config) (steps : Steps environment context input after) :
    after.OwnMaster addresses := by
  obtain ⟨online, kept⟩ := keeps_of_steps regular steps
  have same : after.addresses = addresses := kept.addresses.trans own.here
  have accepted {message : Message} {request : ParsedRequest}
      (accepted : context.acceptMessage message = some request) :
      request.addresses.source = addresses.destination := by
    rw [source_of_acceptMessage own.own accepted, own.here]
  refine ⟨same, kept.own own.own, fun held deferred => ?_, fun destination sent => ?_⟩
  · rcases deferred_of_steps regular steps deferred with ⟨_, _, _, came, rfl⟩ | before
    · have comes := accepted came
      exact comes
    · exact own.deferred held before
  · rcases SentTo.of_transmits (Transmits.steps regular steps) sent with early | answers | reports
    · exact own.sent destination early
    · rcases answers with ⟨_, request, _, came, rfl⟩ | ⟨request, before, rfl⟩
      · exact accepted came
      · exact own.deferred request before
    · exact reports.trans (congrArg Addresses.destination same)

theorem OwnMaster.step {input : Environment × Input} {output : List Activity}
    (own : context.OwnMaster addresses) (regular : context.Regular config)
    (success : machine.step context input = some (after, output)) : after.OwnMaster addresses := by
  obtain ⟨_, stepped, same⟩ := Option.map_eq_some_iff.mp success
  obtain ⟨rfl, _⟩ := Prod.mk.inj same
  exact own.steps regular (steps_of_step stepped)

theorem ownMaster_of_reaches {params : OutstationParams} {database : DatabaseBuffers}
    (own : params.respondToAnyMaster = false)
    (reached : machine.Reaches (initial addresses params config database) context) :
    context.OwnMaster addresses := by
  have both := @Machine.ReachesWhile.invariant _ _ _ _ _ _ _
    (fun context => context.OwnMaster addresses ∧ context.Regular config) reached
    ⟨ownMaster_initial own database, regular_initial ..⟩ fun both _ success =>
      ⟨both.1.step both.2 success, both.2.step success⟩
  exact both.1

omit [FloatOps] in
theorem OwnMaster.requestOf {input : Input} (own : context.OwnMaster addresses)
    (about : context.requestOf input = some request) :
    request.addresses.source = addresses.destination := by
  cases input with
  | receive message =>
      simp only [OContext.requestOf] at about
      split at about
      · obtain ⟨accepted, _⟩ := Option.filter_eq_some_iff.mp about
        rw [source_of_acceptMessage own.own accepted, own.here]
      · cases about
  | txReady =>
      simp only [OContext.requestOf] at about
      split at about
      · exact own.deferred request about
      · cases about
  | lowerLayerUp | lowerLayerDown | confirmTimeout | apply _ | setRestartIIN => cases about

/-! ## Confirms -/

omit [FloatOps] in
theorem RespondsToNonRead.serials (responds : RespondsToNonRead request context after) :
    after.eventBuffer.serials = context.eventBuffer.serials := by
  rw [responds.eventBuffer]
  rfl

/-- The events are kept by everything but the confirm that is waited for. -/
theorem serials_of_handles {serials : List Nat} (marks : context.eventBuffer.Marks config serials)
    (other : ¬context.Awaits request) (handles : Handles environment request context after) :
    after.eventBuffer.serials = context.eventBuffer.serials := by
  cases handles with
  | ignored _ | readHeld _ | repeatReadHeld _ | repeatReadIdle _ | repeatReadWaiting _
  | repeatNonReadIdle _ | repeatNonReadWaiting _ | repeatNonReadUnsolicited _ => rfl
  | confirmedLast awaits _ | confirmedMore awaits _ _ => exact absurd (.inl awaits) other
  | confirmedEvents awaits _ | confirmedNull awaits _ => exact absurd (.inr awaits) other
  | readIdle _ responded =>
      have same : (context.numbered request).eventBuffer.Marks config serials := marks
      exact (respondToReadRequest_responds same responded).serials
  | readWaiting _ responded =>
      have same : (context.numbered request).cancelConfirmTimer.eventBuffer.Marks config serials :=
        marks
      exact (respondToReadRequest_responds same responded).serials
  | nonReadIdle _ =>
      have responds := respondToNonReadRequest_responds environment (context.numbered request) request
      exact responds.serials
  | nonReadWaiting _ =>
      have responds := respondToNonReadRequest_responds environment
        (context.numbered request).cancelConfirmTimer request
      exact responds.serials
  | nonReadUnsolicited _ =>
      have responds := respondToNonReadRequest_responds environment
        { context.numbered request with deferred := none } request
      exact responds.serials

theorem serials_of_reports {serials : List Nat} (marks : context.eventBuffer.Marks config serials)
    (reports : Reports environment context after) :
    after.eventBuffer.serials = context.eventBuffer.serials := by
  cases reports with
  | nothing | null _ _ _ => rfl
  | events _ _ _ _ =>
      have selected := marks.unselect.selectByClass context.params.unsolClassMask
        EventBuffer.maxCount
      exact (selected.restates_load context.unsol.tx.start.getWriter).serials_eq.trans
        (EventBuffer.restates_unselect.trans (marks.unselect.restates_selectByClass
          context.params.unsolClassMask EventBuffer.maxCount)).serials_eq

/-- What is started keeps the events, unless it is the confirm that is waited for. -/
theorem serials_of_starts (regular : context.Regular config)
    (other : ∀ request, context.canTransmit = true → context.deferred = some request →
      ¬context.Awaits request)
    (starts : Starts environment context after) :
    after.eventBuffer.serials = context.eventBuffer.serials := by
  obtain ⟨resumed, resumes, reports⟩ := starts
  obtain ⟨serials, marks⟩ := regular.marks
  obtain ⟨later, marked⟩ := (regular.resumes resumes).marks
  refine (serials_of_reports marked reports).trans ?_
  cases resumes with
  | blocked _ | none _ | kept _ _ _ => rfl
  | handled can deferred _ handles =>
      have same := serials_of_handles marks (other _ can deferred) handles
      exact same

omit [FloatOps] in
theorem not_awaits_of_read (isRead : request.header.function = .read) :
    ¬context.Awaits request := by
  rintro (awaits | awaits)
  · cases isRead.symm.trans awaits.isConfirm
  · cases isRead.symm.trans awaits.isConfirm

omit [FloatOps] in
theorem HeldBack.holds (held : context.HeldBack) : context.Holds := by
  intro free request deferred
  cases online : context.isOnline with
  | false => cases (held.offline online).symm.trans deferred
  | true => exact (held.waits (canTransmit_iff.mpr ⟨online, free⟩) request deferred).1

/-- What waits after an event that does not end a transmission is a READ. -/
theorem holds_of_reacts {input : Input} (held : context.HeldBack) (regular : context.Regular config)
    (sent : input ≠ .txReady) (reacts : Reacts environment context input after) : after.Holds := by
  obtain ⟨serials, marks⟩ := regular.marks
  cases reacts with
  | up _ | ignored _ _ => exact held.holds
  | @noAck message request _ _ _ =>
      have kept : Undisturbed context (context.processRequestNoAck environment request) :=
        processRequestNoAck_undisturbed request
      rw [Holds, kept.isTransmitting, kept.deferred]
      exact held.holds
  | deferred _ _ _ busy =>
      intro free
      cases busy.symm.trans free
  | handled _ _ _ _ handles => exact holds_of_handles marks held.holds handles
  | txReady _ _ => exact absurd rfl sent
  | timeout _ =>
      rw [onConfirmTimeout]
      split
      · exact held.holds
      · exact held.holds
      · split <;> exact held.holds
  | apply _ changed =>
      rw [session_changeAll changed]
      exact held.holds

/-- Unless it honours a confirm, an event keeps the events; the points may change. -/
theorem serials_of_steps {input : Input} (held : context.HeldBack)
    (regular : context.Regular config) (other : ∀ request, ¬context.Honours input request)
    (changes : ∀ updates, input ≠ .apply updates)
    (steps : Steps environment context input after) :
    after.eventBuffer.serials = context.eventBuffer.serials := by
  obtain ⟨serials, marks⟩ := regular.marks
  cases steps with
  | nothing _ | setRestartIIN => rfl
  | down online =>
      rw [onLowerLayerDown, if_neg (by simp [online])]
      exact EventBuffer.restates_unselect.serials_eq
  | @starts _ reacted _ reacts starts =>
      have regularly := regular.reacts reacts
      have reads (sent : input ≠ .txReady) (request : ParsedRequest)
          (can : reacted.canTransmit = true) (deferred : reacted.deferred = some request) :
          ¬reacted.Awaits request :=
        not_awaits_of_read (holds_of_reacts held regular sent reacts (canTransmit_iff.mp can).2
          request deferred)
      cases reacts with
      | txReady online busy =>
          refine (serials_of_starts regularly ?_ starts).trans rfl
          intro request _ deferred awaits
          have about : context.requestOf .txReady = some request := by
            simpa [requestOf, online, busy] using deferred
          refine other request ⟨about, ?_⟩
          exact awaits.imp (fun awaits => ⟨awaits.isConfirm, awaits.state, awaits.solicited, awaits.seq⟩)
            fun awaits => ⟨awaits.isConfirm, awaits.state, awaits.unsolicited, awaits.seq⟩
      | up offline =>
          exact (serials_of_starts regularly (reads (by rintro ⟨⟩)) starts).trans rfl
      | ignored online refused => exact serials_of_starts regularly (reads (by rintro ⟨⟩)) starts
      | @noAck message request online accepted noAck =>
          have kept : Undisturbed context (context.processRequestNoAck environment request) :=
            processRequestNoAck_undisturbed request
          refine (serials_of_starts regularly (reads (by rintro ⟨⟩)) starts).trans ?_
          rw [kept.eventBuffer]
      | deferred online accepted acked busy =>
          exact (serials_of_starts regularly (reads (by rintro ⟨⟩)) starts).trans rfl
      | handled online accepted acked free handles =>
          refine (serials_of_starts regularly (reads (by rintro ⟨⟩)) starts).trans
            (serials_of_handles marks ?_ handles)
          intro awaits
          refine other _ ⟨?_, awaits⟩
          simp [requestOf, online, free, accepted, acked]
      | timeout active =>
          refine (serials_of_starts regularly (reads (by rintro ⟨⟩)) starts).trans ?_
          rw [onConfirmTimeout]
          split
          · rfl
          · rfl
          · split
            · exact EventBuffer.restates_unselect.serials_eq
            · rfl
      | apply _ _ => exact absurd rfl (changes _)

/-- A fragment that continues a response is sent to where the confirm comes from. -/
theorem sentTo_of_continues {serials : List Nat} (marks : context.eventBuffer.Marks config serials)
    (awaits : context.AwaitsSolicited request)
    (more : context.confirmed.clearWritten.hasSelection = true)
    (handles : Handles environment request context after) :
    after.isTransmitting = true ∧
      ∃ fragment carried, .beginTransmit request.addresses.source fragment carried ∈
        after.log.drop context.log.length := by
  cases handles with
  | confirmedMore _ _ continued =>
      have responds := continueMultiFragResponse_responds marks.clearWritten continued
      refine ⟨responds.isTransmitting, after.sol.tx.lastResponse, after.sol.tx.carried, ?_⟩
      have log : after.log = context.log ++ _ := responds.log
      rw [log, List.drop_left]
      exact List.mem_cons_of_mem _ List.mem_cons_self
  | confirmedLast _ done => cases done.symm.trans more
  | ignored ignores =>
      cases ignores with
      | confirm _ solicited _ => exact absurd awaits solicited
      | unsolicited isRequest _ => exact absurd awaits.isConfirm isRequest
  | confirmedEvents unsolicited _ | confirmedNull unsolicited _ =>
      cases awaits.state.symm.trans unsolicited.state
  | readIdle requests _ | readWaiting requests _ | readHeld requests | nonReadIdle requests
  | nonReadWaiting requests | nonReadUnsolicited requests | repeatReadIdle requests
  | repeatReadWaiting requests | repeatReadHeld requests | repeatNonReadIdle requests
  | repeatNonReadWaiting requests | repeatNonReadUnsolicited requests =>
      exact absurd awaits.isConfirm requests.isRequest

/-- A confirm that is waited for leads to the next fragment if anything is still selected, whether it
is handled at once or after a transmission. -/
theorem continues_of_steps {input : Input} (regular : context.Regular config)
    (about : context.requestOf input = some request) (awaits : context.AwaitsSolicited request)
    (more : context.confirmed.clearWritten.hasSelection = true)
    (steps : Steps environment context input after) :
    ∃ fragment carried, .beginTransmit request.addresses.source fragment carried ∈
      after.log.drop context.log.length := by
  obtain ⟨serials, marks⟩ := regular.marks
  cases input with
  | receive message =>
      simp only [requestOf] at about
      split at about
      · next receives =>
          obtain ⟨online, free⟩ : context.isOnline = true ∧ context.isTransmitting = false := by
            simpa using receives
          obtain ⟨accepted, acked⟩ := Option.filter_eq_some_iff.mp about
          cases steps with
          | nothing ineffective =>
              cases ineffective with
              | receive offline => cases offline.symm.trans online
          | starts reacts starts =>
              cases reacts with
              | ignored _ refused => cases refused.symm.trans accepted
              | noAck _ other noAck =>
                  obtain rfl := Option.some.inj (other.symm.trans accepted)
                  rw [noAck] at acked
                  cases acked
              | deferred _ _ _ busy => cases busy.symm.trans free
              | handled _ other _ _ handles =>
                  obtain rfl := Option.some.inj (other.symm.trans accepted)
                  obtain ⟨busy, continues⟩ := sentTo_of_continues marks awaits more handles
                  rw [starts.eq_of_busy busy]
                  exact continues
      · cases about
  | txReady =>
      simp only [requestOf] at about
      split at about
      · next transmits =>
          obtain ⟨online, busy⟩ : context.isOnline = true ∧ context.isTransmitting = true := by
            simpa using transmits
          cases steps with
          | nothing ineffective =>
              cases ineffective with
              | txReady idle => cases idle.symm.trans transmits
          | starts reacts starts =>
              cases reacts with
              | txReady _ _ =>
                  obtain ⟨resumed, resumes, reports⟩ := starts
                  have held : OContext.deferred { context with isTransmitting := false } =
                    some request := about
                  have marked : EventBuffer.Marks config serials
                      (OContext.eventBuffer { context with isTransmitting := false }) := marks
                  have same : AwaitsSolicited request { context with isTransmitting := false } :=
                    ⟨awaits.isConfirm, awaits.state, awaits.solicited, awaits.seq⟩
                  cases resumes with
                  | blocked cannot =>
                      cases cannot.symm.trans (canTransmit_iff.mpr ⟨online, rfl⟩)
                  | none none => cases none.symm.trans held
                  | kept other isRead _ =>
                      obtain rfl := Option.some.inj (other.symm.trans held)
                      cases isRead.symm.trans awaits.isConfirm
                  | @handled request handled _ other _ handles =>
                      obtain rfl := Option.some.inj (other.symm.trans held)
                      obtain ⟨busy, continues⟩ := sentTo_of_continues marked same more handles
                      have still : isTransmitting { handled with deferred := none } = true := busy
                      rw [reports.eq_of_busy still]
                      exact continues
      · cases about
  | lowerLayerUp | lowerLayerDown | confirmTimeout | apply _ | setRestartIIN => cases about

/-- An outstation that answers one master honours a confirm only if it comes from where the
fragment was sent, and sends what continues a response to where the READ came from. Any outstation
sends it to where the confirm comes from, and only a confirm that is honoured clears events. -/
theorem staysWithMaster_of_reaches {params : OutstationParams} {database : DatabaseBuffers}
    {input : Environment × Input} {output : List Activity}
    (reached : machine.Reaches (initial addresses params config database) context)
    (success : machine.step context input = some (after, output)) :
    (params.respondToAnyMaster = false → context.StaysWithMaster input.2 after) ∧
      (∀ request, context.Honours input.2 request → context.state = .solicitedConfirmWait →
        context.confirmed.clearWritten.hasSelection = true →
        ∃ fragment carried, .beginTransmit request.addresses.source fragment carried ∈ output) ∧
      ((∀ request, ¬context.Honours input.2 request) → (∀ updates, input.2 ≠ .apply updates) →
        after.eventBuffer.serials = context.eventBuffer.serials) := by
  have regular := regular_of_reaches reached
  obtain ⟨final, stepped, same⟩ := Option.map_eq_some_iff.mp success
  obtain ⟨rfl, rfl⟩ := Prod.mk.inj same
  have steps := steps_of_step stepped
  refine ⟨fun own => ?_, fun request honours waits more => ?_, fun other changes => ?_⟩
  · have owned := ownMaster_of_reaches own reached
    refine ⟨fun request honours destination sent => ?_, fun message request accepted => ?_⟩
    · rw [owned.requestOf honours.1]
      exact owned.sent destination sent
    · intro destination sent
      rw [source_of_acceptMessage owned.own accepted, owned.here]
      exact (owned.steps regular steps).sent destination sent
  · obtain ⟨about, solicited | unsolicited⟩ := honours
    · exact continues_of_steps regular about solicited more steps
    · cases waits.symm.trans unsolicited.state
  · exact serials_of_steps (heldBack_of_reaches reached) regular other changes steps

end steps

/-- The master confirms the event that it has read. -/
theorem staysWithMaster_ownConfirm :
    ∃ context after : OContext, ∃ request output,
      (@machine .atZero).Reaches (.onePoint {}) context ∧
        context.Honours (.fragment [0xC0, 0]) request ∧
        (@machine .atZero).step context (.atZero, .fragment [0xC0, 0]) = some (after, output) ∧
        context.StaysWithMaster (.fragment [0xC0, 0]) after := by
  let request : ParsedRequest := ⟨⟨1024, 1⟩, ⟨⟨true, true, false, false, 0⟩, .confirm⟩, []⟩
  obtain ⟨context, reached, checked⟩ :=
    @Machine.exists_reaches_of_run _ _ _ (@machine .atZero) (.onePoint {})
      (fun context => context.requestOf (.fragment [0xC0, 0]) == some request &&
        context.state == .solicitedConfirmWait && context.sol.seq.confirmNum.seq == 0 &&
        ((@machine .atZero).step context (.atZero, .fragment [0xC0, 0])).isSome)
      (List.map (Environment.atZero, ·)
        [.lowerLayerUp, .binaryEvent, .fragment [0xC0, 1, 60, 2, 6], .txReady])
      (by decide +kernel)
  simp only [Bool.and_eq_true, beq_iff_eq] at checked
  obtain ⟨⟨⟨about, waits⟩, seq⟩, some⟩ := checked
  obtain ⟨⟨after, output⟩, success⟩ := Option.isSome_iff_exists.mp some
  exact ⟨context, after, request, output, reached, ⟨about, .inl ⟨rfl, waits, rfl, seq⟩⟩, success,
    (@staysWithMaster_of_reaches _ _ _ _ .atZero _ _ _ _ reached success).1 rfl⟩

/-- A confirm of the response to a READ, from another master. -/
def otherConfirm : Message := ⟨⟨1025, 1⟩, [0xC0, 0]⟩

/-- An outstation that answers any master has sent everything to one, and another one confirms the
event that it reports. -/
theorem not_staysWithMaster :
    ∃ context : OContext, (@machine .atZero).Reaches (.onePoint { respondToAnyMaster := true })
        context ∧
      (∀ destination, SentTo context.log destination → destination = 1024) ∧
      ∃ request, context.Honours (.receive otherConfirm) request ∧
        request.addresses.source = 1025 ∧ context.eventBuffer.serials ≠ [] ∧
        ∃ after output, (@machine .atZero).step context (.atZero, .receive otherConfirm) =
          some (after, output) ∧ after.eventBuffer.serials = [] := by
  let request : ParsedRequest := ⟨⟨1025, 1⟩, ⟨⟨true, true, false, false, 0⟩, .confirm⟩, []⟩
  obtain ⟨context, reached, checked⟩ :=
    @Machine.exists_reaches_of_run _ _ _ (@machine .atZero)
      (.onePoint { respondToAnyMaster := true })
      (fun context => context.log.all (fun
          | .beginTransmit destination _ _ => destination == 1024
          | .call _ => true) &&
        context.requestOf (.receive otherConfirm) == some request &&
        context.state == .solicitedConfirmWait && context.sol.seq.confirmNum.seq == 0 &&
        !context.eventBuffer.serials.isEmpty &&
        ((@machine .atZero).step context (.atZero, .receive otherConfirm)).any
          (·.1.eventBuffer.serials.isEmpty))
      (List.map (Environment.atZero, ·)
        [.lowerLayerUp, .binaryEvent, .fragment [0xC0, 1, 60, 2, 6], .txReady])
      (by decide +kernel)
  simp only [Bool.and_eq_true, beq_iff_eq, Bool.not_eq_true', List.all_eq_true] at checked
  obtain ⟨⟨⟨⟨⟨sent, about⟩, waits⟩, seq⟩, some⟩, cleared⟩ := checked
  cases success : (@machine .atZero).step context (.atZero, .receive otherConfirm) with
  | none =>
      rw [success] at cleared
      cases cleared
  | some result =>
      rw [success] at cleared
      refine ⟨context, reached, ?_, request, ⟨about, .inl ⟨rfl, waits, rfl, seq⟩⟩, rfl, ?_, _, _, success,
        List.isEmpty_iff.mp cleared⟩
      · rintro destination ⟨fragment, carried, member⟩
        exact beq_iff_eq.mp (sent _ member)
      · intro none
        rw [none] at some
        cases some

end OContext

end OpenDnp3.Outstation
