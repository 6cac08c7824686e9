import OpenDnp3.Outstation.ConfirmSources

/-!
# Announcements of overflows

A loss of events is announced by every response that is made while a type is full.
A confirm that makes room before the next response hides the loss.
-/

set_option autoImplicit false

namespace OpenDnp3.Outstation

open OpenDnp3.App OpenDnp3.Library

/-! ## Losses -/

/-- Storing the events discards one that has not been written. -/
def EventBuffer.losesUnwritten : List AnyEvent → EventBuffer → Bool
  | [], _ => false
  | event :: events, buffer =>
      (buffer.update event).any fun next =>
        buffer.records.any (fun record =>
          record.state != .written && !next.serials.contains record.serial) ||
          losesUnwritten events next

theorem EventBuffer.Marks.overflown_of_loses {config : EventBufferConfig}
    {events : List AnyEvent} {buffer stored : EventBuffer} {serials : List Nat}
    (marks : buffer.Marks config serials)
    (loses : buffer.losesUnwritten events = true)
    (success : EventBuffer.updateAll events buffer = some stored) :
    stored.isOverflown.1 = true := by
  induction events generalizing buffer with
  | nil => cases loses
  | cons event events ih =>
      obtain ⟨next, updated, others⟩ := Option.bind_eq_some_iff.mp success
      rw [EventBuffer.losesUnwritten, updated, Option.any_some, Bool.or_eq_true] at loses
      rcases loses with now | later
      · obtain ⟨record, member, discarded⟩ := List.any_eq_true.mp now
        have absent := (Bool.and_eq_true_iff.mp discarded).2
        have gone : record.serial ∉ next.serials := by simpa using absent
        exact (marks.update updated).isOverflown_updateAll others
          (marks.isOverflown_of_discarded updated member gone)
      · exact ih (marks.update updated) later others

/-- A fragment is begun that says that events were lost. -/
def Activity.announces : Activity → Bool
  | .call _ => false
  | .beginTransmit _ fragment _ => Outstation.announces fragment

namespace OContext

/-- The overflow is to be announced. -/
def Overflown (context : OContext) : Prop := context.eventBuffer.isOverflown.1 = true

/-- What follows announces the overflow. -/
def Announced (context after : OContext) : Prop :=
  ∃ activities, after.log = context.log ++ activities ∧
    ∃ activity ∈ activities, activity.announces = true

/-- The confirm is one that clears events. -/
def ClearsEvents (context : OContext) (request : ParsedRequest) : Prop :=
  context.AwaitsSolicited request ∨
    context.AwaitsUnsolicited request ∧ context.unsol.completedNull = true

/-- The event brings a confirm that leaves no type full. -/
def MakesRoom (context : OContext) (input : Input) : Prop :=
  ∃ request, context.requestOf input = some request ∧ context.ClearsEvents request ∧
    context.eventBuffer.clearWritten.storage.isAnyTypeFull = false

section steps

variable [FloatOps] {config : EventBufferConfig} {environment : Environment}
  {request : ParsedRequest} {context after last : OContext}

/-- A change of points discards an event that has not been written. -/
def losesUnwritten : List DatabaseUpdate → OContext → Bool
  | [], _ => false
  | update :: updates, context =>
      EventBuffer.losesUnwritten (changePoints context.database update).events
          context.eventBuffer ||
        (context.change update).any (losesUnwritten updates)

/-- The event leads to no announcement. -/
def Unannounced (context : OContext) (input : Environment × Input) : Prop :=
  ∀ next output, machine.step context input = some (next, output) →
    ∀ activity ∈ output, activity.announces = false

omit [FloatOps] in
theorem Announced.append (announced : context.Announced after)
    (grows : ∃ more, last.log = after.log ++ more) : context.Announced last := by
  obtain ⟨activities, log, activity, member, announces⟩ := announced
  obtain ⟨more, later⟩ := grows
  refine ⟨activities ++ more, ?_, activity, List.mem_append_left _ member, announces⟩
  rw [later, log, List.append_assoc]

omit [FloatOps] in
theorem Announced.from_ {start : OContext} (announced : context.Announced after)
    (log : start.log = context.log) : start.Announced after := by
  obtain ⟨activities, same, activity, member, announces⟩ := announced
  exact ⟨activities, log ▸ same, activity, member, announces⟩

omit [FloatOps] in
theorem Transmits.grows {answered : UInt16 → Prop} (transmits : Transmits answered context after) :
    ∃ more, after.log = context.log ++ more := by
  cases transmits with
  | silent log _ _ => exact ⟨_, log⟩
  | responds log _ _ _ _ => exact ⟨_, log⟩
  | reports log _ _ _ _ => exact ⟨_, log⟩

omit [FloatOps] in
theorem RespondsWithData.announces {destination : UInt16} {seq : AppSeqNum}
    (responds : RespondsWithData config destination seq context after)
    (overflown : context.Overflown) : context.Announced after :=
  ⟨_, responds.log, _, List.mem_cons_of_mem _ List.mem_cons_self, responds.announced overflown⟩

omit [FloatOps] in
theorem RespondsToNonRead.announces (responds : RespondsToNonRead request context after)
    (overflown : context.Overflown) : context.Announced after := by
  obtain ⟨calls, log, _⟩ := responds.said
  exact ⟨_, log, _, List.mem_append_right _ List.mem_cons_self, responds.announced overflown⟩

omit [FloatOps] in
theorem overflown_clearWritten (overflown : context.Overflown)
    (full : context.eventBuffer.clearWritten.storage.isAnyTypeFull = true) :
    context.clearWritten.Overflown := by
  rw [Overflown, EventBuffer.isOverflown, Bool.and_eq_true] at overflown ⊢
  exact ⟨overflown.1, full⟩

/-- An overflow is announced by a response, and goes on unless a confirm makes room. -/
theorem overflown_of_handles {serials : List Nat} (marks : context.eventBuffer.Marks config serials)
    (full : context.ClearsEvents request →
      context.eventBuffer.clearWritten.storage.isAnyTypeFull = true)
    (overflown : context.Overflown) (handles : Handles environment request context after) :
    after.Overflown ∨ context.Announced after := by
  cases handles with
  | ignored _ | confirmedNull _ _ | readHeld _ | repeatReadHeld _ | repeatReadIdle _
  | repeatReadWaiting _ | repeatNonReadIdle _ | repeatNonReadWaiting _
  | repeatNonReadUnsolicited _ => exact .inl overflown
  | confirmedLast awaits _ => exact .inl (overflown_clearWritten overflown (full (.inl awaits)))
  | confirmedEvents awaits completed =>
      exact .inl (overflown_clearWritten overflown (full (.inr ⟨awaits, completed⟩)))
  | confirmedMore awaits _ continued =>
      have responds := continueMultiFragResponse_responds marks.clearWritten continued
      have still := overflown_clearWritten overflown (full (.inl awaits))
      exact .inr ((responds.announces still).from_ rfl)
  | readIdle _ responded =>
      have same : (context.numbered request).eventBuffer.Marks config serials := marks
      exact .inr (((respondToReadRequest_responds same responded).announces overflown).from_ rfl)
  | readWaiting _ responded =>
      have same : (context.numbered request).cancelConfirmTimer.eventBuffer.Marks config serials :=
        marks
      exact .inr (((respondToReadRequest_responds same responded).announces overflown).from_ rfl)
  | nonReadIdle _ =>
      have responds := respondToNonReadRequest_responds environment (context.numbered request) request
      exact .inr ((responds.announces overflown).from_ rfl)
  | nonReadWaiting _ =>
      have responds := respondToNonReadRequest_responds environment
        (context.numbered request).cancelConfirmTimer request
      exact .inr ((responds.announces overflown).append ⟨[], (List.append_nil _).symm⟩)
  | nonReadUnsolicited _ =>
      have responds := respondToNonReadRequest_responds environment
        { context.numbered request with deferred := none } request
      exact .inr ((responds.announces overflown).from_ rfl)

theorem overflown_of_reports {serials : List Nat} (marks : context.eventBuffer.Marks config serials)
    (overflown : context.Overflown) (reports : Reports environment context after) :
    after.Overflown ∨ context.Announced after := by
  have announces (classes : Option ClassField) :
      context.Announced (context.sendUnsolicited environment classes) :=
    ⟨_, (sendUnsolicited_responds environment context classes).log, _,
      List.mem_cons_of_mem _ List.mem_cons_self, announces_sendUnsolicited classes marks overflown⟩
  cases reports with
  | nothing => exact .inl overflown
  | null _ _ _ | events _ _ _ _ => exact .inr (announces _)

/-- An overflow goes on until it is announced. -/
structure Upholds (context after : OContext) : Prop where
  grows : ∃ more, after.log = context.log ++ more
  announces : context.Overflown → after.Overflown ∨ context.Announced after

omit [FloatOps] in
theorem Upholds.behind (second : after.Upholds last) (first : context.Upholds after) :
    context.Upholds last := by
  obtain ⟨activities, log⟩ := first.grows
  obtain ⟨more, later⟩ := second.grows
  refine ⟨⟨activities ++ more, by rw [later, log, List.append_assoc]⟩, fun overflown => ?_⟩
  rcases first.announces overflown with still | announced
  · rcases second.announces still with goes | ⟨_, same, activity, member, announces⟩
    · exact .inl goes
    · refine .inr ⟨activities ++ _, ?_, activity, List.mem_append_right _ member, announces⟩
      rw [same, log, List.append_assoc]
  · exact .inr (announced.append second.grows)

omit [FloatOps] in
theorem Upholds.quiet (log : after.log = context.log)
    (overflown : context.Overflown → after.Overflown) : context.Upholds after :=
  ⟨⟨[], log.trans (List.append_nil _).symm⟩, fun before => .inl (overflown before)⟩

omit [FloatOps] in
theorem Upholds.refl (context : OContext) : context.Upholds context := .quiet rfl id

theorem Upholds.starts (regular : context.Regular config)
    (full : ∀ request, context.canTransmit = true → context.deferred = some request →
      context.ClearsEvents request →
        context.eventBuffer.clearWritten.storage.isAnyTypeFull = true)
    (starts : Starts environment context after) : context.Upholds after := by
  obtain ⟨resumed, resumes, reports⟩ := starts
  obtain ⟨serials, marks⟩ := regular.marks
  obtain ⟨later, marked⟩ := (regular.resumes resumes).marks
  have behind : resumed.Upholds after :=
    ⟨(@Reports.transmits _ _ _ _ (fun _ => True) reports).grows,
      fun overflown => overflown_of_reports marked overflown reports⟩
  cases resumes with
  | blocked _ | none _ | kept _ _ _ => exact behind
  | @handled request handled can deferred _ handles =>
      have first : context.Upholds handled :=
        ⟨(Transmits.handles marks (canTransmit_iff.mp can).2 handles).grows, fun overflown =>
          overflown_of_handles marks (full request can deferred) overflown handles⟩
      have forgotten : handled.Upholds { handled with deferred := none } := .quiet rfl id
      exact behind.behind (forgotten.behind first)

omit [FloatOps] in
theorem not_clearsEvents_of_read (isRead : request.header.function = .read) :
    ¬context.ClearsEvents request := fun clears =>
  not_awaits_of_read isRead (clears.imp_right And.left)

theorem overflown_of_changeAll {updates : List DatabaseUpdate} {serials : List Nat}
    (marks : context.eventBuffer.Marks config serials)
    (changed : changeAll updates context = some after) (overflown : context.Overflown) :
    after.Overflown := by
  induction updates generalizing context with
  | nil =>
      cases changed
      exact overflown
  | cons update updates ih =>
      obtain ⟨next, first, others⟩ := Option.bind_eq_some_iff.mp changed
      obtain ⟨buffer, stored, rfl⟩ := Option.map_eq_some_iff.mp first
      have still : OContext.Overflown { context with
          database := (changePoints context.database update).buffers, eventBuffer := buffer } :=
        marks.isOverflown_updateAll stored overflown
      exact ih (marks.updateAll stored) others still

/-- Unless it brings a confirm that makes room, an event upholds an overflow. -/
theorem Upholds.steps {input : Input} (held : context.HeldBack) (regular : context.Regular config)
    (stays : ¬context.MakesRoom input) (steps : Steps environment context input after) :
    context.Upholds after := by
  obtain ⟨serials, marks⟩ := regular.marks
  have full {request : ParsedRequest} (about : context.requestOf input = some request)
      (clears : context.ClearsEvents request) :
      context.eventBuffer.clearWritten.storage.isAnyTypeFull = true := by
    by_contra room
    exact stays ⟨request, about, clears, by simpa using room⟩
  cases steps with
  | nothing _ => exact .refl _
  | setRestartIIN => exact .quiet rfl id
  | down online =>
      rw [onLowerLayerDown, if_neg (by simp [online])]
      refine .quiet rfl fun overflown => ?_
      exact (EventBuffer.restates_unselect.isOverflown marks marks.unselect).trans overflown
  | @starts _ reacted _ reacts starts =>
      have regularly := regular.reacts reacts
      have reads (sent : input ≠ .txReady) (request : ParsedRequest)
          (can : reacted.canTransmit = true) (deferred : reacted.deferred = some request)
          (clears : reacted.ClearsEvents request) :
          reacted.eventBuffer.clearWritten.storage.isAnyTypeFull = true :=
        absurd clears (not_clearsEvents_of_read
          (holds_of_reacts held regular sent reacts (canTransmit_iff.mp can).2 request deferred))
      cases reacts with
      | txReady online busy =>
          refine (Upholds.starts regularly (fun request _ deferred clears => ?_) starts).behind
            (.quiet rfl id)
          have about : context.requestOf .txReady = some request := by
            simpa [requestOf, online, busy] using deferred
          refine full about (clears.imp ?_ ?_)
          · exact fun awaits => ⟨awaits.isConfirm, awaits.state, awaits.solicited, awaits.seq⟩
          · rintro ⟨awaits, completed⟩
            exact ⟨⟨awaits.isConfirm, awaits.state, awaits.unsolicited, awaits.seq⟩, completed⟩
      | up _ | deferred _ _ _ _ =>
          exact (Upholds.starts regularly (reads (by rintro ⟨⟩)) starts).behind (.quiet rfl id)
      | ignored _ _ => exact .starts regularly (reads (by rintro ⟨⟩)) starts
      | @noAck message request _ _ _ =>
          have kept : Undisturbed context (context.processRequestNoAck environment request) :=
            processRequestNoAck_undisturbed request
          have calls : Calls (some .directOperateNoAck) context.log
            (context.processRequestNoAck environment request).log :=
              processRequestNoAck_calls request
          obtain ⟨activities, log, _⟩ := calls.silent
          refine (Upholds.starts regularly (reads (by rintro ⟨⟩)) starts).behind
            ⟨⟨activities, log⟩, fun overflown => .inl ?_⟩
          rw [Overflown, kept.eventBuffer]
          exact overflown
      | @handled message request _ online accepted acked free handles =>
          have about : context.requestOf (.receive message) = some request := by
            simp [requestOf, online, free, accepted, acked]
          exact (Upholds.starts regularly (reads (by rintro ⟨⟩)) starts).behind
            ⟨(Transmits.handles marks free handles).grows, fun overflown =>
              overflown_of_handles marks (full about) overflown handles⟩
      | timeout _ =>
          refine (Upholds.starts regularly (reads (by rintro ⟨⟩)) starts).behind ?_
          rw [onConfirmTimeout]
          split
          · exact .quiet rfl id
          · exact .quiet rfl id
          · split
            · refine .quiet rfl fun overflown => ?_
              exact (EventBuffer.restates_unselect.isOverflown marks marks.unselect).trans overflown
            · exact .quiet rfl id
      | apply _ changed =>
          refine (Upholds.starts regularly (reads (by rintro ⟨⟩)) starts).behind
            (.quiet ?_ (overflown_of_changeAll marks changed))
          rw [session_changeAll changed]

/-- A loss is an overflow. -/
theorem overflown_of_loses {updates : List DatabaseUpdate} {serials : List Nat}
    (marks : context.eventBuffer.Marks config serials)
    (loses : context.losesUnwritten updates = true)
    (changed : changeAll updates context = some after) : after.Overflown := by
  induction updates generalizing context with
  | nil => cases loses
  | cons update updates ih =>
      obtain ⟨next, first, others⟩ := Option.bind_eq_some_iff.mp changed
      rw [losesUnwritten, first, Option.any_some, Bool.or_eq_true] at loses
      obtain ⟨buffer, stored, rfl⟩ := Option.map_eq_some_iff.mp first
      rcases loses with now | later
      · refine overflown_of_changeAll (marks.updateAll stored) others ?_
        exact marks.overflown_of_loses now stored
      · exact ih (marks.updateAll stored) later others

/-- Nothing that is announced is announced quietly. -/
theorem Unannounced.not_announced {input : Environment × Input} {output : List Activity}
    (quiet : context.Unannounced input)
    (success : machine.step context input = some (after, output)) : ¬context.Announced after := by
  rintro ⟨activities, log, activity, member, announces⟩
  obtain ⟨_, _, same⟩ := Option.map_eq_some_iff.mp success
  obtain ⟨rfl, rfl⟩ := Prod.mk.inj same
  have silent := quiet _ _ success activity (by rw [log, List.drop_left]; exact member)
  cases silent.symm.trans announces

theorem overflown_of_step {input : Environment × Input} {output : List Activity}
    (held : context.HeldBack) (regular : context.Regular config)
    (quiet : context.Unannounced input) (stays : ¬context.MakesRoom input.2)
    (success : machine.step context input = some (after, output))
    (overflown : context.Overflown) : after.Overflown := by
  obtain ⟨_, stepped, same⟩ := Option.map_eq_some_iff.mp success
  obtain ⟨rfl, _⟩ := Prod.mk.inj same
  rcases (Upholds.steps held regular stays (steps_of_step stepped)).announces overflown with
    still | announced
  · exact still
  · exact absurd announced (quiet.not_announced success)

/-- After the loss of an event that has not been written the overflow is remembered until it is
announced, as long as no confirm leaves every type with room before that. -/
theorem overflow_of_reachesWhile {addresses : Addresses} {params : OutstationParams}
    {database : DatabaseBuffers} {updates : List DatabaseUpdate} {output : List Activity}
    (reached : machine.Reaches (initial addresses params config database) context)
    (loses : context.losesUnwritten updates = true)
    (quiet : context.Unannounced (environment, .apply updates))
    (success : machine.step context (environment, .apply updates) = some (after, output))
    (later : machine.ReachesWhile
      (fun context input => context.Unannounced input ∧ ¬context.MakesRoom input.2) after last) :
    last.eventBuffer.overflow = true := by
  have regular := regular_of_reaches reached
  have held := heldBack_of_reaches reached
  obtain ⟨serials, marks⟩ := regular.marks
  have begun : after.Overflown := by
    obtain ⟨_, stepped, same⟩ := Option.map_eq_some_iff.mp success
    obtain ⟨rfl, _⟩ := Prod.mk.inj same
    cases steps_of_step stepped with
    | nothing ineffective =>
        cases ineffective with
        | apply => cases loses
    | @starts _ reacted _ reacts starts =>
        have regularly := regular.reacts reacts
        have sent : Input.apply updates ≠ .txReady := nofun
        have reads := holds_of_reacts held regular sent reacts
        cases reacts with
        | apply nonempty changed =>
            have upholds := Upholds.starts regularly (fun request can deferred clears =>
              absurd clears (not_clearsEvents_of_read
                (reads (canTransmit_iff.mp can).2 request deferred))) starts
            rcases upholds.announces (overflown_of_loses marks loses changed) with
              still | announced
            · exact still
            · have log : context.log = reacted.log := by rw [session_changeAll changed]
              exact absurd (announced.from_ log) (quiet.not_announced success)
  have all := @Machine.ReachesWhile.invariant _ _ _ _ _ _ _
    (fun context => context.Overflown ∧ context.HeldBack ∧ context.Regular config) later
    ⟨begun, held.step regular success, regular.step success⟩
    fun ⟨overflown, held, regular⟩ ⟨quiet, stays⟩ success =>
      ⟨overflown_of_step held regular quiet stays success overflown, held.step regular success,
        regular.step success⟩
  exact (EventBuffer.isOverflown_iff.mp all.1).1

theorem unannounced_of_step {input : Environment × Input} {output : List Activity}
    (success : machine.step context input = some (after, output))
    (quiet : output.all (!·.announces) = true) : context.Unannounced input := by
  intro next others same activity member
  obtain ⟨_, rfl⟩ := Prod.mk.inj (Option.some.inj (success.symm.trans same))
  simpa using List.all_eq_true.mp quiet activity member

end steps

/-- An outstation with two binary points, one that leads to events of class 1 and one to events of
class 2, and room for two events of each type. -/
def twoPoints : OContext :=
  initial ⟨1, 1024⟩ {} ⟨2, 2, 2, 2, 2, 2, 2, 2⟩
    { points := fun
        | .binary =>
            ⟨⟨[⟨default, 0, .group1Var2, some ⟨.class1, .group2Var1, (), default⟩,
                .none .binary⟩,
              ⟨default, 1, .group1Var2, some ⟨.class2, .group2Var1, (), default⟩,
                .none .binary⟩], ArrayView.two_fits⟩, .invalid⟩
        | _ => ⟨⟨[], ArrayView.none_fits⟩, .invalid⟩
      class0 := fun _ => true
      indexMode := .contiguous }

/-- A change of one of the two points. -/
def forced (index : UInt16) : List DatabaseUpdate := [.update .binary ⟨true, 0x81, 0⟩ index .force]

/-- The event of the first point is discarded while that of the second one, which was read, waits
for its confirm. -/
theorem overflow_of_reachesWhile_forced :
    ∃ context after last : OContext, ∃ output,
      (@machine .atZero).Reaches twoPoints context ∧
        @losesUnwritten .atZero (forced 0) context = true ∧
        (@machine .atZero).step context (.atZero, .apply (forced 0)) = some (after, output) ∧
        (@machine .atZero).ReachesWhile (fun context input =>
          @Unannounced .atZero context input ∧ ¬context.MakesRoom input.2) after last ∧
        last.eventBuffer.overflow = true := by
  obtain ⟨context, reached, checked⟩ :=
    @Machine.exists_reaches_of_run _ _ _ (@machine .atZero) twoPoints
      (fun context => @losesUnwritten .atZero (forced 0) context &&
        ((@machine .atZero).step context (.atZero, .apply (forced 0))).any fun one =>
          one.2.all (!·.announces) &&
            ((@machine .atZero).step one.1 (.atZero, .setRestartIIN)).any fun two =>
              two.2.all (!·.announces))
      (List.map (Environment.atZero, ·)
        [.lowerLayerUp, .apply (forced 0), .apply (forced 1)])
      (by decide +kernel)
  obtain ⟨loses, stepped⟩ := Bool.and_eq_true_iff.mp checked
  obtain ⟨⟨after, output⟩, first, more⟩ := (Option.any_eq_true _ _).mp stepped
  obtain ⟨quiet, others⟩ := Bool.and_eq_true_iff.mp more
  obtain ⟨⟨last, _⟩, second, still⟩ := (Option.any_eq_true _ _).mp others
  have silent := @unannounced_of_step .atZero _ _ _ _ first quiet
  have stays : ¬after.MakesRoom .setRestartIIN := by
    rintro ⟨_, about, _⟩
    cases about
  have later : (@machine .atZero).ReachesWhile (fun context input =>
      @Unannounced .atZero context input ∧ ¬context.MakesRoom input.2) after last :=
    .step .start ⟨@unannounced_of_step .atZero _ _ _ _ second still, stays⟩ second
  exact ⟨context, after, last, output, reached, loses, first, later,
    @overflow_of_reachesWhile .atZero _ _ _ _ _ _ _ _ _ _ reached loses silent first later⟩

/-- The confirm of the second point's event makes room, and the next response does not say that
the first point's event was lost. -/
theorem not_overflow_of_reachesWhile :
    ∃ context after last : OContext, ∃ output,
      (@machine .atZero).Reaches twoPoints context ∧
        @losesUnwritten .atZero (forced 0) context = true ∧
        @Unannounced .atZero context (.atZero, .apply (forced 0)) ∧
        (@machine .atZero).step context (.atZero, .apply (forced 0)) = some (after, output) ∧
        (@machine .atZero).ReachesWhile (@Unannounced .atZero) after last ∧
        last.eventBuffer.overflow = false := by
  obtain ⟨context, reached, checked⟩ :=
    @Machine.exists_reaches_of_run _ _ _ (@machine .atZero) twoPoints
      (fun context => @losesUnwritten .atZero (forced 0) context &&
        ((@machine .atZero).step context (.atZero, .apply (forced 0))).any fun one =>
          one.2.all (!·.announces) &&
            ((@machine .atZero).step one.1 (.atZero, .fragment [0xC0, 0])).any fun two =>
              two.2.all (!·.announces) &&
                ((@machine .atZero).step two.1 (.atZero, .fragment [0xC1, 23])).any fun three =>
                  three.2.all (!·.announces) && !three.1.eventBuffer.overflow)
      (List.map (Environment.atZero, ·)
        [.lowerLayerUp, .apply (forced 0), .apply (forced 1), .fragment [0xC0, 1, 60, 3, 6],
          .txReady])
      (by decide +kernel)
  obtain ⟨loses, stepped⟩ := Bool.and_eq_true_iff.mp checked
  obtain ⟨⟨after, output⟩, first, more⟩ := (Option.any_eq_true _ _).mp stepped
  obtain ⟨quiet, others⟩ := Bool.and_eq_true_iff.mp more
  obtain ⟨⟨between, _⟩, second, rest⟩ := (Option.any_eq_true _ _).mp others
  obtain ⟨still, behind⟩ := Bool.and_eq_true_iff.mp rest
  obtain ⟨⟨last, _⟩, third, done⟩ := (Option.any_eq_true _ _).mp behind
  obtain ⟨silent, cleared⟩ := Bool.and_eq_true_iff.mp done
  refine ⟨context, after, last, output, reached, loses,
    @unannounced_of_step .atZero _ _ _ _ first quiet, first, ?_, by simpa using cleared⟩
  exact .step (.step .start (@unannounced_of_step .atZero _ _ _ _ second still) second)
    (@unannounced_of_step .atZero _ _ _ _ third silent) third

end OContext

end OpenDnp3.Outstation
