import OpenDnp3.Outstation.Transmissions

/-!
# Requests that are held back

A request that is held back waits for a transmission or for a confirm, and for
nothing else.
-/

set_option autoImplicit false

namespace OpenDnp3.Outstation

open OpenDnp3.App OpenDnp3.Library

namespace OContext

/-- What is held back waits for a transmission, or it is a READ that waits for a confirm. -/
structure HeldBack (context : OContext) : Prop where
  offline : context.isOnline = false → context.deferred = none
  waits : context.canTransmit = true → ∀ request, context.deferred = some request →
    request.header.function = .read ∧ context.state ≠ .idle
  below : ∀ request, context.deferred = some request → request.header.control.seq < 16

theorem seq_of_acceptMessage {context : OContext} {message : Message} {request : ParsedRequest}
    (accepted : context.acceptMessage message = some request) :
    request.header.control.seq < 16 := by
  simp only [acceptMessage] at accepted
  split at accepted
  · cases accepted
  · split at accepted
    · cases accepted
    · split at accepted
      · cases accepted
      · next header objects parsed =>
          split at accepted
          · cases accepted
          · split at accepted
            · cases accepted
            · cases accepted
              rw [APDUHeader.parseRequest.eq_def] at parsed
              split at parsed
              · cases parsed
                exact AppControlField.seq_ofByte_lt _
              · cases parsed

theorem heldBack_initial (addresses : Addresses) (params : OutstationParams)
    (config : EventBufferConfig) (database : DatabaseBuffers) :
    (initial addresses params config database).HeldBack where
  offline _ := rfl
  waits _ _ held := by cases held
  below _ held := by cases held

variable [FloatOps] {config : EventBufferConfig} {environment : Environment}
  {request : ParsedRequest} {context after : OContext}

/-- What may be started is started. -/
theorem waits_of_starts (starts : Starts environment context after)
    (can : after.canTransmit = true) (deferred : after.deferred = some request) :
    request.header.function = .read ∧ after.state ≠ .idle := by
  obtain ⟨resumed, resumes, reports⟩ := starts
  have same : after = resumed := by
    cases reports with
    | nothing => rfl
    | null _ _ _ | events _ _ _ _ =>
        cases (canTransmit_iff.mp can).2
  subst same
  cases resumes with
  | blocked cannot => cases cannot.symm.trans can
  | none none => cases none.symm.trans deferred
  | kept held isRead busy =>
      obtain rfl := Option.some.inj (held.symm.trans deferred)
      exact ⟨isRead, busy⟩
  | handled _ _ _ _ => cases deferred

/-- Nothing is held back by what is started. -/
theorem deferred_of_starts (starts : Starts environment context after) {held : ParsedRequest}
    (deferred : after.deferred = some held) : context.deferred = some held := by
  obtain ⟨resumed, resumes, reports⟩ := starts
  have same : resumed.deferred = some held := by
    cases reports with
    | nothing | null _ _ _ | events _ _ _ _ => exact deferred
  cases resumes with
  | blocked _ | none _ | kept _ _ _ => exact same
  | handled _ _ _ _ => cases same

/-- What neither a request nor a transmission changes. -/
structure Keeps (context after : OContext) : Prop where
  addresses : after.addresses = context.addresses
  params : after.params = { context.params with unsolClassMask := after.params.unsolClassMask }
  isOnline : after.isOnline = context.isOnline

omit [FloatOps] in
theorem Keeps.refl (context : OContext) : context.Keeps context := ⟨rfl, rfl, rfl⟩

omit [FloatOps] in
theorem Keeps.behind {last : OContext} (second : after.Keeps last) (first : context.Keeps after) :
    context.Keeps last := by
  refine ⟨second.addresses.trans first.addresses, ?_, second.isOnline.trans first.isOnline⟩
  rw [second.params, first.params]

omit [FloatOps] in
theorem RespondsWithData.keeps {destination : UInt16} {seq : AppSeqNum}
    (responds : RespondsWithData config destination seq context after) : context.Keeps after := by
  refine ⟨responds.addresses, ?_, responds.isOnline⟩
  rw [responds.params]

omit [FloatOps] in
theorem RespondsToNonRead.keeps (responds : RespondsToNonRead request context after) :
    context.Keeps after :=
  ⟨responds.addresses, responds.params, responds.isOnline⟩

theorem Keeps.handles {serials : List Nat} (marks : context.eventBuffer.Marks config serials)
    (handles : Handles environment request context after) : context.Keeps after := by
  cases handles with
  | ignored _ | confirmedLast _ _ | confirmedEvents _ _ | confirmedNull _ _ | repeatReadIdle _
  | repeatReadWaiting _ | repeatNonReadIdle _ | repeatNonReadWaiting _
  | repeatNonReadUnsolicited _ | readHeld _ | repeatReadHeld _ => exact ⟨rfl, rfl, rfl⟩
  | confirmedMore _ _ continued =>
      have responds := continueMultiFragResponse_responds marks.clearWritten continued
      exact responds.keeps.behind ⟨rfl, rfl, rfl⟩
  | readIdle _ responded =>
      have same : (context.numbered request).eventBuffer.Marks config serials := marks
      exact (respondToReadRequest_responds same responded).keeps.behind ⟨rfl, rfl, rfl⟩
  | readWaiting _ responded =>
      have same : (context.numbered request).cancelConfirmTimer.eventBuffer.Marks config serials :=
        marks
      exact (respondToReadRequest_responds same responded).keeps.behind ⟨rfl, rfl, rfl⟩
  | nonReadIdle _ =>
      have responds := respondToNonReadRequest_responds environment (context.numbered request) request
      exact responds.keeps.behind ⟨rfl, rfl, rfl⟩
  | nonReadWaiting _ =>
      have responds := respondToNonReadRequest_responds environment
        (context.numbered request).cancelConfirmTimer request
      exact ⟨responds.addresses, responds.params, responds.isOnline⟩
  | nonReadUnsolicited _ =>
      have responds := respondToNonReadRequest_responds environment
        { context.numbered request with deferred := none } request
      exact responds.keeps.behind ⟨rfl, rfl, rfl⟩

theorem Keeps.starts {serials : List Nat} (marks : context.eventBuffer.Marks config serials)
    (starts : Starts environment context after) : context.Keeps after := by
  obtain ⟨resumed, resumes, reports⟩ := starts
  have kept : context.Keeps resumed := by
    cases resumes with
    | blocked _ | none _ | kept _ _ _ => exact .refl _
    | handled _ _ _ handles =>
        have kept := Keeps.handles marks handles
        exact ⟨kept.addresses, kept.params, kept.isOnline⟩
  cases reports with
  | nothing | null _ _ _ | events _ _ _ _ => exact ⟨kept.addresses, kept.params, kept.isOnline⟩

/-- Messages are only received online. -/
theorem isOnline_of_receive {message : Message}
    (reacts : Reacts environment context (.receive message) after) : context.isOnline = true := by
  cases reacts with
  | ignored online _ | noAck online _ _ | deferred online _ _ _ | handled online _ _ _ _ =>
      exact online

theorem keeps_of_reacts {input : Input} (regular : context.Regular config)
    (reacts : Reacts environment context input after) :
    context.Keeps after ∨ input = .lowerLayerUp ∧ after = { context with isOnline := true } := by
  obtain ⟨serials, marks⟩ := regular.marks
  cases reacts with
  | up _ => exact .inr ⟨rfl, rfl⟩
  | ignored _ _ | txReady _ _ | deferred _ _ _ _ => exact .inl ⟨rfl, rfl, rfl⟩
  | @noAck message request _ _ _ =>
      have kept : Undisturbed context (context.processRequestNoAck environment request) :=
        processRequestNoAck_undisturbed request
      exact .inl ⟨kept.addresses, kept.params, kept.isOnline⟩
  | handled _ _ _ _ handles => exact .inl (.handles marks handles)
  | timeout _ =>
      rw [onConfirmTimeout]
      split
      · exact .inl ⟨rfl, rfl, rfl⟩
      · exact .inl ⟨rfl, rfl, rfl⟩
      · split <;> exact .inl ⟨rfl, rfl, rfl⟩
  | apply _ changed =>
      rw [session_changeAll changed]
      exact .inl ⟨rfl, rfl, rfl⟩

theorem HeldBack.steps {input : Input} (held : context.HeldBack) (regular : context.Regular config)
    (steps : Steps environment context input after) : after.HeldBack := by
  cases steps with
  | nothing _ => exact held
  | setRestartIIN => exact ⟨held.offline, held.waits, held.below⟩
  | down online =>
      rw [onLowerLayerDown, if_neg (by simp [online])]
      refine ⟨fun _ => rfl, fun _ _ waiting => ?_, fun _ waiting => ?_⟩
      · cases waiting
      · cases waiting
  | @starts _ reacted _ reacts starts =>
      refine ⟨fun offline => ?_, fun can _ => waits_of_starts starts can,
        fun request deferred => ?_⟩
      · obtain ⟨serials, marks⟩ := (regular.reacts reacts).marks
        cases deferred : after.deferred with
        | none => rfl
        | some waiting =>
            have down := (Keeps.starts marks starts).isOnline.symm.trans offline
            have same : reacted.isOnline = context.isOnline := by
              rcases keeps_of_reacts regular reacts with kept | ⟨_, rfl⟩
              · exact kept.isOnline
              · cases down
            rcases deferred_of_reacts regular reacts (deferred_of_starts starts deferred) with
              ⟨message, request, space, rfl, _, _⟩ | before
            · cases (same.symm.trans down).symm.trans (isOnline_of_receive reacts)
            · cases (held.offline (same.symm.trans down)).symm.trans before
      · rcases deferred_of_reacts regular reacts (deferred_of_starts starts deferred) with
          ⟨_, other, space, _, accepted, rfl⟩ | before
        · have below := seq_of_acceptMessage accepted
          exact below
        · exact held.below request before

theorem HeldBack.step {input : Environment × Input} {output : List Activity}
    (held : context.HeldBack) (regular : context.Regular config)
    (success : machine.step context input = some (after, output)) : after.HeldBack := by
  obtain ⟨_, stepped, same⟩ := Option.map_eq_some_iff.mp success
  obtain ⟨rfl, _⟩ := Prod.mk.inj same
  exact held.steps regular (steps_of_step stepped)

theorem heldBack_of_reaches {addresses : Addresses} {params : OutstationParams}
    {database : DatabaseBuffers}
    (reached : machine.Reaches (initial addresses params config database) context) :
    context.HeldBack := by
  have both := @Machine.ReachesWhile.invariant _ _ _ _ _ _ _
    (fun context => context.HeldBack ∧ context.Regular config) reached
    ⟨heldBack_initial .., regular_initial ..⟩ fun both _ success =>
      ⟨both.1.step both.2 success, both.2.step success⟩
  exact both.1

end OContext

end OpenDnp3.Outstation
