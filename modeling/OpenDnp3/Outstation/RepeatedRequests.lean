import OpenDnp3.Link.CRCProperties
import OpenDnp3.Outstation.OutstationRuns
import OpenDnp3.Outstation.Services

/-!
# Repeated requests

Requests are compared by the length and the digest of their objects. What is taken for
a repeat, or for the operation that was selected, is as long as the earlier request and
has the same digest, and need not be the same.
-/

set_option autoImplicit false

namespace OpenDnp3.Outstation

open OpenDnp3.App OpenDnp3.Library OpenDnp3.Link

/-- Objects that are not told apart. They are the same, or differ in more than two bytes next to
each other. -/
structure SameDigest (one two : List UInt8) : Prop where
  length : one.length = two.length
  digest : CRC.calcCrc one = CRC.calcCrc two
  near : ∀ {position : Nat}, Burst one two position → one = two

theorem sameDigest_of_eq {one two : List UInt8} (length : one.length = two.length)
    (digest : CRC.calcCrc one = CRC.calcCrc two) : SameDigest one two where
  length := length
  digest := digest
  near := by
    intro position burst
    rw [CRC.calcCrc, CRC.calcCrc, UInt16.not_inj] at digest
    exact burst.eq_of_foldl_eq CRC.separates_update 0 digest

/-- An operation is only valid with the number, in the time and with the objects expected. -/
theorem ControlState.valid_of_success {control : ControlState} {seq : AppSeqNum}
    {now timeout : Int} {objects : List UInt8}
    (success : control.validateSelection seq now timeout objects = .success) :
    control.expectedSeq = seq ∧ control.selectTime ≤ now ∧ now - control.selectTime < timeout ∧
      control.length = objects.length ∧ control.digest = CRC.calcCrc objects := by
  rw [validateSelection] at success
  split at success
  · next seq =>
      split at success
      · next notBefore =>
          split at success
          · next elapsed =>
              split at success
              · next same => exact ⟨seq, notBefore, elapsed, same⟩
              · cases success
          · cases success
      · cases success
  · cases success

namespace OContext

/-- Only a request that looks like the one that was processed last is a repeat, and only an
operation that looks like an earlier selection is carried out as one. -/
structure Matches (services : List Service) (context : OContext) : Prop where
  repeats : ∀ {request : ParsedRequest}, context.isRepeat request = true →
    ∃ service, services.getLast? = some service ∧
      service.request.header.control.toByte = request.header.control.toByte ∧
      service.request.header.function = request.header.function ∧
      SameDigest service.request.objects request.objects
  operates : ∀ {seq : AppSeqNum} {now timeout : Int} {objects : List UInt8},
    context.control.validateSelection seq now timeout objects = .success →
      ∃ service ∈ services, service.request.header.function = .select ∧
        SameDigest service.request.objects objects

/-- Where what is compared with comes from. -/
structure Recalls (services : List Service) (context : OContext) : Prop where
  history : context.history.hasLast = true → ∃ service, services.getLast? = some service ∧
    context.history =
      .recordLastProcessedRequest service.request.header service.request.objects
  control : context.control = {} ∨ ∃ service ∈ services,
    service.request.header.function = .select ∧ ∃ seq now,
      context.control = ControlState.select seq now service.request.objects

section Comparing

variable [FloatOps] {environment : Environment} {context after : OContext}
  {services : List Service}

theorem carries_recalls : Carries Recalls where
  same := by
    intro services context after same recalls
    refine ⟨?_, ?_⟩
    · rw [same.history]
      exact recalls.history
    · rw [same.control]
      exact recalls.control
  forgets := by
    intro services context recalls
    refine ⟨?_, recalls.control⟩
    intro has
    cases has
  leaves := by
    intro services service after leaves recalls
    refine ⟨fun _ => ⟨service, List.getLast?_concat .., leaves.history⟩, ?_⟩
    have kept : service.context.control = {} ∨ ∃ other ∈ services ++ [service],
        other.request.header.function = .select ∧ ∃ seq now,
          service.context.control = ControlState.select seq now other.request.objects := by
      obtain none | ⟨other, member, rest⟩ := recalls.control
      · exact .inl none
      · exact .inr ⟨other, List.mem_append_left _ member, rest⟩
    have changes := changes_result service
    rw [leaves.control]
    generalize service.result = result at changes
    cases changes with
    | same same _ => rwa [same.control]
    | write isWrite =>
        rw [handleWrite]
        split <;> exact kept
    | select isSelect control _ =>
        exact .inr ⟨service, List.mem_append_right _ List.mem_cons_self, isSelect, _, _, control⟩
    | record _ _ => exact kept

/-- What is compared with comes from the requests that were processed. -/
theorem recalls_of_serving {addresses : Addresses} {params : OutstationParams}
    {config : EventBufferConfig} {database : DatabaseBuffers}
    (serving : (initial addresses params config database).Serving services context) :
    Recalls services context := by
  refine carries_recalls.serving serving ⟨?_, .inl rfl⟩
  intro has
  cases has

omit [FloatOps] in
theorem Recalls.matches (recalls : Recalls services context) : Matches services context where
  repeats := by
    intro request repeats
    obtain ⟨service, last, history⟩ := recalls.history (isRepeat_hasLast repeats)
    have control := isRepeat_control repeats
    have function := isRepeat_function repeats
    simp only [isRepeat, RequestHistory.fullyEqualsLastRequest, RequestHistory.equalsLastObjects,
      Bool.and_eq_true, beq_iff_eq] at repeats
    obtain ⟨_, _, ⟨_, length⟩, digest⟩ := repeats
    rw [history] at control function length digest
    exact ⟨service, last, control, function, sameDigest_of_eq length digest⟩
  operates := by
    intro seq now timeout objects success
    obtain ⟨_, _, _, same⟩ := ControlState.valid_of_success success
    obtain none | ⟨service, member, isSelect, _, _, control⟩ := recalls.control
    · rw [none] at same
      obtain rfl := List.eq_nil_of_length_eq_zero same.1.symm
      cases same.2
    · rw [control] at same
      exact ⟨service, member, isSelect, sameDigest_of_eq same.1 same.2⟩

/-- In every state that is reached, whatever was processed to reach it. -/
theorem matches_of_reaches {addresses : Addresses} {params : OutstationParams}
    {config : EventBufferConfig} {database : DatabaseBuffers}
    (reached : machine.Reaches (initial addresses params config database) context) :
    (∃ services, (initial addresses params config database).Serving services context) ∧
      ∀ services, (initial addresses params config database).Serving services context →
        Matches services context :=
  ⟨exists_serving_of_reaches reached, fun _ serving => (recalls_of_serving serving).matches⟩

end Comparing

/-- Close the first relay for 100 ms. -/
def pulse : List UInt8 :=
  [0x0C, 0x01, 0x28, 0x01, 0x00, 0x00, 0x00, 0x41, 0x01, 0x64, 0x00, 0x00, 0x00, 0x64, 0x00, 0x00,
    0x00, 0x00]

/-- Close it for 3563109 ms. -/
def longPulse : List UInt8 :=
  [0x0C, 0x01, 0x28, 0x01, 0x00, 0x00, 0x00, 0x41, 0x01, 0x65, 0x5E, 0x36, 0x00, 0x64, 0x00, 0x00,
    0x00, 0x00]

/-- The long pulse is the request that was selected, or carries out the selection. -/
def mistakes (context : OContext) : Bool :=
  context.control = ControlState.select ⟨0⟩ 0 pulse &&
    context.isRepeat ⟨⟨1024, 1⟩, ⟨⟨true, true, false, false, 0⟩, .select⟩, longPulse⟩ &&
    ((@machine .atZero).step context (.accepting, .fragment (0xC1 :: 0x04 :: longPulse))).any
      fun (_, output) => output.contains (.call (.operate .controlRelayOutputBlock
        ⟨⟨0x41, 1, 3563109, 100, .success⟩, 0⟩ .selectBeforeOperate))

/-- A long pulse that was never selected is carried out. -/
theorem exists_mistakes :
    longPulse ≠ pulse ∧ ∃ context : OContext,
      (@machine .atZero).Reaches (onePoint {}) context ∧ context.mistakes = true := by
  refine ⟨by decide, Machine.exists_reaches_of_run [(.accepting, .lowerLayerUp),
    (.accepting, .fragment (0xC0 :: 0x03 :: pulse)), (.accepting, .txReady)] ?_⟩
  decide +kernel

theorem matches_of_reaches_mistakes :
    ∃ context : OContext, ((∃ services, (@Serving .atZero (onePoint {})) services context) ∧
      ∀ services, (@Serving .atZero (onePoint {})) services context → Matches services context) ∧
        context.mistakes = true := by
  obtain ⟨context, reached, mistakes⟩ :=
    @Machine.exists_reaches_of_run _ _ _ (@machine .atZero) (onePoint {}) mistakes
      [(.accepting, .lowerLayerUp), (.accepting, .fragment (0xC0 :: 0x03 :: pulse)),
        (.accepting, .txReady)] (by decide +kernel)
  exact ⟨context, @matches_of_reaches .atZero _ _ _ _ _ reached, mistakes⟩

end OContext

end OpenDnp3.Outstation
