import Compositor.Proofs.Account.Composition
import Compositor.Proofs.Cleanup

/-!
# What operations cost

An operation may have the device drained: in place of a fence that it does not get, before it
changes contexts, and because it was asked to. What it comes to is a bill that callers can check,
given what the device was asked in the meantime. As long as the device is usable, every operation is
fair.
-/

set_option autoImplicit false

namespace Compositor

/-! ## What a device is asked to do -/

namespace DeviceEvent

/-- Holds for the events of submitting and draining. -/
def isBarrier : DeviceEvent → Bool
  | .flushed _ | .finished _ => true
  | _ => false

end DeviceEvent

namespace Device

/-- In between, contexts were asked `drains` times to drain the device, and `bare` tells whether a
flush gave no fence. -/
structure Toll (before after : Device) (drains : Nat) (bare : Bool) : Prop where
  events : ∃ added : History, after.events = added ++ before.events ∧
    added.countP DeviceEvent.isFinish = drains ∧ added.contains (.flushed none) = bare

/-- In between, the device was not asked to drain, and every flush gave a fence. -/
abbrev Free (before after : Device) : Prop := Toll before after 0 false

namespace Toll

variable {first second third : Device} {drains more : Nat} {bare last : Bool}

theorem trans (left : Toll first second drains bare) (right : Toll second third more last) :
    Toll first third (more + drains) (last || bare) := by
  obtain ⟨early, earlyEvents, rfl, rfl⟩ := left
  obtain ⟨late, lateEvents, rfl, rfl⟩ := right
  refine ⟨late ++ early, ?_, List.countP_append, ?_⟩
  · rw [lateEvents, earlyEvents, List.append_assoc]
  · simp [Bool.decide_or]

theorem before (left : Free first second) (right : Toll second third drains bare) :
    Toll first third drains bare := by
  have both := left.trans right
  rwa [Nat.add_zero, Bool.or_false] at both

theorem after (left : Toll first second drains bare) (right : Free second third) :
    Toll first third drains bare := by
  have both := left.trans right
  rwa [Nat.zero_add, Bool.false_or] at both

theorem finishes (toll : Toll first second drains bare) :
    second.finishes = first.finishes + drains := by
  obtain ⟨added, events, rfl, -⟩ := toll
  rw [Device.finishes, events, List.countP_append, Nat.add_comm]
  rfl

theorem bare_eq (toll : Toll first second drains bare) :
    (second.eventsSince first.events.length).contains (.flushed none) = bare := by
  obtain ⟨added, events, -, rfl⟩ := toll
  rw [eventsSince_append events]
  simp

end Toll

namespace Free

variable {before after : Device} {event : DeviceEvent}

theorem refl (device : Device) : Free device device := ⟨[], rfl, rfl, rfl⟩

theorem untold (events : after.events = before.events) : Free before after :=
  ⟨[], events, rfl, rfl⟩

theorem told (plain : event.isBarrier = false) (events : after.events = event :: before.events) :
    Free before after := by
  refine ⟨[event], events, ?_, ?_⟩
  · cases event <;> first | rfl | cases plain
  · cases event <;> first | rfl | cases plain

variable (device : Device)

theorem lose : Free device device.lose := by
  have settled : Free device (device.settle .error device.pending) := told rfl rfl
  exact settled.after (told rfl rfl)

theorem signalNext : Free device device.signalNext.2 := by
  unfold Device.signalNext
  split
  · exact refl device
  · exact told rfl rfl

theorem arrive (call : ContextCall) : Free device (device.arrive call) := by
  have counted : Free device (device.countDown call) := untold rfl
  unfold Device.arrive
  dsimp only
  split
  · exact counted.after (lose _)
  · exact counted

theorem answer (mode : Mode) (kind : ImageKind) (request : ImportRequest) :
    Free device (device.answer mode kind request).2 := by
  have asked : Free device (device.log (.requested mode kind request)) := told rfl rfl
  have answers := answer_answered device mode kind request
  generalize device.answer mode kind request = answered at answers ⊢
  cases answers with
  | lost | rejected => exact asked
  | made => exact asked.after (told rfl rfl)

theorem acceptDestroy (mode : Mode) (handle : ImageHandle) :
    Free device (device.acceptDestroy mode handle) := by
  have handed : Free device (device.log (.handed mode .destroy [handle])) := told rfl rfl
  unfold Device.acceptDestroy release
  split <;> exact handed.after (told rfl rfl)

theorem ofUse {mode : Mode} {use : ImageUse} {handles : List ImageHandle}
    {found : Option Misuse} {refusal : EngineError}
    {answered : Except EngineError Unit × Device}
    (answers : before.UseAnswered mode use handles found refusal event answered)
    (plain : event.isBarrier = false) : Free before answered.2 := by
  have handed : Free before (before.log (.handed mode use handles)) := told rfl rfl
  cases answers with
  | lost => exact handed
  | misused => exact handed.after (told rfl rfl)
  | done => exact handed.after (told plain rfl)

theorem await (fence : Fence) : Free device (device.await fence).2 := by
  unfold Device.await
  dsimp only
  split
  · exact lose device
  · exact refl device

end Free

theorem Call.free {before after : Device} (call : Call before after) : Free before after := by
  cases call with
  | checkLost => exact .arrive before .checkLost
  | importBuffer => exact (Free.arrive before .importBuffer).after (.answer _ _ _ _)
  | createOutputImage => exact (Free.arrive before .createOutputImage).after (.answer _ _ _ _)
  | destroyImage => exact (Free.arrive before .destroyImage).after (.acceptDestroy _ _ _)
  | beginFrame =>
      exact (Free.arrive before .beginFrame).after (.ofUse (acceptBegin_answered _ _ _) rfl)
  | drawLayer =>
      exact (Free.arrive before .drawLayer).after (.ofUse (acceptDraw_answered _ _ _ _) rfl)
  | await => exact .await before _

theorem Calls.free {before after : Device} (calls : Calls before after) : Free before after := by
  induction calls with
  | refl => exact .refl before
  | tail _ call ih => exact ih.after call.free

theorem Flushes.toll {before after : Device} {given : Option Fence}
    (flushes : Flushes before given after) : Toll before after 0 given.isNone := by
  cases flushes with
  | unfenced => exact ⟨[.flushed none], rfl, rfl, rfl⟩
  | signaled => exact ⟨[.settled .signaled _, .flushed (some _)], rfl, rfl, rfl⟩
  | waiting => exact ⟨[.flushed (some _)], rfl, rfl, rfl⟩

theorem flush_toll (device : Device) : Toll device device.flush.2 0 device.flush.1.isNone :=
  .before (.arrive device .flush) (acceptFlush_flushes _).toll

theorem finish_toll (device : Device) : Toll device device.finish.2 1 false := by
  have accepted : Toll (device.arrive .finish) device.finish.2 1 false := by
    unfold finish acceptFinish
    split
    · exact ⟨[.finished false], rfl, rfl, rfl⟩
    · exact ⟨[.settled .signaled _, .finished true], rfl, rfl, rfl⟩
  exact .before (.arrive device .finish) accepted

end Device

/-! ## Submissions -/

namespace Strategy

/-- Whether a submission drains the device, where `bare` tells whether the flush gave no fence. -/
def drains : Strategy → Bool → Bool
  | .fenceGated, bare => bare
  | .blockingFinish, _ => true

variable {device after : Device} {progress next : Progress} {frame : FrameSeq} {fence : Fence}

theorem submitDrained_toll
    (submitted : submitDrained device progress frame = (.ok fence, next, after)) :
    Device.Toll device after 1 false ∧ after.fences.isSignaled fence = true := by
  have finished := device.finish_toll
  cases drained : device.finish.1 with
  | false =>
      rw [submitDrained_failed progress frame drained] at submitted
      cases submitted
  | true =>
      rw [submitDrained_done progress frame drained] at submitted
      cases submitted
      refine ⟨finished.after (.untold rfl), ?_⟩
      simp [Fences.isSignaled, Fences.status, Fences.create, Device.nextFence]

/-- Without fences, a submission ends with a fence that has signaled. -/
theorem submit_toll {strategy : Strategy}
    (submitted : strategy.submit device progress frame = (.ok fence, next, after)) :
    (∃ bare, Device.Toll device after (strategy.drains bare).toNat bare) ∧
      (strategy = .blockingFinish → after.fences.isSignaled fence = true) := by
  have flushing := device.flush_toll
  unfold submit at submitted
  cases flushed : device.flush with
  | mk given ready =>
      rw [flushed] at submitted flushing
      cases strategy with
      | blockingFinish =>
          obtain ⟨toll, signaled⟩ := submitDrained_toll submitted
          exact ⟨⟨_, flushing.trans toll⟩, fun _ => signaled⟩
      | fenceGated =>
          refine ⟨?_, nofun⟩
          cases given with
          | some given =>
              cases submitted
              exact ⟨false, flushing⟩
          | none =>
              have call : Device.Call ready ready.checkLost.2 := .checkLost
              have asking := flushing.after call.free
              dsimp only at submitted
              cases asked : ready.checkLost with
              | mk lost known =>
                  rw [asked] at submitted asking
                  cases lost with
                  | true => cases submitted
                  | false =>
                      obtain ⟨toll, -⟩ := submitDrained_toll submitted
                      exact ⟨true, asking.trans toll⟩

end Strategy

/-! ## Operations -/

namespace Engine

variable {engine : Engine}

theorem submit_toll {after : Engine} {frame : FrameSeq} {fence : Fence}
    (submitted : engine.submit frame = (.ok fence, after)) :
    (∃ bare, Device.Toll engine.device after.device (engine.strategy.drains bare).toNat bare) ∧
      (engine.strategy = .blockingFinish → after.device.fences.isSignaled fence = true) := by
  unfold submit at submitted
  cases outcome : engine.strategy.submit engine.device engine.progress frame with
  | mk result rest =>
      rw [outcome] at submitted
      cases result with
      | error error => cases submitted
      | ok given =>
          cases submitted
          exact Strategy.submit_toll outcome

/-- As long as the device is usable, a success costs one submission, and a failure nothing. -/
structure Submits {α : Type} (engine : Engine) (result : Except EngineError α × Engine) : Prop where
  paid : result.2.device.lost = false → ∃ bare, Device.Toll engine.device result.2.device
    (result.1.isOk && engine.strategy.drains bare).toNat bare

namespace Submits

variable {α : Type} {result : Except EngineError α × Engine} {earlier : Engine}

theorem after (submits : engine.Submits result) (free : Device.Free earlier.device engine.device)
    (strategy : engine.strategy = earlier.strategy) : earlier.Submits result := by
  constructor
  intro usable
  obtain ⟨bare, toll⟩ := submits.paid usable
  rw [strategy] at toll
  exact ⟨bare, .before free toll⟩

theorem failed {error : EngineError} {after : Engine}
    (free : Device.Free engine.device after.device) :
    @Submits α engine (.error error, after) :=
  ⟨fun _ => ⟨false, free⟩⟩

end Submits

theorem submit_submits (engine : Engine) (frame : FrameSeq) :
    engine.Submits (engine.submit frame) := by
  constructor
  intro usable
  have submitted := engine.submit_submitted frame
  cases outcome : engine.submit frame with
  | mk result after =>
      rw [outcome] at usable submitted
      cases result with
      | error error =>
          cases submitted with
          | lost lost => exact absurd (lost.symm.trans usable) (by simp)
      | ok fence => exact (submit_toll outcome).1

theorem dropFrame_free (engine : Engine) (error : EngineError) :
    Device.Free engine.device (engine.dropFrame error).2.device := by
  unfold dropFrame noteFailure
  split <;> exact .refl _

theorem render_submits (engine : Engine) (request : FrameRequest) (frame : FrameSeq)
    (plan : FramePlan) (slot : OutputSlot) :
    engine.Submits (engine.render request frame plan slot) := by
  have recorded := Recording.ofDraws_calls engine.device engine.contexts.current slot.handle
    request.display plan.draws
  unfold render
  cases outcome : Recording.ofDraws engine.device engine.contexts.current slot.handle
      request.display plan.draws with
  | error failure =>
      obtain ⟨error, device⟩ := failure
      rw [outcome] at recorded
      have dropped := recorded.free.after (dropFrame_free { engine with device } error)
      exact .failed (dropped.after (retire_calls _ slot.owned).free)
  | ok recording =>
      rw [outcome] at recorded
      let ready := { engine with device := recording.device }.retire slot.owned
      have submits := ready.submit_submits frame
      have free := recorded.free.after (retire_calls { engine with device := recording.device }
        slot.owned).free
      dsimp only
      cases final : ready.submit frame with
      | mk result after =>
          rw [final] at submits
          cases result with
          | error error => exact ⟨(submits.after free rfl).paid⟩
          | ok fence => exact ⟨(submits.after free rfl).paid⟩

/-- Planning a frame and finding its target keep the number of the frame and the strategy. -/
theorem targeted_keeps {request : FrameRequest} {plan : FramePlan}
    (planned : FramePlan.lookAll engine.begun engine.begun.progress.lastIssued request.layers =
      .ok plan) :
    engine.begun.Keeps ((plan.engine.evicted plan.active).targetFor request.target
      engine.begun.progress.lastIssued request.usesOutputCache).2 := by
  have keeps := FramePlan.looks_keep engine.begun.progress.lastIssued request.layers.zipIdx
    (.start engine.begun)
  rw [← FramePlan.lookAll.eq_1, planned] at keeps
  exact keeps.trans ((Keeps.evicted plan.engine plan.active).trans
    (.targetFor _ request.target engine.begun.progress.lastIssued request.usesOutputCache))

theorem compose_submits (engine : Engine) (request : FrameRequest) :
    engine.Submits (engine.compose request) := by
  have looked := FramePlan.looks_calls engine.begun.progress.lastIssued request.layers.zipIdx
    (.start engine.begun)
  rw [← FramePlan.lookAll.eq_1] at looked
  rw [compose_eq]
  cases planned : FramePlan.lookAll engine.begun engine.begun.progress.lastIssued
      request.layers with
  | error last =>
      rw [planned] at looked
      exact .failed (looked.free.after (dropFrame_free last .contextLost))
  | ok plan =>
      rw [planned] at looked
      have calls : Device.Calls _ _ := looked.trans ((plan.engine.evicted_calls plan.active).trans
        (targetFor_calls _ request.target engine.begun.progress.lastIssued
          request.usesOutputCache))
      have kept := targeted_keeps planned
      dsimp only
      unfold finishFrame
      cases given : (plan.engine.evicted plan.active).targetFor request.target
          engine.begun.progress.lastIssued request.usesOutputCache with
      | mk answer targeted =>
          rw [given] at calls kept
          cases answer with
          | error error => exact .failed (calls.free.after (dropFrame_free targeted error))
          | ok slot =>
              exact (targeted.render_submits request _ plan slot).after calls.free kept.strategy

/-- A switch drains the device once, and nothing else about contexts does. -/
theorem switchTo_toll (engine : Engine) (mode : Mode)
    (usable : (engine.switchTo mode).device.lost = false) :
    Device.Toll engine.device (engine.switchTo mode).device
      (decide ((engine.switchTo mode).contexts.active ≠ engine.contexts.active)).toNat false := by
  have finished := engine.device.finish_toll
  unfold switchTo at usable ⊢
  split
  · simp only [ne_eq, not_true_eq_false, decide_false]
    exact Device.Free.refl _
  · rename_i switches
    rw [if_neg switches] at usable
    simp only [not_or, not_not] at switches
    obtain ⟨other, -, available⟩ := switches
    cases drained : engine.device.finish with
    | mk answer device =>
        rw [drained] at finished usable
        cases answer with
        | false =>
            have lost := Device.finish_failed (congrArg Prod.fst drained)
            rw [drained] at lost
            exact absurd (lost.symm.trans usable) (by simp)
        | true =>
            let idle : Engine := { engine with device, progress := engine.progress.markIdle }
            have emptied : Device.Calls _ _ :=
              idle.emptyCaches_calls.trans (collect_calls idle.emptyCaches)
            have active : (engine.contexts.activate mode).active ≠ engine.contexts.active := by
              rw [Contexts.activate_active available]
              exact Ne.symm other
            have paid := finished.after emptied.free
            rw [← Bool.toNat_true, ← decide_eq_true active] at paid
            exact paid

end Engine

/-! ## What callers see -/

/-- An operation of an engine, with what it was called for and what came of it. -/
structure OperationRecord where
  before : Engine
  action : Action
  outcome : Outcome
  after : Engine

namespace OperationRecord

/-- The fence that a frame or a flush returned. -/
def fence? (record : OperationRecord) : Option Fence :=
  match record.outcome with
  | .frame (.ok output) => some output.fence
  | .flushed (.ok fence) => some fence
  | _ => none

/-- Whether the device was flushed without giving a fence. -/
def flushedBare (record : OperationRecord) : Bool :=
  (record.after.device.eventsSince record.before.device.events.length).contains
    (.flushed none)

/-- A frame or a flush succeeded, and its strategy got no fence that it could use. -/
def isUnfenced (record : OperationRecord) : Bool :=
  record.fence?.isSome && record.before.strategy.drains record.flushedBare

/-- The engine changed contexts. -/
def switches (record : OperationRecord) : Bool :=
  record.after.contexts.active ≠ record.before.contexts.active

/-- The engine was asked to drain its device. -/
def finishes (record : OperationRecord) : Bool := record.action = .finish

/-- How often the device should be drained, if `bare` tells whether a flush gave no fence. -/
def bill (record : OperationRecord) (bare : Bool) : Nat :=
  (record.fence?.isSome && record.before.strategy.drains bare).toNat +
    record.switches.toNat + record.finishes.toNat

/-- As long as the device is usable, it is drained as often as it should be. -/
def Fair (record : OperationRecord) : Prop :=
  record.after.device.lost = false → ∃ bare,
    Device.Toll record.before.device record.after.device (record.bill bare) bare

variable {record : OperationRecord}

/-- An operation that returns no fence owes nothing for a submission. -/
theorem bill_silent (silent : record.fence? = none) (other : record.action ≠ .finish)
    (bare : Bool) : record.bill bare = record.switches.toNat := by
  simp [bill, silent, finishes, other]

theorem bill_stay (contexts : record.after.contexts = record.before.contexts)
    (bare : Bool) : record.bill bare =
      (record.fence?.isSome && record.before.strategy.drains bare).toNat +
        record.finishes.toNat := by
  simp [bill, switches, contexts]

theorem Fair.of_free (free : Device.Free record.before.device record.after.device)
    (silent : record.fence? = none)
    (contexts : record.after.contexts = record.before.contexts)
    (other : record.action ≠ .finish) : record.Fair := by
  intro _
  refine ⟨false, ?_⟩
  rw [bill_silent silent other, switches, contexts]
  simpa using free

end OperationRecord

namespace Engine

variable {engine : Engine} {recorded : List ImageHandle}

theorem fair_of_drawn {request : FrameRequest} {result : Except EngineError FrameOutput × Engine}
    (paid : result.2.device.lost = false → ∃ bare,
      Device.Toll engine.device result.2.device
        ((result.1.isOk && engine.strategy.drains bare).toNat +
          (decide (result.2.contexts.active ≠ engine.contexts.active)).toNat) bare) :
    OperationRecord.Fair ⟨engine, .draw request, .frame result.1, result.2⟩ := by
  intro usable
  obtain ⟨bare, toll⟩ := paid usable
  refine ⟨bare, ?_⟩
  obtain ⟨answer, after⟩ := result
  cases answer <;> exact toll

/-- A frame pays for its switch and for its submission. -/
theorem draw_fair (engine : Engine) (request : FrameRequest) :
    OperationRecord.Fair ⟨engine, .draw request, .frame (engine.draw request).1,
      (engine.draw request).2⟩ := by
  have waiting := (engine.awaitAny_calls request.inputFence).free
  have same := engine.awaitAny_eq request.inputFence
  refine fair_of_drawn ?_
  unfold draw
  split
  · intro _
    refine ⟨false, ?_⟩
    simpa [Except.isOk, Except.toBool] using Device.Free.refl engine.device
  · cases outcome : engine.awaitAny request.inputFence with
    | mk signaled waited =>
        rw [outcome] at waiting same
        have contexts : waited.contexts = engine.contexts := (congrArg contexts same :)
        cases signaled with
        | false =>
            intro _
            refine ⟨false, ?_⟩
            simpa [Except.isOk, Except.toBool, contexts] using waiting
        | true =>
            have switching (usable : (waited.switchTo request.mode).device.lost = false) :=
              Device.Toll.before waiting (waited.switchTo_toll request.mode usable)
            rw [contexts] at switching
            have submits := (waited.switchTo request.mode).compose_submits request
            obtain ⟨_, deals, -⟩ := (waited.switchTo request.mode).compose_composes request
            have strategy : (waited.switchTo request.mode).strategy = engine.strategy :=
              (Carries.switchTo waited request.mode).strategy.trans (congrArg strategy same :)
            dsimp only
            split
            · intro usable
              refine ⟨false, ?_⟩
              simpa [Except.isOk, Except.toBool] using switching usable
            · split
              · intro usable
                refine ⟨false, ?_⟩
                simpa [Except.isOk, Except.toBool] using switching usable
              · intro usable
                obtain ⟨bare, toll⟩ := submits.paid usable
                have both := (switching (deals.usable usable)).trans toll
                rw [Bool.or_false, strategy] at both
                rw [deals.contexts]
                exact ⟨bare, both⟩

theorem flush_fair (engine : Engine) :
    OperationRecord.Fair ⟨engine, .flush, .flushed engine.flush.1, engine.flush.2⟩ := by
  unfold flush
  split
  · exact .of_free (.refl _) rfl rfl nofun
  · let begun : Engine := { engine with progress := engine.progress.begin }
    have submits := begun.submit_submits begun.progress.lastIssued
    have contexts : (begun.submit begun.progress.lastIssued).2.contexts = engine.contexts :=
      (Deals.submit begun begun.progress.lastIssued).contexts
    intro usable
    obtain ⟨bare, toll⟩ := submits.paid usable
    refine ⟨bare, ?_⟩
    rw [OperationRecord.bill_stay contexts]
    dsimp only
    cases outcome : begun.submit begun.progress.lastIssued with
    | mk result after =>
        rw [outcome] at toll
        cases result <;> exact toll

theorem setProtected_fair (engine : Engine) (wantsSecure : Bool) :
    OperationRecord.Fair ⟨engine, .setProtected wantsSecure,
      .flag (engine.setProtected wantsSecure).1, (engine.setProtected wantsSecure).2⟩ := by
  intro usable
  refine ⟨false, ?_⟩
  rw [OperationRecord.bill_silent (by rfl) (by nofun)]
  exact engine.switchTo_toll (.ofProtected wantsSecure) usable

theorem bind_free (engine : Engine) (buffer : Buffer) :
    Device.Free engine.device (engine.bind buffer).2.device := by
  unfold bind
  split
  · exact .refl _
  · have bound := (engine.poll.bindTexture_calls buffer).free
    cases outcome : engine.poll.bindTexture buffer with
    | mk result after =>
        rw [outcome] at bound
        cases result with
        | ok handle => exact bound
        | error cause =>
            dsimp only
            unfold noteFailure
            split <;> exact bound

/-- An engine that works without fences has nothing left to drain for in a cleanup. -/
theorem cleanup_free (usable : engine.lost = false)
    (rested : Moment.Rested ⟨engine, [], recorded⟩)
    (landed : engine.strategy = .blockingFinish → engine.progress.inFlight = []) :
    Device.Free engine.device engine.cleanup.2.device := by
  cases strategy : engine.strategy with
  | fenceGated =>
      rw [cleanup_gated strategy]
      split
      · exact (collect_calls engine.poll).free
      · exact (collect_calls { engine.poll with progress := engine.poll.progress.setCleaned }).free
  | blockingFinish =>
      have closed : engine.progress.recording = none := (rested.closed usable).1
      have idle : engine.progress.isIdle = true := by
        simp [Progress.isIdle, closed, landed strategy]
      rw [cleanup_blocking strategy, if_pos idle]
      split
      · exact (collect_calls engine).free
      · exact (collect_calls { engine with progress := engine.progress.setCleaned }).free

theorem finish_drains (usable : engine.lost = false) :
    Device.Toll engine.device engine.finish.2.device 1 false := by
  have finished := engine.device.finish_toll
  unfold finish
  rw [if_neg (by simp [usable])]
  cases outcome : engine.device.finish with
  | mk drained device =>
      rw [outcome] at finished
      cases drained <;> exact finished

theorem operate_fair (rested : Moment.Rested ⟨engine, [], recorded⟩)
    (landed : engine.strategy = .blockingFinish → engine.progress.inFlight = [])
    {action : Action} {outcome : Outcome} {after : Engine}
    (operated : Session.operate engine action = some (outcome, after)) :
    OperationRecord.Fair ⟨engine, action, outcome, after⟩ := by
  have contexts (neutral : action.choosesMode = false) : after.contexts = engine.contexts :=
    (Session.operate_leads operated neutral rested).contexts
  have alive (usable : engine.device.lost = false) : engine.lost = false := by
    by_contra lost
    rw [Bool.not_eq_false] at lost
    exact absurd ((rested.paced.lost lost).symm.trans usable) (by simp)
  cases action with
  | draw request =>
      cases operated
      exact engine.draw_fair request
  | setProtected wantsSecure =>
      cases operated
      exact engine.setProtected_fair wantsSecure
  | flush =>
      cases operated
      exact engine.flush_fair
  | bind buffer =>
      cases operated
      exact .of_free (engine.bind_free buffer) rfl (contexts rfl) nofun
  | unbind buffer =>
      cases operated
      exact .of_free (retire_calls { engine.poll with textures := _ } _).free rfl
        (contexts rfl) nofun
  | invalidate buffer =>
      cases operated
      exact .of_free (retire_calls { engine.poll with outputs := _ } _).free rfl
        (contexts rfl) nofun
  | await fence =>
      cases operated
      exact .of_free (.await engine.device fence) rfl (contexts rfl) nofun
  | watchTracer elapsed =>
      cases operated
      exact .of_free (.refl _) rfl (contexts rfl) nofun
  | cleanup =>
      cases operated
      intro usable
      have free := cleanup_free (alive (engine.cleanup_plain.usable usable)) rested landed
      exact OperationRecord.Fair.of_free free rfl (contexts rfl) nofun usable
  | finish =>
      cases operated
      intro usable
      have live := alive (engine.finish_plain.usable usable)
      refine ⟨false, ?_⟩
      rw [OperationRecord.bill_stay (contexts rfl)]
      exact finish_drains live
  | _ => cases operated

end Engine

namespace Engine

variable {engine after : Engine}

/-- Without fences, whatever is submitted has completed when its fence is given. -/
theorem flush_signaled (blocking : engine.strategy = .blockingFinish) {fence : Fence}
    (flushed : engine.flush = (.ok fence, after)) :
    after.device.fences.isSignaled fence = true := by
  unfold flush at flushed
  split at flushed
  · cases flushed
  · exact (submit_toll flushed).2 blocking

theorem Composition.signaled {request : FrameRequest} {output : FrameOutput}
    (composition : engine.Composition request output after)
    (blocking : engine.strategy = .blockingFinish) :
    after.device.fences.isSignaled output.fence = true := by
  cases composition with
  | @staged plan slot targeted submitted recording fence planned given recorded final =>
      have kept := targeted_keeps planned
      rw [given] at kept
      exact (submit_toll final).2 (kept.strategy.trans blocking)

theorem operate_signaled {action : Action} {outcome : Outcome}
    (operated : Session.operate engine action = some (outcome, after))
    (blocking : engine.strategy = .blockingFinish) :
    ∀ fence ∈ OperationRecord.fence? ⟨engine, action, outcome, after⟩,
      after.device.fences.isSignaled fence = true := by
  intro fence returned
  cases action with
  | draw request =>
      cases drawn : engine.draw request with
      | mk result drawnAfter =>
          simp only [Session.operate, drawn] at operated
          cases operated
          cases result with
          | error error => cases returned
          | ok output =>
              cases returned
              obtain ⟨-, -, -, composition⟩ := draw_composition drawn
              have strategy : (engine.ready request).strategy = engine.strategy :=
                (Carries.switchTo (engine.waited request) request.mode).strategy.trans
                  (Keeps.awaitAny engine request.inputFence).strategy
              exact composition.signaled (strategy.trans blocking)
  | flush =>
      cases flushed : engine.flush with
      | mk result flushedAfter =>
          simp only [Session.operate, flushed] at operated
          cases operated
          cases result with
          | error error => cases returned
          | ok given =>
              cases returned
              exact flush_signaled blocking flushed
  | _ => cases operated <;> cases returned

end Engine

end Compositor
