import Compositor.Proofs.Coverage
import Compositor.Proofs.Numbers
import Compositor.Proofs.Provenance
import Compositor.Proofs.Playback.Upkeep

/-!
# Frames that leave nothing behind

A call for a frame that ends before it looks at a layer did nothing but wait. One whose target is
rejected has imported textures and evicted others by then, but it leaves the targets alone, it draws
and submits nothing, and the number that it took is not taken again.
-/

set_option autoImplicit false

namespace Compositor

variable {engine after : Engine}

/-! ## Calls for frames -/

namespace Engine

/-- What a call for a frame comes to, up to its layers. -/
inductive Called (engine : Engine) (request : FrameRequest) :
    Except EngineError FrameOutput × Engine → Prop where
  | lost {after : Engine} : Called engine request (.error .contextLost, after)
  | late {milliseconds : Nat} :
      Called engine request (.error (.fenceTimeout milliseconds), engine.waited request)
  | unavailable : Called engine request (.error .protectedUnavailable, engine.waited request)
  | composed : engine.lost = false → (engine.ready request).lost = false →
      (engine.ready request).contexts.active = request.mode →
      Called engine request ((engine.ready request).compose request)

/-- A switch that leaves the engine alive in another mode than the wanted one did not happen. -/
theorem switchTo_elsewhere {mode : Mode} (alive : (engine.switchTo mode).lost = false)
    (other : (engine.switchTo mode).contexts.active ≠ mode) : engine.switchTo mode = engine := by
  unfold switchTo at alive other ⊢
  split
  · rfl
  · rename_i switches
    have available : engine.contexts.has mode = true := by
      simpa using (not_or.mp (not_or.mp switches).2).2
    rw [if_neg switches] at alive other
    cases outcome : engine.device.finish with
    | mk drained device =>
        rw [outcome] at alive other
        cases drained with
        | false => cases alive
        | true => exact absurd (Contexts.activate_active available) other

theorem draw_called (engine : Engine) (request : FrameRequest) :
    engine.Called request (engine.draw request) := by
  unfold draw
  split
  · exact .lost
  · rename_i alive
    cases outcome : engine.awaitAny request.inputFence with
    | mk signaled waited =>
        have waits : engine.waited request = waited := congrArg Prod.snd outcome
        have switches : engine.ready request = waited.switchTo request.mode := by rw [ready, waits]
        cases signaled with
        | false =>
            rw [← waits]
            exact .late
        | true =>
            dsimp only
            split
            · exact .lost
            · rename_i usable
              split
              · rename_i other
                rw [switchTo_elsewhere (by simpa using usable) other, ← waits]
                exact .unavailable
              · rename_i active
                rw [← switches] at usable active ⊢
                exact .composed (by simpa using alive) (by simpa using usable) (not_not.mp active)

/-- Waiting changes nothing but a device that it loses. -/
theorem waited_harmless {request : FrameRequest}
    (harmless : ∀ fence ∈ request.inputFence, engine.device.fences.isTripwire fence = false) :
    engine.waited request = engine := by
  unfold waited
  cases input : request.inputFence with
  | none => rfl
  | some fence =>
      have untrapped := harmless fence input
      simp [awaitAny, await, Device.await, untrapped]

/-- A call that ends early did nothing but wait. -/
theorem draw_early {request : FrameRequest} {error : EngineError}
    (failed : (engine.draw request).1 = .error error) (early : error.isEarly = true) :
    (engine.draw request).2 = engine.waited request := by
  have called := engine.draw_called request
  generalize engine.draw request = result at called failed
  cases called with
  | lost =>
      cases failed
      cases early
  | late => rfl
  | unavailable => rfl
  | composed =>
      have composed := (engine.ready request).compose_composed request
      generalize (engine.ready request).composeFate request = fate at composed
      generalize (engine.ready request).compose request = result at composed failed
      cases composed with
      | aborted =>
          cases failed
          cases early
      | targeted _ _ _ late => cases (late error failed).symm.trans early

end Engine

/-! ## Rejected frames -/

namespace Engine

variable {request : FrameRequest} {cause : BindError}

/-- Once there is a target, no buffer is to blame. -/
theorem render_not_bind (engine : Engine) (request : FrameRequest) (frame : FrameSeq)
    (plan : FramePlan) (slot : OutputSlot) (cause : BindError) :
    (engine.render request frame plan slot).1 ≠ .error (.bind cause) := by
  intro failed
  unfold render at failed
  cases outcome : Recording.ofDraws engine.device engine.contexts.current slot.handle
      request.display plan.draws with
  | error failure =>
      obtain ⟨error, device⟩ := failure
      rw [outcome] at failed
      cases failed
      rcases Recording.ofDraws_failed outcome with ⟨lost, -⟩ | ⟨_, invalid⟩
      · cases lost
      · cases invalid
  | ok recording =>
      rw [outcome] at failed
      have submitted := ({ engine with device := recording.device }.retire
        slot.owned).submit_submitted frame
      dsimp only at failed
      generalize ({ engine with device := recording.device }.retire slot.owned).submit frame = last
        at submitted failed
      cases submitted <;> cases failed

/-- The stages of a frame whose target is rejected. -/
theorem compose_rejected (failed : (engine.compose request).1 = .error (.bind cause)) :
    ∃ plan targeted,
      FramePlan.lookAll engine.begun engine.begun.progress.lastIssued request.layers = .ok plan ∧
      (plan.engine.evicted plan.active).targetFor request.target engine.begun.progress.lastIssued
        request.usesOutputCache = (.error (.bind cause), targeted) ∧
      (engine.compose request).2 = (targeted.dropFrame (.bind cause)).2 := by
  rw [compose_eq] at failed ⊢
  cases planned : FramePlan.lookAll engine.begun engine.begun.progress.lastIssued
      request.layers with
  | error last =>
      rw [planned] at failed
      cases failed
  | ok plan =>
      rw [planned] at failed
      dsimp only at failed ⊢
      unfold finishFrame at failed ⊢
      cases given : (plan.engine.evicted plan.active).targetFor request.target
          engine.begun.progress.lastIssued request.usesOutputCache with
      | mk answer targeted =>
          rw [given] at failed
          cases answer with
          | error error =>
              cases failed
              exact ⟨plan, targeted, rfl, given, rfl⟩
          | ok slot => exact absurd failed (targeted.render_not_bind request _ plan slot cause)

/-- The switch at the start of a frame submits nothing, and may find submissions complete. -/
structure Switched (before after : Engine) : Prop where
  issued : after.progress.lastIssued = before.progress.lastIssued
  cleaned : after.progress.cleaned = before.progress.cleaned
  inFlight : after.progress.inFlight <:+ before.progress.inFlight
  flushes : after.device.flushes = before.device.flushes
  framesDrawn : after.framesDrawn = before.framesDrawn

theorem switchTo_switched (engine : Engine) (mode : Mode) :
    engine.Switched (engine.switchTo mode) := by
  have progress : (engine.switchTo mode).progress = engine.progress ∨
      (engine.switchTo mode).progress = engine.progress.markIdle := by
    unfold switchTo
    split
    · exact .inl rfl
    · cases engine.device.finish with
      | mk drained device =>
          cases drained with
          | false => exact .inl rfl
          | true => exact .inr rfl
  have flushes := engine.switchTo_counted mode
  have framesDrawn := engine.switchTo_framesDrawn mode
  rcases progress with same | idle
  · exact ⟨by rw [same], by rw [same], by rw [same], flushes, framesDrawn⟩
  · exact ⟨by rw [idle]; rfl, by rw [idle]; rfl, by rw [idle]; exact List.nil_suffix, flushes,
      framesDrawn⟩

theorem ready_switched (engine : Engine) (request : FrameRequest) :
    engine.Switched (engine.ready request) := by
  have keeps := Keeps.awaitAny engine request.inputFence
  have calm := engine.awaitAny_calm request.inputFence
  have framesDrawn := engine.awaitAny_framesDrawn request.inputFence
  have switched := (engine.waited request).switchTo_switched request.mode
  have progress : (engine.waited request).progress = engine.progress := keeps.progress
  refine ⟨?_, ?_, ?_, switched.flushes.trans calm.flushes, switched.framesDrawn.trans framesDrawn⟩
  · rw [← progress]
    exact switched.issued
  · rw [← progress]
    exact switched.cleaned
  · rw [← progress]
    exact switched.inFlight

/-- What is left of a call for a frame whose target was rejected. The targets are those that there
were once the context of the frame was current. -/
structure Rejected (engine : Engine) (request : FrameRequest) (after : Engine) : Prop where
  outputs : after.outputs = (engine.ready request).outputs
  targets : after.device.targets = (engine.ready request).device.targets
  /-- There may have been no switch. -/
  stays : engine.contexts.active = request.mode → engine.ready request = engine
  draws : after.device.draws = engine.device.draws
  flushes : after.device.flushes = engine.device.flushes
  framesDrawn : after.framesDrawn = engine.framesDrawn
  cleaned : after.progress.cleaned = engine.progress.cleaned
  inFlight : after.progress.inFlight <:+ engine.progress.inFlight
  /-- One number was taken, and nothing is being recorded as it. -/
  issued : after.progress.lastIssued = engine.progress.lastIssued.next
  closed : after.progress.recording = none
  usable : after.lost = false ∧ after.device.lost = false

/-- Nothing changed but textures, and the device in so far as they are concerned. -/
structure Prepares (before after : Engine) : Prop where
  keeps : before.Keeps after
  spares : before.Spared after
  deals : before.Deals 0 after
  flushes : after.device.flushes = before.device.flushes
  framesDrawn : after.framesDrawn = before.framesDrawn

theorem Prepares.trans {first second third : Engine} (left : Prepares first second)
    (right : Prepares second third) : Prepares first third :=
  ⟨left.keeps.trans right.keeps, left.spares.trans right.spares, left.deals.trans right.deals,
    right.flushes.trans left.flushes, right.framesDrawn.trans left.framesDrawn⟩

theorem lookAll_prepares {frame : FrameSeq} {layers : List Layer} {plan : FramePlan}
    (planned : FramePlan.lookAll engine frame layers = .ok plan) : engine.Prepares plan.engine := by
  have keeps := FramePlan.looks_keep frame layers.zipIdx (.start engine)
  have spares := FramePlan.looks_spare frame layers.zipIdx (.start engine)
  have deals := FramePlan.looks_deal frame layers.zipIdx (.start engine)
  have calm := FramePlan.looks_calm frame layers.zipIdx (.start engine)
  have framesDrawn := FramePlan.looks_framesDrawn frame layers.zipIdx (.start engine)
  rw [← FramePlan.lookAll.eq_1, planned] at keeps spares deals calm framesDrawn
  exact ⟨keeps, spares, deals, calm.flushes, framesDrawn⟩

theorem evicted_prepares (registered : engine.device.Registered) (tidy : engine.outline.Tidy)
    (active : List BufferId) : engine.Prepares (engine.evicted active) :=
  ⟨.evicted engine active, .evicted registered tidy active, .evicted engine active,
    (engine.evicted_calm active).flushes, rfl⟩

theorem targetFor_prepares {target : Buffer} {frame : FrameSeq} {usesOutputCache : Bool}
    {error : EngineError}
    (modes : ∀ image ∈ engine.outputs.entries, image.mode = engine.contexts.active)
    (refused : engine.targetFor target frame usesOutputCache = (.error error, after)) :
    engine.Prepares after ∧ error.Tells after.device := by
  have keeps := Keeps.targetFor engine target frame usesOutputCache
  have deals := Deals.targetFor engine target frame usesOutputCache
  have calm := engine.targetFor_calm target frame usesOutputCache
  have framesDrawn := engine.targetFor_framesDrawn target frame usesOutputCache
  rw [refused] at keeps deals calm framesDrawn
  obtain ⟨device, refusal, rfl⟩ := targetFor_rejected modes refused
  exact ⟨⟨keeps, ⟨rfl, Device.createTarget_targets refusal⟩, deals, calm.flushes, framesDrawn⟩,
    Device.createTarget_tells refusal⟩

/-- Only a device that is usable rejects a target. -/
theorem targetFor_usable {target : Buffer} {frame : FrameSeq} {usesOutputCache : Bool}
    (refused : (engine.targetFor target frame usesOutputCache).1 = .error (.bind cause)) :
    engine.device.lost = false := by
  have asked := targetFor_asked refused
  have calm := (Device.Calls.createTarget engine.device engine.contexts.current target
    engine.limit).calm
  cases outcome : engine.device.createTarget engine.contexts.current target engine.limit with
  | mk result device =>
      rw [outcome] at asked calm
      cases asked
      rcases Device.createTarget_tells outcome with ⟨lost, -⟩ | ⟨-, usable⟩
      · cases lost
      · exact calm.usable usable

/-- A frame whose target is rejected is given up as it was prepared. -/
theorem compose_abandoned (tidy : engine.Outlined Outline.Tidy)
    (registered : engine.device.Registered)
    (failed : (engine.compose request).1 = .error (.bind cause)) :
    ∃ targeted, engine.begun.Prepares targeted ∧ targeted.device.lost = false ∧
      (engine.compose request).2 = targeted.abandon := by
  obtain ⟨plan, targeted, planned, refused, ends⟩ := compose_rejected failed
  let evicted := plan.engine.evicted plan.active
  have usable : evicted.device.lost = false := targetFor_usable (congrArg Prod.fst refused)
  have plannedUsable := (Deals.evicted plan.engine plan.active).usable usable
  have plannedTidy := (tidy.begun Outline.tidy_closed).lookAll Outline.tidy_closed planned
  have evictedTidy := plannedTidy.evicted Outline.tidy_closed plan.active
  have calls := FramePlan.looks_calls engine.begun.progress.lastIssued request.layers.zipIdx
    (.start engine.begun)
  rw [← FramePlan.lookAll.eq_1, planned] at calls
  have plannedRegistered : plan.engine.device.Registered := registered.effects calls.effects
  have modes : ∀ image ∈ evicted.outputs.entries, image.mode = evicted.contexts.active :=
    fun image member => (evictedTidy usable).targets image.asLive
      (List.mem_map.mpr ⟨image, member, rfl⟩)
  obtain ⟨targeting, tells⟩ := targetFor_prepares modes refused
  rcases tells with ⟨lost, -⟩ | ⟨mild, healthy⟩
  · cases lost
  · refine ⟨targeted, (lookAll_prepares planned).trans
      ((evicted_prepares plannedRegistered (plannedTidy plannedUsable) plan.active).trans
        targeting), healthy, ?_⟩
    rw [ends, dropFrame, mild]
    rfl

theorem draw_rejected (tidy : engine.Outlined Outline.Tidy)
    (registered : engine.device.Registered)
    (failed : (engine.draw request).1 = .error (.bind cause)) :
    engine.Rejected request (engine.draw request).2 := by
  have called := engine.draw_called request
  generalize engine.draw request = result at called failed
  cases called with
  | lost | late | unavailable => cases failed
  | composed alive switched active =>
      have switching := engine.ready_switched request
      have plain := engine.ready_plain request
      have acts : Acts engine (engine.ready request) :=
        (Acts.awaitAny engine request.inputFence).trans
          (Acts.switchTo (engine.waited request) request.mode)
      have waitedTidy : (engine.waited request).Outlined Outline.Tidy := tidy.awaitAny _
      have readyTidy : (engine.ready request).Outlined Outline.Tidy :=
        waitedTidy.switchTo Outline.tidy_closed ((waited_lost engine request).trans alive) _
      obtain ⟨targeted, prepares, usable, ends⟩ :=
        compose_abandoned readyTidy (registered.effects acts.effects) failed
      have progress := prepares.keeps.progress
      have readyUsable : (engine.ready request).device.lost = false := prepares.deals.usable usable
      rw [ends]
      refine ⟨prepares.spares.outputs, prepares.spares.targets, fun same => ?_,
        prepares.deals.dealings.draws.trans plain.draws,
        prepares.flushes.trans switching.flushes,
        prepares.framesDrawn.trans switching.framesDrawn, ?_, ?_, ?_, rfl,
        prepares.keeps.lost.trans switched, usable⟩
      · have waited : engine.waited request = engine := awaitAny_usable
          ((switchTo_plain _ request.mode).usable readyUsable)
        rw [ready, waited]
        exact if_pos (.inl same)
      · exact (congrArg Progress.cleaned progress).trans switching.cleaned
      · have polled : targeted.progress.inFlight <:+ (engine.ready request).progress.inFlight := by
          rw [progress]
          exact List.dropWhile_suffix _
        exact polled.trans switching.inFlight
      · exact (congrArg Progress.lastIssued progress).trans
          (congrArg FrameSeq.next switching.issued)

/-! ## Calls for frames, whatever comes of them -/

/-- A call for a frame that fails leaves nothing half done, and what one that does not fail submits
is its own. -/
structure LeavesNothing (engine : Engine) (request : FrameRequest) : Prop where
  early : ∀ error, (engine.draw request).1 = .error error → error.isEarly = true →
    (engine.draw request).2 = engine.waited request
  /-- The wait itself makes a difference only where it loses the device. -/
  waited : (∀ fence ∈ request.inputFence, engine.device.fences.isTripwire fence = false) →
    engine.waited request = engine
  rejected : ∀ cause, (engine.draw request).1 = .error (.bind cause) →
    engine.Rejected request (engine.draw request).2
  finished : ∀ output, (engine.draw request).1 = .ok output → ∃ target given since earlier,
    engine.Covers request output (engine.draw request).2 target given since earlier

theorem leavesNothing (orderly : engine.Orderly) (tidy : engine.Outlined Outline.Tidy)
    (registered : engine.device.Registered) (delivered : engine.device.Delivered)
    (request : FrameRequest) : engine.LeavesNothing request := by
  refine ⟨fun _ failed early => draw_early failed early, waited_harmless,
    fun _ failed => draw_rejected tidy registered failed, fun output finished => ?_⟩
  refine draw_covers orderly delivered ?_
  rw [← finished]

end Engine

/-! ## Sessions -/

namespace Session

/-- In a session that `incidents` happened to, no call for a frame leaves anything half done to the
engine that is there, and no number is told twice. -/
structure FailsCleanly (session : Session) (incidents : List Incident) (engine : Engine) : Prop where
  frames : ∀ request, engine.LeavesNothing request
  /-- The latest number is the largest one. -/
  numbers : incidents.countP Incident.submits < FrameSeq.last →
    (Entry.numbers (session.diary incidents)).Pairwise (· > ·)
  /-- What is submitted after a frame was rejected never has the number of that frame. -/
  skipped : ∀ earlier request later before cause,
    incidents = (earlier ++ [.act (.draw request)]) ++ later →
    (∀ incident ∈ later, incident.replacesEngine = false) →
    (session.endure earlier).engine? = some before →
    (before.draw request).1 = .error (.bind cause) →
    incidents.countP Incident.submits < FrameSeq.last →
    ∀ number ∈ Entry.numbers ((session.endure (earlier ++ [.act (.draw request)])).diary later),
      before.progress.lastIssued.next < number

/-- A rejected frame is told with the number that it took. -/
theorem diary_rejected {session : Session} {engine : Engine} {request : FrameRequest}
    {cause : BindError} (occupied : session.engine? = some engine)
    (failed : (engine.draw request).1 = .error (.bind cause)) :
    session.diary [.act (.draw request)] = [.dropped (engine.draw request).2.progress.lastIssued] := by
  have stepped : session.step (.draw request) =
      (.frame (.error (.bind cause)), session.setEngine (engine.draw request).2) := by
    rw [← failed]
    simp only [step, script, occupied, operate]
  rw [diary, diaryFrom, diaryFrom, jot, stepped]
  rfl

/-- In every reachable state, also in the company of other users of the device, a call for a frame
either finishes, and then submits its own draws alone, or leaves nothing half done; and numbers only
grow. -/
theorem frames_fail_cleanly (options : DeviceOptions) (capabilities : Capabilities)
    (order : ReleaseOrder) (incidents : List Incident) :
    ∀ engine ∈ ((new (.new options) capabilities order).endure incidents).engine?,
      (new (.new options) capabilities order).FailsCleanly incidents engine := by
  intro engine reached
  have frames : ∀ {incidents : List Incident} {engine : Engine},
      ((new (.new options) capabilities order).endure incidents).engine? = some engine →
      ∀ request, engine.LeavesNothing request := by
    intro incidents engine reached
    have fresh : (new (.new options) capabilities order).device.Registered := .new options
    have empty : (new (.new options) capabilities order).device.Delivered := fun _ => rfl
    have registered := Device.registered_lasting.endure fresh incidents
    have delivered := Device.delivered_lasting.endure empty incidents
    rw [device_of_engine? reached] at registered delivered
    have tidy := (Engine.Outlined.told Outline.tidy_closed).endure_new
      ⟨fun _ _ => trivial, fun _ _ => trivial, fun _ => trivial⟩ trivial incidents reached
    exact Engine.leavesNothing (Engine.orderly_enduring.endure_new incidents reached) tidy
      registered delivered
  refine ⟨frames reached, numbers_decrease _ capabilities order incidents reached, ?_⟩
  intro earlier request later before cause split same occupied failed room number member
  have decreasing := numbers_decrease _ capabilities order incidents reached room
  have told := diary_append (new (.new options) capabilities order) earlier
    [.act (.draw request)] (by simp [Incident.replacesEngine, Action.replacesEngine])
  have issued := ((frames occupied request).rejected cause failed).issued
  rw [diary_rejected occupied failed, issued] at told
  rw [split, diary_append _ _ _ same, told, Entry.numbers, List.filterMap_append] at decreasing
  exact (List.pairwise_append.mp decreasing).2.2 number member _ List.mem_cons_self

/-- The frame samples a buffer, and its target is the buffer with this id. -/
private def frameOnto (target : UInt64) : FrameRequest :=
  ⟨.ofSize 64 64, [.ofBuffer (.plain ⟨1⟩ 8 8) (.ofSize 8 8)], .plain ⟨target⟩ 64 64, true, none⟩

/-- A frame is rejected between a submission and a frame that is finished. The texture that the
rejected one imported is destroyed by someone else. -/
private def rejectedBetween : List Incident :=
  [.act (.start .standard), .act .flush, .act (.rejectImports ⟨9⟩), .act (.draw (frameOnto 9)),
    .meddle .normal ⟨1⟩, .act (.draw (frameOnto 8))]

/-- The rejected frame has the second number of three. -/
theorem frames_fail_cleanly_between :
    (∃ fence last, (new (.new .standard) DeviceOptions.standard.capabilities .byArrival).diary
        rejectedBetween = [.submitted 3 fence, .dropped 2, .submitted 1 last]) ∧
      rejectedBetween.countP Incident.submits < FrameSeq.last ∧
      ∃ engine ∈ ((new (.new .standard) DeviceOptions.standard.capabilities .byArrival).endure
          rejectedBetween).engine?,
        (new (.new .standard) DeviceOptions.standard.capabilities .byArrival).FailsCleanly
          rejectedBetween engine := by
  have occupied : ((new (.new .standard) DeviceOptions.standard.capabilities .byArrival).endure
      rejectedBetween).engine?.isSome = true := by decide
  obtain ⟨engine, reached⟩ := Option.isSome_iff_exists.mp occupied
  exact ⟨⟨⟨1⟩, ⟨0⟩, by decide⟩, by decide, engine, reached,
    frames_fail_cleanly .standard DeviceOptions.standard.capabilities .byArrival rejectedBetween
      engine reached⟩

end Session

end Compositor
