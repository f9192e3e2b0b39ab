import Compositor.Proofs.Endings
import Compositor.Proofs.Shelf.Planning

/-!
# Textures over a frame

Once its layers were looked at, a frame evicts what they do not sample and leaves textures alone from
then on, however it ends. So what a call for a frame leaves in stock depends only on how far it got:
before any layer was looked at, while the layers were, or on to making the target.
-/

set_option autoImplicit false

namespace Compositor

variable {engine : Engine}

/-- Only a call for a frame that stopped before it looked at a layer fails like this. -/
def EngineError.isEarly : EngineError → Bool
  | .fenceTimeout _ | .protectedUnavailable => true
  | _ => false

theorem EngineError.isEarly_of_isFatal {error : EngineError} (fatal : error.isFatal = true) :
    error.isEarly = false := by
  cases error <;> first | rfl | cases fatal

/-! ## After the eviction -/

namespace Recording

variable {mode : Mode} {target : ImageHandle} {start : Device}

/-- Recording had no part in textures, whatever came of it. -/
def Bypasses (start : Device) : Except (EngineError × Device) Recording → Prop
  | .error (error, device) => error.isEarly = false ∧ ∀ shelf, start.Imports shelf [] device
  | .ok recording => ∀ shelf, start.Imports shelf [] recording.device

theorem add_bypasses {recording : Recording} (planned : PlannedDraw)
    (bypasses : ∀ shelf, start.Imports shelf [] recording.device) :
    Bypasses start (recording.add mode target planned) := by
  have drawn := fun shelf => (bypasses shelf).after_quiet
    (.drawLayer recording.device mode target planned.source planned.layer shelf)
  unfold add
  cases outcome : recording.device.drawLayer mode target planned.source planned.layer with
  | mk result device =>
      rw [outcome] at drawn
      cases result with
      | ok => exact drawn
      | error error =>
          dsimp only
          split
          · rename_i fatal
            exact ⟨EngineError.isEarly_of_isFatal fatal, drawn⟩
          · exact drawn

theorem adds_bypass (draws : List PlannedDraw) {recording : Recording}
    (bypasses : ∀ shelf, start.Imports shelf [] recording.device) :
    Bypasses start (draws.foldlM (add mode target) recording) := by
  induction draws generalizing recording with
  | nil => exact bypasses
  | cons planned draws ih =>
      have first : Bypasses start (recording.add mode target planned) :=
        add_bypasses planned bypasses
      rw [List.foldlM_cons]
      cases outcome : recording.add mode target planned with
      | error failure =>
          rw [outcome] at first
          exact first
      | ok next =>
          rw [outcome] at first
          exact ih first

theorem beginFrame_error {display : Display} {error : EngineError}
    (refused : (start.beginFrame mode target display).1 = .error error) :
    error.isEarly = false := by
  have answers := Device.acceptBegin_answered (start.arrive .beginFrame) mode target
  unfold Device.beginFrame at refused
  generalize (start.arrive .beginFrame).acceptBegin mode target = answered at answers refused
  cases answers with
  | lost | misused =>
      cases refused
      rfl
  | done => cases refused

theorem ofDraws_bypasses (display : Display) (draws : List PlannedDraw) :
    Bypasses start (ofDraws start mode target display draws) := by
  have begun := Device.Plain.beginFrame start mode target display
  unfold ofDraws
  cases outcome : start.beginFrame mode target display with
  | mk result after =>
      rw [outcome] at begun
      cases result with
      | error error =>
          exact ⟨beginFrame_error (by rw [outcome]), fun _ => .of_plain begun⟩
      | ok => exact adds_bypass draws fun _ => .of_plain begun

end Recording

namespace OutputCache

variable {state : Type} {cache : OutputCache} {buffer : BufferId} {mode : Mode}
  {create : state → Except EngineError Image × state} {initial : state}

/-- Only making a target touches the state. -/
theorem getOrCreate_state :
    (cache.getOrCreate buffer mode create initial).state = initial ∨
      (cache.getOrCreate buffer mode create initial).state = (create initial).2 := by
  cases hit : cache.hit? buffer mode with
  | some image => exact .inl (congrArg Outcome.state (getOrCreate_hit hit))
  | none =>
      refine .inr ?_
      unfold getOrCreate
      rw [hit]
      cases create initial with
      | mk result final =>
          cases result with
          | error error => rfl
          | ok image =>
              dsimp only
              split <;> rfl

/-- Without a target there is only the failure to make one. -/
theorem getOrCreate_error {error : EngineError}
    (refused : (cache.getOrCreate buffer mode create initial).slot = .error error) :
    (create initial).1 = .error error := by
  unfold getOrCreate at refused
  cases hit : cache.hit? buffer mode with
  | some image =>
      rw [hit] at refused
      cases refused
  | none =>
      rw [hit] at refused
      cases created : create initial with
      | mk result final =>
          rw [created] at refused
          cases result with
          | error cause =>
              cases refused
              rfl
          | ok image =>
              dsimp only at refused
              split at refused <;> cases refused

end OutputCache

namespace Engine

namespace Bypasses

theorem noteFailure (engine : Engine) (isFatal : Bool) :
    Bypasses engine (engine.noteFailure isFatal) := by
  cases isFatal <;> exact of_plain (.refl _) rfl rfl

theorem dropFrame (engine : Engine) (error : EngineError) :
    Bypasses engine (engine.dropFrame error).2 :=
  (of_plain (.refl _) rfl rfl : Bypasses engine engine.abandon).trans (.noteFailure _ _)

theorem submit (engine : Engine) (frame : FrameSeq) : Bypasses engine (engine.submit frame).2 := by
  have plain := engine.submit_plain frame
  unfold Engine.submit at plain ⊢
  cases outcome : engine.strategy.submit engine.device engine.progress frame with
  | mk result rest =>
      rw [outcome] at plain
      cases result <;> exact of_plain plain rfl rfl

/-- Targets changed, and images are retired. -/
theorem retarget {device : Device} (imports : ∀ shelf, engine.device.Imports shelf [] device)
    (outputs : OutputCache) (images : List Image) :
    Bypasses engine ({ engine with outputs, device }.retire images) :=
  (⟨rfl, rfl, imports⟩ : Bypasses engine { engine with outputs, device }).trans (.retire _ images)

end Bypasses

theorem createTarget_not_early {device : Device} {mode : Mode} {buffer : Buffer}
    {limit : UInt32} {error : EngineError}
    (refused : (device.createTarget mode buffer limit).1 = .error error) :
    error.isEarly = false := by
  rcases Device.createTarget_cause refused with rfl | ⟨_, rfl⟩ <;> rfl

/-- What follows the eviction has no part in textures, and does not fail early. -/
structure Concluded {α : Type} (engine : Engine) (result : Except EngineError α × Engine) :
    Prop where
  bypasses : engine.Bypasses result.2
  late : ∀ error, result.1 = .error error → error.isEarly = false

theorem Concluded.after {α : Type} {earlier : Engine} {result : Except EngineError α × Engine}
    (concluded : engine.Concluded result) (bypasses : earlier.Bypasses engine) :
    earlier.Concluded result :=
  ⟨bypasses.trans concluded.bypasses, concluded.late⟩

theorem dropFrame_concluded {error : EngineError} (late : error.isEarly = false) :
    engine.Concluded (engine.dropFrame error) := by
  refine ⟨.dropFrame engine error, fun _ same => ?_⟩
  cases same
  exact late

theorem map_error {α β : Type} {result : Except EngineError α} {change : α → β}
    {error : EngineError} (failed : result.map change = .error error) : result = .error error := by
  cases result with
  | error cause =>
      cases failed
      rfl
  | ok value => cases failed

/-- Without a target, the device was asked for one. -/
theorem targetFor_asked {target : Buffer} {frame : FrameSeq} {usesOutputCache : Bool}
    {error : EngineError}
    (refused : (engine.targetFor target frame usesOutputCache).1 = .error error) :
    (engine.device.createTarget engine.contexts.current target engine.limit).1 = .error error := by
  cases usesOutputCache with
  | false => exact map_error refused
  | true => exact OutputCache.getOrCreate_error (map_error refused)

theorem targetFor_concluded (engine : Engine) (target : Buffer) (frame : FrameSeq)
    (usesOutputCache : Bool) :
    engine.Concluded (engine.targetFor target frame usesOutputCache) := by
  have made := Device.Imports.createTarget engine.device engine.contexts.current target engine.limit
  refine ⟨?_, fun _ failed => createTarget_not_early (targetFor_asked failed)⟩
  cases usesOutputCache with
  | false => exact ⟨rfl, rfl, made⟩
  | true =>
      let outcome := engine.outputs.getOrCreate target.id engine.contexts.active
        (fun device => device.createTarget engine.contexts.current target engine.limit)
        engine.device
      have state : ∀ shelf, engine.device.Imports shelf [] outcome.state := by
        intro shelf
        have touched : outcome.state = engine.device ∨ outcome.state = _ :=
          OutputCache.getOrCreate_state
        rcases touched with same | same
        · rw [same]
          exact .refl engine.device shelf
        · rw [same]
          exact made shelf
      exact .retarget state _ _

theorem submit_concluded (engine : Engine) (frame : FrameSeq) :
    engine.Concluded (engine.submit frame) := by
  have submitted := engine.submit_submitted frame
  refine ⟨.submit engine frame, fun error failed => ?_⟩
  generalize engine.submit frame = result at submitted failed
  cases submitted with
  | lost =>
      cases failed
      rfl
  | fenced | drained => cases failed

theorem render_concluded (engine : Engine) (request : FrameRequest) (frame : FrameSeq)
    (plan : FramePlan) (slot : OutputSlot) :
    engine.Concluded (engine.render request frame plan slot) := by
  have recorded : Recording.Bypasses engine.device
      (Recording.ofDraws engine.device engine.contexts.current slot.handle request.display
        plan.draws) :=
    Recording.ofDraws_bypasses request.display plan.draws
  unfold render
  cases outcome : Recording.ofDraws engine.device engine.contexts.current slot.handle
      request.display plan.draws with
  | error failure =>
      obtain ⟨error, device⟩ := failure
      rw [outcome] at recorded
      obtain ⟨late, imports⟩ := recorded
      have failed : engine.Bypasses { engine with device } := ⟨rfl, rfl, imports⟩
      refine ⟨(failed.trans (.dropFrame _ error)).trans (.retire _ _), fun _ same => ?_⟩
      cases same
      exact late
  | ok recording =>
      rw [outcome] at recorded
      let drawn : Engine := { engine with device := recording.device }
      have done : engine.Bypasses drawn := ⟨rfl, rfl, recorded⟩
      have submitted := ((drawn.retire slot.owned).submit_concluded frame).after
        (done.trans (.retire drawn slot.owned))
      dsimp only
      cases final : (drawn.retire slot.owned).submit frame with
      | mk result after =>
          rw [final] at submitted
          obtain ⟨bypasses, late⟩ := submitted
          cases result with
          | error error => exact ⟨bypasses, fun _ same => late _ (by cases same; rfl)⟩
          | ok fence => exact ⟨bypasses.trans (.of_plain (.refl _) rfl rfl), nofun⟩

/-- The eviction leaves what the layers sample. -/
theorem finishFrame_concluded (request : FrameRequest) (frame : FrameSeq) (plan : FramePlan) :
    (plan.engine.evicted plan.active).Concluded (finishFrame request frame plan) := by
  have targeted := (plan.engine.evicted plan.active).targetFor_concluded request.target frame
    request.usesOutputCache
  unfold finishFrame
  cases outcome : (plan.engine.evicted plan.active).targetFor request.target frame
      request.usesOutputCache with
  | mk result after =>
      rw [outcome] at targeted
      cases result with
      | error error => exact (dropFrame_concluded (targeted.late error rfl)).after targeted.bypasses
      | ok slot => exact (after.render_concluded request frame plan slot).after targeted.bypasses

end Engine

/-! ## How far a frame gets -/

/-- How far a call for a frame gets. -/
inductive FrameFate where
  /-- No layer is looked at. -/
  | unstarted
  /-- The device is lost while the layers are looked at. -/
  | aborted
  /-- All layers are looked at, and the target is asked for. -/
  | targeted
  deriving DecidableEq, Repr

namespace Engine

def composeFate (engine : Engine) (request : FrameRequest) : FrameFate :=
  match FramePlan.lookAll engine.begun engine.begun.progress.lastIssued request.layers with
  | .error _ => .aborted
  | .ok _ => .targeted

def fate (engine : Engine) (request : FrameRequest) : FrameFate :=
  if engine.lost then .unstarted
  else
    match engine.awaitAny request.inputFence with
    | (false, _) => .unstarted
    | (true, waited) =>
      let switched := waited.switchTo request.mode
      if switched.lost then .unstarted
      else if switched.contexts.active ≠ request.mode then .unstarted
      else switched.composeFate request

/-- What composing a frame did to the textures. -/
inductive Composed (engine : Engine) (request : FrameRequest) :
    FrameFate → Except EngineError FrameOutput × Engine → Prop where
  | aborted {made : List BufferId} {after : Engine} : engine.Gathers made after →
      Composed engine request .aborted (.error .contextLost, after)
  | targeted {made : List BufferId} {result : Except EngineError FrameOutput × Engine} :
      result.2.contexts = engine.contexts →
      result.2.stock =
        (engine.stock ∪ made.toFinset).filter (· ∈ FramePlan.sampledBy request.layers) →
      engine.device.Imports engine.stock made result.2.device →
      (∀ error, result.1 = .error error → error.isEarly = false) →
      Composed engine request .targeted result

theorem compose_composed (engine : Engine) (request : FrameRequest) :
    engine.Composed request (engine.composeFate request) (engine.compose request) := by
  have begun : engine.Bypasses engine.begun := .of_plain (.refl _) rfl rfl
  have surveys := FramePlan.lookAll_surveys engine.begun engine.begun.progress.lastIssued
    request.layers
  rw [compose_eq, composeFate]
  cases outcome : FramePlan.lookAll engine.begun engine.begun.progress.lastIssued
      request.layers with
  | error after =>
      rw [outcome] at surveys
      cases surveys with
      | lost gathers =>
          exact .aborted (begun.gathers.trans (gathers.bypass (.dropFrame after .contextLost)))
  | ok plan =>
      rw [outcome] at surveys
      cases surveys with
      | whole surveyed =>
          obtain ⟨made, gathers⟩ := surveyed.gathers
          have gathered := begun.gathers.trans gathers
          have evicted : (plan.engine.evicted plan.active).stock =
              plan.engine.stock.filter (· ∈ plan.active) :=
            plan.engine.textures.evictStale_stock plan.active
          have retired : Device.Plain plan.engine.device
              (plan.engine.evicted plan.active).device :=
            retire_plain
              { plan.engine with textures := (plan.engine.textures.evictStale plan.active).2 } _
          obtain ⟨bypasses, late⟩ :=
            finishFrame_concluded request engine.begun.progress.lastIssued plan
          refine .targeted (bypasses.contexts.trans gathered.contexts) ?_
            ((gathered.imports.quiet (.of_plain retired)).quiet (bypasses.imports _)) late
          rw [bypasses.stock, evicted, ← gathered.stock]
          ext buffer
          simp [surveyed.active, and_comm]

/-! ## Calls for frames -/

/-- What remains of a shelf: a change of the context empties it. -/
def carried (before after : Engine) (shelf : Finset BufferId) : Finset BufferId :=
  if after.contexts.active = before.contexts.active then shelf else ∅

theorem carried_same {before after : Engine} (same : after.contexts = before.contexts)
    (shelf : Finset BufferId) : before.carried after shelf = shelf := by
  rw [carried, same, if_pos rfl]

theorem carried_congr (before : Engine) {after later : Engine}
    (same : later.contexts = after.contexts) (shelf : Finset BufferId) :
    before.carried later shelf = before.carried after shelf := by
  rw [carried, same, carried]

theorem switchTo_stock {recorded : List ImageHandle}
    (rested : Moment.Rested ⟨engine, [], recorded⟩) (mode : Mode) :
    (engine.switchTo mode).stock = engine.carried (engine.switchTo mode) engine.stock := by
  have switches := switchTo_switches rested mode
  generalize engine.switchTo mode = after at switches
  cases switches with
  | kept => exact (carried_same rfl _).symm
  | failed => exact (carried_same rfl _).symm
  | switched other available _ emptied contexts =>
      rw [carried, contexts, Contexts.activate_active available, if_neg (Ne.symm other)]
      exact TextureCache.stock_eq_empty emptied.textures

/-- If the mode that was asked for is not there, there was no switch. -/
theorem switchTo_bypasses {recorded : List ImageHandle}
    (rested : Moment.Rested ⟨engine, [], recorded⟩) (alive : engine.lost = false) {mode : Mode}
    (unusable : (engine.switchTo mode).lost = true ∨
      (engine.switchTo mode).contexts.active ≠ mode) :
    engine.Bypasses (engine.switchTo mode) := by
  have switches := switchTo_switches rested mode
  generalize engine.switchTo mode = after at switches unusable
  cases switches with
  | kept => exact .refl engine
  | failed => exact .of_plain (.finish engine.device) rfl rfl
  | switched other available _ _ contexts same =>
      rcases unusable with lost | elsewhere
      · exact absurd (alive.symm.trans (same.symm.trans lost)) Bool.false_ne_true
      · rw [contexts] at elsewhere
        exact absurd (Contexts.activate_active available) elsewhere

/-- The buffers that textures were made of in between, the first one first. -/
def imported (before after : Engine) : List BufferId :=
  after.device.importedSince before.device.events.length

/-- The shelf after a call for a frame. -/
def shelveFrame (engine : Engine) (request : FrameRequest) (shelf : Finset BufferId) :
    Finset BufferId :=
  let after := (engine.draw request).2
  let known := engine.carried after shelf ∪ (engine.imported after).toFinset
  match engine.fate request with
  | .unstarted => shelf
  | .aborted => known
  | .targeted => known.filter (· ∈ FramePlan.sampledBy request.layers)

/-- Beside a shelf of what was in stock before, a call for a frame leaves in stock what its fate
tells, and no texture is made for nothing. -/
structure Restocks (engine : Engine) (request : FrameRequest) (shelf : Finset BufferId) : Prop where
  stock : (engine.draw request).2.stock = engine.shelveFrame request shelf
  imports : engine.device.Imports (engine.carried (engine.draw request).2 shelf)
    (engine.imported (engine.draw request).2) (engine.draw request).2.device
  drawn : ∀ output, (engine.draw request).1 = .ok output → engine.fate request = .targeted
  early : ∀ error, (engine.draw request).1 = .error error → error.isEarly = true →
    engine.fate request = .unstarted
  aborted : engine.fate request = .aborted → (engine.draw request).1 = .error .contextLost

variable {request : FrameRequest}

/-- Nothing of a frame happened but what comes before its layers. -/
theorem Restocks.unstarted {error : EngineError} {after : Engine}
    (drawn : engine.draw request = (.error error, after)) (bypasses : engine.Bypasses after)
    (unstarted : engine.fate request = .unstarted) : engine.Restocks request engine.stock := by
  refine ⟨?_, ?_, ?_, fun _ _ _ => unstarted, ?_⟩
  · rw [shelveFrame, unstarted, drawn]
    exact bypasses.stock
  · rw [imported, drawn, (bypasses.imports ∅).since]
    exact bypasses.imports _
  · intro output same
    rw [drawn] at same
    cases same
  · intro aborted
    cases unstarted.symm.trans aborted

/-- A frame was composed by an engine that was ready for it. -/
theorem Restocks.composed {ready : Engine} (drawn : engine.draw request = ready.compose request)
    (reached : engine.fate request = ready.composeFate request)
    (stock : ready.stock = engine.carried ready engine.stock)
    (plain : Device.Plain engine.device ready.device) :
    engine.Restocks request engine.stock := by
  have composed := ready.compose_composed request
  rw [← drawn, ← reached] at composed
  generalize told : engine.fate request = frameFate at composed
  generalize same : engine.draw request = result at composed
  cases composed with
  | @aborted made after gathers =>
      have contexts := engine.carried_congr gathers.contexts engine.stock
      have imports := (Device.Imports.of_plain plain).after_quiet gathers.imports
      have found : engine.imported after = made := imports.since
      rw [stock, ← contexts] at imports
      refine ⟨?_, ?_, ?_, ?_, ?_⟩
      · rw [shelveFrame, told, same]
        dsimp only
        rw [gathers.stock, stock, contexts, found]
      · rw [same, found]
        exact imports
      · rw [same]
        exact nofun
      · rw [same]
        intro error failed early
        cases failed
        cases early
      · intro _
        rw [same]
  | @targeted made result contexts left imports late =>
      have contexts := engine.carried_congr contexts engine.stock
      have imports := (Device.Imports.of_plain plain).after_quiet imports
      have found : engine.imported result.2 = made := imports.since
      rw [stock, ← contexts] at imports
      refine ⟨?_, ?_, fun _ _ => told, ?_, ?_⟩
      · rw [shelveFrame, told, same]
        dsimp only
        rw [left, stock, contexts, found]
      · rw [same, found]
        exact imports
      · rw [same]
        intro error failed early
        cases (late error failed).symm.trans early
      · intro aborted
        cases told.symm.trans aborted

theorem draw_restocks {recorded : List ImageHandle}
    (rested : Moment.Rested ⟨engine, [], recorded⟩) (request : FrameRequest) :
    engine.Restocks request engine.stock := by
  obtain ⟨_, _, waitedRested⟩ :=
    (awaitAny_leads rested request.inputFence).reaches.rested rested
  have waiting := Bypasses.awaitAny engine request.inputFence
  have keeps := Keeps.awaitAny engine request.inputFence
  have plain := engine.awaitAny_plain request.inputFence
  by_cases lost : engine.lost = true
  · exact .unstarted (if_pos lost) (.refl engine) (if_pos lost)
  · cases outcome : engine.awaitAny request.inputFence with
    | mk signaled waited =>
        rw [outcome] at waitedRested waiting keeps plain
        dsimp only at waitedRested waiting keeps plain
        have alive : waited.lost = false := by simpa using keeps.lost.trans (by simpa using lost)
        cases signaled with
        | false =>
            have late : engine.draw request =
                (.error (.fenceTimeout waited.options.fenceTimeout.toNat), waited) := by
              rw [draw, if_neg lost, outcome]
            exact .unstarted late waiting (by rw [fate, if_neg lost, outcome])
        | true =>
            have drawn : engine.draw request =
                if (waited.switchTo request.mode).lost then
                  (.error .contextLost, waited.switchTo request.mode)
                else if (waited.switchTo request.mode).contexts.active ≠ request.mode then
                  (.error .protectedUnavailable, waited.switchTo request.mode)
                else (waited.switchTo request.mode).compose request := by
              rw [draw, if_neg lost, outcome]
            have reached : engine.fate request =
                if (waited.switchTo request.mode).lost then .unstarted
                else if (waited.switchTo request.mode).contexts.active ≠ request.mode then .unstarted
                else (waited.switchTo request.mode).composeFate request := by
              rw [fate, if_neg lost, outcome]
            split at drawn
            · rename_i gone
              rw [if_pos gone] at reached
              exact .unstarted drawn
                (waiting.trans (switchTo_bypasses waitedRested alive (.inl gone))) reached
            · rename_i usable
              rw [if_neg usable] at reached
              split at drawn
              · rename_i elsewhere
                rw [if_pos elsewhere] at reached
                exact .unstarted drawn
                  (waiting.trans (switchTo_bypasses waitedRested alive (.inr elsewhere))) reached
              · rename_i there
                rw [if_neg there] at reached
                refine .composed drawn reached ?_ (plain.trans (waited.switchTo_plain _))
                have left := switchTo_stock waitedRested request.mode
                rw [waiting.stock] at left
                rw [left, carried, waiting.contexts, carried]

end Engine

end Compositor
