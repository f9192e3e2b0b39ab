import Compositor.Proofs.Reachable

/-!
# Isolation of the contexts

Everything that an engine holds belongs to its active mode. The active mode changes only at one
point of a frame or of the choice of the context, and there the engine holds nothing. So what was
made before a change is never named again.
-/

set_option autoImplicit false

namespace Compositor

/-! ## Asking for a mode -/

namespace Engine

/-- The mode that an action asks for, if it gets so far, and the engine just before. -/
def asks? (engine : Engine) : Action → Option (Engine × Mode)
  | .setProtected wantsSecure => some (engine, .ofProtected wantsSecure)
  | .draw request =>
    if engine.lost then none
    else
      match engine.awaitAny request.inputFence with
      | (true, waited) => some (waited, request.mode)
      | (false, _) => none
  | _ => none

/-- All that the engine holds belongs to the active mode, which has a context. -/
structure Isolated (engine : Engine) : Prop where
  modes : ∀ image ∈ engine.owned, image.mode = engine.contexts.active
  secure : engine.contexts.active = .secure → engine.contexts.hasSecure = true

/-- The engine holds nothing, and the device has no image and owes it nothing. -/
structure Vacant (engine : Engine) : Prop where
  emptied : engine.Emptied
  live : engine.device.live = []

/-- Neither the caches nor the active mode changed. -/
structure SameCaches (before after : Engine) : Prop where
  textures : after.textures = before.textures
  outputs : after.outputs = before.outputs
  contexts : after.contexts = before.contexts

/-- How an engine answers when it is asked for a mode. -/
structure Answers (engine : Engine) (mode : Mode) : Prop where
  kept : engine.contexts.active = mode ∨ engine.contexts.has mode = false ∨
    engine.device.finish.1 = false → SameCaches engine (engine.switchTo mode)
  changed : (engine.switchTo mode).contexts.active ≠ engine.contexts.active →
    (engine.switchTo mode).contexts.active = mode ∧ (engine.switchTo mode).Vacant

end Engine

variable {engine : Engine} {recorded : List ImageHandle}

theorem Moment.Rested.isolated (rested : Moment.Rested ⟨engine, [], recorded⟩) :
    engine.Isolated where
  modes := fun image member => rested.owned.modes image (List.mem_append_left [] member)
  secure := fun secure => by
    have active := rested.owned.active
    dsimp only at active
    rw [secure] at active
    exact active

namespace Engine

/-- A frame asks for its mode once its input fence has signaled. -/
theorem asks?_draw {request : FrameRequest} {waited : Engine} {mode : Mode}
    (asks : engine.asks? (.draw request) = some (waited, mode)) :
    ¬engine.lost = true ∧ engine.awaitAny request.inputFence = (true, waited) ∧
      request.mode = mode := by
  unfold asks? at asks
  dsimp only at asks
  split at asks
  · cases asks
  · rename_i usable
    refine ⟨usable, ?_⟩
    split at asks
    · rename_i signaled
      cases asks
      exact ⟨signaled, rfl⟩
    · cases asks

theorem asks?_leads (rested : Moment.Rested ⟨engine, [], recorded⟩) {action : Action}
    {waited : Engine} {mode : Mode} (asks : engine.asks? action = some (waited, mode)) :
    Leads ⟨engine, [], recorded⟩ waited := by
  cases action with
  | setProtected wantsSecure =>
      cases asks
      exact .refl rested.closed
  | draw request =>
      obtain ⟨_, signaled, _⟩ := asks?_draw asks
      have leads := awaitAny_leads rested request.inputFence
      rw [signaled] at leads
      exact leads
  | _ => cases asks

theorem asks?_sameCaches {action : Action} {waited : Engine} {mode : Mode}
    (asks : engine.asks? action = some (waited, mode)) : SameCaches engine waited := by
  cases action with
  | setProtected wantsSecure =>
      cases asks
      exact ⟨rfl, rfl, rfl⟩
  | draw request =>
      obtain ⟨_, signaled, _⟩ := asks?_draw asks
      have same := engine.awaitAny_eq request.inputFence
      rw [signaled] at same
      dsimp only at same
      rw [same]
      exact ⟨rfl, rfl, rfl⟩
  | _ => cases asks

theorem switchTo_answers (rested : Moment.Rested ⟨engine, [], recorded⟩) (mode : Mode) :
    engine.Answers mode := by
  have switches := switchTo_switches rested mode
  obtain ⟨_, _, after⟩ := (switchTo_reaches rested mode).rested rested
  constructor
  · intro refused
    generalize engine.switchTo mode = switched at switches
    cases switches with
    | kept => exact ⟨rfl, rfl, rfl⟩
    | failed => exact ⟨rfl, rfl, rfl⟩
    | switched other available drained =>
        rcases refused with same | missing | failed
        · exact absurd same other
        · exact absurd (available.symm.trans missing) (by simp)
        · exact absurd (drained.symm.trans failed) (by simp)
  · intro changed
    generalize engine.switchTo mode = switched at switches after changed
    cases switches with
    | kept => exact absurd rfl changed
    | failed => exact absurd rfl changed
    | switched _ available _ emptied contexts =>
        refine ⟨?_, emptied, after.owned.live_eq_nil ?_⟩
        · rw [contexts]
          exact Contexts.activate_active available
        · rw [Moment.held, emptied.owned]
          rfl

theorem draw_signaled {request : FrameRequest} {waited : Engine} (usable : ¬engine.lost = true)
    (signaled : engine.awaitAny request.inputFence = (true, waited)) :
    engine.draw request =
      if (waited.switchTo request.mode).lost then
        (.error .contextLost, waited.switchTo request.mode)
      else if (waited.switchTo request.mode).contexts.active ≠ request.mode then
        (.error .protectedUnavailable, waited.switchTo request.mode)
      else (waited.switchTo request.mode).compose request := by
  rw [draw, if_neg usable, signaled]

theorem asks?_operates (rested : Moment.Rested ⟨engine, [], recorded⟩) {action : Action}
    {waited : Engine} {mode : Mode} (asks : engine.asks? action = some (waited, mode)) :
    ∃ outcome after later, Session.operate engine action = some (outcome, after) ∧
      Leads ⟨waited.switchTo mode, [], later⟩ after := by
  obtain ⟨_, _, waitedRested⟩ := (asks?_leads rested asks).reaches.rested rested
  obtain ⟨later, _, switched⟩ := (switchTo_reaches waitedRested mode).rested waitedRested
  cases action with
  | setProtected wantsSecure =>
      cases asks
      exact ⟨_, _, later, rfl, .refl switched.closed⟩
  | draw request =>
      obtain ⟨usable, signaled, rfl⟩ := asks?_draw asks
      have goesOn := (drawSwitched_concludes switched request).leads
      rw [← draw_signaled usable signaled] at goesOn
      exact ⟨_, _, later, rfl, goesOn⟩
  | _ => cases asks

/-- An action whose mode is refused ends there. -/
theorem asks?_stops {action : Action} {waited after : Engine} {mode : Mode} {outcome : Outcome}
    (asks : engine.asks? action = some (waited, mode))
    (operated : Session.operate engine action = some (outcome, after))
    (refused : (waited.switchTo mode).contexts.active ≠ mode) : after = waited.switchTo mode := by
  cases action with
  | setProtected wantsSecure =>
      cases asks
      cases operated
      rfl
  | draw request =>
      obtain ⟨usable, signaled, rfl⟩ := asks?_draw asks
      have same : (engine.draw request).2 = after := congrArg Prod.snd (Option.some.inj operated)
      rw [← same, draw_signaled usable signaled, if_pos refused]
      split <;> rfl
  | _ => cases asks

theorem operate_contexts (rested : Moment.Rested ⟨engine, [], recorded⟩) {action : Action}
    {outcome : Outcome} {after : Engine}
    (operated : Session.operate engine action = some (outcome, after))
    (unasked : engine.asks? action = none) : after.contexts = engine.contexts := by
  cases action with
  | setProtected wantsSecure => cases unasked
  | draw request =>
      have awaited := awaitAny_leads rested request.inputFence
      have same : (engine.draw request).2 = after := congrArg Prod.snd (Option.some.inj operated)
      rw [← same, draw]
      unfold asks? at unasked
      dsimp only at unasked
      split at unasked
      · rename_i lost
        rw [if_pos lost]
      · rename_i usable
        rw [if_neg usable]
        cases outcome : engine.awaitAny request.inputFence with
        | mk signaled waited =>
            rw [outcome] at unasked awaited
            cases signaled with
            | false => exact awaited.contexts
            | true => cases unasked
  | _ => exact (Session.operate_leads operated rfl rested).contexts

end Engine

/-! ## Isolation over whole runs -/

namespace History

/-- No context is handed an image that was created before `earlier`. -/
def Forgets (since earlier : History) : Prop :=
  ∀ mode use handles, .handed mode use handles ∈ since → ∀ handle ∈ handles,
    ∀ image ∈ created earlier, image.handle ≠ handle

end History

/-- What is gone is never named again. -/
theorem Device.Coherent.forgets {before after : Device} (coherent : before.Coherent)
    (live : before.live = []) (later : after.Coherent) {since : History}
    (events : after.events = since ++ before.events) : History.Forgets since before.events := by
  intro mode use handles member handle inside image created same
  subst same
  obtain ⟨late, early, split⟩ := List.append_of_mem member
  have whole : after.events =
      late ++ .handed mode use handles :: (early ++ before.events) := by
    rw [events, split, List.append_assoc, List.cons_append]
  have proper := History.always_iff.mp later.proper late _ _ whole
  obtain ⟨⟨_, _, _, _, kept⟩, -⟩ := proper image.handle inside
  apply kept
  refine List.mem_append_right _ ?_
  by_contra alive
  have present := (coherent.live_iff image).mpr ⟨History.mem_created.mp created, alive⟩
  rw [live] at present
  cases present

namespace Session

theorem step_operate {session : Session} {engine after : Engine} {action : Action}
    {outcome : Outcome} (occupied : session.engine? = some engine)
    (asks : (engine.asks? action).isSome = true)
    (operated : operate engine action = some (outcome, after)) :
    (session.step action).2 = session.setEngine after := by
  cases action with
  | draw request => simp [step, script, occupied, operated]
  | setProtected wantsSecure => simp [step, script, occupied, operated]
  | _ => cases asks

/-- After any actions whatsoever, an engine is isolated, and it answers a wanted mode by becoming
vacant or by changing nothing; an action whose mode is refused ends there. Nothing but such an
answer changes the active mode, and once it has changed, whatever is done, nothing that was made
before is named again. -/
theorem contexts_isolated (options : DeviceOptions) (capabilities : Capabilities)
    (order : ReleaseOrder) (actions : List Action) :
    let session := ((Session.new (.new options) capabilities order).run actions).2
    ∀ engine ∈ session.engine?,
      engine.Isolated ∧
      (∀ action outcome after, operate engine action = some (outcome, after) →
        after.contexts.active ≠ engine.contexts.active →
          ∃ waited mode, engine.asks? action = some (waited, mode) ∧
            waited.contexts = engine.contexts ∧
            after.contexts = (waited.switchTo mode).contexts) ∧
      ∀ action waited mode, engine.asks? action = some (waited, mode) →
        Engine.SameCaches engine waited ∧ waited.Answers mode ∧
        (∀ outcome after, operate engine action = some (outcome, after) →
          (waited.switchTo mode).contexts.active ≠ mode → after = waited.switchTo mode) ∧
        ((waited.switchTo mode).contexts.active ≠ waited.contexts.active →
          ∀ more, ∃ since,
            ((session.step action).2.run more).2.device.events =
              since ++ (waited.switchTo mode).device.events ∧
            History.Forgets since (waited.switchTo mode).device.events) := by
  intro session engine occupied
  have sound : session.Sound := run_sound (new_sound options capabilities order) actions
  obtain ⟨recorded, rested⟩ := sound.rested occupied
  refine ⟨rested.isolated, fun action outcome after operated changed => ?_,
    fun action waited mode asks => ?_⟩
  · cases asked : engine.asks? action with
    | none =>
        have same := Engine.operate_contexts rested operated asked
        exact absurd (congrArg Contexts.active same) changed
    | some answer =>
        obtain ⟨waited, mode⟩ := answer
        obtain ⟨_, _, _, again, leads⟩ := Engine.asks?_operates rested asked
        rw [operated] at again
        cases again
        exact ⟨waited, mode, rfl, (Engine.asks?_leads rested asked).contexts, leads.contexts⟩
  · obtain ⟨_, _, waitedRested⟩ := (Engine.asks?_leads rested asks).reaches.rested rested
    have answers := Engine.switchTo_answers waitedRested mode
    refine ⟨Engine.asks?_sameCaches asks, answers,
      fun _ _ operated refused => Engine.asks?_stops asks operated refused,
      fun changed more => ?_⟩
    obtain ⟨_, _, switched⟩ :=
      (Engine.switchTo_reaches waitedRested mode).rested waitedRested
    obtain ⟨outcome, after, later, operated, leads⟩ := Engine.asks?_operates rested asks
    obtain ⟨_, moves, -⟩ := leads.reaches
    have stepped := step_operate occupied (by rw [asks]; rfl) operated
    have next := step_sound session action sound
    have path : Continues (waited.switchTo mode).device
        ((session.step action).2.run more).2.device := by
      refine Continues.trans ?_ (run_continues next more)
      rw [stepped]
      exact moves.continues
    obtain ⟨since, events⟩ := path.events
    exact ⟨since, events, switched.owned.coherent.forgets (answers.changed changed).2.live
      (run_sound next more).coherent events⟩

/-- A device with two contexts. -/
private def divided : DeviceOptions := ⟨true, true, true, 4096⟩

/-- A frame is drawn in the normal context. -/
private def drawnOnce : List Action :=
  [.start ⟨2, false, true, 3000, 3000⟩,
    .draw ⟨.ofSize 64 64, [.ofBuffer (.plain ⟨1⟩ 8 8) (.ofSize 8 8)], .plain ⟨2⟩ 64 64, true, none⟩]

/-- The engine that drew it holds two images, and none once it has switched. -/
theorem contexts_isolated_once_drawn :
    ∃ engine ∈ ((Session.new (.new divided) divided.capabilities .byArrival).run
        drawnOnce).2.engine?,
      engine.owned.length = 2 ∧ engine.Isolated ∧
        (engine.switchTo .secure).contexts.active = .secure ∧
        (engine.switchTo .secure).Vacant := by
  have drawn : ((Session.new (.new divided) divided.capabilities .byArrival).run
      drawnOnce).2.engine?.map (fun engine =>
        (engine.owned.length, engine.contexts.active,
          (engine.switchTo .secure).contexts.active)) = some (2, .normal, .secure) := by decide
  obtain ⟨engine, occupied, same⟩ := Option.map_eq_some_iff.mp drawn
  obtain ⟨held, before, after⟩ : engine.owned.length = 2 ∧ engine.contexts.active = .normal ∧
      (engine.switchTo .secure).contexts.active = .secure := by simpa using same
  obtain ⟨isolated, -, asked⟩ := contexts_isolated divided divided.capabilities .byArrival
    drawnOnce engine occupied
  obtain ⟨-, answers, -⟩ := asked (.setProtected true) engine .secure rfl
  obtain ⟨active, vacant⟩ := answers.changed (by rw [before, after]; decide)
  exact ⟨engine, occupied, held, isolated, active, vacant⟩

end Session

end Compositor
