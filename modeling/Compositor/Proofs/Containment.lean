import Compositor.Proofs.Dealings
import Compositor.Proofs.Reachable

/-!
# Containment of protected content

Requests are checked when images are made, and a cached image is used without any further check. So
containment rests on the history: every image that a context has was made for a checked request of
that very context, whatever the caller says about the buffer later.
-/

set_option autoImplicit false

namespace Compositor

namespace FrameRequest

theorem isProtected_iff (request : FrameRequest) :
    request.isProtected = true ↔
      request.display.protectedOutput = true ∨ request.target.isProtected = true ∨
        ∃ layer ∈ request.layers, layer.isProtected = true := by
  simp [isProtected, or_assoc]

theorem mode_eq_secure_iff (request : FrameRequest) :
    request.mode = .secure ↔ request.isProtected = true := by
  unfold mode
  cases request.isProtected <;> simp [Mode.ofProtected]

end FrameRequest

/-! ## Operations -/

namespace Engine

/-- What an engine did, it did in one of its contexts. -/
def Stays (before after : Engine) : Prop :=
  after.capabilities = before.capabilities ∧
    ∃ mode drawn, Device.Dealings before.limit mode before.device drawn after.device

theorem Deals.stays {before after : Engine} {drawn : Nat} (deals : before.Deals drawn after) :
    before.Stays after :=
  ⟨deals.capabilities, _, drawn, deals.dealings⟩

theorem stays_of_plain {before after : Engine}
    (plain : Device.Plain before.device after.device)
    (capabilities : after.capabilities = before.capabilities) : before.Stays after :=
  ⟨capabilities, .normal, 0, .ofPlain plain⟩

theorem switchTo_capabilities (engine : Engine) (mode : Mode) :
    (engine.switchTo mode).capabilities = engine.capabilities := by
  unfold switchTo
  split
  · rfl
  · cases engine.device.finish with
    | mk drained device => cases drained <;> rfl

theorem switchTo_stays (engine : Engine) (mode : Mode) : engine.Stays (engine.switchTo mode) :=
  stays_of_plain (engine.switchTo_plain mode) (engine.switchTo_capabilities mode)

theorem finish_capabilities (engine : Engine) :
    engine.finish.2.capabilities = engine.capabilities := by
  unfold finish
  split
  · rfl
  · cases engine.device.finish with
    | mk drained device => cases drained <;> rfl

theorem cleanup_capabilities (engine : Engine) :
    engine.cleanup.2.capabilities = engine.capabilities := by
  unfold cleanup
  cases engine.strategy.cleanup engine.device engine.progress with
  | mk result rest => cases result <;> rfl

theorem flush_deals (engine : Engine) : engine.Deals 0 engine.flush.2 := by
  unfold flush
  split
  · exact .refl engine
  · have begun : engine.Deals 0 { engine with progress := engine.progress.begin } :=
      ⟨rfl, rfl, .start⟩
    exact begun.trans (.submit _ _)

/-- A frame that is composed is composed in its own mode, once the engine is done with everything
that is not part of it. -/
theorem draw_composes {engine : Engine} {recorded : List ImageHandle}
    (rested : Moment.Rested ⟨engine, [], recorded⟩) (request : FrameRequest) :
    ∃ ready : Engine, Device.Plain engine.device ready.device ∧
      ready.capabilities = engine.capabilities ∧ ready.Composes (engine.draw request) ∧
      ∀ output, (engine.draw request).1 = .ok output →
        ready.contexts.active = request.mode ∧ ready.contexts.current = request.mode := by
  have stopped : ∀ (last : Engine) (error : EngineError),
      last.Composes (.error error, last) := fun last error => ⟨0, .refl last, nofun⟩
  unfold draw
  split
  · exact ⟨engine, .refl _, rfl, stopped engine _, nofun⟩
  · have awaited := engine.awaitAny_plain request.inputFence
    have waited := (Deals.awaitAny engine request.inputFence).capabilities
    have leads := awaitAny_leads rested request.inputFence
    cases outcome : engine.awaitAny request.inputFence with
    | mk signaled last =>
        rw [outcome] at awaited waited leads
        cases signaled with
        | false => exact ⟨last, awaited, waited, stopped last _, nofun⟩
        | true =>
            obtain ⟨_, _, lastRested⟩ := leads.reaches.rested rested
            obtain ⟨_, _, switched⟩ :=
              (switchTo_reaches lastRested request.mode).rested lastRested
            have plain := awaited.trans (last.switchTo_plain request.mode)
            have same := (last.switchTo_capabilities request.mode).trans waited
            refine ⟨last.switchTo request.mode, plain, same, ?_⟩
            dsimp only
            split
            · exact ⟨stopped _ _, nofun⟩
            · split
              · exact ⟨stopped _ _, nofun⟩
              · rename_i active
                have active := not_not.mp active
                refine ⟨compose_composes _ request, fun output _ => ⟨active, ?_⟩⟩
                have available := switched.owned.active
                rw [Contexts.current, if_pos available]
                exact active

theorem draw_stays {engine : Engine} {recorded : List ImageHandle}
    (rested : Moment.Rested ⟨engine, [], recorded⟩) (request : FrameRequest) :
    engine.Stays (engine.draw request).2 := by
  obtain ⟨ready, plain, capabilities, ⟨drawn, deals, -⟩, -⟩ := draw_composes rested request
  refine ⟨deals.capabilities.trans capabilities, ready.contexts.current, 0 + drawn, ?_⟩
  have dealings := deals.dealings
  rw [limit, capabilities] at dealings
  exact (Device.Dealings.ofPlain plain).trans dealings

/-- A finished frame ran in its own mode, and all that it drew it drew there. -/
structure Contained (before : Engine) (request : FrameRequest) (output : FrameOutput)
    (after : Engine) : Prop where
  mode_iff : output.status.mode = .secure ↔
    request.display.protectedOutput = true ∨ request.target.isProtected = true ∨
      ∃ layer ∈ request.layers, layer.isProtected = true
  draws : Device.DrawsIn output.status.mode before.device output.status.layersDrawn after.device

theorem draw_contained {engine after : Engine} {recorded : List ImageHandle}
    (rested : Moment.Rested ⟨engine, [], recorded⟩) {request : FrameRequest} {output : FrameOutput}
    (drawn : engine.draw request = (.ok output, after)) :
    engine.Contained request output after := by
  obtain ⟨ready, plain, -, ⟨count, deals, reports⟩, modes⟩ := draw_composes rested request
  rw [drawn] at deals reports modes
  have report := reports output rfl
  obtain ⟨active, current⟩ := modes output rfl
  have mode : output.status.mode = request.mode := report.mode.trans active
  refine ⟨?_, ?_⟩
  · rw [mode, request.mode_eq_secure_iff, request.isProtected_iff]
  · rw [mode, report.drawn, ← current, ← Nat.zero_add count]
    exact ((Device.Dealings.ofPlain plain).trans deals.dealings).drawsIn

end Engine

namespace Session

theorem operate_stays {engine : Engine} {action : Action} {result : Outcome × Engine}
    (operated : operate engine action = some result) {recorded : List ImageHandle}
    (rested : Moment.Rested ⟨engine, [], recorded⟩) : engine.Stays result.2 := by
  cases action with
  | draw request =>
      cases operated
      exact Engine.draw_stays rested request
  | bind buffer =>
      cases operated
      exact (Engine.Deals.bind engine buffer).stays
  | unbind buffer =>
      cases operated
      exact (Engine.Deals.unbind engine buffer).stays
  | invalidate buffer =>
      cases operated
      exact Engine.stays_of_plain (engine.invalidate_plain buffer) rfl
  | setProtected wantsSecure =>
      cases operated
      exact engine.switchTo_stays _
  | flush =>
      cases operated
      exact engine.flush_deals.stays
  | finish =>
      cases operated
      exact Engine.stays_of_plain engine.finish_plain engine.finish_capabilities
  | cleanup =>
      cases operated
      exact Engine.stays_of_plain engine.cleanup_plain engine.cleanup_capabilities
  | await fence =>
      cases operated
      exact Engine.stays_of_plain (.await engine.device fence) rfl
  | watchTracer elapsed =>
      cases operated
      exact Engine.stays_of_plain (.refl engine.device) rfl
  | _ => cases operated

end Session

/-! ## What a context is given -/

namespace DeviceEvent

/-- The images that an event gives to the context of a mode. -/
def given (mode : Mode) : DeviceEvent → List ImageHandle
  | .handed user _ handles => if user = mode then handles else []
  | .began user target => if user = mode then [target] else []
  | .drawn record => if record.mode = mode then record.target :: record.source.toList else []
  | _ => []

theorem Proper.given_usable {event : DeviceEvent} {earlier : History}
    (proper : event.Proper earlier) {mode : Mode} {handle : ImageHandle}
    (given : handle ∈ event.given mode) :
    History.Usable mode handle earlier := by
  cases event with
  | handed user use handles =>
      simp only [DeviceEvent.given] at given
      split at given
      · rename_i same
        rw [← same]
        exact proper handle given
      · cases given
  | began user target =>
      simp only [DeviceEvent.given] at given
      split at given
      · rename_i same
        rw [← same, List.mem_singleton.mp given]
        exact proper
      · cases given
  | drawn record =>
      simp only [DeviceEvent.given] at given
      split at given
      · rename_i same
        rw [← same]
        exact proper handle given
      · cases given
  | _ => cases given

end DeviceEvent

namespace Device.Coherent

variable {device : Device}

/-- A handle is issued for one image alone. -/
theorem created_unique (coherent : device.Coherent) {image other : LiveImage}
    (created : .created image ∈ device.events) (otherCreated : .created other ∈ device.events)
    (same : image.handle = other.handle) : image = other := by
  have distinct := coherent.created.nodup_iff.mpr device.issuedHandles_nodup
  exact List.inj_on_of_nodup_map distinct (History.mem_created.mpr created)
    (History.mem_created.mpr otherCreated) same

theorem unprotected (coherent : device.Coherent) {limit : UInt32} {later earlier : History}
    (split : device.events = later ++ earlier)
    (vetted : History.Always (DeviceEvent.Vetted limit) earlier) {handle : ImageHandle}
    (holds : History.Holds .normal handle earlier) : History.Unprotected handle earlier := by
  have known : ∀ image, .created image ∈ earlier → .created image ∈ device.events := by
    intro image created
    rw [split]
    exact List.mem_append_right _ created
  obtain ⟨image, created, rfl, mode, -⟩ := holds
  obtain ⟨request, imported, -⟩ := History.imported_of_created created vetted
  refine ⟨⟨image, request, imported, rfl⟩, fun other source found same => ?_⟩
  have only := coherent.created_unique (known other found.created) (known image created) same
  have admissible := found.admissible vetted
  rw [only, mode] at admissible
  cases guarded : source.buffer.isProtected with
  | false => rfl
  | true => cases admissible.source guarded

end Device.Coherent

namespace Session

/-! ## Every reachable state -/

/-- Engines know the limit of the session, and what the device was asked for kept to it. -/
structure Vetted (session : Session) : Prop where
  capabilities : ∀ engine ∈ session.engine?, engine.capabilities = session.capabilities
  events : History.Always (DeviceEvent.Vetted session.capabilities.maxTextureSize)
    session.device.events

namespace Vetted

variable {session : Session}

theorem new (options : DeviceOptions) (capabilities : Capabilities) (order : ReleaseOrder) :
    (Session.new (.new options) capabilities order).Vetted where
  capabilities := fun engine occupied => by cases occupied
  events := trivial

theorem setDevice (vetted : session.Vetted) {device : Device}
    (events : History.Always (DeviceEvent.Vetted session.capabilities.maxTextureSize)
      device.events) : (session.setDevice device).Vetted := by
  refine ⟨fun engine occupied => ?_, by simpa using events⟩
  rw [setDevice_engine?] at occupied
  obtain ⟨before, found, rfl⟩ := Option.map_eq_some_iff.mp occupied
  rw [setDevice_capabilities]
  exact vetted.capabilities before found

theorem setPlain (vetted : session.Vetted) {device : Device}
    (plain : Device.Plain session.device device) : (session.setDevice device).Vetted := by
  have dealings : Device.Dealings session.capabilities.maxTextureSize .normal _ 0 _ :=
    .ofPlain plain
  exact vetted.setDevice (dealings.vetted vetted.events)

theorem setEngine (vetted : session.Vetted) {engine after : Engine}
    (occupied : session.engine? = some engine) (stays : engine.Stays after) :
    (session.setEngine after).Vetted := by
  obtain ⟨same, mode, drawn, dealings⟩ := stays
  have known := vetted.capabilities engine occupied
  have events := vetted.events
  rw [device_of_engine? occupied] at events
  rw [Engine.limit, known] at dealings
  refine ⟨fun other found => ?_, dealings.vetted events⟩
  cases found
  exact same.trans known

theorem stop (vetted : session.Vetted) : session.stop.Vetted := by
  unfold Session.stop
  cases tenancy : session.tenancy with
  | vacant device => exact vetted
  | occupied engine =>
      have occupied : session.engine? = some engine := by simp [engine?, tenancy]
      let served := session.requests.serveAll engine
      have deals : engine.Deals 0 served.2 :=
        ImageRequests.serveMany_deals _ session.requests engine
      have after := vetted.setEngine occupied deals.stays
      have dealings : Device.Dealings session.capabilities.maxTextureSize .normal _ 0 _ :=
        .ofPlain served.2.teardown_plain
      exact ⟨fun other found => (by cases found), dealings.vetted after.events⟩

theorem start (vetted : session.Vetted) (options : EngineOptions) :
    (session.start options).2.Vetted := by
  unfold Session.start
  cases created : Engine.create session.device session.capabilities options session.order with
  | error error => exact vetted
  | ok engine =>
      obtain ⟨-, rfl⟩ := Engine.create_eq created
      refine ⟨fun other found => ?_, vetted.events⟩
      cases found
      rfl

theorem script (vetted : session.Vetted) {action : Action} {result : Outcome × Session}
    (scripted : session.script action = some result) : result.2.Vetted := by
  cases action with
  | createFence origin status =>
      cases scripted
      exact vetted.setPlain (.createFence _ _ _)
  | settleFence outcome fence =>
      cases scripted
      exact vetted.setPlain (.settleFence _ _ _)
  | signalNext =>
      cases scripted
      exact vetted.setPlain (.signalNext _)
  | signalAll =>
      cases scripted
      exact vetted.setPlain (.signalAll _)
  | rejectImports buffer =>
      cases scripted
      exact vetted.setDevice vetted.events
  | allowImports buffer =>
      cases scripted
      exact vetted.setDevice vetted.events
  | lose =>
      cases scripted
      exact vetted.setPlain (.lose _)
  | scheduleLoss call passing =>
      cases scripted
      exact vetted.setPlain (.scheduleLoss _ _ _)
  | _ => cases scripted

theorem request (vetted : session.Vetted) {engine : Engine}
    (occupied : session.engine? = some engine) (action : Action) :
    (session.request engine action).2.Vetted := by
  have set : ∀ {requests : ImageRequests} {after : Engine}, engine.Deals 0 after →
      ({ session with requests }.setEngine after).Vetted := fun deals => by
    have after := vetted.setEngine occupied deals.stays
    exact ⟨after.capabilities, after.events⟩
  cases action with
  | serve => exact set (session.requests.serve_deals engine)
  | collect ticket => exact set (session.requests.await_deals ticket engine)
  | submit => exact ⟨vetted.capabilities, vetted.events⟩
  | _ => exact vetted

end Vetted

theorem step_vetted {session : Session} (sound : session.Sound) (vetted : session.Vetted)
    (action : Action) : (session.step action).2.Vetted := by
  have stepped := session.step_stepped action
  generalize session.step action = result at stepped
  cases stepped with
  | started options => exact vetted.stop.start options
  | stopped => exact vetted.stop
  | scripted scripted => exact vetted.script scripted
  | absent => exact vetted
  | operated occupied operated =>
      obtain ⟨_, rested⟩ := sound.rested occupied
      exact vetted.setEngine occupied (operate_stays operated rested)
  | requested occupied => exact vetted.request occupied action

theorem run_vetted (options : DeviceOptions) (capabilities : Capabilities)
    (order : ReleaseOrder) (actions : List Action) :
    ((Session.new (.new options) capabilities order).run actions).2.Vetted := by
  have keeps : ∀ (session : Session) (action : Action), session.Sound ∧ session.Vetted →
      (session.step action).2.Sound ∧ (session.step action).2.Vetted :=
    fun session action both =>
      ⟨step_sound session action both.1, step_vetted both.1 both.2 action⟩
  exact (run_keeps keeps
    ⟨new_sound options capabilities order, .new options capabilities order⟩ actions).2

/-- After any actions whatsoever, every request that a context was handed was admissible there, and
whatever the normal context was given was made for unprotected buffers only. A frame that an engine
finishes is contained. -/
theorem protected_content_contained (options : DeviceOptions) (capabilities : Capabilities)
    (order : ReleaseOrder) (actions : List Action) :
    let final := ((Session.new (.new options) capabilities order).run actions).2
    (∀ mode kind request, .requested mode kind request ∈ final.device.events →
      request.Admissible capabilities.maxTextureSize mode kind) ∧
    (∀ later event earlier, final.device.events = later ++ event :: earlier →
      ∀ handle ∈ event.given .normal, History.Unprotected handle earlier) ∧
    ∀ engine ∈ final.engine?, ∀ request output after,
      engine.draw request = (.ok output, after) → engine.Contained request output after := by
  intro final
  have sound : final.Sound := run_sound (new_sound options capabilities order) actions
  have vetted : final.Vetted := run_vetted options capabilities order actions
  have limit : final.capabilities = capabilities := run_capabilities _ actions
  have events := vetted.events
  rw [limit] at events
  refine ⟨fun mode kind request member => ?_, fun later event earlier split handle given => ?_,
    fun engine occupied request output after drawn => ?_⟩
  · obtain ⟨later, earlier, split⟩ := List.append_of_mem member
    exact History.always_iff.mp events later _ earlier split
  · have proper := History.always_iff.mp sound.coherent.proper later event earlier split
    have whole : final.device.events = (later ++ [event]) ++ earlier := by
      rw [split, List.append_assoc, List.singleton_append]
    rw [whole] at events
    have usable := proper.given_usable given
    exact sound.coherent.unprotected whole (History.always_tail events) usable.1
  · obtain ⟨_, rested⟩ := sound.rested occupied
    exact Engine.draw_contained rested drawn

/-- A buffer that was drawn in the normal context is protected from then on. -/
private def guardedLater : FrameRequest :=
  ⟨.ofSize 64 64, [.ofBuffer (Buffer.plain ⟨1⟩ 8 8).asProtected (.ofSize 8 8)], .plain ⟨2⟩ 64 64,
    true, none⟩

private def unguardedBefore : List Action :=
  [.start ⟨2, false, true, 3000, 3000⟩,
    .draw ⟨.ofSize 64 64, [.ofBuffer (.plain ⟨1⟩ 8 8) (.ofSize 8 8)], .plain ⟨2⟩ 64 64, true, none⟩]

/-- The frame that draws it then runs in the secure context. -/
theorem protected_content_contained_once_guarded :
    ∃ engine ∈ ((Session.new (.new .standard) DeviceOptions.standard.capabilities .byArrival).run
        unguardedBefore).2.engine?,
      ∃ output after, engine.draw guardedLater = (.ok output, after) ∧
        output.status.layersDrawn = 1 ∧ output.status.mode = .secure ∧
        engine.Contained guardedLater output after := by
  have drawn : ((Session.new (.new .standard) DeviceOptions.standard.capabilities .byArrival).run
      unguardedBefore).2.engine?.map (fun engine =>
        (engine.draw guardedLater).1.toOption.map (·.status.layersDrawn)) = some (some 1) := by
    decide
  obtain ⟨engine, occupied, same⟩ := Option.map_eq_some_iff.mp drawn
  obtain ⟨output, finished, count⟩ := Option.map_eq_some_iff.mp same
  cases outcome : engine.draw guardedLater with
  | mk result after =>
      rw [outcome] at finished
      cases result with
      | error error => cases finished
      | ok other =>
          cases finished
          obtain ⟨-, -, contains⟩ := protected_content_contained .standard
            DeviceOptions.standard.capabilities .byArrival unguardedBefore
          have contained := contains engine occupied guardedLater output after outcome
          exact ⟨engine, occupied, output, after, outcome, count,
            contained.mode_iff.mpr (.inr (.inr ⟨_, List.mem_cons_self, rfl⟩)), contained⟩

end Session

end Compositor
