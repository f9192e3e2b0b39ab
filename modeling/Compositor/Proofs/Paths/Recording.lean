import Compositor.Proofs.Device.Answers
import Compositor.Proofs.Paths.Planning

/-!
# Recording a frame as a path of moves

A context is only handed images that the engine holds, so nothing but the loss of the device ends a
recording. What is recorded is either submitted or lost with the device.
-/

set_option autoImplicit false

namespace Compositor

variable {engine : Engine} {hand : List Image} {recorded : List ImageHandle} {frame : FrameSeq}

/-! ## Commands -/

/-- What a command that uses images left behind. -/
inductive Answered (engine : Engine) (hand : List Image) (recorded used : List ImageHandle) :
    Except EngineError Unit → Device → Prop where
  | lost {device : Device} : device.lost = true →
      Moves ⟨engine, hand, recorded⟩ ⟨{ engine with device }, hand, recorded⟩ →
      Answered engine hand recorded used (.error .contextLost) device
  | accepted {device : Device} :
      Moves ⟨engine, hand, recorded⟩ ⟨{ engine with device }, hand, used ++ recorded⟩ →
      Answered engine hand recorded used (.ok ()) device

namespace Moment

theorem Available.held {moment : Moment} {handle : ImageHandle}
    (available : moment.Available frame handle) :
    ∃ image ∈ moment.held, image.handle = handle := by
  obtain ⟨image, member, same, -⟩ := available
  exact ⟨image, member, same⟩

theorem Owned.holdsAvailable {moment : Moment} (owned : moment.Owned) {handle : ImageHandle}
    (available : moment.Available frame handle) :
    History.Holds moment.engine.contexts.current handle moment.engine.device.events := by
  obtain ⟨image, member, rfl, -⟩ := available
  exact owned.holds member

end Moment

namespace Moves

theorem handOver {handles : List ImageHandle} (call : ContextCall) {use : ImageUse}
    (spares : use ≠ .destroy)
    (available : ∀ handle ∈ handles, Moment.Available ⟨engine, hand, recorded⟩ frame handle) :
    Moves ⟨engine, hand, recorded⟩
      ⟨{ engine with
        device := (engine.device.arrive call).log
          (.handed engine.contexts.current use handles) }, hand, recorded⟩ := by
  have arrived : Moves ⟨engine, hand, recorded⟩
      ⟨{ engine with device := engine.device.arrive call }, hand, recorded⟩ :=
    .ofDevice (Device.arrive_steps engine.device call)
  exact arrived.tail (.handOver spares fun handle member => (available handle member).held)

theorem beginFrame (owned : Moment.Owned ⟨engine, hand, recorded⟩)
    (recording : engine.progress.recording = some frame) {target : ImageHandle}
    (available : Moment.Available ⟨engine, hand, recorded⟩ frame target) (display : Display) :
    Answered engine hand recorded [target]
      (engine.device.beginFrame engine.contexts.current target display).1
      (engine.device.beginFrame engine.contexts.current target display).2 := by
  have given : ∀ handle ∈ [target], Moment.Available ⟨engine, hand, recorded⟩ frame handle := by
    simpa using available
  have path := handOver .beginFrame (by decide : ImageUse.beginFrame ≠ .destroy) given
  have free := (path.owned owned).coherent.misuse?_eq_none
    ((path.owned owned).holdsAvailable available) .beginFrame
  have answers := Device.acceptBegin_answered (engine.device.arrive .beginFrame)
    engine.contexts.current target
  unfold Device.beginFrame
  generalize (engine.device.arrive .beginFrame).acceptBegin engine.contexts.current target =
    answered at answers ⊢
  cases answers with
  | lost lost => exact .lost lost path
  | misused _ found => cases found.symm.trans free
  | done usable => exact .accepted (path.tail (.bindTarget usable recording available))

theorem drawLayer (owned : Moment.Owned ⟨engine, hand, recorded⟩)
    (recording : engine.progress.recording = some frame) {target : ImageHandle}
    {source : Option ImageHandle}
    (available : ∀ handle ∈ target :: source.toList,
      Moment.Available ⟨engine, hand, recorded⟩ frame handle) (layer : Layer) :
    Answered engine hand recorded (target :: source.toList)
      (engine.device.drawLayer engine.contexts.current target source layer).1
      (engine.device.drawLayer engine.contexts.current target source layer).2 := by
  have path := handOver .drawLayer (by decide : ImageUse.draw ≠ .destroy) available
  have free : source.bind ((((engine.device.arrive .drawLayer).log
      (.handed engine.contexts.current .draw (target :: source.toList))).misuse?
        engine.contexts.current .draw)) = none := by
    cases source with
    | none => rfl
    | some handle =>
        exact (path.owned owned).coherent.misuse?_eq_none
          ((path.owned owned).holdsAvailable (available handle (by simp))) .draw
  have answers := Device.acceptDraw_answered (engine.device.arrive .drawLayer)
    engine.contexts.current target source
  unfold Device.drawLayer
  generalize (engine.device.arrive .drawLayer).acceptDraw engine.contexts.current target source =
    answered at answers ⊢
  cases answers with
  | lost lost => exact .lost lost path
  | misused _ found => cases found.symm.trans free
  | done usable => exact .accepted (path.tail (.draw usable recording available))

end Moves

/-! ## All commands of a frame -/

/-- What recording a frame left behind. -/
inductive Recorded (engine : Engine) (hand : List Image) (recorded : List ImageHandle) :
    Except (EngineError × Device) Recording → Prop where
  | lost {device : Device} {later : List ImageHandle} : device.lost = true →
      Moves ⟨engine, hand, recorded⟩ ⟨{ engine with device }, hand, later⟩ →
      Recorded engine hand recorded (.error (.contextLost, device))
  | done {recording : Recording} {later : List ImageHandle} : recording.rejected = [] →
      Moves ⟨engine, hand, recorded⟩
        ⟨{ engine with device := recording.device }, hand, later⟩ →
      Recorded engine hand recorded (.ok recording)

namespace Recorded

theorem after {start device : Device} {later : List ImageHandle}
    {result : Except (EngineError × Device) Recording}
    (done : Recorded { engine with device } hand later result)
    (moves : Moves ⟨{ engine with device := start }, hand, recorded⟩
      ⟨{ engine with device }, hand, later⟩) :
    Recorded { engine with device := start } hand recorded result := by
  cases done with
  | lost unusable path => exact .lost unusable (moves.trans path)
  | done accepted path => exact .done accepted (moves.trans path)

end Recorded

namespace Recording

/-- The draws are recorded one after another. Availability depends on what the engine holds alone,
so it is the same for all of them. -/
theorem adds_recorded {target : ImageHandle} {draws : List PlannedDraw} (start : Recording)
    (owned : Moment.Owned ⟨{ engine with device := start.device }, hand, recorded⟩)
    (recording : engine.progress.recording = some frame)
    (available : ∀ planned ∈ draws, ∀ handle ∈ target :: planned.source.toList,
      Moment.Available ⟨engine, hand, recorded⟩ frame handle)
    (accepted : start.rejected = []) :
    Recorded { engine with device := start.device } hand recorded
      (draws.foldlM (add engine.contexts.current target) start) := by
  induction draws generalizing start recorded with
  | nil => exact .done accepted .refl
  | cons planned draws ih =>
      have answered := Moves.drawLayer owned recording (available planned List.mem_cons_self)
        planned.layer
      rw [List.foldlM_cons, add]
      dsimp only at answered ⊢
      cases outcome : start.device.drawLayer engine.contexts.current target planned.source
          planned.layer with
      | mk result device =>
          rw [outcome] at answered
          cases answered with
          | lost unusable path => exact .lost unusable path
          | accepted path =>
              have rest := ih { start with device, drawn := start.drawn + 1 } (path.owned owned)
                (fun other member => available other (List.mem_cons_of_mem _ member)) accepted
              exact rest.after path

theorem ofDraws_recorded (owned : Moment.Owned ⟨engine, hand, []⟩)
    (recording : engine.progress.recording = some frame) {target : ImageHandle}
    (targeted : Moment.Available ⟨engine, hand, []⟩ frame target) (display : Display)
    {draws : List PlannedDraw}
    (sources : ∀ planned ∈ draws, ∀ handle ∈ planned.source,
      Moment.Available ⟨engine, hand, []⟩ frame handle) :
    Recorded engine hand []
      (ofDraws engine.device engine.contexts.current target display draws) := by
  have answered := Moves.beginFrame owned recording targeted display
  unfold ofDraws
  cases outcome : engine.device.beginFrame engine.contexts.current target display with
  | mk result device =>
      rw [outcome] at answered
      cases answered with
      | lost unusable path => exact .lost unusable path
      | accepted path =>
          have available : ∀ planned ∈ draws, ∀ handle ∈ target :: planned.source.toList,
              Moment.Available ⟨engine, hand, [target]⟩ frame handle := by
            intro planned member handle found
            rcases List.mem_cons.mp found with rfl | source
            · exact targeted
            · exact sources planned member handle (Option.mem_toList.mp source)
          have rest := adds_recorded ⟨device, 0, []⟩ (path.owned owned) recording available rfl
          exact rest.after path

end Recording

end Compositor
