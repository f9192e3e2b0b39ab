import Compositor.Proofs.Device.Effects
import Compositor.Proofs.Reachable

/-!
# Settlement

What the effects on a device keep is kept by every session: the fences stay in order, also when
submission numbers run out, and destruction is always prompted.
-/

set_option autoImplicit false

namespace Compositor

theorem Move.effects {before after : Moment} (move : Move before after) :
    Device.Effects before.engine.device after.engine.device := by
  cases move with
  | device step => exact .single (.step step)
  | issue => exact .single .issue
  | destroy => exact .single .destroy
  | handOver => exact .single (.note rfl)
  | bindTarget => exact .single (.note rfl)
  | draw => exact .single (.note rfl)
  | submitFenced _ flushes => exact .single (.flush flushes)
  | submitDrained _ flushes same _ =>
      exact .tail (.tail (.single (.flush flushes)) (.step (.quiet same))) (.step .finish)
  | flushLost flushes steps _ =>
      exact .trans (.single (.flush flushes)) (Device.Effects.ofSteps steps)
  | note | markLost | poll | begin | abandon | idle | shift | mark | activate => exact .refl

theorem Moves.effects {before after : Moment} (moves : Moves before after) :
    Device.Effects before.engine.device after.engine.device := by
  induction moves with
  | refl => exact .refl
  | tail _ move ih => exact ih.trans move.effects

theorem Tenancy.Turn.effects {before after : Tenancy} (turn : Turn before after)
    (sound : before.Sound) : Device.Effects before.device after.device := by
  cases turn with
  | alone steps => exact .ofSteps steps
  | work leads =>
      cases sound with
      | occupied rested =>
          obtain ⟨_, moves, -⟩ := leads _ rested
          exact moves.effects
  | leave leaves =>
      cases sound with
      | occupied rested =>
          obtain ⟨_, _, rfl, dismantled⟩ := leaves _ rested
          exact dismantled.moves.effects
  | enter created =>
      rw [device, device, (Engine.create_fresh created).device]

namespace Session

theorem stop_effects {session : Session} (sound : session.Sound) :
    Device.Effects session.device session.stop.device := by
  rw [device_eq, device_eq]
  exact session.stop_turn.1.effects sound

theorem step_effects {session : Session} (sound : session.Sound) (action : Action) :
    Device.Effects session.device (session.step action).2.device := by
  rw [device_eq, device_eq]
  rcases session.step_turn action with turn | ⟨device, leaving, turn⟩
  · exact turn.effects sound
  · exact (leaving.effects sound).trans (turn.effects (leaving.sound sound))

theorem run_effects {session : Session} (sound : session.Sound) (actions : List Action) :
    Device.Effects session.device (session.run actions).2.device := by
  induction actions generalizing session with
  | nil => exact .refl
  | cons action rest ih =>
      rw [run_cons]
      exact (step_effects sound action).trans (ih (step_sound session action sound))

end Session

end Compositor
