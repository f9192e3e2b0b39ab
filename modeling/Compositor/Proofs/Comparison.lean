import Compositor.Proofs.Possession
import Compositor.Proofs.Waits

/-!
# Comparing runs

Two runs of sessions rarely take the same steps: the fences of one have other names than those of
the other, and what concerns the timing of one device has no counterpart. They are compared by their
reports, which tell of the actions of one kind what was done, how its waits ended and what came of
it.
-/

set_option autoImplicit false

namespace Compositor

/-! ## Actions without their fences -/

def Layer.unfenced (layer : Layer) : Layer :=
  match layer.source with
  | .sampled buffer _ => { layer with source := .sampled buffer none }
  | .solid _ => layer

def FrameRequest.unfenced (request : FrameRequest) : FrameRequest :=
  { request with layers := request.layers.map Layer.unfenced, inputFence := none }

@[simp] theorem Layer.unfenced_buffer? (layer : Layer) :
    layer.unfenced.buffer? = layer.buffer? := by
  cases source : layer.source <;> simp [unfenced, buffer?, source]

namespace FrameRequest

@[simp] theorem unfenced_mode (request : FrameRequest) : request.unfenced.mode = request.mode := by
  simp [mode, isProtected, unfenced, Layer.isProtected, Function.comp_def]

end FrameRequest

namespace Action

def unfenced : Action → Action
  | .draw request => .draw request.unfenced
  | action => action

def isDraw : Action → Bool
  | .draw _ => true
  | _ => false

/-- Holds for the actions that only concern when submitted work completes, or who learns of it. -/
def isSilent : Action → Bool
  | .cleanup | .await _ | .watchTracer _ | .createFence .. | .settleFence .. | .signalNext
  | .signalAll | .scheduleLoss .. => true
  | _ => false

def isHeard (action : Action) : Bool := !action.isSilent

end Action

/-- The outcome with one and the same fence in place of each. -/
def Outcome.unfenced : Outcome → Outcome
  | .frame result => .frame (result.map fun output => ⟨output.status, ⟨0⟩⟩)
  | .flushed result => .flushed (result.map fun _ => ⟨0⟩)
  | outcome => outcome

theorem Outcome.frame_unfenced (result : Except EngineError FrameOutput) :
    (Outcome.frame result).unfenced =
      .frame ((result.map FrameOutput.status).map fun status => ⟨status, ⟨0⟩⟩) := by
  cases result <;> rfl

/-! ## Reports -/

/-- One action of a run. -/
structure Report where
  action : Action
  /-- How the waits of the action ended. -/
  waits : List (Option Bool)
  outcome : Outcome
  after : Session

namespace Report

/-- The same was done, and the waits that both came to ended alike. -/
def Comparable (left right : Report) : Prop :=
  left.action.unfenced = right.action.unfenced ∧ Waits.Agree left.waits right.waits

instance (left right : Report) : Decidable (Comparable left right) :=
  inferInstanceAs (Decidable (_ ∧ _))

variable {left right : List Report}

theorem map_eq_map_iff {kind : Type} (tells : Report → kind) :
    left.map tells = right.map tells ↔
      List.Forall₂ (fun first second => tells first = tells second) left right := by
  have both : List.Forall₂ Eq (left.map tells) (right.map tells) ↔ _ :=
    List.forall₂_map_left_iff.trans List.forall₂_map_right_iff
  rwa [List.forall₂_eq_eq_eq] at both

/-- Reports whose waits agree follow common foretellings. -/
theorem exists_foretellings
    (agree : List.Forall₂ (fun first second => Waits.Agree first.waits second.waits) left right) :
    ∃ foretellings : List (Nat → Bool),
      List.Forall₂ (fun signals report => Waits.Foretold signals report.waits)
        foretellings left ∧
      List.Forall₂ (fun signals report => Waits.Foretold signals report.waits)
        foretellings right := by
  induction agree with
  | nil => exact ⟨[], .nil, .nil⟩
  | cons same _ ih =>
      obtain ⟨foretellings, before, after⟩ := ih
      exact ⟨_ :: foretellings, .cons same.foretold.1 before, .cons same.foretold.2 after⟩

end Report

namespace Session

def waits (session : Session) : Action → List (Option Bool)
  | .draw request => session.engine?.elim [] (·.waits request)
  | _ => []

/-- The reports of the selected actions of a run, the first one first. -/
def reports (selects : Action → Bool) (session : Session) : List Action → List Report
  | [] => []
  | action :: rest =>
    let (outcome, after) := session.step action
    if selects action then
      ⟨action, session.waits action, outcome, after⟩ :: after.reports selects rest
    else after.reports selects rest

theorem reports_cons (selects : Action → Bool) (session : Session) (action : Action)
    (rest : List Action) :
    session.reports selects (action :: rest) =
      if selects action then
        ⟨action, session.waits action, (session.step action).1, (session.step action).2⟩ ::
          (session.step action).2.reports selects rest
      else (session.step action).2.reports selects rest := rfl

/-! ## Runs on devices that stay usable -/

theorem run_usable {session : Session} (sound : session.Sound) {actions : List Action}
    (usable : (session.run actions).2.device.lost = false) : session.device.lost = false :=
  (run_continues sound actions).usable usable

/-- An engine on a usable device does not take it for lost. -/
theorem Sound.alive {session : Session} (sound : session.Sound) {engine : Engine}
    (occupied : session.engine? = some engine) (usable : session.device.lost = false) :
    engine.lost = false := by
  obtain ⟨_, rested⟩ := sound.rested occupied
  have noticed := rested.paced.lost
  rw [device_of_engine? occupied] at usable
  cases lost : engine.lost with
  | false => rfl
  | true => exact absurd ((noticed lost).symm.trans usable) (by simp)

end Session

end Compositor
