import Compositor.Proofs.Paths.Planning

/-!
# Waits of a frame

A frame waits for its input, and then for each sampled layer that has a texture, bottom to top. How
these waits end is all that a frame learns from fences. Runs can be compared as soon as the waits
that both of them come to end alike.
-/

set_option autoImplicit false

namespace Compositor

namespace FramePlan

/-- How the wait for a layer ends, if it comes to that. -/
def wait? (frame : FrameSeq) (plan : FramePlan) (layer : Layer) : Option Bool :=
  match layer.source with
  | .solid _ => none
  | .sampled buffer acquireFence =>
    match plan.engine.textureFor buffer frame with
    | (.error _, _) => none
    | (.ok _, engine) => some (engine.awaitAny acquireFence).1

def waits (frame : FrameSeq) : FramePlan → List (Layer × Nat) → List (Option Bool)
  | _, [] => []
  | plan, (layer, index) :: rest =>
    plan.wait? frame layer ::
      match plan.look frame index layer with
      | .error _ => []
      | .ok next => waits frame next rest

end FramePlan

/-- How the waits of a frame end: the wait for its input, and then one for each layer. A wait that
the frame does not come to has no outcome. -/
def Engine.waits (engine : Engine) (request : FrameRequest) : List (Option Bool) :=
  if engine.lost then []
  else
    match engine.awaitAny request.inputFence with
    | (false, _) => [some false]
    | (true, waited) =>
      let switched := waited.switchTo request.mode
      some true ::
        if switched.lost ∨ switched.contexts.active ≠ request.mode then []
        else
          (FramePlan.start switched.begun).waits switched.begun.progress.lastIssued
            request.layers.zipIdx

namespace Waits

/-- The waits that both frames come to end alike. -/
def Agree (left right : List (Option Bool)) : Prop :=
  ∀ both ∈ left.zip right, ∀ first ∈ both.1, ∀ second ∈ both.2, first = second

instance (left right : List (Option Bool)) : Decidable (Agree left right) :=
  inferInstanceAs (Decidable (∀ both ∈ left.zip right, ∀ first ∈ both.1, ∀ second ∈ both.2,
    first = second))

/-- Every wait that comes about ends as foretold. -/
def Foretold (signals : Nat → Bool) (waits : List (Option Bool)) : Prop :=
  ∀ index outcome, waits[index]? = some (some outcome) → signals index = outcome

theorem Foretold.head {signals : Nat → Bool} {first : Option Bool} {rest : List (Option Bool)}
    (foretold : Foretold signals (first :: rest)) : ∀ outcome ∈ first, signals 0 = outcome :=
  fun outcome same => foretold 0 outcome (congrArg some same)

theorem Foretold.tail {signals : Nat → Bool} {first : Option Bool} {rest : List (Option Bool)}
    (foretold : Foretold signals (first :: rest)) :
    Foretold (fun index => signals (index + 1)) rest :=
  fun index outcome same => foretold (index + 1) outcome same

/-- What both frames learn; a wait that neither comes to might as well succeed. -/
def learned (left right : List (Option Bool)) (index : Nat) : Bool :=
  left[index]?.join.getD (right[index]?.join.getD true)

theorem Agree.foretold {left right : List (Option Bool)} (agree : Agree left right) :
    Foretold (learned left right) left ∧ Foretold (learned left right) right := by
  constructor
  · intro index outcome ends
    simp [learned, ends]
  · intro index outcome ends
    cases other : left[index]?.join with
    | none => simp [learned, other, ends]
    | some first =>
        have found : left[index]? = some (some first) := Option.join_eq_some_iff.mp other
        have both : (some first, some outcome) ∈ left.zip right :=
          List.mem_of_getElem? (List.getElem?_zip_eq_some.mpr ⟨found, ends⟩)
        simpa [learned, other] using agree _ both first rfl outcome rfl

end Waits

end Compositor
