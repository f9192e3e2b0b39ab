import Mathlib
import Compositor.Scene

/-!
# Scenes that can be played

The check of a scene accepts exactly the valid scenes, and refuses any other for the first thing
that is wrong with it: the display, the targets, the frames, and then the layers in their order. A
valid scene can be played for ever. Every frame has a target and layers, and each layer is drawn from
the one source that the scene gives for it.
-/

set_option autoImplicit false

namespace Compositor

/-! ## Going through a list -/

section

variable {item failure : Type} {task : item × Nat → Except failure Unit}

theorem forM_zipIdx_eq_ok_iff (items : List item) (start : Nat) :
    (items.zipIdx start).forM task = .ok () ↔
      ∀ position item, items[position]? = some item → task (item, start + position) = .ok () := by
  induction items generalizing start with
  | nil => simp [pure, Except.pure]
  | cons head rest ih =>
      have unfolded : ((head :: rest).zipIdx start).forM task =
          (task (head, start)).bind fun _ => (rest.zipIdx (start + 1)).forM task := rfl
      rw [unfolded]
      cases first : task (head, start) with
      | error error =>
          simp only [Except.bind, reduceCtorEq, false_iff]
          intro all
          have passes := all 0 head rfl
          simp [first] at passes
      | ok =>
          simp only [Except.bind, ih]
          constructor
          · intro later position item found
            cases position with
            | zero =>
                cases found
                exact first
            | succ position =>
                rw [Nat.add_comm position, ← Nat.add_assoc]
                exact later position item found
          · intro all position item found
            rw [Nat.add_assoc, Nat.add_comm 1]
            exact all (position + 1) item found

/-- A failure is that of the first item that fails. -/
theorem forM_zipIdx_eq_error_iff (items : List item) (start : Nat) (error : failure) :
    (items.zipIdx start).forM task = .error error ↔
      ∃ position item, items[position]? = some item ∧
        task (item, start + position) = .error error ∧
        ∀ earlier other, earlier < position → items[earlier]? = some other →
          task (other, start + earlier) = .ok () := by
  induction items generalizing start with
  | nil => simp [pure, Except.pure]
  | cons head rest ih =>
      have unfolded : ((head :: rest).zipIdx start).forM task =
          (task (head, start)).bind fun _ => (rest.zipIdx (start + 1)).forM task := rfl
      rw [unfolded]
      cases first : task (head, start) with
      | error cause =>
          simp only [Except.bind, Except.error.injEq]
          constructor
          · rintro rfl
            exact ⟨0, head, rfl, first, nofun⟩
          · rintro ⟨position, item, found, fails, before⟩
            cases position with
            | zero =>
                cases found
                exact Except.error.inj (first.symm.trans fails)
            | succ position =>
                have passes := before 0 head (Nat.succ_pos position) rfl
                simp [first] at passes
      | ok =>
          simp only [Except.bind, ih]
          constructor
          · rintro ⟨position, item, found, fails, before⟩
            refine ⟨position + 1, item, found, ?_, ?_⟩
            · rw [Nat.add_comm position, ← Nat.add_assoc]
              exact fails
            · intro earlier other sooner here
              cases earlier with
              | zero =>
                  cases here
                  exact first
              | succ earlier =>
                  rw [Nat.add_comm earlier, ← Nat.add_assoc]
                  exact before earlier other (Nat.lt_of_succ_lt_succ sooner) here
          · rintro ⟨position, item, found, fails, before⟩
            cases position with
            | zero =>
                cases found
                simp [first] at fails
            | succ position =>
                refine ⟨position, item, found, ?_, ?_⟩
                · rw [Nat.add_assoc, Nat.add_comm 1]
                  exact fails
                · intro earlier other sooner here
                  rw [Nat.add_assoc, Nat.add_comm 1]
                  exact before (earlier + 1) other (Nat.succ_lt_succ sooner) here

end

/-! ## Layers -/

namespace SceneLayer

/-- Either a buffer is given or a colour. -/
def HasOneSource (layer : SceneLayer) : Prop :=
  (layer.buffer.isSome = true ∧ layer.color = none) ∨
    (layer.buffer = none ∧ layer.color.isSome = true)

structure Valid (layer : SceneLayer) : Prop where
  source : layer.HasOneSource
  alpha : layer.alpha.inUnitInterval = true

/-- What is wrong with a layer at a position. Its source comes before its alpha. -/
inductive Flawed (layer : SceneLayer) (frame index : Nat) : ValidationError → Prop where
  | source : ¬layer.HasOneSource → Flawed layer frame index (.layerSource frame index)
  | alpha : layer.HasOneSource → layer.alpha.inUnitInterval = false →
      Flawed layer frame index (.layerAlpha frame index)

/-- A layer as it is drawn: from what is given for it and from nothing else. -/
structure DrawnAs (given : SceneLayer) (display : SceneDisplay) (layer : Layer) : Prop where
  sampled : ∀ buffer fence,
    layer.source = .sampled buffer fence ↔ given.buffer = some buffer ∧ fence = none
  solid : ∀ color, layer.source = .solid color ↔ given.color = some color
  alpha : layer.alpha = given.alpha
  bounded : ∀ bounds, given.bounds = some bounds → layer.bounds = bounds
  /-- A layer without bounds fills the display. -/
  unbounded : given.bounds = none → layer.bounds = .ofSize display.width display.height

variable (layer : SceneLayer)

theorem isSome_ne_isSome_iff : layer.buffer.isSome ≠ layer.color.isSome ↔ layer.HasOneSource := by
  unfold HasOneSource
  cases layer.buffer <;> cases layer.color <;> simp

variable (frame index : Nat)

theorem check_eq_ok_iff : layer.check frame index = .ok () ↔ layer.Valid := by
  have sources := layer.isSome_ne_isSome_iff
  unfold check
  split
  · rename_i same
    simp only [reduceCtorEq, false_iff]
    intro valid
    exact sources.mpr valid.source same
  · rename_i different
    split
    · rename_i inside
      simp only [true_iff]
      exact ⟨sources.mp different, inside⟩
    · rename_i outside
      simp only [reduceCtorEq, false_iff]
      intro valid
      exact outside valid.alpha

theorem check_eq_error_iff (error : ValidationError) :
    layer.check frame index = .error error ↔ layer.Flawed frame index error := by
  have sources := layer.isSome_ne_isSome_iff
  unfold check
  split
  · rename_i same
    have lacks : ¬layer.HasOneSource := fun one => sources.mpr one same
    constructor
    · rintro ⟨⟩
      exact .source lacks
    · intro flawed
      cases flawed with
      | source => rfl
      | alpha one => exact absurd one lacks
  · rename_i different
    have one := sources.mp different
    split
    · rename_i inside
      simp only [reduceCtorEq, false_iff]
      intro flawed
      cases flawed with
      | source lacks => exact lacks one
      | alpha _ outside => simp [inside] at outside
    · rename_i outside
      constructor
      · rintro ⟨⟩
        exact .alpha one (Bool.eq_false_iff.mpr outside)
      · intro flawed
        cases flawed with
        | source lacks => exact absurd one lacks
        | alpha => rfl

/-- With one source given, neither the colour of nothing nor the precedence of buffers matters. -/
theorem toLayer_drawnAs {layer : SceneLayer} (one : layer.HasOneSource) (display : SceneDisplay) :
    layer.DrawnAs display (layer.toLayer (.ofSize display.width display.height)) := by
  have bounds : (layer.toLayer (.ofSize display.width display.height)).bounds =
      layer.bounds.getD (.ofSize display.width display.height) := rfl
  refine ⟨?_, ?_, rfl, ?_, ?_⟩
  · intro buffer fence
    rcases one with ⟨given, -⟩ | ⟨missing, -⟩
    · obtain ⟨buffer', found⟩ := Option.isSome_iff_exists.mp given
      simp [toLayer, source, found, eq_comm]
    · simp [toLayer, source, missing]
  · intro color
    rcases one with ⟨given, none⟩ | ⟨missing, given⟩
    · obtain ⟨buffer, found⟩ := Option.isSome_iff_exists.mp given
      simp [toLayer, source, found, none]
    · obtain ⟨color', found⟩ := Option.isSome_iff_exists.mp given
      simp [toLayer, source, missing, found]
  · intro given found
    rw [bounds, found]
    rfl
  · intro missing
    rw [bounds, missing]
    rfl

end SceneLayer

/-! ## Frames -/

namespace SceneFrame

variable (frame : SceneFrame) (index : Nat)

theorem check_eq_ok_iff : frame.check index = .ok () ↔
    ∀ (position : Nat) (layer : SceneLayer),
      frame.layers[position]? = some layer → layer.Valid := by
  unfold check
  rw [forM_zipIdx_eq_ok_iff]
  simp only [SceneLayer.check_eq_ok_iff]

theorem check_eq_error_iff (error : ValidationError) : frame.check index = .error error ↔
    ∃ position, ∃ layer : SceneLayer, frame.layers[position]? = some layer ∧
      layer.Flawed index position error ∧
      ∀ earlier (other : SceneLayer), earlier < position →
        frame.layers[earlier]? = some other → other.Valid := by
  unfold check
  rw [forM_zipIdx_eq_error_iff]
  simp only [SceneLayer.check_eq_error_iff, SceneLayer.check_eq_ok_iff, Nat.zero_add]

end SceneFrame

/-! ## Scenes -/

namespace Scene

/-- The layer at a position of a frame. -/
def layer? (scene : Scene) (frame index : Nat) : Option SceneLayer :=
  scene.frames[frame]?.bind (·.layers[index]?)

structure HasExtent (scene : Scene) : Prop where
  width : scene.display.width ≠ 0
  height : scene.display.height ≠ 0

structure Valid (scene : Scene) : Prop where
  extent : scene.HasExtent
  targets : scene.targets ≠ []
  frames : scene.frames ≠ []
  layers : ∀ frame index layer, scene.layer? frame index = some layer → layer.Valid

/-- All layers before a position are valid: those of earlier frames, and those below it. -/
def ValidBefore (scene : Scene) (frame index : Nat) : Prop :=
  ∀ earlierFrame earlierIndex layer,
    earlierFrame < frame ∨ (earlierFrame = frame ∧ earlierIndex < index) →
    scene.layer? earlierFrame earlierIndex = some layer → layer.Valid

/-- The first thing that is wrong with a scene. -/
inductive Refused (scene : Scene) : ValidationError → Prop where
  | display : ¬scene.HasExtent → Refused scene .emptyDisplay
  | targets : scene.HasExtent → scene.targets = [] → Refused scene .noTargets
  | frames : scene.HasExtent → scene.targets ≠ [] → scene.frames = [] → Refused scene .noFrames
  | layer {frame index : Nat} {layer : SceneLayer} {error : ValidationError} :
      scene.HasExtent → scene.targets ≠ [] → scene.layer? frame index = some layer →
      layer.Flawed frame index error → scene.ValidBefore frame index → Refused scene error

/-- What there is to play as a frame: a target and layers, in turn. -/
def Offers (scene : Scene) (index : Nat) : Prop :=
  ∃ target frame layers,
    scene.targets[index % scene.targets.length]? = some target ∧
    scene.frames[index % scene.frames.length]? = some frame ∧
    scene.target? index = some target ∧ scene.layers? index = some layers ∧
    List.Forall₂ (fun given layer => given.DrawnAs scene.display layer) frame.layers layers

variable (scene : Scene)

theorem layer?_eq_some_iff {frame index : Nat} {layer : SceneLayer} :
    scene.layer? frame index = some layer ↔
      ∃ shown, scene.frames[frame]? = some shown ∧ shown.layers[index]? = some layer := by
  rw [layer?, Option.bind_eq_some_iff]

/-- What is left to check once there is something to play. -/
private def checkLayers : Except ValidationError Unit :=
  scene.frames.zipIdx.forM fun (frame, index) => frame.check index

private theorem checkLayers_eq_ok_iff : scene.checkLayers = .ok () ↔
    ∀ frame index layer, scene.layer? frame index = some layer → layer.Valid := by
  unfold checkLayers
  rw [forM_zipIdx_eq_ok_iff]
  simp only [SceneFrame.check_eq_ok_iff, layer?_eq_some_iff]
  constructor
  · rintro all frame index layer ⟨shown, here, found⟩
    exact all frame shown here index layer found
  · intro all frame shown here index layer found
    exact all frame index layer ⟨shown, here, found⟩

private theorem checkLayers_eq_error_iff (error : ValidationError) :
    scene.checkLayers = .error error ↔
      ∃ frame index layer, scene.layer? frame index = some layer ∧
        layer.Flawed frame index error ∧ scene.ValidBefore frame index := by
  unfold checkLayers
  rw [forM_zipIdx_eq_error_iff]
  simp only [SceneFrame.check_eq_error_iff, SceneFrame.check_eq_ok_iff, Nat.zero_add]
  constructor
  · rintro ⟨frame, shown, here, ⟨index, layer, found, flawed, below⟩, before⟩
    refine ⟨frame, index, layer, scene.layer?_eq_some_iff.mpr ⟨shown, here, found⟩, flawed, ?_⟩
    intro earlierFrame earlierIndex other precedes given
    obtain ⟨otherShown, otherHere, otherFound⟩ := scene.layer?_eq_some_iff.mp given
    rcases precedes with sooner | ⟨rfl, lower⟩
    · exact before earlierFrame otherShown sooner otherHere earlierIndex other otherFound
    · cases here.symm.trans otherHere
      exact below earlierIndex other lower otherFound
  · rintro ⟨frame, index, layer, given, flawed, before⟩
    obtain ⟨shown, here, found⟩ := scene.layer?_eq_some_iff.mp given
    refine ⟨frame, shown, here, ⟨index, layer, found, flawed, ?_⟩, ?_⟩
    · intro earlierIndex other lower otherFound
      exact before frame earlierIndex other (.inr ⟨rfl, lower⟩)
        (scene.layer?_eq_some_iff.mpr ⟨shown, here, otherFound⟩)
    · intro earlierFrame otherShown sooner otherHere earlierIndex other otherFound
      exact before earlierFrame earlierIndex other (.inl sooner)
        (scene.layer?_eq_some_iff.mpr ⟨otherShown, otherHere, otherFound⟩)

/-- The check goes through the conditions one by one. -/
private inductive Checked : Except ValidationError Unit → Prop where
  | display : ¬scene.HasExtent → Checked (.error .emptyDisplay)
  | targets : scene.HasExtent → scene.targets = [] → Checked (.error .noTargets)
  | frames : scene.HasExtent → scene.targets ≠ [] → scene.frames = [] → Checked (.error .noFrames)
  | layers : scene.HasExtent → scene.targets ≠ [] → scene.frames ≠ [] → Checked scene.checkLayers

private theorem check_checked : scene.Checked scene.check := by
  unfold check
  split
  · rename_i empty
    refine .display fun extent => ?_
    rcases empty with width | height
    · exact extent.width width
    · exact extent.height height
  · rename_i shown
    obtain ⟨width, height⟩ := not_or.mp shown
    have extent : scene.HasExtent := ⟨width, height⟩
    split
    · rename_i none
      exact .targets extent (List.isEmpty_iff.mp none)
    · rename_i targets
      have targets := fun none => targets (List.isEmpty_iff.mpr none)
      split
      · rename_i none
        exact .frames extent targets (List.isEmpty_iff.mp none)
      · rename_i frames
        exact .layers extent targets fun none => frames (List.isEmpty_iff.mpr none)

theorem check_eq_ok_iff : scene.check = .ok () ↔ scene.Valid := by
  have checked := scene.check_checked
  generalize scene.check = result at checked
  cases checked with
  | display empty =>
      simp only [reduceCtorEq, false_iff]
      exact fun valid => empty valid.extent
  | targets _ none =>
      simp only [reduceCtorEq, false_iff]
      exact fun valid => valid.targets none
  | frames _ _ none =>
      simp only [reduceCtorEq, false_iff]
      exact fun valid => valid.frames none
  | layers extent targets frames =>
      rw [checkLayers_eq_ok_iff]
      exact ⟨fun layers => ⟨extent, targets, frames, layers⟩, fun valid => valid.layers⟩

theorem check_eq_error_iff (error : ValidationError) :
    scene.check = .error error ↔ scene.Refused error := by
  have checked := scene.check_checked
  generalize scene.check = result at checked
  cases checked with
  | display empty =>
      constructor
      · rintro ⟨⟩
        exact .display empty
      · intro refused
        cases refused with
        | display => rfl
        | targets extent | frames extent | layer extent => exact absurd extent empty
  | targets extent none =>
      constructor
      · rintro ⟨⟩
        exact .targets extent none
      · intro refused
        cases refused with
        | display empty => exact absurd extent empty
        | targets => rfl
        | frames _ targets | layer _ targets => exact absurd none targets
  | frames extent targets none =>
      constructor
      · rintro ⟨⟩
        exact .frames extent targets none
      · intro refused
        cases refused with
        | display empty => exact absurd extent empty
        | targets _ none => exact absurd none targets
        | frames => rfl
        | layer _ _ given =>
            obtain ⟨shown, here, -⟩ := scene.layer?_eq_some_iff.mp given
            simp [none] at here
  | layers extent targets frames =>
      rw [checkLayers_eq_error_iff]
      constructor
      · rintro ⟨frame, index, layer, given, flawed, before⟩
        exact .layer extent targets given flawed before
      · intro refused
        cases refused with
        | display empty => exact absurd extent empty
        | targets _ none => exact absurd none targets
        | frames _ _ none => exact absurd none frames
        | layer _ _ given flawed before => exact ⟨_, _, _, given, flawed, before⟩

/-- Targets and frames are used in turn, so none is ever missing. -/
theorem Valid.offers {scene : Scene} (valid : scene.Valid) (index : Nat) : scene.Offers index := by
  have someTarget := Nat.mod_lt index (List.length_pos_iff.mpr valid.targets)
  have someFrame := Nat.mod_lt index (List.length_pos_iff.mpr valid.frames)
  have aimed := List.getElem?_eq_getElem someTarget
  have framed := List.getElem?_eq_getElem someFrame
  generalize scene.frames[index % scene.frames.length] = frame at framed
  have layered : scene.layers? index = some (frame.layers.map (·.toLayer scene.extent)) := by
    rw [layers?, framed]
    rfl
  refine ⟨_, frame, _, aimed, framed, aimed, layered, ?_⟩
  rw [List.forall₂_map_right_iff, List.forall₂_same]
  intro given member
  obtain ⟨position, found⟩ := List.getElem?_of_mem member
  have shown := scene.layer?_eq_some_iff.mpr ⟨frame, framed, found⟩
  exact SceneLayer.toLayer_drawnAs (valid.layers _ _ _ shown).source scene.display

/-- The check of a scene accepts the valid scenes and no others, and refuses any other scene for the
first thing that is wrong with it. What passes has a target and layers for every frame there may be,
each layer with the one source that was given for it. -/
theorem check_settles_playback :
    (scene.check = .ok () ↔ scene.Valid) ∧
      (∀ error, scene.check = .error error ↔ scene.Refused error) ∧
      (scene.check = .ok () → ∀ index, scene.Offers index) := by
  refine ⟨scene.check_eq_ok_iff, scene.check_eq_error_iff, ?_⟩
  intro checked index
  exact (scene.check_eq_ok_iff.mp checked).offers index

/-- Two targets, and two frames with a layer of each kind. -/
private def twoFrames : Scene where
  display := ⟨64, 32, false⟩
  targets := [.plain ⟨100⟩ 64 32, .plain ⟨101⟩ 64 32]
  frames := [
    ⟨[⟨none, some .black, none, .one⟩, ⟨some (.plain ⟨1⟩ 16 16), none, none, ⟨0x3f000000⟩⟩]⟩,
    ⟨[]⟩]

/-- A scene of two frames has a target and layers for the frame of any number. -/
theorem check_settles_two_frames :
    twoFrames.check = .ok () ∧ twoFrames.Offers 5 ∧ twoFrames.Offers (2 ^ 64 - 1) := by
  have checked : twoFrames.check = .ok () := by decide
  obtain ⟨-, -, plays⟩ := check_settles_playback twoFrames
  exact ⟨checked, plays checked 5, plays checked (2 ^ 64 - 1)⟩

/-- Of two layers without a source, the first one is reported, and its source before its alpha. -/
example : ({ twoFrames with frames := [⟨[]⟩, ⟨[⟨none, none, none, ⟨0x40000000⟩⟩,
    ⟨none, none, none, .one⟩]⟩] } : Scene).check = .error (.layerSource 1 0) := by decide

end Scene

end Compositor
