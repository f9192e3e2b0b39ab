import Compositor.Engine.Operations
import Compositor.Proofs.Device.Fences
import Compositor.Proofs.Device.Images
import Mathlib.Data.List.Forall2

/-!
# Moments of an engine

An operation of an engine is cut into moves. Between two moves the engine may hold images that are
in no cache and not parked, because they just left a cache or were just made; a moment names them.
Every operation is a path of moves, so what all moves keep holds throughout every operation.
-/

set_option autoImplicit false

namespace Compositor

namespace Image

def asLive (image : Image) : LiveImage := ⟨image.handle, image.mode, image.buffer, image.kind⟩

/-- The latest use of the image is `frame` or a later submission. -/
def UsedSince (image : Image) (frame : FrameSeq) : Prop :=
  ∃ latest ∈ image.lastUsed, frame ≤ latest

theorem usedSince_markUsed (image : Image) (frame : FrameSeq) :
    (image.markUsed frame).UsedSince frame := by
  refine ⟨_, rfl, ?_⟩
  cases image.lastUsed with
  | none => exact Nat.le_refl frame
  | some previous => exact Nat.le_max_right previous frame

theorem UsedSince.markUsed {image : Image} {frame : FrameSeq} (used : image.UsedSince frame)
    (later : FrameSeq) : (image.markUsed later).UsedSince frame := by
  obtain ⟨latest, member, bound⟩ := used
  refine ⟨_, rfl, ?_⟩
  rw [Option.mem_def.mp member]
  exact Nat.le_trans bound (Nat.le_max_left latest later)

/-- The image was left alone or marked as used by `frame`. -/
def MarkedBy (frame : FrameSeq) (image later : Image) : Prop :=
  later = image ∨ later = image.markUsed frame

theorem MarkedBy.asLive {frame : FrameSeq} {image later : Image}
    (marked : MarkedBy frame image later) : later.asLive = image.asLive := by
  rcases marked with rfl | rfl <;> rfl

theorem markedBy_self (frame : FrameSeq) (images : List Image) :
    List.Forall₂ (MarkedBy frame) images images :=
  List.forall₂_same.mpr fun _ _ => .inl rfl

theorem markedBy_map (frame : FrameSeq) (isUsed : Image → Prop) [DecidablePred isUsed] :
    ∀ images : List Image, List.Forall₂ (MarkedBy frame) images
      (images.map fun image => if isUsed image then image.markUsed frame else image)
  | [] => .nil
  | image :: images => by
      refine .cons ?_ (markedBy_map frame isUsed images)
      beta_reduce
      split
      · exact .inr rfl
      · exact .inl rfl

theorem map_asLive_of_marked {frame : FrameSeq} {images later : List Image}
    (marked : List.Forall₂ (MarkedBy frame) images later) :
    later.map asLive = images.map asLive := by
  induction marked with
  | nil => rfl
  | cons same _ ih => rw [List.map_cons, List.map_cons, same.asLive, ih]

theorem exists_of_marked {frame : FrameSeq} {images later : List Image}
    (marked : List.Forall₂ (MarkedBy frame) images later) {image : Image}
    (member : image ∈ later) : ∃ original ∈ images, MarkedBy frame original image := by
  induction marked with
  | nil => cases member
  | cons same _ ih =>
      rcases List.mem_cons.mp member with rfl | rest
      · exact ⟨_, List.mem_cons_self, same⟩
      · obtain ⟨original, inside, found⟩ := ih rest
        exact ⟨original, List.mem_cons_of_mem _ inside, found⟩

end Image

namespace Engine

/-- The images that are cached or parked. -/
def owned (engine : Engine) : List Image :=
  engine.textures.entries ++ engine.outputs.entries ++ engine.retired.parked

end Engine

/-- The two caches hold images of their own kind, at most one for a buffer. -/
structure Shelved (textures outputs : List Image) : Prop where
  textureKinds : ∀ image ∈ textures, image.kind = .texture
  textureBuffers : (textures.map (·.buffer)).Nodup
  outputKinds : ∀ image ∈ outputs, image.kind = .output
  outputBuffers : (outputs.map (·.buffer)).Nodup

/-- An engine within an operation. -/
structure Moment where
  engine : Engine
  /-- The images that the engine holds besides those that are cached or parked. -/
  hand : List Image
  /-- The images that the commands recorded since the latest flush use. -/
  recorded : List ImageHandle

namespace Moment

/-- All images that the engine holds. -/
def held (moment : Moment) : List Image := moment.engine.owned ++ moment.hand

end Moment

/-- One move of an engine, with what the engine has made sure of before. -/
inductive Move : Moment → Moment → Prop where
  | device {engine : Engine} {hand : List Image} {recorded : List ImageHandle} {device : Device} :
      Device.Step engine.device device →
      Move ⟨engine, hand, recorded⟩ ⟨{ engine with device }, hand, recorded⟩
  /-- Book-keeping that no image and no submission depends on. -/
  | note {engine : Engine} {hand : List Image} {recorded : List ImageHandle}
      (tracer : Option Tracer) (framesDrawn : Nat) (cleaned : Bool) :
      Move ⟨engine, hand, recorded⟩
        ⟨{ engine with tracer, framesDrawn, progress := { engine.progress with cleaned } },
          hand, recorded⟩
  | markLost {engine : Engine} {hand : List Image} {recorded : List ImageHandle} :
      engine.device.lost = true →
      Move ⟨engine, hand, recorded⟩ ⟨engine.markLost, hand, recorded⟩
  | poll {engine : Engine} {hand : List Image} {recorded : List ImageHandle} :
      Move ⟨engine, hand, recorded⟩ ⟨engine.poll, hand, recorded⟩
  | begin {engine : Engine} {hand : List Image} :
      engine.progress.recording = none →
      Move ⟨engine, hand, []⟩ ⟨{ engine with progress := engine.progress.begin }, hand, []⟩
  /-- Only a frame of which nothing was recorded is dropped on a usable device. -/
  | abandon {engine : Engine} {hand : List Image} {recorded : List ImageHandle} :
      engine.device.lost = true ∨ recorded = [] →
      Move ⟨engine, hand, recorded⟩ ⟨engine.abandon, hand, recorded⟩
  | idle {engine : Engine} {hand : List Image} {recorded : List ImageHandle} :
      engine.device.lost = true ∨ History.Drained engine.device.events →
      Move ⟨engine, hand, recorded⟩
        ⟨{ engine with progress := engine.progress.markIdle }, hand, recorded⟩
  /-- Images change their places. -/
  | shift {engine : Engine} {hand rest : List Image} {recorded : List ImageHandle}
      {textures : TextureCache} {outputs : OutputCache} {retired : RetireQueue} :
      Shelved textures.entries outputs.entries →
      (({ engine with textures, outputs, retired } : Engine).owned ++ rest).Perm
        (engine.owned ++ hand) →
      Move ⟨engine, hand, recorded⟩
        ⟨{ engine with textures, outputs, retired }, rest, recorded⟩
  /-- Images are marked as used by the frame being recorded. -/
  | mark {engine : Engine} {hand marked : List Image} {recorded : List ImageHandle}
      {textures : TextureCache} {outputs : OutputCache} {frame : FrameSeq} :
      engine.progress.recording = some frame →
      Shelved textures.entries outputs.entries →
      List.Forall₂ (Image.MarkedBy frame) (engine.owned ++ hand)
        (({ engine with textures, outputs } : Engine).owned ++ marked) →
      Move ⟨engine, hand, recorded⟩ ⟨{ engine with textures, outputs }, marked, recorded⟩
  | issue {engine : Engine} {hand : List Image} {recorded : List ImageHandle}
      {kind : ImageKind} {buffer : BufferId} :
      engine.device.lost = false →
      Move ⟨engine, hand, recorded⟩
        ⟨{ engine with device := (engine.device.issue engine.contexts.current kind buffer).2 },
          .fresh (engine.device.issue engine.contexts.current kind buffer).1 buffer
            engine.contexts.current kind :: hand,
          recorded⟩
  | destroy {engine : Engine} {hand : List Image} {recorded : List ImageHandle} {image : Image} :
      engine.progress.isComplete image.lastUsed = true ∨ engine.device.lost = true →
      Move ⟨engine, image :: hand, recorded⟩
        ⟨{ engine with device := engine.device.acceptDestroy image.mode image.handle },
          hand, recorded⟩
  /-- A context is handed images that the engine holds. -/
  | handOver {engine : Engine} {hand : List Image} {recorded : List ImageHandle}
      {use : ImageUse} {handles : List ImageHandle} : use ≠ .destroy →
      (∀ handle ∈ handles, ∃ image ∈ engine.owned ++ hand, image.handle = handle) →
      Move ⟨engine, hand, recorded⟩
        ⟨{ engine with device := engine.device.log (.handed engine.contexts.current use handles) },
          hand, recorded⟩
  | bindTarget {engine : Engine} {hand : List Image} {recorded : List ImageHandle}
      {frame : FrameSeq} {target : ImageHandle} :
      engine.device.lost = false → engine.progress.recording = some frame →
      (∃ image ∈ engine.owned ++ hand, image.handle = target ∧ image.UsedSince frame) →
      Move ⟨engine, hand, recorded⟩
        ⟨{ engine with device := engine.device.log (.began engine.contexts.current target) },
          hand, target :: recorded⟩
  | draw {engine : Engine} {hand : List Image} {recorded : List ImageHandle}
      {frame : FrameSeq} {target : ImageHandle} {source : Option ImageHandle} :
      engine.device.lost = false → engine.progress.recording = some frame →
      (∀ handle ∈ target :: source.toList,
        ∃ image ∈ engine.owned ++ hand, image.handle = handle ∧ image.UsedSince frame) →
      Move ⟨engine, hand, recorded⟩
        ⟨{ engine with
            device := engine.device.log (.drawn ⟨engine.contexts.current, target, source⟩) },
          hand, target :: source.toList ++ recorded⟩
  | submitFenced {engine : Engine} {hand : List Image} {recorded : List ImageHandle}
      {frame : FrameSeq} {fence : Fence} {device : Device} :
      engine.progress.recording = some frame → Device.Flushes engine.device (some fence) device →
      Move ⟨engine, hand, recorded⟩
        ⟨{ engine with device, progress := engine.progress.submitted frame (some fence) },
          hand, []⟩
  /-- Without a usable fence the device is drained. -/
  | submitDrained {engine : Engine} {hand : List Image} {recorded : List ImageHandle}
      {frame : FrameSeq} {fence : Option Fence} {flushed ready : Device} :
      engine.progress.recording = some frame → Device.Flushes engine.device fence flushed →
      Device.Quiet flushed ready → ready.lost = false →
      Move ⟨engine, hand, recorded⟩
        ⟨{ engine with
            device := ready.acceptFinish.2
            progress := engine.progress.markIdle.submitted frame none },
          hand, []⟩
  /-- The device is lost between a flush and the book-keeping about it. -/
  | flushLost {engine : Engine} {hand : List Image} {recorded : List ImageHandle}
      {fence : Option Fence} {flushed device : Device} :
      Device.Flushes engine.device fence flushed → Device.Steps flushed device →
      device.lost = true →
      Move ⟨engine, hand, recorded⟩ ⟨{ engine with device }, hand, []⟩
  /-- The active mode changes only while the engine holds no image. -/
  | activate {engine : Engine} {recorded : List ImageHandle} {mode : Mode} :
      engine.contexts.has mode = true → engine.owned = [] →
      Move ⟨engine, [], recorded⟩
        ⟨{ engine with contexts := engine.contexts.activate mode }, [], recorded⟩

abbrev Moves : Moment → Moment → Prop := Relation.ReflTransGen Move

namespace Moves

theorem ofDevice {engine : Engine} {device : Device} {hand : List Image}
    {recorded : List ImageHandle} (steps : Device.Steps engine.device device) :
    Moves ⟨engine, hand, recorded⟩ ⟨{ engine with device }, hand, recorded⟩ := by
  induction steps with
  | refl => exact .refl
  | tail _ step ih => exact ih.tail (.device step)

end Moves

/-! ## What every move keeps -/

/-- The history only grows, and what is lost stays lost. -/
structure Continues (before after : Device) : Prop where
  lost : before.lost = true → after.lost = true
  events : ∃ added : History, after.events = added ++ before.events

namespace Continues

theorem refl (device : Device) : Continues device device := ⟨id, [], rfl⟩

theorem usable {before after : Device} (continues : Continues before after)
    (usable : after.lost = false) : before.lost = false := by
  cases lost : before.lost with
  | false => rfl
  | true => exact absurd ((continues.lost lost).symm.trans usable) (by simp)

theorem trans {first second third : Device} (left : Continues first second)
    (right : Continues second third) : Continues first third := by
  obtain ⟨before, beforeEq⟩ := left.events
  obtain ⟨after, afterEq⟩ := right.events
  refine ⟨right.lost ∘ left.lost, after ++ before, ?_⟩
  rw [afterEq, beforeEq, List.append_assoc]

theorem ofExtends {before after : Device} (extension : Device.Extends before after) :
    Continues before after := by
  obtain ⟨added, events, -⟩ := extension.events
  exact ⟨extension.lost, added, events⟩

theorem log (device : Device) (event : DeviceEvent) : Continues device (device.log event) :=
  ⟨id, [event], rfl⟩

theorem ofFlushes {before after : Device} {fence : Option Fence}
    (flushes : Device.Flushes before fence after) : Continues before after := by
  obtain ⟨added, events, -⟩ := flushes.events
  exact ⟨fun lost => flushes.lost.trans lost, added ++ [.flushed fence], by simp [events]⟩

theorem acceptDestroy (device : Device) (mode : Mode) (handle : ImageHandle) :
    Continues device (device.acceptDestroy mode handle) := by
  unfold Device.acceptDestroy Device.release
  split
  · exact ⟨id, [_, _], rfl⟩
  · exact ⟨id, [_, _], rfl⟩

end Continues

theorem Move.continues {before after : Moment} (move : Move before after) :
    Continues before.engine.device after.engine.device := by
  cases move with
  | device step => exact .ofExtends step.extends
  | issue => exact ⟨id, [_], rfl⟩
  | destroy => exact .acceptDestroy _ _ _
  | handOver => exact .log _ _
  | bindTarget => exact .log _ _
  | draw => exact .log _ _
  | submitFenced _ flushes => exact .ofFlushes flushes
  | @submitDrained _ _ _ _ _ _ ready _ flushes same _ =>
      have quiet : Device.Step _ ready := .quiet same
      have drained : Device.Step ready ready.acceptFinish.2 := .finish
      exact (Continues.ofFlushes flushes).trans
        ((Continues.ofExtends quiet.extends).trans (.ofExtends drained.extends))
  | flushLost flushes steps _ =>
      exact (Continues.ofFlushes flushes).trans (.ofExtends steps.extends)
  | note | markLost | poll | begin | abandon | idle | shift | mark | activate => exact .refl _

theorem Moves.continues {before after : Moment} (moves : Moves before after) :
    Continues before.engine.device after.engine.device := by
  induction moves with
  | refl => exact .refl _
  | tail _ move ih => exact ih.trans move.continues

/-! ## Rest -/

namespace Moment

/-- A usable engine records nothing. -/
def Closed (moment : Moment) : Prop :=
  moment.engine.lost = false → moment.engine.progress.recording = none ∧ moment.recorded = []

end Moment

/-- A path to a moment of rest, with nothing in the hand of the engine. -/
def Reaches (before : Moment) (after : Engine) : Prop :=
  ∃ recorded, Moves before ⟨after, [], recorded⟩ ∧ Moment.Closed ⟨after, [], recorded⟩

theorem Reaches.after {first second : Moment} {engine : Engine} (reaches : Reaches second engine)
    (moves : Moves first second) : Reaches first engine := by
  obtain ⟨recorded, rest, closed⟩ := reaches
  exact ⟨recorded, moves.trans rest, closed⟩

/-- A path to a moment of rest at which the same mode is active. -/
structure Leads (before : Moment) (after : Engine) : Prop where
  reaches : Reaches before after
  contexts : after.contexts = before.engine.contexts

namespace Leads

theorem after {first second : Moment} {engine : Engine} (leads : Leads second engine)
    (moves : Moves first second) (contexts : second.engine.contexts = first.engine.contexts) :
    Leads first engine :=
  ⟨leads.reaches.after moves, leads.contexts.trans contexts⟩

/-- An engine that opens no submission and records nothing stays at rest. -/
theorem ofKept {engine after : Engine} {recorded : List ImageHandle}
    (closed : Moment.Closed ⟨engine, [], recorded⟩)
    (moves : Moves ⟨engine, [], recorded⟩ ⟨after, [], recorded⟩)
    (lost : engine.lost = true → after.lost = true)
    (recording : after.progress.recording = engine.progress.recording)
    (contexts : after.contexts = engine.contexts) : Leads ⟨engine, [], recorded⟩ after := by
  refine ⟨⟨recorded, moves, fun usable => ?_⟩, contexts⟩
  cases before : engine.lost with
  | true => exact absurd ((lost before).symm.trans usable) (by simp)
  | false =>
      obtain ⟨none, nothing⟩ := closed before
      exact ⟨recording.trans none, nothing⟩

theorem refl {engine : Engine} {recorded : List ImageHandle}
    (closed : Moment.Closed ⟨engine, [], recorded⟩) : Leads ⟨engine, [], recorded⟩ engine :=
  .ofKept closed .refl id rfl rfl

theorem note {before : Moment} {engine : Engine} (leads : Leads before engine)
    (tracer : Option Tracer) (framesDrawn : Nat) (cleaned : Bool) :
    Leads before
      { engine with tracer, framesDrawn, progress := { engine.progress with cleaned } } := by
  obtain ⟨⟨recorded, moves, closed⟩, contexts⟩ := leads
  exact ⟨⟨recorded, moves.tail (.note tracer framesDrawn cleaned), closed⟩, contexts⟩

theorem ofLost {before : Moment} {engine : Engine} {recorded : List ImageHandle}
    (moves : Moves before ⟨engine, [], recorded⟩) (lost : engine.lost = true)
    (contexts : engine.contexts = before.engine.contexts) : Leads before engine :=
  ⟨⟨recorded, moves, fun usable => absurd (lost.symm.trans usable) (by simp)⟩, contexts⟩

theorem ofClosed {before : Moment} {engine : Engine} (moves : Moves before ⟨engine, [], []⟩)
    (closed : engine.lost = false → engine.progress.recording = none)
    (contexts : engine.contexts = before.engine.contexts) : Leads before engine :=
  ⟨⟨[], moves, fun usable => ⟨closed usable, rfl⟩⟩, contexts⟩

end Leads

end Compositor
