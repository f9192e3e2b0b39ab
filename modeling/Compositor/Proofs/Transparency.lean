import Compositor.Proofs.Outline.Session

/-!
# Timing is not observed

Whether a device has fences, whether it signals them by itself, and when it is told to signal them
decides when images are destroyed, but nothing of what is composed. So an engine without fences is
as good as one with them.
-/

set_option autoImplicit false

namespace Compositor

namespace Session

/-- The same images are cached, and the same were made and drawn on the way. -/
structure SameImages (left right : Session) : Prop where
  textures : left.engine?.map (·.textures.ids) = right.engine?.map (·.textures.ids)
  outputs : left.engine?.map (·.outputs.ids) = right.engine?.map (·.outputs.ids)
  draws : left.device.draws = right.device.draws
  /-- Every image that was ever made is the same, its handle included. -/
  created : History.created left.device.events = History.created right.device.events
  issued : left.device.issued = right.device.issued

end Session

/-- The same came of it, except for the fences that were given. -/
structure Report.Agrees (left right : Report) : Prop where
  outcome : left.outcome.unfenced = right.outcome.unfenced
  images : left.after.SameImages right.after

namespace Outline

def textureIds (outline : Outline) : List BufferId :=
  (outline.textures.map (·.buffer)).mergeSort fun left right => left.value ≤ right.value

def outputIds (outline : Outline) : List BufferId := outline.outputs.map (·.buffer)

end Outline

namespace Engine

theorem textures_ids (engine : Engine) : engine.textures.ids = engine.outline.textureIds := by
  rw [Outline.textureIds, outline, List.map_map]
  rfl

theorem outputs_ids (engine : Engine) : engine.outputs.ids = engine.outline.outputIds := by
  rw [Outline.outputIds, outline, List.map_map]
  rfl

end Engine

namespace Session

theorem draws_eq (device : Device) : device.draws = device.canvas.drawn.reverse := by
  rw [Device.draws, Device.history, Device.eventsSince, List.drop_zero, List.filterMap_reverse]
  rfl

theorem sameImages_of_layout {left right : Session} (same : left.layout = right.layout) :
    left.SameImages right := by
  have sites : left.tenancy.site = right.tenancy.site := congrArg Layout.site same
  have canvas := congrArg Site.canvas sites
  rw [site_canvas, site_canvas] at canvas
  have outline := congrArg Site.outline? sites
  rw [site_outline?, site_outline?] at outline
  have told {kind : Type} (tells : Outline → kind) :
      left.engine?.map (fun engine => tells engine.outline) =
        right.engine?.map (fun engine => tells engine.outline) := by
    have both := congrArg (Option.map tells) outline
    rwa [Option.map_map, Option.map_map] at both
  refine ⟨?_, ?_, ?_, congrArg Canvas.created canvas, congrArg Canvas.issued canvas⟩
  · simp only [Engine.textures_ids]
    exact told Outline.textureIds
  · simp only [Engine.outputs_ids]
    exact told Outline.outputIds
  · rw [draws_eq, draws_eq, canvas]

/-- Two runs of the same actions, on devices and with beliefs about them that differ in nothing but
fences, give the same frames, results and images, provided that the waits that both come to end
alike and that neither device is lost. Silent actions may be strewn over either run. -/
theorem timing_unobservable (options : DeviceOptions) (capabilities : Capabilities)
    (nativeFences autoSignal believesFences : Bool) (order otherOrder : ReleaseOrder)
    (actions otherActions : List Action) :
    let left := Session.new (.new options) capabilities order
    let right := Session.new (.new { options with nativeFences, autoSignal })
      { capabilities with nativeFences := believesFences } otherOrder
    (left.run actions).2.device.lost = false →
    (right.run otherActions).2.device.lost = false →
    List.Forall₂ Report.Comparable (left.reports Action.isHeard actions)
      (right.reports Action.isHeard otherActions) →
    List.Forall₂ Report.Agrees (left.reports Action.isHeard actions)
        (right.reports Action.isHeard otherActions) ∧
      (left.run actions).2.SameImages (right.run otherActions).2 := by
  intro left right leftUsable rightUsable comparable
  obtain ⟨foretellings, before, after⟩ :=
    Report.exists_foretellings (comparable.imp fun _ _ same => same.2)
  have actions := (Report.map_eq_map_iff (·.action.unfenced)).mpr
    (comparable.imp fun _ _ same => same.1)
  have leftRun := run_layout (new_sound options capabilities order) before leftUsable
  have rightRun := run_layout (new_sound _ _ otherOrder) after rightUsable
  have same : left.layout = right.layout := rfl
  rw [same, actions, rightRun] at leftRun
  obtain ⟨reports, final⟩ := Prod.mk.inj leftRun
  have alike := (Report.map_eq_map_iff _).mp reports.symm
  refine ⟨alike.imp fun first second same => ?_, sameImages_of_layout final.symm⟩
  obtain ⟨outcome, layout⟩ := Prod.mk.inj same
  exact ⟨outcome, sameImages_of_layout layout⟩

/-- A device that leaves it to others to signal its fences. -/
private def unhurried : DeviceOptions := ⟨true, true, false, 4096⟩

private def usualOptions : EngineOptions := ⟨1, false, true, 3000, 3000⟩

private def usualFrame (acquireFence : Option Fence) : FrameRequest :=
  ⟨.ofSize 64 64, [⟨.ofSize 8 8, .one, .sampled (.plain ⟨1⟩ 8 8) acquireFence⟩],
    .plain ⟨2⟩ 64 64, true, none⟩

/-- The second frame waits for the first, which the device with fences has not completed. -/
private def fencedActions : List Action :=
  [.start usualOptions, .draw (usualFrame none), .bind (.plain ⟨1⟩ 8 8), .signalNext,
    .draw (usualFrame (some ⟨0⟩)), .invalidate ⟨2⟩, .setProtected true]

private def drainedActions : List Action :=
  [.start usualOptions, .draw (usualFrame none), .bind (.plain ⟨1⟩ 8 8),
    .draw (usualFrame none), .cleanup, .invalidate ⟨2⟩, .setProtected true]

theorem timing_unobservable_without_fences :
    let left := Session.new (.new unhurried) unhurried.capabilities .byArrival
    let right := Session.new (.new { unhurried with nativeFences := false, autoSignal := true })
      { unhurried.capabilities with nativeFences := false } .byArrival
    (left.run fencedActions).2.device.finishes = 1 ∧
      (right.run drainedActions).2.device.finishes = 3 ∧
      List.Forall₂ Report.Agrees (left.reports Action.isHeard fencedActions)
        (right.reports Action.isHeard drainedActions) ∧
      (left.run fencedActions).2.SameImages (right.run drainedActions).2 :=
  ⟨by decide, by decide,
    timing_unobservable unhurried unhurried.capabilities false true false .byArrival .byArrival
      fencedActions drainedActions (by decide) (by decide) (by decide)⟩

end Session

end Compositor
