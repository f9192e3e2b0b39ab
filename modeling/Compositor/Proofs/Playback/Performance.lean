import Compositor.Proofs.Playback.Targets
import Compositor.Proofs.Playback.Upkeep

/-!
# Engines that play a scene

An engine plays the frames of a scene one after another, and cleans up after each. Between two frames
it shows what the scene says, and is done with everything that it submitted. So each frame ends as the
scene says, and the engine can go on.
-/

set_option autoImplicit false

namespace Compositor

/-! ## Frames without fences -/

theorem Waits.foretold_of_forall {waits : List (Option Bool)}
    (ends : ∀ wait ∈ waits, ∀ outcome ∈ wait, outcome = true) :
    Waits.Foretold (fun _ => true) waits :=
  fun _ outcome found => (ends _ (List.mem_of_getElem? found) outcome rfl).symm

theorem FramePlan.waits_succeed {frame : FrameSeq} {entries : List (Layer × Nat)}
    (fenceless : ∀ entry ∈ entries, entry.1.acquireFence? = none) (plan : FramePlan) :
    ∀ wait ∈ plan.waits frame entries, ∀ outcome ∈ wait, outcome = true := by
  induction entries generalizing plan with
  | nil => nofun
  | cons entry entries ih =>
      obtain ⟨layer, index⟩ := entry
      have here : layer.acquireFence? = none := fenceless _ List.mem_cons_self
      have later := ih fun other member => fenceless other (List.mem_cons_of_mem _ member)
      have first : ∀ outcome ∈ plan.wait? frame layer, outcome = true := by
        unfold wait?
        unfold Layer.acquireFence? at here
        split
        · nofun
        · rename_i source
          rw [source] at here
          dsimp only at here
          subst here
          split
          · nofun
          · rintro outcome ⟨⟩
            rfl
      intro wait member
      rcases List.mem_cons.mp member with rfl | rest
      · exact first
      · split at rest
        · cases rest
        · exact later _ wait rest

namespace Engine

variable {engine : Engine} {scene : Scene} {hasSecure : Bool} {capacity count : Nat}
  {request : FrameRequest}

theorem waits_foretold (asks : scene.Asks count request) (engine : Engine) :
    Waits.Foretold (fun _ => true) (engine.waits request) := by
  refine Waits.foretold_of_forall ?_
  unfold waits
  rw [asks.inputFence]
  split
  · nofun
  · dsimp only [awaitAny]
    intro wait member
    rcases List.mem_cons.mp member with rfl | rest
    · rintro outcome ⟨⟩
      rfl
    · split at rest
      · cases rest
      · exact FramePlan.waits_succeed
          (fun entry inside => asks.acquireFences entry.1 (List.fst_mem_of_mem_zipIdx inside))
          _ wait rest

/-! ## From frame to frame -/

/-- The engine played so many frames of a scene, and cleaned up after each. -/
structure Plays (scene : Scene) (hasSecure : Bool) (capacity count : Nat) (engine : Engine) :
    Prop where
  rested : ∃ recorded, Moment.Rested ⟨engine, [], recorded⟩
  watched : engine.Watched
  serene : engine.device.Serene
  shows : engine.outline.Shows scene hasSecure capacity (scene.modeAfter count) count
  issued : engine.progress.lastIssued = count
  drawn : engine.framesDrawn = count
  caughtUp : engine.CaughtUp

namespace Plays

theorem alive (plays : engine.Plays scene hasSecure capacity count) : engine.lost = false := by
  obtain ⟨_, rested⟩ := plays.rested
  exact alive_of_serene rested plays.serene

/-- A frame does what it would do apart from timing. -/
theorem draw_outline (plays : engine.Plays scene hasSecure capacity count)
    (asks : scene.Asks count request) :
    engine.outline.draw (fun _ => true) request =
      ((engine.draw request).1.map FrameOutput.status, (engine.draw request).2.outline) := by
  obtain ⟨_, rested⟩ := plays.rested
  exact Engine.draw_outline plays.alive (engine.waits_foretold asks)
    (draw_serene plays.serene request).usable (draw_ends rested request).2

theorem draw_refused (plays : engine.Plays scene hasSecure capacity count)
    (asks : scene.Asks count request) {error : EngineError}
    (refused : scene.failureAt? hasSecure capacity count = some error) :
    (engine.draw request).1 = .error error := by
  have ends := plays.shows.draw_refused asks refused
  rw [plays.draw_outline asks] at ends
  cases result : (engine.draw request).1 with
  | ok output =>
      rw [result] at ends
      cases ends
  | error cause =>
      rw [result] at ends
      cases ends
      rfl

/-- A frame that the scene allows is finished, and after cleaning up the engine can go on. -/
theorem draw_finished (plays : engine.Plays scene hasSecure capacity count)
    (asks : scene.Asks count request) (room : count < FrameSeq.last)
    (accepted : scene.failureAt? hasSecure capacity count = none) :
    ∃ output after, engine.draw request = (.ok output, after) ∧
      after.cleanup.2.Plays scene hasSecure capacity (count + 1) := by
  obtain ⟨_, rested⟩ := plays.rested
  obtain ⟨⟨status, finished⟩, shows, issued⟩ := plays.shows.draw_finished asks accepted
  have outlined := plays.draw_outline asks
  have serene := draw_serene plays.serene request
  obtain ⟨_, moves, drawn⟩ := (draw_ends rested request).1.rested rested
  have watched := moves.watched rested.paced plays.watched
  rw [outlined] at finished shows issued
  cases outcome : engine.draw request with
  | mk result after =>
      rw [outcome] at finished shows issued serene moves drawn watched
      cases result with
      | error error => cases finished
      | ok output =>
          obtain ⟨_, cleaning, cleaned⟩ := (cleanup_leads drawn).reaches.rested drawn
          have number : after.progress.lastIssued = count + 1 := by
            have next : after.outline.issued = FrameSeq.next count :=
              issued.trans (congrArg FrameSeq.next plays.issued)
            exact next.trans (Nat.min_eq_left room)
          refine ⟨output, after, rfl, ⟨_, cleaned⟩, cleaning.watched drawn.paced watched,
            cleanup_serene serene, ?_, ?_, ?_, ?_⟩
          · rw [cleanup_outline]
            exact shows
          · have same := congrArg Outline.issued after.cleanup_outline
            exact same.trans number
          · rw [cleanup_framesDrawn, draw_framesDrawn outcome, plays.drawn]
          · exact cleanup_caughtUp drawn watched serene (draw_idle rested outcome)

end Plays

/-- A new engine on a new device has played nothing yet. -/
theorem create_plays {deviceOptions : DeviceOptions} {capabilities : Capabilities}
    {options : EngineOptions} {order : ReleaseOrder} (scene : Scene)
    (created : create (.new deviceOptions) capabilities options order = .ok engine)
    (prompt : deviceOptions.autoSignal = true)
    (limited : capabilities.maxTextureSize = Buffer.largestExtent) :
    engine.Plays scene engine.contexts.hasSecure options.outputCacheSize.toNat 0 := by
  have fresh := create_fresh created
  have rested := fresh.rested (.new deviceOptions) rfl
  obtain ⟨-, rfl⟩ := create_eq created
  refine ⟨⟨[], rested⟩, ?_, .new prompt, ?_, rfl, rfl, ⟨rfl, rfl, rfl⟩⟩
  · exact .idle (.new deviceOptions) (.new deviceOptions) rfl rfl fun _ => .initial
  · exact ⟨limited, rfl, rfl, rfl, rfl, nofun, rfl⟩

end Engine

end Compositor
