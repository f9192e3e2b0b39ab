import Compositor.Proofs.Playback.Performance
import Compositor.Proofs.Transparency

/-!
# The simulation

What comes of playing a scene on the simulated device can be told from the scene.
-/

set_option autoImplicit false

namespace Compositor

/-- The first frame that cannot be composed, and why, of so many frames from the given one on. -/
def Scene.firstFailure? (scene : Scene) (hasSecure : Bool) (capacity index count : Nat) :
    Option (Nat × EngineError) :=
  (List.range' index count).findSome? fun index =>
    (scene.failureAt? hasSecure capacity index).map (index, ·)

/-- What a snapshot shows after so many frames of a scene. -/
structure EngineDump.Follows (dump : EngineDump) (scene : Scene) (hasSecure : Bool)
    (capacity count : Nat) : Prop where
  framesDrawn : dump.framesDrawn = count
  lastIssued : dump.lastIssued = count
  lastCompleted : dump.lastCompleted = count
  inFlight : dump.inFlight = 0
  pendingDestructions : dump.pendingDestructions = 0
  usable : dump.lost = false
  activeMode : dump.activeMode = scene.modeAfter count
  protectedSupported : dump.protectedSupported = hasSecure
  outputCapacity : dump.outputCapacity = capacity
  cachedOutputs : dump.cachedOutputs = scene.keptTargets capacity (scene.modeAfter count) count

namespace CommandLine

variable {engine : Engine} {scene : Scene} {hasSecure : Bool} {capacity index : Nat}

/-! ## Playing frames -/

theorem playFrame_refused (plays : engine.Plays scene hasSecure capacity index)
    (accepted : scene.check = .ok ()) {cause : EngineError}
    (refused : scene.failureAt? hasSecure capacity index = some cause) :
    playFrame scene index engine = .error (.frame index cause) := by
  obtain ⟨request, asks⟩ := Scene.asks accepted index
  have failed := plays.draw_refused asks refused
  rw [playFrame, asks.requested]
  cases outcome : engine.draw request with
  | mk result after =>
      rw [outcome] at failed
      cases failed
      simp only [outcome]

theorem playFrame_finished (plays : engine.Plays scene hasSecure capacity index)
    (accepted : scene.check = .ok ()) (room : index < FrameSeq.last)
    (allowed : scene.failureAt? hasSecure capacity index = none) :
    ∃ status after, playFrame scene index engine = .ok (status, after) ∧
      after.Plays scene hasSecure capacity (index + 1) := by
  obtain ⟨request, asks⟩ := Scene.asks accepted index
  obtain ⟨output, after, finished, next⟩ := plays.draw_finished asks room allowed
  rw [playFrame, asks.requested]
  simp only [finished]
  exact ⟨_, _, rfl, next⟩

/-- Frames are played up to the first one that cannot be composed. -/
theorem playFrames_plays (plays : engine.Plays scene hasSecure capacity index)
    (accepted : scene.check = .ok ()) (count : Nat) (room : index + count ≤ FrameSeq.last) :
    match scene.firstFailure? hasSecure capacity index count with
    | some (failing, cause) =>
      (playFrames scene count index engine).2 = .error (.frame failing cause)
    | none => ∃ after, (playFrames scene count index engine).2 = .ok after ∧
        after.Plays scene hasSecure capacity (index + count) := by
  induction count generalizing index engine with
  | zero => exact ⟨engine, rfl, plays⟩
  | succ count ih =>
      unfold Scene.firstFailure?
      rw [List.range'_succ, List.findSome?_cons, playFrames]
      cases failure : scene.failureAt? hasSecure capacity index with
      | some cause =>
          rw [playFrame_refused plays accepted failure]
          rfl
      | none =>
          obtain ⟨status, after, played, next⟩ :=
            playFrame_finished plays accepted (by omega) failure
          have later := ih next (by omega)
          rw [Nat.succ_add_eq_add_succ] at later
          rw [played]
          exact later

/-! ## The whole command -/

theorem dump_follows {count : Nat} (plays : engine.Plays scene hasSecure capacity count) :
    engine.dump.Follows scene hasSecure capacity count where
  framesDrawn := plays.drawn
  lastIssued := plays.issued
  lastCompleted := plays.caughtUp.completed.trans plays.issued
  inFlight := congrArg List.length plays.caughtUp.inFlight
  pendingDestructions := congrArg List.length plays.caughtUp.parked
  usable := plays.alive
  activeMode := congrArg Contexts.active plays.shows.contexts
  protectedSupported := congrArg Contexts.hasSecure plays.shows.contexts
  outputCapacity := plays.shows.room
  cachedOutputs := engine.outputs_ids.trans plays.shows.outputs

theorem plays_unmisused {count : Nat} (plays : engine.Plays scene hasSecure capacity count) :
    engine.device.misuses = [] := by
  obtain ⟨_, rested⟩ := plays.rested
  exact rested.owned.coherent.misuses_eq

theorem create_simulated (arguments : SimulateArguments) (scene : Scene) {options : EngineOptions}
    (valid : options.check = .ok ()) :
    ∃ engine, Engine.create (.new (deviceOptions arguments)) (deviceOptions arguments).capabilities
        options .byArrival = .ok engine ∧
      engine.Plays scene (options.enableSecure && !arguments.withoutProtected)
        options.outputCacheSize.toNat 0 := by
  have created := @Engine.create_ok (.new (deviceOptions arguments))
    (deviceOptions arguments).capabilities options .byArrival rfl valid
  have plays := Engine.create_plays scene created rfl rfl
  refine ⟨_, created, ?_⟩
  have offered : (options.enableSecure && !arguments.withoutProtected &&
      !arguments.withoutProtected) = (options.enableSecure && !arguments.withoutProtected) := by
    rw [Bool.and_assoc, Bool.and_self]
  rw [← offered]
  exact plays

/-- The command reads this scene and these options. -/
def SimulateArguments.Reads (arguments : SimulateArguments) (lookup : String → FileLookup)
    (scene : Scene) (options : EngineOptions) : Prop :=
  readScene arguments.scene (lookup arguments.scene) = .ok scene ∧
    match arguments.options with
    | none => options = EngineOptions.standard
    | some path => readOptions path (lookup path) = .ok options

theorem simulate_eq {arguments : SimulateArguments} {lookup : String → FileLookup} {scene : Scene}
    {options : EngineOptions} (reads : arguments.Reads lookup scene options) :
    simulate arguments lookup = play arguments scene options := by
  obtain ⟨sceneRead, optionsRead⟩ := reads
  unfold simulate
  rw [sceneRead]
  cases named : arguments.options with
  | none =>
      rw [named] at optionsRead
      dsimp only at optionsRead
      subst optionsRead
      rfl
  | some path =>
      rw [named] at optionsRead
      dsimp only at optionsRead ⊢
      rw [optionsRead]
      rfl

/-- A simulation plays as many frames as it is told to, or one for each frame of the scene. It fails
exactly if one of them cannot be composed, at the first such frame and for its reason. Otherwise it
reports an engine that is done with all of them and keeps the targets that the scene says. -/
theorem simulation_foretold (arguments : SimulateArguments) {scene : Scene} {options : EngineOptions}
    (accepted : scene.check = .ok ()) (valid : options.check = .ok ())
    (numbered : arguments.frames.getD scene.frames.length < UInt64.size) :
    let count := arguments.frames.getD scene.frames.length
    let hasSecure := options.enableSecure && !arguments.withoutProtected
    let capacity := options.outputCacheSize.toNat
    let report := play arguments scene options
    (∀ lookup, arguments.Reads lookup scene options → simulate arguments lookup = report) ∧
      match scene.firstFailure? hasSecure capacity 0 count with
      | some (index, cause) =>
        report.output = "" ∧ report.failure = some (SimulationFailure.frame index cause).chain
      | none =>
        report.failure = none ∧ ∃ dump : EngineDump,
          report.output = (if arguments.json then dump.json else dump.text) ++ "\n" ∧
            dump.Follows scene hasSecure capacity count := by
  intro count hasSecure capacity report
  refine ⟨fun lookup reads => simulate_eq reads, ?_⟩
  obtain ⟨engine, created, plays⟩ := create_simulated arguments scene valid
  have played := playFrames_plays plays accepted count (by
    rw [Nat.zero_add]
    exact Nat.le_pred_of_lt numbered)
  have reported : report = play arguments scene options := rfl
  unfold play at reported
  dsimp only at reported
  rw [created] at reported
  dsimp only at reported
  cases failure : scene.firstFailure? hasSecure capacity 0 count with
  | some first =>
      rw [failure] at played
      rw [played] at reported
      rw [reported]
      exact ⟨rfl, rfl⟩
  | none =>
      rw [failure] at played
      obtain ⟨after, finished, plays⟩ := played
      rw [Nat.zero_add] at plays
      rw [finished] at reported
      dsimp only at reported
      rw [plays_unmisused plays] at reported
      rw [reported]
      exact ⟨rfl, after.dump, rfl, dump_follows plays⟩

private def fiveFrames : SimulateArguments :=
  ⟨"scene.json", some "options.json", some 5, false, false, true⟩

private def twoTargets : EngineOptions := { EngineOptions.standard with outputCacheSize := 2 }

private def smallLayer (id : UInt64) : SceneLayer := ⟨some (.plain ⟨id⟩ 32 32), none, none, .one⟩

private def threeTargets : Scene :=
  ⟨⟨64, 64, false⟩, [.plain ⟨100⟩ 64 64, .plain ⟨101⟩ 64 64, .plain ⟨102⟩ 64 64],
    [⟨[⟨none, some .black, none, .one⟩, smallLayer 1]⟩, ⟨[smallLayer 1, smallLayer 2]⟩]⟩

/-- Of three targets that take turns, the two that were made last are kept. -/
theorem simulation_foretold_of_three_targets :
    threeTargets.check = .ok () ∧ twoTargets.check = .ok () ∧ 5 < UInt64.size ∧
      (play fiveFrames threeTargets twoTargets).failure = none ∧
      ∃ dump : EngineDump, (play fiveFrames threeTargets twoTargets).output = dump.json ++ "\n" ∧
        dump.Follows threeTargets false 2 5 ∧ dump.cachedOutputs = [⟨100⟩, ⟨101⟩] := by
  have accepted : threeTargets.check = .ok () := by decide
  have valid : twoTargets.check = .ok () := by decide
  obtain ⟨-, unfailing, dump, output, follows⟩ :=
    simulation_foretold fiveFrames accepted valid (by decide)
  refine ⟨accepted, valid, by decide, unfailing, dump, output, follows, ?_⟩
  exact follows.cachedOutputs.trans (by decide)

end CommandLine

end Compositor
