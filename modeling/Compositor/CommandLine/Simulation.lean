import Compositor.CommandLine.Arguments
import Compositor.CommandLine.Files
import Compositor.Engine.Dump
import Compositor.Engine.Frame
import Compositor.Json.EngineOptions
import Compositor.Json.Scene
import Compositor.Text

/-!
# Simulation

Playing a scene on a simulated device: each frame is composed and cleaned up after, and at the end
the state of the engine is reported.
-/

set_option autoImplicit false

namespace Compositor.CommandLine

inductive SimulationFailure where
  | setup (cause : EngineError)
  /-- A frame, counted from zero, cannot be composed. -/
  | frame (index : Nat) (cause : EngineError)
  | emptyScene
  | misuse (misuses : List Misuse)
  deriving DecidableEq, Repr

namespace SimulationFailure

def chain : SimulationFailure → List String
  | .setup cause => cause.chain
  | .frame index cause => s!"frame {Nat.repr index}" :: cause.chain
  | .emptyScene => ["scene has no frames or targets"]
  | .misuse misuses => ["device reported misuse: " ++ "; ".intercalate (misuses.map (·.message))]

end SimulationFailure

structure Report where
  output : String
  messages : String
  failure : Option (List String)
  deriving DecidableEq, Repr

/-! ## Messages about frames -/

def describeImport : BindError → String
  | .contextLost => "ContextLost"
  | .importFailed id reason =>
    "ImportFailed \x7b id: BufferId(" ++ Nat.repr id.value.toNat ++ "), reason: " ++
      Text.quoted reason.message ++ " \x7d"

def describeSkip : SkipReason → String
  | .importFailed cause => "Import(" ++ describeImport cause ++ ")"
  | .acquireTimeout => "AcquireFenceTimeout"
  | .drawRejected cause => "Draw(" ++ Text.quoted cause.message ++ ")"

def frameLines (status : FrameStatus) : List String :=
  ("frame " ++ status.frame.text ++ ": " ++ status.mode.name ++ " context, " ++
      Nat.repr status.layersDrawn ++ " drawn, " ++ Nat.repr status.skipped.length ++ " skipped" ++
      if status.outputCached then ", cached output" else "") ::
    status.skipped.map fun layer =>
      "  layer " ++ Nat.repr layer.index ++ " skipped: " ++ describeSkip layer.reason

def unlines (lines : List String) : String := String.join (lines.map (· ++ "\n"))

/-! ## Playing a scene -/

def frameRequest? (scene : Scene) (index : Nat) : Option FrameRequest := do
  let layers ← scene.layers? index
  let target ← scene.target? index
  return ⟨scene.displaySettings, layers, target, FrameRequest.usesOutputCacheByDefault, none⟩

def playFrame (scene : Scene) (index : Nat) (engine : Engine) :
    Except SimulationFailure (FrameStatus × Engine) :=
  match frameRequest? scene index with
  | none => .error .emptyScene
  | some request =>
    match engine.draw request with
    | (.error cause, _) => .error (.frame index cause)
    | (.ok output, engine) => .ok (output.status, engine.cleanup.2)

/-- Plays `count` frames from the given one on, up to the first one that fails. -/
def playFrames (scene : Scene) : (count index : Nat) → Engine →
    List FrameStatus × Except SimulationFailure Engine
  | 0, _, engine => ([], .ok engine)
  | count + 1, index, engine =>
    match playFrame scene index engine with
    | .error failure => ([], .error failure)
    | .ok (status, engine) =>
      let (later, result) := playFrames scene count (index + 1) engine
      (status :: later, result)

def deviceOptions (arguments : SimulateArguments) : DeviceOptions :=
  { DeviceOptions.standard with
    nativeFences := !arguments.withoutNativeFences
    protectedContent := !arguments.withoutProtected }

def dumpText (engine : Engine) (asJson : Bool) : String :=
  (if asJson then engine.dump.json else engine.dump.text) ++ "\n"

def play (arguments : SimulateArguments) (scene : Scene) (options : EngineOptions) : Report :=
  let deviceOptions := deviceOptions arguments
  match Engine.create (.new deviceOptions) deviceOptions.capabilities options .byArrival with
  | .error cause => ⟨"", "", some (SimulationFailure.setup cause).chain⟩
  | .ok engine =>
    let (statuses, result) :=
      playFrames scene (arguments.frames.getD scene.frames.length) 0 engine
    let messages := unlines (statuses.flatMap frameLines)
    match result with
    | .error failure => ⟨"", messages, some failure.chain⟩
    | .ok engine =>
      let misuses := engine.device.misuses
      ⟨dumpText engine arguments.json, messages,
        if misuses.isEmpty then none else some (SimulationFailure.misuse misuses).chain⟩

/-! ## Reading the inputs -/

/-- Reads a scene. A directory can be opened, but holds no scene. -/
def readScene (path : String) : FileLookup → Except EngineError Scene
  | .file bytes => (Scene.ofBytes bytes).mapError .validation
  | .directory => .error (.validation .malformedScene)
  | .failed cause => .error (.validation (.unreadableScene path cause))

def unreadable (path : String) (cause : FileFailure) : EngineError :=
  .other ("reading " ++ path) [cause.message]

def readOptions (path : String) : FileLookup → Except EngineError EngineOptions
  | .file bytes =>
    match Json.textOfBytes? bytes with
    | none => .error (unreadable path .notText)
    | some text => (EngineOptions.ofText text).mapError .validation
  | .directory => .error (unreadable path .isADirectory)
  | .failed cause => .error (unreadable path cause)

/-- Reads the scene and then the options, and plays the scene. -/
def simulate (arguments : SimulateArguments) (lookup : String → FileLookup) : Report :=
  let inputs := do
    let scene ← readScene arguments.scene (lookup arguments.scene)
    let options ←
      match arguments.options with
      | none => .ok EngineOptions.standard
      | some path => readOptions path (lookup path)
    return (scene, options)
  match inputs with
  | .error cause => ⟨"", "", some (SimulationFailure.setup cause).chain⟩
  | .ok (scene, options) => play arguments scene options

def run (command : Command) (lookup : String → FileLookup) : Report :=
  match command with
  | .simulate arguments => simulate arguments lookup
  | .options => ⟨EngineOptions.standard.text ++ "\n", "", none⟩

end Compositor.CommandLine
