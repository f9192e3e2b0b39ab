import Compositor.Device.Context

/-!
# Contexts of an engine

The normal context, the secure one where it exists, and which of the two is current. Draining the
device and emptying the caches around a switch is left to the engine, which owns the caches.
-/

set_option autoImplicit false

namespace Compositor

structure Contexts where
  /-- The mode that was activated last. -/
  active : Mode
  hasSecure : Bool
  deriving DecidableEq, Repr

namespace Contexts

/-- Opens the normal context, and the secure one if it is wanted and believed possible. An engine
does without a secure context that cannot be opened. -/
def establish (device : Device) (capabilities : Capabilities) (wantsSecure : Bool) :
    Except EngineError Contexts := do
  device.openContext .normal
  let hasSecure :=
    wantsSecure && capabilities.protectedContent && (device.openContext .secure).isOk
  return ⟨.normal, hasSecure⟩

def has (contexts : Contexts) : Mode → Bool
  | .normal => true
  | .secure => contexts.hasSecure

def current (contexts : Contexts) : Mode :=
  if contexts.has contexts.active then contexts.active else .normal

/-- Makes a mode active if it has a context. -/
def activate (contexts : Contexts) (mode : Mode) : Contexts :=
  if contexts.has mode then { contexts with active := mode } else contexts

def modes (contexts : Contexts) : List Mode := Mode.all.filter contexts.has

def finishAll (contexts : Contexts) (device : Device) : Bool × Device :=
  contexts.modes.foldl
    (fun (usable, device) _ =>
      let (drained, device) := device.finish
      (usable && drained, device))
    (true, device)

end Contexts

end Compositor
