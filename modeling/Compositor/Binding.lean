import Compositor.Device.Context

/-!
# Making images of buffers

Only checked requests reach a context. A lost context is noticed before the buffer is looked at.
-/

set_option autoImplicit false

namespace Compositor.Device

def bindImage (device : Device) (mode : Mode) (buffer : Buffer) (limit : UInt32) :
    Except BindError Image × Device :=
  match device.checkLost with
  | (true, device) => (.error .contextLost, device)
  | (false, device) =>
    match ImportRequest.check buffer mode limit with
    | .error error => (.error error, device)
    | .ok request =>
      let (result, device) := device.importBuffer mode request
      (result.map fun handle => .fresh handle buffer.id mode .texture, device)

/-- Makes the render target of a buffer in the context of `mode`. The content of a target is as
protected as its context: other than for sampling, the secure context takes any buffer. -/
def createTarget (device : Device) (mode : Mode) (buffer : Buffer) (limit : UInt32) :
    Except EngineError Image × Device :=
  match device.checkLost with
  | (true, device) => (.error .contextLost, device)
  | (false, device) =>
    match ImportRequest.check buffer mode limit with
    | .error error => (.error (.bind error), device)
    | .ok request =>
      let (result, device) :=
        device.createOutputImage mode { request with protectedContent := mode.isSecure }
      (result.map fun handle => .fresh handle buffer.id mode .output, device)

end Compositor.Device
