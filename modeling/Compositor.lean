import Compositor.Main
import Compositor.Session
import Compositor.Proofs.Release
import Compositor.Proofs.Possession
import Compositor.Proofs.Isolation
import Compositor.Proofs.Device.Plain
import Compositor.Proofs.Plain
import Compositor.Proofs.Containment
import Compositor.Proofs.Settlement
import Compositor.Proofs.Shutdown
import Compositor.Proofs.Comparison
import Compositor.Proofs.Outline.Canvas
import Compositor.Proofs.Outline.Frame
import Compositor.Proofs.Outline.Operations
import Compositor.Proofs.Outline.Session
import Compositor.Proofs.Caching
import Compositor.Proofs.Transparency
import Compositor.Proofs.Absorption
import Compositor.Proofs.Acts
import Compositor.Proofs.Collection
import Compositor.Proofs.Loss
import Compositor.Proofs.Tracing.Accounts
import Compositor.Proofs.Custody
import Compositor.Proofs.Completion
import Compositor.Proofs.Device.Textures
import Compositor.Proofs.Shelf.Binding
import Compositor.Proofs.Shelf.Frame
import Compositor.Proofs.Shelf.Session
import Compositor.Proofs.Exchange.Session
import Compositor.Proofs.Account.Frame
import Compositor.Proofs.Account.Order
import Compositor.Proofs.Bookkeeping
import Compositor.Proofs.Closure
import Compositor.Proofs.Playback.Command
import Compositor.Proofs.Cleanup
import Compositor.Proofs.Outline.Failure
import Compositor.Proofs.Outline.Closed
import Compositor.Proofs.Provenance
import Compositor.Proofs.Numbers
import Compositor.Proofs.Coverage
import Compositor.Proofs.Rejection
import Compositor.Proofs.Playback.Validity
import Compositor.Proofs.Backlog
import Compositor.Proofs.Stalls.Runs
import Compositor.Proofs.Shuffle.Session
import Compositor.Proofs.Device.Census
import Compositor.Proofs.Device.Service
import Compositor.Proofs.Json.Options
