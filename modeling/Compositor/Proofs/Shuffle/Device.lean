import Compositor.Proofs.Provenance

/-!
# The order of destruction on a device

Two devices that differ in no more than the order in which images were destroyed answer every call
alike, and stay so. Destroying two images in either order leads to such devices, as long as a handle
names images of one context only.
-/

set_option autoImplicit false

namespace Compositor

/-! ## Histories -/

namespace DeviceEvent

/-- Holds for the events of destroying an image. -/
def isRelease : DeviceEvent → Bool
  | .handed _ .destroy _ | .destroyed _ => true
  | .misused (.notLive .destroy _) | .misused (.foreign .destroy ..) => true
  | _ => false

end DeviceEvent

namespace History

/-- The same happened, and apart from destruction it happened in the same order. -/
structure Shuffled (left right : History) : Prop where
  perm : left.Perm right
  order : left.filter (fun event => !event.isRelease) = right.filter fun event => !event.isRelease

namespace Shuffled

variable {left middle right : History}

theorem refl (events : History) : Shuffled events events := ⟨.refl _, rfl⟩

theorem symm (shuffled : Shuffled left right) : Shuffled right left :=
  ⟨shuffled.perm.symm, shuffled.order.symm⟩

theorem trans (first : Shuffled left middle) (second : Shuffled middle right) :
    Shuffled left right :=
  ⟨first.perm.trans second.perm, first.order.trans second.order⟩

theorem append (shuffled : Shuffled left right) (added : History) :
    Shuffled (added ++ left) (added ++ right) := by
  refine ⟨shuffled.perm.append_left added, ?_⟩
  rw [List.filter_append, List.filter_append, shuffled.order]

theorem swap {releases : History} (all : ∀ event ∈ releases, event.isRelease = true)
    (others rest : History) :
    Shuffled (releases ++ (others ++ rest)) (others ++ (releases ++ rest)) := by
  have nothing : releases.filter (fun event => !event.isRelease) = [] := by
    rw [List.filter_eq_nil_iff]
    intro event member
    simp [all event member]
  refine ⟨?_, ?_⟩
  · rw [← List.append_assoc, ← List.append_assoc]
    exact List.perm_append_comm.append_right rest
  · simp only [List.filter_append, nothing, List.nil_append]

/-- What tells nothing of destruction is told in the same order. -/
theorem filterMap_eq {α : Type} {tell : DeviceEvent → Option α} (shuffled : Shuffled left right)
    (silent : ∀ event, event.isRelease = true → tell event = none) :
    left.filterMap tell = right.filterMap tell := by
  have kept (events : History) :
      events.filterMap tell = (events.filter fun event => !event.isRelease).filterMap tell := by
    rw [List.filterMap_filter]
    refine List.filterMap_congr fun event _ => ?_
    cases release : event.isRelease with
    | true => simp [silent event release]
    | false => simp
  rw [kept left, kept right, shuffled.order]

end Shuffled

end History

/-- The same answer, in states that are related. -/
structure Agree {α state : Type} (alike : state → state → Prop) (left right : α × state) :
    Prop where
  answer : left.1 = right.1
  state : alike left.2 right.2

theorem Agree.split {α state : Type} {alike : state → state → Prop} {left right : α × state}
    (agree : Agree alike left right) :
    ∃ answer first second, left = (answer, first) ∧ right = (answer, second) ∧
      alike first second :=
  ⟨left.1, left.2, right.2, rfl, Prod.ext agree.answer.symm rfl, agree.state⟩

/-! ## Devices -/

namespace Device

/-- Only the order in which images were destroyed tells these devices apart. -/
inductive Alike (left : Device) : Device → Prop where
  | shuffled {events : History} : History.Shuffled left.events events →
      Alike left { left with events }

namespace Alike

variable {left middle right : Device}

theorem refl (device : Device) : device.Alike device := .shuffled (.refl _)

theorem symm (alike : left.Alike right) : right.Alike left := by
  cases alike with
  | shuffled shuffled => exact .shuffled shuffled.symm

theorem trans (first : left.Alike middle) (second : middle.Alike right) : left.Alike right := by
  cases first with
  | shuffled first =>
      cases second with
      | shuffled second => exact .shuffled (first.trans second)

/-! ### Looking at a device -/

theorem live (alike : left.Alike right) : left.live = right.live := by
  cases alike with
  | shuffled => rfl

theorem issued (alike : left.Alike right) : left.issued = right.issued := by
  cases alike with
  | shuffled => rfl

theorem pending (alike : left.Alike right) : left.pending = right.pending := by
  cases alike with
  | shuffled => rfl

theorem draws (alike : left.Alike right) : left.draws = right.draws := by
  cases alike with
  | @shuffled events shuffled =>
      have told : left.events.filterMap DeviceEvent.draw? = events.filterMap DeviceEvent.draw? := by
        refine shuffled.filterMap_eq fun event release => ?_
        cases event <;> first | rfl | cases release
      simp only [Device.draws, history, eventsSince, List.drop_zero, List.filterMap_reverse, told]

/-- What the history tells of releases is told in some order. -/
theorem told_perm {α : Type} (alike : left.Alike right) (tell : DeviceEvent → Option α) :
    (left.history.filterMap tell).Perm (right.history.filterMap tell) := by
  cases alike with
  | shuffled shuffled =>
      simp only [history, eventsSince, List.drop_zero]
      exact (((List.reverse_perm _).trans shuffled.perm).trans (List.reverse_perm _).symm).filterMap
        tell

theorem lost (alike : left.Alike right) : left.lost = right.lost := by
  cases alike with
  | shuffled => rfl

theorem fences (alike : left.Alike right) : left.fences = right.fences := by
  cases alike with
  | shuffled => rfl

theorem log (alike : left.Alike right) (event : DeviceEvent) :
    (left.log event).Alike (right.log event) := by
  cases alike with
  | shuffled shuffled => exact .shuffled (shuffled.append [event])

/-! ### Calls and scripts -/

theorem lose (alike : left.Alike right) : left.lose.Alike right.lose := by
  cases alike with
  | shuffled shuffled => exact .shuffled (shuffled.append [_, _])

theorem signalAll (alike : left.Alike right) : left.signalAll.Alike right.signalAll := by
  cases alike with
  | shuffled shuffled => exact .shuffled (shuffled.append [_])

theorem signalNext (alike : left.Alike right) :
    Agree Device.Alike left.signalNext right.signalNext := by
  cases alike with
  | shuffled shuffled =>
      unfold Device.signalNext
      dsimp only
      split
      · exact ⟨rfl, .shuffled shuffled⟩
      · exact ⟨rfl, .shuffled (shuffled.append [_])⟩

theorem arrive (alike : left.Alike right) (call : ContextCall) :
    (left.arrive call).Alike (right.arrive call) := by
  cases alike with
  | @shuffled events shuffled =>
      have counted : (left.countDown call).Alike (({ left with events } : Device).countDown call) :=
        .shuffled shuffled
      have due : ({ left with events } : Device).lossDue call = left.lossDue call := rfl
      unfold Device.arrive
      rw [due]
      split
      · exact counted.lose
      · exact counted

theorem checkLost (alike : left.Alike right) : Agree Device.Alike left.checkLost right.checkLost :=
  ⟨(alike.arrive .checkLost).lost, alike.arrive .checkLost⟩

theorem answer (alike : left.Alike right) (mode : Mode) (kind : ImageKind)
    (request : ImportRequest) :
    Agree Device.Alike (left.answer mode kind request) (right.answer mode kind request) := by
  cases alike with
  | shuffled shuffled =>
      unfold Device.answer
      dsimp only [Device.log]
      split
      · exact ⟨rfl, .shuffled (shuffled.append [_])⟩
      · split
        · exact ⟨rfl, .shuffled (shuffled.append [_])⟩
        · exact ⟨rfl, .shuffled (shuffled.append [_, _])⟩

theorem importBuffer (alike : left.Alike right) (mode : Mode) (request : ImportRequest) :
    Agree Device.Alike (left.importBuffer mode request) (right.importBuffer mode request) :=
  (alike.arrive .importBuffer).answer mode .texture request

theorem createOutputImage (alike : left.Alike right) (mode : Mode) (request : ImportRequest) :
    Agree Device.Alike (left.createOutputImage mode request)
      (right.createOutputImage mode request) := by
  obtain ⟨answer, state⟩ := (alike.arrive .createOutputImage).answer mode .output request
  exact ⟨congrArg (Except.mapError targetFailure) answer, state⟩

theorem misuse? (alike : left.Alike right) (mode : Mode) (use : ImageUse) (handle : ImageHandle) :
    left.misuse? mode use handle = right.misuse? mode use handle := by
  cases alike with
  | shuffled => rfl

theorem release (alike : left.Alike right) (mode : Mode) (handle : ImageHandle) :
    (left.release mode handle).Alike (right.release mode handle) := by
  cases alike with
  | @shuffled events shuffled =>
      have same : ({ left with events } : Device).misuse? mode .destroy handle =
          left.misuse? mode .destroy handle := rfl
      unfold Device.release
      rw [same]
      cases left.misuse? mode .destroy handle with
      | some misuse => exact .shuffled (shuffled.append [_])
      | none => exact .shuffled (shuffled.append [_])

theorem acceptDestroy (alike : left.Alike right) (mode : Mode) (handle : ImageHandle) :
    (left.acceptDestroy mode handle).Alike (right.acceptDestroy mode handle) :=
  (alike.log _).release mode handle

theorem destroyImage (alike : left.Alike right) (mode : Mode) (handle : ImageHandle) :
    (left.destroyImage mode handle).Alike (right.destroyImage mode handle) :=
  (alike.arrive .destroyImage).acceptDestroy mode handle

theorem acceptBegin (alike : left.Alike right) (mode : Mode) (target : ImageHandle) :
    Agree Device.Alike (left.acceptBegin mode target) (right.acceptBegin mode target) := by
  have handed := alike.log (.handed mode .beginFrame [target])
  unfold Device.acceptBegin
  dsimp only
  rw [← handed.lost, ← handed.misuse?]
  split
  · exact ⟨rfl, handed⟩
  · split
    · exact ⟨rfl, handed.log _⟩
    · exact ⟨rfl, handed.log _⟩

theorem beginFrame (alike : left.Alike right) (mode : Mode) (target : ImageHandle)
    (display : Display) :
    Agree Device.Alike (left.beginFrame mode target display)
      (right.beginFrame mode target display) :=
  (alike.arrive .beginFrame).acceptBegin mode target

theorem acceptDraw (alike : left.Alike right) (mode : Mode) (target : ImageHandle)
    (source : Option ImageHandle) :
    Agree Device.Alike (left.acceptDraw mode target source)
      (right.acceptDraw mode target source) := by
  have handed := alike.log (.handed mode .draw (target :: source.toList))
  unfold Device.acceptDraw
  dsimp only
  rw [← handed.lost, ← funext (handed.misuse? mode .draw)]
  split
  · exact ⟨rfl, handed⟩
  · split
    · exact ⟨rfl, handed.log _⟩
    · exact ⟨rfl, handed.log _⟩

theorem drawLayer (alike : left.Alike right) (mode : Mode) (target : ImageHandle)
    (source : Option ImageHandle) (layer : Layer) :
    Agree Device.Alike (left.drawLayer mode target source layer)
      (right.drawLayer mode target source layer) :=
  (alike.arrive .drawLayer).acceptDraw mode target source

theorem acceptFlush (alike : left.Alike right) :
    Agree Device.Alike left.acceptFlush right.acceptFlush := by
  cases alike with
  | shuffled shuffled =>
      unfold Device.acceptFlush
      dsimp only [Device.log]
      split
      · exact ⟨rfl, .shuffled (shuffled.append [_])⟩
      · split
        · exact ⟨rfl, .shuffled (shuffled.append [_, _])⟩
        · exact ⟨rfl, .shuffled (shuffled.append [_])⟩

theorem acceptFinish (alike : left.Alike right) :
    Agree Device.Alike left.acceptFinish right.acceptFinish := by
  cases alike with
  | shuffled shuffled =>
      unfold Device.acceptFinish
      dsimp only
      split
      · exact ⟨rfl, .shuffled (shuffled.append [_])⟩
      · exact ⟨rfl, .shuffled (shuffled.append [_, _])⟩

theorem flush (alike : left.Alike right) : Agree Device.Alike left.flush right.flush :=
  (alike.arrive .flush).acceptFlush

theorem finish (alike : left.Alike right) : Agree Device.Alike left.finish right.finish :=
  (alike.arrive .finish).acceptFinish

theorem await (alike : left.Alike right) (fence : Fence) :
    Agree Device.Alike (left.await fence) (right.await fence) := by
  cases alike with
  | @shuffled events shuffled =>
      have lost := Alike.lose (.shuffled shuffled : left.Alike { left with events })
      unfold Device.await
      dsimp only
      split
      · exact ⟨rfl, lost⟩
      · exact ⟨rfl, .shuffled shuffled⟩

/-! ### Scripts and fences of callers -/

theorem rejectImports (alike : left.Alike right) (buffer : BufferId) :
    (left.rejectImports buffer).Alike (right.rejectImports buffer) := by
  cases alike with
  | shuffled shuffled => exact .shuffled shuffled

theorem allowImports (alike : left.Alike right) (buffer : BufferId) :
    (left.allowImports buffer).Alike (right.allowImports buffer) := by
  cases alike with
  | shuffled shuffled => exact .shuffled shuffled

theorem scheduleLoss (alike : left.Alike right) (call : ContextCall) (passing : Nat) :
    (left.scheduleLoss call passing).Alike (right.scheduleLoss call passing) := by
  cases alike with
  | shuffled shuffled => exact .shuffled shuffled

theorem createFence (alike : left.Alike right) (origin : FenceOrigin) (status : FenceStatus) :
    Agree Device.Alike (left.createFence origin status) (right.createFence origin status) := by
  cases alike with
  | shuffled shuffled => exact ⟨rfl, .shuffled shuffled⟩

theorem settleFence (alike : left.Alike right) (outcome : FenceStatus) (fence : Fence) :
    (left.settleFence outcome fence).Alike (right.settleFence outcome fence) := by
  cases alike with
  | shuffled shuffled => exact .shuffled shuffled

theorem openContext (alike : left.Alike right) (mode : Mode) :
    left.openContext mode = right.openContext mode := by
  cases alike with
  | shuffled => rfl

/-! ### Making images -/

theorem bindImage (alike : left.Alike right) (mode : Mode) (buffer : Buffer) (limit : UInt32) :
    Agree Device.Alike (left.bindImage mode buffer limit) (right.bindImage mode buffer limit) := by
  obtain ⟨lost, first, second, asked, asking, known⟩ := alike.checkLost.split
  unfold Device.bindImage
  rw [asked, asking]
  cases lost with
  | true => exact ⟨rfl, known⟩
  | false =>
      dsimp only
      cases ImportRequest.check buffer mode limit with
      | error error => exact ⟨rfl, known⟩
      | ok request =>
          obtain ⟨answer, state⟩ := known.importBuffer mode request
          exact ⟨congrArg (Except.map _) answer, state⟩

theorem createTarget (alike : left.Alike right) (mode : Mode) (buffer : Buffer) (limit : UInt32) :
    Agree Device.Alike (left.createTarget mode buffer limit)
      (right.createTarget mode buffer limit) := by
  obtain ⟨lost, first, second, asked, asking, known⟩ := alike.checkLost.split
  unfold Device.createTarget
  rw [asked, asking]
  cases lost with
  | true => exact ⟨rfl, known⟩
  | false =>
      dsimp only
      cases ImportRequest.check buffer mode limit with
      | error error => exact ⟨rfl, known⟩
      | ok request =>
          obtain ⟨answer, state⟩ :=
            known.createOutputImage mode { request with protectedContent := mode.isSecure }
          exact ⟨congrArg (Except.map _) answer, state⟩

end Alike

/-! ## Destroying in either order -/

/-- Which images stay when one is destroyed, unless something is wrong with that. -/
def spares (handle : ImageHandle) (wrong : Option Misuse) (image : LiveImage) : Bool :=
  wrong.isSome || image.handle ≠ handle

/-- What is told of destroying an image, the latest event first. -/
def destruction (mode : Mode) (handle : ImageHandle) (wrong : Option Misuse) : History :=
  [wrong.elim (.destroyed handle) .misused, .handed mode .destroy [handle]]

variable (device : Device)

theorem acceptDestroy_eq (mode : Mode) (handle : ImageHandle) :
    device.acceptDestroy mode handle =
      { device with
        live := device.live.filter (spares handle (device.misuse? mode .destroy handle))
        events :=
          destruction mode handle (device.misuse? mode .destroy handle) ++ device.events } := by
  have same : (device.log (.handed mode .destroy [handle])).misuse? mode .destroy handle =
      device.misuse? mode .destroy handle := rfl
  unfold acceptDestroy release
  rw [same]
  cases device.misuse? mode .destroy handle with
  | some misuse =>
      have all : device.live.filter (spares handle (some misuse)) = device.live :=
        List.filter_eq_self.mpr fun _ _ => rfl
      rw [all]
      rfl
  | none => rfl

theorem destruction_releases (mode : Mode) (handle : ImageHandle) :
    ∀ event ∈ destruction mode handle (device.misuse? mode .destroy handle),
      event.isRelease = true := by
  unfold misuse? destruction
  cases device.findLive? handle with
  | none => simp [DeviceEvent.isRelease]
  | some image =>
      by_cases own : image.mode = mode
      · simp [own, DeviceEvent.isRelease]
      · simp [own, DeviceEvent.isRelease]

theorem arrive_misuse? (call : ContextCall) (mode : Mode) (use : ImageUse)
    (handle : ImageHandle) :
    (device.arrive call).misuse? mode use handle = device.misuse? mode use handle := by
  unfold misuse? findLive?
  rw [(arrive_steps device call).extends.live]

/-- Whether a loss is due does not depend on the images that there are. -/
theorem acceptDestroy_arrive (mode : Mode) (handle : ImageHandle) (call : ContextCall) :
    ((device.acceptDestroy mode handle).arrive call).Alike
      ((device.arrive call).acceptDestroy mode handle) := by
  have releases := device.destruction_releases mode handle
  rw [acceptDestroy_eq, acceptDestroy_eq, arrive_misuse?]
  generalize device.misuse? mode .destroy handle = wrong at releases
  have due (live : List LiveImage) (events : History) :
      ({ device with live, events } : Device).lossDue call = device.lossDue call := rfl
  unfold arrive
  rw [due]
  cases device.lossDue call with
  | true => exact .shuffled (History.Shuffled.swap releases [_, _] device.events).symm
  | false => exact .refl _

/-- Destroying an image is nothing to the other ones. -/
theorem misuse?_acceptDestroy {handle other : ImageHandle} (apart : handle ≠ other)
    (mode user : Mode) (use : ImageUse) :
    (device.acceptDestroy mode handle).misuse? user use other =
      device.misuse? user use other := by
  have found : (device.acceptDestroy mode handle).findLive? other = device.findLive? other := by
    rw [acceptDestroy_eq]
    refine (List.find?_filter ..).trans ?_
    congr 1
    funext image
    by_cases own : image.handle = other
    · simp [spares, own, apart.symm]
    · simp [own]
  unfold misuse?
  rw [found]

/-- Only an image that both calls name, from different contexts, could tell their order. -/
theorem acceptDestroy_comm {mode user : Mode} {handle other : ImageHandle}
    (same : handle = other → mode = user) :
    ((device.acceptDestroy mode handle).acceptDestroy user other).Alike
      ((device.acceptDestroy user other).acceptDestroy mode handle) := by
  by_cases apart : handle = other
  · rw [same apart, apart]
    exact .refl _
  · have releases := device.destruction_releases user other
    have left := device.misuse?_acceptDestroy apart mode user .destroy
    have right := device.misuse?_acceptDestroy (Ne.symm apart) user mode .destroy
    rw [acceptDestroy_eq (device.acceptDestroy mode handle), left,
      acceptDestroy_eq (device.acceptDestroy user other), right,
      acceptDestroy_eq device mode handle, acceptDestroy_eq device user other]
    dsimp only
    rw [List.filter_filter, List.filter_filter]
    simp only [Bool.and_comm]
    exact .shuffled (History.Shuffled.swap releases _ device.events)

/-- Two images are destroyed in either order. -/
theorem destroyImage_comm {mode user : Mode} {handle other : ImageHandle}
    (same : handle = other → mode = user) :
    ((device.destroyImage mode handle).destroyImage user other).Alike
      ((device.destroyImage user other).destroyImage mode handle) := by
  have first := (acceptDestroy_arrive (device.arrive .destroyImage) mode handle
    .destroyImage).acceptDestroy user other
  have second := (acceptDestroy_arrive (device.arrive .destroyImage) user other
    .destroyImage).acceptDestroy mode handle
  have both := acceptDestroy_comm ((device.arrive .destroyImage).arrive .destroyImage) same
  exact first.trans (both.trans second.symm)

end Device

end Compositor
