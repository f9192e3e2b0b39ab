import Compositor.Proofs.Ownership
import Compositor.Proofs.Pace

/-!
# Destruction waits for the device

A submission that has not completed is in flight, and every image that it uses and that the engine
still holds is marked with its number or a later one. Images are only destroyed up to the completion
watermark, which lies below everything in flight, so what a running submission uses is safe. This
needs submission numbers that tell submissions apart, which they do until they run out.
-/

set_option autoImplicit false

namespace Compositor

/-- An image is not destroyed while it is in use. On a lost device nothing is: every fence has
settled. -/
def DeviceEvent.Safe (event : DeviceEvent) (earlier : History) : Prop :=
  match event with
  | .handed _ .destroy handles =>
      ∀ handle ∈ handles,
        (.lost ∉ earlier → handle ∉ History.recorded earlier ∧
          ∀ fence used since, History.Submitted earlier fence used since → handle ∈ used →
            History.Completed fence since) ∧
        (.lost ∈ earlier → ∀ fence used since,
          History.Submitted earlier (some fence) used since →
            ∃ outcome, History.Settled outcome fence since)
  | _ => True

namespace DeviceEvent

theorem safe_of_spares {event : DeviceEvent} (earlier : History)
    (spares : ∀ mode handles, event ≠ .handed mode .destroy handles) : event.Safe earlier := by
  cases event with
  | handed mode use handles =>
      cases use with
      | destroy => exact absurd rfl (spares mode handles)
      | beginFrame | draw => trivial
  | _ => trivial

theorem isInert.safe {event : DeviceEvent} (inert : event.isInert = true) (earlier : History) :
    event.Safe earlier := by
  refine safe_of_spares earlier fun mode handles same => ?_
  rw [same] at inert
  cases inert

theorem isInert.uses {event : DeviceEvent} (inert : event.isInert = true) : event.uses = [] := by
  cases event <;> simp_all [isInert, DeviceEvent.uses]

end DeviceEvent

theorem History.recorded_flushed {added events : History} (fence : Option Fence)
    (inert : ∀ event ∈ added, event.isInert = true ∧ event.isFlush = false) :
    recorded (added ++ .flushed fence :: events) = [] := by
  rw [recorded_append fun event member =>
    ⟨(inert event member).2, DeviceEvent.isInert.uses (inert event member).1⟩]
  rfl

namespace Moment

/-- A submission that may still run is in flight, and the engine knows which images it uses. -/
def Tracked (moment : Moment) (fence : Option Fence) (used : List ImageHandle) : Prop :=
  ∃ frame name, fence = some name ∧ name ∈ moment.engine.device.pending ∧
    (frame, name) ∈ moment.engine.progress.inFlight ∧
    ∀ image ∈ moment.held, image.handle ∈ used → image.UsedSince frame

/-- The engine knows that the image is used by the submission being recorded. -/
def Reserved (moment : Moment) (handle : ImageHandle) : Prop :=
  ∃ frame, moment.engine.progress.recording = some frame ∧
    ∀ image ∈ moment.held, image.handle = handle → image.UsedSince frame

structure Guarded (moment : Moment) : Prop where
  fenced : moment.engine.device.Fenced
  ordered : moment.engine.progress.Ordered
  recorded : moment.recorded = History.recorded moment.engine.device.events
  submitted : moment.engine.device.lost = false → ∀ fence used since,
    History.Submitted moment.engine.device.events fence used since →
      History.Completed fence since ∨ moment.Tracked fence used
  reserved : moment.engine.device.lost = false → ∀ handle ∈ moment.recorded,
    moment.Reserved handle
  safe : History.Always DeviceEvent.Safe moment.engine.device.events

namespace Guarded

variable {engine : Engine} {hand : List Image} {recorded : List ImageHandle}

/-! ## Moves of the engine alone -/

theorem onImages (guarded : Guarded ⟨engine, hand, recorded⟩) {after : Engine}
    {rest : List Image} (device : after.device = engine.device)
    (progress : after.progress = engine.progress)
    (known : ∀ image ∈ Moment.held ⟨after, rest, recorded⟩,
      ∃ original ∈ Moment.held ⟨engine, hand, recorded⟩, original.handle = image.handle ∧
        ∀ frame, original.UsedSince frame → image.UsedSince frame) :
    Guarded ⟨after, rest, recorded⟩ := by
  constructor
  · rw [device]
    exact guarded.fenced
  · rw [progress]
    exact guarded.ordered
  · rw [device]
    exact guarded.recorded
  · intro usable fence used since submitted
    rw [device] at usable submitted
    refine (guarded.submitted usable fence used since submitted).imp_right ?_
    intro tracked
    obtain ⟨frame, name, fenceEq, waits, flying, marked⟩ := tracked
    refine ⟨frame, name, fenceEq, ?_, ?_, fun image member inside => ?_⟩
    · rw [device]
      exact waits
    · rw [progress]
      exact flying
    · obtain ⟨original, held, same, more⟩ := known image member
      exact more frame (marked original held (same ▸ inside))
  · intro usable handle inside
    rw [device] at usable
    obtain ⟨frame, recording, marked⟩ := guarded.reserved usable handle inside
    refine ⟨frame, ?_, fun image member equal => ?_⟩
    · rw [progress]
      exact recording
    · obtain ⟨original, held, same, more⟩ := known image member
      exact more frame (marked original held (same.trans equal))
  · rw [device]
    exact guarded.safe

/-- The engine may revise its book-keeping as long as it keeps track of what may still run. -/
theorem onProgress (guarded : Guarded ⟨engine, hand, recorded⟩) {progress : Progress}
    (ordered : progress.Ordered)
    (flying : ∀ frame name, name ∈ engine.device.pending →
      (frame, name) ∈ engine.progress.inFlight → (frame, name) ∈ progress.inFlight)
    (recording : engine.device.lost = false → recorded ≠ [] →
      progress.recording = engine.progress.recording) :
    Guarded ⟨{ engine with progress }, hand, recorded⟩ where
  fenced := guarded.fenced
  ordered := ordered
  recorded := guarded.recorded
  submitted := fun usable fence used since submitted => by
    refine (guarded.submitted usable fence used since submitted).imp_right ?_
    intro tracked
    obtain ⟨frame, name, fenceEq, waits, inFlight, marked⟩ := tracked
    exact ⟨frame, name, fenceEq, waits, flying frame name waits inFlight, marked⟩
  reserved := fun usable handle inside => by
    obtain ⟨frame, open_, marked⟩ := guarded.reserved usable handle inside
    exact ⟨frame, (recording usable (List.ne_nil_of_mem inside)).trans open_, marked⟩
  safe := guarded.safe

theorem onBooks (guarded : Guarded ⟨engine, hand, recorded⟩) {after : Engine}
    (device : after.device = engine.device) (progress : after.progress = engine.progress)
    (owned : after.owned = engine.owned) : Guarded ⟨after, hand, recorded⟩ :=
  guarded.onImages device progress fun image member => by
    rw [held, owned] at member
    exact ⟨image, member, rfl, fun _ since => since⟩

theorem markIdle (guarded : Guarded ⟨engine, hand, recorded⟩)
    (idle : engine.device.lost = true ∨ History.Drained engine.device.events) :
    Guarded ⟨{ engine with progress := engine.progress.markIdle }, hand, recorded⟩ where
  fenced := guarded.fenced
  ordered := guarded.ordered.markIdle
  recorded := guarded.recorded
  submitted := fun usable fence used since submitted => by
    have drained := idle.resolve_left (by simpa using usable)
    exact .inl (drained.completed submitted)
  reserved := guarded.reserved
  safe := guarded.safe

/-! ## Moves of the device -/

theorem onDevice (guarded : Guarded ⟨engine, hand, recorded⟩) {device : Device}
    (fenced : device.Fenced) (lost : engine.device.lost = true → device.lost = true)
    (added : History) (events : device.events = added ++ engine.device.events)
    (plain : ∀ event ∈ added, event.isFlush = false ∧ event.uses = [])
    (safe : History.Always DeviceEvent.Safe device.events) :
    Guarded ⟨{ engine with device }, hand, recorded⟩ := by
  have before : device.lost = false → engine.device.lost = false := by
    intro usable
    cases earlier : engine.device.lost with
    | false => rfl
    | true => exact absurd ((lost earlier).symm.trans usable) (by simp)
  refine ⟨fenced, guarded.ordered, ?_, fun usable fence used since submitted => ?_,
    fun usable handle inside => guarded.reserved (before usable) handle inside, safe⟩
  · dsimp only
    rw [events, History.recorded_append plain]
    exact guarded.recorded
  · have whole := submitted
    dsimp only at submitted
    rw [events] at submitted
    obtain ⟨start, rfl, found⟩ := submitted.of_append added fun event member =>
      (plain event member).1
    rcases guarded.submitted (before usable) fence used start found with done | tracked
    · exact .inl (done.append added)
    · obtain ⟨frame, name, rfl, -, flying, marked⟩ := tracked
      by_cases waits : name ∈ device.pending
      · exact .inr ⟨frame, name, rfl, waits, flying, marked⟩
      · exact .inl (fenced.completed usable whole waits)

theorem steps (guarded : Guarded ⟨engine, hand, recorded⟩) {device : Device}
    (fenced : device.Fenced) (extension : Device.Extends engine.device device) :
    Guarded ⟨{ engine with device }, hand, recorded⟩ := by
  obtain ⟨added, events, inert⟩ := extension.events
  refine guarded.onDevice fenced extension.lost added events (fun event member => ?_) ?_
  · exact ⟨(inert event member).2, DeviceEvent.isInert.uses (inert event member).1⟩
  · rw [events]
    exact guarded.safe.append fun event member earlier =>
      DeviceEvent.isInert.safe (inert event member).1 earlier

theorem log (guarded : Guarded ⟨engine, hand, recorded⟩) {event : DeviceEvent}
    (fenced : (engine.device.log event).Fenced) (unflushed : event.isFlush = false)
    (unused : event.uses = []) (spares : ∀ mode handles, event ≠ .handed mode .destroy handles) :
    Guarded ⟨{ engine with device := engine.device.log event }, hand, recorded⟩ := by
  refine guarded.onDevice fenced id [event] rfl ?_
    ⟨DeviceEvent.safe_of_spares _ spares, guarded.safe⟩
  simpa using ⟨unflushed, unused⟩

theorem uses (guarded : Guarded ⟨engine, hand, recorded⟩) {event : DeviceEvent}
    (fenced : (engine.device.log event).Fenced) (unflushed : event.isFlush = false)
    (spares : ∀ mode handles, event ≠ .handed mode .destroy handles)
    (reserved : ∀ handle ∈ event.uses, Reserved ⟨engine, hand, recorded⟩ handle) :
    Guarded ⟨{ engine with device := engine.device.log event }, hand,
      event.uses ++ recorded⟩ where
  fenced := fenced
  ordered := guarded.ordered
  recorded := by
    have before := guarded.recorded
    simp only [Device.log, History.recorded, unflushed, Bool.false_eq_true, if_false] at before ⊢
    rw [before]
  submitted := fun usable fence used since submitted => by
    rcases History.submitted_cons_iff.mp submitted with ⟨-, rfl, -⟩ | ⟨start, rfl, found⟩
    · cases unflushed
    · exact (guarded.submitted usable fence used start found).imp_left (·.append [event])
  reserved := fun usable handle inside => by
    rcases List.mem_append.mp inside with new | before
    · exact reserved handle new
    · exact guarded.reserved usable handle before
  safe := ⟨DeviceEvent.safe_of_spares _ spares, guarded.safe⟩

/-- An image that is complete, or whose device is lost, may be destroyed. -/
theorem released {image : Image} (guarded : Guarded ⟨engine, image :: hand, recorded⟩)
    (safe : engine.progress.isComplete image.lastUsed = true ∨ engine.device.lost = true) :
    DeviceEvent.Safe (.handed image.mode .destroy [image.handle]) engine.device.events := by
  have held : image ∈ engine.owned ++ image :: hand :=
    List.mem_append_right _ List.mem_cons_self
  intro handle member
  rw [List.mem_singleton.mp member]
  constructor
  · intro present
    have usable : engine.device.lost = false := by
      simpa using fun lost => present (guarded.fenced.lost_iff.mp lost)
    have complete : engine.progress.isComplete image.lastUsed = true :=
      safe.resolve_right (by simp [usable])
    -- A later use than the watermark would contradict the image being complete.
    have below : ∀ frame, image.UsedSince frame → ¬engine.progress.completed < frame := by
      intro frame since above
      obtain ⟨latest, used, bound⟩ := since
      rw [Option.mem_def.mp used] at complete
      have done : latest ≤ engine.progress.completed := by
        simpa [Progress.isComplete] using complete
      exact Nat.lt_irrefl _ (Nat.lt_of_lt_of_le above (Nat.le_trans bound done))
    constructor
    · intro inside
      rw [← guarded.recorded] at inside
      obtain ⟨frame, recording, marked⟩ := guarded.reserved usable image.handle inside
      exact below frame (marked image held rfl) (guarded.ordered.recording frame recording).1
    · intro fence used since submitted inside
      refine (guarded.submitted usable fence used since submitted).resolve_right ?_
      intro tracked
      obtain ⟨frame, name, -, -, flying, marked⟩ := tracked
      exact below frame (marked image held inside) (guarded.ordered.completed _ flying)
  · intro lost fence used since submitted
    have none := guarded.fenced.idle (guarded.fenced.lost_iff.mpr lost)
    refine (guarded.fenced.settled fence used since submitted).resolve_left ?_
    rw [none]
    exact List.not_mem_nil

theorem destroy {image : Image} (guarded : Guarded ⟨engine, image :: hand, recorded⟩)
    (owned : Owned ⟨engine, image :: hand, recorded⟩)
    (safe : engine.progress.isComplete image.lastUsed = true ∨ engine.device.lost = true) :
    Guarded ⟨{ engine with device := engine.device.acceptDestroy image.mode image.handle },
      hand, recorded⟩ := by
  have live : image.asLive ∈ engine.device.live :=
    owned.mem_live (List.mem_append_right _ List.mem_cons_self)
  have shape := owned.coherent.acceptDestroy_eq live
  simp only [Image.asLive] at shape
  have fenced : (engine.device.acceptDestroy image.mode image.handle).Fenced :=
    guarded.fenced.acceptDestroy image.mode image.handle
  have events : (engine.device.acceptDestroy image.mode image.handle).events =
      [.destroyed image.handle, .handed image.mode .destroy [image.handle]] ++
        engine.device.events := by
    rw [shape]
    rfl
  have gone := guarded.onDevice fenced
    (fun lost => by
      rw [shape]
      exact lost)
    _ events (by simp [DeviceEvent.isFlush, DeviceEvent.uses])
    (by
      rw [events]
      exact ⟨trivial, guarded.released safe, guarded.safe⟩)
  refine gone.onImages rfl rfl fun other member => ⟨other, ?_, rfl, fun _ since => since⟩
  rcases List.mem_append.mp member with before | rest
  · exact List.mem_append_left _ before
  · exact List.mem_append_right _ (List.mem_cons_of_mem _ rest)

theorem onUnused {image : Image} (guarded : Guarded ⟨engine, hand, recorded⟩)
    (unused : ∀ event ∈ engine.device.events, image.handle ∉ event.uses) :
    Guarded ⟨engine, image :: hand, recorded⟩ := by
  have unrecorded : ∀ earlier : History, (∀ event ∈ earlier, event ∈ engine.device.events) →
      image.handle ∉ History.recorded earlier := by
    intro earlier part inside
    obtain ⟨event, member, used⟩ := History.recorded_subset inside
    exact unused event (part event member) used
  have known : ∀ other ∈ engine.owned ++ image :: hand, other = image ∨
      other ∈ engine.owned ++ hand := by
    intro other member
    simp only [List.mem_append, List.mem_cons] at member ⊢
    tauto
  refine ⟨guarded.fenced, guarded.ordered, guarded.recorded,
    fun usable fence used since submitted => ?_, fun usable handle inside => ?_, guarded.safe⟩
  · refine (guarded.submitted usable fence used since submitted).imp_right ?_
    intro tracked
    obtain ⟨frame, name, fenceEq, waits, flying, marked⟩ := tracked
    refine ⟨frame, name, fenceEq, waits, flying, fun other member named => ?_⟩
    rcases known other member with rfl | before
    · obtain ⟨earlier, split, rfl⟩ := submitted
      dsimp only at split
      refine absurd named (unrecorded earlier fun event part => ?_)
      rw [split]
      exact List.mem_append_right _ (List.mem_cons_of_mem _ part)
    · exact marked other before named
  · obtain ⟨frame, recording, marked⟩ := guarded.reserved usable handle inside
    refine ⟨frame, recording, fun other member same => ?_⟩
    rcases known other member with rfl | before
    · refine absurd ?_ (unrecorded engine.device.events fun _ part => part)
      rw [same, ← guarded.recorded]
      exact inside
    · exact marked other before same

theorem issue (guarded : Guarded ⟨engine, hand, recorded⟩)
    (owned : Owned ⟨engine, hand, recorded⟩) (kind : ImageKind) (buffer : BufferId) :
    Guarded ⟨{ engine with
        device := (engine.device.issue engine.contexts.current kind buffer).2 },
      .fresh (engine.device.issue engine.contexts.current kind buffer).1 buffer
        engine.contexts.current kind :: hand, recorded⟩ := by
  let image : LiveImage := ⟨⟨engine.device.issued + 1⟩, engine.contexts.current, buffer, kind⟩
  have fenced : (engine.device.issue engine.contexts.current kind buffer).2.Fenced :=
    (guarded.fenced.onImages (engine.device.issued + 1) (engine.device.live ++ [image])).log rfl
  have told := guarded.onDevice fenced id [.created image] rfl
    (by simp [DeviceEvent.isFlush, DeviceEvent.uses]) ⟨trivial, guarded.safe⟩
  refine told.onUnused fun event member used => ?_
  rcases List.mem_cons.mp member with rfl | before
  · cases used
  · have bounded := (Device.mem_issuedHandles.mp (owned.coherent.uses_issued before used)).2
    simp only [Image.fresh, Device.issue] at bounded
    exact Nat.not_succ_le_self _ bounded

/-! ## Submissions -/

theorem safe_flushed (guarded : Guarded ⟨engine, hand, recorded⟩) {added : History}
    (fence : Option Fence) (inert : ∀ event ∈ added, event.isInert = true ∧ event.isFlush = false) :
    History.Always DeviceEvent.Safe (added ++ .flushed fence :: engine.device.events) := by
  have told : History.Always DeviceEvent.Safe (.flushed fence :: engine.device.events) :=
    ⟨trivial, guarded.safe⟩
  exact told.append fun event member earlier =>
    DeviceEvent.isInert.safe (inert event member).1 earlier

theorem submitFenced (guarded : Guarded ⟨engine, hand, recorded⟩) {frame : FrameSeq}
    {fence : Fence} {device : Device} (recording : engine.progress.recording = some frame)
    (flushes : Device.Flushes engine.device (some fence) device) :
    Guarded ⟨{ engine with device, progress := engine.progress.submitted frame (some fence) },
      hand, []⟩ := by
  obtain ⟨added, events, inert⟩ := flushes.events
  have fenced := guarded.fenced.flush flushes
  have unflushed : ∀ event ∈ added, event.isFlush = false := fun event member =>
    (inert event member).2
  have inFlight := Progress.submitted_inFlight recording fence
  refine ⟨fenced, guarded.ordered.submitted recording (some fence), ?_,
    fun usable other used since submitted => ?_, by simp, ?_⟩
  · dsimp only
    rw [events, History.recorded_flushed fence inert]
  · have whole := submitted
    dsimp only at usable submitted
    rw [events] at submitted
    obtain ⟨start, rfl, found⟩ := submitted.of_append added unflushed
    rcases History.submitted_cons_iff.mp found with ⟨rfl, same, rfl⟩ | ⟨earlier, rfl, before⟩
    · cases same
      by_cases waits : fence ∈ device.pending
      · refine .inr ⟨frame, fence, rfl, waits, ?_, fun image member inside => ?_⟩
        · rw [inFlight]
          exact List.mem_append_right _ (List.mem_singleton.mpr rfl)
        · have known := guarded.recorded
          dsimp only at known
          rw [← known] at inside
          obtain ⟨current, open_, marked⟩ :=
            guarded.reserved flushes.usable image.handle inside
          cases open_.symm.trans recording
          exact marked image member rfl
      · exact .inl (fenced.completed usable whole waits)
    · rcases guarded.submitted flushes.usable other used earlier before with done | tracked
      · have longer := done.append (added ++ [.flushed (some fence)])
        rw [List.append_assoc] at longer
        exact .inl longer
      · obtain ⟨number, name, rfl, -, flying, marked⟩ := tracked
        by_cases waits : name ∈ device.pending
        · refine .inr ⟨number, name, rfl, waits, ?_, marked⟩
          rw [inFlight]
          exact List.mem_append_left _ flying
        · exact .inl (fenced.completed usable whole waits)
  · dsimp only
    rw [events]
    exact guarded.safe_flushed fence inert

/-- Where the device is drained, or lost, nothing is left to keep track of. -/
theorem settled (guarded : Guarded ⟨engine, hand, recorded⟩) {device : Device}
    {progress : Progress} (fenced : device.Fenced) (ordered : progress.Ordered)
    {fence : Option Fence} {flushed : Device}
    (flushes : Device.Flushes engine.device fence flushed)
    (extension : Device.Extends flushed device)
    (idle : device.lost = true ∨ History.Drained device.events) :
    Guarded ⟨{ engine with device, progress }, hand, []⟩ := by
  obtain ⟨first, flushedEvents, firstInert⟩ := flushes.events
  obtain ⟨second, laterEvents, secondInert⟩ := extension.events
  have events : device.events = (second ++ first) ++ .flushed fence :: engine.device.events := by
    rw [laterEvents, flushedEvents, List.append_assoc]
  have inert : ∀ event ∈ second ++ first, event.isInert = true ∧ event.isFlush = false := by
    intro event member
    exact (List.mem_append.mp member).elim (secondInert event) (firstInert event)
  refine ⟨fenced, ordered, ?_, fun usable other used since submitted => ?_, by simp, ?_⟩
  · dsimp only
    rw [events, History.recorded_flushed fence inert]
  · have drained := idle.resolve_left (by simpa using usable)
    exact .inl (drained.completed submitted)
  · dsimp only
    rw [events]
    exact guarded.safe_flushed fence inert

end Guarded

end Moment

/-! ## All moves -/

theorem mem_dropWhile {α : Type} {drops : α → Bool} {entry : α} {entries : List α}
    (member : entry ∈ entries) (stays : drops entry = false) : entry ∈ entries.dropWhile drops := by
  induction entries with
  | nil => cases member
  | cons head rest ih =>
      rw [List.dropWhile_cons]
      split
      · rename_i dropped
        rcases List.mem_cons.mp member with rfl | later
        · exact absurd (stays.symm.trans dropped) (by simp)
        · exact ih later
      · exact member

namespace Moment

theorem Owned.reserves {engine : Engine} {hand : List Image} {recorded : List ImageHandle}
    (owned : Owned ⟨engine, hand, recorded⟩) {frame : FrameSeq} {handle : ImageHandle}
    (recording : engine.progress.recording = some frame)
    (available : ∃ image ∈ engine.owned ++ hand, image.handle = handle ∧ image.UsedSince frame) :
    Reserved ⟨engine, hand, recorded⟩ handle := by
  obtain ⟨image, member, rfl, since⟩ := available
  refine ⟨frame, recording, fun other inside same => ?_⟩
  rw [List.inj_on_of_nodup_map owned.handles_nodup inside member same]
  exact since

end Moment

/-- A move keeps the guard as long as the submission numbers do not run out. -/
theorem Move.guarded {before after : Moment} (move : Move before after) (owned : before.Owned)
    (paced : before.Paced) (guarded : before.Guarded)
    (unsaturated : after.engine.progress.lastIssued < FrameSeq.last) : after.Guarded := by
  cases move with
  | device step => exact guarded.steps (guarded.fenced.step step) step.extends
  | @note engine hand recorded _ _ cleaned =>
      have ordered := guarded.ordered
      have noted : Moment.Guarded
          ⟨{ engine with progress := { engine.progress with cleaned } }, hand, recorded⟩ :=
        guarded.onProgress ⟨ordered.completed, ordered.increasing, ordered.recording⟩
          (fun _ _ _ => id) fun _ _ => rfl
      exact noted.onBooks rfl rfl rfl
  | markLost => exact guarded.onBooks rfl rfl rfl
  | poll =>
      refine guarded.onProgress (guarded.ordered.poll _) (fun frame name waits flying => ?_)
        fun _ _ => rfl
      exact mem_dropWhile flying (by simp [guarded.fenced.isPending waits])
  | begin =>
      exact guarded.onProgress (guarded.ordered.begin paced.progress unsaturated)
        (fun _ _ _ => id) fun _ some => absurd rfl some
  | abandon droppable =>
      refine guarded.onProgress guarded.ordered.abandon (fun _ _ _ => id) fun usable some => ?_
      rcases droppable with lost | none
      · exact absurd (usable.symm.trans lost) (by simp)
      · exact absurd none some
  | idle drained => exact guarded.markIdle drained
  | shift _ same =>
      exact guarded.onImages rfl rfl fun image member =>
        ⟨image, same.mem_iff.mp member, rfl, fun _ since => since⟩
  | mark _ _ marked =>
      refine guarded.onImages rfl rfl fun image member => ?_
      obtain ⟨original, inside, rfl | rfl⟩ := Image.exists_of_marked marked member
      · exact ⟨_, inside, rfl, fun _ since => since⟩
      · exact ⟨original, inside, rfl, fun _ since => since.markUsed _⟩
  | issue => exact guarded.issue owned _ _
  | destroy safe => exact guarded.destroy owned safe
  | handOver spares =>
      exact guarded.log (guarded.fenced.log rfl) rfl rfl (by simp [spares])
  | bindTarget _ recording available =>
      refine guarded.uses (guarded.fenced.log rfl) rfl (by simp) fun handle used => ?_
      rw [List.mem_singleton.mp used]
      exact owned.reserves recording available
  | draw _ recording available =>
      exact guarded.uses (guarded.fenced.log rfl) rfl (by simp) fun handle used =>
        owned.reserves recording (available handle used)
  | submitFenced recording flushes => exact guarded.submitFenced recording flushes
  | @submitDrained _ _ _ _ _ _ ready recording flushes same usable =>
      have quiet : Device.Step _ ready := .quiet same
      have drained : Device.Step ready ready.acceptFinish.2 := .finish
      exact guarded.settled ((guarded.fenced.flush flushes).quiet same).acceptFinish
        (guarded.ordered.markIdle.submitted recording none) flushes
        (quiet.extends.trans drained.extends) (.inr (Device.acceptFinish_drained usable))
  | flushLost flushes steps lost =>
      exact guarded.settled (steps.fenced (guarded.fenced.flush flushes)) guarded.ordered flushes
        steps.extends (.inl lost)
  | activate => exact guarded.onBooks rfl rfl rfl

theorem Moves.guarded {before after : Moment} (moves : Moves before after) (owned : before.Owned)
    (paced : before.Paced) (guarded : before.Guarded)
    (unsaturated : after.engine.progress.lastIssued < FrameSeq.last) : after.Guarded := by
  induction moves with
  | refl => exact guarded
  | @tail middle _ path move ih =>
      have middlePaced := Moves.paced path paced
      have below := Nat.lt_of_le_of_lt (move.issued_le middlePaced) unsaturated
      exact move.guarded (Moves.owned path owned) middlePaced (ih below) unsaturated

end Compositor
