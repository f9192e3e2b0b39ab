import Compositor.Proofs.Ledger
import Compositor.Proofs.Shelf.Binding
import Compositor.Proofs.Shelf.Frame

/-!
# Textures over a session

A shelf follows the actions of a session and holds buffers only. Binding puts a buffer on it, a
failure to bind and unbinding take it off, a change of the context empties it, and a frame leaves
there what it sampled and could get hold of. In every state, the shelf holds the buffers that have a
texture.
-/

set_option autoImplicit false

namespace Compositor

variable {engine : Engine} {recorded : List ImageHandle}

/-! ## Operations -/

namespace Engine

/-- The shelf after an operation of the engine. -/
def shelve (engine : Engine) (action : Action) (shelf : Finset BufferId) : Finset BufferId :=
  match action with
  | .bind buffer =>
    if engine.lost then shelf
    else if (engine.bind buffer).1.isOk then insert buffer.id shelf
    else shelf.erase buffer.id
  | .unbind buffer => shelf.erase buffer
  | .setProtected wantsSecure => engine.carried (engine.setProtected wantsSecure).2 shelf
  | .draw request => engine.shelveFrame request shelf
  | _ => shelf

theorem bind_shelves (engine : Engine) (buffer : Buffer) :
    (engine.bind buffer).2.stock = engine.shelve (.bind buffer) engine.stock := by
  cases lost : engine.lost with
  | true =>
      have refused : engine.bind buffer = (.error .contextLost, engine) := if_pos lost
      simp [shelve, lost, refused]
  | false => simpa [shelve, lost] using bind_stock lost buffer

theorem unbind_stock (engine : Engine) (buffer : BufferId) :
    (engine.unbind buffer).stock = engine.stock.erase buffer :=
  (engine.poll.textures.unbind_stock buffer : _)

/-- Flushing, draining, cleaning up and waiting leave textures alone. -/
theorem flush_textures (engine : Engine) : engine.flush.2.textures = engine.textures := by
  unfold flush
  split
  · rfl
  · exact (Bypasses.submit _ _).textures

theorem finish_textures (engine : Engine) : engine.finish.2.textures = engine.textures := by
  unfold finish
  split
  · rfl
  · cases engine.device.finish with
    | mk drained device => cases drained <;> rfl

theorem cleanup_textures (engine : Engine) : engine.cleanup.2.textures = engine.textures := by
  unfold cleanup
  cases engine.strategy.cleanup engine.device engine.progress with
  | mk result rest => cases result <;> rfl

end Engine

namespace Session

theorem operate_stock {action : Action} {outcome : Outcome} {after : Engine}
    (rested : Moment.Rested ⟨engine, [], recorded⟩)
    (operated : operate engine action = some (outcome, after)) :
    after.stock = engine.shelve action engine.stock := by
  have stock : ∀ {later : Engine}, later.textures = engine.textures →
      later.stock = engine.stock := fun same => congrArg TextureCache.stock same
  cases action with
  | draw request =>
      cases operated
      exact (Engine.draw_restocks rested request).stock
  | bind buffer =>
      cases operated
      exact engine.bind_shelves buffer
  | unbind buffer =>
      cases operated
      exact engine.unbind_stock buffer
  | invalidate buffer =>
      cases operated
      exact stock rfl
  | setProtected wantsSecure =>
      cases operated
      exact Engine.switchTo_stock rested _
  | flush =>
      cases operated
      exact stock engine.flush_textures
  | finish =>
      cases operated
      exact stock engine.finish_textures
  | cleanup =>
      cases operated
      exact stock engine.cleanup_textures
  | await fence =>
      cases operated
      exact stock rfl
  | watchTracer elapsed =>
      cases operated
      exact stock rfl
  | _ => cases operated

end Session

/-! ## Requests -/

theorem ImageRequest.apply_stock (request : ImageRequest) (engine : Engine) :
    (request.apply engine).2.stock = engine.shelve request.action engine.stock := by
  cases request with
  | cache buffer => exact engine.bind_shelves buffer
  | unbind buffer => exact engine.unbind_stock buffer

namespace ImageRequests

/-- The requests that the worker applies during an action. -/
def due (requests : ImageRequests) : Action → List (Ticket × ImageRequest)
  | .serve => requests.waiting.take 1
  | .collect ticket =>
    requests.waiting.take ((requests.waiting.findIdx? (·.1 == ticket)).elim 0 (· + 1))
  | _ => []

/-- The shelf after requests were applied. -/
def shelveAll : List (Ticket × ImageRequest) → Engine → Finset BufferId → Finset BufferId
  | [], _, shelf => shelf
  | (_, request) :: rest, engine, shelf =>
    shelveAll rest (request.apply engine).2 (engine.shelve request.action shelf)

theorem applyAll_stock (waiting : List (Ticket × ImageRequest)) (engine : Engine) :
    (applyAll waiting engine).2.stock = shelveAll waiting engine engine.stock := by
  induction waiting generalizing engine with
  | nil => rfl
  | cons entry rest ih =>
      have applied := entry.2.apply_stock engine
      rw [applyAll, shelveAll, ← applied]
      exact ih _

theorem serve_stock (requests : ImageRequests) (engine : Engine) :
    (requests.serve engine).2.stock =
      shelveAll (requests.due .serve) engine engine.stock := by
  have same : requests.serve engine = serveMany 1 requests engine := rfl
  rw [same, serveMany_eq]
  exact applyAll_stock _ engine

theorem await_stock (requests : ImageRequests) (ticket : Ticket) (engine : Engine) :
    (requests.await ticket engine).2.2.stock =
      shelveAll (requests.due (.collect ticket)) engine engine.stock := by
  rw [await, serveThrough_eq, serveMany_eq]
  exact applyAll_stock _ engine

end ImageRequests

/-! ## Runs -/

namespace Session

/-- The shelf after one action. An engine that goes takes its textures with it. -/
def shelve (session : Session) (action : Action) (shelf : Finset BufferId) : Finset BufferId :=
  match session.engine? with
  | none => ∅
  | some engine =>
    match action with
    | .start _ | .stop => ∅
    | .serve | .collect _ => ImageRequests.shelveAll (session.requests.due action) engine shelf
    | _ => engine.shelve action shelf

def shelfFrom (session : Session) (shelf : Finset BufferId) : List Action → Finset BufferId
  | [] => shelf
  | action :: rest => (session.step action).2.shelfFrom (session.shelve action shelf) rest

/-- The shelf after a run. -/
def shelf (session : Session) (actions : List Action) : Finset BufferId :=
  session.shelfFrom ∅ actions

/-- An engine in this session has textures of the buffers on the shelf. -/
def Stocks (session : Session) (shelf : Finset BufferId) : Prop :=
  ∀ engine ∈ session.engine?, engine.stock = shelf

theorem shelve_replaced (session : Session) {action : Action}
    (replaces : action.replacesEngine = true) (shelf : Finset BufferId) :
    session.shelve action shelf = ∅ := by
  unfold shelve
  cases session.engine? with
  | none => rfl
  | some engine =>
      cases action with
      | start | stop => rfl
      | _ => cases replaces

theorem created_stock {device : Device} {capabilities : Capabilities} {options : EngineOptions}
    {order : ReleaseOrder} (isNew : Engine.create device capabilities options order = .ok engine) :
    engine.stock = ∅ := by
  have owned := (Engine.create_fresh isNew).owned
  simp only [Engine.owned, List.append_eq_nil_iff] at owned
  exact TextureCache.stock_eq_empty owned.1.1

theorem step_stocks {session : Session} (sound : session.Sound) {shelf : Finset BufferId}
    (stocks : session.Stocks shelf) (action : Action) :
    (session.step action).2.Stocks (session.shelve action shelf) := by
  intro after later
  have stepped := session.step_stepped action
  cases replaces : action.replacesEngine with
  | true =>
      rw [shelve_replaced session replaces]
      cases replaced_created replaces later with
      | created _ isNew => exact created_stock isNew
      | worked kept => cases replaces.symm.trans kept
  | false =>
      generalize session.step action = result at stepped later
      cases stepped with
      | started | stopped => cases replaces
      | scripted scripted =>
          obtain ⟨device, changed⟩ := script_eq scripted
          rw [changed, setDevice_engine?] at later
          obtain ⟨before, occupied, rfl⟩ := Option.map_eq_some_iff.mp later
          rw [shelve, occupied]
          cases action with
          | createFence | settleFence | signalNext | signalAll | rejectImports | allowImports
          | lose | scheduleLoss => exact stocks before occupied
          | _ => cases scripted
      | absent vacant => cases vacant.symm.trans later
      | @operated _ before _ _ occupied operated =>
          obtain ⟨_, rested⟩ := sound.rested occupied
          have shelved := operate_stock rested operated
          rw [stocks before occupied] at shelved
          cases later
          rw [shelve, occupied]
          cases action with
          | start | stop | submit | serve | collect => cases operated
          | _ => exact shelved
      | @requested _ before occupied concerns =>
          have stock := stocks before occupied
          rw [shelve, occupied]
          cases action with
          | submit request =>
              cases occupied.symm.trans later
              exact stock
          | serve =>
              have applied := session.requests.serve_stock before
              rw [stock] at applied
              cases later
              exact applied
          | collect ticket =>
              have applied := session.requests.await_stock ticket before
              rw [stock] at applied
              cases later
              exact applied
          | _ => cases concerns

/-- What is on the shelf is what has a texture, after every run. -/
theorem run_stocks {session : Session} (sound : session.Sound) {shelf : Finset BufferId}
    (stocks : session.Stocks shelf) (actions : List Action) :
    (session.run actions).2.Stocks (session.shelfFrom shelf actions) := by
  induction actions generalizing session shelf with
  | nil => exact stocks
  | cons action rest ih =>
      rw [run_cons]
      exact ih (step_sound session action sound) (step_stocks sound stocks action)

end Session

/-! ## What an engine tells of its textures -/

namespace TextureCache

theorem ids_perm (cache : TextureCache) : cache.ids.Perm (cache.entries.map (·.buffer)) :=
  List.mergeSort_perm _ _

theorem ids_ascending {cache : TextureCache}
    (distinct : (cache.entries.map (·.buffer)).Nodup) :
    cache.ids.Pairwise (·.value < ·.value) := by
  let before := fun left right : BufferId => decide (left.value ≤ right.value)
  have transitive : ∀ first second third : BufferId, before first second = true →
      before second third = true → before first third = true := by
    intro first second third left right
    simp only [before, decide_eq_true_eq] at left right ⊢
    exact UInt64.le_trans left right
  have total : ∀ left right : BufferId, (before left right || before right left) = true := by
    intro left right
    simpa [before] using UInt64.le_total left.value right.value
  have sorted : cache.ids.Pairwise fun left right => before left right = true :=
    List.pairwise_mergeSort transitive total _
  have unique : cache.ids.Nodup := cache.ids_perm.nodup_iff.mpr distinct
  refine (sorted.and unique).imp ?_
  intro left right both
  obtain ⟨least, different⟩ := both
  simp only [before, decide_eq_true_eq] at least
  refine UInt64.lt_of_le_of_ne least ?_
  intro same
  exact different (congrArg BufferId.mk same)

end TextureCache

namespace Session

/-- In every reachable state, the buffers that have a texture are those on the shelf, each listed
once. A frame asks for no texture that is there, and gets at most one for each buffer. What binding
replaces goes to the images that wait, or is destroyed. -/
theorem textures_follow_shelf (options : DeviceOptions) (capabilities : Capabilities)
    (order : ReleaseOrder) (actions : List Action) :
    let start := Session.new (.new options) capabilities order
    let shelf := start.shelf actions
    ∀ engine ∈ (start.run actions).2.engine?,
      engine.textures.ids.Pairwise (·.value < ·.value) ∧
        engine.textures.ids.toFinset = shelf ∧
        (∀ request, engine.Restocks request shelf) ∧
        (engine.lost = false → ∀ buffer,
          engine.poll.HandsOver buffer.id (engine.bind buffer).2) := by
  intro start shelf engine occupied
  have sound : start.Sound := new_sound options capabilities order
  obtain ⟨_, rested⟩ := (run_sound sound actions).rested occupied
  have vacant : start.Stocks ∅ := by
    intro other here
    cases here
  have stock : engine.stock = shelf := run_stocks sound vacant actions engine occupied
  refine ⟨TextureCache.ids_ascending rested.owned.shelved.textureBuffers, ?_, ?_, ?_⟩
  · rw [← stock]
    exact List.toFinset_eq_of_perm _ _ engine.textures.ids_perm
  · intro request
    rw [← stock]
    exact Engine.draw_restocks rested request
  · intro alive buffer
    exact Engine.bind_hands rested alive buffer

/-- One buffer is bound, and the frame after that samples two others: one of them twice, and one that
cannot be imported. -/
private def texturesReplaced : List Action :=
  let sample := fun id : UInt64 => Layer.ofBuffer (.plain ⟨id⟩ 8 8) (.ofSize 8 8)
  [.start ⟨2, false, false, 3000, 3000⟩, .bind (.plain ⟨1⟩ 8 8), .rejectImports ⟨3⟩,
    .draw ⟨.ofSize 64 64, [sample 2, sample 3, sample 2], .plain ⟨9⟩ 64 64, true, none⟩]

/-- Only the texture of the sampled buffer is left, and a frame that samples it makes none. -/
theorem textures_follow_shelf_of_frame :
    let start := Session.new (.new ⟨true, true, false, 4096⟩)
      DeviceOptions.standard.capabilities .byArrival
    let session := (start.run texturesReplaced).2
    ∃ engine ∈ session.engine?, engine.textures.ids.toFinset = {⟨2⟩} ∧
      ∀ request, engine.Restocks request {⟨2⟩} := by
  intro start session
  have occupied : session.engine?.isSome = true := by decide
  obtain ⟨engine, found⟩ := Option.isSome_iff_exists.mp occupied
  have shelf : start.shelf texturesReplaced = {⟨2⟩} := by decide
  obtain ⟨-, content, frames, -⟩ := textures_follow_shelf ⟨true, true, false, 4096⟩
    DeviceOptions.standard.capabilities .byArrival texturesReplaced engine found
  exact ⟨engine, found, shelf ▸ content, shelf ▸ frames⟩

end Session

end Compositor
