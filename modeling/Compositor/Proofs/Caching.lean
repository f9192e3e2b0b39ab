import Compositor.Proofs.Outline.Verdict

/-!
# Caching is not observed

Frames that are the same but for the use of the output cache come to the same result, whatever else
is bound, unbound and requested between them, and however many targets are kept. Only what is told
of the cache itself may differ.
-/

set_option autoImplicit false

namespace Compositor

variable {describe : BufferId → Buffer} {signals : Nat → Bool}

/-! ## Actions between frames -/

def FrameRequest.uncached (request : FrameRequest) : FrameRequest :=
  { request.unfenced with usesOutputCache := false }

namespace Action

def uncached : Action → Action
  | .draw request => .draw request.uncached
  | action => action

/-- Holds for the actions that may come between frames without being noticed. -/
def isIncidental : Action → Bool
  | .bind _ | .unbind _ | .invalidate _ | .setProtected _ | .finish | .submit _ | .serve
  | .collect _ => true
  | action => action.isSilent

/-- The buffers that are described for an action. -/
def buffers : Action → List Buffer
  | .draw request => request.target :: request.layers.filterMap (·.buffer?)
  | .bind buffer => [buffer]
  | .submit request => request.buffer?.toList
  | _ => []

/-- Everything is described as ever. -/
def Described (describe : BufferId → Buffer) (action : Action) : Prop :=
  ∀ buffer ∈ action.buffers, buffer = describe buffer.id

instance (describe : BufferId → Buffer) (action : Action) :
    Decidable (action.Described describe) :=
  inferInstanceAs (Decidable (∀ buffer ∈ action.buffers, buffer = describe buffer.id))

theorem Described.frame {request : FrameRequest}
    (described : (Action.draw request).Described describe) : request.Described describe :=
  ⟨described request.target List.mem_cons_self, fun layer member buffer shown =>
    described buffer (List.mem_cons_of_mem _ (List.mem_filterMap.mpr ⟨layer, member, shown⟩))⟩

end Action

/-- The outcome without fences, and without what it tells of the cache. -/
def Outcome.uncached : Outcome → Outcome
  | .frame result => .frame (result.map fun output => ⟨output.status.uncached, ⟨0⟩⟩)
  | outcome => outcome.unfenced

theorem Outcome.unfenced_uncached (outcome : Outcome) :
    outcome.unfenced.uncached = outcome.uncached := by
  cases outcome with
  | frame result => cases result <;> rfl
  | flushed result => cases result <;> rfl
  | _ => rfl

/-! ## Prospects -/

/-- All that the frames to come depend on. -/
structure Prospect where
  setting : Setting
  issued : FrameSeq

namespace Prospect

/-- What comes of a frame. Without an engine nothing does, and no other action is looked at. -/
def answer (signals : Nat → Bool) : Option Prospect → Action → Outcome × Option Prospect
  | some prospect, .draw request =>
    let (result, issued) := prospect.setting.verdict signals prospect.issued request
    (.frame (result.map fun status => ⟨status, ⟨0⟩⟩), some { prospect with issued })
  | prospect?, _ => (.noEngine, prospect?)

/-- Answers one action after another, each with its waits ending as foretold. -/
def answers : Option Prospect → List (Action × (Nat → Bool)) → List Outcome
  | _, [] => []
  | prospect?, (action, signals) :: rest =>
    let (outcome, next?) := answer signals prospect? action
    outcome :: answers next? rest

end Prospect

theorem Setting.omissions_unfenced (setting : Setting) (signals : Nat → Bool) (mode : Mode)
    (layers : List Layer) :
    setting.omissions signals mode (layers.map Layer.unfenced).zipIdx =
      setting.omissions signals mode layers.zipIdx := by
  rw [omissions, omissions, List.zipIdx_map, List.filterMap_map]
  refine List.filterMap_congr fun entry _ => ?_
  simp only [Function.comp_apply, omission?, Prod.map, Layer.unfenced_buffer?, id]

/-- Neither fences nor the use of the output cache change what comes of a frame. -/
theorem Setting.verdict_uncached (setting : Setting) (signals : Nat → Bool) (issued : FrameSeq)
    (request : FrameRequest) :
    setting.verdict signals issued request.uncached = setting.verdict signals issued request := by
  have mode : request.uncached.mode = request.mode := request.unfenced_mode
  have target : request.uncached.target = request.target := rfl
  have layers : request.uncached.layers = request.layers.map Layer.unfenced := rfl
  unfold verdict composed
  rw [mode, target, layers, omissions_unfenced, List.length_map]

theorem Prospect.answer_uncached (signals : Nat → Bool) (prospect? : Option Prospect)
    (action : Action) :
    answer signals prospect? action.uncached = answer signals prospect? action := by
  cases prospect? with
  | none => cases action <;> rfl
  | some prospect =>
      cases action with
      | draw request => simp only [Action.uncached, answer, Setting.verdict_uncached]
      | _ => rfl

namespace Outline

def prospect (outline : Outline) : Prospect := ⟨outline.setting, outline.issued⟩

theorem Follows.prospect {before after : Outline} (follows : Follows describe before after) :
    after.prospect = before.prospect := by
  rw [Outline.prospect, Outline.prospect, follows.setting, follows.issued]

theorem Faithful.draw_answer {outline : Outline} (faithful : outline.Faithful describe)
    {request : FrameRequest} (described : request.Described describe) :
    ((Outcome.frame ((outline.draw signals request).1.map fun status => ⟨status, ⟨0⟩⟩)).uncached,
        some (outline.draw signals request).2.prospect) =
      Prospect.answer signals (some outline.prospect) (.draw request) := by
  obtain ⟨drawn, setting, -⟩ := @Faithful.draw describe signals outline request faithful described
  have uncached (result : Except EngineError FrameStatus) :
      (Outcome.frame (result.map fun status => ⟨status, ⟨0⟩⟩)).uncached =
        .frame ((result.map FrameStatus.uncached).map fun status => ⟨status, ⟨0⟩⟩) := by
    cases result <;> rfl
  simp only [Prospect.answer, Outline.prospect, ← drawn, uncached, setting]

end Outline

/-! ## Layouts -/

/-- Every buffer that is waiting to be bound is described as ever. -/
def ImageRequests.Described (describe : BufferId → Buffer) (requests : ImageRequests) : Prop :=
  ∀ entry ∈ requests.waiting, ∀ buffer ∈ entry.2.buffer?, buffer = describe buffer.id

namespace ImageRequests

variable {requests : ImageRequests}

theorem Described.submit (described : requests.Described describe) {request : ImageRequest}
    (known : ∀ buffer ∈ request.buffer?, buffer = describe buffer.id) :
    (requests.submit request).2.Described describe := by
  intro entry member
  rcases List.mem_append.mp member with before | new
  · exact described entry before
  · rw [List.mem_singleton.mp new]
    exact known

theorem Described.collect (described : requests.Described describe) (ticket : Ticket) :
    (requests.collect ticket).2.Described describe := by
  unfold ImageRequests.collect
  split <;> exact described

end ImageRequests

namespace Layout

def prospect? (layout : Layout) : Option Prospect := layout.site.outline?.map Outline.prospect

/-- What is cached would be imported again, and what is requested leaves it at that. -/
structure Faithful (describe : BufferId → Buffer) (layout : Layout) : Prop where
  outline : ∀ outline ∈ layout.site.outline?, outline.Faithful describe
  requests : layout.requests.Described describe

/-- The frames to come are the same as before. -/
structure Follows (describe : BufferId → Buffer) (before after : Layout) : Prop where
  prospect : after.prospect? = before.prospect?
  faithful : after.Faithful describe

variable {layout : Layout} {outline : Outline}

theorem Faithful.refl (faithful : layout.Faithful describe) : Follows describe layout layout :=
  ⟨rfl, faithful⟩

theorem Faithful.occupied (faithful : layout.Faithful describe)
    (occupied : layout.site = .occupied outline) : outline.Faithful describe := by
  refine faithful.outline outline ?_
  rw [occupied]
  rfl

theorem follows_setOutline (occupied : layout.site = .occupied outline) {after : Outline}
    {requests : ImageRequests} (same : after.prospect = outline.prospect)
    (faithful : after.Faithful describe) (described : requests.Described describe) :
    Follows describe layout ({ layout with requests }.setOutline after) := by
  have before : layout.prospect? = some outline.prospect := by
    rw [prospect?, occupied]
    rfl
  refine ⟨(congrArg some same).trans before.symm, ?_, described⟩
  rintro _ ⟨⟩
  exact faithful

/-- The worker leaves the frames to come as they were. -/
theorem Faithful.serveMany (faithful : layout.Faithful describe)
    (occupied : layout.site = .occupied outline) (count : Nat) :
    outline.Follows describe (Outline.serveMany count layout.requests outline).2 ∧
      (Outline.serveMany count layout.requests outline).1.Described describe := by
  refine ⟨(faithful.occupied occupied).applyAll fun entry member => ?_, fun entry member => ?_⟩
  · exact faithful.requests entry (List.mem_of_mem_take member)
  · exact faithful.requests entry (List.mem_of_mem_drop member)

theorem Faithful.operate (faithful : layout.Faithful describe)
    (occupied : layout.site = .occupied outline) {action : Action}
    (incidental : action.isIncidental = true) (described : action.Described describe) :
    Follows describe layout (layout.operate signals outline action).2 := by
  have outlined := faithful.occupied occupied
  have followed {after : Outline} {requests : ImageRequests}
      (follows : outline.Follows describe after) (described : requests.Described describe) :
      Follows describe layout ({ layout with requests }.setOutline after) :=
    follows_setOutline occupied follows.prospect follows.faithful described
  cases action with
  | bind buffer =>
      have bound := outlined.bindTexture (described buffer List.mem_cons_self)
      exact followed bound.follows faithful.requests
  | unbind buffer => exact followed (outlined.unbind buffer) faithful.requests
  | invalidate buffer => exact followed (outlined.invalidate buffer) faithful.requests
  | setProtected wantsSecure =>
      obtain ⟨switched, setting, issued, -⟩ := outlined.switchTo (.ofProtected wantsSecure)
      refine follows_setOutline occupied ?_ switched faithful.requests
      rw [Outline.prospect, Outline.prospect, setting, issued]
  | submit request =>
      have known : ∀ buffer ∈ request.buffer?, buffer = describe buffer.id :=
        fun buffer asked => described buffer (Option.mem_toList.mpr asked)
      exact ⟨rfl, faithful.outline, faithful.requests.submit known⟩
  | serve =>
      obtain ⟨follows, requested⟩ := faithful.serveMany occupied 1
      exact followed follows requested
  | collect ticket =>
      obtain ⟨follows, requested⟩ := faithful.serveMany occupied
        ((layout.requests.waiting.findIdx? (·.1 == ticket)).elim 0 (· + 1))
      exact followed follows (requested.collect ticket)
  | start | stop | draw | flush | rejectImports | allowImports | lose => cases incidental
  | _ => exact faithful.refl

theorem step_incidental (signals : Nat → Bool) (layout : Layout) {action : Action}
    (incidental : action.isIncidental = true) :
    layout.step signals action =
      match layout.site with
      | .vacant _ => (.noEngine, layout)
      | .occupied outline => layout.operate signals outline action := by
  cases action with
  | start | stop | draw | flush | rejectImports | allowImports | lose => cases incidental
  | _ => rfl

theorem Faithful.step (faithful : layout.Faithful describe) {action : Action}
    (incidental : action.isIncidental = true) (described : action.Described describe) :
    Follows describe layout (layout.step signals action).2 := by
  rw [step_incidental signals layout incidental]
  cases site : layout.site with
  | vacant canvas => exact faithful.refl
  | occupied outline => exact faithful.operate site incidental described

/-- A frame comes to what the prospect of it says. -/
theorem Faithful.draw (faithful : layout.Faithful describe) {request : FrameRequest}
    (described : request.Described describe) :
    ((layout.step signals (.draw request)).1.uncached,
        (layout.step signals (.draw request)).2.prospect?) =
        Prospect.answer signals layout.prospect? (.draw request) ∧
      (layout.step signals (.draw request)).2.Faithful describe := by
  unfold Layout.step prospect?
  cases site : layout.site with
  | vacant canvas =>
      dsimp only
      rw [site]
      exact ⟨rfl, faithful⟩
  | occupied outline =>
      have outlined := faithful.occupied site
      have answered := @Outline.Faithful.draw_answer describe signals outline outlined request
        described
      obtain ⟨-, -, after⟩ := @Outline.Faithful.draw describe signals outline request outlined
        described
      refine ⟨answered, ?_, faithful.requests⟩
      rintro _ ⟨⟩
      exact after

theorem Faithful.start (faithful : layout.Faithful describe) (options : EngineOptions) :
    (layout.start options).2.Faithful describe := by
  unfold Layout.start
  cases options.check with
  | error error => exact faithful
  | ok =>
      refine ⟨?_, faithful.requests⟩
      rintro _ ⟨⟩
      exact ⟨rfl, by simp, by simp⟩

/-- How many targets are kept has no influence on the frames to come. -/
theorem start_prospect (layout : Layout) (options : EngineOptions) (outputCacheSize : UInt64) :
    (layout.start { options with outputCacheSize }).2.prospect? =
      (layout.start options).2.prospect? := by
  have checked : ({ options with outputCacheSize } : EngineOptions).check = options.check := rfl
  unfold Layout.start
  rw [checked]
  cases options.check <;> rfl

end Layout

/-! ## Runs -/

/-- The same frame was asked for, and the waits that both came to ended alike. -/
def Report.SameFrame (left right : Report) : Prop :=
  left.action.uncached = right.action.uncached ∧ Waits.Agree left.waits right.waits

instance (left right : Report) : Decidable (left.SameFrame right) :=
  inferInstanceAs (Decidable (_ ∧ _))

namespace Session

variable {session : Session}

theorem step_incidental (sound : session.Sound) (faithful : session.layout.Faithful describe)
    {action : Action} (incidental : action.isIncidental = true)
    (described : action.Described describe)
    (usable : (session.step action).2.device.lost = false) :
    session.layout.Follows describe (session.step action).2.layout := by
  cases silent : action.isSilent with
  | true =>
      rw [step_silent silent]
      exact faithful.refl
  | false =>
      have waitless : session.waits action = [] := by
        cases action <;> first | rfl | cases incidental
      have foretold : Waits.Foretold (fun _ => true) (session.waits action) := by
        simp [waitless, Waits.Foretold]
      have stepped : _ = (session.step action).2.layout :=
        congrArg Prod.snd (step_layout sound silent foretold usable)
      rw [← stepped]
      exact faithful.step incidental described

/-- The frames of a run come to what was to be expected of them at its start. -/
theorem run_answers (sound : session.Sound) (faithful : session.layout.Faithful describe)
    {actions : List Action} {foretellings : List (Nat → Bool)}
    (usual : ∀ action ∈ actions, action.isDraw || action.isIncidental)
    (described : ∀ action ∈ actions, action.Described describe)
    (foretold : List.Forall₂ (fun signals report => Waits.Foretold signals report.waits)
      foretellings (session.reports Action.isDraw actions))
    (usable : (session.run actions).2.device.lost = false) :
    Prospect.answers session.layout.prospect?
        (((session.reports Action.isDraw actions).map (·.action.uncached)).zip foretellings) =
      (session.reports Action.isDraw actions).map (·.outcome.uncached) := by
  induction actions generalizing session foretellings with
  | nil => rfl
  | cons action rest ih =>
      rw [run_cons] at usable
      have next := step_sound session action sound
      have stepUsable := run_usable next usable
      have known := described action List.mem_cons_self
      have later := fun faithful {foretellings} foretold =>
        @ih (session.step action).2 next faithful foretellings
          (fun other member => usual other (List.mem_cons_of_mem _ member))
          (fun other member => described other (List.mem_cons_of_mem _ member)) foretold usable
      rw [reports_cons] at foretold ⊢
      by_cases drawn : action.isDraw = true
      · rw [if_pos drawn] at foretold ⊢
        cases action with
        | draw request =>
            cases foretold with
            | @cons signals _ _ _ first foretold =>
                have stepped := step_layout sound rfl first stepUsable
                obtain ⟨answered, after⟩ := @Layout.Faithful.draw describe signals
                  session.layout faithful request known.frame
                rw [stepped] at answered after
                rw [Outcome.unfenced_uncached] at answered
                simp only [List.map_cons, List.zip_cons_cons, Prospect.answers,
                  Prospect.answer_uncached, ← answered, later after foretold]
        | _ => cases drawn
      · have incidental : action.isIncidental = true := by
          have either := usual action List.mem_cons_self
          simpa [drawn] using either
        rw [if_neg drawn] at foretold ⊢
        have follows := step_incidental sound faithful incidental known stepUsable
        rw [← follows.prospect]
        exact later follows.faithful foretold

/-- With an engine just started, nothing is cached or requested. -/
theorem new_start {device : Device} (coherent : device.Coherent) (empty : device.live = [])
    (usable : device.lost = false) (capabilities : Capabilities) (order : ReleaseOrder)
    (engineOptions : EngineOptions) :
    let fresh := Session.new device capabilities order
    let started := (fresh.step (.start engineOptions)).2
    started.Sound ∧ started.layout = (fresh.layout.start engineOptions).2 ∧
      started.layout.Faithful describe := by
  intro fresh started
  have sound : started.Sound := step_sound fresh _ (.vacant coherent empty)
  have layout : started.layout = (fresh.layout.start engineOptions).2 :=
    (congrArg Prod.snd (@start_layout fresh usable engineOptions)).symm
  have vacant : fresh.layout.Faithful describe := by
    constructor
    · rintro _ ⟨⟩
    · rintro _ ⟨⟩
  exact ⟨sound, layout, layout ▸ vacant.start engineOptions⟩

/-- Two runs of the same frames come to the same, however many targets are kept in either, whatever
use each frame makes of them, and whatever is bound, unbound or requested in between, provided that
each buffer is always described in the same way, that the waits that both runs come to end alike and
that neither device is lost. -/
theorem caching_unobservable (options : DeviceOptions) (rejecting : List BufferId)
    (capabilities : Capabilities) (order otherOrder : ReleaseOrder)
    (engineOptions : EngineOptions) (outputCacheSize : UInt64) (describe : BufferId → Buffer)
    (actions otherActions : List Action) :
    let device := { Device.new options with rejecting }
    let left := ((Session.new device capabilities order).step (.start engineOptions)).2
    let right := ((Session.new device capabilities otherOrder).step
      (.start { engineOptions with outputCacheSize })).2
    (∀ action ∈ actions ++ otherActions, action.isDraw || action.isIncidental) →
    (∀ action ∈ actions ++ otherActions, action.Described describe) →
    (left.run actions).2.device.lost = false →
    (right.run otherActions).2.device.lost = false →
    List.Forall₂ Report.SameFrame (left.reports Action.isDraw actions)
      (right.reports Action.isDraw otherActions) →
    List.Forall₂ (fun first second => first.outcome.uncached = second.outcome.uncached)
      (left.reports Action.isDraw actions) (right.reports Action.isDraw otherActions) := by
  intro device left right usual described leftUsable rightUsable sameFrames
  have coherent : device.Coherent :=
    @Device.Coherent.of_inert (.new options) device (.new options) [] rfl rfl rfl (by simp)
  obtain ⟨leftSound, leftLayout, leftFaithful⟩ :=
    @new_start describe device coherent rfl rfl capabilities order engineOptions
  obtain ⟨rightSound, rightLayout, rightFaithful⟩ :=
    @new_start describe device coherent rfl rfl capabilities otherOrder
      { engineOptions with outputCacheSize }
  have same : left.layout.prospect? = right.layout.prospect? := by
    rw [leftLayout, rightLayout]
    exact (Layout.start_prospect _ engineOptions outputCacheSize).symm
  obtain ⟨foretellings, before, after⟩ :=
    Report.exists_foretellings (sameFrames.imp fun _ _ same => same.2)
  have actions := (Report.map_eq_map_iff (·.action.uncached)).mpr
    (sameFrames.imp fun _ _ same => same.1)
  have leftAnswers := run_answers leftSound leftFaithful
    (fun action member => usual action (List.mem_append_left _ member))
    (fun action member => described action (List.mem_append_left _ member)) before leftUsable
  have rightAnswers := run_answers rightSound rightFaithful
    (fun action member => usual action (List.mem_append_right _ member))
    (fun action member => described action (List.mem_append_right _ member)) after rightUsable
  rw [same, actions, rightAnswers] at leftAnswers
  exact (Report.map_eq_map_iff _).mp leftAnswers.symm

private def usualBuffer (buffer : BufferId) : Buffer :=
  if buffer = ⟨9⟩ then .plain buffer 64 64 else .plain buffer 8 8

/-- Shows two buffers, the second of which is rejected below. -/
private def mixedFrame (usesOutputCache : Bool) : FrameRequest :=
  ⟨.ofSize 64 64,
    [⟨.ofSize 8 8, .one, .sampled (usualBuffer ⟨1⟩) none⟩,
      ⟨.ofSize 8 8, .one, .sampled (usualBuffer ⟨2⟩) none⟩],
    usualBuffer ⟨9⟩, usesOutputCache, none⟩

private def uncachedActions : List Action := [.draw (mixedFrame false), .draw (mixedFrame false)]

private def cachedActions : List Action :=
  [.bind (usualBuffer ⟨3⟩), .draw (mixedFrame true), .submit (.cache (usualBuffer ⟨1⟩)),
    .submit (.unbind ⟨3⟩), .collect ⟨1⟩, .cleanup, .draw (mixedFrame true)]

/-- Without a cache each frame makes a target of its own. -/
theorem caching_unobservable_on_hit :
    let device := { Device.new ⟨true, true, true, 4096⟩ with rejecting := [⟨2⟩] }
    let start := Session.new device device.options.capabilities .byArrival
    let left := (start.step (.start .standard)).2
    let right := (start.step (.start { EngineOptions.standard with outputCacheSize := 1 })).2
    (left.run uncachedActions).2.device.issued = 3 ∧
      (right.run cachedActions).2.device.issued = 4 ∧
      List.Forall₂ (fun first second => first.outcome.uncached = second.outcome.uncached)
        (left.reports Action.isDraw uncachedActions)
        (right.reports Action.isDraw cachedActions) :=
  ⟨by decide, by decide,
    caching_unobservable ⟨true, true, true, 4096⟩ [⟨2⟩] _ .byArrival .byArrival .standard 1
      usualBuffer uncachedActions cachedActions (by decide) (by decide) (by decide) (by decide)
      (by decide)⟩

end Session

end Compositor
