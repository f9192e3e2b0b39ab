import Compositor.Proofs.Account.Planning

/-!
# What recording draws

A context refuses a draw whose source is not one of its live images, and nothing else about it. No
image comes or goes while draws are recorded, so what is refused can be told from the images that
there are when recording starts.
-/

set_option autoImplicit false

namespace Compositor

variable {mode : Mode} {target : ImageHandle}

namespace Device

/-- Whether a context refuses to draw a source. -/
def refuses (device : Device) (mode : Mode) (source : Option ImageHandle) : Bool :=
  (source.bind (device.misuse? mode .draw)).isSome

theorem refuses_congr {device later : Device} {source : Option ImageHandle}
    (same : ∀ handle ∈ source, later.findLive? handle = device.findLive? handle) :
    later.refuses mode source = device.refuses mode source := by
  cases source with
  | none => rfl
  | some handle => simp only [refuses, Option.bind_some, misuse?, same handle rfl]

theorem refuses_of_live {device later : Device} (live : later.live = device.live)
    (source : Option ImageHandle) : later.refuses mode source = device.refuses mode source :=
  refuses_congr fun handle _ => by rw [findLive?, live, findLive?]

theorem log_drawn (device : Device) (record : DrawRecord) :
    (device.log (.drawn record)).draws = device.draws ++ [record] := by
  simp [Device.draws, history, eventsSince, log, DeviceEvent.draw?]

/-- How a context answers a draw: it may be lost, it may refuse the source, or it draws. -/
inductive DrawAnswered (device : Device) (mode : Mode) (target : ImageHandle)
    (source : Option ImageHandle) : Except EngineError Unit × Device → Prop where
  | lost {after : Device} : DrawAnswered device mode target source (.error .contextLost, after)
  | refused {after : Device} : device.refuses mode source = true →
      after.live = device.live → after.draws = device.draws →
      DrawAnswered device mode target source (.error (.validation .sourceNotLive), after)
  | drawn {after : Device} : device.refuses mode source = false →
      after.live = device.live → after.draws = device.draws ++ [⟨mode, target, source⟩] →
      DrawAnswered device mode target source (.ok (), after)

theorem drawLayer_answered (device : Device) (mode : Mode) (target : ImageHandle)
    (source : Option ImageHandle) (layer : Layer) :
    DrawAnswered device mode target source (device.drawLayer mode target source layer) := by
  have live := (arrive_steps device .drawLayer).extends.live
  have draws := (Plain.arrive device .drawLayer).draws
  have same : (device.arrive .drawLayer).refuses mode source = device.refuses mode source :=
    refuses_of_live live source
  have handed : ((device.arrive .drawLayer).log
      (.handed mode .draw (target :: source.toList))).draws = device.draws :=
    (Plain.draws (.log _ rfl)).trans draws
  have answers := acceptDraw_answered (device.arrive .drawLayer) mode target source
  unfold drawLayer
  generalize (device.arrive .drawLayer).acceptDraw mode target source = answered at answers ⊢
  unfold refuses at same
  cases answers with
  | lost => exact .lost
  | misused _ wrong =>
      refine .refused ?_ live ?_
      · rw [refuses, ← same, wrong]
        rfl
      · exact (Plain.draws (.log _ rfl)).trans handed
  | done _ right =>
      refine .drawn ?_ live ?_
      · rw [refuses, ← same, right]
        rfl
      · rw [log_drawn, handed]

end Device

namespace Recording

/-- A recording of draws that started on a device. -/
structure Accounts (start : Device) (mode : Mode) (target : ImageHandle)
    (seen : List PlannedDraw) (recording : Recording) : Prop where
  live : recording.device.live = start.live
  rejected : recording.rejected =
    (seen.filter fun planned => start.refuses mode planned.source).map fun planned =>
      .of planned.index planned.layer (.drawRejected (.validation .sourceNotLive))
  drawn : recording.drawn =
    (seen.filter fun planned => !start.refuses mode planned.source).length
  draws : recording.device.draws = start.draws ++
    (seen.filter fun planned => !start.refuses mode planned.source).map fun planned =>
      ⟨mode, target, planned.source⟩

variable {start : Device} {seen : List PlannedDraw} {recording : Recording}

theorem add_accounts (accounts : recording.Accounts start mode target seen)
    {planned : PlannedDraw} {next : Recording}
    (added : recording.add mode target planned = .ok next) :
    next.Accounts start mode target (seen ++ [planned]) := by
  have same : recording.device.refuses mode planned.source = start.refuses mode planned.source :=
    Device.refuses_of_live accounts.live planned.source
  have answered := recording.device.drawLayer_answered mode target planned.source planned.layer
  unfold add at added
  generalize recording.device.drawLayer mode target planned.source planned.layer = answer
    at added answered
  cases answered with
  | lost => cases added
  | refused refuses live draws =>
      cases added
      rw [same] at refuses
      refine ⟨live.trans accounts.live, ?_, ?_, ?_⟩
      · rw [List.filter_append, List.map_append, ← accounts.rejected]
        simp [refuses, SkippedLayer.of]
      · rw [List.filter_append, List.length_append, ← accounts.drawn]
        simp [refuses]
      · rw [draws, accounts.draws]
        simp [refuses]
  | drawn accepts live draws =>
      cases added
      rw [same] at accepts
      refine ⟨live.trans accounts.live, ?_, ?_, ?_⟩
      · rw [List.filter_append, List.map_append, ← accounts.rejected]
        simp [accepts]
      · rw [List.filter_append, List.length_append, ← accounts.drawn]
        simp [accepts]
      · rw [draws, accounts.draws]
        simp [accepts]

theorem adds_account {draws : List PlannedDraw} (accounts : recording.Accounts start mode target seen)
    {last : Recording} (added : draws.foldlM (add mode target) recording = .ok last) :
    last.Accounts start mode target (seen ++ draws) := by
  induction draws generalizing recording seen with
  | nil =>
      cases added
      rw [List.append_nil]
      exact accounts
  | cons planned draws ih =>
      rw [List.foldlM_cons] at added
      cases outcome : recording.add mode target planned with
      | error failure =>
          rw [outcome] at added
          cases added
      | ok next =>
          rw [outcome] at added
          have whole := ih (add_accounts accounts outcome) added
          rw [List.append_assoc] at whole
          exact whole

/-- A finished recording, told draw by draw. -/
theorem ofDraws_accounts {display : Display} {draws : List PlannedDraw}
    (recorded : ofDraws start mode target display draws = .ok recording) :
    recording.Accounts start mode target draws := by
  have plain := Device.Plain.beginFrame start mode target display
  have live : (start.beginFrame mode target display).2.live = start.live :=
    (Device.acceptBegin_answered _ mode target).live_eq.trans
      (Device.arrive_steps start .beginFrame).extends.live
  unfold ofDraws at recorded
  cases outcome : start.beginFrame mode target display with
  | mk result after =>
      rw [outcome] at recorded plain live
      cases result with
      | error error => cases recorded
      | ok =>
          have begun : Accounts start mode target [] ⟨after, 0, []⟩ :=
            ⟨live, rfl, rfl, by rw [plain.draws]; simp⟩
          exact adds_account begun recorded

end Recording

end Compositor
