import Compositor.Proofs.Exchange.Runs
import Compositor.Proofs.Exchange.States

/-!
# Runs as exchanges

Between two actions of a run the worker stands still, and all that it has done is done. So each
action is a few turns of an exchange, and collecting a result is a wait that follows what the worker
still has to do.
-/

set_option autoImplicit false

namespace Compositor

namespace Exchange

variable {start : Session} {exchange : Exchange}

theorem serves {engine : Engine} {ticket : Ticket} {request : ImageRequest}
    {rest : List (Ticket × ImageRequest)} (idle : exchange.worker = .idle)
    (first : exchange.channel = (ticket, request) :: rest)
    (occupied : exchange.session.engine? = some engine) :
    exchange.run [.work, .work, .work, .work] =
      { exchange.changeSlot ticket fun slot => (slot.send (request.apply engine).1).dropSender with
        session := exchange.session.setEngine (request.apply engine).2
        channel := rest
        performed := exchange.performed ++ [.requested ticket request (request.apply engine).1]
        replies := exchange.replies ++ [(ticket, (request.apply engine).1)] } := by
  obtain ⟨session, channel, isOpen, worker, slots, submitted, performed, replies⟩ := exchange
  cases idle
  cases first
  dsimp only at occupied
  simp [run, take, work, apply, changeSlot, occupied, List.modify_modify_eq]
  rfl

/-- A new slot has nothing in it, and neither has one that is not there. -/
theorem read_concat_new {α : Type} {project : ReplySlot → α} {default : α}
    (nothing : project .new = default) (slots : List ReplySlot) (number : Nat) :
    ((slots ++ [.new])[number]?.map project).getD default =
      (slots[number]?.map project).getD default := by
  rcases Nat.lt_trichotomy number slots.length with before | rfl | beyond
  · rw [List.getElem?_append_left before]
  · simp [nothing]
  · rw [List.getElem?_eq_none (by simp; omega), List.getElem?_eq_none (Nat.le_of_lt beyond)]

/-! ## Mirrors -/

variable {session : Session}

/-- The exchange is where a run is between two actions. -/
structure Mirrors (exchange : Exchange) (session : Session) : Prop where
  same : exchange.session = session.withoutRequests
  channel : exchange.channel = session.requests.waiting
  issued : exchange.slots.length = session.requests.issued
  occupied : session.engine?.isSome = true → exchange.worker = .idle ∧ exchange.isOpen = true
  vacant : session.engine?.isSome = false →
    exchange.worker = .stopped ∧ exchange.isOpen = false
  replies : ∀ ticket result, (ticket, result) ∈ session.requests.replies ↔
    (exchange.slots[ticket.number]?.map (·.content)).getD none = some result
  receivers : ∀ slot ∈ exchange.slots, slot.hasReceiver = true

/-- There are turns that lead to the session, and that answer so. -/
def Follows (exchange : Exchange) (session : Session)
    (answers : Ticket → List (Except EngineError Unit)) : Prop :=
  ∃ turns, (exchange.run turns).Mirrors session ∧
    ∀ ticket, (exchange.run turns).answersTo ticket = exchange.answersTo ticket ++ answers ticket

namespace Mirrors

theorem new (device : Device) (capabilities : Capabilities) (order : ReleaseOrder) :
    (Exchange.start (.new device capabilities order)).Mirrors
      (.new device capabilities order) where
  same := rfl
  channel := rfl
  issued := rfl
  occupied := nofun
  vacant := fun _ => ⟨rfl, rfl⟩
  replies := fun _ _ => ⟨nofun, nofun⟩
  receivers := nofun

theorem calm (mirrors : exchange.Mirrors session) :
    exchange.worker = .idle ∨ exchange.worker = .stopped := by
  cases found : session.engine?.isSome with
  | false => exact .inr (mirrors.vacant found).1
  | true => exact .inl (mirrors.occupied found).1

theorem engine? (mirrors : exchange.Mirrors session) :
    exchange.session.engine? = session.engine? := by
  rw [mirrors.same]
  rfl

theorem unreplied (mirrors : exchange.Mirrors session) :
    exchange.unreplied = session.requests.waiting.map Prod.fst := by
  obtain ⟨held, unsent⟩ := ImageWorker.clear mirrors.calm
  rw [Exchange.unreplied, outstanding, mirrors.channel, held, unsent]
  rfl

/-- What leaves the channel and the slots alone is followed by what leaves the requests alone. -/
theorem moved (mirrors : exchange.Mirrors session) {next : Exchange} {after : Session}
    (same : next.session = after.withoutRequests) (requests : after.requests = session.requests)
    (channel : next.channel = exchange.channel) (slots : next.slots = exchange.slots)
    (occupied : after.engine?.isSome = true → next.worker = .idle ∧ next.isOpen = true)
    (vacant : after.engine?.isSome = false → next.worker = .stopped ∧ next.isOpen = false) :
    next.Mirrors after := by
  refine ⟨same, ?_, ?_, occupied, vacant, ?_, ?_⟩
  · rw [channel, requests, mirrors.channel]
  · rw [slots, requests, mirrors.issued]
  · rw [slots, requests]
    exact mirrors.replies
  · rw [slots]
    exact mirrors.receivers

end Mirrors

theorem Follows.trans {middle final : Session}
    {early late : Ticket → List (Except EngineError Unit)}
    (consistent : exchange.Consistent start) (first : exchange.Follows middle early)
    (second : ∀ next : Exchange, next.Consistent start → next.Mirrors middle →
      next.Follows final late) :
    exchange.Follows final fun ticket => early ticket ++ late ticket := by
  obtain ⟨turns, mirrors, told⟩ := first
  obtain ⟨more, reached, further⟩ := second _ (consistent.run turns) mirrors
  refine ⟨turns ++ more, ?_, fun ticket => ?_⟩
  · rw [run_append]
    exact reached
  · rw [run_append, further, told, List.append_assoc]

/-! ## Actions -/

namespace Mirrors

theorem stay (mirrors : exchange.Mirrors session) : exchange.Follows session fun _ => [] :=
  ⟨[], mirrors, fun _ => (List.append_nil _).symm⟩

/-- A call finds the session that it finds in a run. -/
theorem stepped (mirrors : exchange.Mirrors session) {action : Action}
    (neutral : action.concernsRequests = false)
    (idle : action.replacesEngine = true → session.requests.waiting = []) :
    (exchange.session.step action).2 = (session.step action).2.withoutRequests := by
  rw [mirrors.same, (Session.step_withoutRequests neutral idle).1]

theorem call (mirrors : exchange.Mirrors session) {action : Action}
    (neutral : action.concernsRequests = false) (stays : action.replacesEngine = false) :
    exchange.Follows (session.step action).2 fun _ => [] := by
  have idle : action.replacesEngine = true → session.requests.waiting = [] :=
    fun replaces => absurd replaces (Bool.eq_false_iff.mp stays)
  obtain ⟨-, requests⟩ := session.step_withoutRequests neutral idle
  have engine := session.step_engine? stays
  have performed : exchange.run [.operate action] = exchange.perform action := by
    simp [run, take, operate, neutral, stays]
  refine ⟨[.operate action], ?_, fun ticket => ?_⟩
  · rw [performed]
    refine mirrors.moved (mirrors.stepped neutral idle) requests rfl rfl ?_ ?_
    · rw [engine]
      exact mirrors.occupied
    · rw [engine]
      exact mirrors.vacant
  · rw [performed, List.append_nil]
    rfl

theorem submit (mirrors : exchange.Mirrors session) {engine : Engine}
    (occupied : session.engine? = some engine) (request : ImageRequest) :
    exchange.Follows (session.step (.submit request)).2 fun _ => [] := by
  have present : session.engine?.isSome = true := by rw [occupied]; rfl
  obtain ⟨idle, isOpen⟩ := mirrors.occupied present
  have stepped : (session.step (.submit request)).2 =
      { session with requests := (session.requests.submit request).2 } := by
    simp [Session.step, Session.script, Session.operate, Session.request, occupied]
  have submitted : exchange.run [.submit request] =
      { exchange with
        channel := exchange.channel ++ [(⟨exchange.slots.length⟩, request)]
        slots := exchange.slots ++ [.new]
        submitted := exchange.submitted ++ [(⟨exchange.slots.length⟩, request)] } := by
    simp [run, take, Exchange.submit, isOpen]
  rw [stepped]
  refine ⟨[.submit request], ?_, fun ticket => ?_⟩
  · rw [submitted]
    refine ⟨mirrors.same, ?_, ?_, fun _ => ⟨idle, isOpen⟩, ?_, ?_, ?_⟩
    · change _ = session.requests.waiting ++ [(⟨session.requests.issued⟩, request)]
      rw [← mirrors.channel, ← mirrors.issued]
    · change (exchange.slots ++ [ReplySlot.new]).length = session.requests.issued + 1
      rw [List.length_append, mirrors.issued]
      rfl
    · intro vacant
      exact absurd present (Bool.eq_false_iff.mp vacant)
    · intro ticket result
      have same : ((exchange.slots ++ [.new])[ticket.number]?.map (·.content)).getD none =
          (exchange.slots[ticket.number]?.map (·.content)).getD none :=
        read_concat_new rfl exchange.slots ticket.number
      dsimp only
      rw [same]
      exact mirrors.replies ticket result
    · exact List.forall_mem_append.mpr ⟨mirrors.receivers, by simp [ReplySlot.new]⟩
  · rw [submitted, List.append_nil]
    exact read_concat_new rfl exchange.slots ticket.number

/-- A result that is sent is there for whoever waits for it, and every other one is where it was. -/
theorem replies_sent (mirrors : exchange.Mirrors session) {ticket : Ticket} {slot : ReplySlot}
    (found : exchange.slots[ticket.number]? = some slot) (awaited : slot.Awaited)
    (result : Except EngineError Unit) (other : Ticket) (told : Except EngineError Unit) :
    (other, told) ∈ session.requests.replies ++ [(ticket, result)] ↔
      ((exchange.changeSlot ticket
        fun slot => (slot.send result).dropSender).slots[other.number]?.map (·.content)).getD none =
          some told := by
  have before := mirrors.replies other told
  have receiver := mirrors.receivers slot (List.mem_of_getElem? found)
  by_cases own : other = ticket
  · subst own
    rw [found, Option.map_some, Option.getD_some, awaited.content] at before
    have absent : (other, told) ∉ session.requests.replies :=
      fun member => Option.some_ne_none told (before.mp member).symm
    have sent : ((slot.send result).dropSender).content = some result := by
      simp [ReplySlot.send, ReplySlot.dropSender, receiver]
    rw [changeSlot_own, found, Option.map_some, Option.map_some, Option.getD_some, sent,
      Option.some_inj, List.mem_append, List.mem_singleton, Prod.mk.injEq]
    exact ⟨fun member => (member.resolve_left absent).2.symm, fun same => .inr ⟨rfl, same.symm⟩⟩
  · rw [changeSlot_other exchange (Ne.symm own)]
    simpa [own] using before

theorem serve (consistent : exchange.Consistent start) (mirrors : exchange.Mirrors session)
    {engine : Engine} (occupied : session.engine? = some engine) :
    exchange.Follows (session.served 1 engine) fun _ => [] := by
  cases waiting : session.requests.waiting with
  | nil =>
      rw [Session.served_nothing occupied waiting]
      exact mirrors.stay
  | cons entry rest =>
      obtain ⟨ticket, request⟩ := entry
      obtain ⟨idle, isOpen⟩ := mirrors.occupied (by rw [occupied]; rfl)
      have ran := serves idle (mirrors.channel.trans waiting) (mirrors.engine?.trans occupied)
      have unreplied : ticket ∈ exchange.unreplied := by simp [mirrors.unreplied, waiting]
      have issued := consistent.issued_iff.mp (List.mem_append_right _ unreplied)
      have found := List.getElem?_eq_getElem issued
      have awaited := consistent.awaited ticket unreplied _ found
      refine ⟨List.replicate 4 .work, ?_, fun other => ?_⟩
      · change (exchange.run [.work, .work, .work, .work]).Mirrors _
        rw [ran, Session.served_first waiting]
        refine ⟨?_, rfl, ?_, fun _ => ⟨idle, isOpen⟩, fun vacant => ?_,
          mirrors.replies_sent found awaited _, ?_⟩
        · rw [mirrors.same]
          rfl
        · change (exchange.changeSlot ticket _).slots.length = _
          rw [changeSlot, List.length_modify, mirrors.issued]
        · exact absurd vacant Bool.false_ne_true.symm
        · refine changeSlot_all (fun slot receiver => ?_) exchange ticket mirrors.receivers
          rw [ReplySlot.send, receiver]
          rfl
      · obtain ⟨answers, -⟩ := (exchange.work_run 4).2 other
        rw [answers, List.append_nil]

theorem serveMany (consistent : exchange.Consistent start) (mirrors : exchange.Mirrors session)
    {engine : Engine} (occupied : session.engine? = some engine) (count : Nat) :
    exchange.Follows (session.served count engine) fun _ => [] := by
  induction count generalizing exchange session engine with
  | zero =>
      rw [show session.served 0 engine = session from Session.setEngine_self occupied]
      exact mirrors.stay
  | succ count ih =>
      exact (mirrors.serve consistent occupied).trans consistent
        fun next steady reached => ih steady reached rfl

theorem leave (mirrors : exchange.Mirrors session) (nothing : session.requests.waiting = [])
    (occupied : session.engine?.isSome = true) :
    exchange.Follows session.stop fun _ => [] := by
  obtain ⟨idle, -⟩ := mirrors.occupied occupied
  obtain ⟨-, requests⟩ := Session.stop_idle nothing
  have neutral : Action.stop.concernsRequests = false := rfl
  have stepped := mirrors.stepped neutral fun _ => nothing
  have ran : exchange.run [.hangUp, .work, .operate .stop] =
      ({ exchange with isOpen := false, worker := .stopped } : Exchange).perform .stop := by
    have gone : (exchange.session.step .stop).2.engine?.isSome = false := by
      change exchange.session.stop.engine?.isSome = false
      rw [Session.stop_engine?]
      rfl
    simp [run, take, work, operate, hire, perform, idle, mirrors.channel, nothing, gone,
      Action.concernsRequests, Action.replacesEngine]
  refine ⟨[.hangUp, .work, .operate .stop], ?_, fun ticket => ?_⟩
  · rw [ran]
    refine mirrors.moved stepped requests rfl rfl ?_ fun _ => ⟨rfl, rfl⟩
    rw [Session.stop_engine?]
    exact fun occupied => absurd occupied Bool.false_ne_true
  · rw [ran, List.append_nil]
    rfl

theorem enter (consistent : exchange.Consistent start) (mirrors : exchange.Mirrors session)
    (vacant : session.engine?.isSome = false) (options : EngineOptions) :
    exchange.Follows (session.step (.start options)).2 fun _ => [] := by
  obtain ⟨stopped, closed⟩ := mirrors.vacant vacant
  have nothing : session.requests.waiting = [] := by
    rw [← mirrors.channel]
    exact (consistent.closed stopped).1
  have neutral : (Action.start options).concernsRequests = false := rfl
  obtain ⟨-, requests⟩ := session.step_withoutRequests neutral fun _ => nothing
  have ran : exchange.run [.operate (.start options)] =
      (exchange.perform (.start options)).hire := by
    simp [run, take, operate, stopped, Action.concernsRequests, Action.replacesEngine]
  have after : (exchange.perform (.start options)).session =
      (session.step (.start options)).2.withoutRequests :=
    mirrors.stepped neutral fun _ => nothing
  refine ⟨[.operate (.start options)], ?_, fun ticket => ?_⟩
  · rw [ran, hire, after]
    split
    · rename_i occupied
      exact mirrors.moved rfl requests rfl rfl (fun _ => ⟨rfl, rfl⟩)
        fun vacant => absurd occupied (Bool.eq_false_iff.mp vacant)
    · rename_i vacant
      exact mirrors.moved after requests rfl rfl (fun occupied => absurd occupied vacant)
        fun _ => ⟨stopped, closed⟩
  · rw [ran, List.append_nil, hire]
    split <;> rfl

theorem stop (consistent : exchange.Consistent start) (mirrors : exchange.Mirrors session) :
    exchange.Follows session.stop fun _ => [] := by
  cases tenancy : session.engine? with
  | none =>
      rw [Session.stop_vacant tenancy]
      exact mirrors.stay
  | some engine =>
      obtain ⟨count, nothing, same⟩ := Session.stop_served_all tenancy
      rw [same]
      exact (mirrors.serveMany consistent tenancy count).trans consistent
        fun next _ reached => reached.leave nothing rfl

theorem restart (consistent : exchange.Consistent start) (mirrors : exchange.Mirrors session)
    (options : EngineOptions) :
    exchange.Follows (session.step (.start options)).2 fun _ => [] := by
  have vacant : session.stop.engine?.isSome = false := by
    rw [Session.stop_engine?]
    rfl
  have same : (session.step (.start options)).2 = (session.stop.step (.start options)).2 := by
    change (session.stop.start options).2 = (session.stop.stop.start options).2
    rw [Session.stop_vacant session.stop_engine?]
  rw [same]
  exact (mirrors.stop consistent).trans consistent
    fun next steady reached => reached.enter steady vacant options

/-- What is collected is what the slot has, unless it is gone. -/
theorem collected (mirrors : exchange.Mirrors session) (ticket : Ticket) :
    (session.requests.collect ticket).1 =
      ((exchange.slots[ticket.number]?.map (·.content)).getD none).getD ReplySlot.dropped := by
  have replied := mirrors.replies ticket
  cases content : (exchange.slots[ticket.number]?.map (·.content)).getD none with
  | none =>
      rw [content] at replied
      have absent : ∀ result, (ticket, result) ∉ session.requests.replies :=
        fun result member => Option.some_ne_none result ((replied result).mp member).symm
      rw [ImageRequests.collect_dropped absent]
      rfl
  | some result =>
      have member := (replied result).mpr content
      have same := (replied _).mp (ImageRequests.collect_mem member)
      exact (Option.some_inj.mp (content.symm.trans same)).symm

/-- A wait for a result that is there, or that was given before, is answered. -/
theorem wait (consistent : exchange.Consistent start) (mirrors : exchange.Mirrors session)
    {ticket : Ticket} (served : ticket ∉ session.requests.waiting.map Prod.fst) :
    exchange.Follows { session with requests := (session.requests.collect ticket).2 }
      fun other => if other = ticket ∧ ticket.number < session.requests.issued then
        [(session.requests.collect ticket).1] else [] := by
  refine ⟨[.wait ticket], ?_⟩
  change (exchange.changeSlot ticket .wait).Mirrors _ ∧
    ∀ other, (exchange.changeSlot ticket .wait).answersTo other = _
  cases found : exchange.slots[ticket.number]? with
  | none =>
      have beyond := List.getElem?_eq_none_iff.mp found
      have same : exchange.changeSlot ticket .wait = exchange := by
        rw [changeSlot, List.modify_eq_self beyond]
      have absent : ∀ result, (ticket, result) ∉ session.requests.replies := by
        intro result member
        simpa [found] using (mirrors.replies ticket result).mp member
      rw [same, ImageRequests.collect_dropped absent]
      refine ⟨mirrors, fun other => ?_⟩
      dsimp only
      rw [← mirrors.issued, if_neg fun asked => Nat.not_lt.mpr beyond asked.2, List.append_nil]
  | some slot =>
      obtain ⟨issued, -⟩ := List.getElem?_eq_some_iff.mp found
      have sender := consistent.sender_gone mirrors.calm (mirrors.unreplied ▸ served) found
      have receiver := mirrors.receivers slot (List.mem_of_getElem? found)
      have waited := ReplySlot.wait_eq sender receiver
      have told := mirrors.collected ticket
      rw [found, Option.map_some, Option.getD_some] at told
      obtain ⟨waiting, number⟩ := session.requests.collect_rest ticket
      refine ⟨⟨mirrors.same, mirrors.channel.trans waiting.symm, ?_, mirrors.occupied,
        mirrors.vacant, fun other result => ?_, ?_⟩, fun other => ?_⟩
      · rw [changeSlot, List.length_modify, mirrors.issued]
        exact number.symm
      · by_cases own : other = ticket
        · subst own
          rw [changeSlot_own, found]
          simp [ImageRequests.collect_replies, waited]
        · rw [changeSlot_other exchange (Ne.symm own)]
          simpa [ImageRequests.collect_replies, own] using mirrors.replies other result
      · refine changeSlot_all (fun slot receiver => ?_) exchange ticket mirrors.receivers
        rw [ReplySlot.wait]
        split <;> exact receiver
      · by_cases own : other = ticket
        · subst own
          dsimp only
          rw [if_pos ⟨rfl, mirrors.issued ▸ issued⟩, told]
          simp only [answersTo, changeSlot_own, found, Option.map_some, Option.getD_some, waited]
        · simp [answersTo, changeSlot_other exchange (Ne.symm own), own]

theorem collect (consistent : exchange.Consistent start) (mirrors : exchange.Mirrors session)
    {engine : Engine} (occupied : session.engine? = some engine) (ticket : Ticket) :
    exchange.Follows (session.step (.collect ticket)).2 (session.answer · (.collect ticket)) := by
  have distinct : (session.requests.waiting.map Prod.fst).Nodup := by
    rw [← mirrors.unreplied]
    exact (List.nodup_append.mp consistent.distinct).2.1
  obtain ⟨count, issued, absent, stepped⟩ := Session.step_collect occupied distinct ticket
  have answers : (session.answer · (.collect ticket)) = fun other =>
      [] ++ if other = ticket ∧ ticket.number < (session.served count engine).requests.issued then
        [((session.served count engine).requests.collect ticket).1] else [] := by
    funext other
    unfold Session.answer
    rw [stepped, issued]
    rfl
  rw [answers, stepped]
  exact (mirrors.serveMany consistent occupied count).trans consistent
    fun next steady reached => reached.wait steady absent

theorem step (consistent : exchange.Consistent start) (mirrors : exchange.Mirrors session)
    (action : Action) : exchange.Follows (session.step action).2 (session.answer · action) := by
  cases concerns : action.concernsRequests with
  | false =>
      cases action with
      | start options => exact mirrors.restart consistent options
      | stop => exact mirrors.stop consistent
      | submit | serve | collect => cases concerns
      | _ => exact mirrors.call rfl rfl
  | true =>
      cases occupied : session.engine? with
      | none =>
          have absent := Session.step_absent occupied concerns
          have silent : (session.answer · action) = fun _ => [] := by
            funext ticket
            unfold Session.answer
            rw [absent]
            cases action <;> rfl
          rw [absent, silent]
          exact mirrors.stay
      | some engine =>
          cases action with
          | submit request => exact mirrors.submit occupied request
          | serve =>
              have stepped : (session.step .serve).2 = session.served 1 engine := by
                simp only [Session.step, Session.script, occupied, Session.operate,
                  Session.request]
                rfl
              rw [stepped]
              exact mirrors.serve consistent occupied
          | collect ticket => exact mirrors.collect consistent occupied ticket
          | _ => cases concerns

/-- Every run is the course of an exchange, with the same answers. -/
theorem run (consistent : exchange.Consistent start) (mirrors : exchange.Mirrors session)
    (actions : List Action) :
    exchange.Follows (session.run actions).2 (session.answers · actions) := by
  induction actions generalizing exchange session with
  | nil => exact mirrors.stay
  | cons action rest ih =>
      rw [Session.run_cons]
      exact (mirrors.step consistent action).trans consistent
        fun next steady reached => ih steady reached

end Mirrors

end Exchange

end Compositor
