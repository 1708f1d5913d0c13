import HermesRealtime.Ledgers
import HermesRealtime.Relay
import HermesRealtime.StepCases

/-!
The outbound queues of the sessions: what `publish_task_event` and the hook that asks the page to
stop put in them is taken in the order in which it was put there.

The world is run with a ledger of every queue. A session that is active and whose coordinator has
not asked the page to stop has no stop message in its ledger, and one whose coordinator has done so
lets no message in: it is stopping.
-/

namespace HermesRealtime.OutboundOrder

open Values Protocol Phases Teardown Controller Operations SessionRuns Lifecycle Bookkeeping
  CriticalSections Changes Relay StepCases Ledgers Runs

variable {env : Env} {c c' : VoiceSessionController} {w w' : World} {ref queue : ℕ}

/-! ### The ledgers -/

/-- The world, and what its queues have let in and given out. -/
structure RecordedWorld where
  world : World
  accepted : ℕ → List LoopbackMessage := fun _ => []
  taken : ℕ → List LoopbackMessage := fun _ => []

/-- What a step puts in a queue. -/
def accepts (w : World) (queue : ℕ) : Action → List LoopbackMessage
  | .publish sessionId message =>
    match (publishTaskEvent sessionId message w.controller).2,
        w.controller.outboundMessages sessionId with
    | .ok true, some own => if own = queue then [.taskEvent message] else []
    | _, _ => []
  | .hook ref =>
    match taskOf w.controller ref with
    | some run =>
      if run.point = .calling .requestBrowserStop ∧ stopQueue w.controller ref = some queue then
        [.stop (w.controller.heap ref).sessionId run.request.reason]
      else []
    | none => []
  | _ => []

/-- What a step takes from a queue. -/
def takes (w : World) (queue : ℕ) : Action → List LoopbackMessage
  | .get own => if own = queue then (w.controller.queues queue).messages.head?.toList else []
  | _ => []

/-- A step that leads to `w` is put on record. -/
def RecordedWorld.record (v : RecordedWorld) (a : Action) (w : World) : RecordedWorld where
  world := w
  accepted queue := v.accepted queue ++ accepts v.world queue a
  taken queue := v.taken queue ++ takes v.world queue a

def recordedStep (v : RecordedWorld) (x : Env × Action) : Option RecordedWorld :=
  (step v.world x).map (v.record x.2)

/-- The ledger of a queue. -/
def ledger (v : RecordedWorld) (queue : ℕ) : Ledger LoopbackMessage where
  accepted := v.accepted queue
  taken := v.taken queue
  waiting := (v.world.controller.queues queue).messages

/-! ### Where the coordinator stands -/

/-- The page has been asked to stop, or will not be asked any more. -/
def Past : RunPoint → Prop
  | .created | .calling .markStopping | .suspended .markStopping
  | .calling .requestBrowserStop => False
  | _ => True

/-- The coordinator of a session is past the hook that asks the page to stop. -/
def StopPast (c : VoiceSessionController) (ref : ℕ) : Prop :=
  ∃ run, (c.heap ref).teardown.task = some run ∧ Past run.point

variable {run run' : TeardownRun}

lemma past_returned {hook : TeardownHook} (result : StepResult)
    (hpoint : run.point = .calling hook ∨ run.point = .suspended hook) (h : Past run.point) :
    Past (run.hookReturned hook result).point := by
  cases hook with
  | markStopping => rcases hpoint with hpoint | hpoint <;> simp [hpoint, Past] at h
  | requestBrowserStop =>
    simp only [TeardownRun.hookReturned]
    split <;> trivial
  | _ => trivial

lemma past_called {hook : TeardownHook} (result : Except PyError Bool)
    (hpoint : run.point = .calling hook) (h : Past run.point) :
    Past (hookCalled hook result run).point := by
  unfold hookCalled
  split
  · rw [hpoint] at h
    cases hook <;> trivial
  · exact past_returned _ (.inl hpoint) h
  · exact past_returned _ (.inl hpoint) h

/-- The hook that asks the page to stop is called once. -/
lemma past_asked (result : Except PyError Bool) :
    Past (hookCalled .requestBrowserStop result run).point := by
  unfold hookCalled
  split
  · trivial
  all_goals simp only [TeardownRun.hookReturned]; split <;> trivial

lemma past_moves {a : Action} (h : Moves w a ref run run') (hpast : Past run.point) :
    Past run'.point := by
  cases h with
  | entered ref run hpoint => exact absurd hpast (by simp [hpoint, Past])
  | ended ref result hook run hpoint => exact past_returned _ (.inr hpoint) hpast
  | acked | timedOut => trivial
  | cancelled n ref answers run hn =>
    unfold TeardownRun.cancel
    split <;> trivial
  | finished ref cancelled run hfinished hpoint =>
    cases cancelled <;> simp [TeardownRun.finish, hpoint, Past]

lemma StopPast.same (h : StopPast c ref)
    (hsame : (c'.heap ref).teardown.task = (c.heap ref).teardown.task) : StopPast c' ref := by
  obtain ⟨run, hrun, hpast⟩ := h
  exact ⟨run, hsame.trans hrun, hpast⟩

lemma StopPast.kept {active : Prop} (h : StopPast c ref)
    (hkept : TaskKept active (c.heap ref).teardown.task (c'.heap ref).teardown.task) :
    StopPast c' ref := by
  obtain ⟨run, hrun, hpast⟩ := h
  exact ⟨run, hkept.of_some hrun, hpast⟩

/-- A task that moves on stays past the hook. -/
lemma StopPast.move {f : TeardownRun → TeardownRun} {r : ℕ} (h : StopPast c r)
    (hf : ∀ run, (c.heap ref).teardown.task = some run → Past run.point → Past (f run).point) :
    StopPast (moveTask c ref f) r := by
  obtain ⟨run, hrun, hpast⟩ := h
  by_cases hr : r = ref
  · subst hr
    exact ⟨f run, moveTask_task hrun f, hf run hrun hpast⟩
  · exact ⟨run, by rw [moveTask_of_ne hr, hrun], hpast⟩

/-- A task that goes on when a hook has been called stays past the hook that asks the page. -/
lemma StopPast.hook {active : ℕ → Prop} {hook : TeardownHook} {result : Except PyError Bool}
    {r : ℕ} (h : StopPast c r) (htasks : ∀ r, TaskKept (active r) (c.heap r).teardown.task
      (c'.heap r).teardown.task) (hrun : (c.heap ref).teardown.task = some run)
    (hpoint : run.point = .calling hook) :
        StopPast (moveTask c' ref (hookCalled hook result)) r := by
  refine (h.kept (htasks r)).move fun run' hrun' hpast => past_called result ?_ hpast
  have hsame := ((htasks ref).of_some hrun).symm.trans hrun'
  rwa [← Option.some_inj.mp hsame]

/-! ### The closing of a session -/

/-- No queue changes and no task moves; the entry of a queue may be removed. -/
structure Closes (c c' : VoiceSessionController) : Prop where
  created : c'.created = c.created
  queues : c'.queues = c.queues
  tasks : ∀ ref, (c'.heap ref).teardown.task = (c.heap ref).teardown.task
  entries : ∀ s q, c'.outboundMessages s = some q → c.outboundMessages s = some q

lemma Closes.same (hcreated : c'.created = c.created) (hqueues : c'.queues = c.queues)
    (hheap : c'.heap = c.heap) (houtbound : c'.outboundMessages = c.outboundMessages) :
    Closes c c' :=
  ⟨hcreated, hqueues, fun ref => by rw [hheap], fun s q h => by rwa [← houtbound]⟩

instance : Std.Refl Closes := ⟨fun _ => .same rfl rfl rfl rfl⟩

instance : IsTrans VoiceSessionController Closes where
  trans _ _ _ h h' := ⟨h'.created.trans h.created, h'.queues.trans h.queues,
    fun ref => (h'.tasks ref).trans (h.tasks ref), fun s q hq => h.entries s q (h'.entries s q hq)⟩

lemma modifySession_closes (ref : ℕ) (f : WakeSession → WakeSession)
    (hf : ∀ s, (f s).teardown.task = s.teardown.task := by exact fun _ => rfl) :
    Op.Keeps Closes (modifySession ref f) := by
  refine .modify fun c => ⟨rfl, rfl, fun r => ?_, fun _ _ h => h⟩
  by_cases hr : r = ref
  · subst hr
    rw [setSession_heap, hf]
  · rw [setSession_heap_of_ne _ _ hr]

lemma resolveTerminalResult_closes (outcome : SessionOutcome) (error : Option String) :
    Op.Keeps Closes (resolveTerminalResult ref outcome error) := by
  refine .get_bind fun c => Op.Keeps.ite (.pure _)
    ((modifySession_closes ref _).bind fun _ => ?_) c
  exact .modify fun _ => .same rfl rfl rfl rfl

/-- The finalization leaves the queues alone, and forgets which one is the session's. -/
lemma finalize_closes (env : Env) (ref : ℕ) (request : TeardownRequest) :
    Op.Keeps Closes (finalize env ref request) := by
  have htransition (phase : SessionPhase) : Op.Keeps Closes (transition ref phase) :=
    .get_bind fun c => (Op.Keeps.ofExcept _).bind (fun _ => modifySession_closes ref _) c
  have hnotify : Op.Keeps Closes (notifyStatus env) := fun c => by
    rw [notifyStatus_apply]
    exact .same rfl rfl rfl rfl
  have hforget (c : VoiceSessionController) (s : String) : Closes c { c with
      lastClosedSessionId := some s
      outboundMessages := Function.update c.outboundMessages s none } := by
    refine ⟨rfl, rfl, fun _ => rfl, fun t q h => ?_⟩
    by_cases ht : t = s
    · simp [ht] at h
    · simpa [ht] using h
  refine .get_bind fun c => Op.Keeps.ite (.pure _) ((htransition _).bind fun _ => ?_) c
  refine Op.Keeps.bind (.modify fun _ => .same rfl rfl rfl rfl) fun _ => hnotify.bind fun _ => ?_
  exact Op.Keeps.bind (.modify fun c => hforget c _) fun _ =>
    (modifySession_closes ref _).bind fun _ => resolveTerminalResult_closes _ _

/-! ### The invariant -/

/-- The ledgers are in order, each session that goes by an entry has its own, and a stop message
is in a ledger when the coordinator is past the hook that puts it there. -/
structure Accounted (v : RecordedWorld) : Prop where
  sound : Sound v.world
  entries : ∀ s q, v.world.controller.outboundMessages s = some q →
    q < v.world.controller.created ∧ (v.world.controller.heap q).sessionId = s
  unborn : ∀ queue ≥ v.world.controller.created, ledger v queue = {}
  orderly : ∀ queue, Orderly 64 (isStop · = true) (ledger v queue)
  asked : ∀ queue, ∀ m ∈ v.accepted queue, isStop m = true → StopPast v.world.controller queue

variable {v : RecordedWorld}

lemma accounted_start (g : Config) : Accounted { world := start g } := by
  refine ⟨sound_start g, ?_, fun _ _ => rfl, fun _ => .going ?_ rfl, ?_⟩ <;> simp [start, ledger]

/-- The entry of the active session leads to its own queue. -/
lemma Accounted.own (hv : Accounted v) {sessionId : String} {r : ℕ}
    (hqueue : v.world.controller.outboundMessages sessionId = some queue)
    (hr : r < v.world.controller.created)
    (hid : (v.world.controller.heap r).sessionId = sessionId) : queue = r := by
  obtain ⟨hq, hqid⟩ := hv.entries sessionId queue hqueue
  exact hv.sound.good.ids queue hq r hr (hqid.trans hid.symm)

/-- What a ledger is after a step: what it was, or one that is in order too. -/
def LedgerStep (v v' : RecordedWorld) (queue : ℕ) : Prop :=
  ledger v' queue = ledger v queue ∨ queue < v.world.controller.created ∧
    Orderly 64 (isStop · = true) (ledger v' queue) ∧
    ∀ m ∈ v'.accepted queue, isStop m = true → StopPast v'.world.controller queue

lemma LedgerStep.same {a : Action} (haccepts : accepts v.world queue a = [])
    (htakes : takes v.world queue a = [])
    (hqueue : w.controller.queues queue = v.world.controller.queues queue) :
    LedgerStep v (v.record a w) queue := by
  refine .inl ?_
  simp [ledger, RecordedWorld.record, haccepts, htakes, hqueue]

/-- A step that makes no session. -/
lemma Accounted.next {v' : RecordedWorld} (hv : Accounted v) (hsound : Sound v'.world)
    (hkept : Persists v.world.controller v'.world.controller)
    (hcreated : v'.world.controller.created = v.world.controller.created)
    (hentries : ∀ s q, v'.world.controller.outboundMessages s = some q →
      v.world.controller.outboundMessages s = some q)
    (hpast : ∀ ref, StopPast v.world.controller ref → StopPast v'.world.controller ref)
    (hledger : ∀ queue, LedgerStep v v' queue) : Accounted v' := by
  refine ⟨hsound, fun s q hq => ?_, fun queue hqueue => ?_, fun queue => ?_,
    fun queue m hm hstop => ?_⟩
  · obtain ⟨hlt, hid⟩ := hv.entries s q (hentries s q hq)
    exact ⟨hcreated ▸ hlt, (hkept.id q hlt).trans hid⟩
  · rw [hcreated] at hqueue
    rcases hledger queue with h | ⟨h, -⟩
    · exact h.trans (hv.unborn queue hqueue)
    · exact absurd hqueue h.not_ge
  · rcases hledger queue with h | ⟨-, h, -⟩
    · exact h ▸ hv.orderly queue
    · exact h
  · rcases hledger queue with h | ⟨-, -, h⟩
    · have haccepted : v'.accepted queue = v.accepted queue := congrArg Ledger.accepted h
      exact hpast queue (hv.asked queue m (haccepted ▸ hm) hstop)
    · exact h m hm hstop

/-- A step that is no coordinator's own and changes no queue puts nothing in any and takes nothing
out. -/
lemma silent_of_same {a : Action} (hs : step w (env, a) = some w') (hother : ∀ ref, ¬ Own ref a)
    (hsame : w'.controller.queues = w.controller.queues) (queue : ℕ) :
    accepts w queue a = [] ∧ takes w queue a = [] := by
  cases a with
  | hook ref => exact absurd .hook (hother ref)
  | publish sessionId message =>
    obtain rfl := Option.some_inj.mp hs
    refine ⟨?_, rfl⟩
    rcases publish_cases w.controller sessionId message with h | ⟨own, hroom, -, -, -, h⟩
    · simp [accepts, h]
    · have hput := congrArg (fun q => (q own).messages.length) hsame
      simp [World.withController, h, setQueue, OutboundQueue.put] at hput
  | get own =>
    obtain rfl := Option.some_inj.mp hs
    refine ⟨rfl, ?_⟩
    have htail := congrArg (fun q => (q own).messages.length) hsame
    rcases hw : (w.controller.queues own).messages with _ | ⟨m, rest⟩
    · simp only [takes]
      split_ifs with hown
      · rw [← hown, hw]
        rfl
      · rfl
    · simp [World.withController, getOutbound, OutboundQueue.get, hw] at htail
  | _ => exact ⟨rfl, rfl⟩

lemma sessionIsActive_iff {sessionId : String} : c.sessionIsActive sessionId = true ↔
    ∃ own, c.activeSession = some own ∧ (c.heap own).sessionId = sessionId ∧
      ((c.heap own).state.phase = .launching ∨ (c.heap own).state.phase = .connecting ∨
        (c.heap own).state.phase = .live) := by
  unfold VoiceSessionController.sessionIsActive
  rcases c.activeSession with _ | own
  · simp
  · simp [or_assoc]

/-- A session that lets messages in has not been asked to stop. -/
lemma Accounted.going (hv : Accounted v) {sessionId : String}
    (hactive : v.world.controller.sessionIsActive sessionId = true)
    (hqueue : v.world.controller.outboundMessages sessionId = some queue) :
    ∀ m ∈ v.accepted queue, ¬ isStop m = true := by
  intro m hm hstop
  obtain ⟨run, hrun, -⟩ := hv.asked queue m hm hstop
  obtain ⟨own, hown, hid, hphase⟩ := sessionIsActive_iff.mp hactive
  have hg := hv.sound.good
  obtain rfl := hv.own hqueue (hg.active own hown).1 hid
  simp [hg.stopping hown (by simp [hrun])] at hphase

/-- **A message is put in line** behind those that wait for a session that is not stopping. -/
lemma Accounted.published (hv : Accounted v) {sessionId : String} {message : TaskEventMessage}
    (hroom : (v.world.controller.queues queue).messages.length < 64)
    (hactive : v.world.controller.sessionIsActive sessionId = true)
    (hqueue : v.world.controller.outboundMessages sessionId = some queue)
    (h : publishTaskEvent sessionId message v.world.controller = (w.controller, .ok true))
    (hput : w.controller = setQueue v.world.controller queue
      ((v.world.controller.queues queue).put (.taskEvent message) hroom)) (q : ℕ) :
    LedgerStep v (v.record (.publish sessionId message) w) q := by
  by_cases hq : q = queue
  · subst hq
    have haccepts : accepts v.world q (.publish sessionId message) = [.taskEvent message] := by
      simp [accepts, h, hqueue]
    have hgoing := hv.going hactive hqueue
    refine .inr ⟨(hv.entries sessionId q hqueue).1, ?_, fun m hm hstop => ?_⟩
    · refine (hv.orderly q).put hgoing (x := .taskEvent message) (by simp [isStop]) ?_ ?_ ?_
      · simp [ledger, RecordedWorld.record, haccepts]
      · simp [ledger, RecordedWorld.record, takes]
      · simp [ledger, RecordedWorld.record, hput, setQueue, OutboundQueue.put]
    · simp only [RecordedWorld.record, haccepts, List.mem_append, List.mem_singleton] at hm
      rcases hm with hm | rfl
      · exact absurd hstop (hgoing m hm)
      · simp [isStop] at hstop
  · refine .same ?_ rfl ?_
    · simp [accepts, h, hqueue, Ne.symm hq]
    · rw [hput]
      exact Function.update_of_ne hq _ _

/-- The oldest message is taken from a queue. -/
lemma Accounted.got (hv : Accounted v)
    (h : w.controller = setQueue v.world.controller queue (v.world.controller.queues queue).get)
    (hkept : ∀ ref, StopPast v.world.controller ref → StopPast w.controller ref) (q : ℕ) :
    LedgerStep v (v.record (.get queue) w) q := by
  by_cases hq : q = queue
  · subst hq
    by_cases hborn : q < v.world.controller.created
    · refine .inr ⟨hborn, (hv.orderly q).take ?_ ?_ ?_, fun m hm hstop => ?_⟩
      · simp [ledger, RecordedWorld.record, accepts]
      · simp [ledger, RecordedWorld.record, takes]
      · simp [ledger, RecordedWorld.record, h, setQueue, OutboundQueue.get]
      · exact hkept q (hv.asked q m (by simpa [RecordedWorld.record, accepts] using hm) hstop)
    · have hempty : (v.world.controller.queues q).messages = [] :=
        congrArg Ledger.waiting (hv.unborn q (not_lt.mp hborn))
      refine .inl ?_
      simp [ledger, RecordedWorld.record, accepts, takes, h, setQueue, OutboundQueue.get, hempty]
  · refine .same rfl (by simp [takes, Ne.symm hq]) ?_
    rw [h]
    exact Function.update_of_ne hq _ _

/-- **The stop message is put in line**, in place of the oldest message if there is no room. -/
lemma Accounted.stopped (hv : Accounted v) {own : ℕ} {result : Except PyError Bool}
    (hrun : taskOf v.world.controller ref = some run)
    (hpoint : run.point = .calling .requestBrowserStop)
    (hasked : Asked v.world.controller c ref own queue run.request)
    (h : w.controller = moveTask c ref (hookCalled .requestBrowserStop result)) (q : ℕ) :
    LedgerStep v (v.record (.hook ref) w) q := by
  obtain ⟨href, htask⟩ := taskOf_some hrun
  have hqueues : w.controller.queues = Function.update v.world.controller.queues queue
      ((v.world.controller.queues queue).putStop
        (.stop (v.world.controller.heap ref).sessionId run.request.reason)) := by
    rw [h]
    exact hasked.rest.queues
  by_cases hq : q = queue
  · subst hq
    obtain rfl := hv.own hasked.outbound href rfl
    set z : LoopbackMessage :=
      .stop (v.world.controller.heap q).sessionId run.request.reason with hz
    have haccepts : accepts v.world q (.hook q) = [z] := by
      simp [accepts, hrun, hpoint, hasked.stopQueue, hz]
    have hgoing : ∀ m ∈ v.accepted q, ¬ isStop m = true := by
      intro m hm hstop
      obtain ⟨run', hrun', hpast⟩ := hv.asked q m hm hstop
      obtain rfl : run = run' := Option.some_inj.mp (htask.symm.trans hrun')
      simp [hpoint, Past] at hpast
    have hlast : isStop z = true := rfl
    have haccepted : (ledger (v.record (.hook q) w) q).accepted = (ledger v q).accepted ++ [z] := by
      simp [ledger, RecordedWorld.record, haccepts]
    have htaken : (ledger (v.record (.hook q) w) q).taken = (ledger v q).taken := by
      simp [ledger, RecordedWorld.record, takes]
    have hpast : StopPast w.controller q := by
      refine ⟨hookCalled .requestBrowserStop result run, ?_, past_asked result⟩
      rw [h]
      exact moveTask_task ((hasked.rest.tasks q).of_some htask) _
    refine .inr ⟨href, ?_, fun m _ _ => hpast⟩
    by_cases hroom : (v.world.controller.queues q).messages.length < 64
    · refine (hv.orderly q).putLast hgoing hlast haccepted htaken ?_
      simp [ledger, RecordedWorld.record, hqueues, OutboundQueue.putStop, hroom, OutboundQueue.put]
    · have hfull : (v.world.controller.queues q).messages.length = 64 :=
        le_antisymm (v.world.controller.queues q).bounded (not_lt.mp hroom)
      refine (hv.orderly q).displace hgoing hlast hfull (by omega) haccepted htaken ?_
      simp [ledger, RecordedWorld.record, hqueues, OutboundQueue.putStop, hroom, OutboundQueue.put,
        OutboundQueue.get]
  · refine .same ?_ rfl ?_
    · simp [accepts, hrun, hasked.stopQueue, Ne.symm hq]
    · rw [hqueues]
      exact Function.update_of_ne hq _ _

/-- A session is made with an empty queue, and no ledger changes. -/
lemma Accounted.activated (hv : Accounted v) {sessionId token : String} {now : ℚ}
    {launched : Option BrowserHandle} (hsound : Sound w)
    (hkept : Persists v.world.controller w.controller)
    (h : Activated v.world.controller w.controller sessionId) :
    Accounted (v.record (.activate sessionId token now launched) w) := by
  have hledger (queue : ℕ) : ledger (v.record (.activate sessionId token now launched) w) queue =
      ledger v queue := by
    have hqueue : (w.controller.queues queue).messages =
        (v.world.controller.queues queue).messages := by
      by_cases hnew : queue = v.world.controller.created
      · have hempty : (v.world.controller.queues queue).messages = [] :=
          congrArg Ledger.waiting (hv.unborn queue hnew.ge)
        rcases h.created with ⟨-, -, -, hsame, -⟩ | ⟨-, -, -, -, hsame | hmade, -⟩
        · rw [hsame]
        · rw [hsame]
        · rw [hmade, hnew, Function.update_self, ← hnew, hempty]
          rfl
      · rw [h.queues queue hnew]
    simp [ledger, RecordedWorld.record, accepts, takes, hqueue]
  have hcreated : v.world.controller.created ≤ w.controller.created := hkept.created
  refine ⟨hsound, fun s q hq => ?_, fun queue hqueue => ?_, fun queue => ?_,
    fun queue m hm hstop => ?_⟩
  · have hold (hq : v.world.controller.outboundMessages s = some q) :
        q < w.controller.created ∧ (w.controller.heap q).sessionId = s := by
      obtain ⟨hlt, hid⟩ := hv.entries s q hq
      exact ⟨hlt.trans_le hcreated, (hkept.id q hlt).trans hid⟩
    rcases h.created with ⟨-, -, -, -, hsame⟩ | ⟨hmade, -, -, hid, -, hentries⟩
    · exact hold (hsame ▸ hq)
    · rcases hentries s q hq with hq | ⟨rfl, rfl⟩
      · exact hold hq
      · exact ⟨by rw [RecordedWorld.record, hmade]; omega, hid⟩
  · exact (hledger queue).trans (hv.unborn queue (hcreated.trans hqueue))
  · exact hledger queue ▸ hv.orderly queue
  · have hm : m ∈ v.accepted queue := by simpa [RecordedWorld.record, accepts] using hm
    have hborn : queue ≠ v.world.controller.created := by
      rintro rfl
      have hnone : v.accepted v.world.controller.created = [] :=
        congrArg Ledger.accepted (hv.unborn _ le_rfl)
      simp [hnone] at hm
    obtain ⟨run, hrun, hpast⟩ := hv.asked queue m hm hstop
    exact ⟨run, (congrArg (·.teardown.task) (h.heap queue hborn)).trans hrun, hpast⟩

/-- **Every step keeps the ledgers in order.** -/
theorem accounted_step {v' : RecordedWorld} {x : Env × Action} (hv : Accounted v)
    (hs : recordedStep v x = some v') : Accounted v' := by
  obtain ⟨env, a⟩ := x
  obtain ⟨w, hw, rfl⟩ := Option.map_eq_some_iff.mp hs
  have hsound : Sound w := hv.sound.step hw
  have hkept := (change_keeps (step_change hv.sound.good hv.sound.waits hw) hv.sound.good).2
  cases step_case hw with
  | minor a hother h =>
    refine hv.next hsound hkept h.created (fun s q hq => h.outbound ▸ hq)
      (fun ref hp => hp.kept (h.tasks ref)) fun queue => ?_
    obtain ⟨haccepts, htakes⟩ := silent_of_same hw hother h.queues queue
    exact .same haccepts htakes (by rw [h.queues])
  | activated sessionId token now launched hfresh h => exact hv.activated hsound hkept h
  | consumed token now h =>
    refine hv.next hsound hkept (congrArg (·.created) h)
      (fun s q hq => congrArg (·.outboundMessages) h ▸ hq) (fun ref hp => ?_)
      fun queue => .same rfl rfl (by rw [h])
    exact hp.same (by rw [RecordedWorld.record, h])
  | published sessionId message queue hroom hmessage hactive hqueue h hput =>
    refine hv.next hsound hkept (congrArg (·.created) hput)
      (fun s q hq => congrArg (·.outboundMessages) hput ▸ hq) (fun ref hp => ?_)
      (hv.published hroom hactive hqueue h hput)
    exact hp.same (by rw [RecordedWorld.record, hput]; rfl)
  | got queue h =>
    have hpast (ref : ℕ) (hp : StopPast v.world.controller ref) : StopPast w.controller ref :=
      hp.same (by rw [h]; rfl)
    exact hv.next hsound hkept (congrArg (·.created) h)
      (fun s q hq => congrArg (·.outboundMessages) h ▸ hq) hpast (hv.got h hpast)
  | moved a ref run run' hrun hmoves h =>
    refine hv.next hsound hkept (congrArg (·.created) h)
      (fun s q hq => congrArg (·.outboundMessages) h ▸ hq) (fun r hp => ?_) fun queue => ?_
    · rw [RecordedWorld.record, h]
      refine hp.move fun run₁ hrun₁ hpast => past_moves hmoves ?_
      rwa [Option.some_inj.mp (hrun.symm.trans hrun₁)]
    · refine .same ?_ ?_ (by rw [h]; rfl) <;> cases hmoves <;> rfl
  | hooked ref hook run c₁ result hrun hpoint hsilent hleaves h =>
    refine hv.next hsound hkept ((congrArg (·.created) h).trans hleaves.created)
      (fun s q hq => ?_) (fun r hp => ?_) fun queue => .same ?_ rfl ?_
    · rw [RecordedWorld.record, h] at hq
      exact hleaves.outbound ▸ hq
    · rw [RecordedWorld.record, h]
      exact hp.hook hleaves.tasks (taskOf_some hrun).2 hpoint
    · simp only [accepts, hrun]
      rw [if_neg]
      rintro ⟨hstop, hqueue⟩
      have hhook : hook = .requestBrowserStop := by simpa [hpoint] using hstop
      rw [hsilent hhook] at hqueue
      cases hqueue
    · rw [h]
      exact congrFun hleaves.queues queue
  | asked ref run own queue c₁ result hrun hpoint hasked h =>
    refine hv.next hsound hkept ((congrArg (·.created) h).trans hasked.rest.created)
      (fun s q hq => ?_) (fun r hp => ?_) (hv.stopped hrun hpoint hasked h)
    · rw [RecordedWorld.record, h] at hq
      exact hasked.rest.outbound ▸ hq
    · rw [RecordedWorld.record, h]
      exact hp.hook hasked.rest.tasks (taskOf_some hrun).2 hpoint
  | finalized ref run hrun hcreated h =>
    have hcloses := finalize_closes env ref run.request v.world.controller
    refine hv.next hsound hkept ((congrArg (·.created) h).trans hcloses.created)
      (fun s q hq => ?_) (fun r hp => ?_) fun queue => .same rfl rfl ?_
    · rw [RecordedWorld.record, h] at hq
      exact hcloses.entries s q hq
    · rw [RecordedWorld.record, h]
      have hp₁ : StopPast (finalize env ref run.request v.world.controller).1 r :=
        hp.same (hcloses.tasks r)
      exact hp₁.move fun run₁ _ hpast => hpast
    · rw [h]
      exact congrFun hcloses.queues queue

/-! ### Runs -/

/-- What a ledger shows of the queue of a session. -/
structure OutboundLaws (v : RecordedWorld) (queue : ℕ) : Prop where
  /-- the messages are taken in the order in which they got in, and none twice -/
  inOrder : (v.taken queue).Sublist (v.accepted queue)
  bounded : (v.world.controller.queues queue).messages.length ≤ 64
  /-- a stop message is the last one that gets in, so there is one at most -/
  stopLast : ∀ before m after, v.accepted queue = before ++ m :: after → isStop m = true →
    after = [] ∧ ∀ x ∈ before, isStop x = false
  /-- what is lost is one message at most, the oldest of a full queue that the stop got in -/
  orderly : Orderly 64 (isStop · = true) (ledger v queue)

/-- **The outbound queues of the sessions are in order**, in every run of the controller: each
session has its own, and a publication that is refused adds nothing. -/
theorem outbound_order {g : Config} {as : List (Env × Action)} {v : RecordedWorld}
    (h : Run recordedStep (fun _ _ => True) { world := start g } as v) :
    (∀ s q, v.world.controller.outboundMessages s = some q →
      (v.world.controller.heap q).sessionId = s) ∧
    (∀ queue, OutboundLaws v queue) ∧
    ∀ env sessionId message,
      (publishTaskEvent sessionId message v.world.controller).2 = .ok false →
        recordedStep v (env, .publish sessionId message) = some v := by
  have hv : Accounted v := h.invariant (accounted_start g) fun _ _ _ ht _ hs => accounted_step ht hs
  refine ⟨fun s q hq => (hv.entries s q hq).2, fun queue => ?_,
    fun env sessionId message href => ?_⟩
  · have horderly := hv.orderly queue
    refine ⟨(List.sublist_append_left _ _).trans horderly.sublist,
      (v.world.controller.queues queue).bounded, fun before m after hsplit hm => ?_, horderly⟩
    obtain ⟨hafter, hbefore⟩ := horderly.accepted_last hsplit hm
    exact ⟨hafter, fun x hx => by simpa using hbefore x hx⟩
  · rcases publish_cases v.world.controller sessionId message with h | ⟨_, _, -, -, -, h⟩
    · simp [recordedStep, step, h, RecordedWorld.record, accepts, takes, World.withController]
    · simp [h] at href

def doneEvent : TaskEventMessage :=
  ⟨"voice-one-01", 1, "task-1", .completed, "Done", none, false, none⟩

/-- A task event is published, the session is asked to stop, and its queue is emptied. -/
def askedRun : List (Env × Action) :=
  [(stillEnv, .activate "voice-one-01" "token" 0 (some ⟨1⟩)),
   (stillEnv, .publish "voice-one-01" doneEvent),
   (stillEnv, .close 1 .cancelled none), (stillEnv, .closeRequest 1), (stillEnv, .enter 0),
   (stillEnv, .hook 0), (stillEnv, .hook 0), (stillEnv, .get 0), (stillEnv, .get 0)]

theorem outbound_taken : ∃ v : RecordedWorld, (v.taken 0).map isStop = [false, true] ∧
    (v.taken 0).Sublist (v.accepted 0) := by
  have hexec : (exec recordedStep (fun _ _ => true) { world := start {} } askedRun).map
      (fun v => (v.taken 0).map isStop) = some [false, true] := by
    decide +kernel
  obtain ⟨v, hv, htaken⟩ := Option.map_eq_some_iff.mp hexec
  have h : Run recordedStep (fun _ _ => True) { world := start {} } askedRun v :=
    run_of_exec (fun _ _ _ => trivial) _ _ hv
  exact ⟨v, htaken, ((outbound_order h).2.1 0).inOrder⟩

end HermesRealtime.OutboundOrder
