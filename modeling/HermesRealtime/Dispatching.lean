import HermesRealtime.Turns

/-!
The events of the voice page that reach its scheduler: those of the provider, which
`handleRealtimeEvent` dispatches, and those of the page itself. The provider does not create
responses of its own accord, so the scheduler is the only one that asks for them.
-/

namespace HermesRealtime.Dispatching

open Scheduler Turns Runs

/-! ### Events -/

/-- What `handleRealtimeEvent` reads of an event of the provider. -/
inductive RealtimeEvent
  | sessionUpdated
  | audioCommitted
  | speechStarted
  | speechStopped
  | responseCreated
  | outputAudioBufferStopped (responseId : Option String)
  /-- with the number of the function calls in its output -/
  | responseDone (status responseId : Option String) (functionCalls : ℕ)
  | error
  /-- an event that changes what the page shows, has a function executed, or is not handled -/
  | other
  deriving DecidableEq

inductive PageEvent
  | realtime (event : RealtimeEvent)
  | channelOpen
  | taskEvent (event : TaskEvent)
  /-- the function calls that a handler of `response.done` awaits have ended, or one has thrown -/
  | callsEnded (threw : Bool)
  /-- a function call has answered that the session ends -/
  | endSession
  /-- the timer behind the farewell -/
  | farewellTimeout
  | startConversation
  | stopConversation
  /-- the page is restored from the cache of the browser -/
  | pageShown
  deriving DecidableEq

/-- A call of the scheduler or what it has sent, or an error of the provider. -/
inductive Observed
  | scheduler (x : Happened)
  | providerError
  deriving DecidableEq

/-- The scheduler, what the page keeps of a farewell and of its teardown, the handlers of
`response.done` that await function calls, and what has happened, the latest first. -/
structure RealtimePage where
  scheduler : TaskTurnScheduler := {}
  disconnectAfterResponse : Bool := false
  farewellResponseId : Option String := none
  teardownCompleteSent : Bool := false
  continuations : ℕ := 0
  history : List Observed := []
  deriving DecidableEq

namespace RealtimePage

def call (channel : Channel) (c : SchedulerCall) (p : RealtimePage) : RealtimePage :=
  let (scheduler, sent) := schedule channel p.scheduler c
  { p with
    scheduler
    history := (sent.map fun r => Observed.scheduler (.sent r)).toList ++
      .scheduler (.called c) :: p.history }

/-- `startConversation`, as far as it concerns the scheduler. -/
def startConversation (channel : Channel) (p : RealtimePage) : RealtimePage :=
  { p.call channel .reset with teardownCompleteSent := false }

/-- `stopConversation`, as far as it concerns the scheduler. -/
def stopConversation (channel : Channel) (p : RealtimePage) : RealtimePage :=
  if p.teardownCompleteSent then p
  else { p.call channel .reset with
    disconnectAfterResponse := false
    farewellResponseId := none
    teardownCompleteSent := true }

/-- The end of a session that the model has asked for. -/
def disconnect (channel : Channel) (p : RealtimePage) : RealtimePage :=
  ({ p with disconnectAfterResponse := false, farewellResponseId := none }
    : RealtimePage).stopConversation channel

/-- `handleRealtimeEvent`, up to where it awaits. -/
def handleRealtimeEvent (channel : Channel) (event : RealtimeEvent) (p : RealtimePage) :
    RealtimePage :=
  match event with
  | .sessionUpdated => p.call channel .channelReady
  | .audioCommitted => p.call channel .audioCommitted
  | .speechStarted => p.call channel .speechStarted
  | .speechStopped => p.call channel .speechStopped
  | .responseCreated => p.call channel .responseCreated
  | .outputAudioBufferStopped responseId =>
    if p.disconnectAfterResponse ∧
        (p.farewellResponseId = none ∨ responseId = p.farewellResponseId) then
      p.disconnect channel
    else p
  | .responseDone status responseId functionCalls =>
    let p := p.call channel
      (.responseDone ((status.filter (· ≠ "")).getD "failed") (0 < functionCalls))
    if 0 < functionCalls then { p with continuations := p.continuations + 1 }
    else if p.disconnectAfterResponse then
      if status = some "completed" then { p with farewellResponseId := responseId }
      else p.disconnect channel
    else p
  -- the error is reported and shown, and nothing else is done about it
  | .error => { p with history := .providerError :: p.history }
  | .other => p

end RealtimePage

/-- One event; a handler of `response.done` can only resume if one waits. -/
def pageStep (p : RealtimePage) (a : Channel × PageEvent) : Option RealtimePage :=
  match a.2 with
  | .realtime event => some (p.handleRealtimeEvent a.1 event)
  | .channelOpen => some (p.call a.1 .channelReady)
  | .taskEvent event => some (p.call a.1 (.taskEvent event))
  | .callsEnded threw =>
    if p.continuations = 0 then none
    else
      let p := { p with continuations := p.continuations - 1 }
      some (if threw then p else p.call a.1 .requestResponse)
  | .endSession => some { p with disconnectAfterResponse := true }
  | .farewellTimeout =>
    some (if p.disconnectAfterResponse then p.disconnect a.1 else p)
  | .startConversation => some (p.startConversation a.1)
  | .stopConversation => some (p.stopConversation a.1)
  | .pageShown => some { p with teardownCompleteSent := false }

/-! ### The invariant rule -/

variable {p p' : RealtimePage} {channel : Channel} {s : TaskTurnScheduler} {h : List Observed}

/-- A call changes the flags only, or a response could not be asked for, or one has been. -/
lemma schedule_cases (channel : Channel) (s : TaskTurnScheduler) (c : SchedulerCall) :
    schedule channel s c = (prepared s c, none) ∨
      (prepared s c).mayCreate channel = true ∧
        (schedule channel s c = (restored (prepared s c), none) ∨
          schedule channel s c = (created (prepared s c),
              some ⟨(prepared s c).pendingEvents⟩)) := by
  rw [schedule_eq, maybeCreateResponse_eq]
  cases tries c with
  | false => exact .inl rfl
  | true =>
    cases hmay : (prepared s c).mayCreate channel with
    | false => exact .inl rfl
    | true =>
      refine .inr ⟨rfl, ?_⟩
      cases channel.throws with
      | false => exact .inr rfl
      | true => exact .inl rfl

/-- What a call of the scheduler and an error of the provider keep. -/
structure Kept (I : TaskTurnScheduler → List Observed → Prop) : Prop where
  prepared : ∀ s h c, I s h → I (prepared s c) (.scheduler (.called c) :: h)
  restored : ∀ s h channel, s.mayCreate channel = true → I s h → I (restored s) h
  created : ∀ s h channel, s.mayCreate channel = true → I s h →
    I (created s) (.scheduler (.sent ⟨s.pendingEvents⟩) :: h)
  error : ∀ s h, I s h → I s (.providerError :: h)

variable {I : TaskTurnScheduler → List Observed → Prop}

lemma Kept.call (hk : Kept I) (channel : Channel) (c : SchedulerCall)
    (hi : I p.scheduler p.history) :
    I (p.call channel c).scheduler (p.call channel c).history := by
  have hprepared := hk.prepared _ _ c hi
  unfold RealtimePage.call
  rcases schedule_cases channel p.scheduler c with heq | ⟨hmay, heq | heq⟩
  · rw [heq]
    exact hprepared
  · rw [heq]
    exact hk.restored _ _ channel hmay hprepared
  · rw [heq]
    exact hk.created _ _ channel hmay hprepared

lemma Kept.stopConversation (hk : Kept I) (hi : I p.scheduler p.history) :
    I (p.stopConversation channel).scheduler (p.stopConversation channel).history := by
  unfold RealtimePage.stopConversation
  split_ifs
  · exact hi
  · exact hk.call channel .reset hi

lemma Kept.disconnect (hk : Kept I) (hi : I p.scheduler p.history) :
    I (p.disconnect channel).scheduler (p.disconnect channel).history := by
  unfold RealtimePage.disconnect
  exact hk.stopConversation hi

lemma Kept.handle (hk : Kept I) (event : RealtimeEvent) (hi : I p.scheduler p.history) :
    I (p.handleRealtimeEvent channel event).scheduler
      (p.handleRealtimeEvent channel event).history := by
  unfold RealtimePage.handleRealtimeEvent
  cases event with
  | sessionUpdated => exact hk.call channel .channelReady hi
  | audioCommitted => exact hk.call channel .audioCommitted hi
  | speechStarted => exact hk.call channel .speechStarted hi
  | speechStopped => exact hk.call channel .speechStopped hi
  | responseCreated => exact hk.call channel .responseCreated hi
  | outputAudioBufferStopped responseId =>
    dsimp only
    split_ifs
    · exact hk.disconnect hi
    · exact hi
  | responseDone status responseId functionCalls =>
    dsimp only
    have hdone := hk.call channel (.responseDone
      ((status.filter (· ≠ "")).getD "failed") (0 < functionCalls)) hi
    split_ifs
    · exact hdone
    · exact hdone
    · exact hk.disconnect hdone
    · exact hdone
  | error => exact hk.error _ _ hi
  | other => exact hi

lemma Kept.step (hk : Kept I) {a : Channel × PageEvent} (hi : I p.scheduler p.history)
    (hs : pageStep p a = some p') : I p'.scheduler p'.history := by
  obtain ⟨channel, event⟩ := a
  cases event with
  | realtime event =>
    obtain rfl := Option.some.inj hs
    exact hk.handle event hi
  | channelOpen =>
    obtain rfl := Option.some.inj hs
    exact hk.call channel .channelReady hi
  | taskEvent event =>
    obtain rfl := Option.some.inj hs
    exact hk.call channel (.taskEvent event) hi
  | callsEnded threw =>
    simp only [pageStep] at hs
    split_ifs at hs
    · obtain rfl := Option.some.inj hs
      exact hi
    · obtain rfl := Option.some.inj hs
      exact hk.call channel .requestResponse hi
  | endSession =>
    obtain rfl := Option.some.inj hs
    exact hi
  | farewellTimeout =>
    obtain rfl := Option.some.inj hs
    dsimp only
    split_ifs
    · exact hk.disconnect hi
    · exact hi
  | startConversation =>
    obtain rfl := Option.some.inj hs
    exact hk.call channel .reset hi
  | stopConversation =>
    obtain rfl := Option.some.inj hs
    exact hk.stopConversation hi
  | pageShown =>
    obtain rfl := Option.some.inj hs
    exact hi

/-- **The invariant rule of the page**: what the calls of the scheduler and the errors of the
provider keep holds in every run. -/
theorem page_invariant {C : RealtimePage → Channel × PageEvent → Prop}
    {as : List (Channel × PageEvent)} (hk : Kept I) (hstart : I {} [])
    (hrun : Run pageStep C {} as p) : I p.scheduler p.history :=
  hrun.invariant (I := fun p => I p.scheduler p.history) hstart fun _ _ _ hi _ hs => hk.step hi hs

end HermesRealtime.Dispatching
