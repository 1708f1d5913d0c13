import HermesRealtime.SessionRuns

/-!
The control relay: one websocket connection of a page, that hands the page's messages to the
controller and the controller's messages to the page.

A relay is attached when its launch token has been consumed, and stays so until it returns: the
page disconnects, a message is rejected, a frame cannot be sent, or the session is over. Awaiting
`asyncio.wait` and sending a frame are the moves of a relay between which others take theirs.
-/

namespace HermesRealtime.Relay

open Values Protocol Teardown Controller SessionRuns

/-- The task of `wait_for_outbound_message`. -/
inductive OutboundTask
  | created
  | waiting (queue : ℕ)
  | done (result : Except PyError LoopbackMessage)

/-- Where `_relay_control_websocket` stands: in `asyncio.wait`, in `process_control_message`, whose
waiter is `n`, in the wait for the last outbound messages, before the last frame. -/
inductive RelayPoint
  | waiting
  | processing (n : ℕ)
  | draining (outcome : SessionOutcome)
  | closing (outcome : SessionOutcome)
  | returned
  deriving DecidableEq

/-- A relay, with the frames it has sent. -/
structure ControlRelay where
  sessionId : String
  outbound : OutboundTask := .created
  serverStopSent : Bool := false
  point : RelayPoint := .waiting
  sent : List LoopbackMessage := []

def isStop : LoopbackMessage → Bool
  | .stop _ _ => true
  | _ => false

namespace ControlRelay

def leave (r : ControlRelay) : ControlRelay := { r with point := .returned }

/-- The session is closed: what is left in the queue goes first, unless the stop message went. -/
def finish (r : ControlRelay) (outcome : SessionOutcome) : ControlRelay :=
  { r with point := if r.serverStopSent then .closing outcome else .draining outcome }

/-- A message of the page has been processed, or waits for the coordinator. -/
def processed (r : ControlRelay) (n : ℕ) : Except PyError ControlReply → ControlRelay
  | .ok .nothing => r
  | .ok (.closed outcome) => r.finish outcome
  | .ok (.awaits _ _) => { r with point := .processing n }
  | .error _ => r.leave

/-- The coordinator has reported, or its task was cancelled. -/
def answered (r : ControlRelay) (run : TeardownRun) : ControlRelay :=
  if run.point = .returned then r.finish run.request.outcome else r.leave

/-- The outbound task is done, in `asyncio.wait`. -/
def forward (r : ControlRelay) (result : Except PyError LoopbackMessage) (arrives : Bool) :
    ControlRelay :=
  match result with
  | .error _ => r.leave
  | .ok message =>
    if arrives then
      { r with
        sent := r.sent ++ [message]
        serverStopSent := r.serverStopSent || isStop message
        outbound := .created }
    else r.leave

/-- The outbound task is done, while the queue is drained. -/
def drain (r : ControlRelay) (outcome : SessionOutcome) (result : Except PyError LoopbackMessage)
    (arrives : Bool) : ControlRelay :=
  match result with
  | .error (.staleControlMessage _) => { r with point := .closing outcome }
  | .error _ => r.leave
  | .ok message =>
    if ¬ arrives then r.leave
    else if isStop message then
      { r with sent := r.sent ++ [message], serverStopSent := true, point := .closing outcome }
    else { r with sent := r.sent ++ [message], outbound := .created }

/-- The last frame. -/
def close (r : ControlRelay) (outcome : SessionOutcome) (arrives : Bool) : ControlRelay :=
  { r with
    sent := if arrives then r.sent ++ [.sessionClosed r.sessionId outcome] else r.sent
    point := .returned }

end ControlRelay

/-- The controller and its callers, and the relays by their connections. -/
structure RelayWorld where
  world : World
  relays : ℕ → Option ControlRelay := fun _ => none

/-- What can happen; `n` names a connection. Only a relay consumes tokens, brings messages of a
page and takes those to it. -/
inductive RelayAction
  | elsewhere (a : Action)
  | connect (n : ℕ) (token : String) (now : ℚ)
  | receive (n k : ℕ) (decoded : Except PyError LoopbackMessage)
  | disconnect (n : ℕ)
  | reply (n : ℕ)
  | await (n : ℕ)
  | get (n : ℕ)
  | forward (n : ℕ) (arrives : Bool)
  | drain (n : ℕ) (arrives : Bool)
  | drainTimeout (n : ℕ)
  | close (n : ℕ) (arrives : Bool)
  | cancel (n : ℕ)

/-- The actions of the controller that are a relay's. -/
def ofRelay (w : World) : Action → Bool
  | .control _ _ _ | .consume _ _ | .get _ => true
  | .deliver k | .cancel k =>
    match w.waiters k with
    | some (.awaiting _ _ (some _)) => true
    | _ => false
  | _ => false

namespace RelayWorld

def withWorld (v : RelayWorld) (w : World) : RelayWorld := { v with world := w }

def setRelay (v : RelayWorld) (n : ℕ) (r : ControlRelay) : RelayWorld :=
  { v with relays := Function.update v.relays n (some r) }

@[simp] lemma setRelay_relays (v : RelayWorld) (n : ℕ) (r : ControlRelay) :
    (v.setRelay n r).relays n = some r := by
  simp [setRelay]

end RelayWorld

/-- One step of the controller together with its relays. -/
def relayStep (v : RelayWorld) : Env × RelayAction → Option RelayWorld
  | (env, .elsewhere a) =>
    if ofRelay v.world a then none else (step v.world (env, a)).map v.withWorld
  | (env, .connect n token now) =>
    if (v.relays n).isSome then none
    else (step v.world (env, .consume token now)).map fun w =>
      match (consumeActivationToken token now v.world.controller).2 with
      | .ok (some sessionId) => (v.withWorld w).setRelay n { sessionId }
      | _ => v.withWorld w
  | (env, .receive n k decoded) =>
    match v.relays n with
    | some r =>
      if r.point = .waiting then
        (step v.world (env, .control k r.sessionId decoded)).map fun w =>
          (v.withWorld w).setRelay n
            (r.processed k (processControlMessage env r.sessionId decoded v.world.controller).2)
      else none
    | none => none
  | (_, .disconnect n) =>
    match v.relays n with
    | some r => if r.point = .waiting then some (v.setRelay n r.leave) else none
    | none => none
  | (env, .reply n) =>
    match v.relays n with
    | some r =>
      match r.point with
      | .processing k =>
        match v.world.waiters k with
        | some (.awaiting ref _ _) =>
          match taskOf v.world.controller ref with
          | some run =>
            (step v.world (env, .deliver k)).map fun w =>
              (v.withWorld w).setRelay n (r.answered run)
          | none => none
        | _ => none
      | _ => none
    | none => none
  | (_, .await n) =>
    match v.relays n with
    | some r =>
      if r.point = .returned then none
      else match r.outbound with
      | .created =>
        match (waitForOutboundMessage r.sessionId v.world.controller).2 with
        | .ok queue => some (v.setRelay n { r with outbound := .waiting queue })
        | .error e => some (v.setRelay n { r with outbound := .done (.error e) })
      | _ => none
    | none => none
  | (env, .get n) =>
    match v.relays n with
    | some r =>
      if r.point = .returned then none
      else match r.outbound with
      | .waiting queue =>
        match (getOutbound queue v.world.controller).2 with
        | .ok (some message) =>
          (step v.world (env, .get queue)).map fun w =>
            (v.withWorld w).setRelay n { r with outbound := .done (.ok message) }
        | _ => none
      | _ => none
    | none => none
  | (_, .forward n arrives) =>
    match v.relays n with
    | some r =>
      match r.point, r.outbound with
      | .waiting, .done result => some (v.setRelay n (r.forward result arrives))
      | _, _ => none
    | none => none
  | (_, .drain n arrives) =>
    match v.relays n with
    | some r =>
      match r.point, r.outbound with
      | .draining outcome, .done result => some (v.setRelay n (r.drain outcome result arrives))
      | _, _ => none
    | none => none
  | (_, .drainTimeout n) =>
    match v.relays n with
    | some r =>
      match r.point with
      | .draining outcome => some (v.setRelay n { r with point := .closing outcome })
      | _ => none
    | none => none
  | (_, .close n arrives) =>
    match v.relays n with
    | some r =>
      match r.point with
      | .closing outcome => some (v.setRelay n (r.close outcome arrives))
      | _ => none
    | none => none
  | (env, .cancel n) =>
    match v.relays n with
    | some r =>
      match r.point with
      | .processing k => (step v.world (env, .cancel k)).map fun w =>
          (v.withWorld w).setRelay n r.leave
      | _ => some (v.setRelay n r.leave)
    | none => none

/-- A new controller, with no connections. -/
def startRelays (g : Config) : RelayWorld := { world := start g }

/-! ### The moves of a relay -/

/-- What a relay becomes in a step that is its own, and the action of the controller, if the step
takes one. -/
inductive RelayMove (w : World) (env : Env) (n : ℕ) (r : ControlRelay) :
    RelayAction → Option Action → ControlRelay → Prop
  | received (k decoded) (hpoint : r.point = .waiting) :
      RelayMove w env n r (.receive n k decoded) (some (.control k r.sessionId decoded))
        (r.processed k (processControlMessage env r.sessionId decoded w.controller).2)
  | disconnected (hpoint : r.point = .waiting) : RelayMove w env n r (.disconnect n) none r.leave
  | replied (k ref shield answers run) (hpoint : r.point = .processing k)
      (hk : w.waiters k = some (.awaiting ref shield answers))
      (hrun : taskOf w.controller ref = some run) :
      RelayMove w env n r (.reply n) (some (.deliver k)) (r.answered run)
  | asked (queue) (hpoint : r.point ≠ .returned) (hcreated : r.outbound = .created)
      (hqueue : (waitForOutboundMessage r.sessionId w.controller).2 = .ok queue) :
      RelayMove w env n r (.await n) none { r with outbound := .waiting queue }
  | refused (e) (hpoint : r.point ≠ .returned) (hcreated : r.outbound = .created)
      (he : (waitForOutboundMessage r.sessionId w.controller).2 = .error e) :
      RelayMove w env n r (.await n) none { r with outbound := .done (.error e) }
  | got (queue message) (hpoint : r.point ≠ .returned) (hwaits : r.outbound = .waiting queue)
      (hmessage : (getOutbound queue w.controller).2 = .ok (some message)) :
      RelayMove w env n r (.get n) (some (.get queue)) { r with outbound := .done (.ok message) }
  | forwarded (result arrives) (hpoint : r.point = .waiting) (hdone : r.outbound = .done result) :
      RelayMove w env n r (.forward n arrives) none (r.forward result arrives)
  | drained (outcome result arrives) (hpoint : r.point = .draining outcome)
      (hdone : r.outbound = .done result) :
      RelayMove w env n r (.drain n arrives) none (r.drain outcome result arrives)
  | timedOut (outcome) (hpoint : r.point = .draining outcome) :
      RelayMove w env n r (.drainTimeout n) none { r with point := .closing outcome }
  | closed (outcome arrives) (hpoint : r.point = .closing outcome) :
      RelayMove w env n r (.close n arrives) none (r.close outcome arrives)
  | cancelled (k) (hpoint : r.point = .processing k) :
      RelayMove w env n r (.cancel n) (some (.cancel k)) r.leave
  | dropped (hpoint : ∀ k, r.point ≠ .processing k) : RelayMove w env n r (.cancel n) none r.leave

/-- A step of the controller, if there is an action. -/
def mayStep (w : World) (env : Env) : Option Action → Option World
  | none => some w
  | some a => step w (env, a)

/-- What a step can do: an action of the controller that is no relay's, the refusal of a token, a
new relay, the move of a relay. -/
inductive RelayChange (v : RelayWorld) (env : Env) : RelayAction → RelayWorld → Prop
  | elsewhere (a w) (hown : ofRelay v.world a = false) (hw : step v.world (env, a) = some w) :
      RelayChange v env (.elsewhere a) (v.withWorld w)
  | refused (n token now w) (hw : step v.world (env, .consume token now) = some w) :
      RelayChange v env (.connect n token now) (v.withWorld w)
  | attached (n token now sessionId w) (hfree : v.relays n = none)
      (hw : step v.world (env, .consume token now) = some w)
      (hconsumed : (consumeActivationToken token now v.world.controller).2 =
        .ok (some sessionId)) :
      RelayChange v env (.connect n token now) ((v.withWorld w).setRelay n { sessionId })
  | moved (n a action r r' w) (hn : v.relays n = some r)
      (hmove : RelayMove v.world env n r a action r')
      (hw : mayStep v.world env action = some w) :
      RelayChange v env a ((v.withWorld w).setRelay n r')

/-- **Every step is one of these.** -/
theorem relay_change {v v' : RelayWorld} {env : Env} {a : RelayAction}
    (h : relayStep v (env, a) = some v') : RelayChange v env a v' := by
  have hstay {n : ℕ} {r r' : ControlRelay} {a : RelayAction} (hn : v.relays n = some r)
      (hmove : RelayMove v.world env n r a none r') : RelayChange v env a (v.setRelay n r') :=
    .moved n a none r r' v.world hn hmove rfl
  cases a with
  | elsewhere a =>
    rw [relayStep, Option.ite_none_left_eq_some] at h
    obtain ⟨w, hw, rfl⟩ := Option.map_eq_some_iff.mp h.2
    exact .elsewhere a w (by simpa using h.1) hw
  | connect n token now =>
    rw [relayStep, Option.ite_none_left_eq_some] at h
    obtain ⟨w, hw, rfl⟩ := Option.map_eq_some_iff.mp h.2
    split
    · next sessionId hconsumed =>
      exact .attached n token now sessionId w (by simpa using h.1) hw hconsumed
    · exact .refused n token now w hw
  | receive n k decoded =>
    rcases hn : v.relays n with _ | r
    · simp [relayStep, hn] at h
    simp only [relayStep, hn, Option.ite_none_right_eq_some] at h
    obtain ⟨w, hw, rfl⟩ := Option.map_eq_some_iff.mp h.2
    exact .moved n _ _ r _ w hn (.received k decoded h.1) hw
  | disconnect n =>
    rcases hn : v.relays n with _ | r
    · simp [relayStep, hn] at h
    simp only [relayStep, hn, Option.ite_none_right_eq_some, Option.some_inj] at h
    obtain ⟨hpoint, rfl⟩ := h
    exact hstay hn (.disconnected hpoint)
  | reply n =>
    rcases hn : v.relays n with _ | r
    · simp [relayStep, hn] at h
    simp only [relayStep, hn] at h
    split at h
    · next k hpoint =>
      split at h
      · next ref shield answers hk =>
        split at h
        · next run hrun =>
          obtain ⟨w, hw, rfl⟩ := Option.map_eq_some_iff.mp h
          exact .moved n _ _ r _ w hn (.replied k ref shield answers run hpoint hk hrun) hw
        · simp at h
      · simp at h
    · simp at h
  | await n =>
    rcases hn : v.relays n with _ | r
    · simp [relayStep, hn] at h
    simp only [relayStep, hn, Option.ite_none_left_eq_some] at h
    obtain ⟨hpoint, h⟩ := h
    split at h
    · next hcreated =>
      split at h <;> obtain rfl := Option.some_inj.mp h
      · next queue hqueue => exact hstay hn (.asked queue hpoint hcreated hqueue)
      · next e he => exact hstay hn (.refused e hpoint hcreated he)
    · simp at h
  | get n =>
    rcases hn : v.relays n with _ | r
    · simp [relayStep, hn] at h
    simp only [relayStep, hn, Option.ite_none_left_eq_some] at h
    obtain ⟨hpoint, h⟩ := h
    split at h
    · next queue hwaits =>
      split at h
      · next message hmessage =>
        obtain ⟨w, hw, rfl⟩ := Option.map_eq_some_iff.mp h
        exact .moved n _ _ r _ w hn (.got queue message hpoint hwaits hmessage) hw
      · simp at h
    · simp at h
  | forward n arrives =>
    rcases hn : v.relays n with _ | r
    · simp [relayStep, hn] at h
    simp only [relayStep, hn] at h
    split at h
    · next result hpoint hdone =>
      obtain rfl := Option.some_inj.mp h
      exact hstay hn (.forwarded result arrives hpoint hdone)
    · simp at h
  | drain n arrives =>
    rcases hn : v.relays n with _ | r
    · simp [relayStep, hn] at h
    simp only [relayStep, hn] at h
    split at h
    · next outcome result hpoint hdone =>
      obtain rfl := Option.some_inj.mp h
      exact hstay hn (.drained outcome result arrives hpoint hdone)
    · simp at h
  | drainTimeout n =>
    rcases hn : v.relays n with _ | r
    · simp [relayStep, hn] at h
    simp only [relayStep, hn] at h
    split at h
    · next outcome hpoint =>
      obtain rfl := Option.some_inj.mp h
      exact hstay hn (.timedOut outcome hpoint)
    · simp at h
  | close n arrives =>
    rcases hn : v.relays n with _ | r
    · simp [relayStep, hn] at h
    simp only [relayStep, hn] at h
    split at h
    · next outcome hpoint =>
      obtain rfl := Option.some_inj.mp h
      exact hstay hn (.closed outcome arrives hpoint)
    · simp at h
  | cancel n =>
    rcases hn : v.relays n with _ | r
    · simp [relayStep, hn] at h
    simp only [relayStep, hn] at h
    split at h
    · next k hpoint =>
      obtain ⟨w, hw, rfl⟩ := Option.map_eq_some_iff.mp h
      exact .moved n _ _ r _ w hn (.cancelled k hpoint) hw
    · next hpoint =>
      obtain rfl := Option.some_inj.mp h
      exact hstay hn (.dropped hpoint)

/-- A relay serves the session it was attached to. -/
lemma RelayMove.sessionId {w : World} {env : Env} {n : ℕ} {r r' : ControlRelay} {a : RelayAction}
    {action : Option Action} (h : RelayMove w env n r a action r') :
        r'.sessionId = r.sessionId := by
  cases h with
  | received k decoded =>
    unfold ControlRelay.processed ControlRelay.finish
    split <;> rfl
  | replied k ref shield answers run =>
    unfold ControlRelay.answered
    split <;> rfl
  | forwarded result arrives =>
    unfold ControlRelay.forward
    split
    · rfl
    · split <;> rfl
  | drained outcome result arrives =>
    unfold ControlRelay.drain
    split
    · rfl
    · rfl
    · split_ifs <;> rfl
  | _ => rfl

end HermesRealtime.Relay
