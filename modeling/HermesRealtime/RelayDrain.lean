import HermesRealtime.Conveyance

/-!
The last messages of a session: what a relay still sends when the answer to a `teardown_complete`
has reached it.

The session is not active then, so the outbound task that the drain makes again finds no session
and ends it: the drain sends what the task holds, or gets from the queue it waits for, and no
message behind that.
-/

namespace HermesRealtime.RelayDrain

open Values Protocol Phases Teardown Controller Operations SessionRuns Lifecycle Bookkeeping
  CriticalSections Changes Relay StepCases Admission Ledgers OutboundOrder Conveyance Runs

variable {env : Env} {c : VoiceSessionController} {w w' : World} {ref n : ℕ}
  {u : RecordedWorld} {v v' : RelayWorld} {r r' : ControlRelay}

/-! ### A session that is over -/

/-- No step makes a session active again. -/
lemma inactive_kept {a : Action} (hg : Good w.controller) (hs : step w (env, a) = some w')
    (href : ref < w.controller.created) (hover : w.controller.activeSession ≠ some ref) :
    w'.controller.activeSession ≠ some ref := by
  cases step_case hs with
  | minor a hother h => rwa [h.active]
  | activated sessionId token now launched hfresh h =>
    rcases h.created with ⟨-, hnone, -⟩ | ⟨-, hnone | hnew, -⟩
    · simp [hnone]
    · simp [hnone]
    · rw [hnew, ne_eq, Option.some_inj]
      exact href.ne'
  | consumed token now h => rwa [h]
  | published sessionId message queue hroom hmessage hactive hqueue h hput => rwa [hput]
  | got queue h => rwa [h]
  | moved a ref run run' hrun hmoves h => rwa [h]
  | hooked ref hook run c₁ result hrun hpoint hsilent hleaves h =>
    rw [h]
    exact hleaves.active ▸ hover
  | asked ref run own queue c₁ result hrun hpoint hasked h =>
    rw [h]
    exact hasked.rest.active ▸ hover
  | finalized own run hrun hcreated h =>
    rw [h]
    obtain ⟨hborn, htask⟩ := taskOf_some hrun
    exact fun hactive => hover ((finalize_inactive env hg htask run.request).2 ref hactive)

/-- Nothing is put in the queue of a session that is not active, so it changes when a message is
taken from it. -/
lemma queue_kept {a : Action} (hu : Accounted u) (hs : step u.world (env, a) = some w')
    (href : ref < u.world.controller.created)
    (hover : u.world.controller.activeSession ≠ some ref) (hget : a ≠ .get ref) :
    w'.controller.queues ref = u.world.controller.queues ref := by
  cases step_case hs with
  | minor a hother h => rw [h.queues]
  | activated sessionId token now launched hfresh h => exact h.queues ref href.ne
  | consumed token now h => rw [h]
  | published sessionId message queue hroom hmessage hactive hqueue h hput =>
    rw [hput]
    refine Function.update_of_ne ?_ _ _
    rintro rfl
    obtain ⟨own, hown, hid, -⟩ := sessionIsActive_iff.mp hactive
    obtain rfl := hu.own hqueue (hu.sound.good.active own hown).1 hid
    exact hover hown
  | got queue h =>
    rw [h]
    exact Function.update_of_ne (fun hsame => hget (by rw [hsame])) _ _
  | moved a ref run run' hrun hmoves h => rw [h]; rfl
  | hooked ref hook run c₁ result hrun hpoint hsilent hleaves h =>
    rw [h]
    exact congrFun hleaves.queues _
  | asked own run active queue c₁ result hrun hpoint hasked h =>
    rw [h]
    refine (congrFun hasked.rest.queues _).trans (Function.update_of_ne ?_ _ _)
    rintro rfl
    obtain rfl := hu.own hasked.outbound (hu.sound.good.active active hasked.active).1 hasked.id
    exact hover hasked.active
  | finalized own run hrun hcreated h =>
    rw [h]
    exact congrFun (finalize_closes env own run.request u.world.controller).queues ref

/-- Who asks for the messages of a session that is not active is told so. -/
lemma stale_of_inactive (hg : Good c) (href : ref < c.created)
    (hover : c.activeSession ≠ some ref) :
    (waitForOutboundMessage (c.heap ref).sessionId c).2 =
      .error (.staleControlMessage "stale session id") := by
  have hothers (own : ℕ) (hown : c.activeSession = some own) :
      (c.heap own).sessionId ≠ (c.heap ref).sessionId := fun hid =>
    hover (hg.ids own (hg.active own hown).1 ref href hid ▸ hown)
  rw [waitForOutboundMessage, Op.bind_of_error (requireActiveSession_of_stale hothers)]

/-! ### What is left -/

/-- The messages that have not been sent: what the outbound task holds, and those in the queue. -/
def pending (w : World) (ref : ℕ) (r : ControlRelay) : List LoopbackMessage :=
  held r.outbound ++ (w.controller.queues ref).messages

/-- What the outbound task brings: the message it holds, or the next one of the queue it waits
for. -/
def brought (w : World) (r : ControlRelay) : List LoopbackMessage :=
  match r.outbound with
  | .waiting queue => (w.controller.queues queue).messages.take 1
  | task => held task

/-- No message is in the queue behind the one that the outbound task brings. -/
def Deliverable (w : World) (ref : ℕ) (r : ControlRelay) : Prop :=
  match r.outbound with
  | .waiting _ => (w.controller.queues ref).messages.length ≤ 1
  | _ => (w.controller.queues ref).messages = []

lemma brought_eq_pending_iff (hqueue : ∀ q, r.outbound = .waiting q → q = ref) :
    brought w r = pending w ref r ↔ Deliverable w ref r := by
  unfold brought pending Deliverable
  rcases htask : r.outbound with _ | queue | result
  · exact List.self_eq_append_right
  · obtain rfl := hqueue queue htask
    change (w.controller.queues queue).messages.take 1 = (w.controller.queues queue).messages ↔
      (w.controller.queues queue).messages.length ≤ 1
    refine ⟨fun h => ?_, List.take_of_length_le⟩
    have hle := List.length_take_le 1 (w.controller.queues queue).messages
    rwa [h] at hle
  · exact List.self_eq_append_right

/-- Nothing keeps the relay from sending its last frames: no send fails, and neither the deadline
passes nor is the relay cancelled. -/
def Undisturbed (n : ℕ) (_ : RelayWorld) (x : Env × RelayAction) : Prop :=
  match x.2 with
  | .drain m arrives | .close m arrives => m = n → arrives = true
  | .drainTimeout m | .cancel m => m ≠ n
  | _ => True

instance (n : ℕ) (v : RelayWorld) (x : Env × RelayAction) : Decidable (Undisturbed n v x) := by
  unfold Undisturbed
  split <;> infer_instance

/-- The relay is on the way to its last frame, before which it will have sent `frames`. -/
structure Parting (frames : List LoopbackMessage) (n ref : ℕ) (v : RelayWorld) (r : ControlRelay) :
    Prop where
  relay : v.relays n = some r
  born : ref < v.world.controller.created
  id : (v.world.controller.heap ref).sessionId = r.sessionId
  inactive : v.world.controller.activeSession ≠ some ref
  frames : match r.point with
    | .draining _ => r.sent ++ brought v.world r = frames
    | .closing _ => r.sent = frames
    | .returned => True
    | _ => False

variable {frames : List LoopbackMessage}

/-- The session that a relay conveys is the one that it parts from. -/
lemma Parting.conveys (hp : Parting frames n ref v r) (hv : Conveyed u v) :
    Conveys u v.world r ref := by
  obtain ⟨own, h⟩ := hv.conveys n r hp.relay
  obtain rfl := hv.admitted.sound.good.ids own h.born ref hp.born (h.id.trans hp.id.symm)
  exact h

lemma brought_congr (hqueue : ∀ q, r.outbound = .waiting q → q = ref)
    (hsame : w'.controller.queues ref = w.controller.queues ref) : brought w' r = brought w r := by
  unfold brought
  split
  · next queue htask => rw [hqueue queue htask, hsame]
  · rfl

/-- The controller takes a step, and no message from the queue of the session. -/
lemma Parting.keep (hp : Parting frames n ref v r) (hv : Conveyed u v) {a : Action}
    (hs : step v.world (env, a) = some w) (hget : a ≠ .get ref) (hworld : v'.world = w)
    (hrelay : v'.relays n = some r) : Parting frames n ref v' r := by
  have hsound := hv.admitted.sound
  have hkept := (change_keeps (step_change hsound.good hsound.waits hs) hsound.good).2
  have hsame : w.controller.queues ref = v.world.controller.queues ref := by
    rw [← hv.world] at hs ⊢
    exact queue_kept hv.accounted hs (hv.world ▸ hp.born) (hv.world ▸ hp.inactive) hget
  subst hworld
  refine ⟨hrelay, hp.born.trans_le hkept.created, (hkept.id ref hp.born).trans hp.id,
    inactive_kept hsound.good hs hp.born hp.inactive, ?_⟩
  rw [brought_congr (hp.conveys hv).queue hsame]
  exact hp.frames

/-- The relay moves, and its session is still over. -/
lemma Parting.move (hp : Parting frames n ref v r) (hid : r'.sessionId = r.sessionId)
    (hframes : match r'.point with
      | .draining _ => r'.sent ++ brought v.world r' = frames
      | .closing _ => r'.sent = frames
      | .returned => True
      | _ => False) : Parting frames n ref (v.setRelay n r') r' :=
  ⟨v.setRelay_relays n r', hp.born, hp.id.trans hid.symm, hp.inactive, hframes⟩

/-- **A relay that parts moves towards its last frame**, and sends what it was to send. -/
lemma Parting.moved (hp : Parting frames n ref v r) (hv : Conveyed u v) {a : RelayAction}
    {action : Option Action} (hc : Undisturbed n v (env, a))
    (hmove : RelayMove v.world env n r a action r') (hw : mayStep v.world env action = some w) :
    Parting frames n ref ((v.withWorld w).setRelay n r') r' := by
  have hconveys := hp.conveys hv
  have hframes := hp.frames
  have hstale := stale_of_inactive hv.admitted.sound.good hp.born hp.inactive
  rw [hp.id] at hstale
  cases hmove with
  | received k decoded hpoint => exact (by simp [hpoint] at hframes)
  | disconnected hpoint => exact (by simp [hpoint] at hframes)
  | replied k own shield answers run hpoint hk hrun =>
    exact (by simp [hpoint] at hframes)
  | asked queue hpoint hcreated hqueue => cases hstale.symm.trans hqueue
  | refused e hpoint hcreated he =>
    obtain rfl := Option.some_inj.mp hw
    refine hp.move rfl ?_
    simpa [brought, held, hcreated] using hframes
  | got queue message hpoint hwaits hmessage =>
    obtain rfl := hconveys.queue queue hwaits
    have hs : step v.world (env, .get queue) = some w := hw
    have hsound := hv.admitted.sound
    have hkept := (change_keeps (step_change hsound.good hsound.waits hs) hsound.good).2
    have hhead : (v.world.controller.queues queue).messages.head? = some message := by
      simpa [getOutbound] using hmessage
    have hbrought : brought v.world r = [message] := by
      simp [brought, hwaits, List.take_one, hhead]
    refine ⟨RelayWorld.setRelay_relays _ n _, hp.born.trans_le hkept.created,
      (hkept.id queue hp.born).trans hp.id, inactive_kept hsound.good hs hp.born hp.inactive, ?_⟩
    rw [hbrought] at hframes
    simpa [brought, held] using hframes
  | forwarded result arrives hpoint hdone => exact (by simp [hpoint] at hframes)
  | drained outcome result arrives hpoint hdone =>
    obtain rfl := Option.some_inj.mp hw
    obtain rfl : arrives = true := hc rfl
    simp only [hpoint, brought, hdone] at hframes
    rcases result with e | message
    · cases e with
      | staleControlMessage => exact hp.move rfl (by simpa [ControlRelay.drain, held] using hframes)
      | _ => exact hp.move rfl trivial
    · refine hp.move (by simp [ControlRelay.drain]; split <;> rfl) ?_
      simp only [ControlRelay.drain]
      rcases hstop : isStop message with _ | _
      · simpa [hpoint, brought, held] using hframes
      · simpa [held] using hframes
  | timedOut outcome hpoint => exact absurd rfl hc
  | closed outcome arrives hpoint =>
    obtain rfl := Option.some_inj.mp hw
    exact hp.move rfl trivial
  | cancelled k hpoint => exact absurd rfl hc
  | dropped hpoint => exact absurd rfl hc

/-- Every step that does not disturb it leads a relay on. -/
theorem parting_step {x : Env × RelayAction} (hp : Parting frames n ref v r) (hv : Conveyed u v)
    (hc : Undisturbed n v x) (hs : relayStep v x = some v') : ∃ r', Parting frames n ref v' r' := by
  obtain ⟨env, a⟩ := x
  cases relay_change hs with
  | elsewhere a w hown hw =>
    refine ⟨r, hp.keep hv hw ?_ rfl hp.relay⟩
    rintro rfl
    simp [ofRelay] at hown
  | refused m token now w hw => exact ⟨r, hp.keep hv hw (by simp) rfl hp.relay⟩
  | attached m token now sessionId w hfree hw hconsumed =>
    have hnm : n ≠ m := by
      rintro rfl
      cases hfree.symm.trans hp.relay
    exact ⟨r, hp.keep hv hw (by simp) rfl ((Function.update_of_ne hnm _ _).trans hp.relay)⟩
  | moved m a action q q' w hm hmove hw =>
    by_cases hnm : n = m
    · subst hnm
      obtain rfl : r = q := Option.some_inj.mp (hp.relay.symm.trans hm)
      exact ⟨q', hp.moved hv hc hmove hw⟩
    · have hrelay : ((v.withWorld w).setRelay m q').relays n = some r :=
        (Function.update_of_ne hnm _ _).trans hp.relay
      rcases action with _ | a'
      · obtain rfl := Option.some_inj.mp hw
        exact ⟨r, hrelay, hp.born, hp.id, hp.inactive, hp.frames⟩
      · have hs' : step v.world (env, a') = some w := hw
        refine ⟨r, hp.keep hv hs' ?_ rfl hrelay⟩
        rintro rfl
        -- only the relay of the session takes messages from its queue
        obtain ⟨own, h⟩ := hv.conveys m q hm
        cases hmove with
        | got _ message hpoint hwaits hmessage =>
          obtain rfl := h.queue _ hwaits
          exact hnm (hv.admitted.single n m r q hp.relay hm (hp.id.symm.trans h.id))

/-! ### The answer -/

/-- The answer that its session is closed reaches a relay in the step from `v` to `v'`. -/
structure Finishes (v v' : RelayWorld) (n ref : ℕ) (r r' : ControlRelay) : Prop where
  before : v.relays n = some r
  after : v'.relays n = some r'
  serving : r.point = .waiting ∨ ∃ k, r.point = .processing k
  parting : ∃ outcome, r'.point = .draining outcome ∨ r'.point = .closing outcome
  born : ref < v'.world.controller.created
  id : (v'.world.controller.heap ref).sessionId = r'.sessionId

/-- The messages up to the stop message, if there is one. -/
def StopLast (messages : List LoopbackMessage) : Prop :=
  ∀ before m after, messages = before ++ m :: after → isStop m = true → after = []

/-- Where the answer has come, the relay parts, and the frames that it will have sent are all that
is left if nothing is queued behind the first. -/
def Parts (n ref : ℕ) (v : RelayWorld) (r : ControlRelay) : Prop :=
  ∃ frames, Parting frames n ref v r ∧ StopLast (r.sent ++ pending v.world ref r) ∧
    (frames = r.sent ++ pending v.world ref r ↔ Deliverable v.world ref r)

lemma parts_of_finish (hv : Conveyed u v) (h : Conveys u v.world r ref) (hserving : Serving r)
    (hover : v.world.controller.activeSession ≠ some ref)
    (hsame : w.controller = v.world.controller) (outcome : SessionOutcome) :
    Parts n ref ((v.withWorld w).setRelay n (r.finish outcome)) (r.finish outcome) := by
  have hcarries := h.carries hserving
  have hline : u.taken ref ++ (u.world.controller.queues ref).messages =
      r.sent ++ pending w ref r := by
    rw [hcarries.sent, hv.world, pending, hsame, List.append_assoc]
  have hlast := hv.accounted.orderly ref
  have hstopLast : StopLast (r.sent ++ pending w ref r) := fun before m after hsplit hm =>
    (hlast.left_last (hline.trans hsplit) hm).1
  have hparting {frames : List LoopbackMessage} (hframes : match (r.finish outcome).point with
      | .draining _ => (r.finish outcome).sent ++ brought w (r.finish outcome) = frames
      | .closing _ => (r.finish outcome).sent = frames
      | .returned => True
      | _ => False) : Parting frames n ref ((v.withWorld w).setRelay n (r.finish outcome))
        (r.finish outcome) := by
    refine ⟨RelayWorld.setRelay_relays _ n _, ?_, ?_, ?_, hframes⟩
    · exact hsame ▸ h.born
    · exact hsame ▸ h.id
    · exact hsame ▸ hover
  rcases hstop : r.serverStopSent with _ | _
  · have hpoint : (r.finish outcome).point = .draining outcome := by
      simp [ControlRelay.finish, hstop]
    refine ⟨r.sent ++ brought w r, hparting (by rw [hpoint]; rfl), hstopLast, ?_⟩
    exact List.append_right_inj r.sent |>.trans (brought_eq_pending_iff h.queue)
  · have hpoint : (r.finish outcome).point = .closing outcome := by
      simp [ControlRelay.finish, hstop]
    -- the stop message was sent, so nothing is left
    have hnone : pending w ref r = [] := by
      rw [hcarries.stopSent, List.any_eq_true] at hstop
      obtain ⟨m, hm, hstop⟩ := hstop
      obtain ⟨front, back, hsplit⟩ := List.append_of_mem hm
      have hall : r.sent ++ pending w ref r = front ++ m :: (back ++ pending w ref r) := by
        rw [hsplit, List.append_assoc, List.cons_append]
      exact (List.append_eq_nil_iff.mp (hstopLast _ _ _ hall hstop)).2
    refine ⟨r.sent, hparting (by rw [hpoint]; rfl), hstopLast, ?_⟩
    have hqueue : (w.controller.queues ref).messages = [] := (List.append_eq_nil_iff.mp hnone).2
    refine iff_of_true ?_ ?_
    · exact (List.append_nil _).symm.trans (congrArg (r.sent ++ ·) hnone.symm)
    · change Deliverable w ref (r.finish outcome)
      unfold Deliverable
      split <;> simp [hqueue]

/-- The session of a relay that has been answered is not active. -/
lemma over_of_closed (hg : Good c) {sessionId : String}
    (hlast : c.lastClosedSessionId = some sessionId) (href : ref < c.created)
    (hid : (c.heap ref).sessionId = sessionId) : c.activeSession ≠ some ref := by
  obtain ⟨own, hown, hownId, run, -, hresult⟩ := hg.lastClosed sessionId hlast
  obtain ⟨other, hother, hover, hotherId, -⟩ := hg.results sessionId _ hresult
  rwa [← hg.ids other hother ref href (hotherId.trans hid.symm)]

/-- **The answer finds the session over.** -/
theorem finishes_parts {x : Env × RelayAction} (hv : Conveyed u v) (hs : relayStep v x = some v')
    (h : Finishes v v' n ref r r') : Parts n ref v' r' ∧ r'.sessionId = r.sessionId := by
  obtain ⟨env, a⟩ := x
  obtain ⟨outcome, hparting⟩ := h.parting
  have hgood := hv.admitted.sound.good
  -- the relay has moved
  have hmoved (hsame : r = r') : False := by
    rcases h.serving with hp | ⟨k, hp⟩ <;> rcases hparting with hp' | hp' <;>
      rw [← hsame, hp] at hp' <;> cases hp'
  cases relay_change hs with
  | elsewhere a w hown hw => exact (hmoved (Option.some_inj.mp (h.before.symm.trans h.after))).elim
  | refused m token now w hw =>
    exact (hmoved (Option.some_inj.mp (h.before.symm.trans h.after))).elim
  | attached m token now sessionId w hfree hw hconsumed =>
    have hnm : n ≠ m := by
      rintro rfl
      cases hfree.symm.trans h.before
    refine (hmoved (Option.some_inj.mp (h.before.symm.trans ?_))).elim
    exact (Function.update_of_ne hnm _ _).symm.trans h.after
  | moved m a action q q' w hm hmove hw =>
    obtain rfl : n = m := by
      by_contra hnm
      refine hmoved (Option.some_inj.mp (h.before.symm.trans ?_))
      exact (Function.update_of_ne hnm _ _).symm.trans h.after
    obtain rfl : r = q := Option.some_inj.mp (h.before.symm.trans hm)
    obtain rfl : q' = r' := by simpa using h.after
    obtain ⟨own, hconveys⟩ := hv.conveys n r hm
    obtain ⟨hworld, haccounted, -, -, hkept⟩ := hv.advance hw
    obtain rfl : own = ref := by
      have hgood' : Good w.controller := hworld ▸ haccounted.sound.good
      refine hgood'.ids own (hconveys.born.trans_le hkept.created) ref h.born ?_
      exact (hkept.id own hconveys.born).trans
        (hconveys.id.trans (hmove.sessionId.symm.trans h.id.symm))
    refine ⟨?_, hmove.sessionId⟩
    cases hmove with
    | received k decoded hpoint =>
      have hs' : step v.world (env, .control k r.sessionId decoded) = some w := hw
      rw [step, Option.ite_none_left_eq_some, Option.some_inj] at hs'
      obtain ⟨-, rfl⟩ := hs'
      have houtcome := control_outcome (k := ⟨False, False, False, False, False⟩) env hgood
        r.sessionId decoded (fun h => h.elim) fun _ _ _ _ _ => not_false
      rw [afterControl] at *
      generalize processControlMessage env r.sessionId decoded v.world.controller = reply at *
      cases houtcome with
      | handled | pageStarted | stopped => exact (hmoved rfl).elim
      | raised c' e => rcases hparting with hp | hp <;> cases hp
      | awaits c' c₁ own request hbegun heffect hown htask hid =>
        rcases hparting with hp | hp <;> cases hp
      | closed hlast =>
        exact parts_of_finish (w := (v.world.withController v.world.controller).observe _)
          hv hconveys
          (by simp [Serving, hpoint]) (over_of_closed hgood hlast hconveys.born hconveys.id) rfl _
    | replied k holder shield answers run hpoint hk hrun =>
      have hs' : step v.world (env, .deliver k) = some w := hw
      obtain ⟨holder', shield', hk'⟩ := hconveys.processing k hpoint
      obtain ⟨rfl, -, rfl⟩ : holder = holder' ∧ shield = shield' ∧ answers = some r.sessionId := by
        simpa using hk.symm.trans hk'
      obtain ⟨hborn, -, hanswers⟩ := hv.admitted.sound.waits k holder shield _ hk
      obtain rfl : holder = own := by
        exact hgood.ids holder hborn own hconveys.born ((hanswers _ rfl).trans hconveys.id.symm)
      have hended := hv.ended holder run (taskOf_some hrun).2
      by_cases hreturned : run.point = .returned
      · have hsame : w.controller = v.world.controller := by
          simp only [step, hk, hrun, hreturned, if_true, Option.some_inj] at hs'
          rw [← hs']
          rfl
        have hover := hended.finished (hended.returned hreturned)
        rw [ControlRelay.answered, if_pos hreturned]
        exact parts_of_finish hv hconveys (by simp [Serving, hpoint]) hover hsame _
      · rw [ControlRelay.answered, if_neg hreturned] at hparting
        rcases hparting with hp | hp <;> cases hp
    | disconnected | cancelled | dropped => rcases hparting with hp | hp <;> cases hp
    | asked | refused | got =>
      rcases h.serving with hp | ⟨k, hp⟩ <;> rcases hparting with hp' | hp' <;>
        cases hp.symm.trans hp'
    | forwarded result arrives hpoint hdone =>
      rcases result with e | message
      · rcases hparting with hp | hp <;> cases hp
      · cases arrives <;> rcases hparting with hp | hp
        · cases hp
        · cases hp
        · cases hpoint.symm.trans hp
        · cases hpoint.symm.trans hp
    | drained outcome' result arrives hpoint hdone =>
      rcases h.serving with hp | ⟨k, hp⟩ <;> cases hp.symm.trans hpoint
    | timedOut outcome' hpoint => rcases h.serving with hp | ⟨k, hp⟩ <;> cases hp.symm.trans hpoint
    | closed outcome' arrives hpoint =>
      rcases h.serving with hp | ⟨k, hp⟩ <;> cases hp.symm.trans hpoint

/-! ### The way to the last frame -/

/-- Some run that does not disturb the relay leads it to its last frame. -/
def ComesToClose (n : ℕ) (v : RelayWorld) : Prop :=
  ∃ as v' r outcome, Run relayStep (Undisturbed n) v as v' ∧ v'.relays n = some r ∧
    r.point = .closing outcome

lemma ComesToClose.step {x : Env × RelayAction} (h : ComesToClose n v')
    (hs : relayStep v x = some v') (hc : Undisturbed n v x) : ComesToClose n v := by
  obtain ⟨as, last, r, outcome, hrun, hr, hpoint⟩ := h
  have hfirst : Run relayStep (Undisturbed n) v [x] v' := Run.nil.snoc hc hs
  exact ⟨x :: as, last, r, outcome, hfirst.append hrun, hr, hpoint⟩

lemma drain_step (env : Env) {outcome : SessionOutcome} {result : Except PyError LoopbackMessage}
    (hn : v.relays n = some r) (hpoint : r.point = .draining outcome)
    (hdone : r.outbound = .done result) :
    relayStep v (env, .drain n true) = some (v.setRelay n (r.drain outcome result true)) := by
  simp [relayStep, hn, hpoint, hdone]

lemma closes_of_stale (env : Env) {outcome : SessionOutcome} {text : String}
    (hn : v.relays n = some r) (hpoint : r.point = .draining outcome)
    (hdone : r.outbound = .done (.error (.staleControlMessage text))) : ComesToClose n v := by
  have hs := drain_step env hn hpoint hdone
  exact ComesToClose.step ⟨[], _, _, outcome, .nil, v.setRelay_relays n _, rfl⟩ hs fun _ => rfl

lemma closes_of_created (env : Env) {outcome : SessionOutcome} (hp : Parting frames n ref v r)
    (hg : Good v.world.controller) (hpoint : r.point = .draining outcome)
    (hcreated : r.outbound = .created) : ComesToClose n v := by
  have hstale := stale_of_inactive hg hp.born hp.inactive
  rw [hp.id] at hstale
  have hs : relayStep v (env, .await n) = some (v.setRelay n
      { r with outbound := .done (.error (.staleControlMessage "stale session id")) }) := by
    simp [relayStep, hp.relay, hpoint, hcreated, hstale]
  have hnext := closes_of_stale env (v.setRelay_relays n { r with
    outbound := .done (.error (.staleControlMessage "stale session id")) }) hpoint rfl
  exact hnext.step hs trivial

lemma closes_of_held (env : Env) {outcome : SessionOutcome} {message : LoopbackMessage}
    (hp : Parting frames n ref v r) (hg : Good v.world.controller)
    (hpoint : r.point = .draining outcome) (hdone : r.outbound = .done (.ok message)) :
    ComesToClose n v := by
  have hs := drain_step env hp.relay hpoint hdone
  rcases hstop : isStop message with _ | _
  · have hdrained : r.drain outcome (.ok message) true =
        { r with sent := r.sent ++ [message], outbound := .created } := by
      simp [ControlRelay.drain, hstop]
    rw [hdrained] at hs
    have hnext : Parting (r.sent ++ [message]) n ref (v.setRelay n
        { r with sent := r.sent ++ [message], outbound := .created })
        { r with sent := r.sent ++ [message], outbound := .created } :=
      ⟨v.setRelay_relays n _, hp.born, hp.id, hp.inactive, by simp [hpoint, brought, held]⟩
    have hcloses := closes_of_created env hnext hg hpoint rfl
    exact hcloses.step hs fun _ => rfl
  · have hdrained : r.drain outcome (.ok message) true = { r with
        sent := r.sent ++ [message], serverStopSent := true, point := .closing outcome } := by
      simp [ControlRelay.drain, hstop]
    rw [hdrained] at hs
    exact ComesToClose.step ⟨[], _, _, outcome, .nil, v.setRelay_relays n _, rfl⟩ hs fun _ => rfl

/-- The outbound task ends: it does not wait for an empty queue, and has not failed but for a
session that is over. -/
def Ends (w : World) : OutboundTask → Prop
  | .waiting queue => (w.controller.queues queue).messages ≠ []
  | .done (.error e) => ∃ text, e = .staleControlMessage text
  | _ => True

/-- **A drain whose outbound task ends comes to the last frame.** -/
theorem parting_closes (env : Env) (hv : Conveyed u v) {outcome : SessionOutcome}
    (hp : Parting frames n ref v r)
    (hpoint : r.point = .draining outcome ∨ r.point = .closing outcome)
    (hends : Ends v.world r.outbound) : ComesToClose n v := by
  have hg := hv.admitted.sound.good
  rcases hpoint with hpoint | hpoint
  · rcases htask : r.outbound with _ | queue | e | message
    · exact closes_of_created env hp hg hpoint htask
    · rw [htask] at hends
      obtain ⟨message, rest, hmessages⟩ := List.exists_cons_of_ne_nil hends
      have hs : relayStep v (env, .get n) = some ((v.withWorld (v.world.withController
          (getOutbound queue v.world.controller).1)).setRelay n
            { r with outbound := .done (.ok message) }) := by
        simp [relayStep, hp.relay, hpoint, htask, getOutbound, hmessages, SessionRuns.step]
      obtain ⟨u', hv'⟩ := conveyed_step hv hs
      obtain ⟨r', hp'⟩ := parting_step hp hv (x := (env, .get n)) trivial hs
      obtain rfl : { r with outbound := .done (.ok message) } = r' := by
        simpa using hp'.relay
      exact (closes_of_held env hp' hv'.admitted.sound.good hpoint rfl).step hs trivial
    · rw [htask] at hends
      obtain ⟨text, rfl⟩ := hends
      exact closes_of_stale env hp.relay hpoint htask
    · exact closes_of_held env hp hg hpoint htask
  · exact ⟨[], v, r, outcome, .nil, hp.relay, hpoint⟩

/-! ### The drain -/

/-- That the session is closed is said last, and once. -/
def ClosedLast (messages : List LoopbackMessage) : Prop :=
  ∀ before m after, messages = before ++ m :: after → isClosed m = true →
    after = [] ∧ ∀ x ∈ before, isClosed x = false

lemma closedLast_of_signedOff (h : SignedOff r) : ClosedLast r.sent := by
  obtain ⟨front, hfront, hsent | ⟨-, outcome, hsent⟩⟩ := h
  · intro before m after hsplit hm
    have hin : m ∈ front := by
      rw [← hsent, hsplit]
      simp
    simp [hfront m hin] at hm
  · intro before m after hsplit hm
    have hopen : ∀ x ∈ front, ¬ isClosed x = true := fun x hx => by simp [hfront x hx]
    have hlast := Orderly.last_of_snoc hopen hsent hsplit hm
    exact ⟨hlast.1, fun x hx => by simpa using hlast.2 x hx⟩

/-- **The relay drains the queue of its session when nothing is queued behind the first message.**
What it has sent when it says that the session is closed is all that was left, up to the stop
message, exactly then. It says so last, and once. -/
theorem drain_delivers_iff {g : Config} {as : List (Env × RelayAction)}
    (h : Run relayStep (fun _ _ => True) (startRelays g) as v) :
    (∀ n r, v.relays n = some r → ClosedLast r.sent) ∧
    ∀ env a v₁ n ref r r₁, relayStep v (env, a) = some v₁ → Finishes v v₁ n ref r r₁ →
      StopLast (r₁.sent ++ pending v₁.world ref r₁) ∧
      (∀ bs v₂ r₂ outcome, Run relayStep (Undisturbed n) v₁ bs v₂ → v₂.relays n = some r₂ →
        r₂.point = .closing outcome →
          (r₂.sent = r₁.sent ++ pending v₁.world ref r₁ ↔ Deliverable v₁.world ref r₁)) ∧
      (Ends v₁.world r₁.outbound → ComesToClose n v₁) := by
  obtain ⟨u, hv⟩ := conveyed_run h
  refine ⟨fun n r hn => ?_, fun env a v₁ n ref r r₁ hs hfinishes => ?_⟩
  · obtain ⟨ref, hconveys⟩ := hv.conveys n r hn
    exact closedLast_of_signedOff hconveys.signedOff
  · obtain ⟨⟨frames, hp, hstop, hiff⟩, -⟩ := finishes_parts hv hs hfinishes
    obtain ⟨u₁, hv₁⟩ := conveyed_step hv hs
    refine ⟨hstop, fun bs v₂ r₂ outcome hrun hr₂ hpoint => ?_, fun hends => ?_⟩
    · obtain ⟨-, r', hp'⟩ : (∃ u, Conveyed u v₂) ∧ ∃ r, Parting frames n ref v₂ r := by
        refine hrun.invariant (I := fun v => (∃ u, Conveyed u v) ∧ ∃ r, Parting frames n ref v r)
          ⟨⟨u₁, hv₁⟩, r₁, hp⟩ ?_
        rintro t x t' ⟨⟨u, ht⟩, r, hr⟩ hc hs
        exact ⟨conveyed_step ht hs, parting_step hr ht hc hs⟩
      obtain rfl : r' = r₂ := Option.some_inj.mp (hp'.relay.symm.trans hr₂)
      have hsent : r'.sent = frames := by
        have hframes := hp'.frames
        rwa [hpoint] at hframes
      rw [hsent]
      exact hiff
    · obtain ⟨outcome, hpoint⟩ := hfinishes.parting
      exact parting_closes env hv₁ hp hpoint hends

/-- A task event has come when a page tears its session down, and the relay holds it. -/
def busyTeardown : List (Env × RelayAction) :=
  [(stillEnv, .elsewhere (.activate "voice-one-01" "token" 0 (some ⟨1⟩))),
   (stillEnv, .connect 0 "token" 0), (stillEnv, .await 0),
   (stillEnv, .elsewhere (.publish "voice-one-01" doneEvent)), (stillEnv, .get 0),
   (stillEnv, .receive 0 1 (.ok (.teardownComplete "voice-one-01")))] ++
    (askPage ++ closeDown).map fun x => (x.1, .elsewhere x.2)

/-- The relay waits for the queue when the page tears its session down. -/
def quietTeardown : List (Env × RelayAction) :=
  [(stillEnv, .elsewhere (.activate "voice-one-01" "token" 0 (some ⟨1⟩))),
   (stillEnv, .connect 0 "token" 0), (stillEnv, .await 0),
   (stillEnv, .receive 0 1 (.ok (.teardownComplete "voice-one-01")))] ++
    (askPage ++ closeDown).map fun x => (x.1, .elsewhere x.2)

instance (w : World) (ref : ℕ) (r : ControlRelay) : Decidable (Deliverable w ref r) := by
  unfold Deliverable
  split <;> infer_instance

/-- What a drain has sent when it begins, what is left then, and what it has sent at its end, as
stop messages and others. -/
lemma drain_of_exec (as bs : List (Env × RelayAction)) (before left sent : List Bool)
    (deliverable : Bool)
    (h : (do
      let v ← exec relayStep (fun _ _ => true) (startRelays {}) as
      let r ← v.relays 0
      let v₁ ← relayStep v (stillEnv, .reply 0)
      let r₁ ← v₁.relays 0
      let v₂ ← exec relayStep (fun v x => decide (Undisturbed 0 v x)) v₁ bs
      let r₂ ← v₂.relays 0
      some (r.point = .processing 1 && r₁.point = .draining .completed &&
        r₂.point = .closing .completed && 0 < v₁.world.controller.created &&
        (v₁.world.controller.heap 0).sessionId = r₁.sessionId && r₁.sent.map isStop = before &&
        (pending v₁.world 0 r₁).map isStop = left && r₂.sent.map isStop = sent &&
        decide (Deliverable v₁.world 0 r₁) = deliverable)) = some true) :
    ∃ v v₁ v₂ r r₁ r₂, Run relayStep (fun _ _ => True) (startRelays {}) as v ∧
      relayStep v (stillEnv, .reply 0) = some v₁ ∧ Finishes v v₁ 0 0 r r₁ ∧
      Run relayStep (Undisturbed 0) v₁ bs v₂ ∧ v₂.relays 0 = some r₂ ∧
      r₂.point = .closing .completed ∧ r₁.sent.map isStop = before ∧
      (pending v₁.world 0 r₁).map isStop = left ∧ r₂.sent.map isStop = sent ∧
      decide (Deliverable v₁.world 0 r₁) = deliverable := by
  simp only [Option.bind_eq_bind, Option.bind_eq_some_iff, Option.some_inj, Bool.and_eq_true,
    decide_eq_true_eq, and_assoc] at h
  obtain ⟨v, hv, r, hr, v₁, hs, r₁, hr₁, v₂, hv₂, r₂, hr₂, hp, hp₁, hp₂, hborn, hid, hseen⟩ := h
  have hrun : Run relayStep (fun _ _ => True) (startRelays {}) as v :=
    run_of_exec (fun _ _ _ => trivial) _ _ hv
  have hrun₂ : Run relayStep (Undisturbed 0) v₁ bs v₂ :=
    run_of_exec (fun _ _ => of_decide_eq_true) _ _ hv₂
  have hfinishes : Finishes v v₁ 0 0 r r₁ :=
    ⟨hr, hr₁, .inr ⟨1, hp⟩, ⟨_, .inl hp₁⟩, hborn, hid⟩
  exact ⟨v, v₁, v₂, r, r₁, r₂, hrun, hs, hfinishes, hrun₂, hr₂, hp₂, hseen⟩

/-- The task event that the relay holds is sent, and the stop message behind it is not. -/
lemma busy_drain : ∃ v v₁ v₂ r r₁ r₂,
    Run relayStep (fun _ _ => True) (startRelays {}) busyTeardown v ∧
    relayStep v (stillEnv, .reply 0) = some v₁ ∧ Finishes v v₁ 0 0 r r₁ ∧
    Run relayStep (Undisturbed 0) v₁ [(stillEnv, .drain 0 true), (stillEnv, .await 0),
      (stillEnv, .drain 0 true)] v₂ ∧ v₂.relays 0 = some r₂ ∧
    r₂.point = .closing .completed ∧ r₁.sent.map isStop = [] ∧
    (pending v₁.world 0 r₁).map isStop = [false, true] ∧ r₂.sent.map isStop = [false] ∧
    decide (Deliverable v₁.world 0 r₁) = false :=
  drain_of_exec _ _ _ _ _ _ (by decide +kernel)

/-- The stop message is all that is left, and is sent. -/
lemma quiet_drain : ∃ v v₁ v₂ r r₁ r₂,
    Run relayStep (fun _ _ => True) (startRelays {}) quietTeardown v ∧
    relayStep v (stillEnv, .reply 0) = some v₁ ∧ Finishes v v₁ 0 0 r r₁ ∧
    Run relayStep (Undisturbed 0) v₁ [(stillEnv, .get 0), (stillEnv, .drain 0 true)] v₂ ∧
    v₂.relays 0 = some r₂ ∧ r₂.point = .closing .completed ∧ r₁.sent.map isStop = [] ∧
    (pending v₁.world 0 r₁).map isStop = [true] ∧ r₂.sent.map isStop = [true] ∧
    decide (Deliverable v₁.world 0 r₁) = true :=
  drain_of_exec _ _ _ _ _ _ (by decide +kernel)

/-- Of the two drains one delivers what is left, and the other does not. -/
theorem drain_delivers_or_not :
    (∃ (v : RelayWorld) (r : ControlRelay), (pending v.world 0 r).map isStop = [false, true] ∧
      ¬ Deliverable v.world 0 r) ∧
    ∃ (v v' : RelayWorld) (r r' : ControlRelay), (pending v.world 0 r).map isStop = [true] ∧
      v'.relays 0 = some r' ∧ r'.point = .closing .completed ∧
      r'.sent = r.sent ++ pending v.world 0 r := by
  refine ⟨?_, ?_⟩
  · obtain ⟨v, v₁, v₂, r, r₁, r₂, hrun, hs, hfinishes, hrun₂, hr₂, hp₂, hbefore, hleft, hsent, -⟩ :=
      busy_drain
    refine ⟨v₁, r₁, hleft, fun hdeliverable => ?_⟩
    have hall :=
      ((drain_delivers_iff hrun).2 _ _ v₁ 0 0 r r₁ hs hfinishes).2.1 _ v₂ r₂ _ hrun₂ hr₂ hp₂
    have hmap := congrArg (List.map isStop) (hall.mpr hdeliverable)
    rw [List.map_append, hsent, hbefore, hleft] at hmap
    cases hmap
  · obtain ⟨v, v₁, v₂, r, r₁, r₂, hrun, hs, hfinishes, hrun₂, hr₂, hp₂, -, hleft, -, hall⟩ :=
      quiet_drain
    have hsent :=
      ((drain_delivers_iff hrun).2 _ _ v₁ 0 0 r r₁ hs hfinishes).2.1 _ v₂ r₂ _ hrun₂ hr₂ hp₂
    exact ⟨v₁, v₂, r₁, r₂, hleft, hr₂, hp₂, hsent.mpr (of_decide_eq_true hall)⟩

/-- Whatever is left when the answer comes is sent before the last frame. -/
def DrainsAll : Prop :=
  ∀ g as v, Run relayStep (fun _ _ => True) (startRelays g) as v →
    ∀ env a v₁ n ref r r₁, relayStep v (env, a) = some v₁ → Finishes v v₁ n ref r r₁ →
      ∀ bs v₂ r₂ outcome, Run relayStep (Undisturbed n) v₁ bs v₂ → v₂.relays n = some r₂ →
        r₂.point = .closing outcome → r₂.sent = r₁.sent ++ pending v₁.world ref r₁

theorem stop_undelivered : ¬ DrainsAll := by
  intro h
  obtain ⟨v, v₁, v₂, r, r₁, r₂, hrun, hs, hfinishes, hrun₂, hr₂, hp₂, hbefore, hleft, hsent, -⟩ :=
    busy_drain
  have hmap := congrArg (List.map isStop)
    (h {} _ v hrun _ _ v₁ 0 0 r r₁ hs hfinishes _ v₂ r₂ _ hrun₂ hr₂ hp₂)
  rw [List.map_append, hsent, hbefore, hleft] at hmap
  cases hmap

end HermesRealtime.RelayDrain
