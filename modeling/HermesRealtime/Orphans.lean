import HermesRealtime.Relay
import HermesRealtime.StartupGuard

/-!
What can still end an active session. While its browser is waited for that is the startup
deadline, and once it is being torn down the coordinator; but while the page is live it is the
control relay alone, and a relay that returns then leaves a session that nothing ends: the launch
token has been used, so no other relay can attach.
-/

namespace HermesRealtime.Orphans

open Values Text Protocol Phases Timing Tokens Teardown Controller Operations SessionRuns Relay
  Lifecycle Bookkeeping CriticalSections Changes TeardownStart StartupGuard Runs

variable {w w' : World} {v v' : RelayWorld} {env : Env} {k : Smooth}
  {c c' : VoiceSessionController} {ref : ℕ}

/-! ### What a session goes live by -/

/-- Who is live now was so before. -/
def KeepsLive (c c' : VoiceSessionController) : Prop :=
  ∀ ref, c'.activeSession = some ref → (c'.heap ref).state.phase = .live →
    c.activeSession = some ref ∧ (c.heap ref).state.phase = .live

lemma KeepsLive.refl (c : VoiceSessionController) : KeepsLive c c := fun _ hr hp => ⟨hr, hp⟩

lemma KeepsLive.trans {c₁ c₂ c₃ : VoiceSessionController} (h : KeepsLive c₁ c₂)
    (h' : KeepsLive c₂ c₃) : KeepsLive c₁ c₃ := by
  intro ref hactive hlive
  obtain ⟨hactive₂, hlive₂⟩ := h' ref hactive hlive
  exact h ref hactive₂ hlive₂

lemma KeepsLive.update {s' : WakeSession} (hsame : SameTables c c')
    (hheap : c'.heap = Function.update c.heap ref s')
    (hs : s'.state.phase = .live → (c.heap ref).state.phase = .live) : KeepsLive c c' := by
  intro r hactive hlive
  obtain ⟨hold, ⟨rfl, hrecord⟩ | hrecord⟩ := active_of_update hsame hheap hactive
  · exact ⟨hold, hs (hrecord ▸ hlive)⟩
  · exact ⟨hold, hrecord ▸ hlive⟩

lemma effect_keepsLive (hk : k.silent) (h : Effect k c c') : KeepsLive c c' := by
  intro r hactive hlive
  have hrecord := h.activeRecord hactive
  generalize c'.heap r = s' at hlive hrecord
  cases hrecord with
  | same hold hs => exact ⟨hold, hs ▸ hlive⟩
  | touched hold htouch =>
    cases htouch with
    | observed | handleTaken | acknowledged | moved => exact ⟨hold, hlive⟩
  | moved hold hmove =>
    cases hmove with
    | connected state hstate => simp [(SessionState.transition_ok hstate).1] at hlive
    | wentLive state hstate hpage => exact ⟨hold, by_contra fun h => hpage h hk⟩
    | raised state stopReason hstate => simp [(SessionState.transition_ok hstate).1] at hlive
    | begunAgain state trace request hstate =>
      simp [begunSession, (SessionState.transition_ok hstate).1] at hlive
  | opened _ _ _ _ _ hphase hs => simp [hs, openedSession, newSession, hphase] at hlive
  | openRaised _ _ _ hphase _ hs => simp [hs, newSession, hphase] at hlive

lemma effects_keepsLive (hk : k.silent) (h : Effects k c c') : KeepsLive c c' := by
  induction h with
  | refl => exact .refl c
  | tail _ heffect ih => exact ih.trans (effect_keepsLive hk heffect)

lemma begun_keepsLive {request : TeardownRequest} (h : Begun c ref request c') :
    KeepsLive c c' := by
  obtain ⟨state, trace, hactive, hsame, hstate, hheap⟩ := h
  exact .update hsame hheap (by simp [begunSession, (SessionState.transition_ok hstate).1])

/-- No session goes live in a step in which no page says so. -/
lemma change_keepsLive (hk : k.silent) (h : Change k w w') :
    KeepsLive w.controller w'.controller := by
  cases h with
  | internal heffects => exact effects_keepsLive hk heffects
  | fired n r d href hd harmed hfree hcontroller =>
    rw [hcontroller]
    exact .update (fired_record w.controller r _).1 rfl fun h => h
  | requested r request byDeadline c₁ hbegun heffects =>
    exact (begun_keepsLive hbegun).trans (effects_keepsLive hk heffects)
  | pageStarted r hactive heffects => exact effects_keepsLive hk heffects
  | launched sessionId returned hidle heffect => exact effect_keepsLive hk heffect
  | delivered n r shield answers run hn hrun hcontroller => rw [hcontroller]; exact .refl _
  | answered sessionId hlast hcontroller => rw [hcontroller]; exact .refl _

/-! ### The queue of the active session -/

def Queued (c : VoiceSessionController) : Prop :=
  ∀ ref, c.activeSession = some ref → c.outboundMessages (c.heap ref).sessionId ≠ none

lemma Queued.effect (hq : Queued c) (hg : Good c) (hk : k.opening) (h : Effect k c c') :
    Queued c' := by
  have hkept := hg.persists_effect h
  have hsame (hsame : SameTables c c') : Queued c' := by
    intro r hactive
    rw [hsame.active] at hactive
    rw [hsame.outbound, hkept.id r (hg.active r hactive).1]
    exact hq r hactive
  have hidle (hidle : c'.activeSession = none) : Queued c' := by
    intro r hr
    simp [hidle] at hr
  cases h with
  | tables htables => exact hsame htables
  | touched _ _ _ htables => exact hsame htables
  | moved _ _ _ htables => exact hsame htables
  | opened sessionId token state seconds handle hphase ho hactive _ _ _ _ houtbound =>
    intro r hr
    obtain rfl : c.created = r := by simpa [hactive] using hr
    rw [ho.new, ho.id, houtbound, Function.update_self]
    simp
  | openRaised _ _ _ _ hraises => exact absurd hk hraises
  | launchFailed _ _ _ _ _ hactive => exact hidle hactive
  | launchFailedRaised _ _ _ _ _ _ hactive => exact hidle hactive
  | closed _ _ _ hclosing => exact hidle hclosing.idle
  | closedRaised _ _ _ _ hclosing => exact hidle hclosing.idle

lemma Queued.effects (hq : Queued c) (hg : Good c) (hk : k.opening) (h : Effects k c c') :
    Queued c' := by
  refine (h.invariant (I := fun c => Good c ∧ Queued c) ⟨hg, hq⟩ ?_).2
  exact fun c c' hc heffect => ⟨hc.1.effect heffect, hc.2.effect hc.1 hk heffect⟩

/-- The queue of the active session stays while the record is rewritten. -/
lemma Queued.records {s' : WakeSession} (hq : Queued c) (hsame : SameTables c c')
    (hheap : c'.heap = Function.update c.heap ref s')
    (hid : s'.sessionId = (c.heap ref).sessionId) : Queued c' := by
  intro r hactive
  obtain ⟨hold, ⟨rfl, hrecord⟩ | hrecord⟩ := active_of_update hsame hheap hactive
  · rw [hrecord, hid, hsame.outbound]
    exact hq ref hold
  · rw [hrecord, hsame.outbound]
    exact hq r hold

lemma queued_change (hq : Queued w.controller) (hg : Good w.controller) (hk : k.opening)
    (h : Change k w w') : Queued w'.controller := by
  cases h with
  | internal heffects => exact hq.effects hg hk heffects
  | fired n r d href hd harmed hfree hcontroller =>
    rw [hcontroller]
    exact hq.records (fired_record w.controller r _).1 rfl rfl
  | requested r request byDeadline c₁ hbegun heffects =>
    refine Queued.effects ?_ (hg.begun hbegun) hk heffects
    obtain ⟨state, trace, hactive, hsame, hstate, hheap⟩ := hbegun
    exact hq.records hsame hheap rfl
  | pageStarted r hactive heffects => exact hq.effects hg hk heffects
  | launched sessionId returned hidle heffect => exact hq.effect hg hk heffect
  | delivered n r shield answers run hn hrun hcontroller => rwa [hcontroller]
  | answered sessionId hlast hcontroller => rwa [hcontroller]

/-! ### What the relay is told of a live session -/

/-- The controller takes the message: it is one a live session can get, addressed to it, and
neither the observer nor the trace refuses it. That a teardown begins is another matter. -/
def Accepts (env : Env) (c : VoiceSessionController) (s : WakeSession) :
    Except PyError LoopbackMessage → Prop
  | .ok (.pageStarted sessionId) => sessionId = s.sessionId ∧
      (c.lastNotifiedStatus = some .live ∨ env.observerRaises .live = false)
  | .ok (.timing message) => message.sessionId = s.sessionId ∧
      validJsonFields (sanitizeTimingData env.platform message.data) = true ∧
      ∃ ns, message.monotonicMs.mulTrunc 1000000 = some ns ∧ s.trace.Admits ns
  | .ok (.stop sessionId _) => sessionId = s.sessionId
  | .ok (.teardownComplete sessionId) => sessionId = s.sessionId
  | _ => False

/-- The observer may be told of a phase that it was told of last. -/
lemma notify_of_lets (env : Env) {phase : SessionPhase} (hactive : c.activeSession = some ref)
    (hphase : (c.heap ref).state.phase = phase)
    (hlets : c.lastNotifiedStatus = some (statusOf phase) ∨
      env.observerRaises (statusOf phase) = false) : (notifyStatus env c).2 = .ok () := by
  rw [notifyStatus_apply, status_of_active hactive, hphase]
  refine if_neg ?_
  rintro ⟨hlast, hraises⟩
  rcases hlets with h | h
  · exact hlast h
  · simp [hraises] at h

/-- A session may say that it is live, also again. -/
lemma transition_live {s : SessionState}
    (h : s.phase = .live ∨ s.phase = .launching ∨ s.phase = .connecting) :
    ∃ t, s.transition .live = .ok t := by
  rcases h with h | h | h
  · rcases ht : s.transitionTo .live with e | t
    · exact ⟨s, by simp [SessionState.transition, ht, h]⟩
    · exact ⟨t, by simp [SessionState.transition, ht]⟩
  · exact SessionState.transition_of_mem (by rw [h]; decide)
  · exact SessionState.transition_of_mem (by rw [h]; decide)

/-- **A message that a live session accepts keeps the relay**, or is the end of the session. -/
lemma reply_of_accepted (hg : Good c) (hactive : c.activeSession = some ref)
    (decoded : Except PyError LoopbackMessage) (haccepts : Accepts env c (c.heap ref) decoded)
    (hlive : (c.heap ref).state.phase = .live ∨
      decoded = .ok (.pageStarted (c.heap ref).sessionId) ∧
        ((c.heap ref).state.phase = .launching ∨ (c.heap ref).state.phase = .connecting))
    (hlets : (∃ s reason, decoded = .ok (.stop s reason)) ∨
      (∃ s, decoded = .ok (.teardownComplete s)) → Lets env c (c.heap ref)) :
    (processControlMessage env (c.heap ref).sessionId decoded c).2 = .ok .nothing ∨
      ∃ request, (processControlMessage env (c.heap ref).sessionId decoded c).2 =
        .ok (.awaits ref request) := by
  rcases decoded with e | message
  · exact haccepts.elim
  cases message with
  | pageStarted s =>
    obtain ⟨rfl, hobserver⟩ := haccepts
    refine .inl ?_
    rw [control_active hactive rfl (by simp), handleMessage]
    obtain ⟨state, hstate⟩ := transition_live (hlive.imp_right And.right)
    have hmove : transition ref .live c = (setSession c ref { c.heap ref with state }, .ok ()) := by
      rw [transition_apply, hstate]
    rw [Op.bind_of_ok hmove, Op.bind_of_ok (modifySession_apply _ _ _), Op.bind_apply]
    set live := setSession (setSession c ref { c.heap ref with state }) ref
      { (setSession c ref { c.heap ref with state }).heap ref with startupDeadline := none }
      with hset
    have hphase : (live.heap ref).state.phase = .live := by
      simp [hset, (SessionState.transition_ok hstate).1]
    have hnotify := notify_of_lets env (c := live) hactive hphase hobserver
    rcases hrun : notifyStatus env live with ⟨c', e | u⟩ <;> rw [hrun] at hnotify
    · simp at hnotify
    · rfl
  | timing message =>
    obtain ⟨hid, hdata, ns, hns, hadmits⟩ := haccepts
    refine .inl ?_
    rw [control_active hactive (by rw [← hid]; rfl) (by simp), handleMessage, hns]
    have hrecord : ∃ trace, (c.heap ref).trace.record env.clock message.name.value .browser
        (sanitizeTimingData env.platform message.data) (some ns) = .ok trace := by
      simp [SessionTrace.record, hadmits, hdata]
    obtain ⟨trace, htrace⟩ := hrecord
    simp [Op.bind_apply, recordTrace_apply, htrace]
  | stop s reason =>
    obtain rfl := haccepts
    refine .inl ?_
    rw [control_active hactive rfl (by simp), handleMessage, Op.get_bind]
    obtain ⟨c', hbegin, -⟩ := (begin_iff env hg hactive _).mpr (hlets (.inl ⟨_, reason, rfl⟩))
    rw [Op.bind_of_ok hbegin]
    rfl
  | teardownComplete s =>
    obtain rfl := haccepts
    refine .inr ?_
    rw [control_active hactive rfl (by simp), handleMessage, Op.get_bind]
    obtain ⟨c', hbegin, -⟩ := (begin_iff env hg hactive _).mpr (hlets (.inr ⟨_, rfl⟩))
    rw [Op.bind_of_ok hbegin]
    exact ⟨_, rfl⟩
  | _ => exact haccepts.elim

/-! ### The world under the relays -/

/-- What holds of the controller and its callers. -/
structure Intact (w : World) : Prop where
  sound : Sound w
  unwedged : Unwedged w.controller
  guarded : Guarded w
  queued : Queued w.controller

/-- What a step keeps, when the observer lets a session open and a teardown begin. -/
lemma intact_step {x : Env × Action} (hw : Intact w) (hopens : (smooth w x).opening)
    (hbegins : LetsBegin w x) (hs : step w x = some w') :
    Intact w' ∧ Persists w.controller w'.controller := by
  have hgood := hw.sound.good
  have hchange := step_change hgood hw.sound.waits hs
  exact ⟨⟨hw.sound.change hchange, unwedged_change hw.unwedged hbegins hchange,
    guarded_change hw.guarded hgood hopens hchange, queued_change hw.queued hgood hopens hchange⟩,
    (change_keeps hchange hgood).2⟩

lemma keepsLive_step {x : Env × Action} (hw : Intact w) (hsilent : (smooth w x).silent)
    (hs : step w x = some w') : KeepsLive w.controller w'.controller :=
  change_keepsLive hsilent (step_change hw.sound.good hw.sound.waits hs)

/-- The world is as it was, or has taken a step in which no page speaks. -/
structure Carried (w w' : World) : Prop where
  intact : Intact w'
  persists : Persists w.controller w'.controller
  live : KeepsLive w.controller w'.controller

lemma Carried.refl (hw : Intact w) : Carried w w := ⟨hw, .refl _, .refl _⟩

/-- An action that opens no session, requests no teardown and brings no message. -/
lemma carried_of_step {a : Action} (hw : Intact w) (hs : step w (env, a) = some w')
    (hactivate : ∀ sessionId token now launched, a ≠ .activate sessionId token now launched)
    (hasks : asks w a = none) (hcontrol : ∀ n sessionId decoded, a ≠ .control n sessionId decoded) :
    Carried w w' := by
  have hopens : (smooth w (env, a)).opening := fun s t n l h => absurd h (hactivate s t n l)
  have hbegins : LetsBegin w (env, a) := fun ref _ h => by simp [hasks] at h
  have hsilent : (smooth w (env, a)).silent := fun n ref _ _ => hcontrol n _ _
  obtain ⟨hw', hkept⟩ := intact_step hw hopens hbegins hs
  exact ⟨hw', hkept, keepsLive_step hw hsilent hs⟩

/-! ### Relays -/

/-- The relay serves the session that is live. -/
def ServesLive (v : RelayWorld) (r : ControlRelay) : Prop :=
  ∃ ref, v.world.controller.activeSession = some ref ∧
    (v.world.controller.heap ref).sessionId = r.sessionId ∧
    (v.world.controller.heap ref).state.phase = .live

/-- The relay has been told that its session ends. -/
def Ending (r : ControlRelay) : Prop :=
  match r.point with
  | .processing _ | .draining _ | .closing _ => True
  | _ => ∃ e, r.outbound = .done (.error e)

/-- The relay's session exists, and has ended if the relay has been told so. -/
def Served (c : VoiceSessionController) (r : ControlRelay) : Prop :=
  ∃ ref < c.created, (c.heap ref).sessionId = r.sessionId ∧ (Ending r → Over (c.heap ref))

/-- The session that is live is served by a relay that waits for messages. -/
def Relayed (v : RelayWorld) : Prop :=
  ∀ ref, v.world.controller.activeSession = some ref →
    (v.world.controller.heap ref).state.phase = .live → ∃ n r, v.relays n = some r ∧
      r.sessionId = (v.world.controller.heap ref).sessionId ∧ r.point = .waiting

structure Attendance (v : RelayWorld) : Prop where
  intact : Intact v.world
  served : ∀ n r, v.relays n = some r → Served v.world.controller r
  relayed : Relayed v

lemma Served.keep {r : ControlRelay} (h : Served c r) (hkept : Persists c c') : Served c' r := by
  obtain ⟨ref, href, hid, hover⟩ := h
  exact ⟨ref, lt_of_lt_of_le href hkept.created, (hkept.id ref href).trans hid,
    fun hending => hkept.ended ref href (hover hending)⟩

/-- A session that has ended is not live. -/
lemma not_live_of_over {s : WakeSession} (h : Over s) : s.state.phase ≠ .live := by
  rcases h with h | h | h <;> rw [h] <;> simp

lemma not_servesLive_of_ending (hv : Attendance v) {n : ℕ} {r : ControlRelay}
    (hn : v.relays n = some r) (hending : Ending r) : ¬ ServesLive v r := by
  rintro ⟨ref, hactive, hid, hlive⟩
  obtain ⟨ref', href', hid', hover⟩ := hv.served n r hn
  have hgood := hv.intact.sound.good
  obtain rfl := hgood.ids ref (hgood.active ref hactive).1 ref' href' (hid.trans hid'.symm)
  exact not_live_of_over (hover hending) hlive

/-- One relay moves, and the world with it or not. A relay of the live session goes on waiting. -/
lemma Attendance.move (hv : Attendance v) (hw : Carried v.world w') {n : ℕ} {r r' : ControlRelay}
    (hn : v.relays n = some r) (hid : r'.sessionId = r.sessionId)
    (hending : Ending r' → Ending r ∨ ∃ ref < w'.controller.created,
      (w'.controller.heap ref).sessionId = r.sessionId ∧ Over (w'.controller.heap ref))
    (hstays : ServesLive v r → r.point = .waiting → r'.point = .waiting) :
    Attendance ((v.withWorld w').setRelay n r') := by
  refine ⟨hw.intact, fun m q hm => ?_, fun ref hactive hlive => ?_⟩
  · change Function.update v.relays n (some r') m = some q at hm
    by_cases hmn : m = n
    · subst hmn
      obtain rfl : r' = q := by simpa using hm
      obtain ⟨ref, href, hown, hover⟩ := (hv.served m r hn).keep hw.persists
      refine ⟨ref, href, hown.trans hid.symm, fun h => ?_⟩
      rcases hending h with h | ⟨ref', href', hown', hover'⟩
      · exact hover h
      · have hgood := hw.intact.sound.good
        rwa [hgood.ids ref href ref' href' (hown.trans hown'.symm)]
    · rw [Function.update_of_ne hmn] at hm
      exact (hv.served m q hm).keep hw.persists
  · obtain ⟨hactive₀, hlive₀⟩ := hw.live ref hactive hlive
    obtain ⟨m, q, hm, hserves, hwaiting⟩ := hv.relayed ref hactive₀ hlive₀
    have hgood := hv.intact.sound.good
    have hkept : (w'.controller.heap ref).sessionId = (v.world.controller.heap ref).sessionId :=
      hw.persists.id ref (hgood.active ref hactive₀).1
    by_cases hmn : m = n
    · subst hmn
      obtain rfl : r = q := by simpa [hn] using hm
      exact ⟨m, r', Function.update_self .., hid.trans (hserves.trans hkept.symm),
        hstays ⟨ref, hactive₀, hserves.symm, hlive₀⟩ hwaiting⟩
    · exact ⟨m, q, (Function.update_of_ne hmn ..).trans hm, hserves.trans hkept.symm, hwaiting⟩

/-- The world moves, and no relay. -/
lemma Attendance.carry (hv : Attendance v) (hw : Carried v.world w') :
    Attendance (v.withWorld w') := by
  refine ⟨hw.intact, fun m q hm => (hv.served m q hm).keep hw.persists, fun ref hactive hlive => ?_⟩
  obtain ⟨hactive₀, hlive₀⟩ := hw.live ref hactive hlive
  obtain ⟨m, q, hm, hserves, hwaiting⟩ := hv.relayed ref hactive₀ hlive₀
  refine ⟨m, q, hm, hserves.trans (hw.persists.id ref ?_).symm, hwaiting⟩
  exact (hv.intact.sound.good.active ref hactive₀).1

/-- No relay returns while its session is live, and a session that opens or closes is not cut
short: the observer lets sessions open, requests for a teardown meet an observer and a trace that
let it begin, and the relay of a live session is not lost, cancelled, refused a frame or sent a
message that is not accepted. -/
def Attended (v : RelayWorld) (x : Env × RelayAction) : Prop :=
  match x.2 with
  | .elsewhere a => (smooth v.world (x.1, a)).opening ∧ LetsBegin v.world (x.1, a)
  | .receive n k decoded => ∀ r, v.relays n = some r →
      LetsBegin v.world (x.1, .control k r.sessionId decoded) ∧
      ∀ ref, v.world.controller.activeSession = some ref →
        (v.world.controller.heap ref).sessionId = r.sessionId →
        ((v.world.controller.heap ref).state.phase = .live ∨
          decoded = .ok (.pageStarted (v.world.controller.heap ref).sessionId) ∧
            ((v.world.controller.heap ref).state.phase = .launching ∨
              (v.world.controller.heap ref).state.phase = .connecting)) →
        Accepts x.1 v.world.controller (v.world.controller.heap ref) decoded
  | .disconnect n => ∀ r, v.relays n = some r → ¬ ServesLive v r
  | .cancel n => ∀ r, v.relays n = some r → ¬ ServesLive v r
  | .forward n arrives => ∀ r, v.relays n = some r → ServesLive v r → arrives = true
  | _ => True

/-- A session that somebody waits for the coordinator of has ended. -/
lemma over_of_awaiting (hw : Sound w) {n : ℕ} {shield : Bool} {answers : Option String}
    (hn : w.waiters n = some (.awaiting ref shield answers)) :
    ref < w.controller.created ∧ Over (w.controller.heap ref) := by
  obtain ⟨href, htask, -⟩ := hw.waits n ref shield answers hn
  exact ⟨href, (hw.good.started ref href htask).1⟩

/-- The relay knows from its answer that the session ends. -/
lemma over_of_processed (hv : Attendance v) {k : ℕ} {r : ControlRelay}
    {decoded : Except PyError LoopbackMessage} (hwaiting : r.point = .waiting)
    (hs : step v.world (env, .control k r.sessionId decoded) = some w')
    (hw' : Intact w') (hkept : Persists v.world.controller w'.controller)
    (hending : Ending (r.processed k
      (processControlMessage env r.sessionId decoded v.world.controller).2)) :
    Ending r ∨ ∃ ref < w'.controller.created,
      (w'.controller.heap ref).sessionId = r.sessionId ∧ Over (w'.controller.heap ref) := by
  have hgood := hv.intact.sound.good
  rw [step, Option.ite_none_left_eq_some, Option.some_inj] at hs
  obtain ⟨-, rfl⟩ := hs
  have houtcome := control_outcome (k := ⟨False, False, False, False, False⟩) env hgood r.sessionId
    decoded (fun h => h.elim) fun _ _ _ _ _ => not_false
  rw [afterControl] at hw' hkept ⊢
  generalize processControlMessage env r.sessionId decoded v.world.controller = outcome at *
  cases houtcome with
  | handled | pageStarted | stopped => exact .inl hending
  | raised c' e =>
    refine .inl ?_
    simpa [Ending, ControlRelay.processed, ControlRelay.leave, hwaiting] using hending
  | awaits c' c₁ ref request hbegun heffect href htask hid =>
    have hk : Function.update v.world.waiters k (some (.awaiting ref true (some r.sessionId))) k =
        some (.awaiting ref true (some r.sessionId)) := Function.update_self ..
    obtain ⟨href', hover⟩ := over_of_awaiting hw'.sound hk
    exact .inr ⟨ref, href', hid, hover⟩
  | closed hlast =>
    obtain ⟨ref, href, hid, run, hrun, -⟩ := hgood.lastClosed _ hlast
    exact .inr ⟨ref, href, hid, (hgood.started ref href (by simp [hrun])).1⟩

/-- A session whose coordinator the controller waits for after a message has ended. -/
lemma over_of_awaits (hw' : Sound w') {k : ℕ} {sessionId : String}
    {decoded : Except PyError LoopbackMessage} {request : TeardownRequest}
    (hreply : (processControlMessage env sessionId decoded w.controller).2 =
      .ok (.awaits ref request))
    (hs : step w (env, .control k sessionId decoded) = some w') :
        Over (w'.controller.heap ref) := by
  rw [step, Option.ite_none_left_eq_some, Option.some_inj] at hs
  obtain ⟨-, rfl⟩ := hs
  rw [afterControl] at hw' ⊢
  generalize processControlMessage env sessionId decoded w.controller = outcome at *
  obtain ⟨c, result⟩ := outcome
  obtain rfl : result = .ok (.awaits ref request) := hreply
  have hk : Function.update w.waiters k (some (.awaiting ref true (some sessionId))) k =
      some (.awaiting ref true (some sessionId)) := Function.update_self ..
  exact (over_of_awaiting hw' hk).2

/-- A page that says it has started leaves the active session active. -/
lemma control_active_same {n : ℕ} (hactive : w.controller.activeSession = some ref)
    (hs : step w (env, .control n (w.controller.heap ref).sessionId
      (.ok (.pageStarted (w.controller.heap ref).sessionId))) = some w') :
    w'.controller.activeSession = w.controller.activeSession := by
  rw [step, Option.ite_none_left_eq_some, Option.some_inj] at hs
  obtain ⟨-, rfl⟩ := hs
  have hsame : (processControlMessage env (w.controller.heap ref).sessionId
      (.ok (.pageStarted (w.controller.heap ref).sessionId)) w.controller).1.activeSession =
      w.controller.activeSession := by
    rw [control_active hactive rfl (by simp), handleMessage, Op.bind_apply, transition_apply]
    rcases (w.controller.heap ref).state.transition .live with e | state
    · rfl
    · simp only [Op.bind_apply, modifySession_apply, notifyStatus_apply]
      split_ifs <;> rfl
  unfold afterControl
  generalize processControlMessage env (w.controller.heap ref).sessionId
    (.ok (.pageStarted (w.controller.heap ref).sessionId)) w.controller = outcome at hsame ⊢
  obtain ⟨c, e | reply⟩ := outcome
  · exact hsame
  · cases reply <;> exact hsame

/-- A session that is live after a message was live before, or its page has just said so. -/
lemma live_after_control (hw : Intact w) {k : ℕ} {sessionId : String}
    {decoded : Except PyError LoopbackMessage}
    (hs : step w (env, .control k sessionId decoded) = some w')
    (hactive : w'.controller.activeSession = some ref)
    (hlive : (w'.controller.heap ref).state.phase = .live) :
    w.controller.activeSession = some ref ∧ ((w.controller.heap ref).state.phase = .live ∨
      (w.controller.heap ref).sessionId = sessionId ∧
        decoded = .ok (.pageStarted (w.controller.heap ref).sessionId) ∧
        ((w.controller.heap ref).state.phase = .launching ∨
          (w.controller.heap ref).state.phase = .connecting)) := by
  by_cases hsilent : (smooth w (env, .control k sessionId decoded)).silent
  · obtain ⟨hactive₀, hlive₀⟩ := keepsLive_step hw hsilent hs ref hactive hlive
    exact ⟨hactive₀, .inl hlive₀⟩
  · -- the page of the session that was active speaks, and it is the same session
    simp only [smooth, not_forall, not_not] at hsilent
    obtain ⟨n, old, hold, hphase, hspeaks⟩ := hsilent
    simp only [Action.control.injEq] at hspeaks
    obtain ⟨rfl, rfl, rfl⟩ := hspeaks
    have hsame := control_active_same hold hs
    obtain rfl : old = ref := by simpa [hsame, hold] using hactive
    refine ⟨hold, .inr ⟨rfl, rfl, ?_⟩⟩
    have hgood := hw.sound.good
    have hkept := (change_keeps (step_change hgood hw.sound.waits hs) hgood).2
    obtain ⟨href, hlive₀ | hlive₀ | hlive₀ | hlive₀, -⟩ := hgood.active old hold
    · exact .inl hlive₀
    · exact .inr hlive₀
    · exact absurd hlive₀ hphase
    · exact absurd hlive (not_live_of_over (hkept.ended old href (.inl hlive₀)))

/-- A message keeps the session attended, if the relay of a live session accepts it. -/
lemma receive_attendance (hv : Attendance v) {n k : ℕ} {r : ControlRelay}
    {decoded : Except PyError LoopbackMessage} (hn : v.relays n = some r)
    (hwaiting : r.point = .waiting) (hc : Attended v (env, .receive n k decoded))
    (hs : step v.world (env, .control k r.sessionId decoded) = some w') :
    Attendance ((v.withWorld w').setRelay n
      (r.processed k (processControlMessage env r.sessionId decoded v.world.controller).2)) := by
  obtain ⟨hbegins, haccepts⟩ := hc r hn
  have hopens : (smooth v.world (env, .control k r.sessionId decoded)).opening :=
    fun s t m l h => by simp at h
  obtain ⟨hw', hkept⟩ := intact_step hv.intact hopens hbegins hs
  have hgood := hv.intact.sound.good
  set r' := r.processed k (processControlMessage env r.sessionId decoded v.world.controller).2
    with hr'
  have hid : r'.sessionId = r.sessionId := by
    rw [hr']
    rcases (processControlMessage env r.sessionId decoded v.world.controller).2 with e | reply
    · rfl
    · cases reply <;> rfl
  refine ⟨hw', fun m q hm => ?_, fun ref hactive hlive => ?_⟩
  · change Function.update v.relays n (some r') m = some q at hm
    by_cases hmn : m = n
    · subst hmn
      obtain rfl : r' = q := by simpa using hm
      obtain ⟨ref, href, hown, hover⟩ := (hv.served m r hn).keep hkept
      refine ⟨ref, href, hown.trans hid.symm, fun h => ?_⟩
      rcases over_of_processed hv hwaiting hs hw' hkept h with h | ⟨ref', href', hown', hover'⟩
      · exact hover h
      · rwa [hw'.sound.good.ids ref href ref' href' (hown.trans hown'.symm)]
    · rw [Function.update_of_ne hmn] at hm
      exact (hv.served m q hm).keep hkept
  · obtain ⟨hactive₀, hlive₀⟩ := live_after_control hv.intact hs hactive hlive
    have hown : (w'.controller.heap ref).sessionId = (v.world.controller.heap ref).sessionId :=
      hkept.id ref (hgood.active ref hactive₀).1
    -- the relay that got the message goes on waiting, if it is the relay of the session
    have hgoes (hserves : (v.world.controller.heap ref).sessionId = r.sessionId)
        (hphase : (v.world.controller.heap ref).state.phase = .live ∨
          decoded = .ok (.pageStarted (v.world.controller.heap ref).sessionId) ∧
            ((v.world.controller.heap ref).state.phase = .launching ∨
              (v.world.controller.heap ref).state.phase = .connecting)) : r' = r := by
      have haccepted := haccepts ref hactive₀ hserves hphase
      have hlets : (∃ s reason, decoded = .ok (.stop s reason)) ∨
          (∃ s, decoded = .ok (.teardownComplete s)) →
            Lets env v.world.controller (v.world.controller.heap ref) := by
        intro hends
        refine hbegins ref hactive₀ ?_
        rcases hends with ⟨s, reason, rfl⟩ | ⟨s, rfl⟩ <;>
        · obtain rfl := haccepted
          simp [asks, hserves]
      have hreply := reply_of_accepted hgood hactive₀ decoded haccepted hphase hlets
      rw [hserves] at hreply
      rcases hreply with hreply | ⟨request, hreply⟩
      · rw [hr', hreply]
        rfl
      · exact absurd hlive (not_live_of_over (over_of_awaits hw'.sound hreply hs))
    rcases hlive₀ with hlive₀ | ⟨hserves, hstarts⟩
    · obtain ⟨m, q, hm, hq, hpoint⟩ := hv.relayed ref hactive₀ hlive₀
      by_cases hmn : m = n
      · subst hmn
        obtain rfl : r = q := by simpa [hn] using hm
        have hkeeps := hgoes hq.symm (.inl hlive₀)
        exact ⟨m, r', Function.update_self .., hid.trans (hq.trans hown.symm),
          by rw [hkeeps, hpoint]⟩
      · exact ⟨m, q, (Function.update_of_ne hmn ..).trans hm, hq.trans hown.symm, hpoint⟩
    · have hkeeps := hgoes hserves (.inr hstarts)
      exact ⟨n, r', Function.update_self .., hid.trans (hserves.symm.trans hown.symm),
        by rw [hkeeps, hwaiting]⟩

/-- A relay that does not wait for messages any more leaves no live session behind. -/
lemma moved_of_ending (hv : Attendance v) {n : ℕ} {r r' : ControlRelay} (hw : Carried v.world w')
    (hn : v.relays n = some r) (hending : Ending r) (hid : r'.sessionId = r.sessionId) :
    Attendance ((v.withWorld w').setRelay n r') :=
  hv.move hw hn hid (fun _ => .inl hending) fun hserves =>
    absurd hserves (not_servesLive_of_ending hv hn hending)

/-- A token is consumed for the active session only. -/
lemma active_of_consumed {token sessionId : String} {now : ℚ}
    (h : (consumeActivationToken token now c).2 = .ok (some sessionId)) :
    ∃ ref, c.activeSession = some ref ∧ (c.heap ref).sessionId = sessionId := by
  simp only [consumeActivationToken, Op.get_bind, Op.modify_bind] at h
  rcases hconsumed : (c.tokenStore.consume token now).2 with _ | id
  · simp [hconsumed] at h
  · rcases hactive : c.activeSession with _ | ref
    · simp [hconsumed, hactive] at h
    · simp only [hconsumed, hactive, Op.ite_apply] at h
      split_ifs at h with hid
      · exact ⟨ref, rfl, by simpa [hid] using h⟩
      · simp at h

/-- A relay attaches. -/
lemma Attendance.attach (hv : Attendance v) (hw : Carried v.world w') {n : ℕ} {r : ControlRelay}
    (hfree : v.relays n = none) (hserved : Served v.world.controller r) :
    Attendance ((v.withWorld w').setRelay n r) := by
  have hcarried := hv.carry hw
  refine ⟨hw.intact, fun m q hm => ?_, fun ref hactive hlive => ?_⟩
  · change Function.update v.relays n (some r) m = some q at hm
    by_cases hmn : m = n
    · subst hmn
      obtain rfl : r = q := by simpa using hm
      exact hserved.keep hw.persists
    · rw [Function.update_of_ne hmn] at hm
      exact hcarried.served m q hm
  · obtain ⟨m, q, hm, hserves, hwaiting⟩ := hcarried.relayed ref hactive hlive
    have hmn : m ≠ n := by
      rintro rfl
      have hm' : v.relays m = some q := hm
      simp [hfree] at hm'
    exact ⟨m, q, (Function.update_of_ne hmn ..).trans hm, hserves, hwaiting⟩

/-- Who asks for the queue of the active session gets it. -/
lemma over_of_refused (hw : Intact w) {sessionId : String} {e : PyError}
    (href : ref < w.controller.created)
    (hid : (w.controller.heap ref).sessionId = sessionId)
    (h : (waitForOutboundMessage sessionId w.controller).2 = .error e) :
    Over (w.controller.heap ref) := by
  refine .inr (hw.sound.good.inactive ref href fun hactive => ?_)
  subst hid
  obtain ⟨queue, hqueue⟩ := Option.ne_none_iff_exists'.mp (hw.queued ref hactive)
  simp [waitForOutboundMessage, Op.bind_of_ok (requireActiveSession_of_active hactive), hqueue] at h

/-- **Every step keeps the sessions attended.** -/
theorem attendance_step {x : Env × RelayAction} (hv : Attendance v) (hc : Attended v x)
    (hs : relayStep v x = some v') : Attendance v' := by
  obtain ⟨env, a⟩ := x
  have hstill : Carried v.world v.world := .refl hv.intact
  have hleave {w : World} {n : ℕ} {r : ControlRelay} (hn : v.relays n = some r)
      (hno : ¬ ServesLive v r) (hw : Carried v.world w) :
      Attendance ((v.withWorld w).setRelay n r.leave) := by
    refine hv.move hw hn rfl (fun h => .inl ?_) fun hserves => absurd hserves hno
    have herror : ∃ e, r.outbound = .done (.error e) := h
    unfold Ending
    split <;> trivial
  cases relay_change hs with
  | elsewhere a w hown hw =>
    obtain ⟨hintact, hkept⟩ := intact_step hv.intact hc.1 hc.2 hw
    have hsilent : (smooth v.world (env, a)).silent := by
      rintro n ref - - rfl
      simp [ofRelay] at hown
    exact hv.carry ⟨hintact, hkept, keepsLive_step hv.intact hsilent hw⟩
  | refused n token now w hw =>
      exact hv.carry (carried_of_step hv.intact hw (by simp) rfl (by simp))
  | attached n token now sessionId w hfree hw hconsumed =>
    obtain ⟨ref, hactive, hid⟩ := active_of_consumed hconsumed
    refine hv.attach (carried_of_step hv.intact hw (by simp) rfl (by simp)) hfree
      ⟨ref, ?_, hid, fun h => ?_⟩
    · exact (hv.intact.sound.good.active ref hactive).1
    · simp [Ending] at h
  | moved n a action r r' w hn hmove hw =>
    have hid := hmove.sessionId
    cases hmove with
    | received k decoded hpoint => exact receive_attendance hv hn hpoint hc hw
    | disconnected =>
      obtain rfl := Option.some_inj.mp hw
      exact hleave hn (hc r hn) hstill
    | replied k ref shield answers run hpoint hk hrun =>
      have hs : step v.world (env, .deliver k) = some w := hw
      have hcarried := carried_of_step hv.intact hs (by simp) rfl (by simp)
      exact moved_of_ending hv hcarried hn (by simp [Ending, hpoint]) hid
    | asked queue hpoint hcreated hqueue =>
      obtain rfl := Option.some_inj.mp hw
      refine hv.move hstill hn rfl (fun h => .inl ?_) fun _ h => h
      unfold Ending at h ⊢
      split <;> simp_all
    | refused e hpoint hcreated he =>
      obtain rfl := Option.some_inj.mp hw
      refine hv.move hstill hn rfl (fun _ => .inr ?_) fun _ h => h
      obtain ⟨ref, href, hid, -⟩ := hv.served n r hn
      exact ⟨ref, href, hid, over_of_refused hv.intact href hid he⟩
    | got queue message hpoint hwaits hmessage =>
      have hs : step v.world (env, .get queue) = some w := hw
      have hcarried := carried_of_step hv.intact hs (by simp) rfl (by simp)
      refine hv.move hcarried hn rfl (fun h => .inl ?_) fun _ h => h
      unfold Ending at h ⊢
      split <;> simp_all
    | forwarded result arrives hpoint hdone =>
      obtain rfl := Option.some_inj.mp hw
      rcases result with e | message
      · exact moved_of_ending hv hstill hn (by simp [Ending, hpoint, hdone]) rfl
      · cases arrives with
        | true =>
          refine hv.move hstill hn rfl (fun h => ?_) fun _ h => h
          simp [Ending, ControlRelay.forward, hpoint] at h
        | false => exact hleave hn (fun hserves => by simpa using hc r hn hserves) hstill
    | drained outcome result arrives hpoint hdone =>
      obtain rfl := Option.some_inj.mp hw
      exact moved_of_ending hv hstill hn (by simp [Ending, hpoint]) hid
    | timedOut outcome hpoint =>
      obtain rfl := Option.some_inj.mp hw
      exact moved_of_ending hv hstill hn (by simp [Ending, hpoint]) rfl
    | closed outcome arrives hpoint =>
      obtain rfl := Option.some_inj.mp hw
      exact moved_of_ending hv hstill hn (by simp [Ending, hpoint]) rfl
    | cancelled k hpoint =>
      have hs : step v.world (env, .cancel k) = some w := hw
      have hcarried := carried_of_step hv.intact hs (by simp) rfl (by simp)
      exact hleave hn (hc r hn) hcarried
    | dropped =>
      obtain rfl := Option.some_inj.mp hw
      exact hleave hn (hc r hn) hstill

/-! ### Runs -/

/-- Something that can end the session is in place: its startup deadline is armed, or has fired and
is to be handled, or a relay for it is attached, or its teardown has been started. -/
def CanEnd (v : RelayWorld) (ref : ℕ) : Prop :=
  Armed (v.world.controller.heap ref) ∨ (∃ k, v.world.waiters k = some (.expiring ref)) ∨
    (∃ n r, v.relays n = some r ∧ r.sessionId = (v.world.controller.heap ref).sessionId ∧
      r.point ≠ .returned) ∨
    (v.world.controller.heap ref).teardown.task ≠ none

/-- The page connects, starts, and is lost; it comes back with the token it has. -/
def lostPage : List (Env × RelayAction) :=
  [(stillEnv, .elsewhere (.activate "voice-one-01" "token" 0 (some ⟨1⟩))),
   (stillEnv, .connect 0 "token" 1),
   (stillEnv, .receive 0 0 (.ok (.pageReady "voice-one-01"))),
   (stillEnv, .receive 0 0 (.ok (.pageStarted "voice-one-01"))),
   (stillEnv, .disconnect 0),
   (stillEnv, .connect 1 "token" 2)]

/-- A message that is processed without an answer leaves the relay as it was. -/
lemma receive_of_nothing {n k : ℕ} {r : ControlRelay} {decoded : Except PyError LoopbackMessage}
    (hn : v.relays n = some r) (hwaiting : r.point = .waiting) (hfree : v.world.waiters k = none)
    (hreply : (processControlMessage env r.sessionId decoded v.world.controller).2 = .ok .nothing) :
    relayStep v (env, .receive n k decoded) =
      some ((v.withWorld (afterControl env v.world k r.sessionId decoded)).setRelay n r) := by
  simp [relayStep, hn, hwaiting, step, hfree, hreply, ControlRelay.processed]

/-- A session whose control socket is lost while it is live is an orphan: its deadline has been
cancelled, its relay has returned and its token is used. -/
theorem orphaned_by_disconnect : ∃ v, Run relayStep (fun _ _ => True) (startRelays {}) lostPage v ∧
    v.world.controller.activeSession = some 0 ∧
    (v.world.controller.heap 0).state.phase = .live ∧ ¬ CanEnd v 0 := by
  obtain ⟨w₁, hw₁⟩ : ∃ w, w = afterActivate stillEnv (start {}) "voice-one-01" "token" 0
      (some ⟨1⟩) := ⟨_, rfl⟩
  obtain ⟨w₂, hw₂⟩ : ∃ w, w = w₁.withController
      (consumeActivationToken "token" 1 w₁.controller).1 := ⟨_, rfl⟩
  obtain ⟨w₃, hw₃⟩ : ∃ w, w = afterControl stillEnv w₂ 0 "voice-one-01"
      (.ok (.pageReady "voice-one-01")) := ⟨_, rfl⟩
  obtain ⟨w₄, hw₄⟩ : ∃ w, w = afterControl stillEnv w₃ 0 "voice-one-01"
      (.ok (.pageStarted "voice-one-01")) := ⟨_, rfl⟩
  obtain ⟨w₅, hw₅⟩ : ∃ w, w = w₄.withController
      (consumeActivationToken "token" 2 w₄.controller).1 := ⟨_, rfl⟩
  have hconsumed : (consumeActivationToken "token" 1 w₁.controller).2 =
      .ok (some "voice-one-01") := by rw [hw₁]; decide +kernel
  have hready : (processControlMessage stillEnv "voice-one-01" (.ok (.pageReady "voice-one-01"))
      w₂.controller).2 = .ok .nothing := by rw [hw₂, hw₁]; decide +kernel
  have hstarted : (processControlMessage stillEnv "voice-one-01" (.ok (.pageStarted "voice-one-01"))
      w₃.controller).2 = .ok .nothing := by rw [hw₃, hw₂, hw₁]; decide +kernel
  have hrefused : (consumeActivationToken "token" 2 w₄.controller).2 = .ok none := by
    rw [hw₄, hw₃, hw₂, hw₁]; decide +kernel
  have hfacts : (w₅.controller.activeSession, (w₅.controller.heap 0).state.phase,
      (w₅.controller.heap 0).startupDeadline, (w₅.controller.heap 0).teardown.task) =
      (some 0, .live, none, none) := by rw [hw₅, hw₄, hw₃, hw₂, hw₁]; decide +kernel
  simp only [Prod.mk.injEq] at hfacts
  obtain ⟨hactive, hlive, hdeadline, htask⟩ := hfacts
  -- nobody waits for anything
  have hfree₂ : w₂.waiters = fun _ => none := by
    rw [hw₂, hw₁]
    exact afterActivate_waiters _ _ _ _ _ _
  have hfree₃ : w₃.waiters = fun _ => none := by
    rw [hw₃, afterControl_waiters (by simp [hready]), hfree₂]
  have hfree₄ : w₄.waiters = fun _ => none := by
    rw [hw₄, afterControl_waiters (by simp [hstarted]), hfree₃]
  have hfree₅ : w₅.waiters = fun _ => none := by rw [hw₅]; exact hfree₄
  set r : ControlRelay := { sessionId := "voice-one-01" }
  set v₁ : RelayWorld := (startRelays {}).withWorld w₁ with hv₁
  set v₂ : RelayWorld := (v₁.withWorld w₂).setRelay 0 r with hv₂
  set v₃ : RelayWorld := (v₂.withWorld w₃).setRelay 0 r with hv₃
  set v₄ : RelayWorld := (v₃.withWorld w₄).setRelay 0 r with hv₄
  set v₅ : RelayWorld := (v₄.setRelay 0 r.leave).withWorld w₅ with hv₅
  have h₁ : relayStep (startRelays {})
      (stillEnv, .elsewhere (.activate "voice-one-01" "token" 0 (some ⟨1⟩))) = some v₁ := by
    rw [relayStep, if_neg (by simp [ofRelay]), step, if_pos (by decide), hv₁, hw₁]
    rfl
  have h₂ : relayStep v₁ (stillEnv, .connect 0 "token" 1) = some v₂ := by
    rw [relayStep, if_neg (by simp [hv₁, RelayWorld.withWorld, startRelays])]
    simp only [step, Option.map_some, hv₁, RelayWorld.withWorld, hconsumed]
    rw [hv₂, hw₂]
    rfl
  have h₃ : relayStep v₂ (stillEnv, .receive 0 0 (.ok (.pageReady "voice-one-01"))) = some v₃ := by
    rw [hv₃, hw₃]
    exact receive_of_nothing (RelayWorld.setRelay_relays _ _ _) rfl (congrFun hfree₂ 0) hready
  have h₄ : relayStep v₃ (stillEnv, .receive 0 0 (.ok (.pageStarted "voice-one-01"))) =
      some v₄ := by
    rw [hv₄, hw₄]
    exact receive_of_nothing (RelayWorld.setRelay_relays _ _ _) rfl (congrFun hfree₃ 0) hstarted
  have h₅ : relayStep v₄ (stillEnv, .disconnect 0) = some (v₄.setRelay 0 r.leave) := by
    have hrelay : v₄.relays 0 = some r := RelayWorld.setRelay_relays _ _ _
    simp only [relayStep, hrelay]
    rfl
  have h₆ : relayStep (v₄.setRelay 0 r.leave) (stillEnv, .connect 1 "token" 2) = some v₅ := by
    have hworld : (v₄.setRelay 0 r.leave).world = w₄ := rfl
    rw [relayStep, if_neg]
    · simp only [step, Option.map_some, hworld, hrefused]
      rw [hv₅, hw₅]
    · simp [RelayWorld.setRelay, RelayWorld.withWorld, hv₄, hv₃, hv₂, hv₁, startRelays]
  have hrelays : v₅.relays = Function.update (fun _ => none) 0 (some r.leave) := by
    simp [RelayWorld.setRelay, RelayWorld.withWorld, hv₅, hv₄, hv₃, hv₂, hv₁, startRelays]
  refine ⟨v₅, ?_, hactive, hlive, ?_⟩
  · have hlive : Run relayStep (fun _ _ => True) (startRelays {}) _ v₄ :=
      (((Run.nil.snoc trivial h₁).snoc trivial h₂).snoc trivial h₃).snoc trivial h₄
    exact (hlive.snoc trivial h₅).snoc trivial h₆
  · rintro (⟨d, hd, -⟩ | ⟨k, hk⟩ | ⟨n, q, hn, -, hpoint⟩ | hstopped)
    · exact absurd (hd.symm.trans hdeadline) (by simp)
    · have hworld : v₅.world = w₅ := rfl
      simp [hworld, hfree₅] at hk
    · rw [hrelays] at hn
      by_cases h : n = 0
      · subst h
        obtain rfl : r.leave = q := by simpa using hn
        exact hpoint rfl
      · simp [h] at hn
    · exact hstopped htask

/-- **No orphan**: in a run in which no relay returns while its session is live, and in which
no session is opened or stopped halfway, something that can end the active session is in place. -/
theorem no_orphan {g : Config} {as : List (Env × RelayAction)}
    (h : Run relayStep Attended (startRelays g) as v) :
    ∀ ref, v.world.controller.activeSession = some ref → CanEnd v ref := by
  have hv : Attendance v := by
    refine h.invariant (I := Attendance) ⟨⟨sound_start g, ?_, ?_, ?_⟩, ?_, ?_⟩
      fun v x v' hv hc hs => attendance_step hv hc hs
    · simp [startRelays, Unwedged, start]
    · simp [startRelays, Guarded, Starting, start]
    · simp [startRelays, Queued, start]
    · simp [startRelays]
    · simp [startRelays, Relayed, start]
  intro ref hactive
  have hstarting (hstarting : Starting v.world.controller ref) : CanEnd v ref :=
    (hv.intact.guarded ref hstarting).elim .inl fun hfired => .inr (.inl hfired)
  rcases (hv.intact.sound.good.active ref hactive).2.1 with hphase | hphase | hphase | hphase
  · exact hstarting ⟨hactive, .inl hphase⟩
  · exact hstarting ⟨hactive, .inr hphase⟩
  · obtain ⟨n, r, hn, hserves, hwaiting⟩ := hv.relayed ref hactive hphase
    exact .inr (.inr (.inl ⟨n, r, hn, hserves, by simp [hwaiting]⟩))
  · exact .inr (.inr (.inr (hv.intact.unwedged ref hactive hphase)))

/-- The page has started, and its relay is there. -/
theorem no_orphan_live : ∃ v : RelayWorld, (v.world.controller.heap 0).state.phase = .live ∧
    CanEnd v 0 := by
  obtain ⟨w₁, hw₁⟩ : ∃ w, w = afterActivate stillEnv (start {}) "voice-one-01" "token" 0
      (some ⟨1⟩) := ⟨_, rfl⟩
  obtain ⟨w₂, hw₂⟩ : ∃ w, w = w₁.withController
      (consumeActivationToken "token" 1 w₁.controller).1 := ⟨_, rfl⟩
  obtain ⟨w₃, hw₃⟩ : ∃ w, w = afterControl stillEnv w₂ 0 "voice-one-01"
      (.ok (.pageStarted "voice-one-01")) := ⟨_, rfl⟩
  have hconsumed : (consumeActivationToken "token" 1 w₁.controller).2 =
      .ok (some "voice-one-01") := by rw [hw₁]; decide +kernel
  have hstarted : (processControlMessage stillEnv "voice-one-01" (.ok (.pageStarted "voice-one-01"))
      w₂.controller).2 = .ok .nothing := by rw [hw₂, hw₁]; decide +kernel
  have hbefore : (w₂.controller.activeSession, (w₂.controller.heap 0).sessionId) =
      (some 0, "voice-one-01") := by rw [hw₂, hw₁]; decide +kernel
  have hafter : (w₃.controller.activeSession, (w₃.controller.heap 0).state.phase) =
      (some 0, .live) := by rw [hw₃, hw₂, hw₁]; decide +kernel
  simp only [Prod.mk.injEq] at hbefore hafter
  have hfree : w₂.waiters = fun _ => none := by
    rw [hw₂, hw₁]
    exact afterActivate_waiters _ _ _ _ _ _
  set r : ControlRelay := { sessionId := "voice-one-01" } with hr
  set v₁ : RelayWorld := (startRelays {}).withWorld w₁ with hv₁
  set v₂ : RelayWorld := (v₁.withWorld w₂).setRelay 0 r with hv₂
  set v₃ : RelayWorld := (v₂.withWorld w₃).setRelay 0 r with hv₃
  have h₁ : relayStep (startRelays {})
      (stillEnv, .elsewhere (.activate "voice-one-01" "token" 0 (some ⟨1⟩))) = some v₁ := by
    rw [relayStep, if_neg (by simp [ofRelay]), step, if_pos (by decide), hv₁, hw₁]
    rfl
  have h₂ : relayStep v₁ (stillEnv, .connect 0 "token" 1) = some v₂ := by
    rw [relayStep, if_neg (by simp [hv₁, RelayWorld.withWorld, startRelays])]
    simp only [step, Option.map_some, hv₁, RelayWorld.withWorld, hconsumed]
    rw [hv₂, hw₂]
    rfl
  have h₃ : relayStep v₂ (stillEnv, .receive 0 0 (.ok (.pageStarted "voice-one-01"))) =
      some v₃ := by
    rw [hv₃, hw₃]
    exact receive_of_nothing (RelayWorld.setRelay_relays _ _ _) rfl (congrFun hfree 0) hstarted
  have hopen : Attended (startRelays {})
      (stillEnv, .elsewhere (.activate "voice-one-01" "token" 0 (some ⟨1⟩))) :=
    ⟨fun _ _ _ _ _ _ => rfl, fun ref _ h => by simp [asks] at h⟩
  have hmessage : Attended v₂ (stillEnv, .receive 0 0 (.ok (.pageStarted "voice-one-01"))) := by
    intro q hq
    obtain rfl : r = q := by simpa [hv₂] using hq
    refine ⟨fun ref _ h => by simp [asks] at h, fun ref hactive hid _ => ⟨hid.symm, .inr rfl⟩⟩
  have hconnect : Attended v₁ (stillEnv, .connect 0 "token" 1) := trivial
  have hrun := ((Run.nil.snoc hopen h₁).snoc hconnect h₂).snoc hmessage h₃
  exact ⟨v₃, hafter.2, no_orphan hrun 0 hafter.1⟩

end HermesRealtime.Orphans
