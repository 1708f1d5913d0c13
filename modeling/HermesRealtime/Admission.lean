import HermesRealtime.Orphans
import HermesRealtime.StepCases

/-!
The controller as a caller of its token store: whatever it does, the store has a history of calls,
in which tokens are issued for new sessions only. So an activation admits one control connection.
-/

namespace HermesRealtime.Admission

open Values Protocol Phases Timing Tokens Teardown Controller Operations SessionRuns Lifecycle
  Bookkeeping
  Changes Relay Orphans LaunchTokens StepCases Runs

variable {P : String → Prop} {env : Env} {c c' : VoiceSessionController} {ref : ℕ}

instance : Std.Refl (Calls P) := ⟨fun _ => .same rfl⟩

instance : IsTrans VoiceSessionController (Calls P) where
  trans := by
    rintro c₁ c₂ c₃ ⟨h, hh, hissues⟩ ⟨h', hh', hissues'⟩
    refine ⟨h ++ h', by rw [hh', hh, replay_append], fun x hx => ?_⟩
    rcases List.mem_append.mp hx with hx | hx
    · exact hissues x hx
    · exact hissues' x hx

lemma keeps_calls {α : Type} {x : ControllerM α} (h : Op.Keeps Leaves x) : Op.Keeps (Calls P) x :=
  fun c => .same (h c).tokens

lemma resolveTerminalResult_calls (outcome : SessionOutcome) (error : Option String) :
    Op.Keeps (Calls P) (resolveTerminalResult ref outcome error) := by
  refine .get_bind fun c => Op.Keeps.ite (.pure _)
    ((keeps_calls (modifySession_leaves ref _)).bind fun _ => ?_) c
  exact .modify fun d => .single (0, .invalidate _) rfl (by simp)

/-- The finalization makes the token of its session useless, and issues none. -/
lemma finalize_calls (env : Env) (ref : ℕ) (request : TeardownRequest) :
    Op.Keeps (Calls P) (finalize env ref request) := by
  refine .get_bind fun c => Op.Keeps.ite (.pure _)
    ((keeps_calls (transition_leaves ref _)).bind fun _ => ?_) c
  exact Op.Keeps.bind (.modify fun _ => .same rfl) fun _ =>
    (keeps_calls notifyStatus_leaves).bind fun _ => Op.Keeps.bind (.modify fun _ => .same rfl)
      fun _ => (keeps_calls (modifySession_leaves ref _)).bind fun _ =>
        resolveTerminalResult_calls _ _

/-- **Every step calls the store**, and only an activation issues a token, for a session that is
new. -/
theorem step_calls {w w' : World} {a : Action} (hs : step w (env, a) = some w') :
    Calls (Fresh w.controller) w.controller w'.controller := by
  cases step_case hs with
  | minor a hother h => exact .same h.tokens
  | activated sessionId token now launched hfresh h =>
    obtain ⟨calls, hstore, hissues⟩ := h.calls
    exact ⟨calls, hstore, fun x hx s t hissue => (hissues x hx s t hissue) ▸ hfresh⟩
  | consumed token now h => exact .single (now, .consume token) (by rw [h]; rfl) (by simp)
  | published sessionId message queue hroom hmessage hactive hqueue h hput =>
    exact .same (by rw [hput]; rfl)
  | got queue h => exact .same (by rw [h]; rfl)
  | moved a ref run run' hrun hmoves h => exact .same (by rw [h]; rfl)
  | hooked ref hook run c₁ result hrun hpoint _ hleaves h =>
    exact .same (by rw [h]; exact hleaves.tokens)
  | asked ref run own queue c₁ result hrun hpoint hasked h =>
    exact .same (by rw [h]; exact hasked.rest.tokens)
  | finalized ref run hrun hcreated h =>
    obtain ⟨calls, hstore, hissues⟩ := finalize_calls (P := Fresh w.controller) env ref
      run.request w.controller
    exact ⟨calls, by rw [h]; exact hstore, hissues⟩

/-! ### Connections -/

/-- No token of the session can be consumed any more. -/
def Closed (s : LaunchTokenStore) (sessionId : String) : Prop :=
  ∀ token expiresAt, ¬ Pending s token sessionId expiresAt

lemma Closed.replay {s : LaunchTokenStore} {sessionId : String} (hs : Orderly s)
    (hclosed : Closed s sessionId) {h : List (ℚ × TokenCall)}
    (hissues : ∀ x ∈ h, ∀ token, x.2 ≠ .issue sessionId token) :
    Closed (LaunchTokens.replay s h) sessionId := by
  induction h using List.reverseRecOn with
  | nil => exact hclosed
  | append_singleton h x ih =>
    intro token expiresAt hp
    rw [replay_snoc] at hp
    rcases pending_of_call (orderly_replay hs h) hp with hp | ⟨other, hx⟩
    · exact ih (fun y hy => hissues y (by simp [hy])) token expiresAt hp
    · exact hissues x (by simp) other hx

/-- The connections serve sessions of the controller, each its own, whose tokens are used. -/
structure Admitted (v : RelayWorld) : Prop where
  sound : Sound v.world
  orderly : Orderly v.world.controller.tokenStore
  served : ∀ n r, v.relays n = some r → ∃ ref < v.world.controller.created,
    (v.world.controller.heap ref).sessionId = r.sessionId
  closed : ∀ n r, v.relays n = some r → Closed v.world.controller.tokenStore r.sessionId
  single : ∀ n m r q, v.relays n = some r → v.relays m = some q → r.sessionId = q.sessionId → n = m

variable {v v' : RelayWorld} {w : World}

/-- A step of the controller uses up tokens, and issues one for a session that is new. -/
lemma Admitted.world {a : Action} (hv : Admitted v) (hw : step v.world (env, a) = some w) :
    Admitted (v.withWorld w) := by
  have hkept := (change_keeps (step_change hv.sound.good hv.sound.waits hw) hv.sound.good).2
  obtain ⟨h, hstore, hissues⟩ := step_calls hw
  refine ⟨hv.sound.step hw, ?_, fun n r hn => ?_, fun n r hn => ?_, hv.single⟩
  · change Orderly w.controller.tokenStore
    rw [hstore]
    exact orderly_replay hv.orderly h
  · obtain ⟨ref, href, hid⟩ := hv.served n r hn
    exact ⟨ref, href.trans_le hkept.created, (hkept.id ref href).trans hid⟩
  · change Closed w.controller.tokenStore r.sessionId
    rw [hstore]
    refine (hv.closed n r hn).replay hv.orderly fun y hy token hissue => ?_
    obtain ⟨ref, href, hid⟩ := hv.served n r hn
    exact hissues y hy _ _ hissue ref href hid

/-- A relay that moves serves the session it served. -/
lemma Admitted.move {n : ℕ} {r r' : ControlRelay} (hv : Admitted v) (hn : v.relays n = some r)
    (hid : r'.sessionId = r.sessionId) : Admitted (v.setRelay n r') := by
  have hold {m : ℕ} {q : ControlRelay} (hm : (v.setRelay n r').relays m = some q) :
      ∃ p, v.relays m = some p ∧ q.sessionId = p.sessionId := by
    change Function.update v.relays n (some r') m = some q at hm
    by_cases hmn : m = n
    · subst hmn
      rw [Function.update_self, Option.some_inj] at hm
      exact ⟨r, hn, hm ▸ hid⟩
    · rw [Function.update_of_ne hmn] at hm
      exact ⟨q, hm, rfl⟩
  refine ⟨hv.sound, hv.orderly, fun m q hm => ?_, fun m q hm => ?_, fun m m' q q' hm hm' h => ?_⟩
  · obtain ⟨p, hp, hpid⟩ := hold hm
    rw [hpid]
    exact hv.served m p hp
  · obtain ⟨p, hp, hpid⟩ := hold hm
    rw [hpid]
    exact hv.closed m p hp
  · obtain ⟨p, hp, hpid⟩ := hold hm
    obtain ⟨p', hp', hpid'⟩ := hold hm'
    exact hv.single m m' p p' hp hp' (hpid.symm.trans (h.trans hpid'))

/-- A token that is consumed for a session was pending, and was the only one of the session. -/
lemma closed_of_consumed {token sessionId : String} {now : ℚ} (hs : Orderly c.tokenStore)
    (h : (consumeActivationToken token now c).2 = .ok (some sessionId)) :
    (∃ expiresAt, Pending c.tokenStore token sessionId expiresAt) ∧
      Closed (c.tokenStore.consume token now).1 sessionId := by
  have hconsumed : (c.tokenStore.consume token now).2 = some sessionId := by
    simp only [consumeActivationToken, Op.get_bind, Op.modify_bind] at h
    rcases hconsumed : (c.tokenStore.consume token now).2 with _ | id
    · simp [hconsumed] at h
    · rcases hactive : c.activeSession with _ | ref
      · simp [hconsumed, hactive] at h
      · simp only [hconsumed, hactive, Op.ite_apply] at h
        split_ifs at h
        · simpa using h
        · simp at h
  have hvalid := hconsumed
  rw [consume_snd] at hvalid
  obtain ⟨expiresAt, hp, -⟩ := validate_eq_some.mp hvalid
  refine ⟨⟨expiresAt, hp⟩, fun other time hother => ?_⟩
  obtain ⟨record, hrecord, hused⟩ := used_of_consumed hconsumed
  rcases pending_of_call (x := (now, .consume token)) hs hother with hother' | ⟨t, ht⟩
  · obtain rfl := hp.unique hs hother'
    rw [hother, Option.some_inj] at hrecord
    simp [← hrecord] at hused
  · cases ht

/-- **A connection is admitted once for a session.** -/
theorem admitted_step {x : Env × RelayAction} (hv : Admitted v) (hs : relayStep v x = some v') :
    Admitted v' := by
  obtain ⟨env, a⟩ := x
  cases relay_change hs with
  | elsewhere a w hown hw => exact hv.world hw
  | refused n token now w hw => exact hv.world hw
  | attached n token now sessionId w hfree hw hconsumed =>
    obtain ⟨⟨expiresAt, hp⟩, hclosed⟩ := closed_of_consumed hv.orderly hconsumed
    obtain ⟨ref, hactive, hid⟩ := active_of_consumed hconsumed
    have hv' := hv.world hw
    have hkept := (change_keeps (step_change hv.sound.good hv.sound.waits hw) hv.sound.good).2
    obtain rfl := Option.some_inj.mp hw
    have hnew {m : ℕ} {q : ControlRelay} (hm : v.relays m = some q) : q.sessionId ≠ sessionId :=
      fun h => hv.closed m q hm token expiresAt (h ▸ hp)
    have hold {m : ℕ} {q : ControlRelay}
        (hm : Function.update v.relays n (some { sessionId }) m = some q) :
        m = n ∧ q.sessionId = sessionId ∨ v.relays m = some q := by
      by_cases hmn : m = n
      · subst hmn
        rw [Function.update_self, Option.some_inj] at hm
        exact .inl ⟨rfl, by rw [← hm]⟩
      · rw [Function.update_of_ne hmn] at hm
        exact .inr hm
    refine ⟨hv'.sound, hv'.orderly, fun m q hm => ?_, fun m q hm => ?_,
      fun m m' q q' hm hm' h => ?_⟩
    · rcases hold hm with ⟨-, hq⟩ | hm
      · have href := (hv.sound.good.active ref hactive).1
        exact ⟨ref, href.trans_le hkept.created, (hkept.id ref href).trans (hid.trans hq.symm)⟩
      · exact hv'.served m q hm
    · rcases hold hm with ⟨-, hq⟩ | hm
      · rw [hq]
        change Closed (consumeActivationToken token now v.world.controller).1.tokenStore sessionId
        rwa [CriticalSections.consume_store]
      · exact hv'.closed m q hm
    · rcases hold hm with ⟨hmn, hq⟩ | hm <;> rcases hold hm' with ⟨hmn', hq'⟩ | hm'
      · rw [hmn, hmn']
      · exact absurd (h.symm.trans hq) (hnew hm')
      · exact absurd (h.trans hq') (hnew hm)
      · exact hv.single m m' q q' hm hm' h
  | moved n a action r r' w hn hmove hw =>
    rcases action with _ | action
    · obtain rfl := Option.some_inj.mp hw
      exact hv.move hn hmove.sessionId
    · exact (hv.world hw).move hn hmove.sessionId

lemma admitted_start (g : Config) : Admitted (startRelays g) := by
  refine ⟨sound_start g, orderly_fresh _, ?_, ?_, ?_⟩ <;> simp [startRelays]

/-- **Launch tokens are used once.** A token is valid if it was issued last, no call since then
consumed or invalidated it, and it is not too old by the clock, that does not go back; a token that
has been consumed is not consumed again, as no token is made twice; and in every run an activation
admits one control connection at most, when its session is active. -/
theorem tokens_single_use {ttl now : ℚ} {h : List (ℚ × TokenCall)} (hclock : ∀ x ∈ h, x.1 ≤ now)
    (hdistinct : (h.filterMap issued).Nodup) :
    (∀ token sessionId, (replay (fresh ttl) h).validate token now = some sessionId ↔
      ∃ time, Unused h token sessionId time ∧ now ≤ floatSum time ttl) ∧
    (∀ token, ((replay (fresh ttl) h).consume token now).2 =
      (replay (fresh ttl) h).validate token now) ∧
    (∀ token before time after, h = before ++ (time, .consume token) :: after →
      ((replay (fresh ttl) before).consume token time).2 ≠ none →
        ((replay (fresh ttl) h).consume token now).2 = none) ∧
    ∀ g as v, Run relayStep (fun _ _ => True) (startRelays g) as v →
      (∀ n m r q, v.relays n = some r → v.relays m = some q → r.sessionId = q.sessionId → n = m) ∧
      ∀ env n token time v' r, relayStep v (env, .connect n token time) = some v' →
        v'.relays n = some r → ∃ ref, v'.world.controller.activeSession = some ref ∧
          (v'.world.controller.heap ref).sessionId = r.sessionId := by
  refine ⟨fun token sessionId => validate_replay ttl hclock, fun token => consume_snd, ?_, ?_⟩
  · rintro token before time after rfl hfirst
    exact consume_once hdistinct hfirst
  · intro g as v hrun
    have hv : Admitted v :=
      hrun.invariant (admitted_start g) fun _ _ _ ht _ hs => admitted_step ht hs
    refine ⟨hv.single, fun env n token time v' r hs hn => ?_⟩
    cases relay_change hs with
    | refused n token time w hw =>
      rw [relayStep, Option.ite_none_left_eq_some] at hs
      have hnone : v.relays n = none := by simpa using hs.1
      cases hnone.symm.trans hn
    | attached n token time sessionId w hfree hw hconsumed =>
      rw [RelayWorld.setRelay_relays, Option.some_inj] at hn
      obtain ⟨ref, hactive, hid⟩ := active_of_consumed hconsumed
      obtain rfl := Option.some_inj.mp hw
      refine ⟨ref, ?_, ?_⟩
      · change (consumeActivationToken token time v.world.controller).1.activeSession = some ref
        rwa [CriticalSections.consume_store]
      · change ((consumeActivationToken token time v.world.controller).1.heap ref).sessionId = _
        rw [CriticalSections.consume_store, ← hn]
        exact hid
    | moved n a action r r' w hn hmove hw => cases hmove

theorem token_consumed : ((replay (fresh 15) [(0, .issue "voice-one-01" "token"),
    (1, .consume "token")]).consume "token" 2).2 = none :=
  (tokens_single_use (h := [(0, .issue "voice-one-01" "token"), (1, .consume "token")])
    (by simp) (by decide +kernel)).2.2.1 "token" [(0, .issue "voice-one-01" "token")] 1 [] rfl
      (by decide +kernel)

end HermesRealtime.Admission
