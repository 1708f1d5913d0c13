import HermesRealtime.Gateway
import HermesRealtime.Runs

/-!
Overlapping attempts of `/session`: an attempt gets its number when its offer has been validated,
and installs a session only while no later one has been validated.
-/

namespace HermesRealtime.Attempts

open Gateway Runs

variable {L : Library} {w w' : GatewayWorld} {as : List GatewayAction}

/-- What two observations say of the attempts they are about, the earlier one first. -/
def InTurn : Observation → Observation → Prop
  | .validated _ k, .validated _ k' => k < k'
  | .validated _ k, .installed _ k' _ _ => k ≤ k'
  | _, _ => True

/-- The scope has been installed for the session. -/
def IssuedFor (log : List Observation) (scope sessionId : String) : Prop :=
  ∃ handler attempt, .installed handler attempt (some sessionId) (some scope) ∈ log

/-- The handler has been admitted for a session that was the active one then. -/
def AdmittedFor (log : List Observation) (handler : ℕ) (sessionId : String) : Prop :=
  .admitted handler (some sessionId) (some sessionId) ∈ log

/-- The attempts that are under way, the one that has been installed, and the scopes. -/
structure Numbered (w : GatewayWorld) : Prop where
  inTurn : w.log.Pairwise InTurn
  latest : ∀ handler attempt, .validated handler attempt ∈ w.log →
    attempt ≤ w.gateway.latestSessionAttempt
  waiting : ∀ a ∈ w.attempts, ∀ k, a.attempt = some k → .validated a.handler k ∈ w.log
  admitted : ∀ a ∈ w.attempts, ∀ s, a.localSessionId = some s →
    s ≠ "" ∧ AdmittedFor w.log a.handler s
  validated : ∀ handler attempt sessionId scope,
    .installed handler attempt sessionId scope ∈ w.log → .validated handler attempt ∈ w.log
  installed : ∀ scope, w.gateway.activeExecutionScope = some scope →
    ∃ handler attempt sessionId, .installed handler attempt (some sessionId) (some scope) ∈ w.log ∧
      AdmittedFor w.log handler sessionId ∧ w.gateway.activeSessionId = some sessionId
  issued : ∀ scope sessionId, IssuedFor w.log scope sessionId → scope ∈ w.issued
  one : ∀ scope s s', IssuedFor w.log scope s → IssuedFor w.log scope s' → s = s'

/-- The observations that say nothing of an attempt. -/
def Silent : Observation → Prop
  | .started .. | .responded .. | .refused .. => True
  | _ => False

lemma inTurn_of_silent {o o' : Observation} (h : Silent o') : InTurn o o' := by
  cases o' <;> cases o <;> first | exact h.elim | trivial

/-- An observation that is not silent was there before. -/
lemma mem_of_silent {log new : List Observation} {o : Observation}
    (hnew : ∀ o ∈ new, Silent o) (h : o ∈ log ++ new) (ho : ¬ Silent o) : o ∈ log :=
  (List.mem_append.mp h).resolve_right fun hmem => ho (hnew o hmem)

lemma pairwise_snoc {log : List Observation} {o : Observation} (h : log.Pairwise InTurn)
    (ho : ∀ o' ∈ log, InTurn o' o) : (log ++ [o]).Pairwise InTurn := by
  refine List.pairwise_append.mpr ⟨h, List.pairwise_singleton .., fun o' ho' x hx => ?_⟩
  obtain rfl := List.mem_singleton.mp hx
  exact ho o' ho'

/-- A step that is not about an attempt. -/
lemma Numbered.silent {new : List Observation} (h : Numbered w) (hsame : SameSession w w')
    (hattempts : ∀ a ∈ w'.attempts, a ∈ w.attempts) (hlog : w'.log = w.log ++ new)
    (hnew : ∀ o ∈ new, Silent o) : Numbered w' := by
  have hold : ∀ o ∈ w.log, o ∈ w'.log := fun o ho => hlog ▸ List.mem_append_left _ ho
  have hback : ∀ o ∈ w'.log, ¬ Silent o → o ∈ w.log := fun o ho hs =>
    mem_of_silent hnew (hlog ▸ ho) hs
  refine ⟨?_, ?_, ?_, ?_, ?_, ?_, ?_, ?_⟩
  · rw [hlog, List.pairwise_append]
    refine ⟨h.inTurn, ?_, fun o _ o' ho' => inTurn_of_silent (hnew o' ho')⟩
    exact List.pairwise_of_forall_mem_list fun o _ o' ho' => inTurn_of_silent (hnew o' ho')
  · intro handler attempt hmem
    rw [hsame.latest]
    exact h.latest handler attempt (hback _ hmem id)
  · exact fun a ha k hk => hold _ (h.waiting a (hattempts a ha) k hk)
  · intro a ha s hs
    obtain ⟨hempty, hadmitted⟩ := h.admitted a (hattempts a ha) s hs
    exact ⟨hempty, hold _ hadmitted⟩
  · exact fun handler attempt sessionId scope hmem =>
      hold _ (h.validated handler attempt sessionId scope (hback _ hmem id))
  · intro scope hscope
    rw [hsame.scope] at hscope
    obtain ⟨handler, attempt, sessionId, hmem, hadmitted, hid⟩ := h.installed scope hscope
    exact ⟨handler, attempt, sessionId, hold _ hmem, hold _ hadmitted, hsame.sessionId ▸ hid⟩
  · rintro scope sessionId ⟨handler, attempt, hmem⟩
    rw [hsame.issued]
    exact h.issued scope sessionId ⟨handler, attempt, hback _ hmem id⟩
  · rintro scope s s' ⟨handler, attempt, hmem⟩ ⟨handler', attempt', hmem'⟩
    exact h.one scope s s' ⟨handler, attempt, hback _ hmem id⟩
      ⟨handler', attempt', hback _ hmem' id⟩

lemma Numbered.admission (h : Numbered w) (localSessionId : Option String)
    (hactive : localSessionId.isSome → w.activeSession = localSessionId)
    (hempty : localSessionId ≠ some "") :
    Numbered (({ w with
      attempts := w.attempts ++ [⟨w.handlers, localSessionId, none⟩]
      handlers := w.handlers + 1 } : GatewayWorld).observe
        (.admitted w.handlers localSessionId w.activeSession)) := by
  refine ⟨?_, ?_, ?_, ?_, ?_, ?_, ?_, ?_⟩
  · exact pairwise_snoc h.inTurn fun o _ => by cases o <;> trivial
  · intro handler attempt hmem
    exact h.latest handler attempt (by simpa [GatewayWorld.observe] using hmem)
  · intro a ha k hk
    rcases List.mem_append.mp ha with ha | ha
    · exact List.mem_append_left _ (h.waiting a ha k hk)
    · obtain rfl := List.mem_singleton.mp ha
      cases hk
  · intro a ha s hs
    rcases List.mem_append.mp ha with ha | ha
    · obtain ⟨hne, hadmitted⟩ := h.admitted a ha s hs
      exact ⟨hne, List.mem_append_left _ hadmitted⟩
    · obtain rfl := List.mem_singleton.mp ha
      obtain rfl : localSessionId = some s := hs
      refine ⟨fun hs => hempty (congrArg some hs), ?_⟩
      rw [AdmittedFor, hactive rfl]
      exact List.mem_append_right _ (List.mem_singleton.mpr rfl)
  · intro handler attempt sessionId scope hmem
    exact List.mem_append_left _ (h.validated handler attempt sessionId scope
      (by simpa [GatewayWorld.observe] using hmem))
  · intro scope hscope
    obtain ⟨handler, attempt, sessionId, hmem, hadmitted, hid⟩ := h.installed scope hscope
    exact ⟨handler, attempt, sessionId, List.mem_append_left _ hmem,
      List.mem_append_left _ hadmitted, hid⟩
  · rintro scope sessionId ⟨handler, attempt, hmem⟩
    exact h.issued scope sessionId ⟨handler, attempt, by simpa [GatewayWorld.observe] using hmem⟩
  · rintro scope s s' ⟨handler, attempt, hmem⟩ ⟨handler', attempt', hmem'⟩
    exact h.one scope s s' ⟨handler, attempt, by simpa [GatewayWorld.observe] using hmem⟩
      ⟨handler', attempt', by simpa [GatewayWorld.observe] using hmem'⟩

lemma Numbered.validation (h : Numbered w) {i handler : ℕ} {localSessionId : Option String}
    (hattempt : w.attempts[i]? = some ⟨handler, localSessionId, none⟩) :
    Numbered (({ w with
      gateway := { w.gateway with latestSessionAttempt := w.gateway.latestSessionAttempt + 1 }
      attempts := w.attempts.set i
        ⟨handler, localSessionId, some (w.gateway.latestSessionAttempt + 1)⟩ }
      : GatewayWorld).observe (.validated handler (w.gateway.latestSessionAttempt + 1))) := by
  have hmem := List.mem_of_getElem? hattempt
  refine ⟨?_, ?_, ?_, ?_, ?_, ?_, ?_, ?_⟩
  · refine pairwise_snoc h.inTurn fun o ho => ?_
    cases o with
    | validated handler' attempt' =>
      have := h.latest handler' attempt' ho
      change attempt' < w.gateway.latestSessionAttempt + 1
      omega
    | _ => trivial
  · intro handler' attempt' hlog
    change attempt' ≤ w.gateway.latestSessionAttempt + 1
    rcases List.mem_append.mp hlog with hlog | hlog
    · have := h.latest handler' attempt' hlog
      omega
    · obtain ⟨rfl, rfl⟩ : handler' = handler ∧ attempt' = w.gateway.latestSessionAttempt + 1 := by
        simpa using hlog
      exact le_rfl
  · intro a ha k hk
    rcases List.mem_or_eq_of_mem_set ha with ha | rfl
    · exact List.mem_append_left _ (h.waiting a ha k hk)
    · obtain rfl : w.gateway.latestSessionAttempt + 1 = k := Option.some.inj hk
      exact List.mem_append_right _ (List.mem_singleton.mpr rfl)
  · intro a ha s hs
    rcases List.mem_or_eq_of_mem_set ha with ha | rfl
    · obtain ⟨hempty, hadmitted⟩ := h.admitted a ha s hs
      exact ⟨hempty, List.mem_append_left _ hadmitted⟩
    · obtain ⟨hempty, hadmitted⟩ := h.admitted _ hmem s hs
      exact ⟨hempty, List.mem_append_left _ hadmitted⟩
  · intro handler' attempt' sessionId scope hlog
    exact List.mem_append_left _ (h.validated handler' attempt' sessionId scope
      (by simpa [GatewayWorld.observe] using hlog))
  · intro scope hscope
    obtain ⟨handler', attempt', sessionId, hlog, hadmitted, hid⟩ := h.installed scope hscope
    exact ⟨handler', attempt', sessionId, List.mem_append_left _ hlog,
      List.mem_append_left _ hadmitted, hid⟩
  · rintro scope sessionId ⟨handler', attempt', hlog⟩
    exact h.issued scope sessionId ⟨handler', attempt', by simpa [GatewayWorld.observe] using hlog⟩
  · rintro scope s s' ⟨handler', attempt', hlog⟩ ⟨handler'', attempt'', hlog'⟩
    exact h.one scope s s' ⟨handler', attempt', by simpa [GatewayWorld.observe] using hlog⟩
      ⟨handler'', attempt'', by simpa [GatewayWorld.observe] using hlog'⟩

lemma Numbered.installation (h : Numbered w) {i handler : ℕ} {localSessionId : Option String}
    {sessionToken scopeToken : String} {gateway : GatewayState} (hfresh : scopeToken ∉ w.issued)
    (hattempt : w.attempts[i]? =
      some ⟨handler, localSessionId, some w.gateway.latestSessionAttempt⟩)
    (hgateway : gateway = w.gateway.install localSessionId sessionToken scopeToken) :
    Numbered (({ w with
      gateway
      attempts := w.attempts.eraseIdx i
      issued := w.issued ++ gateway.activeExecutionScope.toList } : GatewayWorld).observe
        (.installed handler w.gateway.latestSessionAttempt gateway.activeSessionId
          gateway.activeExecutionScope)) := by
  have hmem := List.mem_of_getElem? hattempt
  have hvalidated := h.waiting _ hmem _ rfl
  have hlatest : gateway.latestSessionAttempt = w.gateway.latestSessionAttempt := by
    rw [hgateway]
    rfl
  refine ⟨?_, ?_, ?_, ?_, ?_, ?_, ?_, ?_⟩
  · refine pairwise_snoc h.inTurn fun o ho => ?_
    cases o with
    | validated handler' attempt' => exact h.latest handler' attempt' ho
    | _ => trivial
  · intro handler' attempt' hlog
    change attempt' ≤ gateway.latestSessionAttempt
    rw [hlatest]
    exact h.latest handler' attempt' (by simpa [GatewayWorld.observe] using hlog)
  · exact fun a ha k hk => List.mem_append_left _ (h.waiting a (List.mem_of_mem_eraseIdx ha) k hk)
  · intro a ha s hs
    obtain ⟨hempty, hadmitted⟩ := h.admitted a (List.mem_of_mem_eraseIdx ha) s hs
    exact ⟨hempty, List.mem_append_left _ hadmitted⟩
  · intro handler' attempt' sessionId scope hlog
    rcases List.mem_append.mp hlog with hlog | hlog
    · exact List.mem_append_left _ (h.validated handler' attempt' sessionId scope hlog)
    · obtain ⟨rfl, rfl, -⟩ :
          handler' = handler ∧ attempt' = w.gateway.latestSessionAttempt ∧ _ := by
        simpa using hlog
      exact List.mem_append_left _ hvalidated
  · -- the handler was admitted for the session its scope belongs to
    intro scope hscope
    change gateway.activeExecutionScope = some scope at hscope
    cases localSessionId with
    | none => simp [hgateway, GatewayState.install] at hscope
    | some s =>
      obtain ⟨hempty, hadmitted⟩ := h.admitted _ hmem s rfl
      have hid : gateway.activeSessionId = some s := by
        simp [hgateway, GatewayState.install, orElseText, hempty]
      refine ⟨handler, w.gateway.latestSessionAttempt, s, ?_, List.mem_append_left _ hadmitted, hid⟩
      refine List.mem_append_right _ (List.mem_singleton.mpr ?_)
      rw [hid, hscope]
  · rintro scope sessionId ⟨handler', attempt', hlog⟩
    rcases List.mem_append.mp hlog with hlog | hlog
    · exact List.mem_append_left _ (h.issued scope sessionId ⟨handler', attempt', hlog⟩)
    · obtain ⟨-, -, -, hscope⟩ : handler' = handler ∧ attempt' = w.gateway.latestSessionAttempt ∧
          some sessionId = gateway.activeSessionId ∧ some scope = gateway.activeExecutionScope := by
        simpa using hlog
      refine List.mem_append_right _ ?_
      simp [← hscope]
  · -- a scope that is made has not been made before
    have hnew : ∀ scope sessionId, IssuedFor w.log scope sessionId →
        gateway.activeExecutionScope ≠ some scope := by
      intro scope sessionId hissued hscope
      have hmade : scopeToken = scope := by
        simp only [hgateway, GatewayState.install] at hscope
        split_ifs at hscope
        exact Option.some.inj hscope
      exact hfresh (hmade ▸ h.issued scope sessionId hissued)
    rintro scope s s' ⟨k, n, hlog⟩ ⟨k', n', hlog'⟩
    rcases List.mem_append.mp hlog with hlog | hlog <;>
      rcases List.mem_append.mp hlog' with hlog' | hlog'
    · exact h.one scope s s' ⟨k, n, hlog⟩ ⟨k', n', hlog'⟩
    · simp only [List.mem_singleton, Observation.installed.injEq] at hlog'
      exact absurd hlog'.2.2.2.symm (hnew scope s ⟨k, n, hlog⟩)
    · simp only [List.mem_singleton, Observation.installed.injEq] at hlog
      exact absurd hlog.2.2.2.symm (hnew scope s' ⟨k', n', hlog'⟩)
    · simp only [List.mem_singleton, Observation.installed.injEq] at hlog hlog'
      exact Option.some.inj (hlog.2.2.1.trans hlog'.2.2.1.symm)

/-- **A step keeps the attempts in order.** -/
theorem numbered_step {a : GatewayAction} (h : Numbered w) (hs : gatewayStep L w a = some w') :
    Numbered w' := by
  cases gatewayStep_move hs with
  | controller activeSession =>
    exact h.silent ⟨rfl, rfl, rfl, rfl⟩ (fun _ => id) (List.append_nil _).symm (by simp)
  | refused client request ended =>
    exact h.silent ⟨rfl, rfl, rfl, rfl⟩ (fun _ => id) rfl (by simp [Silent])
  | replayed client request ended fingerprint cached hcurrent hcached =>
    exact h.silent ⟨rfl, rfl, rfl, rfl⟩ (fun _ => id) rfl (by simp [Silent])
  | limited client request ended fingerprint hcurrent habsent hfull =>
    exact h.silent ⟨rfl, rfl, rfl, rfl⟩ (fun _ => id) rfl (by simp [Silent])
  | ran client request said ended fingerprint hadmits hended =>
    have hstarted : Numbered (w.observe (.started request.scope request.callId fingerprint)) :=
      h.silent ⟨rfl, rfl, rfl, rfl⟩ (fun _ => id) rfl (by simp [Silent])
    obtain ⟨reply, hlog⟩ := finish_log L
      (w.observe (.started request.scope request.callId fingerprint)) ⟨request, fingerprint⟩ ended
    exact hstarted.silent (finish_same L ..) (by simp) hlog (by simp [Silent])
  | suspended client request fingerprint permission hadmits hresolves hparsed =>
    exact h.silent ⟨rfl, rfl, rfl, rfl⟩ (fun _ => id) rfl (by simp [Silent])
  | resumed i run ended hrun =>
    have hresumed : Numbered { w with executions := w.executions.eraseIdx i } :=
      h.silent ⟨rfl, rfl, rfl, rfl⟩ (fun _ => id) (List.append_nil _).symm (by simp)
    obtain ⟨reply, hlog⟩ := finish_log L
      ({ w with executions := w.executions.eraseIdx i } : GatewayWorld) run ended
    exact hresumed.silent (finish_same L ..) (by simp) hlog (by simp [Silent])
  | unadmitted hasApiKey request => exact h
  | admitted hasApiKey request localSessionId hactive hempty =>
    exact h.admission localSessionId hactive hempty
  | rejected i body =>
    exact h.silent ⟨rfl, rfl, rfl, rfl⟩ (fun _ => List.mem_of_mem_eraseIdx)
      (List.append_nil _).symm (by simp)
  | validated i body handler localSessionId hattempt => exact h.validation hattempt
  | answered i answer sessionToken scopeToken =>
    exact h.silent ⟨rfl, rfl, rfl, rfl⟩ (fun _ => List.mem_of_mem_eraseIdx)
      (List.append_nil _).symm (by simp)
  | installed i answer sessionToken scopeToken handler localSessionId gateway hattempt hfresh
      hgateway =>
    exact h.installation hfresh hattempt hgateway

lemma numbered_start : Numbered {} := by
  refine ⟨.nil, ?_, ?_, ?_, ?_, ?_, ?_, ?_⟩ <;> simp [IssuedFor]

/-- **A run keeps the attempts in order.** -/
theorem numbered_run {C : GatewayWorld → GatewayAction → Prop}
    (h : Run (gatewayStep L) C {} as w) : Numbered w :=
  h.invariant numbered_start fun _ _ _ hn _ hs => numbered_step hn hs

/-! ### Scopes that have been replaced -/

/-- The scope has been made, and is not installed. -/
def Retired (w : GatewayWorld) (scope : String) : Prop :=
  scope ∈ w.issued ∧ w.gateway.activeExecutionScope ≠ some scope

lemma Retired.same {scope : String} (h : Retired w scope) (hsame : SameSession w w') :
    Retired w' scope :=
  ⟨hsame.issued ▸ h.1, hsame.scope ▸ h.2⟩

lemma retired_step {a : GatewayAction} {scope : String} (h : Retired w scope)
    (hs : gatewayStep L w a = some w') : Retired w' scope := by
  cases gatewayStep_move hs with
  | ran client request said ended fingerprint hadmits hended =>
    have hstarted :
        Retired (w.observe (.started request.scope request.callId fingerprint)) scope := h
    exact hstarted.same (finish_same L ..)
  | resumed i run ended hrun =>
    have hresumed : Retired { w with executions := w.executions.eraseIdx i } scope := h
    exact hresumed.same (finish_same L ..)
  | installed i answer sessionToken scopeToken handler localSessionId gateway hattempt hfresh
      hgateway =>
    refine ⟨List.mem_append_left _ h.1, fun hscope => ?_⟩
    change gateway.activeExecutionScope = some scope at hscope
    simp only [hgateway, GatewayState.install] at hscope
    split_ifs at hscope
    obtain rfl := Option.some.inj hscope
    exact hfresh h.1
  | _ => exact h

/-! ### Capabilities that are started -/

/-- A capability is started by a request that has been admitted. -/
lemma started_of_move {a : GatewayAction} {new : List Observation} {scope callId fp : String}
    (h : Move L w a w') (hlog : w'.log = w.log ++ new) (hmem : .started scope callId fp ∈ new) :
    ∃ request, request.scope = scope ∧ request.callId = callId ∧ Admits L w request fp := by
  have hother : ∀ o, w'.log = w.log ++ [o] → o ≠ .started scope callId fp → False := by
    intro o ho hne
    rw [hlog, List.append_cancel_left_eq] at ho
    rw [ho, List.mem_singleton] at hmem
    exact hne hmem.symm
  have hnone : w'.log = w.log → False := by
    intro ho
    obtain rfl : new = [] := by simpa [ho] using hlog
    cases hmem
  cases h with
  | ran client request said ended fingerprint hadmits hended =>
    obtain ⟨reply, hfinish⟩ := finish_log L
      (w.observe (.started request.scope request.callId fingerprint)) ⟨request, fingerprint⟩ ended
    rw [hlog, GatewayWorld.observe_log, List.append_assoc, List.append_cancel_left_eq] at hfinish
    rw [hfinish] at hmem
    obtain ⟨rfl, rfl, rfl⟩ :
        scope = request.scope ∧ callId = request.callId ∧ fp = fingerprint := by
      simpa using hmem
    exact ⟨request, rfl, rfl, hadmits⟩
  | suspended client request fingerprint permission hadmits hresolves hparsed =>
    have hnew := List.append_cancel_left (hlog.symm.trans (GatewayWorld.observe_log w _))
    rw [hnew] at hmem
    obtain ⟨rfl, rfl, rfl⟩ :
        scope = request.scope ∧ callId = request.callId ∧ fp = fingerprint := by
      simpa using hmem
    exact ⟨request, rfl, rfl, hadmits⟩
  | resumed i run ended hrun =>
    obtain ⟨reply, hfinish⟩ := finish_log L
      ({ w with executions := w.executions.eraseIdx i } : GatewayWorld) run ended
    exact (hother _ hfinish (by simp)).elim
  | controller | unadmitted | rejected | answered => exact (hnone rfl).elim
  | _ => exact (hother _ rfl (by simp)).elim

/-! ### The laws of the attempts -/

/-- Once a newer attempt has been validated, an older one installs nothing: an attempt is as old
as its number, which it gets when it is validated. -/
def NewestInstalls (log : List Observation) : Prop :=
  ∀ before after newer older k k' sessionId scope,
    log = before ++ .validated newer k' :: after → .validated older k ∈ before →
      .installed older k sessionId scope ∉ after

lemma newestInstalls_of_inTurn {log : List Observation} (h : log.Pairwise InTurn) :
    NewestInstalls log := by
  rintro before after newer older k k' sessionId scope rfl hbefore hafter
  obtain ⟨-, hnewer, hbetween⟩ := List.pairwise_append.mp h
  have hlt : k < k' := hbetween _ hbefore _ List.mem_cons_self
  have hle : k' ≤ k := (List.pairwise_cons.mp hnewer).1 _ hafter
  omega

/-- An attempt that installs something has been validated before. -/
def InstallsValidated (log : List Observation) : Prop :=
  ∀ handler k sessionId scope, .installed handler k sessionId scope ∈ log →
    .validated handler k ∈ log

/-- The installed scope belongs to the session that was the controller's active one when its
handler was admitted. -/
def ScopeBound (w : GatewayWorld) : Prop :=
  ∀ scope, w.gateway.activeExecutionScope = some scope →
    ∃ handler attempt sessionId, .installed handler attempt (some sessionId) (some scope) ∈ w.log ∧
      AdmittedFor w.log handler sessionId ∧ w.gateway.activeSessionId = some sessionId

/-- A scope that was installed, and is not any more, is never installed again. -/
def NeverAgain (L : Library) (w : GatewayWorld) : Prop :=
  ∀ scope sessionId, IssuedFor w.log scope sessionId →
    w.gateway.activeExecutionScope ≠ some scope →
      ∀ w', Reachable (gatewayStep L) w w' → w'.gateway.activeExecutionScope ≠ some scope

/-- A step that starts a capability does so for the installed scope, and for the one session this
scope was issued for, which is the controller's active one. -/
def StartsCurrent (L : Library) (w : GatewayWorld) : Prop :=
  ∀ a w' new scope callId fp, gatewayStep L w a = some w' → w'.log = w.log ++ new →
    .started scope callId fp ∈ new → w.gateway.activeExecutionScope = some scope ∧
      ∃ sessionId, w.activeSession = some sessionId ∧ IssuedFor w.log scope sessionId ∧
        ∀ s, IssuedFor w.log scope s → s = sessionId

lemma Numbered.neverAgain (h : Numbered w) : NeverAgain L w := by
  rintro scope sessionId hissued hscope w' ⟨bs, hrun⟩
  have hretired : Retired w' scope :=
    hrun.invariant ⟨h.issued scope sessionId hissued, hscope⟩ fun _ _ _ hr _ hs =>
      retired_step hr hs
  exact hretired.2

lemma Numbered.startsCurrent (h : Numbered w) : StartsCurrent L w := by
  intro a w' new scope callId fp hs hlog hmem
  obtain ⟨request, rfl, rfl, hadmits⟩ := started_of_move (gatewayStep_move hs) hlog hmem
  have hcurrent := hadmits.current
  obtain ⟨handler, attempt, sessionId, hinstalled, -, hid⟩ := h.installed _ hcurrent.scope
  have hissued : IssuedFor w.log request.scope sessionId := ⟨handler, attempt, hinstalled⟩
  exact ⟨hcurrent.scope, sessionId, hcurrent.session.trans hid, hissued,
    fun s hs => h.one _ s sessionId hs hissued⟩

/-- **The laws of overlapping attempts**, in every state that can be reached. -/
theorem session_attempts (h : Run (gatewayStep L) (fun _ _ => True) {} as w) :
    NewestInstalls w.log ∧ InstallsValidated w.log ∧ ScopeBound w ∧ NeverAgain L w ∧
      StartsCurrent L w := by
  have hn := numbered_run h
  exact ⟨newestInstalls_of_inTurn hn.inTurn, hn.validated, hn.installed, hn.neverAgain,
    hn.startsCurrent⟩

/-- A request of the voice page for the session. -/
def pageRequest (sessionId : String) : SessionRequest :=
  { client := ⟨some "127.0.0.1", some localClientHeaderValue⟩
    contentType := "application/sdp"
    headerSessionId := some sessionId
    querySessionId := none }

/-- Two attempts for one session; the provider answers the newer one first. -/
def overlapping : List GatewayAction :=
  [.controller (some "voice-one-01"), .session true (pageRequest "voice-one-01"),
   .session true (pageRequest "voice-one-01"), .offer 0 (.sdp "v=0"), .offer 1 (.sdp "v=0"),
   .upstream 1 (.response 201 "v=0") "token" "scope-2",
   .upstream 0 (.response 201 "v=0") "token" "scope-1"]

theorem session_attempts_overlapping : ∃ as, ∀ L, ∃ w,
    Run (gatewayStep L) (fun _ _ => True) {} as w ∧
    w.gateway.activeExecutionScope = some "scope-2" ∧ NewestInstalls w.log ∧
      InstallsValidated w.log ∧ ScopeBound w ∧ NeverAgain L w ∧
      StartsCurrent L w := by
  refine ⟨overlapping, fun L => ?_⟩
  have hexec : (exec (gatewayStep L) (fun _ _ => true) {} overlapping).map
      (fun w => w.gateway.activeExecutionScope) = some (some "scope-2") := rfl
  obtain ⟨w, hw, hscope⟩ := Option.map_eq_some_iff.mp hexec
  have hrun := run_of_exec (C := fun _ _ => True) (fun _ _ _ => trivial) _ _ hw
  exact ⟨w, hrun, hscope, session_attempts hrun⟩

end HermesRealtime.Attempts
