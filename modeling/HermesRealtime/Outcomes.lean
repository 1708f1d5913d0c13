import HermesRealtime.Changes

/-!
All observers of a session agree on how it ended: the reports of its coordinator, the messages
that tell the page, and the recorded result all speak of the first request that began a teardown
of it.
-/

namespace HermesRealtime.Outcomes

open Values Text Protocol Phases Timing Interruption Teardown Controller Operations SessionRuns
  Lifecycle Bookkeeping CriticalSections Changes Runs

variable {w w' : World} {k : Smooth} {c c' : VoiceSessionController} {ref : ℕ}

/-- The request a session's coordinator runs with. -/
def requestOf (s : WakeSession) : Option TeardownRequest :=
  s.teardown.task.map TeardownRun.request

/-- The request of an observation that a teardown of the session has begun. -/
def beginning (ref : ℕ) : Observation → Option TeardownRequest
  | .requested r request _ => if r = ref then some request else none
  | _ => none

/-- The first request that began a teardown of the session. -/
def firstRequest (log : List Observation) (ref : ℕ) : Option TeardownRequest :=
  log.findSome? (beginning ref)

lemma firstRequest_append (log l : List Observation) (ref : ℕ) :
    firstRequest (log ++ l) ref = (firstRequest log ref).or (firstRequest l ref) := by
  simp [firstRequest, List.findSome?_append]

/-- What is told of anything else does not count. -/
lemma firstRequest_of_none {l : List Observation} (h : ∀ o ∈ l, beginning ref o = none) :
    firstRequest l ref = none := by
  rw [firstRequest, List.findSome?_eq_none_iff]
  exact h

/-! ### Effects start no coordinator -/

/-- Sessions have the requests they had, and new ones have none. -/
def SameRequests (c c' : VoiceSessionController) : Prop :=
  c.created ≤ c'.created ∧ (∀ ref < c.created, requestOf (c'.heap ref) = requestOf (c.heap ref)) ∧
    ∀ ref, c.created ≤ ref → ref < c'.created → requestOf (c'.heap ref) = none

lemma SameRequests.refl (c : VoiceSessionController) : SameRequests c c :=
  ⟨le_rfl, fun _ _ => rfl, fun _ h h' => absurd h' (not_lt.mpr h)⟩

lemma SameRequests.trans {c₁ c₂ c₃ : VoiceSessionController} (h : SameRequests c₁ c₂)
    (h' : SameRequests c₂ c₃) : SameRequests c₁ c₃ := by
  refine ⟨h.1.trans h'.1, fun ref href => ?_, fun ref hold hnew => ?_⟩
  · rw [h'.2.1 ref (lt_of_lt_of_le href h.1), h.2.1 ref href]
  · by_cases hmid : ref < c₂.created
    · rw [h'.2.1 ref hmid, h.2.2 ref hold hmid]
    · exact h'.2.2 ref (not_lt.mp hmid) hnew

lemma SameRequests.update {s' : WakeSession} (hcreated : c'.created = c.created)
    (hheap : c'.heap = Function.update c.heap ref s')
    (hs : requestOf s' = requestOf (c.heap ref)) : SameRequests c c' := by
  refine ⟨hcreated.ge, fun r hr => ?_, fun r hold hnew => by omega⟩
  rw [hheap]
  by_cases hsame : r = ref
  · subst hsame
    rw [Function.update_self, hs]
  · rw [Function.update_of_ne hsame]

lemma SameRequests.opening {sessionId : String} {s : WakeSession} (ho : Opening c c' sessionId s) :
    SameRequests c c' := by
  have hcreated := ho.created
  refine ⟨by omega, fun r hr => by rw [ho.old hr], fun r hold hnew => ?_⟩
  obtain rfl : r = c.created := by omega
  rw [ho.new, requestOf, ho.task, Option.map_none]

lemma touch_request {active : Prop} {s s' : WakeSession} (h : Touch active s s') :
    requestOf s' = requestOf s := by
  cases h with
  | observed | handleTaken | acknowledged => rfl
  | moved run run' hrun hmove => simp [requestOf, hrun, hmove.request]

lemma move_request {s s' : WakeSession} (h : Move k s s') : requestOf s' = requestOf s := by
  cases h with
  | connected | wentLive | raised => rfl
  | begunAgain state trace request hstate htask =>
    obtain ⟨run, hrun⟩ := Option.ne_none_iff_exists'.mp htask
    simp [requestOf, begunSession, TeardownCoordinator.start, hrun]

lemma effect_requests (h : Effect k c c') : SameRequests c c' := by
  cases h with
  | tables hsame hheap =>
    exact ⟨hsame.created.ge, fun r _ => by rw [hheap], fun r hold hnew => by
      rw [hsame.created] at hnew
      omega⟩
  | touched ref s' href hsame hheap htouch =>
      exact .update hsame.created hheap (touch_request htouch)
  | moved ref s' hactive hsame hheap hmove => exact .update hsame.created hheap (move_request hmove)
  | opened _ _ _ _ _ _ ho => exact .opening ho
  | openRaised _ _ _ _ _ ho => exact .opening ho
  | launchFailed _ _ _ _ ho => exact .opening ho
  | launchFailedRaised _ _ _ _ _ ho => exact .opening ho
  | closed ref state run hclosing => exact .update hclosing.created hclosing.heap rfl
  | closedRaised ref state run _ hclosing => exact .update hclosing.created hclosing.heap rfl

lemma effects_requests (h : Effects k c c') : SameRequests c c' := by
  induction h with
  | refl => exact .refl _
  | tail _ heffect ih => exact ih.trans (effect_requests heffect)

/-! ### The invariant -/

/-- The log and the coordinators agree. -/
structure Agreed (w : World) : Prop where
  first : ∀ ref < w.controller.created,
    firstRequest w.log ref = requestOf (w.controller.heap ref)
  unborn : ∀ ref, w.controller.created ≤ ref → firstRequest w.log ref = none
  reported : ∀ ref report, .reported ref report ∈ w.log → ref < w.controller.created ∧
    requestOf (w.controller.heap ref) = some report.request
  answered : ∀ sessionId outcome, .answered sessionId outcome ∈ w.log →
    ∃ ref < w.controller.created, (w.controller.heap ref).sessionId = sessionId ∧
      ∃ request, requestOf (w.controller.heap ref) = some request ∧ outcome = request.outcome

/-- A session that has a request keeps it. -/
lemma persists_request (h : Persists c c') (href : ref < c.created) {request : TeardownRequest}
    (hrequest : requestOf (c.heap ref) = some request) :
    requestOf (c'.heap ref) = some request := by
  obtain ⟨run, hrun, rfl⟩ := Option.map_eq_some_iff.mp hrequest
  obtain ⟨run', hrun', hsame⟩ := h.task ref href run hrun
  rw [requestOf, hrun', Option.map_some, hsame]

/-- What the log has told stays true, and what it tells now is true. -/
lemma Agreed.keep {l : List Observation} (hw : Agreed w) (hlog : w'.log = w.log ++ l)
    (hkept : Persists w.controller w'.controller)
    (hfirst : ∀ ref < w'.controller.created, requestOf (w'.controller.heap ref) =
      (firstRequest w.log ref).or (firstRequest l ref))
    (hunborn : ∀ ref, w'.controller.created ≤ ref → firstRequest l ref = none)
    (hreported : ∀ ref report, .reported ref report ∈ l → ref < w'.controller.created ∧
      requestOf (w'.controller.heap ref) = some report.request)
    (hanswered : ∀ sessionId outcome, .answered sessionId outcome ∈ l →
      ∃ ref < w'.controller.created, (w'.controller.heap ref).sessionId = sessionId ∧
        ∃ request, requestOf (w'.controller.heap ref) = some request ∧
          outcome = request.outcome) : Agreed w' := by
  have hlt {ref : ℕ} (href : ref < w.controller.created) : ref < w'.controller.created :=
    lt_of_lt_of_le href hkept.created
  refine ⟨fun ref href => ?_, fun ref href => ?_, fun ref report href => ?_,
    fun sessionId outcome hs => ?_⟩
  · rw [hlog, firstRequest_append, hfirst ref href]
  · rw [hlog, firstRequest_append, hw.unborn ref (hkept.created.trans href), hunborn ref href]
    rfl
  · rw [hlog, List.mem_append] at href
    rcases href with href | href
    · obtain ⟨href, hrequest⟩ := hw.reported ref report href
      exact ⟨hlt href, persists_request hkept href hrequest⟩
    · exact hreported ref report href
  · rw [hlog, List.mem_append] at hs
    rcases hs with hs | hs
    · obtain ⟨ref, href, hid, request, hrequest, houtcome⟩ := hw.answered sessionId outcome hs
      exact ⟨ref, hlt href, (hkept.id ref href).trans hid, request,
        persists_request hkept href hrequest, houtcome⟩
    · exact hanswered sessionId outcome hs

/-- The requests when no teardown begins. -/
lemma Agreed.same {l : List Observation} (hw : Agreed w)
    (hsame : SameRequests w.controller w'.controller)
    (hl : ∀ ref, firstRequest l ref = none) (ref : ℕ) (href : ref < w'.controller.created) :
    requestOf (w'.controller.heap ref) = (firstRequest w.log ref).or (firstRequest l ref) := by
  rw [hl, Option.or_none]
  by_cases hold : ref < w.controller.created
  · rw [hsame.2.1 ref hold, hw.first ref hold]
  · rw [hsame.2.2 ref (not_lt.mp hold) href, hw.unborn ref (not_lt.mp hold)]

lemma agreed_change (hw : Agreed w) (hg : Good w.controller) (hwaits : Waits w)
    (h : Change k w w') : Agreed w' := by
  have hkept := (change_keeps h hg).2
  -- a change that begins no teardown
  have hquiet {l : List Observation} (hlog : w'.log = w.log ++ l)
      (hsame : SameRequests w.controller w'.controller)
      (hl : ∀ o ∈ l, ∀ ref, beginning ref o = none)
      (hreported : ∀ ref report, .reported ref report ∉ l)
      (hanswered : ∀ sessionId outcome, .answered sessionId outcome ∉ l) : Agreed w' := by
    have hnone (ref : ℕ) : firstRequest l ref = none := firstRequest_of_none fun o ho => hl o ho ref
    exact hw.keep hlog hkept (hw.same hsame hnone) (fun ref _ => hnone ref)
      (fun ref report h => absurd h (hreported ref report))
      fun sessionId outcome h => absurd h (hanswered sessionId outcome)
  cases h with
  | internal heffects hlog =>
    exact hquiet (l := []) (by simpa using hlog) (effects_requests heffects) (by simp) (by simp)
      (by simp)
  | fired n ref d href hd harmed hfree hcontroller hlog =>
    refine hquiet (l := []) (by simpa using hlog) ?_ (by simp) (by simp) (by simp)
    rw [hcontroller]
    exact .update rfl rfl rfl
  | requested ref request byDeadline c₁ hbegun heffects hstarting hlog =>
    obtain ⟨-, href, htask, -⟩ := begun_facts hg hbegun
    have hsame := effects_requests heffects
    have hcreated : c₁.created = w.controller.created := by
      obtain ⟨state, trace, hactive, htables⟩ := hbegun
      exact htables.created
    have hother {r : ℕ} (hr : r ≠ ref) : c₁.heap r = w.controller.heap r := by
      obtain ⟨state, trace, hactive, htables, hstate, hheap⟩ := hbegun
      rw [hheap, Function.update_of_ne hr]
    refine hw.keep hlog hkept (fun r hr => ?_) (fun r hr => ?_) (by simp) (by simp)
    · by_cases hsess : r = ref
      · subst hsess
        rw [hsame.2.1 r href, hw.first r (hcreated ▸ href)]
        simp only [requestOf, htask, firstRequest, beginning, Option.map_some, List.findSome?_cons,
          if_true]
        rcases (w.controller.heap r).teardown.task with _ | run <;> rfl
      · rw [firstRequest_of_none (l := [_]) (by simp [beginning, Ne.symm hsess]), Option.or_none]
        by_cases hold : r < w.controller.created
        · rw [hsame.2.1 r (by rwa [hcreated]), hother hsess, hw.first r hold]
        · rw [hsame.2.2 r (by rw [hcreated]; exact not_lt.mp hold) hr, hw.unborn r (not_lt.mp hold)]
    · refine firstRequest_of_none ?_
      have hlt := lt_of_lt_of_le href hsame.1
      have hne : ref ≠ r := by omega
      simp [beginning, hne]
  | pageStarted ref hactive heffects hlive hlog =>
    exact hquiet hlog (effects_requests heffects) (by simp [beginning]) (by simp) (by simp)
  | launched sessionId returned hidle heffect hcreated hid hlog =>
    refine hquiet hlog (effect_requests heffect) (fun o ho r => ?_) (fun r report h => ?_)
      fun s outcome h => ?_
    · cases returned
      · obtain rfl := List.mem_singleton.mp ho
        rfl
      · rcases List.mem_cons.mp ho with rfl | ho
        · rfl
        · obtain rfl := List.mem_singleton.mp ho
          rfl
    · cases returned <;> simp at h
    · cases returned <;> simp at h
  | delivered n ref shield answers run hn hrun hcontroller hlog =>
    obtain ⟨href, htask, hanswers⟩ := hwaits n ref shield answers hn
    obtain ⟨-, hrun⟩ := taskOf_some hrun
    have hrequest : requestOf (w'.controller.heap ref) = some run.request := by
      rw [hcontroller, requestOf, hrun, Option.map_some]
    have hnone (r : ℕ) : firstRequest (delivered ref run.report answers) r = none := by
      refine firstRequest_of_none fun o ho => ?_
      cases answers <;> simp [delivered] at ho <;> rcases ho with rfl | rfl <;> rfl
    refine hw.keep hlog hkept (hw.same (hcontroller ▸ .refl _) hnone) (fun r _ => hnone r)
      (fun r report hr => ?_) fun s outcome hs => ?_
    · obtain ⟨rfl, rfl⟩ : r = ref ∧ report = run.report := by
        cases answers <;> simpa [delivered] using hr
      exact ⟨hcontroller ▸ href, hrequest⟩
    · rcases answers with _ | sessionId
      · simp [delivered] at hs
      · obtain ⟨rfl, rfl⟩ : s = sessionId ∧ outcome = run.report.request.outcome := by
          simpa [delivered] using hs
        exact ⟨ref, hcontroller ▸ href, by rw [hcontroller, hanswers s rfl], _, hrequest, rfl⟩
  | answered sessionId hlast hcontroller hlog =>
    obtain ⟨ref, href, hid, run, hrun, hresult⟩ := hg.lastClosed sessionId hlast
    have hnone (r : ℕ) (outcome : SessionOutcome) :
        firstRequest [.answered sessionId outcome] r = none :=
      firstRequest_of_none (by simp [beginning])
    refine hw.keep hlog hkept (hw.same (hcontroller ▸ .refl _) fun r => hnone r _)
      (fun r _ => hnone r _) (by simp) fun s outcome hs => ?_
    obtain ⟨rfl, rfl⟩ : s = sessionId ∧ outcome =
        ((w.controller.terminalResults sessionId).map (·.outcome)).getD .completed := by
      simpa using hs
    refine ⟨ref, hcontroller ▸ href, by rw [hcontroller, hid], run.request, ?_, ?_⟩
    · rw [hcontroller, requestOf, hrun, Option.map_some]
    · rw [hresult, Option.map_some, Option.getD_some, closingResult]

lemma agreed_run {g : Config} {C : World → Env × Action → Prop} {as : List (Env × Action)}
    (h : Run step C (start g) as w) : Sound w ∧ Agreed w := by
  refine h.invariant (I := fun w => Sound w ∧ Agreed w) ⟨sound_start g, ?_⟩ fun t x u ht _ hs => ?_
  · refine ⟨?_, ?_, ?_, ?_⟩ <;> simp [start, firstRequest]
  · have hchange := step_change ht.1.good ht.1.waits hs
    exact ⟨ht.1.change hchange, agreed_change ht.2 ht.1.good ht.1.waits hchange⟩

/-- A recorded result tells of the request of the session's coordinator. -/
lemma result_of_request (hg : Good c) (href : ref < c.created) {request : TeardownRequest}
    (hrequest : requestOf (c.heap ref) = some request) {result : TerminalSessionResult}
    (hresult : c.terminalResults (c.heap ref).sessionId = some result) :
    result.outcome = request.outcome ∧ result.error = request.error := by
  obtain ⟨r, hr, -, hid, haccounts⟩ := hg.results _ result hresult
  obtain rfl := hg.ids r hr ref href hid
  obtain ⟨run, hrun, rfl⟩ := Option.map_eq_some_iff.mp hrequest
  rcases haccounts with ⟨hnone, -⟩ | ⟨run', hrun', rfl⟩
  · simp [hrun] at hnone
  · obtain rfl : run = run' := by simpa [hrun] using hrun'
    exact ⟨rfl, rfl⟩

/-- **All observers agree**: every report, every message that a session is closed, and the
recorded result carry the outcome of the first request that began a teardown of the session; the
result also carries its error, and does not change any more. -/
theorem observers_agree {g : Config} {C : World → Env × Action → Prop}
    {as : List (Env × Action)} (h : Run step C (start g) as w) :
    (∀ ref report, .reported ref report ∈ w.log →
      ∃ request, firstRequest w.log ref = some request ∧
        report.request.outcome = request.outcome) ∧
    (∀ sessionId outcome, .answered sessionId outcome ∈ w.log →
      ∃ ref < w.controller.created, (w.controller.heap ref).sessionId = sessionId ∧
        ∃ request, firstRequest w.log ref = some request ∧ outcome = request.outcome) ∧
    (∀ ref < w.controller.created, ∀ request, firstRequest w.log ref = some request →
      ∀ result, w.controller.terminalResults (w.controller.heap ref).sessionId = some result ∨
          w.controller.futures ref = some result →
        result.outcome = request.outcome ∧ result.error = request.error) ∧
    (∀ bs w', Run step C w bs w' → ∀ sessionId result,
      w.controller.terminalResults sessionId = some result →
        w'.controller.terminalResults sessionId = some result) := by
  obtain ⟨hsound, hagreed⟩ := agreed_run h
  refine ⟨fun ref report href => ?_, fun sessionId outcome hs => ?_,
    fun ref href request hrequest result hresult => ?_, fun bs w' hrun => ?_⟩
  · obtain ⟨href, hrequest⟩ := hagreed.reported ref report href
    exact ⟨report.request, by rw [hagreed.first ref href, hrequest], rfl⟩
  · obtain ⟨ref, href, hid, request, hrequest, houtcome⟩ := hagreed.answered sessionId outcome hs
    exact ⟨ref, href, hid, request, by rw [hagreed.first ref href, hrequest], houtcome⟩
  · rw [hagreed.first ref href] at hrequest
    refine result_of_request hsound.good href hrequest ?_
    rcases hresult with hresult | hresult
    · exact hresult
    · exact (hsound.good.resolved ref result hresult).2
  · exact (hsound.run hrun).2.results

/-- A session that the page stops, that the service wants to fail meanwhile, and whose page
repeats its last message after the end. -/
def stoppedTwice : List (Env × Action) :=
  [(stillEnv, .activate "voice-one-01" "token" 0 (some ⟨1⟩)),
   (stillEnv, .control 0 "voice-one-01" (.ok (.stop "voice-one-01" .button))),
   (stillEnv, .request 1 "voice-one-01" ⟨.failed, .transportFailure, some "lost"⟩ true)] ++
  askPage ++
  [(stillEnv, .control 2 "voice-one-01" (.ok (.teardownComplete "voice-one-01")))] ++ closeDown ++
  [(stillEnv, .deliver 1), (stillEnv, .deliver 2),
   (stillEnv, .control 3 "voice-one-01" (.ok (.teardownComplete "voice-one-01")))]

theorem observers_agree_stopped :
    ∃ w : World, (∃ report, .reported 0 report ∈ w.log) ∧
      (∀ report, .reported 0 report ∈ w.log → report.request.outcome = .completed) ∧
      (∃ result, w.controller.terminalResults "voice-one-01" = some result ∧
        result.outcome = .completed ∧ result.error = none) := by
  have hexec : (exec step (fun _ _ => true) (start {}) stoppedTwice).map
      (fun w => (w.controller.created, (w.controller.heap 0).sessionId,
        w.controller.terminalResults "voice-one-01", firstRequest w.log 0,
        decide (.reported 0 ⟨⟨.completed, .button, none⟩, true, []⟩ ∈ w.log))) =
      some (1, "voice-one-01", some ⟨"voice-one-01", .completed, none⟩,
        some ⟨.completed, .button, none⟩, true) := by
    decide +kernel
  obtain ⟨w, hw, hfacts⟩ := Option.map_eq_some_iff.mp hexec
  obtain ⟨hcreated, hid, hresult, hfirst, hreport⟩ := by simpa only [Prod.mk.injEq] using hfacts
  have hrun := run_of_exec (C := fun _ _ => True) (fun _ _ _ => trivial) _ _ hw
  obtain ⟨hreported, -, hrecorded, -⟩ := observers_agree hrun
  refine ⟨w, ⟨_, of_decide_eq_true hreport⟩, fun report hr => ?_,
    _, hresult, ?_⟩
  · obtain ⟨request, hrequest, houtcome⟩ := hreported 0 report hr
    obtain rfl : ⟨.completed, .button, none⟩ = request := by simpa [hfirst] using hrequest
    exact houtcome
  · exact hrecorded 0 (by omega) _ hfirst _ (.inl (by rw [hid]; exact hresult))

end HermesRealtime.Outcomes
