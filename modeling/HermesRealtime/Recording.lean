import HermesRealtime.Timelines
import Mathlib.Control.Monad.Basic

/-!
An observation is recorded twice, first by the reducer of interruptions and then in the trace. Each
of the two refuses some observations, for reasons of its own. What the reducer refuses leaves no
mark; what the reducer takes and the trace refuses stays in the reducer, although the call raises.
-/

namespace HermesRealtime.Recording

open Values Text Timing Interruption InterruptionTimelineReducer Controller Operations SessionRuns
  Timelines Runs

section

variable (env : Env) (sessionId : String)

/-- The call of the sideband for one observation of its session. -/
def perform : Call → ControllerM Unit
  | .beginResponse responseId receivedNs providerAudioStartMs =>
    beginRealtimeResponse env sessionId responseId receivedNs providerAudioStartMs
  | .consume event => do
    let _ ← recordInterruptionEvent env sessionId event
    return ()

/-- The reducer and the trace of the session are what they were. -/
def Intact (ref : ℕ) (c c' : VoiceSessionController) : Prop :=
  (c'.heap ref).interruptions = (c.heap ref).interruptions ∧
    (c'.heap ref).trace = (c.heap ref).trace

/-- A call that raises leaves nothing behind. -/
def Atomic (ref : ℕ) (call : Call) (c : VoiceSessionController) : Prop :=
  ∀ e, (perform env sessionId call c).2 = .error e →
    Intact ref c (perform env sessionId call c).1

end

/-- The time the observation is recorded with. -/
def occurredNs : Call → ℤ
  | .beginResponse _ receivedNs _ => receivedNs
  | .consume event => event.occurredNs

/-- The observation is of the session it is given for. -/
def Addressed (sessionId : String) : Call → Prop
  | .beginResponse .. => True
  | .consume event => event.localSessionId = sessionId

/-- What the reducer asks of an observation: a response that is new to it, or the first event of its
kind for the active response, not before its first audio. -/
def Takes (r : InterruptionTimelineReducer) : Call → Prop
  | .beginResponse responseId receivedNs providerAudioStartMs =>
    validateIdentifier responseId 256 = .ok () ∧ 0 ≤ receivedNs ∧
      (∀ ms ∈ providerAudioStartMs, 0 ≤ ms) ∧ responseId ∉ r.observedResponseIds
  | .consume event =>
    event.localSessionId = r.localSessionId ∧ some event.responseId = r.activeResponseId ∧
      (∃ received ∈ r.activeResponseReceivedNs, received ≤ (event.occurredNs : ℤ)) ∧
      ∀ t, r.traceOf event.responseId = some t → stamp event.kind t = none

/-- Where the reducer takes the observation, it is not earlier than the last record of the trace. -/
def InOrder (sessionId : String) (call : Call) (s : WakeSession) : Prop :=
  sessionId = s.sessionId → Addressed sessionId call → Takes s.interruptions call →
    s.trace.Admits (occurredNs call)

/-! ### The reducer changes when it takes an observation -/

lemma beginResponse_ok_iff {r : InterruptionTimelineReducer} {responseId : String} {receivedNs : ℤ}
    {start : Option ℤ} : (∃ r', r.beginResponse responseId receivedNs start = .ok r') ↔
      Takes r (.beginResponse responseId receivedNs start) := by
  simp only [beginResponse, Takes]
  cases validateIdentifier responseId 256 with
  | error e => simp [bind, Except.bind]
  | ok u =>
    by_cases hns : receivedNs < 0
    · simp [bind, Except.bind, hns, throw, throwThe, MonadExceptOf.throw]
    cases start with
    | none =>
      by_cases hseen : responseId ∈ r.observedResponseIds <;>
        simp [bind, Except.bind, pure, Except.pure, hns, hseen, throw, throwThe,
          MonadExceptOf.throw, not_lt.mp hns]
    | some ms =>
      by_cases hms : ms < 0
      · simp [bind, Except.bind, hns, hms, throw, throwThe, MonadExceptOf.throw]
      · by_cases hseen : responseId ∈ r.observedResponseIds <;>
          simp [bind, Except.bind, pure, Except.pure, hns, hms, hseen, throw, throwThe,
            MonadExceptOf.throw, not_lt.mp hns, not_lt.mp hms]

lemma stamp_fresh (kind : InterruptionEventKind) (responseId : String) (start : Option ℤ) :
    stamp kind { responseId, providerAudioStartMs := start } = none := by
  cases kind <;> rfl

lemma consume_accepts_iff {r : InterruptionTimelineReducer} {event : InterruptionEvent} :
    (r.consume event).2 = true ↔ Takes r (.consume event) := by
  simp only [consume, Takes]
  by_cases hsession : event.localSessionId = r.localSessionId
  case neg => simp [hsession]
  by_cases hresponse : some event.responseId = r.activeResponseId
  case neg => simp [hresponse]
  cases hreceived : r.activeResponseReceivedNs with
  | none => simp
  | some received =>
    by_cases hlate : (event.occurredNs : ℤ) < received
    · simp [hlate]
    · cases htrace : r.traceOf event.responseId with
      | none =>
        simp [hsession, hresponse, hlate, not_lt.mp hlate, applyEvent_eq, stamp_fresh]
      | some t =>
        cases hstamp : stamp event.kind t <;>
          simp [hsession, hresponse, hlate, not_lt.mp hlate, applyEvent_eq, hstamp]

lemma beginResponse_changes {r r' : InterruptionTimelineReducer} {responseId : String}
    {receivedNs : ℤ} {start : Option ℤ}
    (h : r.beginResponse responseId receivedNs start = .ok r') : r' ≠ r := by
  rintro rfl
  unfold beginResponse at h
  have hids := congrArg (Except.map observedResponseIds) h
  simp only [bind, Except.bind, pure, Except.pure] at hids
  cases hvalid : validateIdentifier responseId 256 with
  | error e => simp [hvalid, Except.map] at hids
  | ok u =>
    simp only [hvalid] at hids
    split_ifs at hids <;> simp [Except.map, throw, throwThe, MonadExceptOf.throw] at hids

lemma applyEvent_changes {t t' : InterruptionTrace} {event : InterruptionEvent}
    (h : applyEvent t event = some t') : t' ≠ t ∧ t'.responseId = t.responseId := by
  rw [applyEvent_eq] at h
  split_ifs at h with hset
  have hnoted : Noted event t t' := by
    have hunset : stamp event.kind t = none := by simpa using hset
    exact Option.some.inj h ▸ note_noted hunset
  refine ⟨?_, hnoted.responseId⟩
  rintro rfl
  cases hnoted.unset.symm.trans hnoted.set

lemma updateTrace_changes {r : InterruptionTimelineReducer} {t t' : InterruptionTrace}
    (hmem : t ∈ r.traces) (hid : t'.responseId = t.responseId) (hne : t' ≠ t) :
    r.updateTrace t' ≠ r := by
  intro h
  have htraces := congrArg traces h
  have hall := List.map_inj_left.mp (htraces.trans (List.map_id _).symm) t hmem
  rw [if_pos hid.symm] at hall
  exact hne hall

lemma consume_changes {r : InterruptionTimelineReducer} {event : InterruptionEvent}
    (h : (r.consume event).2 = true) : (r.consume event).1 ≠ r := by
  unfold consume at h ⊢
  split_ifs at h ⊢
  cases htrace : r.traceOf event.responseId with
  | none =>
    -- a trace has been opened
    simp only [htrace] at h ⊢
    split at h
    · intro hsame
      have hlength := congrArg (fun r => r.traces.length) hsame
      simp [updateTrace] at hlength
    · cases h
  | some t =>
    simp only [htrace] at h ⊢
    split at h
    · next t' happly =>
      obtain ⟨hne, hid⟩ := applyEvent_changes happly
      exact updateTrace_changes (List.mem_of_find?_eq_some htrace) hid hne
    · cases h

/-! ### The reducer, then the trace -/

section

variable {env : Env} {c : VoiceSessionController} {ref : ℕ}

lemma record_at {t : SessionTrace} {clock : Clock} {name : String} {source : TimingEventSource}
    {data : JsonDict} {ns : ℤ} (hdata : validJsonFields data = true) :
    (∃ e, t.record clock name source data (some ns) = .error e) ↔ ¬ t.Admits ns := by
  by_cases h : t.Admits ns <;> simp [SessionTrace.record, h, hdata]

/-- What the trace is told of a response, and of an observation. -/
def responseData (responseId : String) (providerAudioStartMs : Option ℤ) : JsonDict :=
  ("response_id", .str responseId) :: match providerAudioStartMs with
    | some ms => [("provider_audio_start_ms", .int ms)]
    | none => []

def observationData (event : InterruptionEvent) : JsonDict :=
  ("response_id", .str event.responseId) :: match event.userSpeechOnsetMs with
    | some ms => [("user_speech_onset_ms", .float (.finite false ms))]
    | none => []

lemma responseData_valid (responseId : String) (start : Option ℤ) :
    validJsonFields (responseData responseId start) = true := by
  cases start <;> rfl

lemma observationData_valid (event : InterruptionEvent) :
    validJsonFields (observationData event) = true := by
  unfold observationData
  cases event.userSpeechOnsetMs <;> rfl

/-- What both calls do once the reducer has taken the observation. -/
def takeAndRecord (env : Env) (ref : ℕ) (r : InterruptionTimelineReducer) (name : String)
    (source : TimingEventSource) (data : JsonDict) (ns : ℤ) : ControllerM Unit := do
  modifySession ref fun s => { s with interruptions := r }
  recordTrace env ref name source data (some ns)

/-- The reducer has changed by then, so a refusal of the trace comes too late. -/
lemma takeAndRecord_atomic {r : InterruptionTimelineReducer} {name : String}
    {source : TimingEventSource} {data : JsonDict} {ns : ℤ} (hdata : validJsonFields data = true)
    (hchanged : r ≠ (c.heap ref).interruptions) :
    (∀ e, (takeAndRecord env ref r name source data ns c).2 = .error e →
      Intact ref c (takeAndRecord env ref r name source data ns c).1) ↔
        (c.heap ref).trace.Admits ns := by
  rw [takeAndRecord, Op.bind_apply, modifySession_apply]
  simp only [recordTrace_apply, setSession_heap]
  cases hrecord : (c.heap ref).trace.record env.clock name source data (some ns) with
  | ok trace =>
    have hadmits : (c.heap ref).trace.Admits ns := by
      by_contra h
      obtain ⟨e, he⟩ := (record_at hdata).mpr h
      cases hrecord.symm.trans he
    simp [hadmits]
  | error e =>
    have hlate := (record_at hdata).mp ⟨e, hrecord⟩
    refine iff_of_false (fun h => ?_) hlate
    exact hchanged (by simpa using (h e rfl).1)

variable {sessionId : String}

lemma atomic_of_unchanged {call : Call} (h : (perform env sessionId call c).1 = c) :
    Atomic env sessionId ref call c := by
  intro e _
  rw [h]
  exact ⟨rfl, rfl⟩

lemma atomic_of_stale {call : Call}
    (h : requireActiveSession sessionId c = (c, .error (.staleControlMessage "stale session id"))) :
    Atomic env sessionId ref call c := by
  refine atomic_of_unchanged ?_
  cases call with
  | beginResponse responseId receivedNs start =>
    simp only [perform]
    unfold beginRealtimeResponse
    rw [Op.bind_of_error h]
  | consume event =>
    rw [perform, Op.bind_pure_fst]
    unfold recordInterruptionEvent
    rw [Op.bind_of_error h]

lemma begin_atomic (hactive : c.activeSession = some ref) (responseId : String) (receivedNs : ℤ)
    (start : Option ℤ) :
    Atomic env (c.heap ref).sessionId ref (.beginResponse responseId receivedNs start) c ↔
      (Takes (c.heap ref).interruptions (.beginResponse responseId receivedNs start) →
        (c.heap ref).trace.Admits receivedNs) := by
  have hcall : perform env (c.heap ref).sessionId (.beginResponse responseId receivedNs start) c =
      ((Op.ofExcept ((c.heap ref).interruptions.beginResponse responseId receivedNs start) >>=
        fun r => takeAndRecord env ref r "response_first_audio" .openai
          (responseData responseId start) receivedNs) : ControllerM Unit) c := by
    simp only [perform]
    unfold beginRealtimeResponse
    rw [Op.bind_of_ok (requireActiveSession_of_active hactive)]
    rfl
  cases hbegin : (c.heap ref).interruptions.beginResponse responseId receivedNs start with
  | error e =>
    have hsame : (perform env (c.heap ref).sessionId
        (.beginResponse responseId receivedNs start) c).1 = c := by
      rw [hcall, hbegin, Op.bind_apply, Op.ofExcept_apply]
    refine iff_of_true (atomic_of_unchanged hsame) fun htakes => ?_
    obtain ⟨r', hr⟩ := beginResponse_ok_iff.mpr htakes
    cases hbegin.symm.trans hr
  | ok r =>
    have htakes : Takes (c.heap ref).interruptions (.beginResponse responseId receivedNs start) :=
      beginResponse_ok_iff.mp ⟨r, hbegin⟩
    rw [Atomic, hcall, hbegin, Op.bind_of_ok (Op.ofExcept_apply (.ok r) c)]
    exact (takeAndRecord_atomic (responseData_valid _ _) (beginResponse_changes hbegin)).trans
      (imp_iff_right htakes).symm

variable (env) in
lemma recordInterruptionEvent_own (hactive : c.activeSession = some ref) {event : InterruptionEvent}
    (hevent : event.localSessionId = (c.heap ref).sessionId) :
    recordInterruptionEvent env (c.heap ref).sessionId event c =
      let r := (c.heap ref).interruptions.consume event
      if r.2 then
        (do
          takeAndRecord env ref r.1 event.kind.value
            (if event.kind = .playbackSuppressed ∨ event.kind = .listeningRestored then .browser
              else .openai) (observationData event) event.occurredNs
          return true : ControllerM Bool) c
      else (setSession c ref { c.heap ref with interruptions := r.1 }, .ok false) := by
  unfold recordInterruptionEvent
  rw [Op.bind_of_ok (requireActiveSession_of_active hactive), if_neg (not_not.mpr hevent),
    Op.get_bind]
  rcases (c.heap ref).interruptions.consume event with ⟨r, accepted⟩
  cases accepted <;> rfl

lemma consume_atomic (hactive : c.activeSession = some ref) {event : InterruptionEvent}
    (hevent : event.localSessionId = (c.heap ref).sessionId) :
    Atomic env (c.heap ref).sessionId ref (.consume event) c ↔
      (Takes (c.heap ref).interruptions (.consume event) →
        (c.heap ref).trace.Admits event.occurredNs) := by
  have hown := recordInterruptionEvent_own env hactive hevent
  by_cases haccepted : ((c.heap ref).interruptions.consume event).2 = true
  · simp only [haccepted, if_true] at hown
    have hcall : perform env (c.heap ref).sessionId (.consume event) c =
        takeAndRecord env ref ((c.heap ref).interruptions.consume event).1 event.kind.value
          (if event.kind = .playbackSuppressed ∨ event.kind = .listeningRestored then .browser
            else .openai) (observationData event) event.occurredNs c := by
      rw [perform, Op.bind_apply, hown]
      exact Op.bind_pure_unit _ true c
    rw [Atomic, hcall]
    exact (takeAndRecord_atomic (observationData_valid event) (consume_changes haccepted)).trans
      (imp_iff_right (consume_accepts_iff.mp haccepted)).symm
  · simp only [haccepted, Bool.false_eq_true, if_false] at hown
    rw [Atomic, perform, Op.bind_of_ok hown]
    exact iff_of_true (fun e he => by cases he) fun htakes =>
      absurd (consume_accepts_iff.mpr htakes) haccepted

/-- **Recording is atomic exactly in order.** A call that raises leaves the reducer and the trace of
the active session as they were, unless the reducer takes an observation that is earlier than the
last record of the trace. -/
theorem recording_atomic_iff (hactive : c.activeSession = some ref) (call : Call) :
    Atomic env sessionId ref call c ↔ InOrder sessionId call (c.heap ref) := by
  by_cases hid : sessionId = (c.heap ref).sessionId
  · subst hid
    cases call with
    | beginResponse responseId receivedNs start =>
      rw [begin_atomic hactive]
      simp [InOrder, Addressed, occurredNs]
    | consume event =>
      by_cases hevent : event.localSessionId = (c.heap ref).sessionId
      · rw [consume_atomic hactive hevent]
        simp [InOrder, Addressed, occurredNs, hevent]
      · refine iff_of_true (atomic_of_unchanged ?_) fun _ haddressed => absurd haddressed hevent
        rw [perform, Op.bind_pure_fst]
        unfold recordInterruptionEvent
        rw [Op.bind_of_ok (requireActiveSession_of_active hactive)]
        simp [hevent]
  · refine iff_of_true (atomic_of_stale ?_) fun h => absurd h hid
    exact requireActiveSession_of_stale fun other hother => by
      rw [hactive, Option.some_inj] at hother
      exact hother ▸ Ne.symm hid

end

/-- A page has started, and the first response has been heard after ten nanoseconds. -/
def firstHeard : List (Env × Action) :=
  [(stillEnv, .activate "voice-one-01" "token" 0 (some ⟨1⟩)),
   (stillEnv, .control 0 "voice-one-01" (.ok (.pageReady "voice-one-01"))),
   (stillEnv, .control 1 "voice-one-01" (.ok (.pageStarted "voice-one-01"))),
   (stillEnv, .beginResponse "voice-one-01" "resp-1" 10 none)]

theorem recording_atomic_later : ∃ w, Run step (fun _ _ => True) (start {}) firstHeard w ∧
    Atomic stillEnv "voice-one-01" 0 (.beginResponse "resp-2" 12 none) w.controller := by
  have hexec : (exec step (fun _ _ => true) (start {}) firstHeard).map
      (fun w => (w.controller.activeSession, (w.controller.heap 0).trace.lastNs)) =
      some (some 0, some 10) := by
    decide +kernel
  obtain ⟨w, hw, hfacts⟩ := Option.map_eq_some_iff.mp hexec
  obtain ⟨hactive, hlast⟩ := by simpa only [Prod.mk.injEq] using hfacts
  refine ⟨w, run_of_exec (C := fun _ _ => True) (fun _ _ _ => trivial) _ _ hw, ?_⟩
  refine (recording_atomic_iff hactive _).mpr fun _ _ _ last hmem => ?_
  rw [hlast, Option.mem_some_iff] at hmem
  rw [← hmem]
  decide

/-- A second response that is given an earlier time is refused, and so is the retry with a later
time: the reducer has observed it. -/
theorem recording_halfway : ∃ w, Run step (fun _ _ => True) (start {}) firstHeard w ∧
    w.controller.activeSession = some 0 ∧
    ¬ Atomic stillEnv "voice-one-01" 0 (.beginResponse "resp-2" 5 none) w.controller ∧
    (perform stillEnv "voice-one-01" (.beginResponse "resp-2" 12 none)
      (perform stillEnv "voice-one-01" (.beginResponse "resp-2" 5 none) w.controller).1).2 =
        .error (.valueError "response_id was already observed") := by
  have hexec : (exec step (fun _ _ => true) (start {}) firstHeard).map
      (fun w => (w.controller.activeSession, (w.controller.heap 0).interruptions.activeResponseId,
        perform stillEnv "voice-one-01" (.beginResponse "resp-2" 5 none) w.controller |>.2)) =
      some (some 0, some "resp-1",
        .error (.valueError "timing record monotonic_ns must be non-decreasing")) := by
    decide +kernel
  have hafter : (exec step (fun _ _ => true) (start {}) firstHeard).map
      (fun w =>
        let refused := (perform stillEnv "voice-one-01" (.beginResponse "resp-2" 5 none)
          w.controller).1
        ((refused.heap 0).interruptions.activeResponseId,
          (perform stillEnv "voice-one-01" (.beginResponse "resp-2" 12 none) refused).2)) =
      some (some "resp-2", .error (.valueError "response_id was already observed")) := by
    decide +kernel
  obtain ⟨w, hw, hfacts⟩ := Option.map_eq_some_iff.mp hexec
  obtain ⟨hactive, hbefore, hraised⟩ := by simpa only [Prod.mk.injEq] using hfacts
  rw [hw, Option.map_some, Option.some_inj, Prod.mk.injEq] at hafter
  refine ⟨w, run_of_exec (C := fun _ _ => True) (fun _ _ _ => trivial) _ _ hw, hactive,
    fun hatomic => ?_, hafter.2⟩
  have hsame := congrArg activeResponseId (hatomic _ hraised).1
  rw [hafter.1, hbefore] at hsame
  simp at hsame

end HermesRealtime.Recording
