import HermesRealtime.Lifecycle

/-!
The bookkeeping of the controller: which sessions are active and which are over, and what the
tables of terminal futures and results say of them. It holds in every state, whatever raises.
-/

namespace HermesRealtime.Bookkeeping

open Phases Timing Interruption Teardown Controller Operations SessionRuns Lifecycle

/-- The result of a session is that of its failed launch, or tells of the request its
coordinator runs with. -/
def Accounts (s : WakeSession) (result : TerminalSessionResult) : Prop :=
  s.teardown.task = none ∧ result = activationFailure s.sessionId ∨
    ∃ run, s.teardown.task = some run ∧ result = closingResult s run.request

/-- What holds of the controller in every state it can be in. -/
structure Good (c : VoiceSessionController) : Prop where
  active : ∀ ref, c.activeSession = some ref → ref < c.created ∧
    (c.heap ref).state.phase.Active ∧ (c.heap ref).resolvedResult = none
  inactive : ∀ ref < c.created, c.activeSession ≠ some ref → (c.heap ref).state.phase.Final
  ids : ∀ a < c.created, ∀ b < c.created, (c.heap a).sessionId = (c.heap b).sessionId → a = b
  started : ∀ ref < c.created, (c.heap ref).teardown.task ≠ none →
    ((c.heap ref).state.phase = .stopping ∨ (c.heap ref).state.phase.Final) ∧
      (c.heap ref).teardownMarked = true
  results : ∀ sessionId result, c.terminalResults sessionId = some result → ∃ ref < c.created,
    c.activeSession ≠ some ref ∧ (c.heap ref).sessionId = sessionId ∧ Accounts (c.heap ref) result
  lastClosed : ∀ sessionId, c.lastClosedSessionId = some sessionId → ∃ ref < c.created,
    (c.heap ref).sessionId = sessionId ∧ ∃ run, (c.heap ref).teardown.task = some run ∧
      c.terminalResults sessionId = some (closingResult (c.heap ref) run.request)
  promised : ∀ sessionId future, c.terminalFutures sessionId = some future →
    future < c.created ∧ (c.heap future).sessionId = sessionId ∧ c.futures future = none
  resolved : ∀ future result, c.futures future = some result → future < c.created ∧
    c.terminalResults (c.heap future).sessionId = some result

lemma Good.not_final {c : VoiceSessionController} (hg : Good c) {ref : ℕ}
    (hactive : c.activeSession = some ref) : ¬ (c.heap ref).state.phase.Final :=
  fun h => h.not_active (hg.active ref hactive).2.1

/-- An active session whose coordinator has been started is in `STOPPING`. -/
lemma Good.stopping {c : VoiceSessionController} (hg : Good c) {ref : ℕ}
    (hactive : c.activeSession = some ref) (htask : (c.heap ref).teardown.task ≠ none) :
    (c.heap ref).state.phase = .stopping :=
  (hg.started ref (hg.active ref hactive).1 htask).1.resolve_right (hg.not_final hactive)

lemma Accounts.of_record {active : Prop} {s s' : WakeSession} {result : TerminalSessionResult}
    (h : Accounts s result) (hrecord : RecordStep active s s')
    (hfinal : s.state.phase.Final) (hclosed : ¬ active) : Accounts s' result := by
  have hstate : s'.state = s.state := hrecord.state.resolve_right fun h => hclosed h.1
  rcases h with ⟨htask, rfl⟩ | ⟨run, hrun, rfl⟩
  · refine .inl ⟨?_, by rw [hrecord.id]⟩
    by_contra hstarted
    rcases hrecord.started hstarted with h | ⟨h, -⟩
    · exact h htask
    · rw [hstate] at h
      rcases hfinal with h' | h' <;> rw [h] at h' <;> simp at h'
  · obtain ⟨run', hrun', hrequest⟩ := hrecord.task run hrun
    exact .inr ⟨run', hrun', by rw [closingResult, closingResult, hrecord.id, hrequest]⟩

/-- Changes of records leave the bookkeeping intact. -/
lemma Good.records {c c' : VoiceSessionController} (hg : Good c) (hsame : SameTables c c')
    (hrecords : Records c c') : Good c' where
  active ref hactive := by
    rw [hsame.active] at hactive
    obtain ⟨href, hphase, hresult⟩ := hg.active ref hactive
    have hrecord := hrecords ref href
    refine ⟨hsame.created ▸ href, ?_, by rw [hrecord.result, hresult]⟩
    rcases hrecord.state with h | ⟨-, h⟩
    · rwa [h]
    · exact h
  inactive ref href hactive := by
    rw [hsame.created] at href
    rw [hsame.active] at hactive
    rcases (hrecords ref href).state with h | ⟨h, -⟩
    · rw [h]
      exact hg.inactive ref href hactive
    · exact absurd h hactive
  ids a ha b hb hid := by
    rw [hsame.created] at ha hb
    rw [(hrecords a ha).id, (hrecords b hb).id] at hid
    exact hg.ids a ha b hb hid
  started ref href htask := by
    rw [hsame.created] at href
    have hrecord := hrecords ref href
    rcases hrecord.started htask with h | ⟨hphase, hmarked⟩
    · obtain ⟨hphase, hmarked⟩ := hg.started ref href h
      refine ⟨?_, hrecord.marked hmarked⟩
      rcases hphase with hphase | hphase
      · exact .inl (hrecord.stays hphase)
      · rcases hrecord.state with hstate | ⟨hactive, -⟩
        · exact .inr (hstate ▸ hphase)
        · exact absurd hphase (hg.not_final hactive)
    · exact ⟨.inl hphase, hmarked⟩
  results sessionId result hresult := by
    rw [hsame.results] at hresult
    obtain ⟨ref, href, hactive, hid, haccounts⟩ := hg.results sessionId result hresult
    have hrecord := hrecords ref href
    exact ⟨ref, hsame.created ▸ href, hsame.active ▸ hactive, hrecord.id.trans hid,
      haccounts.of_record hrecord (hg.inactive ref href hactive) hactive⟩
  lastClosed sessionId hlast := by
    rw [hsame.lastClosed] at hlast
    obtain ⟨ref, href, hid, run, hrun, hresult⟩ := hg.lastClosed sessionId hlast
    obtain ⟨run', hrun', hrequest⟩ := (hrecords ref href).task run hrun
    refine ⟨ref, hsame.created ▸ href, (hrecords ref href).id.trans hid, run', hrun', ?_⟩
    rw [hsame.results, hresult, closingResult, closingResult, (hrecords ref href).id, hrequest]
  promised sessionId future hfuture := by
    rw [hsame.terminalFutures] at hfuture
    obtain ⟨href, hid, hpending⟩ := hg.promised sessionId future hfuture
    exact ⟨hsame.created ▸ href, (hrecords future href).id.trans hid, hsame.futures ▸ hpending⟩
  resolved future result hfuture := by
    rw [hsame.futures] at hfuture
    obtain ⟨href, hresult⟩ := hg.resolved future result hfuture
    exact ⟨hsame.created ▸ href, by rw [hsame.results, (hrecords future href).id, hresult]⟩

section Opening

variable {c c' : VoiceSessionController} {sessionId : String} {s : WakeSession}

/-- Opening a session, whether it stays open or not, leaves the bookkeeping intact. -/
lemma Good.opening (hg : Good c) (ho : Opening c c' sessionId s)
    (hslot : c'.activeSession = some c.created ∧ s.state.phase.Active ∧ s.resolvedResult = none ∨
      c'.activeSession = none ∧ s.state.phase.Final)
    (hlast : c'.lastClosedSessionId = none ∨ c'.lastClosedSessionId = c.lastClosedSessionId)
    (hresults : ∀ t, c'.terminalResults t = c.terminalResults t ∨
      t = sessionId ∧ c'.activeSession = none ∧
        c'.terminalResults t = some (activationFailure sessionId))
    (hterminal : ∀ t future, c'.terminalFutures t = some future →
      c.terminalFutures t = some future ∨
        t = sessionId ∧ future = c.created ∧ c'.futures future = none)
    (hfutures : ∀ future, c'.futures future = c.futures future ∨
      future = c.created ∧ c'.futures future = c'.terminalResults sessionId) : Good c' := by
  have hlt {ref : ℕ} (href : ref < c.created) : ref < c'.created := by rw [ho.created]; omega
  have hother {ref : ℕ} (href : ref < c.created) : c'.activeSession ≠ some ref := by
    rcases hslot with ⟨h, -⟩ | ⟨h, -⟩
    · rw [h, Ne, Option.some_inj]
      omega
    · simp [h]
  -- the results of other sessions are as they were
  have hold {ref : ℕ} (href : ref < c.created) :
      c'.terminalResults (c.heap ref).sessionId = c.terminalResults (c.heap ref).sessionId := by
    rcases hresults (c.heap ref).sessionId with h | ⟨h, -⟩
    · exact h
    · exact absurd h (ho.fresh ref href)
  refine ⟨fun ref hactive => ?_, fun ref href hactive => ?_, fun a ha b hb hid => ?_,
    fun ref href htask => ?_, fun t result hresult => ?_, fun t ht => ?_, fun t future ht => ?_,
    fun future result ht => ?_⟩
  · rcases hslot with ⟨h, hphase, hresult⟩ | ⟨h, -⟩
    · obtain rfl : c.created = ref := by simpa [h] using hactive
      rw [ho.new]
      exact ⟨by rw [ho.created]; omega, hphase, hresult⟩
    · simp [h] at hactive
  · rcases ho.cases href with ⟨href, hheap⟩ | ⟨rfl, hheap⟩
    · rw [hheap]
      exact hg.inactive ref href (by simp [ho.idle])
    · rcases hslot with ⟨h, -⟩ | ⟨-, h⟩
      · exact absurd h hactive
      · rwa [hheap]
  · rcases ho.cases ha with ⟨ha, hheapa⟩ | ⟨rfl, hheapa⟩ <;>
      rcases ho.cases hb with ⟨hb, hheapb⟩ | ⟨rfl, hheapb⟩
    · exact hg.ids a ha b hb (by rwa [hheapa, hheapb] at hid)
    · exact absurd (by rwa [hheapa, hheapb, ho.id] at hid) (ho.fresh a ha)
    · exact absurd (by rwa [hheapa, hheapb, ho.id, eq_comm] at hid) (ho.fresh b hb)
    · rfl
  · rcases ho.cases href with ⟨href, hheap⟩ | ⟨rfl, hheap⟩
    · rw [hheap] at htask ⊢
      exact hg.started ref href htask
    · rw [hheap] at htask
      exact absurd ho.task htask
  · rcases hresults t with h | ⟨rfl, hidle, h⟩
    · rw [h] at hresult
      obtain ⟨ref, href, -, hid, haccounts⟩ := hg.results t result hresult
      exact ⟨ref, hlt href, hother href, by rw [ho.old href]; exact hid,
        by rw [ho.old href]; exact haccounts⟩
    · obtain rfl : activationFailure t = result := by simpa [h] using hresult
      refine ⟨c.created, by rw [ho.created]; omega, by simp [hidle], by rw [ho.new, ho.id], ?_⟩
      rw [ho.new]
      exact .inl ⟨ho.task, by rw [ho.id]⟩
  · rcases hlast with h | h
    · simp [h] at ht
    · rw [h] at ht
      obtain ⟨ref, href, rfl, hrun⟩ := hg.lastClosed t ht
      refine ⟨ref, hlt href, by rw [ho.old href], ?_⟩
      rw [ho.old href, hold href]
      exact hrun
  · rcases hterminal t future ht with h | ⟨rfl, rfl, hpending⟩
    · obtain ⟨href, hid, hpending⟩ := hg.promised t future h
      refine ⟨hlt href, by rw [ho.old href]; exact hid, ?_⟩
      rcases hfutures future with h | ⟨rfl, -⟩
      · rw [h, hpending]
      · omega
    · exact ⟨by rw [ho.created]; omega, by rw [ho.new, ho.id], hpending⟩
  · by_cases hnew : future = c.created
    · subst hnew
      refine ⟨by rw [ho.created]; omega, ?_⟩
      rcases hfutures c.created with h | ⟨-, h⟩
      · rw [h] at ht
        exact absurd (hg.resolved _ _ ht).1 (lt_irrefl _)
      · rw [ho.new, ho.id, ← h, ht]
    · have h : c'.futures future = c.futures future := by
        rcases hfutures future with h | ⟨h, -⟩
        · exact h
        · exact absurd h hnew
      rw [h] at ht
      obtain ⟨href, hresult⟩ := hg.resolved future result ht
      exact ⟨hlt href, by rw [ho.old href, hold href, hresult]⟩

end Opening

section Closing

variable {c c' : VoiceSessionController} {ref : ℕ} {s' : WakeSession} {run : TeardownRun}

lemma closing_final (h : Closing c c' ref s' run) (hg : Good c) {r : ℕ} (hr : r < c'.created) :
    (c'.heap r).state.phase.Final := by
  by_cases hsame : r = ref
  · subst hsame
    rw [h.heap, Function.update_self]
    exact h.phase
  · rw [(h.record r).2.2.2.2 hsame]
    refine hg.inactive r (h.created ▸ hr) ?_
    rw [h.active, Ne, Option.some_inj]
    exact fun h => hsame h.symm

/-- A result that has been recorded is not that of the active session. -/
lemma Good.result_ne (hg : Good c) (hactive : c.activeSession = some ref) {t : String}
    {result : TerminalSessionResult} (h : c.terminalResults t = some result) :
    t ≠ (c.heap ref).sessionId := by
  rintro rfl
  obtain ⟨r, hr, hclosed, hid, -⟩ := hg.results _ result h
  obtain rfl := hg.ids r hr ref (hg.active ref hactive).1 hid
  exact hclosed hactive

/-- Closing the active session leaves the bookkeeping intact, whether its result has been
recorded, or an exception of the observer has kept it from being so. -/
lemma Good.closing (hg : Good c) (h : Closing c c' ref s' run)
    (htables : c'.lastClosedSessionId = c.lastClosedSessionId ∧
        c'.terminalResults = c.terminalResults ∧ c'.futures = c.futures ∧
        c'.terminalFutures = c.terminalFutures ∨
      c'.lastClosedSessionId = some (c.heap ref).sessionId ∧
        c'.terminalResults = Function.update c.terminalResults (c.heap ref).sessionId
          (some (closingResult (c.heap ref) run.request)) ∧
        (c'.futures = match c.terminalFutures (c.heap ref).sessionId with
          | some future => Function.update c.futures future
              (some ((c.futures future).getD (closingResult (c.heap ref) run.request)))
          | none => c.futures) ∧
        c'.terminalFutures = Function.update c.terminalFutures (c.heap ref).sessionId none) :
    Good c' := by
  obtain ⟨href, -, -⟩ := hg.active ref h.active
  have hresult (s : WakeSession) (hid : s.sessionId = (c.heap ref).sessionId) :
      closingResult s run.request = closingResult (c.heap ref) run.request := by
    rw [closingResult, closingResult, hid]
  have hkept {r : ℕ} (request : TeardownRequest) :
      closingResult (c'.heap r) request = closingResult (c.heap r) request := by
    rw [closingResult, closingResult, (h.record r).1]
  have haccounts {r : ℕ} {result : TerminalSessionResult} (h' : Accounts (c.heap r) result) :
      Accounts (c'.heap r) result := by
    rcases h' with ⟨htask, rfl⟩ | ⟨run', hrun', rfl⟩
    · exact .inl ⟨by rw [(h.record r).2.1, htask], by rw [(h.record r).1]⟩
    · exact .inr ⟨run', by rw [(h.record r).2.1, hrun'], (hkept _).symm⟩
  -- the results that were there before are still there
  have hmono {t : String} {result : TerminalSessionResult}
      (ht : c.terminalResults t = some result) : c'.terminalResults t = some result := by
    rcases htables with ⟨-, hr, -⟩ | ⟨-, hr, -⟩
    · rw [hr, ht]
    · rw [hr, Function.update_of_ne (hg.result_ne h.active ht), ht]
  have hown {t : String} (ht : t = (c.heap ref).sessionId)
      (hr : c'.terminalResults = Function.update c.terminalResults (c.heap ref).sessionId
        (some (closingResult (c.heap ref) run.request))) :
      c'.terminalResults t = some (closingResult (c.heap ref) run.request) := by
    rw [hr, ht, Function.update_self]
  refine ⟨fun r hactive => ?_, fun r hr _ => closing_final h hg hr, fun a ha b hb hid => ?_,
    fun r hr htask => ?_, fun t result ht => ?_, fun t ht => ?_, fun t future ht => ?_,
    fun future result ht => ?_⟩
  · simp [h.idle] at hactive
  · rw [h.created] at ha hb
    rw [(h.record a).1, (h.record b).1] at hid
    exact hg.ids a ha b hb hid
  · refine ⟨.inr (closing_final h hg hr), ?_⟩
    rw [(h.record r).2.1] at htask
    rw [(h.record r).2.2.1]
    exact (hg.started r (h.created ▸ hr) htask).2
  · have hold (ht : c.terminalResults t = some result) : ∃ r < c'.created,
        c'.activeSession ≠ some r ∧ (c'.heap r).sessionId = t ∧ Accounts (c'.heap r) result := by
      obtain ⟨r, hr, -, hid, hacc⟩ := hg.results t result ht
      exact ⟨r, by rwa [h.created], by simp [h.idle], by rw [(h.record r).1, hid], haccounts hacc⟩
    rcases htables with ⟨-, hr, -⟩ | ⟨-, hr, -⟩
    · exact hold (by rwa [hr] at ht)
    · by_cases hsame : t = (c.heap ref).sessionId
      · rw [hown hsame hr] at ht
        obtain rfl := Option.some_inj.mp ht
        refine ⟨ref, by rwa [h.created], by simp [h.idle], by rw [(h.record ref).1, hsame], ?_⟩
        exact haccounts (.inr ⟨run, h.task, rfl⟩)
      · exact hold (by rwa [hr, Function.update_of_ne hsame] at ht)
  · rcases htables with ⟨hl, -⟩ | ⟨hl, hr, -⟩
    · rw [hl] at ht
      obtain ⟨r, hr, hid, run', hrun', hres⟩ := hg.lastClosed t ht
      exact ⟨r, by rwa [h.created], by rw [(h.record r).1, hid], run',
        by rw [(h.record r).2.1, hrun'], by rw [hkept]; exact hmono hres⟩
    · obtain rfl : (c.heap ref).sessionId = t := by simpa [hl] using ht
      exact ⟨ref, by rwa [h.created], (h.record ref).1, run, by rw [(h.record ref).2.1, h.task],
        by rw [hkept]; exact hown rfl hr⟩
  · rcases htables with ⟨-, -, hf, htf⟩ | ⟨-, -, hf, htf⟩
    · rw [htf] at ht
      obtain ⟨hlt, hid, hpending⟩ := hg.promised t future ht
      exact ⟨by rwa [h.created], by rw [(h.record future).1, hid], by rw [hf, hpending]⟩
    · rw [htf] at ht
      by_cases hsame : t = (c.heap ref).sessionId
      · simp [hsame] at ht
      rw [Function.update_of_ne hsame] at ht
      obtain ⟨hlt, hid, hpending⟩ := hg.promised t future ht
      refine ⟨by rwa [h.created], by rw [(h.record future).1, hid], ?_⟩
      rw [hf]
      split
      · next own hown' =>
        obtain ⟨-, hid', -⟩ := hg.promised _ own hown'
        rw [Function.update_of_ne, hpending]
        rintro rfl
        exact hsame (hid.symm.trans hid')
      · exact hpending
  · have hold (ht : c.futures future = some result) : future < c'.created ∧
        c'.terminalResults (c'.heap future).sessionId = some result := by
      obtain ⟨hlt, hres⟩ := hg.resolved future result ht
      exact ⟨by rwa [h.created], by rw [(h.record future).1]; exact hmono hres⟩
    rcases htables with ⟨-, -, hf, -⟩ | ⟨-, hr, hf, -⟩
    · exact hold (by rwa [hf] at ht)
    · rw [hf] at ht
      split at ht
      · next own hown' =>
        obtain ⟨hlt, hid, hpending⟩ := hg.promised _ own hown'
        by_cases hsame : future = own
        · subst hsame
          rw [Function.update_self, hpending, Option.getD_none, Option.some_inj] at ht
          subst ht
          exact ⟨by rwa [h.created], by rw [(h.record future).1]; exact hown hid hr⟩
        · exact hold (by rwa [Function.update_of_ne hsame] at ht)
      · exact hold ht

end Closing

lemma Good.unborn {c : VoiceSessionController} (hg : Good c) : c.futures c.created = none := by
  by_contra hsome
  obtain ⟨result, hresult⟩ := Option.ne_none_iff_exists'.mp hsome
  exact absurd (hg.resolved _ result hresult).1 (lt_irrefl _)

lemma Good.begun {c c' : VoiceSessionController} {ref : ℕ} {request : TeardownRequest}
    (hg : Good c) (h : Begun c ref request c') : Good c' := by
  obtain ⟨state, trace, hactive, hsame, hstate, hheap⟩ := h
  refine hg.records hsame (.update hheap ?_)
  rw [eq_true hactive]
  exact begunSession_record hstate

/-- **Every effect leaves the bookkeeping intact.** -/
theorem Good.effect {k : Smooth} {c c' : VoiceSessionController} (hg : Good c) (h : Effect k c c') :
    Good c' := by
  cases h with
  | tables hsame hheap =>
    refine hg.records hsame fun ref _ => ?_
    rw [hheap]
    exact .refl _ _
  | touched ref s' href hsame hheap htouch => exact hg.records hsame (.update hheap htouch.record)
  | moved ref s' hactive hsame hheap hmove =>
    refine hg.records hsame (.update hheap ?_)
    rw [eq_true hactive]
    exact hmove.record
  | opened sessionId token state seconds handle hphase ho hactive hlast hresults hfutures
      hterminal =>
    refine hg.opening ho (.inl ⟨hactive, .inl hphase, rfl⟩) (.inl hlast)
      (fun t => .inl (by rw [hresults])) (fun t future ht => ?_)
        fun future => .inl (by rw [hfutures])
    rw [hterminal] at ht
    by_cases hsame : t = sessionId
    · subst hsame
      obtain rfl : c.created = future := by simpa using ht
      exact .inr ⟨rfl, rfl, by rw [hfutures, hg.unborn]⟩
    · exact .inl (by rwa [Function.update_of_ne hsame] at ht)
  | openRaised sessionId token state hphase _ ho hactive hlast hresults hfutures hterminal =>
    exact hg.opening ho (.inl ⟨hactive, .inl hphase, rfl⟩) (.inr hlast)
      (fun t => .inl (by rw [hresults])) (fun t future ht => .inl (by rwa [hterminal] at ht))
      fun future => .inl (by rw [hfutures])
  | launchFailed sessionId token state hphase ho hactive hlast hresults hfutures hterminal =>
    have hown : c'.terminalResults sessionId = some (activationFailure sessionId) := by
      rw [hresults, Function.update_self]
    refine hg.opening ho (.inr ⟨hactive, .inr hphase⟩) (.inl hlast) (fun t => ?_)
      (fun t future ht => ?_) fun future => ?_
    · by_cases hsame : t = sessionId
      · exact .inr ⟨hsame, hactive, hsame ▸ hown⟩
      · exact .inl (by rw [hresults, Function.update_of_ne hsame])
    · rw [hterminal] at ht
      by_cases hsame : t = sessionId
      · simp [hsame] at ht
      · exact .inl (by rwa [Function.update_of_ne hsame] at ht)
    · by_cases hnew : future = c.created
      · refine .inr ⟨hnew, ?_⟩
        rw [hown, hfutures, hnew, Function.update_self, hg.unborn, Option.getD_none]
      · exact .inl (by rw [hfutures, Function.update_of_ne hnew])
  | launchFailedRaised sessionId token state hphase _ ho hactive hlast hresults hfutures
      hterminal =>
    refine hg.opening ho (.inr ⟨hactive, .inr hphase⟩) (.inl hlast)
      (fun t => .inl (by rw [hresults])) (fun t future ht => ?_)
        fun future => .inl (by rw [hfutures])
    rw [hterminal] at ht
    by_cases hsame : t = sessionId
    · subst hsame
      obtain rfl : c.created = future := by simpa using ht
      exact .inr ⟨rfl, rfl, by rw [hfutures, hg.unborn]⟩
    · exact .inl (by rwa [Function.update_of_ne hsame] at ht)
  | closed ref state run hclosing hlast hresults hfutures hterminal =>
    exact hg.closing hclosing (.inr ⟨hlast, hresults, hfutures, hterminal⟩)
  | closedRaised ref state run _ hclosing hlast hresults hfutures hterminal =>
    exact hg.closing hclosing (.inl ⟨hlast, hresults, hfutures, hterminal⟩)

lemma Good.effects {k : Smooth} {c c' : VoiceSessionController} (hg : Good c)
    (h : Effects k c c') : Good c' :=
  h.invariant hg fun _ _ hg heffect => hg.effect heffect

/-! ### What stays -/

/-- A session whose teardown has been asked for. -/
def Over (s : WakeSession) : Prop := s.state.phase = .stopping ∨ s.state.phase.Final

/-- What of the controller is never taken back. -/
structure Persists (c c' : VoiceSessionController) : Prop where
  created : c.created ≤ c'.created
  id : ∀ ref < c.created, (c'.heap ref).sessionId = (c.heap ref).sessionId
  task : ∀ ref < c.created, ∀ run, (c.heap ref).teardown.task = some run →
    ∃ run', (c'.heap ref).teardown.task = some run' ∧ run'.request = run.request
  history : ∀ ref < c.created, (c.heap ref).state.history <+: (c'.heap ref).state.history
  ended : ∀ ref < c.created, Over (c.heap ref) → Over (c'.heap ref)
  results : ∀ sessionId result, c.terminalResults sessionId = some result →
    c'.terminalResults sessionId = some result

lemma Persists.refl (c : VoiceSessionController) : Persists c c :=
  ⟨le_rfl, fun _ _ => rfl, fun _ _ run h => ⟨run, h, rfl⟩, fun _ _ => List.prefix_rfl,
    fun _ _ h => h, fun _ _ h => h⟩

lemma Persists.trans {c₁ c₂ c₃ : VoiceSessionController} (h : Persists c₁ c₂)
    (h' : Persists c₂ c₃) : Persists c₁ c₃ := by
  have hlt {ref : ℕ} (href : ref < c₁.created) : ref < c₂.created :=
    lt_of_lt_of_le href h.created
  refine ⟨h.created.trans h'.created, fun ref href => ?_, fun ref href run hrun => ?_,
    fun ref href => ?_, fun ref href hover => ?_, fun t result ht => ?_⟩
  · rw [h'.id ref (hlt href), h.id ref href]
  · obtain ⟨run₂, hrun₂, hrequest₂⟩ := h.task ref href run hrun
    obtain ⟨run₃, hrun₃, hrequest₃⟩ := h'.task ref (hlt href) run₂ hrun₂
    exact ⟨run₃, hrun₃, hrequest₃.trans hrequest₂⟩
  · exact (h.history ref href).trans (h'.history ref (hlt href))
  · exact h'.ended ref (hlt href) (h.ended ref href hover)
  · exact h'.results t result (h.results t result ht)

lemma Persists.records {c c' : VoiceSessionController} (hg : Good c) (hsame : SameTables c c')
    (hrecords : Records c c') : Persists c c' := by
  refine ⟨hsame.created.ge, fun ref href => (hrecords ref href).id,
    fun ref href => (hrecords ref href).task, fun ref href => (hrecords ref href).history,
    fun ref href hover => ?_, fun t result ht => by rwa [hsame.results]⟩
  rcases hover with h | h
  · exact .inl ((hrecords ref href).stays h)
  · rcases (hrecords ref href).state with hstate | ⟨hactive, -⟩
    · exact .inr (by rwa [hstate])
    · exact absurd h (hg.not_final hactive)

lemma Persists.opening {c c' : VoiceSessionController} {sessionId : String} {s : WakeSession}
    (ho : Opening c c' sessionId s)
    (hresults : ∀ t result, c.terminalResults t = some result →
      c'.terminalResults t = some result) : Persists c c' := by
  refine ⟨by rw [ho.created]; omega, fun ref href => by rw [ho.old href],
    fun ref href run hrun => ⟨run, by rw [ho.old href, hrun], rfl⟩,
    fun ref href => by simp only [ho.old href, List.prefix_rfl],
    fun ref href hover => by rwa [ho.old href], hresults⟩

lemma Persists.closing {c c' : VoiceSessionController} {ref : ℕ} {s' : WakeSession}
    {run : TeardownRun} (hg : Good c) (h : Closing c c' ref s' run)
    (hresults : ∀ t result, c.terminalResults t = some result →
      c'.terminalResults t = some result) : Persists c c' := by
  refine ⟨h.created.ge, fun r _ => (h.record r).1,
    fun r _ run' hrun' => ⟨run', by rw [(h.record r).2.1, hrun'], rfl⟩,
    fun r _ => (h.record r).2.2.2.1, fun r hr _ => .inr ?_, hresults⟩
  exact closing_final h hg (by rwa [h.created])

lemma Good.persists_begun {c c' : VoiceSessionController} {ref : ℕ} {request : TeardownRequest}
    (hg : Good c) (h : Begun c ref request c') : Persists c c' := by
  obtain ⟨state, trace, hactive, hsame, hstate, hheap⟩ := h
  refine .records hg hsame (.update hheap ?_)
  rw [eq_true hactive]
  exact begunSession_record hstate

/-- An effect takes nothing back. -/
theorem Good.persists_effect {k : Smooth} {c c' : VoiceSessionController} (hg : Good c)
    (h : Effect k c c') : Persists c c' := by
  -- a fresh id has no result
  have hfresh {sessionId t : String} {result : TerminalSessionResult} (hf : Fresh c sessionId)
      (ht : c.terminalResults t = some result) : t ≠ sessionId := by
    rintro rfl
    obtain ⟨r, hr, -, hid, -⟩ := hg.results t result ht
    exact hf r hr hid
  cases h with
  | tables hsame hheap =>
    refine .records hg hsame fun ref _ => ?_
    rw [hheap]
    exact .refl _ _
  | touched ref s' href hsame hheap htouch =>
    exact .records hg hsame (.update hheap htouch.record)
  | moved ref s' hactive hsame hheap hmove =>
    refine .records hg hsame (.update hheap ?_)
    rw [eq_true hactive]
    exact hmove.record
  | opened _ _ _ _ _ _ ho _ _ hresults => exact .opening ho fun t result ht => by rwa [hresults]
  | openRaised _ _ _ _ _ ho _ _ hresults =>
    exact .opening ho fun t result ht => by rwa [hresults]
  | launchFailed _ _ _ _ ho _ _ hresults =>
    refine .opening ho fun t result ht => ?_
    rwa [hresults, Function.update_of_ne (hfresh ho.fresh ht)]
  | launchFailedRaised _ _ _ _ _ ho _ _ hresults =>
    exact .opening ho fun t result ht => by rwa [hresults]
  | closed ref state run hclosing hlast hresults =>
    refine .closing hg hclosing fun t result ht => ?_
    rwa [hresults, Function.update_of_ne (hg.result_ne hclosing.active ht)]
  | closedRaised ref state run _ hclosing hlast hresults =>
    exact .closing hg hclosing fun t result ht => by rwa [hresults]

lemma Good.persists_effects {k : Smooth} {c c' : VoiceSessionController} (hg : Good c)
    (h : Effects k c c') : Persists c c' := by
  induction h with
  | refl => exact .refl _
  | tail heffects heffect ih => exact ih.trans ((hg.effects heffects).persists_effect heffect)

end HermesRealtime.Bookkeeping
