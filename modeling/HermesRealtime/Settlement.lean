import HermesRealtime.Changes

/-!
Every session is pending or settled: where the observer does not raise when a session opens,
when its launch fails or when it is closed, the active session is the one with a pending future
and an outbound queue, and every other session has its result.
-/

namespace HermesRealtime.Settlement

open Phases Timing Interruption Teardown Controller Operations SessionRuns Lifecycle Bookkeeping
  CriticalSections Changes Runs

/-- What the tables say of the sessions. -/
structure Settled (c : VoiceSessionController) : Prop where
  pending : ∀ ref, c.activeSession = some ref →
    c.terminalFutures (c.heap ref).sessionId = some ref
  promised : ∀ t future, c.terminalFutures t = some future → c.activeSession = some future
  recorded : ∀ ref < c.created, c.activeSession ≠ some ref → ∃ result,
    c.terminalResults (c.heap ref).sessionId = some result ∧ c.futures ref = some result
  outbound : ∀ t, (c.outboundMessages t).isSome = true ↔
    ∃ ref, c.activeSession = some ref ∧ (c.heap ref).sessionId = t

variable {k : Smooth} {c c' : VoiceSessionController}

/-- The observer does not raise when the set of active sessions changes. -/
def Calm (k : Smooth) : Prop := k.opening ∧ k.failing ∧ k.closing

lemma Settled.records (hs : Settled c) (hg : Good c) (hsame : SameTables c c')
    (hid : ∀ ref < c.created, (c'.heap ref).sessionId = (c.heap ref).sessionId) : Settled c' := by
  have hown {ref : ℕ} (hactive : c.activeSession = some ref) :
      (c'.heap ref).sessionId = (c.heap ref).sessionId := hid ref (hg.active ref hactive).1
  refine ⟨fun ref hactive => ?_, fun t future ht => ?_, fun ref href hactive => ?_, fun t => ?_⟩
  · rw [hsame.active] at hactive
    rw [hown hactive, hsame.terminalFutures]
    exact hs.pending ref hactive
  · rw [hsame.terminalFutures] at ht
    rw [hsame.active]
    exact hs.promised t future ht
  · rw [hsame.created] at href
    rw [hsame.active] at hactive
    rw [hid ref href, hsame.results, hsame.futures]
    exact hs.recorded ref href hactive
  · rw [hsame.outbound, hs.outbound, hsame.active]
    refine exists_congr fun ref => and_congr_right fun hactive => ?_
    rw [hown hactive]

lemma isSome_update {α : Type} (f : String → Option α) (t : String) (v : Option α) (s : String) :
    (Function.update f t v s).isSome = if s = t then v.isSome else (f s).isSome := by
  by_cases h : s = t
  · simp [h]
  · simp [h]

/-- With no session active there is no future to wait for, and no queue. -/
lemma Settled.idle (hs : Settled c) (hidle : c.activeSession = none) (t : String) :
    c.terminalFutures t = none ∧ (c.outboundMessages t).isSome = false := by
  constructor
  · by_contra h
    obtain ⟨future, hfuture⟩ := Option.ne_none_iff_exists'.mp h
    simpa [hidle] using hs.promised t future hfuture
  · rw [Bool.eq_false_iff, Ne, hs.outbound]
    simp [hidle]

section Opening

variable {sessionId : String} {s : WakeSession}

lemma Settled.old (hs : Settled c) (ho : Opening c c' sessionId s)
    (hresults : ∀ t, t ≠ sessionId → c'.terminalResults t = c.terminalResults t)
    (hfutures : ∀ ref < c.created, c'.futures ref = c.futures ref) {ref : ℕ}
    (href : ref < c.created) : ∃ result,
      c'.terminalResults (c'.heap ref).sessionId = some result ∧ c'.futures ref = some result := by
  rw [ho.old href, hresults _ (ho.fresh ref href), hfutures ref href]
  exact hs.recorded ref href (by simp [ho.idle])

end Opening

/-- **An effect keeps the sessions settled**, when the observer lets it. -/
theorem Settled.effect (hs : Settled c) (hg : Good c) (hcalm : Calm k) (h : Effect k c c') :
    Settled c' := by
  have hkept := hg.persists_effect h
  cases h with
  | tables hsame hheap => exact hs.records hg hsame hkept.id
  | touched ref s' href hsame hheap htouch => exact hs.records hg hsame hkept.id
  | moved ref s' hactive hsame hheap hmove => exact hs.records hg hsame hkept.id
  | openRaised _ _ _ _ hraises => exact absurd hcalm.1 hraises
  | launchFailedRaised _ _ _ _ hraises => exact absurd hcalm.2.1 hraises
  | closedRaised _ _ _ hraises => exact absurd hcalm.2.2 hraises
  | opened sessionId token state seconds handle hphase ho hactive hlast hresults hfutures hterminal
      houtbound =>
    have hnew : (c'.heap c.created).sessionId = sessionId := by rw [ho.new, ho.id]
    refine ⟨fun ref h => ?_, fun t future ht => ?_, fun ref href h => ?_, fun t => ?_⟩
    · obtain rfl : c.created = ref := by simpa [hactive] using h
      rw [hnew, hterminal, Function.update_self]
    · rw [hterminal] at ht
      by_cases hsame : t = sessionId
      · obtain rfl : c.created = future := by simpa [hsame] using ht
        exact hactive
      · rw [Function.update_of_ne hsame, (hs.idle ho.idle t).1] at ht
        simp at ht
    · rcases ho.cases href with ⟨hold, -⟩ | ⟨rfl, -⟩
      · exact hs.old ho (fun t _ => by rw [hresults]) (fun r _ => by rw [hfutures]) hold
      · exact absurd hactive h
    · rw [houtbound, isSome_update, (hs.idle ho.idle t).2, hactive]
      constructor
      · intro h
        obtain rfl : t = sessionId := by
          by_contra hne
          simp [hne] at h
        exact ⟨c.created, rfl, hnew⟩
      · rintro ⟨ref, href, hid⟩
        obtain rfl := Option.some_inj.mp href
        simp [← hid, hnew]
  | launchFailed sessionId token state hphase ho hactive hlast hresults hfutures hterminal
      houtbound =>
    refine ⟨fun ref h => ?_, fun t future ht => ?_, fun ref href h => ?_, fun t => ?_⟩
    · simp [hactive] at h
    · rw [hterminal] at ht
      by_cases hsame : t = sessionId
      · simp [hsame] at ht
      · rw [Function.update_of_ne hsame, (hs.idle ho.idle t).1] at ht
        simp at ht
    · rcases ho.cases href with ⟨hold, -⟩ | ⟨rfl, hheap⟩
      · exact hs.old ho (fun t ht => by rw [hresults, Function.update_of_ne ht])
          (fun r hr => by rw [hfutures, Function.update_of_ne (by omega)]) hold
      · refine ⟨activationFailure sessionId, ?_, ?_⟩
        · rw [hheap, ho.id, hresults, Function.update_self]
        · rw [hfutures, Function.update_self, hg.unborn, Option.getD_none]
    · rw [houtbound, isSome_update, (hs.idle ho.idle t).2]
      simp [hactive]
  | closed ref state run hclosing hlast hresults hfutures hterminal houtbound =>
    have hown := hs.pending ref hclosing.active
    obtain ⟨-, -, hpending⟩ := hg.promised _ ref hown
    refine ⟨fun r h => ?_, fun t future ht => ?_, fun r hr h => ?_, fun t => ?_⟩
    · simp [hclosing.idle] at h
    · rw [hterminal] at ht
      by_cases hsame : t = (c.heap ref).sessionId
      · simp [hsame] at ht
      · rw [Function.update_of_ne hsame] at ht
        obtain rfl : ref = future := by simpa [hclosing.active] using hs.promised t future ht
        exact absurd (hg.promised t ref ht).2.1.symm hsame
    · rw [(hclosing.record r).1, hfutures, hown]
      by_cases hsame : r = ref
      · subst hsame
        refine ⟨closingResult (c.heap r) run.request, by rw [hresults, Function.update_self], ?_⟩
        simp [hpending]
      · rw [hclosing.created] at hr
        have hne : (c.heap r).sessionId ≠ (c.heap ref).sessionId := fun hid =>
          hsame (hg.ids r hr ref (hg.active ref hclosing.active).1 hid)
        rw [hresults, Function.update_of_ne hne]
        simp only [Function.update_of_ne hsame]
        refine hs.recorded r hr ?_
        rw [hclosing.active, Ne, Option.some_inj]
        exact fun h => hsame h.symm
    · rw [houtbound]
      constructor
      · intro h
        rw [isSome_update] at h
        split_ifs at h with hne
        · simp at h
        · obtain ⟨r, hr, rfl⟩ := (hs.outbound t).mp h
          obtain rfl : ref = r := by simpa [hclosing.active] using hr
          exact absurd rfl hne
      · rintro ⟨r, hr, -⟩
        simp [hclosing.idle] at hr

lemma Settled.begun {ref : ℕ} {request : TeardownRequest} (hs : Settled c) (hg : Good c)
    (h : Begun c ref request c') : Settled c' := by
  have hkept := hg.persists_begun h
  obtain ⟨state, trace, hactive, hsame, hstate, hheap⟩ := h
  exact hs.records hg hsame hkept.id

lemma Settled.effects (hs : Settled c) (hg : Good c) (hcalm : Calm k) (h : Effects k c c') :
    Settled c' := by
  refine (h.invariant (I := fun c => Good c ∧ Settled c) ⟨hg, hs⟩ ?_).2
  exact fun c c' hc heffect => ⟨hc.1.effect heffect, hc.2.effect hc.1 hcalm heffect⟩

/-- A change of the world keeps the sessions settled, when the observer lets it. -/
theorem settled_change {w w' : World} (hs : Settled w.controller) (hg : Good w.controller)
    (hcalm : Calm k) (h : Change k w w') : Settled w'.controller := by
  cases h with
  | internal heffects => exact hs.effects hg hcalm heffects
  | fired n ref d href hd harmed hfree hcontroller =>
    obtain ⟨hsame, hrecords⟩ := fired_record w.controller ref (some d.expire)
    rw [hcontroller]
    exact hs.records hg hsame fun r hr => (hrecords r hr).id
  | requested ref request byDeadline c₁ hbegun heffects =>
    exact (hs.begun hg hbegun).effects (hg.begun hbegun) hcalm heffects
  | pageStarted ref hactive heffects => exact hs.effects hg hcalm heffects
  | launched sessionId returned hidle heffect => exact hs.effect hg hcalm heffect
  | delivered n ref shield answers run hn hrun hcontroller => rwa [hcontroller]
  | answered sessionId hlast hcontroller => rwa [hcontroller]

lemma settled_start (g : Config) : Settled (start g).controller := by
  refine ⟨?_, ?_, ?_, ?_⟩ <;> simp [start]

end HermesRealtime.Settlement
