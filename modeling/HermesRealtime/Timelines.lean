import HermesRealtime.Checks
import HermesRealtime.SessionInvariants
import Mathlib.Data.List.Nodup

/-!
The timeline of a session over any calls. A response is begun once, and the observations of it that
come in time, before the next one is begun, are kept in one trace: the first of each kind, and
nothing that is kept changes. The next response leaves the time of its first audio in the trace of
the one before it.
-/

namespace HermesRealtime.Timelines

open Values Text Checks Interruption InterruptionTimelineReducer

/-! ### Calls -/

inductive Call
  | beginResponse (responseId : String) (receivedNs : ℤ) (providerAudioStartMs : Option ℤ)
  | consume (event : InterruptionEvent)

/-- A response that `begin_response` has accepted. -/
structure Begun where
  responseId : String
  receivedNs : ℤ
  deriving DecidableEq

/-- The reducer, and the responses it has accepted, in their order. -/
structure Timeline where
  reducer : InterruptionTimelineReducer
  begun : List Begun := []

/-- A call that raises leaves the reducer as it is. -/
def step (v : Timeline) : Call → Timeline
  | .beginResponse responseId receivedNs providerAudioStartMs =>
    match v.reducer.beginResponse responseId receivedNs providerAudioStartMs with
    | .ok reducer => ⟨reducer, v.begun ++ [⟨responseId, receivedNs⟩]⟩
    | .error _ => v
  | .consume event => { v with reducer := (v.reducer.consume event).1 }

def run (v : Timeline) (calls : List Call) : Timeline := calls.foldl step v

/-- A new reducer. -/
def new (sessionId : String) : Timeline := ⟨{ localSessionId := sessionId }, []⟩

/-! ### Traces -/

/-- The timestamp of a kind of observation. -/
def stamp : InterruptionEventKind → InterruptionTrace → Option ℤ
  | .speechStarted => InterruptionTrace.speechStartedReceivedNs
  | .playbackSuppressed => InterruptionTrace.playbackSuppressedNs
  | .responseCancelled => InterruptionTrace.responseCancelledNs
  | .truncationObserved => InterruptionTrace.truncationObservedNs
  | .listeningRestored => InterruptionTrace.listeningRestoredNs

/-- What the trace had it keeps. -/
structure Extends (t t' : InterruptionTrace) : Prop where
  responseId : t'.responseId = t.responseId
  started : t'.providerAudioStartMs = t.providerAudioStartMs
  stamps : ∀ kind ns, stamp kind t = some ns → stamp kind t' = some ns
  onset : t.speechStartedReceivedNs ≠ none → t'.userSpeechOnsetMs = t.userSpeechOnsetMs
  next : ∀ ns, t.nextResponseFirstAudioNs = some ns → t'.nextResponseFirstAudioNs = some ns

lemma Extends.refl (t : InterruptionTrace) : Extends t t :=
  ⟨rfl, rfl, fun _ _ h => h, fun _ => rfl, fun _ h => h⟩

lemma Extends.trans {t₁ t₂ t₃ : InterruptionTrace} (h : Extends t₁ t₂) (h' : Extends t₂ t₃) :
    Extends t₁ t₃ where
  responseId := h'.responseId.trans h.responseId
  started := h'.started.trans h.started
  stamps kind ns hns := h'.stamps kind ns (h.stamps kind ns hns)
  onset hset := by
    obtain ⟨ns, hns⟩ := Option.ne_none_iff_exists'.mp hset
    have hkept : t₂.speechStartedReceivedNs = some ns := h.stamps .speechStarted ns hns
    rw [h'.onset (by simp [hkept]), h.onset hset]
  next ns hns := h'.next ns (h.next ns hns)

/-- Exactly the timestamp of the observation is set, and the onset with that of speech. -/
structure Noted (event : InterruptionEvent) (t t' : InterruptionTrace) : Prop where
  unset : stamp event.kind t = none
  set : stamp event.kind t' = some event.occurredNs
  others : ∀ kind ≠ event.kind, stamp kind t' = stamp kind t
  onset : t'.userSpeechOnsetMs =
    if event.kind = .speechStarted then event.userSpeechOnsetMs else t.userSpeechOnsetMs
  responseId : t'.responseId = t.responseId
  started : t'.providerAudioStartMs = t.providerAudioStartMs
  next : t'.nextResponseFirstAudioNs = t.nextResponseFirstAudioNs

lemma Noted.extends {event : InterruptionEvent} {t t' : InterruptionTrace} (h : Noted event t t') :
    Extends t t' where
  responseId := h.responseId
  started := h.started
  stamps kind ns hns := by
    by_cases hkind : kind = event.kind
    · subst hkind
      rw [h.unset] at hns
      cases hns
    · rw [h.others kind hkind, hns]
  onset hset := by
    rw [h.onset, if_neg]
    intro hkind
    have hunset := h.unset
    rw [hkind] at hunset
    exact hset hunset
  next ns hns := by rw [h.next, hns]

/-- The trace with the observation in it. -/
def note (t : InterruptionTrace) (event : InterruptionEvent) : InterruptionTrace :=
  let ns : Option ℤ := some event.occurredNs
  match event.kind with
  | .speechStarted =>
    { t with speechStartedReceivedNs := ns, userSpeechOnsetMs := event.userSpeechOnsetMs }
  | .playbackSuppressed => { t with playbackSuppressedNs := ns }
  | .responseCancelled => { t with responseCancelledNs := ns }
  | .truncationObserved => { t with truncationObservedNs := ns }
  | .listeningRestored => { t with listeningRestoredNs := ns }

lemma applyEvent_eq (t : InterruptionTrace) (event : InterruptionEvent) :
    applyEvent t event =
      if (stamp event.kind t).isSome then none else some (note t event) := by
  unfold applyEvent note
  cases event.kind <;> rfl

lemma note_noted {t : InterruptionTrace} {event : InterruptionEvent}
    (h : stamp event.kind t = none) : Noted event t (note t event) := by
  unfold note
  rcases hkind : event.kind
  all_goals
    refine ⟨h, ?_, fun kind hne => ?_, ?_, rfl, rfl, rfl⟩
    · rw [hkind]
      rfl
    · cases kind <;> first | rfl | exact absurd hkind.symm hne
    · rw [hkind]
      rfl

/-! ### Observations -/

/-- The trace that is opened for the first observation of a response. -/
def opened (r : InterruptionTimelineReducer) (responseId : String) : InterruptionTrace :=
  { responseId, providerAudioStartMs := r.activeProviderAudioStartMs }

/-- The observation is of the active response and in time, and it is noted in the trace of that
response, which is opened if there is none; nothing else changes. -/
structure Accepted (r : InterruptionTimelineReducer) (event : InterruptionEvent)
    (r' : InterruptionTimelineReducer) : Prop where
  session : event.localSessionId = r.localSessionId
  active : r.activeResponseId = some event.responseId
  late : ∃ received, r.activeResponseReceivedNs = some received ∧ received ≤ event.occurredNs
  noted : ∃ before t t' after, t.responseId = event.responseId ∧ Noted event t t' ∧
    r' = { r with traces := before ++ t' :: after } ∧
    (r.traces = before ++ t :: after ∨ r.traceOf event.responseId = none ∧
      t = opened r event.responseId ∧ r.traces = before ∧ after = [])

/-- Where each response has one trace, a new trace takes the place of the old one. -/
lemma replace_trace {before after : List InterruptionTrace} {t t' : InterruptionTrace}
    (hid : t'.responseId = t.responseId)
    (h : ((before ++ t :: after).map InterruptionTrace.responseId).Nodup) :
    ((before ++ t :: after).map fun u => if u.responseId = t'.responseId then t' else u) =
      before ++ t' :: after := by
  simp only [List.map_append, List.map_cons] at h ⊢
  rw [List.nodup_append] at h
  obtain ⟨-, hafter, hbefore⟩ := h
  rw [List.nodup_cons] at hafter
  have hkeep (l : List InterruptionTrace) (hl : ∀ u ∈ l, u.responseId ≠ t.responseId) :
      (l.map fun u => if u.responseId = t'.responseId then t' else u) = l := by
    refine (List.map_congr_left fun u hu => ?_).trans (List.map_id _)
    rw [if_neg (hid ▸ hl u hu)]
    rfl
  rw [hkeep before, hkeep after, if_pos hid.symm]
  · exact fun u hu heq => hafter.1 (heq ▸ List.mem_map_of_mem hu)
  · exact fun u hu heq => hbefore _ (List.mem_map_of_mem hu) _ (by simp) heq

/-- **What `consume` does**: it refuses the observation and nothing changes, or it accepts it. -/
theorem consume_cases (r : InterruptionTimelineReducer)
    (hids : (r.traces.map InterruptionTrace.responseId).Nodup) (event : InterruptionEvent) :
    r.consume event = (r, false) ∨
      ∃ r', r.consume event = (r', true) ∧ Accepted r event r' := by
  by_cases hsession : event.localSessionId = r.localSessionId
  swap
  · exact .inl (by rw [consume, if_pos hsession])
  by_cases hactive : some event.responseId = r.activeResponseId
  swap
  · exact .inl (by rw [consume, if_neg (not_not.mpr hsession), if_pos hactive])
  by_cases hearly :
      (r.activeResponseReceivedNs.all fun received => (event.occurredNs : ℤ) < received) = true
  · exact .inl (by
      rw [consume, if_neg (not_not.mpr hsession), if_neg (not_not.mpr hactive), if_pos hearly])
  obtain ⟨received, hreceived, hlate⟩ :
      ∃ received, r.activeResponseReceivedNs = some received ∧ received ≤ event.occurredNs := by
    rcases hreceived : r.activeResponseReceivedNs with _ | received
    · simp [hreceived] at hearly
    · exact ⟨received, rfl, by simpa [hreceived] using hearly⟩
  rw [consume, if_neg (not_not.mpr hsession), if_neg (not_not.mpr hactive), if_neg hearly]
  have haccepted {before after : List InterruptionTrace} {t : InterruptionTrace}
      (hid : t.responseId = event.responseId) (hunset : stamp event.kind t = none)
      (htrace : r.traces = before ++ t :: after ∨ r.traceOf event.responseId = none ∧
        t = opened r event.responseId ∧ r.traces = before ∧ after = []) :
      Accepted r event { r with traces := before ++ note t event :: after } :=
    ⟨hsession, hactive.symm, ⟨received, hreceived, hlate⟩,
      before, t, _, after, hid, note_noted hunset, rfl, htrace⟩
  rcases htrace : r.traceOf event.responseId with _ | t
  · -- the first observation of the response: a new trace has no timestamp yet
    have hunset : stamp event.kind (opened r event.responseId) = none := by
      cases event.kind <;> rfl
    have hnew : event.responseId ∉ r.traces.map InterruptionTrace.responseId := by
      rw [List.mem_map]
      rintro ⟨u, hu, hid⟩
      exact absurd hid (by simpa using List.find?_eq_none.mp htrace u hu)
    have hupdate : { r with traces := r.traces ++ [opened r event.responseId] }.updateTrace
        (note (opened r event.responseId) event) =
          { r with traces := r.traces ++ [note (opened r event.responseId) event] } := by
      rw [updateTrace, replace_trace (note_noted hunset).responseId]
      rw [List.map_append, List.nodup_append]
      refine ⟨hids, by simp, fun id hmem id' hmem' heq => hnew ?_⟩
      obtain rfl : id' = event.responseId := by simpa [opened] using hmem'
      exact heq ▸ hmem
    refine .inr ⟨_, ?_, haccepted rfl hunset (.inr ⟨htrace, rfl, rfl, rfl⟩)⟩
    dsimp only
    rw [← opened, applyEvent_eq, if_neg (by simp [hunset])]
    exact Prod.ext hupdate rfl
  · obtain ⟨hid, before, after, htraces, -⟩ := List.find?_eq_some_iff_append.mp htrace
    rw [decide_eq_true_eq] at hid
    dsimp only
    rw [applyEvent_eq]
    by_cases hset : (stamp event.kind t).isSome = true
    · exact .inl (by rw [if_pos hset])
    · have hunset : stamp event.kind t = none := Option.not_isSome_iff_eq_none.mp hset
      have hupdate : r.updateTrace (note t event) =
          { r with traces := before ++ note t event :: after } := by
        rw [updateTrace, htraces, replace_trace (note_noted hunset).responseId (htraces ▸ hids)]
      refine .inr ⟨_, ?_, haccepted hid hunset (.inl htraces)⟩
      rw [if_neg hset]
      exact Prod.ext hupdate rfl

/-! ### Responses -/

/-- The trace is of one of the responses that were begun, and it has the time of the next one, or
none if it is the last. -/
def Linked (begun : List Begun) (t : InterruptionTrace) : Prop :=
  ∃ before own after, begun = before ++ own :: after ∧ own.responseId = t.responseId ∧
    t.nextResponseFirstAudioNs = after.head?.map Begun.receivedNs

/-- The reducer remembers the responses that were begun, and the last of them is the active one;
traces are in their order. -/
structure Faithful (sessionId : String) (v : Timeline) : Prop where
  session : v.reducer.localSessionId = sessionId
  observed : ∀ id, id ∈ v.reducer.observedResponseIds ↔ id ∈ v.begun.map Begun.responseId
  distinct : (v.begun.map Begun.responseId).Nodup
  active : v.reducer.activeResponseId = v.begun.getLast?.map Begun.responseId
  received : v.reducer.activeResponseReceivedNs = v.begun.getLast?.map Begun.receivedNs
  order : (v.reducer.traces.map InterruptionTrace.responseId).Sublist
    (v.begun.map Begun.responseId)
  linked : ∀ t ∈ v.reducer.traces, Linked v.begun t

lemma faithful_new (sessionId : String) : Faithful sessionId (new sessionId) :=
  ⟨rfl, fun _ => Iff.rfl, List.nodup_nil, rfl, rfl, List.Sublist.refl _, by simp [new]⟩

variable {sessionId : String} {v : Timeline}

lemma Faithful.ids (h : Faithful sessionId v) :
    (v.reducer.traces.map InterruptionTrace.responseId).Nodup := h.order.nodup h.distinct

/-- The trace of the active response has not been closed. -/
lemma Faithful.unclosed (h : Faithful sessionId v) {t : InterruptionTrace}
    (ht : t ∈ v.reducer.traces) (hactive : v.reducer.activeResponseId = some t.responseId) :
    t.nextResponseFirstAudioNs = none := by
  obtain ⟨before, own, after, hbegun, hid, hnext⟩ := h.linked t ht
  rcases List.eq_nil_or_concat after with rfl | ⟨rest, last, rfl⟩
  · exact hnext
  · -- the last response would be the trace's too
    have hsplit : v.begun = before ++ own :: rest ++ [last] := by simp [hbegun]
    have hlast := h.active
    rw [hactive, hsplit, List.getLast?_concat, Option.map_some, Option.some_inj] at hlast
    have hdistinct := h.distinct
    rw [hbegun, List.map_append, List.map_cons, List.nodup_append, List.nodup_cons] at hdistinct
    refine absurd ?_ hdistinct.2.1.1
    simp [hid, hlast]

/-- What a new response does to the trace of the active one. -/
def close (r : InterruptionTimelineReducer) (receivedNs : ℤ) (t : InterruptionTrace) :
    InterruptionTrace :=
  if r.activeResponseId = some t.responseId
    then { t with nextResponseFirstAudioNs := some receivedNs }
  else t

lemma Faithful.closePrevious (h : Faithful sessionId v) (receivedNs : ℤ) :
    v.reducer.closePrevious receivedNs =
      { v.reducer with traces := v.reducer.traces.map (close v.reducer receivedNs) } := by
  have hsame (hnone : ∀ t ∈ v.reducer.traces, v.reducer.activeResponseId ≠ some t.responseId) :
      v.reducer.traces.map (close v.reducer receivedNs) = v.reducer.traces := by
    refine (List.map_congr_left fun t ht => ?_).trans (List.map_id _)
    rw [close, if_neg (hnone t ht)]
    rfl
  unfold InterruptionTimelineReducer.closePrevious
  rcases htrace : v.reducer.traceOf (v.reducer.activeResponseId.getD "") with _ | t
  · rw [hsame]
    intro t ht hactive
    rw [hactive] at htrace
    simpa using List.find?_eq_none.mp htrace t ht
  · obtain ⟨hid, before, after, htraces, -⟩ := List.find?_eq_some_iff_append.mp htrace
    have ht : t ∈ v.reducer.traces := by simp [htraces]
    obtain ⟨active, hactive⟩ : ∃ active, v.reducer.activeResponseId = some active := by
      refine Option.ne_none_iff_exists'.mp fun hnone => ?_
      have hbegun : v.begun = [] := by simpa [hnone] using h.active
      have hempty := h.order
      rw [hbegun] at hempty
      simp [List.map_eq_nil_iff.mp (List.sublist_nil.mp hempty)] at ht
    rw [hactive, Option.getD_some, decide_eq_true_eq] at hid
    subst hid
    have hnext := h.unclosed ht hactive
    dsimp only
    rw [hnext, Option.isNone_none, if_pos rfl, updateTrace]
    congr 1
    refine List.map_congr_left fun u hu => ?_
    by_cases heq : u.responseId = t.responseId
    · obtain rfl : u = t := List.inj_on_of_nodup_map h.ids hu ht heq
      rw [close, if_pos hactive, if_pos rfl]
    · rw [close, if_neg heq, if_neg]
      rw [hactive]
      exact fun hsome => heq (Option.some_inj.mp hsome).symm

lemma close_extends (h : Faithful sessionId v) (receivedNs : ℤ) {t : InterruptionTrace}
    (ht : t ∈ v.reducer.traces) : Extends t (close v.reducer receivedNs t) := by
  rw [close]
  split_ifs with hactive
  · refine ⟨rfl, rfl, fun kind ns hns => ?_, fun _ => rfl, fun ns hns => ?_⟩
    · cases kind <;> exact hns
    · rw [h.unclosed ht hactive] at hns
      cases hns
  · exact .refl t

/-! ### Steps -/

/-- What `begin_response` does: it raises, or the response is new and closes the active one. -/
lemma beginResponse_eq_ok {r r' : InterruptionTimelineReducer} {responseId : String}
    {receivedNs : ℤ} {started : Option ℤ}
    (h : r.beginResponse responseId receivedNs started = .ok r') :
    responseId ∉ r.observedResponseIds ∧ r' = { r.closePrevious receivedNs with
      observedResponseIds := responseId :: r.observedResponseIds
      activeResponseId := some responseId
      activeResponseReceivedNs := some receivedNs
      activeProviderAudioStartMs := started } := by
  unfold InterruptionTimelineReducer.beginResponse at h
  rw [then_eq_ok] at h
  obtain ⟨-, h⟩ := h
  by_cases hns : receivedNs < 0
  · rw [if_pos hns] at h
    cases h
  rw [if_neg hns] at h
  by_cases hstarted : (started.any fun ms => ms < 0) = true
  · rw [if_pos hstarted] at h
    cases h
  rw [if_neg hstarted] at h
  by_cases hobserved : responseId ∈ r.observedResponseIds
  · rw [if_pos hobserved] at h
    cases h
  rw [if_neg hobserved] at h
  exact ⟨hobserved, (Except.ok.inj h).symm⟩

/-- No trace is lost, and none loses what it had. -/
def Kept (v v' : Timeline) : Prop :=
  ∀ t ∈ v.reducer.traces, ∃ t' ∈ v'.reducer.traces, Extends t t'

lemma Kept.refl (v : Timeline) : Kept v v := fun t ht => ⟨t, ht, .refl t⟩

lemma Kept.trans {v₁ v₂ v₃ : Timeline} (h : Kept v₁ v₂) (h' : Kept v₂ v₃) : Kept v₁ v₃ := by
  intro t ht
  obtain ⟨t', ht', hextends⟩ := h t ht
  obtain ⟨t'', ht'', hextends'⟩ := h' t' ht'
  exact ⟨t'', ht'', hextends.trans hextends'⟩

/-- A list of responses in their order, without the last of them. -/
lemma sublist_of_new {α : Type} {l before : List α} {a : α} (h : l.Sublist (before ++ [a]))
    (ha : a ∉ l) : l.Sublist before := by
  obtain ⟨front, back, rfl, hfront, hback⟩ := List.sublist_append_iff.mp h
  rcases List.sublist_singleton.mp hback with rfl | rfl
  · simpa using hfront
  · simp at ha

lemma Linked.snoc {begun : List Begun} {t : InterruptionTrace} (h : Linked begun t)
    (hlast : begun.getLast?.map Begun.responseId ≠ some t.responseId) (new : Begun) :
    Linked (begun ++ [new]) t := by
  obtain ⟨before, own, after, rfl, hid, hnext⟩ := h
  rcases after with _ | ⟨next, after⟩
  · rw [List.getLast?_concat, Option.map_some, hid] at hlast
    exact absurd rfl hlast
  · exact ⟨before, own, next :: after ++ [new], by simp, hid, hnext⟩

lemma begin_faithful (h : Faithful sessionId v) {r' : InterruptionTimelineReducer}
    {responseId : String} {receivedNs : ℤ} {started : Option ℤ}
    (hbegin : v.reducer.beginResponse responseId receivedNs started = .ok r') :
    Faithful sessionId ⟨r', v.begun ++ [⟨responseId, receivedNs⟩]⟩ ∧
      Kept v ⟨r', v.begun ++ [⟨responseId, receivedNs⟩]⟩ := by
  obtain ⟨hnew, rfl⟩ := beginResponse_eq_ok hbegin
  rw [h.closePrevious]
  have hids : (v.reducer.traces.map (close v.reducer receivedNs)).map
      InterruptionTrace.responseId = v.reducer.traces.map InterruptionTrace.responseId := by
    rw [List.map_map]
    refine List.map_congr_left fun t ht => ?_
    exact (close_extends h receivedNs ht).responseId
  refine ⟨⟨h.session, ?_, ?_, ?_, ?_, ?_, ?_⟩, ?_⟩
  · intro id
    simp [h.observed, or_comm]
  · rw [List.map_append, List.nodup_append]
    refine ⟨h.distinct, by simp, fun id hmem id' hmem' heq => hnew ?_⟩
    obtain rfl : id' = responseId := by simpa using hmem'
    exact (h.observed id').mpr (heq ▸ hmem)
  · simp
  · simp
  · rw [hids, List.map_append]
    exact h.order.trans (List.sublist_append_left _ _)
  · intro t' ht'
    obtain ⟨t, ht, rfl⟩ := List.mem_map.mp ht'
    rw [close]
    split_ifs with hactive
    · -- the active response is the last, and now the new one comes after it
      obtain ⟨before, own, after, hbegun, hid, hnext⟩ := h.linked t ht
      have hnil : after = [] := by
        rw [h.unclosed ht hactive] at hnext
        simpa [eq_comm] using hnext
      subst hnil
      exact ⟨before, own, [⟨responseId, receivedNs⟩], by simp [hbegun], hid, rfl⟩
    · exact (h.linked t ht).snoc (h.active ▸ hactive) _
  · intro t ht
    exact ⟨_, List.mem_map_of_mem ht, close_extends h receivedNs ht⟩

lemma accepted_faithful (h : Faithful sessionId v) {event : InterruptionEvent}
    {r' : InterruptionTimelineReducer} (haccepted : Accepted v.reducer event r') :
    Faithful sessionId { v with reducer := r' } ∧ Kept v { v with reducer := r' } := by
  obtain ⟨-, hactive, -, before, t, t', after, hid, hnoted, rfl, htraces⟩ := haccepted
  have hids : (before ++ t' :: after).map InterruptionTrace.responseId =
      (before ++ t :: after).map InterruptionTrace.responseId := by
    simp [hnoted.responseId]
  have hkept (hall : ∀ u ∈ v.reducer.traces, u ∈ before ++ t :: after) :
      Kept v { v with reducer := { v.reducer with traces := before ++ t' :: after } } := by
    intro u hu
    have hmem := hall u hu
    simp only [List.mem_append, List.mem_cons] at hmem
    rcases hmem with hmem | rfl | hmem
    · exact ⟨u, by simp [hmem], .refl u⟩
    · exact ⟨t', by simp, hnoted.extends⟩
    · exact ⟨u, by simp [hmem], .refl u⟩
  have hlinked (hall : ∀ u ∈ before ++ t :: after, Linked v.begun u) :
      ∀ u ∈ before ++ t' :: after, Linked v.begun u := by
    intro u hu
    simp only [List.mem_append, List.mem_cons] at hu hall
    rcases hu with hu | rfl | hu
    · exact hall u (.inl hu)
    · obtain ⟨front, own, back, hbegun, hown, hnext⟩ := hall t (.inr (.inl rfl))
      exact ⟨front, own, back, hbegun, hown.trans hnoted.responseId.symm, hnoted.next.trans hnext⟩
    · exact hall u (.inr (.inr hu))
  rcases htraces with htraces | ⟨hnone, rfl, rfl, rfl⟩
  · refine ⟨⟨h.session, h.observed, h.distinct, h.active, h.received, ?_, ?_⟩, ?_⟩
    · rw [hids, ← htraces]
      exact h.order
    · exact hlinked (htraces ▸ h.linked)
    · exact hkept (htraces ▸ fun u hu => hu)
  · -- the trace is opened for the last response that was begun
    obtain ⟨front, own, hbegun, hown⟩ :
        ∃ front own, v.begun = front ++ [own] ∧ own.responseId = event.responseId := by
      rw [h.active, Option.map_eq_some_iff] at hactive
      obtain ⟨own, hlast, hown⟩ := hactive
      obtain ⟨front, hbegun⟩ := List.getLast?_eq_some_iff.mp hlast
      exact ⟨front, own, hbegun, hown⟩
    have hnew : event.responseId ∉ v.reducer.traces.map InterruptionTrace.responseId := by
      rw [List.mem_map]
      rintro ⟨u, hu, huid⟩
      exact absurd huid (by simpa using List.find?_eq_none.mp hnone u hu)
    refine ⟨⟨h.session, h.observed, h.distinct, h.active, h.received, ?_, ?_⟩, ?_⟩
    · have horder := h.order
      rw [hbegun, List.map_append, List.map_singleton, hown] at horder
      rw [hids, hbegun, List.map_append, List.map_append, List.map_singleton, List.map_singleton,
        hown, hid]
      exact (sublist_of_new horder hnew).append (List.Sublist.refl _)
    · refine hlinked fun u hu => ?_
      rcases List.mem_append.mp hu with hu | hu
      · exact h.linked u hu
      · obtain rfl := List.mem_singleton.mp hu
        exact ⟨front, own, [], hbegun, hown, rfl⟩
    · exact hkept fun u hu => List.mem_append_left _ hu

/-- A step keeps the account of the responses, and what the traces have. -/
lemma step_faithful (h : Faithful sessionId v) (call : Call) :
    Faithful sessionId (step v call) ∧ Kept v (step v call) := by
  cases call with
  | beginResponse responseId receivedNs started =>
    rw [step]
    rcases hbegin : v.reducer.beginResponse responseId receivedNs started with e | r'
    · exact ⟨h, .refl v⟩
    · exact begin_faithful h hbegin
  | consume event =>
    rcases consume_cases v.reducer h.ids event with hrefused | ⟨r', hconsume, haccepted⟩
    · rw [step, hrefused]
      exact ⟨h, .refl v⟩
    · rw [step, hconsume]
      exact accepted_faithful h haccepted

lemma run_faithful (h : Faithful sessionId v) (calls : List Call) :
    Faithful sessionId (run v calls) ∧ Kept v (run v calls) := by
  induction calls generalizing v with
  | nil => exact ⟨h, .refl v⟩
  | cons call calls ih =>
    obtain ⟨hstep, hkept⟩ := step_faithful h call
    obtain ⟨hrest, hkept'⟩ := ih hstep
    exact ⟨hrest, hkept.trans hkept'⟩

/-- What holds of a timeline at any time: one trace for a response, in the order in which they
began; each with the time of the next response; an observation refused, or noted in the trace of
the active response; and nothing changed by what comes later. -/
structure Laws (sessionId : String) (v : Timeline) : Prop where
  session : v.reducer.localSessionId = sessionId
  active : v.reducer.activeResponseId = v.begun.getLast?.map Begun.responseId ∧
    v.reducer.activeResponseReceivedNs = v.begun.getLast?.map Begun.receivedNs
  once : (v.reducer.traces.map InterruptionTrace.responseId).Nodup
  order : (v.begun.map Begun.responseId).Nodup ∧
    (v.reducer.traces.map InterruptionTrace.responseId).Sublist (v.begun.map Begun.responseId)
  next : ∀ t ∈ v.reducer.traces, Linked v.begun t
  refused : ∀ event, (v.reducer.consume event).2 = false → (v.reducer.consume event).1 = v.reducer
  accepted : ∀ event, (v.reducer.consume event).2 = true →
    Accepted v.reducer event (v.reducer.consume event).1
  later : ∀ calls, Kept v (run v calls)

/-- **The laws of a timeline** hold after every sequence of calls. -/
theorem timeline_laws (sessionId : String) (calls : List Call) :
    Laws sessionId (run (new sessionId) calls) := by
  obtain ⟨h, -⟩ := run_faithful (faithful_new sessionId) calls
  refine ⟨h.session, ⟨h.active, h.received⟩, h.ids, ⟨h.distinct, h.order⟩, h.linked,
    fun event hfalse => ?_, fun event htrue => ?_, fun more => (run_faithful h more).2⟩
  · rcases consume_cases (run (new sessionId) calls).reducer h.ids event with
      hrefused | ⟨r', hconsume, -⟩
    · rw [hrefused]
    · rw [hconsume] at hfalse
      cases hfalse
  · rcases consume_cases (run (new sessionId) calls).reducer h.ids event with
      hrefused | ⟨r', hconsume, haccepted⟩
    · rw [hrefused] at htrue
      cases htrue
    · rw [hconsume]
      exact haccepted

/-! ### Sessions -/

lemma run_snoc (v : Timeline) (calls : List Call) (call : Call) :
    run v (calls ++ [call]) = step (run v calls) call := List.foldl_append ..

/-- The reducer of a session is what some calls have made of a new one. -/
def Reduced (s : Controller.WakeSession) : Prop :=
  ∃ calls, s.interruptions = (run (new s.sessionId) calls).reducer

lemma reduced_local : SessionInvariants.Local Reduced where
  fresh _ _ _ := ⟨[], rfl⟩
  same s s' hid _ hsame h := by
    obtain ⟨calls, h⟩ := h
    exact ⟨calls, by rw [hsame, hid, h]⟩
  record _ _ _ _ _ _ _ _ h := h
  begun s responseId receivedNs started interruptions hbegin h := by
    obtain ⟨calls, h⟩ := h
    refine ⟨calls ++ [.beginResponse responseId receivedNs started], ?_⟩
    rw [h] at hbegin
    rw [run_snoc, step, hbegin]
  consumed s event h := by
    obtain ⟨calls, h⟩ := h
    refine ⟨calls ++ [.consume event], ?_⟩
    rw [run_snoc, step, h]

/-- In every run of the controller the reducer of a session obeys the laws. -/
theorem session_laws {g : SessionRuns.Config} {as : List (Controller.Env × SessionRuns.Action)}
    {w : SessionRuns.World}
    (h : Runs.Run SessionRuns.step (fun _ _ => True) (SessionRuns.start g) as w) (ref : ℕ) :
    ∃ v : Timeline, v.reducer = (w.controller.heap ref).interruptions ∧
      Laws (w.controller.heap ref).sessionId v := by
  obtain ⟨calls, hcalls⟩ := SessionInvariants.run_holds reduced_local h ref
  exact ⟨_, hcalls.symm, timeline_laws _ calls⟩

end HermesRealtime.Timelines
