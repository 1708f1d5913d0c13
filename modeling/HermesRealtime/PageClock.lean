import HermesRealtime.Encoding
import HermesRealtime.Rounding
import HermesRealtime.TeardownStart
import HermesRealtime.TraceOrder

/-!
One trace and two clocks. The page stamps what it reports with the time since it was loaded, the
controller stamps its own records with the clock of the machine, and one trace wants all of them in
order.

A report of a page whose times do not decrease is never behind another report of the same page. It
is refused exactly when a record of the trace that is not the page's is later by its own clock.
-/

namespace HermesRealtime.PageClock

open Values Text Protocol Phases Timing Frames Checks Controller Operations SessionRuns Sanitizing
  TeardownStart Runs

/-! ### What a report may say -/

mutual

/-- The scan for secrets finds numbers that are not finite. -/
lemma valid_of_scan : ∀ value : Json, scanNoSecrets value = .ok () → validJsonValue value = true
  | .null, _ => rfl
  | .bool _, _ => rfl
  | .int _, _ => rfl
  | .str _, _ => rfl
  | .float x, h => by
    rw [scanNoSecrets] at h
    split_ifs at h with hfinite
    · exact hfinite
    · cases h
  | .arr items, h => valid_of_scanItems items h
  | .obj fields, h => valid_of_scanFields fields h

lemma valid_of_scanItems : ∀ items : List Json, scanItems items = .ok () →
    validJsonItems items = true
  | [], _ => rfl
  | item :: items, h => by
    rw [scanItems, then_eq_ok] at h
    rw [validJsonItems, valid_of_scan item h.1, valid_of_scanItems items h.2, Bool.and_self]

lemma valid_of_scanFields : ∀ fields : JsonDict, scanFields fields = .ok () →
    validJsonFields fields = true
  | [], _ => rfl
  | (key, value) :: fields, h => by
    rw [scanFields] at h
    split_ifs at h
    · cases h
    · rw [then_eq_ok] at h
      rw [validJsonFields, valid_of_scan value h.1, valid_of_scanFields fields h.2, Bool.and_self]

end

lemma valid_hereditary : Hereditary validJsonValue validJsonItems validJsonFields :=
  ⟨fun _ => rfl, fun _ => rfl, rfl, fun _ _ => rfl, rfl, fun _ _ _ => rfl⟩

lemma valid_clears (P : Platform) : Clears P validJsonValue validJsonItems validJsonFields
    validJsonValue validJsonItems validJsonFields where
  before := valid_hereditary
  after := valid_hereditary
  redacted := rfl
  hash _ := rfl
  scalar value harr hobj h := by
    cases value with
    | str s =>
      rw [sanitizeScalar]
      split_ifs <;> rfl
    | arr items => exact absurd rfl (harr items)
    | obj fields => exact absurd rfl (hobj fields)
    | _ => exact h

section

variable (P : Platform)

mutual

lemma valid_sanitizeArguments : ∀ value : Json, validJsonValue value = true →
    validJsonValue (sanitizeArgumentsOrResult P value) = true
  | .null, _ => rfl
  | .bool _, _ => rfl
  | .int _, _ => rfl
  | .str _, _ => rfl
  | .float _, h => h
  | .arr items, h => valid_sanitizeArgumentItems items h
  | .obj fields, h => (valid_clears P).sanitizeDict true [] rfl fields h

lemma valid_sanitizeArgumentItems : ∀ items : List Json, validJsonItems items = true →
    validJsonItems (sanitizeArgumentItems P items) = true
  | [], _ => rfl
  | item :: items, h => by
    rw [validJsonItems, Bool.and_eq_true] at h
    rw [sanitizeArgumentItems, validJsonItems, valid_sanitizeArguments item h.1,
      valid_sanitizeArgumentItems items h.2, Bool.and_self]

end

lemma valid_sanitizeTimingField {output : JsonDict} (houtput : validJsonFields output = true)
    (field : String × Json) (h : validJsonValue field.2 = true) :
    validJsonFields (sanitizeTimingField P output field) = true := by
  obtain ⟨key, value⟩ := field
  have hscalar := (valid_clears P).sanitizeScalar value h
  rw [sanitizeTimingField]
  split
  · rename_i hash hhash
    exact valid_hereditary.dictSet houtput ((valid_clears P).sdpHash hhash)
  · split_ifs
    · exact valid_hereditary.dictSet houtput hscalar
    · exact valid_hereditary.dictSet houtput (valid_clears P).redacted
    · exact valid_hereditary.dictSet houtput (valid_sanitizeArguments P value h)
    · exact valid_hereditary.dictSet houtput hscalar

/-- Sanitizing makes no number infinite. -/
lemma valid_sanitizeTimingData {data : JsonDict} (h : validJsonFields data = true) :
    validJsonFields (sanitizeTimingData P data) = true := by
  rw [valid_hereditary.fields_iff] at h
  have hfold (output : JsonDict) (houtput : validJsonFields output = true) :
      validJsonFields (data.foldl (sanitizeTimingField P) output) = true := by
    induction data generalizing output with
    | nil => exact houtput
    | cons field data ih =>
      refine ih (fun f hf => h f (by simp [hf])) _ ?_
      exact valid_sanitizeTimingField P houtput field (h field (by simp))
  exact hfold [] rfl

end

/-- The data of a well-formed report can be recorded. -/
lemma valid_report {m : TimingMessage} (P : Platform) (hm : Encoding.Valid (.timing m)) :
    validJsonFields (sanitizeTimingData P m.data) = true := by
  obtain ⟨-, -, hdata⟩ := hm
  rw [validateTimingMessageData, then_eq_ok] at hdata
  exact valid_sanitizeTimingData P (valid_of_scanFields m.data hdata.1)

/-! ### The reports of a page -/

/-- The reports that the page of a session has sent, in their order. -/
def reports (sessionId : String) (as : List (Env × Action)) : List TimingMessage :=
  as.filterMap fun x =>
    match x.2 with
    | .control _ s (.ok (.timing m)) =>
      if s = sessionId ∧ m.sessionId = sessionId then some m else none
    | _ => none

/-- Every page reports times that do not decrease. -/
def PagesInOrder (as : List (Env × Action)) : Prop :=
  ∀ sessionId, (reports sessionId as).Pairwise fun m m' =>
    m.monotonicMs.scaled ≤ m'.monotonicMs.scaled

/-- The record is what the trace makes of a report of the page. -/
def IsReport (sessionId : String) (as : List (Env × Action)) (e : TimingEvent) : Prop :=
  ∃ m ∈ reports sessionId as, e.source = .browser ∧ e.name = m.name.value ∧
    ∃ ns : ℕ, m.monotonicMs.mulTrunc 1000000 = some ns ∧ e.monotonicNs = ns

/-- The time of the report is a number of nanoseconds, and no record of the trace but those of the
page is later. -/
def Tolerated (as : List (Env × Action)) (t : SessionTrace) (m : TimingMessage) : Prop :=
  ∃ ns : ℕ, m.monotonicMs.mulTrunc 1000000 = some ns ∧
    ∀ e ∈ t.events, IsReport m.sessionId as e ∨ e.monotonicNs ≤ ns

/-- A report of a page in order is not behind another one. -/
lemma report_le {as : List (Env × Action)} {x : Env × Action} {m : TimingMessage} {e : TimingEvent}
    {ns : ℕ} (hpages : PagesInOrder (as ++ [x])) (hx : reports m.sessionId [x] = [m])
    (hns : m.monotonicMs.mulTrunc 1000000 = some ns) (he : IsReport m.sessionId as e) :
    e.monotonicNs ≤ ns := by
  obtain ⟨earlier, hmem, -, -, a, ha, htime⟩ := he
  have horder := hpages m.sessionId
  rw [reports, List.filterMap_append, List.pairwise_append] at horder
  have hle := horder.2.2 earlier hmem m (by rw [← reports, hx]; simp)
  rw [htime]
  exact_mod_cast Binary64.mulTrunc_mono hle ha hns

/-! ### Reports and the controller -/

variable {env : Env} {c : VoiceSessionController} {ref : ℕ} {m : TimingMessage}

/-- A well-formed report of the active session is accepted exactly if its time is a number of
nanoseconds that the trace admits. -/
lemma accepted_iff_admits (hactive : c.activeSession = some ref)
    (hid : (c.heap ref).sessionId = m.sessionId) (hm : Encoding.Valid (.timing m)) :
    (processControlMessage env m.sessionId (.ok (.timing m)) c).2 = .ok .nothing ↔
      ∃ ns : ℕ, m.monotonicMs.mulTrunc 1000000 = some ns ∧ (c.heap ref).trace.Admits ns := by
  have hvalid := valid_report env.platform hm
  rw [← hid, control_active hactive (by simp [LoopbackMessage.sessionId?, hid]) (by simp),
    handleMessage]
  rcases hns : m.monotonicMs.mulTrunc 1000000 with _ | ns
  · simp
  · by_cases hadmits : (c.heap ref).trace.Admits ns
    · obtain ⟨trace, hrecord⟩ : ∃ trace, (c.heap ref).trace.record env.clock m.name.value .browser
          (sanitizeTimingData env.platform m.data) (some ns) = .ok trace := by
        rw [SessionTrace.record, Option.getD_some, if_neg (not_not.mpr hadmits),
          if_neg (by simp [hvalid])]
        exact ⟨_, rfl⟩
      refine iff_of_true ?_ ⟨ns, rfl, hadmits⟩
      dsimp only
      rw [Op.bind_apply, recordTrace_apply, hrecord]
      rfl
    · have hrecord : (c.heap ref).trace.record env.clock m.name.value .browser
          (sanitizeTimingData env.platform m.data) (some ns) =
            .error (.valueError "timing record monotonic_ns must be non-decreasing") := by
        rw [SessionTrace.record, Option.getD_some, if_pos hadmits]
      refine iff_of_false ?_ (by simpa using hadmits)
      dsimp only
      rw [Op.bind_apply, recordTrace_apply, hrecord]
      simp

/-- **A report costs the control socket exactly if another clock is ahead**: in every run whose
pages report times that do not decrease, a well-formed report of the active session is accepted if
and only if no record of its trace but the page's own is later. -/
theorem report_accepted_iff {g : Config} {as : List (Env × Action)} {w : World} {n : ℕ}
    (hrun : Run step (fun _ _ => True) (start g) as w)
    (hpages : PagesInOrder (as ++ [(env, .control n m.sessionId (.ok (.timing m)))]))
    (hactive : w.controller.activeSession = some ref)
    (hid : (w.controller.heap ref).sessionId = m.sessionId) (hm : Encoding.Valid (.timing m)) :
    (processControlMessage env m.sessionId (.ok (.timing m)) w.controller).2 = .ok .nothing ↔
      Tolerated as (w.controller.heap ref).trace m := by
  have horder := TraceOrder.run_order hrun ref
  rw [accepted_iff_admits hactive hid hm, Tolerated]
  refine exists_congr fun ns => and_congr_right fun hns => ?_
  rw [horder.admits_iff]
  refine forall₂_congr fun e _ => ⟨.inr, ?_⟩
  rintro (hreport | hle)
  · exact report_le hpages (by simp [reports]) hns hreport
  · exact hle

/-- The machine has run for five seconds. -/
def fiveSeconds : Env := { stillEnv with clock := ⟨5000000000, ""⟩ }

/-- A report of the peer connection, seven milliseconds after the page was loaded. -/
def connected : TimingMessage :=
  ⟨"voice-one-01", .peerConnectionState, { Binary64.zero with mant := 7, mant_lt := by decide },
    [("state", .str "connected")]⟩

lemma connected_valid : Encoding.Valid (.timing connected) :=
  ⟨by decide +kernel, by simp [Encoding.Distinct, connected], by decide +kernel⟩

/-- A page starts, reports, and is stopped by its button. -/
def buttonPressed : List (Env × Action) :=
  [(fiveSeconds, .activate "voice-one-01" "token" 0 (some ⟨1⟩)),
   (fiveSeconds, .control 0 "voice-one-01" (.ok (.pageReady "voice-one-01"))),
   (fiveSeconds, .control 1 "voice-one-01" (.ok (.pageStarted "voice-one-01"))),
   (fiveSeconds, .control 2 "voice-one-01" (.ok (.timing connected))),
   (fiveSeconds, .control 3 "voice-one-01" (.ok (.stop "voice-one-01" .button)))]

lemma reports_connected (sessionId : String) (as : List (Env × Action)) {n : ℕ}
    (h : as = buttonPressed.take 4 ∨ as = buttonPressed) :
    ∃ k, reports sessionId
      (as ++ [(fiveSeconds, .control n "voice-one-01" (.ok (.timing connected)))]) =
        List.replicate k connected := by
  by_cases hid : "voice-one-01" = sessionId
  · refine ⟨2, ?_⟩
    rcases h with rfl | rfl <;> simp [reports, buttonPressed, connected, hid, List.replicate]
  · refine ⟨0, ?_⟩
    rcases h with rfl | rfl <;> simp [reports, buttonPressed, connected, hid]

lemma connected_inOrder {as : List (Env × Action)} {n : ℕ}
    (h : as = buttonPressed.take 4 ∨ as = buttonPressed) :
    PagesInOrder (as ++ [(fiveSeconds, .control n "voice-one-01" (.ok (.timing connected)))]) := by
  intro sessionId
  obtain ⟨k, hk⟩ := reports_connected sessionId as h
  rw [hk]
  exact List.pairwise_replicate.mpr (.inr le_rfl)

theorem report_accepted_before_stop :
    ∃ w, Run step (fun _ _ => True) (start {}) (buttonPressed.take 4) w ∧
      (processControlMessage fiveSeconds "voice-one-01" (.ok (.timing connected)) w.controller).2 =
        .ok .nothing := by
  have hexec : (exec step (fun _ _ => true) (start {}) (buttonPressed.take 4)).map
      (fun w => (w.controller.activeSession, (w.controller.heap 0).sessionId,
        (w.controller.heap 0).trace.events.all (·.monotonicNs ≤ 7000000))) =
      some (some 0, "voice-one-01", true) := by
    decide +kernel
  obtain ⟨w, hw, hfacts⟩ := Option.map_eq_some_iff.mp hexec
  obtain ⟨hactive, hid, htimes⟩ := by simpa only [Prod.mk.injEq] using hfacts
  have hrun := run_of_exec (C := fun _ _ => True) (fun _ _ _ => trivial) _ _ hw
  refine ⟨w, hrun, ?_⟩
  refine (report_accepted_iff (n := 3) hrun (connected_inOrder (.inl rfl)) hactive hid
    connected_valid).mpr ⟨7000000, by decide +kernel, fun e he => .inr ?_⟩
  exact of_decide_eq_true (List.all_eq_true.mp htimes e he)

/-- **A page in order loses its socket**: it has been asked to stop, and by the clock of the
controller that was later than the seven milliseconds of the page. -/
theorem report_after_stop :
    ∃ w, Run step (fun _ _ => True) (start {}) buttonPressed w ∧
      PagesInOrder (buttonPressed ++
        [(fiveSeconds, .control 4 "voice-one-01" (.ok (.timing connected)))]) ∧
      w.controller.activeSession = some 0 ∧
      (w.controller.heap 0).sessionId = connected.sessionId ∧
      Encoding.Valid (.timing connected) ∧
      (processControlMessage fiveSeconds "voice-one-01" (.ok (.timing connected)) w.controller).2 =
        .error (.valueError "timing record monotonic_ns must be non-decreasing") := by
  have hexec : (exec step (fun _ _ => true) (start {}) buttonPressed).map
      (fun w => (w.controller.activeSession, (w.controller.heap 0).sessionId,
        (processControlMessage fiveSeconds "voice-one-01" (.ok (.timing connected))
          w.controller).2)) = some (some 0, "voice-one-01",
            .error (.valueError "timing record monotonic_ns must be non-decreasing")) := by
    decide +kernel
  obtain ⟨w, hw, hfacts⟩ := Option.map_eq_some_iff.mp hexec
  obtain ⟨hactive, hid, hrefused⟩ := by simpa only [Prod.mk.injEq] using hfacts
  have hrun := run_of_exec (C := fun _ _ => True) (fun _ _ _ => trivial) _ _ hw
  exact ⟨w, hrun, connected_inOrder (.inr rfl), hactive, hid, connected_valid, hrefused⟩

end HermesRealtime.PageClock
