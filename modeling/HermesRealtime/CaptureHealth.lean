import HermesRealtime.Watching
import HermesRealtime.Debouncing
import HermesRealtime.Snapshots
import Mathlib.Data.List.Chain

/-!
What the worker reports and what it fires, over any number of rounds. The reports on the capture
follow the arrival of samples alone: the capture is unhealthy when nothing has come for too long,
which is reported once for each silence. The activations are those of the windows that it has
judged, each archived before it is printed or handed over; a failure of that is written to the same
file as the reports, but it is none on the capture. A ring that nothing is written to any more gives
the same window for ever.
-/

namespace HermesRealtime.CaptureHealth

open Listener Watching Debouncing Snapshots
open Archiving (CaptureStatus)

variable {T F : Type}

/-- What holds of the operations on times: no time has passed at once, and a silence grows. -/
structure Lawful (ti : Times T) : Prop where
  fresh : ∀ t, silent ti t t = false
  grows : ∀ a b last, ti.atLeast b a = true → silent ti a last = true → silent ti b last = true

/-- The clock does not go back from one round to the next. -/
def Steady (ti : Times T) (start : T) : List (Round T F) → Prop
  | [] => True
  | r :: rounds => ti.atLeast r.now start = true ∧ Steady ti r.now rounds

/-- The times of the rounds that have found more samples than the round before. -/
def arrivals (total : ℕ) : List (Round T F) → List T
  | [] => []
  | r :: rounds =>
    if r.total = total then arrivals total rounds else r.now :: arrivals r.total rounds

def lastArrival (start : T) (total : ℕ) (rounds : List (Round T F)) : T :=
  (arrivals total rounds).getLastD start

def nowAfter (start : T) (rounds : List (Round T F)) : T :=
  (rounds.map Round.now).getLastD start

/-- The reports on the capture: whether each one says that it is healthy. A failed delivery, which
is written to the same file, is none. -/
def healthReports (effects : List (Effect F)) : List Bool :=
  effects.filterMap fun effect =>
    match effect with
    | .report .healthy => some true
    | .report .unhealthy => some false
    | _ => none

/-- What the last report on the capture says. -/
def lastHealth (effects : List (Effect F)) : CaptureStatus :=
  match (healthReports effects).getLast? with
  | none => .starting
  | some true => .healthy
  | some false => .unhealthy

variable {ti : Times T} {fl : Floats F} {o : Judging F}

lemma healthReports_append (a b : List (Effect F)) :
    healthReports (a ++ b) = healthReports a ++ healthReports b := List.filterMap_append

/-- Judging has nothing to do with the health of the capture. -/
lemma judge_frame (ti : Times T) (fl : Floats F) (o : Judging F) (w : Worker T)
    (r : Round T F) :
    (judge ti fl o w r).1.lastHealthTotal = w.lastHealthTotal ∧
      (judge ti fl o w r).1.lastCaptureSampleAt = w.lastCaptureSampleAt ∧
      (judge ti fl o w r).1.wroteUnhealthy = w.wroteUnhealthy ∧
        healthReports (judge ti fl o w r).2 = [] := by
  unfold judge
  split
  · refine ⟨rfl, rfl, rfl, ?_⟩
    rcases judged r with _ | ⟨window, probability⟩
    · rfl
    · dsimp only
      split
      · unfold activate deliver
        split <;> split <;> rfl
      · rfl
  · exact ⟨rfl, rfl, rfl, rfl⟩

/-- What a worker knows of the capture at `now`. -/
structure Knows (ti : Times T) (w : Worker T) (total : ℕ) (last now : T) : Prop where
  total_eq : w.lastHealthTotal = total
  last_eq : w.lastCaptureSampleAt = last
  unhealthy_eq : w.wroteUnhealthy = silent ti now last

/-- A round in which samples have come. -/
lemma goRound_arrival (fl : Floats F) (o : Judging F) (hti : Lawful ti) {w : Worker T}
    {total : ℕ} {last now : T} (hw : Knows ti w total last now) {r : Round T F}
    (hr : r.total ≠ total) :
    Knows ti (goRound ti fl o w r).1 r.total r.now r.now ∧
      healthReports (goRound ti fl o w r).2 = [true] := by
  have hwatch : watchCapture ti w r = ({ w with
      lastHealthTotal := r.total, wroteUnhealthy := false, lastCaptureSampleAt := r.now },
      [.report .healthy]) := by
    rw [watchCapture, if_pos (by rwa [hw.total_eq])]
  obtain ⟨htotal, hlast, hunhealthy, hreports⟩ := judge_frame ti fl o
    (watchCapture ti w r).1 r
  rw [hwatch] at htotal hlast hunhealthy hreports
  simp only [goRound, hwatch, healthReports_append, hreports]
  exact ⟨⟨htotal, hlast, hunhealthy.trans (hti.fresh r.now).symm⟩, rfl⟩

/-- A round in which nothing has come. -/
lemma goRound_silence (fl : Floats F) (o : Judging F) (hti : Lawful ti) {w : Worker T}
    {total : ℕ} {last now : T} (hw : Knows ti w total last now) {r : Round T F}
    (hr : r.total = total) (hnow : ti.atLeast r.now now = true) :
    Knows ti (goRound ti fl o w r).1 total last r.now ∧
      healthReports (goRound ti fl o w r).2 =
        if silent ti r.now last = true ∧ silent ti now last = false then [false] else [] := by
  obtain ⟨htotal, hlast, hunhealthy⟩ := hw
  have hsame : ¬ r.total ≠ w.lastHealthTotal := by simp [hr, htotal]
  obtain ⟨htotal', hlast', hunhealthy', hreports⟩ := judge_frame ti fl o
    (watchCapture ti w r).1 r
  simp only [goRound, healthReports_append, hreports, List.append_nil]
  rw [watchCapture, if_neg hsame, hlast, hunhealthy] at htotal' hlast' hunhealthy' ⊢
  by_cases hnew : silent ti now last = false ∧ silent ti r.now last = true
  · rw [if_pos (by simpa using hnew)] at htotal' hlast' hunhealthy' ⊢
    exact ⟨⟨htotal'.trans htotal, hlast', hunhealthy'.trans hnew.2.symm⟩,
      by simp [hnew, healthReports]⟩
  · rw [if_neg (by simpa using hnew)] at htotal' hlast' hunhealthy' ⊢
    have hstays : silent ti now last = silent ti r.now last := by
      cases hbefore : silent ti now last with
      | true => exact (hti.grows _ _ _ hnow hbefore).symm
      | false =>
        cases hafter : silent ti r.now last with
        | true => exact absurd ⟨hbefore, hafter⟩ hnew
        | false => rfl
    refine ⟨⟨htotal'.trans htotal, hlast'.trans hlast, hunhealthy'.trans (hunhealthy.trans hstays)⟩,
      ?_⟩
    rw [if_neg fun h => hnew ⟨h.2, h.1⟩]
    rfl

/-- The reports that a worker makes on the capture from `now` on. -/
def expected (ti : Times T) (total : ℕ) (last now : T) : List (Round T F) → List Bool
  | [] => []
  | r :: rounds =>
    if r.total = total then
      (if silent ti r.now last = true ∧ silent ti now last = false then [false] else []) ++
        expected ti total last r.now rounds
    else true :: expected ti r.total r.now r.now rounds

lemma healthReports_goRounds (fl : Floats F) (o : Judging F) (hti : Lawful ti) {w : Worker T}
    {total : ℕ} {last now : T} (hw : Knows ti w total last now) {rounds : List (Round T F)}
    (hsteady : Steady ti now rounds) :
    healthReports (goRounds ti fl o w rounds).2 = expected ti total last now rounds := by
  induction rounds generalizing w total last now with
  | nil => rfl
  | cons r rounds ih =>
    obtain ⟨hnow, hrest⟩ := hsteady
    simp only [goRounds, expected, healthReports_append]
    by_cases hr : r.total = total
    · obtain ⟨hknows, hreports⟩ := goRound_silence fl o hti hw hr hnow
      rw [if_pos hr, hreports, ih hknows hrest]
    · obtain ⟨hknows, hreports⟩ := goRound_arrival fl o hti hw hr
      rw [if_neg hr, hreports, ih hknows hrest]
      rfl

lemma nowAfter_cons (start : T) (r : Round T F) (rounds : List (Round T F)) :
    nowAfter start (r :: rounds) = nowAfter r.now rounds := by
  rw [nowAfter, List.map_cons, List.getLastD_cons, nowAfter]

lemma lastArrival_same (start : T) {total : ℕ} {r : Round T F} (hr : r.total = total)
    (rounds : List (Round T F)) :
    lastArrival start total (r :: rounds) = lastArrival start total rounds := by
  rw [lastArrival, arrivals, if_pos hr, lastArrival]

lemma lastArrival_new (start : T) {total : ℕ} {r : Round T F} (hr : r.total ≠ total)
    (rounds : List (Round T F)) :
    lastArrival start total (r :: rounds) = lastArrival r.now r.total rounds := by
  rw [lastArrival, arrivals, if_neg hr, lastArrival, List.getLastD_cons]

/-- What the last report says, and `before` where there is none. -/
def lastReport (before : Bool) (reports : List Bool) : Bool := reports.getLastD before

/-- The last report says that the capture is unhealthy if nothing has come for too long. -/
lemma lastReport_expected (hti : Lawful ti) (total : ℕ) (last : T) {now : T}
    {rounds : List (Round T F)} (hsteady : Steady ti now rounds) :
    lastReport (!silent ti now last) (expected ti total last now rounds) =
      !silent ti (nowAfter now rounds) (lastArrival last total rounds) := by
  induction rounds generalizing total last now with
  | nil => rfl
  | cons r rounds ih =>
    obtain ⟨hnow, hrest⟩ := hsteady
    rw [expected, nowAfter_cons]
    by_cases hr : r.total = total
    · rw [if_pos hr, lastArrival_same last hr, ← ih _ _ hrest]
      by_cases hnew : silent ti r.now last = true ∧ silent ti now last = false
      · rw [if_pos hnew, List.singleton_append, lastReport, List.getLastD_cons, hnew.1]
        rfl
      · rw [if_neg hnew, List.nil_append]
        have hstays : silent ti now last = silent ti r.now last := by
          cases hbefore : silent ti now last with
          | true => exact (hti.grows _ _ _ hnow hbefore).symm
          | false =>
            cases hafter : silent ti r.now last with
            | true => exact absurd ⟨hafter, hbefore⟩ hnew
            | false => rfl
        rw [hstays]
    · rw [if_neg hr, lastArrival_new last hr, ← ih _ _ hrest, lastReport, List.getLastD_cons,
        hti.fresh]
      rfl

/-- Every arrival is reported. -/
lemma count_expected (ti : Times T) (total : ℕ) (last now : T) (rounds : List (Round T F)) :
    (expected ti total last now rounds).count true = (arrivals total rounds).length := by
  induction rounds generalizing total last now with
  | nil => rfl
  | cons r rounds ih =>
    rw [expected, arrivals]
    by_cases hr : r.total = total
    · rw [if_pos hr, if_pos hr, List.count_append, ih]
      split <;> simp
    · rw [if_neg hr, if_neg hr, List.count_cons_self, ih, List.length_cons]

/-- A silence is reported once. -/
lemma expected_alternates (hti : Lawful ti) (total : ℕ) {last now : T}
    {rounds : List (Round T F)} (hsteady : Steady ti now rounds) :
    (expected ti total last now rounds).IsChain (fun a b => a = true ∨ b = true) ∧
      (silent ti now last = true → (expected ti total last now rounds).head? ≠ some false) := by
  induction rounds generalizing total last now with
  | nil => exact ⟨List.isChain_nil, fun _ => by simp [expected]⟩
  | cons r rounds ih =>
    obtain ⟨hnow, hrest⟩ := hsteady
    rw [expected]
    by_cases hr : r.total = total
    · obtain ⟨hchain, hhead⟩ := ih total hrest
      rw [if_pos hr]
      by_cases hnew : silent ti r.now last = true ∧ silent ti now last = false
      · rw [if_pos hnew, List.singleton_append]
        refine ⟨List.isChain_cons.mpr ⟨fun b hb => Or.inr ?_, hchain⟩, fun h => ?_⟩
        · cases b with
          | true => rfl
          | false => exact absurd hb (hhead hnew.1)
        · rw [hnew.2] at h
          cases h
      · rw [if_neg hnew, List.nil_append]
        exact ⟨hchain, fun h => hhead (hti.grows _ _ _ hnow h)⟩
    · obtain ⟨hchain, -⟩ := ih r.total hrest
      rw [if_neg hr]
      exact ⟨List.isChain_cons.mpr ⟨fun b _ => Or.inl rfl, hchain⟩, fun _ => by simp⟩

lemma arrivals_eq_nil_of {total : ℕ} {last now : T} {rounds : List (Round T F)}
    (h : expected ti total last now rounds = []) : arrivals total rounds = [] := by
  have hcount := count_expected ti total last now rounds
  rw [h] at hcount
  exact List.length_eq_zero_iff.mp hcount.symm

/-- **The reports follow the samples.** After any number of rounds, the last report on the capture
says that it is unhealthy exactly if nothing has come for too long; every round that finds new
samples reports it, and no silence is reported twice. -/
theorem capture_health (fl : Floats F) (o : Judging F) (hti : Lawful ti) (start : T)
    (rounds : List (Round T F)) (hsteady : Steady ti start rounds) :
    let effects := (goRounds ti fl o (.init ti start) rounds).2
    (lastHealth effects = if silent ti (nowAfter start rounds) (lastArrival start 0 rounds) then
        .unhealthy else if arrivals 0 rounds = [] then .starting else .healthy) ∧
      (healthReports effects).count true = (arrivals 0 rounds).length ∧
        (healthReports effects).IsChain fun a b => a = true ∨ b = true := by
  have hknows : Knows ti (Worker.init ti start) 0 start start :=
    ⟨rfl, rfl, (hti.fresh start).symm⟩
  have hreports := healthReports_goRounds fl o hti hknows hsteady
  have hlast := lastReport_expected hti 0 start hsteady
  dsimp only
  rw [lastHealth, hreports]
  refine ⟨?_, count_expected ti 0 start start rounds, (expected_alternates hti 0 hsteady).1⟩
  rw [hti.fresh, Bool.not_false, lastReport, List.getLastD_eq_getLast?] at hlast
  rcases hreport : (expected ti 0 start start rounds).getLast? with _ | healthy
  · rw [hreport, Option.getD_none] at hlast
    have hheard : silent ti (nowAfter start rounds) (lastArrival start 0 rounds) = false := by
      simpa using hlast.symm
    rw [hheard, arrivals_eq_nil_of (List.getLast?_eq_none_iff.mp hreport)]
    rfl
  · rw [hreport, Option.getD_some] at hlast
    subst hlast
    cases hheard : silent ti (nowAfter start rounds) (lastArrival start 0 rounds) with
    | true => rfl
    | false =>
      rw [hheard] at hreport
      have hpos := List.count_pos_iff.mpr (List.mem_of_getLast? hreport)
      rw [Bool.not_false, count_expected] at hpos
      simp only [Bool.not_false, Bool.false_eq_true, if_false]
      rw [if_neg (List.ne_nil_of_length_pos hpos)]

/-- Times in whole milliseconds. -/
def milliseconds : Times ℤ where
  zero := 0
  sub a b := a - b
  atLeast a b := decide (b ≤ a)
  equal a b := decide (a = b)
  ofMillis := Int.ofNat
  healthTimeout := 10000

lemma lawful_milliseconds : Lawful milliseconds := by
  constructor
  · intro t
    simp [silent, milliseconds]
  · intro a b last hab ha
    simp only [silent, milliseconds, decide_eq_true_eq] at *
    omega

def pairs : Judging ℤ := ⟨1, ⟨2, by decide, by decide⟩, 250, true⟩

/-- Samples come at once, and then no more for ten seconds. -/
theorem capture_health_silence :
    lastHealth (goRounds milliseconds integers pairs (.init milliseconds 0)
      [⟨160, 100, none, none, true⟩, ⟨160, 5000, none, none, true⟩,
        ⟨160, 10100, none, none, true⟩]).2 = .unhealthy :=
  (capture_health integers pairs lawful_milliseconds 0
    [⟨160, 100, none, none, true⟩, ⟨160, 5000, none, none, true⟩,
      ⟨160, 10100, none, none, true⟩] ⟨by decide, by decide, by decide, trivial⟩).1.trans
    (by decide)

/-! ### Activations -/

/-- The rounds in which the model is asked, from an inference at `last` on. -/
def asked (ti : Times T) (o : Judging F) (last : T) : List (Round T F) → List (Round T F)
  | [] => []
  | r :: rounds =>
    if isDue ti o last r then r :: asked ti o r.now rounds else asked ti o last rounds

/-- What the model says of the window of a round. -/
def inference (r : Round T F) : Option F := (judged r).map Prod.snd

/-- The rounds at which the debouncing fires. -/
def fired (fl : Floats F) (o : Judging F) (hits : ℕ) : List (Round T F) → List (Round T F)
  | [] => []
  | r :: rounds =>
    let after := afterInference fl o.threshold o.required hits (inference r)
    if after.2 then r :: fired fl o after.1 rounds else fired fl o after.1 rounds

/-- What is done in a round that fires. -/
def activation (hasHandler : Bool) (r : Round T F) : List (Effect F) :=
  match judged r with
  | some (window, probability) => activate hasHandler window probability r.delivered
  | none => []

/-- A report on the capture. -/
def isCaptureReport : Effect F → Bool
  | .report .healthy | .report .unhealthy => true
  | _ => false

/-- What is done besides reporting on the capture. -/
def doings (effects : List (Effect F)) : List (Effect F) :=
  effects.filter fun effect => !isCaptureReport effect

lemma doings_append (a b : List (Effect F)) : doings (a ++ b) = doings a ++ doings b :=
  List.filter_append ..

lemma doings_activation (hasHandler : Bool) (r : Round T F) :
    doings (activation hasHandler r) = activation hasHandler r := by
  unfold activation
  rcases judged r with _ | ⟨window, probability⟩
  · rfl
  · cases hasHandler <;> cases hdelivered : r.delivered <;>
      simp [activate, deliver, doings, isCaptureReport]

/-- Watching the capture leaves the judging alone. -/
lemma watchCapture_frame (ti : Times T) (w : Worker T) (r : Round T F) :
    (watchCapture ti w r).1.consecutiveHits = w.consecutiveHits ∧
      (watchCapture ti w r).1.lastInferenceAt = w.lastInferenceAt ∧
        doings (watchCapture ti w r).2 = [] := by
  unfold watchCapture
  split
  · exact ⟨rfl, rfl, rfl⟩
  · split
    · exact ⟨rfl, rfl, rfl⟩
    · exact ⟨rfl, rfl, rfl⟩

/-- A round that asks the model. -/
lemma goRound_due (fl : Floats F) {w : Worker T} {r : Round T F}
    (hdue : isDue ti o w.lastInferenceAt r = true) :
    let after := afterInference fl o.threshold o.required w.consecutiveHits (inference r)
    (goRound ti fl o w r).1.consecutiveHits = after.1 ∧
      (goRound ti fl o w r).1.lastInferenceAt = r.now ∧
        doings (goRound ti fl o w r).2 = if after.2 then activation o.hasHandler r else [] := by
  obtain ⟨hhits, hlast, hnone⟩ := watchCapture_frame ti w r
  have hjudge : isDue ti o (watchCapture ti w r).1.lastInferenceAt r = true := by rwa [hlast]
  simp only [goRound, judge, hjudge, if_true, doings_append, hnone, hhits, List.nil_append]
  refine ⟨rfl, trivial, ?_⟩
  have hactivation := doings_activation o.hasHandler r
  cases hr : judged r with
  | none =>
    simp only [activation, hr]
    split <;> rfl
  | some pair =>
    simp only [inference, activation, hr] at hactivation ⊢
    split
    · exact hactivation
    · rfl

lemma goRound_not_due (fl : Floats F) {w : Worker T} {r : Round T F}
    (hdue : isDue ti o w.lastInferenceAt r = false) :
    (goRound ti fl o w r).1.consecutiveHits = w.consecutiveHits ∧
      (goRound ti fl o w r).1.lastInferenceAt = w.lastInferenceAt ∧
        doings (goRound ti fl o w r).2 = [] := by
  obtain ⟨hhits, hlast, hnone⟩ := watchCapture_frame ti w r
  have hjudge : judge ti fl o (watchCapture ti w r).1 r = ((watchCapture ti w r).1, []) := by
    rw [judge, hlast, if_neg (by simp [hdue])]
  simp only [goRound, hjudge, List.append_nil]
  exact ⟨hhits, hlast, hnone⟩

/-- The worker does what the debouncing of its inferences says. -/
lemma doings_goRounds (w : Worker T) (rounds : List (Round T F)) :
    doings (goRounds ti fl o w rounds).2 =
      (fired fl o w.consecutiveHits (asked ti o w.lastInferenceAt rounds)).flatMap
        (activation o.hasHandler) := by
  induction rounds generalizing w with
  | nil => rfl
  | cons r rounds ih =>
    simp only [goRounds, doings_append, ih, asked]
    cases hdue : isDue ti o w.lastInferenceAt r with
    | true =>
      obtain ⟨hhits, hlast, hdone⟩ := goRound_due fl hdue
      rw [hhits, hlast, hdone, if_pos rfl, fired]
      split
      · rw [List.flatMap_cons]
      · rfl
    | false =>
      obtain ⟨hhits, hlast, hdone⟩ := goRound_not_due fl hdue
      rw [hhits, hlast, hdone, if_neg Bool.false_ne_true]
      rfl

/-- It fires as often as the debouncing of the inferences. -/
lemma length_fired (hits : ℕ) (rounds : List (Round T F)) :
    (fired fl o hits rounds).length =
      (activations fl o.threshold o.required hits (rounds.map inference)).count true := by
  induction rounds generalizing hits with
  | nil => rfl
  | cons r rounds ih =>
    rw [fired, List.map_cons, activations]
    split
    · rename_i hfires
      rw [List.length_cons, ih, hfires, List.count_cons_self]
    · rename_i hfires
      rw [ih, Bool.eq_false_of_not_eq_true hfires, List.count_cons_of_ne (by simp)]

/-- What fires is a hit. -/
lemma hit_of_fired {hits : ℕ} (hlt : hits < o.required.value) {window : Option F}
    (h : (afterInference fl o.threshold o.required hits window).2 = true) :
    isHit fl o.threshold window = true := by
  rw [afterInference_eq hits hlt] at h
  by_contra hhit
  rw [if_neg hhit] at h
  split at h <;> cases h

lemma afterInference_lt {hits : ℕ} (hlt : hits < o.required.value) (window : Option F) :
    (afterInference fl o.threshold o.required hits window).1 < o.required.value := by
  rw [afterInference_eq hits hlt]
  have hpos := o.required.pos
  split_ifs
  · exact hpos
  · dsimp only
    omega
  · exact hpos
  · exact hlt

lemma hit_of_mem_fired {hits : ℕ} (hlt : hits < o.required.value) {rounds : List (Round T F)}
    {r : Round T F} (hr : r ∈ fired fl o hits rounds) :
    r ∈ rounds ∧ isHit fl o.threshold (inference r) = true := by
  induction rounds generalizing hits with
  | nil => cases hr
  | cons first rounds ih =>
    have hfirst : (afterInference fl o.threshold o.required hits (inference first)).1 <
        o.required.value := afterInference_lt hlt (inference first)
    have hrest := ih hfirst
    rw [fired] at hr
    split at hr
    · rename_i hfires
      rcases List.mem_cons.mp hr with rfl | hr
      · exact ⟨List.mem_cons_self, hit_of_fired hlt hfires⟩
      · exact ⟨List.mem_cons_of_mem _ (hrest hr).1, (hrest hr).2⟩
    · exact ⟨List.mem_cons_of_mem _ (hrest hr).1, (hrest hr).2⟩

lemma judged_of_hit {r : Round T F} {threshold : F}
    (h : isHit fl threshold (inference r) = true) : ∃ window probability,
      judged r = some (window, probability) ∧ fl.atLeast probability threshold = true := by
  unfold inference at h
  rcases hr : judged r with _ | ⟨window, probability⟩
  · rw [hr] at h
    cases h
  · rw [hr] at h
    exact ⟨window, probability, rfl, h⟩

lemma consecutiveHits_goRound {w : Worker T} (hlt : w.consecutiveHits < o.required.value)
    (r : Round T F) : (goRound ti fl o w r).1.consecutiveHits < o.required.value := by
  cases hdue : isDue ti o w.lastInferenceAt r with
  | true =>
    rw [(goRound_due fl hdue).1]
    exact afterInference_lt hlt _
  | false => rwa [(goRound_not_due fl hdue).1]

/-- The count stays short of what is required. -/
lemma consecutiveHits_goRounds {w : Worker T} (hlt : w.consecutiveHits < o.required.value)
    (rounds : List (Round T F)) :
    (goRounds ti fl o w rounds).1.consecutiveHits < o.required.value := by
  induction rounds generalizing w with
  | nil => exact hlt
  | cons r rounds ih => exact ih (consecutiveHits_goRound hlt r)

/-- **The activations of a run.** Besides reporting on the capture the worker does this in each
round that fires, and nothing else: it archives the window that it has judged with its probability,
then prints the probability or hands it over, then reports a failure of that. Those rounds are among
the ones that have asked the model, with a window that is a hit, and there is one for every full
group of hits among them. -/
theorem activations_delivered (ti : Times T) (fl : Floats F) (o : Judging F) (start : T)
    (rounds : List (Round T F)) :
    let judgings := asked ti o ti.zero rounds
    doings (goRounds ti fl o (.init ti start) rounds).2 =
        (fired fl o 0 judgings).flatMap (activation o.hasHandler) ∧
      (∀ r ∈ fired fl o 0 judgings, r ∈ judgings ∧ ∃ window probability,
        judged r = some (window, probability) ∧ fl.atLeast probability o.threshold = true) ∧
      (fired fl o 0 judgings).length =
        ((hitRuns fl o.threshold (judgings.map inference)).map (· / o.required.value)).sum := by
  refine ⟨doings_goRounds _ rounds, fun r hr => ?_, ?_⟩
  · obtain ⟨hmem, hhit⟩ := hit_of_mem_fired o.required.pos hr
    exact ⟨hmem, judged_of_hit hhit⟩
  · rw [length_fired, count_activations o.required.pos]
    congr 2
    rcases hitRuns fl o.threshold ((asked ti o ti.zero rounds).map inference) with _ | ⟨run, runs⟩
    · rfl
    · simp

/-! ### A capture that has stalled -/

/-- What the worker finds when it goes round and nothing is written to the ring; `buffer` is what
was in its window before. The model gives one window always the same score. -/
def stalledRound (ring : SampleRing F) (model : List F → Option F) (buffer : List F) (now : T)
    (delivered : Bool) : Round T F :=
  let (count, window) :=
    ringSnapshotLatest ring [] (List.replicate modelSamples .read) buffer
  let snapshot := if count = modelSamples then some window else none
  { total := ring.totalWritten
    now
    window := snapshot
    score := snapshot.bind model
    delivered }

/-- The window of a stalled ring is the last one written to it, whatever was in the buffer. -/
lemma judged_stalledRound {ring : SampleRing F} {history : List F} (h : Written ring history)
    (hcount : ring.totalWritten = history.length % 2 ^ 64)
    (hcapacity : modelSamples ≤ ring.capacity)
    (hsamples : modelSamples ≤ history.length % 2 ^ 64) {model : List F → Option F}
    {probability : F} (hmodel : model (latest modelSamples history) = some probability)
    {buffer : List F} (hbuffer : buffer.length = modelSamples) (now : T) (delivered : Bool) :
    judged (stalledRound ring model buffer now delivered) =
      some (latest modelSamples history, probability) := by
  have hreads : reads (List.replicate modelSamples (.read : ReadEvent F)) = modelSamples := by
    simp [reads, List.filter_replicate, isRead]
  have hwrites : writes (List.replicate modelSamples (.read : ReadEvent F)) = 0 := by
    simp [writes, isRead]
  have hsnapshot : ringSnapshotLatest ring [] (List.replicate modelSamples .read) buffer =
      (modelSamples, latest modelSamples history) := by
    rw [ringSnapshotLatest_written h hcount [] (by rw [hbuffer]; decide) (by rwa [hbuffer])
      (by rw [hreads, hbuffer]) (by omega), hbuffer, if_neg (by omega), List.flatten_nil,
      List.append_nil]
  simp [judged, stalledRound, hsnapshot, hmodel]

lemma hitRuns_replicate {threshold probability : F}
    (hhit : fl.atLeast probability threshold = true) (n : ℕ) :
    hitRuns fl threshold (List.replicate n (some probability)) = [n] := by
  induction n with
  | zero => rfl
  | succ n ih =>
    have hfirst : isHit fl threshold (some probability) = true := hhit
    rw [List.replicate_succ, hitRuns_hit hfirst, ih]
    rfl

/-- Where every inference is the same hit, it fires once for every group. -/
lemma length_fired_same {hits : ℕ} (hlt : hits < o.required.value) {probability : F}
    (hhit : fl.atLeast probability o.threshold = true) {rounds : List (Round T F)}
    (hsame : ∀ r ∈ rounds, inference r = some probability) :
    (fired fl o hits rounds).length = (hits + rounds.length) / o.required.value := by
  have hreplicate : rounds.map inference = List.replicate rounds.length (some probability) :=
    List.eq_replicate_iff.mpr ⟨List.length_map _, fun window hwindow => by
      obtain ⟨r, hr, rfl⟩ := List.mem_map.mp hwindow
      exact hsame r hr⟩
  rw [length_fired, hreplicate, count_activations hlt, hitRuns_replicate hhit]
  simp

/-- When the model was last asked. -/
def lastAsked (ti : Times T) (o : Judging F) (last : T) (rounds : List (Round T F)) : T :=
  ((asked ti o last rounds).map Round.now).getLastD last

lemma mem_of_mem_asked {last : T} {rounds : List (Round T F)} {r : Round T F}
    (h : r ∈ asked ti o last rounds) : r ∈ rounds := by
  induction rounds generalizing last with
  | nil => cases h
  | cons first rounds ih =>
    rw [asked] at h
    split at h
    · rcases List.mem_cons.mp h with rfl | h
      · exact List.mem_cons_self
      · exact List.mem_cons_of_mem _ (ih h)
    · exact List.mem_cons_of_mem _ (ih h)

lemma asked_append (last : T) (a b : List (Round T F)) :
    asked ti o last (a ++ b) = asked ti o last a ++ asked ti o (lastAsked ti o last a) b := by
  induction a generalizing last with
  | nil => rfl
  | cons r a ih =>
    rw [List.cons_append, lastAsked, asked, asked]
    split
    · rw [ih, List.cons_append, List.map_cons, List.getLastD_cons, lastAsked]
    · rw [ih, lastAsked]

/-- A round that comes an interval after the last inference is asked, if none before it is. -/
lemma asked_ne_nil {last : T} {rounds : List (Round T F)} {r : Round T F}
    (hdue : isDue ti o last r = true) : asked ti o last (rounds ++ [r]) ≠ [] := by
  induction rounds with
  | nil => simp [asked, hdue]
  | cons first rounds ih =>
    rw [List.cons_append, asked]
    split
    · exact List.cons_ne_nil _ _
    · exact ih

/-- Again and again it is at least an interval after `last`. -/
def Passes (ti : Times T) (o : Judging F) (last : T) (now : ℕ → T) : Prop :=
  ∀ k, ∃ j, k ≤ j ∧ ti.atLeast (ti.sub (now j) last) (ti.ofMillis o.intervalMs) = true

/-- The model is asked without end while there are enough samples and the clock goes on. -/
lemma asked_unbounded {start : T} {round : ℕ → Round T F}
    (htotal : ∀ i, modelSamples ≤ (round i).total)
    (hstart : Passes ti o start fun i => (round i).now)
    (hnext : ∀ i, Passes ti o (round i).now fun i => (round i).now) (N : ℕ) :
    ∃ n, N ≤ (asked ti o start ((List.range n).map round)).length := by
  induction N with
  | zero => exact ⟨0, Nat.zero_le _⟩
  | succ N ih =>
    obtain ⟨n, hn⟩ := ih
    obtain ⟨last, hlast⟩ : ∃ last, last = lastAsked ti o start ((List.range n).map round) :=
      ⟨_, rfl⟩
    have hpasses : Passes ti o last fun i => (round i).now := by
      rcases List.eq_nil_or_concat (asked ti o start ((List.range n).map round)) with
        hnone | ⟨before, r, hsome⟩
      · rw [hlast, lastAsked, hnone]
        exact hstart
      · have hmem : r ∈ (List.range n).map round := mem_of_mem_asked (by rw [hsome]; simp)
        obtain ⟨i, -, rfl⟩ := List.mem_map.mp hmem
        rw [hlast, lastAsked, hsome]
        simpa using hnext i
    obtain ⟨j, hj, hlate⟩ := hpasses n
    obtain ⟨d, rfl⟩ := Nat.exists_eq_add_of_le hj
    refine ⟨n + d + 1, ?_⟩
    have hdue : isDue ti o last (round (n + d)) = true := by
      simp only [isDue, Bool.and_eq_true, decide_eq_true_eq, Bool.or_eq_true]
      exact ⟨htotal _, .inr hlate⟩
    have hsplit : (List.range (n + d + 1)).map round = (List.range n).map round ++
        ((List.range d).map (fun i => round (n + i)) ++ [round (n + d)]) := by
      rw [List.range_succ, List.map_append, List.range_add, List.map_append, List.map_map,
        List.append_assoc]
      rfl
    have hasked : asked ti o last ((List.range d).map (fun i => round (n + i)) ++
        [round (n + d)]) ≠ [] := asked_ne_nil hdue
    have hmore := List.length_pos_of_ne_nil hasked
    rw [hsplit, asked_append, List.length_append, ← hlast]
    omega

/-- **A capture that stalls on the word fires on and on.** Where the last window written to the ring
is a hit and nothing more is written, the worker finds this window and its score in every round,
whatever it has done before; it fires once for every group of inferences, and without end if the
clock goes on. -/
theorem stalled_fires (ti : Times T) (fl : Floats F) (o : Judging F) {capacity : ℕ}
    {hasRoom : Bool} {ring : SampleRing F} (hinit : ringInit fl capacity hasRoom = some ring)
    (hcapacity : modelSamples ≤ capacity) (calls : List (List F))
    (hsamples : modelSamples ≤ calls.flatten.length % 2 ^ 64) {model : List F → Option F}
    {probability : F} (hmodel : model (latest modelSamples calls.flatten) = some probability)
    (hhit : fl.atLeast probability o.threshold = true) (start : T) (before : List (Round T F))
    (buffer : ℕ → List F) (hbuffer : ∀ i, (buffer i).length = modelSamples) (now : ℕ → T)
    (delivered : ℕ → Bool) :
    let w := (goRounds ti fl o (.init ti start) before).1
    let round := fun i =>
      stalledRound (calls.foldl SampleRing.write ring) model (buffer i) (now i) (delivered i)
    (∀ i, judged (round i) = some (latest modelSamples calls.flatten, probability)) ∧
      (∀ n, let judgings := asked ti o w.lastInferenceAt ((List.range n).map round)
        doings (goRounds ti fl o w ((List.range n).map round)).2 =
            (fired fl o w.consecutiveHits judgings).flatMap (activation o.hasHandler) ∧
          (fired fl o w.consecutiveHits judgings).length =
            (w.consecutiveHits + judgings.length) / o.required.value) ∧
      (Passes ti o w.lastInferenceAt now → (∀ i, Passes ti o (now i) now) →
        ∀ N, ∃ n, N ≤ (fired fl o w.consecutiveHits
          (asked ti o w.lastInferenceAt ((List.range n).map round))).length) := by
  intro w round
  obtain ⟨rfl, hwritten, hcount⟩ := writes_written hinit calls
  have hlt : w.consecutiveHits < o.required.value :=
    consecutiveHits_goRounds o.required.pos before
  have hjudged (i : ℕ) : judged (round i) = some (latest modelSamples calls.flatten, probability) :=
    judged_stalledRound hwritten hcount hcapacity hsamples hmodel (hbuffer i) (now i) (delivered i)
  have hfired (n : ℕ) :
      (fired fl o w.consecutiveHits
        (asked ti o w.lastInferenceAt ((List.range n).map round))).length =
      (w.consecutiveHits + (asked ti o w.lastInferenceAt ((List.range n).map round)).length) /
        o.required.value := by
    refine length_fired_same hlt hhit fun r hr => ?_
    obtain ⟨i, -, rfl⟩ := List.mem_map.mp (mem_of_mem_asked hr)
    rw [inference, hjudged i]
    rfl
  refine ⟨hjudged, fun n => ⟨doings_goRounds w _, hfired n⟩, fun hstart hnext N => ?_⟩
  have htotal (i : ℕ) : modelSamples ≤ (round i).total := by
    change modelSamples ≤ (calls.foldl SampleRing.write ring).totalWritten
    rwa [hcount]
  obtain ⟨n, hn⟩ := asked_unbounded htotal hstart hnext (N * o.required.value)
  refine ⟨n, ?_⟩
  rw [hfired n, Nat.le_div_iff_mul_le o.required.pos]
  omega

/-- A ring as it is made in `main`. -/
def freshRing : SampleRing ℤ := ⟨64000, fun _ => 0, ⟨0, by decide⟩, 0, by decide⟩

/-- A model that takes everything for the word. -/
def credulous (_ : List ℤ) : Option ℤ := some 1

/-- The word fills the ring, and the clock ticks four times a second. -/
theorem stalled_fires_twice : ∃ n, 2 ≤ (fired integers pairs 0 (asked milliseconds pairs 0
    ((List.range n).map fun (i : ℕ) => stalledRound
      ([List.replicate 48000 7].foldl SampleRing.write freshRing)
      credulous (List.replicate modelSamples 0) (250 * (i : ℤ)) true))).length := by
  have hinit : ringInit integers 64000 true = some freshRing := dif_pos ⟨by decide, by decide⟩
  have hlength : [List.replicate 48000 (7 : ℤ)].flatten.length = 48000 := by
    rw [List.flatten_cons, List.flatten_nil, List.append_nil, List.length_replicate]
  have hsamples : modelSamples ≤ [List.replicate 48000 (7 : ℤ)].flatten.length % 2 ^ 64 := by
    rw [hlength]
    decide
  have hmodel : credulous (latest modelSamples [List.replicate 48000 7].flatten) = some 1 := rfl
  have hpasses (last : ℤ) : Passes milliseconds pairs last fun i => 250 * (i : ℤ) := by
    intro k
    refine ⟨k + last.toNat + 1, by omega, ?_⟩
    simp only [milliseconds, pairs, decide_eq_true_eq]
    push_cast
    omega
  exact (stalled_fires milliseconds integers pairs hinit (by decide) _ hsamples hmodel (by decide)
    0 [] (fun _ => List.replicate modelSamples 0) (fun _ => List.length_replicate)
    (fun i => 250 * (i : ℤ)) fun _ => true).2.2 (hpasses 0) (fun i => hpasses _) 2

end HermesRealtime.CaptureHealth
