import HermesRealtime.SessionInvariants

/-!
The records of a trace. Whoever writes one, the page, the controller or the sideband, it is not
earlier than any before it: the trace itself takes no other, and nothing else touches what it has
taken.
-/

namespace HermesRealtime.TraceOrder

open Values Timing Controller SessionRuns Runs SessionInvariants

/-- The records of a trace are in the order of their timestamps. -/
def Ordered (t : SessionTrace) : Prop := t.events.Pairwise (·.monotonicNs ≤ ·.monotonicNs)

lemma ordered_new (sessionId : String) : Ordered ⟨sessionId, []⟩ := List.Pairwise.nil

/-- No record of an ordered trace is later than the last. -/
lemma Ordered.le_last {t : SessionTrace} (h : Ordered t) {last e : TimingEvent}
    (hlast : last ∈ t.events.getLast?) (he : e ∈ t.events) : e.monotonicNs ≤ last.monotonicNs := by
  obtain ⟨before, hevents⟩ := List.getLast?_eq_some_iff.mp hlast
  rw [Ordered, hevents, List.pairwise_append] at h
  rw [hevents, List.mem_append, List.mem_singleton] at he
  rcases he with he | rfl
  · exact h.2.2 e he last (List.mem_singleton_self last)
  · exact le_rfl

/-- The trace admits a time exactly if it is behind none of its records. -/
lemma Ordered.admits_iff {t : SessionTrace} (h : Ordered t) (ns : ℤ) :
    t.Admits ns ↔ ∀ e ∈ t.events, e.monotonicNs ≤ ns := by
  have hadmits : t.Admits ns ↔ ∀ last ∈ t.events.getLast?, last.monotonicNs ≤ ns := by
    simp [SessionTrace.Admits, SessionTrace.lastNs]
  rw [hadmits]
  refine ⟨fun hlast e he => ?_, fun hall last hlast => hall last (List.mem_of_getLast? hlast)⟩
  obtain ⟨last, hmem⟩ := Option.isSome_iff_exists.mp
    (List.getLast?_isSome.mpr (List.ne_nil_of_mem he))
  have hle := h.le_last hmem he
  have hbound := hlast last hmem
  omega

/-- A record that the trace takes does not put it out of order. -/
lemma Ordered.record {t t' : SessionTrace} (h : Ordered t) {clock : Clock} {name : String}
    {source : TimingEventSource} {data : JsonDict} {ns : Option ℤ}
    (hrecord : t.record clock name source data ns = .ok t') : Ordered t' := by
  rw [SessionTrace.record] at hrecord
  split_ifs at hrecord with hadmits hvalid
  · obtain rfl := Except.ok.inj hrecord
    rw [h.admits_iff] at hadmits
    refine List.pairwise_append.mpr ⟨h, List.pairwise_singleton _ _, fun e he e' he' => ?_⟩
    rw [List.mem_singleton.mp he']
    exact hadmits e he

/-! ### Runs -/

lemma ordered_local : Local fun s => Ordered s.trace where
  fresh sessionId _ _ := ordered_new sessionId
  same _ _ _ htrace _ h := htrace ▸ h
  record _ _ _ _ _ _ _ hrecord h := Ordered.record h hrecord
  begun _ _ _ _ _ _ h := h
  consumed _ _ h := h

/-- In every run every trace is in order. -/
theorem run_order {g : Config} {as : List (Env × Action)} {w : World}
    (h : Run step (fun _ _ => True) (start g) as w) (ref : ℕ) :
    Ordered (w.controller.heap ref).trace :=
  run_holds ordered_local h ref

end HermesRealtime.TraceOrder
