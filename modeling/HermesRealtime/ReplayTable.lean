import HermesRealtime.Attempts

/-!
The replay table of `/execute`: what a store does to it, and whose results it keeps. `/session`
clears the table, while a handler may wait for a permission that was asked under the scope before.
-/

namespace HermesRealtime.ReplayTable

open Gateway Runs Attempts

variable {L : Library} {w w' : GatewayWorld} {as : List GatewayAction}

/-! ### Storing an entry -/

section

variable {g : GatewayState} {entry old : StoredResult} {callId : String}

lemma callId_of_lookup (h : g.lookup callId = some entry) : entry.callId = callId := by
  simpa using List.find?_some h

lemma mem_of_lookup (h : g.lookup callId = some entry) : entry ∈ g.executionResultsByCallId :=
  List.mem_of_find?_eq_some h

/-- Replacing an entry by one with the same key. -/
lemma find?_replace (l : List StoredResult) :
    (l.map fun old => if old.callId = entry.callId then entry else old).find?
        (fun e => e.callId = callId) =
      (l.find? fun e => e.callId = callId).map
        fun old => if old.callId = entry.callId then entry else old := by
  rw [List.find?_map]
  congr 1
  refine congrArg (List.find? · l) (funext fun old => ?_)
  by_cases hold : old.callId = entry.callId <;> simp [hold]

lemma store_of_some (h : (g.lookup entry.callId).isSome) :
    (g.store entry).executionResultsByCallId =
      g.executionResultsByCallId.map fun old => if old.callId = entry.callId then entry else old :=
  if_pos h

lemma store_of_none (h : g.lookup entry.callId = none) :
    (g.store entry).executionResultsByCallId = g.executionResultsByCallId ++ [entry] := by
  simp [GatewayState.store, h]

lemma lookup_store_self (g : GatewayState) (entry : StoredResult) :
    (g.store entry).lookup entry.callId = some entry := by
  rw [GatewayState.lookup]
  cases hold : g.lookup entry.callId with
  | none =>
    rw [store_of_none hold, List.find?_append, show List.find? _ _ = none from hold]
    simp
  | some old =>
    rw [store_of_some (by simp [hold]), find?_replace, show List.find? _ _ = some old from hold]
    simp [callId_of_lookup hold]

lemma lookup_store_of_ne (h : entry.callId ≠ callId) :
    (g.store entry).lookup callId = g.lookup callId := by
  rw [GatewayState.lookup]
  cases hold : g.lookup entry.callId with
  | none =>
    rw [store_of_none hold, List.find?_append]
    simp [h, GatewayState.lookup]
  | some old =>
    rw [store_of_some (by simp [hold]), find?_replace]
    change (g.lookup callId).map _ = g.lookup callId
    cases hcall : g.lookup callId with
    | none => rfl
    | some other => simp [callId_of_lookup hcall, Ne.symm h]

lemma length_store_of_none (h : g.lookup entry.callId = none) :
    (g.store entry).executionResultsByCallId.length = g.executionResultsByCallId.length + 1 := by
  simp [store_of_none h]

lemma length_le_store (g : GatewayState) (entry : StoredResult) :
    g.executionResultsByCallId.length ≤ (g.store entry).executionResultsByCallId.length := by
  cases hold : g.lookup entry.callId with
  | none => simp [store_of_none hold]
  | some old =>
    have hsome : (g.lookup entry.callId).isSome := by simp [hold]
    simp [store_of_some hsome]

lemma mem_store (h : old ∈ (g.store entry).executionResultsByCallId) :
    old = entry ∨ old ∈ g.executionResultsByCallId := by
  cases hold : g.lookup entry.callId with
  | none =>
    rw [store_of_none hold] at h
    rcases List.mem_append.mp h with h | h
    · exact .inr h
    · exact .inl (List.mem_singleton.mp h)
  | some other =>
    rw [store_of_some (by simp [hold])] at h
    obtain ⟨e, he, rfl⟩ := List.mem_map.mp h
    split_ifs
    · exact .inl rfl
    · exact .inr he

end

/-! ### Whose results the table keeps -/

/-- Every entry comes from a request that was executed under the installed scope. -/
def TableScoped (w : GatewayWorld) : Prop :=
  ∀ entry ∈ w.gateway.executionResultsByCallId, w.gateway.activeExecutionScope = some entry.scope

/-- A capability that ends with something to store ends under the scope it was started under. -/
def EndsInScope (w : GatewayWorld) : GatewayAction → Prop
  | .resume i ended => ∀ run ∈ w.executions[i]?,
      (capabilityReply run.request.callId ended).isSome →
        w.gateway.activeExecutionScope = some run.request.scope
  | _ => True

instance (w : GatewayWorld) (a : GatewayAction) : Decidable (EndsInScope w a) :=
  match a with
  | .resume i ended => inferInstanceAs (Decidable (∀ run ∈ w.executions[i]?,
      (capabilityReply run.request.callId ended).isSome →
        w.gateway.activeExecutionScope = some run.request.scope))
  | .controller .. | .execute .. | .session .. | .offer .. | .upstream .. => .isTrue trivial

/-- The end of a handler whose capability was started under `run.request.scope`. -/
lemma tableScoped_finish {run : Execution} {ended : CapabilityEnd} (h : TableScoped w) :
    TableScoped (w.finish L run ended) ↔ ((capabilityReply run.request.callId ended).isSome →
      w.gateway.activeExecutionScope = some run.request.scope) := by
  dsimp only [GatewayWorld.finish]
  rcases capabilityReply run.request.callId ended with _ | ⟨status, body⟩
  · exact iff_of_true h (by simp)
  · refine ⟨fun h' _ => ?_, fun hscope entry hentry => ?_⟩
    · exact h' _ (mem_of_lookup (lookup_store_self w.gateway
        ⟨run.request.callId, run.fingerprint, status, L.dumps false body, run.request.scope⟩))
    · rcases mem_store hentry with rfl | hentry
      · exact hscope rfl
      · exact h entry hentry

/-- **A step keeps the table to the installed scope exactly if what it stores was executed under
it.** -/
theorem tableScoped_step {a : GatewayAction} (h : TableScoped w)
    (hs : gatewayStep L w a = some w') :
    TableScoped w' ↔ EndsInScope w a := by
  cases gatewayStep_move hs with
  | ran client request said ended fingerprint hadmits hended =>
    refine (tableScoped_finish (w := w.observe _) h).trans (iff_of_true (fun _ => ?_) trivial)
    exact hadmits.current.scope
  | resumed i run ended hrun =>
    refine (tableScoped_finish (w := { w with executions := w.executions.eraseIdx i }) h).trans ?_
    simp [EndsInScope, hrun]
  | installed i answer sessionToken scopeToken handler localSessionId gateway hattempt hfresh
      hgateway =>
    refine iff_of_true ?_ trivial
    simp [TableScoped, GatewayWorld.observe, hgateway, GatewayState.install]
  | _ => exact iff_of_true h trivial

/-- **Every result in the table was obtained under the installed scope**, in a run in which no
capability ends with something to store after its scope has been replaced. -/
theorem tableScoped_run (h : Run (gatewayStep L) EndsInScope {} as w) : TableScoped w :=
  h.invariant (fun _ hentry => absurd hentry List.not_mem_nil) fun _ _ _ ht hc hs =>
    (tableScoped_step ht hs).mpr hc

/-- The voice page is given a session, and the scope for it. -/
def givenScope (i : ℕ) (scope : String) : List GatewayAction :=
  [.session true (pageRequest "voice-one-01"), .offer i (.sdp "v=0"),
   .upstream i (.response 201 "v=0") "token" scope]

def permissionRequest (scope : String) : ExecutionRequest :=
  ⟨scope, "call-1", "resolve_heavy_agent_block",
    .object [("task_id", .str "t_1"), ("block_event_id", .int 7),
      ("decision", .str "approve_once"), ("response", .str "go on")]⟩

def pageClient : Client := ⟨some "127.0.0.1", some localClientHeaderValue⟩

/-- A permission is being resolved when the page is given another session. -/
def resolvedLate : List GatewayAction :=
  [.controller (some "voice-one-01")] ++ givenScope 0 "scope-0123456789" ++
  [.execute pageClient (permissionRequest "scope-0123456789") none] ++
  givenScope 0 "scope-9876543210" ++ [.resume 0 (.result [("ok", .bool true)])]

/-- What was obtained under the scope before stands in the table of the new one. -/
theorem tableScoped_resolvedLate : ∃ as, ∀ L, ∃ w, Run (gatewayStep L) (fun _ _ => True) {} as w ∧
    w.gateway.activeExecutionScope = some "scope-9876543210" ∧ ¬ TableScoped w := by
  refine ⟨resolvedLate, fun L => ?_⟩
  have hexec : (exec (gatewayStep L) (fun _ _ => true) {} resolvedLate).map
      (fun w => (w.gateway.activeExecutionScope,
        w.gateway.executionResultsByCallId.map StoredResult.scope)) =
      some (some "scope-9876543210", ["scope-0123456789"]) := rfl
  obtain ⟨w, hw, hfacts⟩ := Option.map_eq_some_iff.mp hexec
  simp only [Prod.mk.injEq] at hfacts
  obtain ⟨hscope, hstored⟩ := hfacts
  have hrun := run_of_exec (C := fun _ _ => True) (fun _ _ _ => trivial) _ _ hw
  refine ⟨w, hrun, hscope, fun htable => ?_⟩
  obtain ⟨entry, hentry, hold⟩ := List.mem_map.mp (hstored ▸ List.mem_singleton.mpr rfl)
  have := htable entry hentry
  rw [hscope, hold] at this
  exact absurd this (by decide)

/-- A permission that is resolved under its own scope. -/
def resolvedInTime : List GatewayAction :=
  [.controller (some "voice-one-01")] ++ givenScope 0 "scope-0123456789" ++
  [.execute pageClient (permissionRequest "scope-0123456789") none,
   .resume 0 (.result [("ok", .bool true)])]

theorem tableScoped_run_resolved : ∃ as, ∀ L, ∃ w, Run (gatewayStep L) EndsInScope {} as w ∧
    w.gateway.executionResultsByCallId.length = 1 ∧ TableScoped w := by
  refine ⟨resolvedInTime, fun L => ?_⟩
  have hexec : (exec (gatewayStep L) (fun w a => decide (EndsInScope w a)) {} resolvedInTime).map
      (fun w => w.gateway.executionResultsByCallId.length) = some 1 := rfl
  obtain ⟨w, hw, hlength⟩ := Option.map_eq_some_iff.mp hexec
  have hrun := run_of_exec (C := EndsInScope) (fun _ _ => of_decide_eq_true) _ _ hw
  exact ⟨w, hrun, hlength, tableScoped_run hrun⟩

end HermesRealtime.ReplayTable
