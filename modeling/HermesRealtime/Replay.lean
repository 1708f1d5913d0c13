import HermesRealtime.ReplayTable
import Mathlib.Data.List.Perm.Basic

/-!
Replaying `/execute`: a `call_id` runs its capability once, and later requests get the answer of
that run. The table is read before the capability runs and written after it, so this depends on
what else comes while a permission is being resolved.
-/

namespace HermesRealtime.Replay

open Gateway Runs Attempts ReplayTable

variable {L : Library} {w w' : GatewayWorld} {as : List GatewayAction}
variable {scope callId fingerprint : String} {log : List Observation}

/-! ### What has been seen of a call -/

/-- The observation is of the call `callId` under the scope. -/
def About (scope callId : String) : Observation → Prop
  | .started s c _ => s = scope ∧ c = callId
  | .responded s c _ _ => s = scope ∧ c = callId
  | _ => False

/-- A capability is started under the scope. -/
def startsIn (scope : String) : Observation → Bool
  | .started s _ _ => s = scope
  | _ => false

/-- No two runs of one call. -/
def RunsOnce (log : List Observation) : Prop :=
  log.Pairwise fun o o' => ∀ scope callId fp fp',
    o = .started scope callId fp → o' ≠ .started scope callId fp'

/-- The answers to one request, those that are not a conflict, are all the same. -/
def Replays (log : List Observation) : Prop :=
  ∀ scope callId fp reply reply', .responded scope callId fp reply ∈ log →
    .responded scope callId fp reply' ∈ log → reply.status ≠ 409 → reply'.status ≠ 409 →
      reply = reply'

/-- A call that has run is a conflict for another request. -/
def RefusesReuse (log : List Observation) : Prop :=
  ∀ scope callId fp fp' reply, .started scope callId fp ∈ log →
    .responded scope callId fp' reply ∈ log → fp' ≠ fp → reply = conflictReply callId

/-- No scope runs more capabilities than a session may. -/
def RunsBounded (log : List Observation) : Prop :=
  ∀ scope, log.countP (startsIn scope) ≤ maxOpenaiCallsPerSession

structure ReplaySafe (log : List Observation) : Prop where
  once : RunsOnce log
  replays : Replays log
  reuse : RefusesReuse log
  bounded : RunsBounded log

lemma fingerprint_once {fp fp' : String} (h : RunsOnce log) (hs : .started scope callId fp ∈ log)
    (hs' : .started scope callId fp' ∈ log) : fp = fp' := by
  obtain ⟨i, hi, hget⟩ := List.getElem_of_mem hs
  obtain ⟨j, hj, hget'⟩ := List.getElem_of_mem hs'
  have hpairs := List.pairwise_iff_getElem.mp h
  rcases lt_trichotomy i j with hlt | rfl | hgt
  · exact absurd hget' (hpairs i j hi hj hlt scope callId fp fp' hget)
  · simpa using hget.symm.trans hget'
  · exact absurd hget (hpairs j i hj hi hgt scope callId fp' fp hget')

/-! ### Runs that are not in the table -/

/-- The runs that have been started and are not in the table: those that are waited for, and those
that ended in an exception that is not caught. -/
def unrecorded (w : GatewayWorld) : List Execution := w.executions ++ w.failed

def callOf (run : Execution) : String × String := (run.request.scope, run.request.callId)

def unrecordedIn (w : GatewayWorld) (scope : String) : ℕ :=
  (unrecorded w).countP fun run => run.request.scope = scope

/-- What must not happen for the replay to be safe: a request whose call has a run that is not in
the table, a run for which the unrecorded runs leave no room, and a run that ends, with something to
store, under another scope in which its `call_id` has been seen. -/
def Undisturbed (w : GatewayWorld) : GatewayAction → Prop
  | .execute _ request _ => Current w request →
      (∀ run ∈ unrecorded w, callOf run ≠ (request.scope, request.callId)) ∧
      (w.gateway.lookup request.callId = none →
        w.gateway.executionResultsByCallId.length < maxOpenaiCallsPerSession →
        w.gateway.executionResultsByCallId.length + unrecordedIn w request.scope <
          maxOpenaiCallsPerSession)
  | .resume i ended => ∀ run ∈ w.executions[i]?,
      (capabilityReply run.request.callId ended).isSome →
        ∀ scope ∈ w.gateway.activeExecutionScope, scope ≠ run.request.scope →
          ∀ o ∈ w.log, ¬ About scope run.request.callId o
  | _ => True

instance (scope callId : String) (o : Observation) : Decidable (About scope callId o) :=
  match o with
  | .started s c _ | .responded s c _ _ => inferInstanceAs (Decidable (s = scope ∧ c = callId))
  | .refused .. | .admitted .. | .validated .. | .installed .. => .isFalse id

instance (w : GatewayWorld) (request : ExecutionRequest) : Decidable (Current w request) :=
  decidable_of_iff (w.gateway.activeExecutionScope = some request.scope ∧
      w.activeSession = w.gateway.activeSessionId ∧ w.activeSession.isSome)
    ⟨fun ⟨hscope, hsession, hactive⟩ => ⟨hscope, hsession, hactive⟩,
      fun ⟨hscope, hsession, hactive⟩ => ⟨hscope, hsession, hactive⟩⟩

instance (w : GatewayWorld) (a : GatewayAction) : Decidable (Undisturbed w a) :=
  match a with
  | .execute _ request _ => inferInstanceAs (Decidable (Current w request →
      (∀ run ∈ unrecorded w, callOf run ≠ (request.scope, request.callId)) ∧
      (w.gateway.lookup request.callId = none →
        w.gateway.executionResultsByCallId.length < maxOpenaiCallsPerSession →
        w.gateway.executionResultsByCallId.length + unrecordedIn w request.scope <
          maxOpenaiCallsPerSession)))
  | .resume i ended => inferInstanceAs (Decidable (∀ run ∈ w.executions[i]?,
      (capabilityReply run.request.callId ended).isSome →
        ∀ scope ∈ w.gateway.activeExecutionScope, scope ≠ run.request.scope →
          ∀ o ∈ w.log, ¬ About scope run.request.callId o))
  | .controller .. | .session .. | .offer .. | .upstream .. => .isTrue trivial

/-- How a response under the installed scope relates to the table. -/
inductive Answered (w : GatewayWorld) (scope callId fingerprint : String) (reply : Reply) : Prop
  | replayed (entry : StoredResult) (hentry : w.gateway.lookup callId = some entry)
      (hreply : reply = entry.replay callId fingerprint)
  | limited (habsent : w.gateway.lookup callId = none)
      (hfull : maxOpenaiCallsPerSession ≤ w.gateway.executionResultsByCallId.length)
      (hreply : reply = limitReply callId)
  | failed (run : Execution) (hrun : run ∈ w.failed) (hcall : callOf run = (scope, callId))

/-- A run of the installed scope is in the table, or is not recorded. -/
def Accounted (w : GatewayWorld) (scope callId fingerprint : String) : Prop :=
  (∃ run ∈ unrecorded w, callOf run = (scope, callId) ∧ run.fingerprint = fingerprint) ∨
    ∃ entry, w.gateway.lookup callId = some entry ∧ entry.fingerprint = fingerprint

/-- The table and the unrecorded runs tell what has been seen. -/
structure Ledger (w : GatewayWorld) : Prop where
  issued : ∀ scope callId, ∀ o ∈ w.log, About scope callId o → scope ∈ w.issued
  installed : ∀ scope, w.gateway.activeExecutionScope = some scope → scope ∈ w.issued
  runs : ∀ run ∈ unrecorded w,
    .started run.request.scope run.request.callId run.fingerprint ∈ w.log
  distinct : ((unrecorded w).map callOf).Nodup
  unanswered : ∀ run ∈ w.executions, ∀ fp reply,
    .responded run.request.scope run.request.callId fp reply ∉ w.log
  absent : ∀ run ∈ unrecorded w, w.gateway.activeExecutionScope = some run.request.scope →
    w.gateway.lookup run.request.callId = none
  started : ∀ scope callId fp, w.gateway.activeExecutionScope = some scope →
    .started scope callId fp ∈ w.log → Accounted w scope callId fp
  answered : ∀ scope callId fp reply, w.gateway.activeExecutionScope = some scope →
    .responded scope callId fp reply ∈ w.log → Answered w scope callId fp reply
  counted : ∀ scope, w.gateway.activeExecutionScope = some scope →
    w.log.countP (startsIn scope) ≤
      w.gateway.executionResultsByCallId.length + unrecordedIn w scope

/-! ### The log grows -/

lemma countP_unrelated {new : List Observation}
    (hnew : ∀ o ∈ new, ∀ scope callId, ¬ About scope callId o) :
    new.countP (startsIn scope) = 0 := by
  refine List.countP_eq_zero.mpr fun o ho hstarts => ?_
  cases o with
  | started s c fp => exact hnew _ ho scope c ⟨of_decide_eq_true hstarts, rfl⟩
  | _ => cases hstarts

lemma replaySafe_append {new : List Observation} (h : ReplaySafe log)
    (hnew : ∀ o ∈ new, ∀ scope callId, ¬ About scope callId o) : ReplaySafe (log ++ new) := by
  have hback : ∀ o ∈ log ++ new, ∀ scope callId, About scope callId o → o ∈ log :=
    fun o ho scope callId habout =>
      (List.mem_append.mp ho).resolve_right fun hmem => hnew o hmem scope callId habout
  refine ⟨List.pairwise_append.mpr ⟨h.once, ?_, ?_⟩, ?_, ?_, fun scope => ?_⟩
  · refine List.pairwise_of_forall_mem_list fun o _ o' ho' scope callId fp fp' _ heq => ?_
    exact hnew o' ho' scope callId (heq ▸ ⟨rfl, rfl⟩)
  · exact fun o _ o' ho' scope callId fp fp' _ heq =>
      hnew o' ho' scope callId (heq ▸ ⟨rfl, rfl⟩)
  · exact fun scope callId fp reply reply' hr hr' => h.replays scope callId fp reply reply'
      (hback _ hr scope callId ⟨rfl, rfl⟩) (hback _ hr' scope callId ⟨rfl, rfl⟩)
  · exact fun scope callId fp fp' reply hs hr => h.reuse scope callId fp fp' reply
      (hback _ hs scope callId ⟨rfl, rfl⟩) (hback _ hr scope callId ⟨rfl, rfl⟩)
  · rw [List.countP_append, countP_unrelated hnew]
    exact h.bounded scope

/-- A run of a call that has not been seen. -/
lemma replaySafe_start (h : ReplaySafe log) (hunseen : ∀ o ∈ log, ¬ About scope callId o)
    (hroom : log.countP (startsIn scope) < maxOpenaiCallsPerSession) :
    ReplaySafe (log ++ [.started scope callId fingerprint]) := by
  refine ⟨List.pairwise_append.mpr ⟨h.once, List.pairwise_singleton .., ?_⟩, ?_, ?_, fun s => ?_⟩
  · rintro o ho o' ho' s c fp fp' rfl rfl
    obtain ⟨rfl, rfl, -⟩ : s = scope ∧ c = callId ∧ fp' = fingerprint := by simpa using ho'
    exact hunseen _ ho ⟨rfl, rfl⟩
  · intro s c fp reply reply' hr hr'
    exact h.replays s c fp reply reply' (by simpa using hr) (by simpa using hr')
  · intro s c fp fp' reply hs hr hne
    have hresponded : .responded s c fp' reply ∈ log := by simpa using hr
    rcases List.mem_append.mp hs with hs | hs
    · exact h.reuse s c fp fp' reply hs hresponded hne
    · obtain ⟨rfl, rfl, -⟩ : s = scope ∧ c = callId ∧ fp = fingerprint := by simpa using hs
      exact (hunseen _ hresponded ⟨rfl, rfl⟩).elim
  · have hbounded := h.bounded s
    rw [List.countP_append, List.countP_singleton]
    split_ifs with hs
    · obtain rfl : scope = s := of_decide_eq_true hs
      omega
    · exact hbounded

/-- An answer that agrees with what has been seen. -/
lemma replaySafe_respond {reply : Reply} (h : ReplaySafe log)
    (hreplay : ∀ reply', .responded scope callId fingerprint reply' ∈ log → reply.status ≠ 409 →
      reply'.status ≠ 409 → reply = reply')
    (hreuse : ∀ fp, .started scope callId fp ∈ log → fingerprint ≠ fp →
      reply = conflictReply callId) :
    ReplaySafe (log ++ [.responded scope callId fingerprint reply]) := by
  refine ⟨List.pairwise_append.mpr ⟨h.once, List.pairwise_singleton .., ?_⟩, ?_, ?_, fun s => ?_⟩
  · rintro o ho o' ho' s c fp fp' rfl rfl
    simp at ho'
  · intro s c fp r r' hr hr' hstatus hstatus'
    rcases List.mem_append.mp hr with hold | hnew <;>
      rcases List.mem_append.mp hr' with hold' | hnew'
    · exact h.replays s c fp r r' hold hold' hstatus hstatus'
    · obtain ⟨rfl, rfl, rfl, rfl⟩ :
          s = scope ∧ c = callId ∧ fp = fingerprint ∧ r' = reply := by simpa using hnew'
      exact (hreplay r hold hstatus' hstatus).symm
    · obtain ⟨rfl, rfl, rfl, rfl⟩ :
          s = scope ∧ c = callId ∧ fp = fingerprint ∧ r = reply := by simpa using hnew
      exact hreplay r' hold' hstatus hstatus'
    · simp only [List.mem_singleton, Observation.responded.injEq] at hnew hnew'
      exact hnew.2.2.2.trans hnew'.2.2.2.symm
  · intro s c fp fp' r hs hr hne
    have hstarted : .started s c fp ∈ log := by simpa using hs
    rcases List.mem_append.mp hr with hold | hnew
    · exact h.reuse s c fp fp' r hstarted hold hne
    · obtain ⟨rfl, rfl, rfl, rfl⟩ :
          s = scope ∧ c = callId ∧ fp' = fingerprint ∧ r = reply := by simpa using hnew
      exact hreuse fp hstarted hne
  · rw [List.countP_append, List.countP_singleton]
    exact h.bounded s

/-! ### The ledger is kept -/

lemma Answered.mono {reply : Reply} (h : Answered w scope callId fingerprint reply)
    (hlookup : w'.gateway.lookup callId = w.gateway.lookup callId)
    (hlength : w.gateway.executionResultsByCallId.length ≤
      w'.gateway.executionResultsByCallId.length)
    (hfailed : ∀ run ∈ w.failed, run ∈ w'.failed) :
    Answered w' scope callId fingerprint reply := by
  cases h with
  | replayed entry hentry hreply => exact .replayed entry (hlookup ▸ hentry) hreply
  | limited habsent hfull hreply => exact .limited (hlookup ▸ habsent) (hfull.trans hlength) hreply
  | failed run hrun hcall => exact .failed run (hfailed run hrun) hcall

/-- What a step does that is not about a call. -/
structure Unrelated (w w' : GatewayWorld) : Prop where
  table : w'.gateway.executionResultsByCallId = w.gateway.executionResultsByCallId
  scope : w'.gateway.activeExecutionScope = w.gateway.activeExecutionScope
  executions : w'.executions = w.executions
  failed : w'.failed = w.failed
  issued : w'.issued = w.issued

lemma Unrelated.refl (w : GatewayWorld) : Unrelated w w := ⟨rfl, rfl, rfl, rfl, rfl⟩

lemma Unrelated.lookup (h : Unrelated w w') (callId : String) :
    w'.gateway.lookup callId = w.gateway.lookup callId := by
  simp [GatewayState.lookup, h.table]

lemma Unrelated.unrecorded (h : Unrelated w w') : unrecorded w' = unrecorded w := by
  simp [Replay.unrecorded, h.executions, h.failed]

lemma Ledger.unrelated {new : List Observation} (h : Ledger w) (hsame : Unrelated w w')
    (hlog : w'.log = w.log ++ new) (hnew : ∀ o ∈ new, ∀ scope callId, ¬ About scope callId o) :
    Ledger w' := by
  have hold : ∀ o ∈ w.log, o ∈ w'.log := fun o ho => hlog ▸ List.mem_append_left _ ho
  have hback : ∀ o ∈ w'.log, ∀ scope callId, About scope callId o → o ∈ w.log := by
    intro o ho scope callId habout
    rw [hlog] at ho
    exact (List.mem_append.mp ho).resolve_right fun hmem => hnew o hmem scope callId habout
  refine ⟨?_, ?_, ?_, ?_, ?_, ?_, ?_, ?_, ?_⟩
  · intro scope callId o ho habout
    rw [hsame.issued]
    exact h.issued scope callId o (hback o ho scope callId habout) habout
  · rw [hsame.scope, hsame.issued]
    exact h.installed
  · rw [hsame.unrecorded]
    exact fun run hrun => hold _ (h.runs run hrun)
  · rw [hsame.unrecorded]
    exact h.distinct
  · rw [hsame.executions]
    exact fun run hrun fp reply hr => h.unanswered run hrun fp reply (hback _ hr _ _ ⟨rfl, rfl⟩)
  · rw [hsame.unrecorded, hsame.scope]
    exact fun run hrun hscope => (hsame.lookup _).trans (h.absent run hrun hscope)
  · intro scope callId fp hscope hs
    rw [hsame.scope] at hscope
    rw [Accounted, hsame.unrecorded, hsame.lookup]
    exact h.started scope callId fp hscope (hback _ hs _ _ ⟨rfl, rfl⟩)
  · intro scope callId fp reply hscope hr
    rw [hsame.scope] at hscope
    exact (h.answered scope callId fp reply hscope (hback _ hr _ _ ⟨rfl, rfl⟩)).mono
      (hsame.lookup _) (congrArg List.length hsame.table).symm.le
        (fun run hrun => hsame.failed ▸ hrun)
  · intro scope hscope
    rw [hsame.scope] at hscope
    rw [hlog, List.countP_append, countP_unrelated hnew, unrecordedIn, hsame.table,
      hsame.unrecorded]
    exact h.counted scope hscope

/-- An answer under the installed scope. -/
lemma Ledger.respond {reply : Reply} (h : Ledger w)
    (hscope : w.gateway.activeExecutionScope = some scope)
    (hrecorded : ∀ run ∈ unrecorded w, callOf run ≠ (scope, callId))
    (hanswered : Answered w scope callId fingerprint reply) :
    Ledger (w.observe (.responded scope callId fingerprint reply)) := by
  refine ⟨?_, h.installed, ?_, h.distinct, ?_, h.absent, ?_, ?_, ?_⟩
  · intro s c o ho habout
    rcases List.mem_append.mp ho with ho | ho
    · exact h.issued s c o ho habout
    · obtain rfl := List.mem_singleton.mp ho
      obtain ⟨rfl, rfl⟩ := habout
      exact h.installed _ hscope
  · exact fun run hrun => List.mem_append_left _ (h.runs run hrun)
  · intro run hrun fp r hr
    rcases List.mem_append.mp hr with hr | hr
    · exact h.unanswered run hrun fp r hr
    · obtain ⟨hs, hc, -, -⟩ : run.request.scope = scope ∧ run.request.callId = callId ∧
          fp = fingerprint ∧ r = reply := by simpa using hr
      exact hrecorded run (List.mem_append_left _ hrun) (Prod.ext hs hc)
  · exact fun s c fp hs hmem => h.started s c fp hs (by simpa [GatewayWorld.observe] using hmem)
  · intro s c fp r hs hr
    rcases List.mem_append.mp hr with hr | hr
    · exact (h.answered s c fp r hs hr).mono rfl le_rfl fun _ => id
    · obtain ⟨rfl, rfl, rfl, rfl⟩ :
          s = scope ∧ c = callId ∧ fp = fingerprint ∧ r = reply := by simpa using hr
      exact hanswered.mono rfl le_rfl fun _ => id
  · intro s hs
    rw [GatewayWorld.observe_log, List.countP_append, List.countP_singleton]
    exact h.counted s hs

/-- What a request that is current finds is what its call was answered before. -/
lemma Ledger.agrees {reply : Reply} (h : Ledger w) (hsafe : ReplaySafe w.log)
    (hscope : w.gateway.activeExecutionScope = some scope)
    (hrecorded : ∀ run ∈ unrecorded w, callOf run ≠ (scope, callId))
    (hanswered : Answered w scope callId fingerprint reply) :
    ReplaySafe (w.observe (.responded scope callId fingerprint reply)).log := by
  have hfailed : ∀ run ∈ w.failed, callOf run ≠ (scope, callId) := fun run hrun =>
    hrecorded run (List.mem_append_right _ hrun)
  refine replaySafe_respond hsafe (fun reply' hr' _ _ => ?_) fun fp hstarted hne => ?_
  · have hanswered' := h.answered scope callId fingerprint reply' hscope hr'
    cases hanswered with
    | replayed entry hentry hreply =>
      cases hanswered' with
      | replayed entry' hentry' hreply' =>
        obtain rfl : entry = entry' := Option.some.inj (hentry.symm.trans hentry')
        rw [hreply, hreply']
      | limited habsent => simp [habsent] at hentry
      | failed run hrun hcall => exact absurd hcall (hfailed run hrun)
    | limited habsent _ hreply =>
      cases hanswered' with
      | replayed entry hentry => simp [habsent] at hentry
      | limited _ _ hreply' => rw [hreply, hreply']
      | failed run hrun hcall => exact absurd hcall (hfailed run hrun)
    | failed run hrun hcall => exact absurd hcall (hfailed run hrun)
  · rcases h.started scope callId fp hscope hstarted with
      ⟨run, hrun, hcall, -⟩ | ⟨entry, hentry, hfp⟩
    · exact absurd hcall (hrecorded run hrun)
    cases hanswered with
    | replayed entry' hentry' hreply =>
      obtain rfl : entry = entry' := Option.some.inj (hentry.symm.trans hentry')
      rw [hreply, StoredResult.replay, if_pos (by rw [hfp]; exact hne.symm)]
    | limited habsent => simp [habsent] at hentry
    | failed run hrun hcall => exact absurd hcall (hfailed run hrun)

/-- A call that is admitted has not been seen. -/
lemma Ledger.unseen {request : ExecutionRequest} (h : Ledger w)
    (hadmits : Admits L w request fingerprint)
    (hrecorded : ∀ run ∈ unrecorded w, callOf run ≠ (request.scope, request.callId)) :
    ∀ o ∈ w.log, ¬ About request.scope request.callId o := by
  have hscope := hadmits.current.scope
  intro o ho habout
  cases o with
  | started s c fp =>
    obtain ⟨rfl, rfl⟩ := habout
    rcases h.started _ _ fp hscope ho with ⟨run, hrun, hcall, -⟩ | ⟨entry, hentry, -⟩
    · exact hrecorded run hrun hcall
    · simp [hadmits.absent] at hentry
  | responded s c fp reply =>
    obtain ⟨rfl, rfl⟩ := habout
    cases h.answered _ _ fp reply hscope ho with
    | replayed entry hentry => simp [hadmits.absent] at hentry
    | limited _ hfull =>
      have := hadmits.room
      omega
    | failed run hrun hcall => exact hrecorded run (List.mem_append_right _ hrun) hcall
  | _ => exact habout

/-- The world in which a capability has been started and is waited for. -/
def waiting (w : GatewayWorld) (run : Execution) : GatewayWorld :=
  { w.observe (.started run.request.scope run.request.callId run.fingerprint) with
    executions := w.executions ++ [run] }

lemma unrecorded_waiting (w : GatewayWorld) (run : Execution) :
    (unrecorded (waiting w run)).Perm (run :: unrecorded w) := by
  change ((w.executions ++ [run]) ++ w.failed).Perm (run :: (w.executions ++ w.failed))
  rw [List.append_assoc, List.singleton_append]
  exact List.perm_middle

lemma Ledger.start {run : Execution} (h : Ledger w)
    (hadmits : Admits L w run.request run.fingerprint)
    (hrecorded : ∀ r ∈ unrecorded w, callOf r ≠ callOf run) : Ledger (waiting w run) := by
  have hscope := hadmits.current.scope
  have hunseen := h.unseen hadmits hrecorded
  have hmem : ∀ r, r ∈ unrecorded (waiting w run) ↔ r = run ∨ r ∈ unrecorded w := fun r =>
    (unrecorded_waiting w run).mem_iff.trans List.mem_cons
  have hlog : ∀ o, o ∈ (waiting w run).log ↔ o ∈ w.log ∨
      o = .started run.request.scope run.request.callId run.fingerprint := fun o => by
    simp [waiting, GatewayWorld.observe]
  refine ⟨?_, h.installed, ?_, ?_, ?_, ?_, ?_, ?_, ?_⟩
  · intro s c o ho habout
    rcases (hlog o).mp ho with ho | rfl
    · exact h.issued s c o ho habout
    · obtain ⟨rfl, rfl⟩ := habout
      exact h.installed _ hscope
  · intro r hr
    rcases (hmem r).mp hr with rfl | hr
    · exact (hlog _).mpr (.inr rfl)
    · exact (hlog _).mpr (.inl (h.runs r hr))
  · rw [((unrecorded_waiting w run).map callOf).nodup_iff, List.map_cons, List.nodup_cons]
    refine ⟨fun hcall => ?_, h.distinct⟩
    obtain ⟨r, hr, heq⟩ := List.mem_map.mp hcall
    exact hrecorded r hr heq
  · intro r hr fp reply hresponded
    have hbefore := ((hlog _).mp hresponded).resolve_right (by simp)
    rcases List.mem_append.mp hr with hr | hr
    · exact h.unanswered r hr fp reply hbefore
    · obtain rfl := List.mem_singleton.mp hr
      exact hunseen _ hbefore ⟨rfl, rfl⟩
  · intro r hr hs
    rcases (hmem r).mp hr with rfl | hr
    · exact hadmits.absent
    · exact h.absent r hr hs
  · intro s c fp hs hstarted
    rcases (hlog _).mp hstarted with hstarted | heq
    · rcases h.started s c fp hs hstarted with ⟨r, hr, hcall⟩ | hentry
      · exact .inl ⟨r, (hmem r).mpr (.inr hr), hcall⟩
      · exact .inr hentry
    · obtain ⟨rfl, rfl, rfl⟩ : s = run.request.scope ∧ c = run.request.callId ∧
          fp = run.fingerprint := by simpa using heq
      exact .inl ⟨run, (hmem run).mpr (.inl rfl), rfl, rfl⟩
  · intro s c fp reply hs hresponded
    have hbefore := ((hlog _).mp hresponded).resolve_right (by simp)
    exact (h.answered s c fp reply hs hbefore).mono rfl le_rfl fun _ => id
  · intro s hs
    obtain rfl : run.request.scope = s := Option.some.inj (hscope.symm.trans hs)
    have hcounted := h.counted _ hs
    have hone : unrecordedIn (waiting w run) run.request.scope =
        unrecordedIn w run.request.scope + 1 := by
      rw [unrecordedIn, (unrecorded_waiting w run).countP_eq, List.countP_cons]
      simp [unrecordedIn]
    change (w.log ++ [_]).countP _ ≤ w.gateway.executionResultsByCallId.length + _
    rw [List.countP_append, List.countP_singleton, hone]
    split_ifs <;> omega

/-! ### The end of a run -/

/-- The world in which the `i`-th run is not waited for any more. -/
def resumed (w : GatewayWorld) (i : ℕ) : GatewayWorld :=
  { w with executions := w.executions.eraseIdx i }

lemma unrecorded_resumed {i : ℕ} {run : Execution} (hrun : w.executions[i]? = some run) :
    (unrecorded w).Perm (run :: unrecorded (resumed w i)) := by
  obtain ⟨hi, rfl⟩ := List.getElem?_eq_some_iff.mp hrun
  exact (List.getElem_cons_eraseIdx_perm hi).symm.append_right w.failed

/-- Nothing else is known of the call of a run that is waited for. -/
lemma Ledger.apart {i : ℕ} {run : Execution} (h : Ledger w) (hrun : w.executions[i]? = some run) :
    ∀ r ∈ unrecorded (resumed w i), callOf r ≠ callOf run := by
  intro r hr hcall
  have hnodup := ((unrecorded_resumed hrun).map callOf).nodup_iff.mp h.distinct
  rw [List.map_cons, List.nodup_cons] at hnodup
  exact hnodup.1 (hcall ▸ List.mem_map_of_mem hr)

/-- Under another scope the call has not been seen, if its result is to be stored there. -/
def UnseenElsewhere (w : GatewayWorld) (run : Execution) : Prop :=
  ∀ scope ∈ w.gateway.activeExecutionScope, scope ≠ run.request.scope →
    ∀ o ∈ w.log, ¬ About scope run.request.callId o

/-- The log once the run has been answered. -/
def AnsweredRun (w w' : GatewayWorld) (run : Execution) (reply : Reply) : Prop :=
  w'.log = w.log ++ [.responded run.request.scope run.request.callId run.fingerprint reply]

lemma AnsweredRun.mem {run : Execution} {reply : Reply} (h : AnsweredRun w w' run reply)
    (o : Observation) : o ∈ w'.log ↔ o ∈ w.log ∨
      o = .responded run.request.scope run.request.callId run.fingerprint reply := by
  rw [h]
  simp

/-- The end of a run, whatever becomes of its result. -/
lemma Ledger.ended {i : ℕ} {run : Execution} {reply : Reply} (h : Ledger w)
    (hrun : w.executions[i]? = some run) (hlog : AnsweredRun w w' run reply)
    (hsame : SameSession w w') (hexecutions : w'.executions = w.executions.eraseIdx i)
    (hsub : ∀ r ∈ unrecorded w', r ∈ unrecorded w) (hdistinct : ((unrecorded w').map callOf).Nodup)
    (habsent : ∀ r ∈ unrecorded w', w.gateway.activeExecutionScope = some r.request.scope →
      w'.gateway.lookup r.request.callId = none)
    (hstarted : ∀ s c fp, w.gateway.activeExecutionScope = some s → .started s c fp ∈ w.log →
      Accounted w' s c fp)
    (hanswered : ∀ s c fp r, w.gateway.activeExecutionScope = some s →
      .responded s c fp r ∈ w'.log → Answered w' s c fp r)
    (hcounted : ∀ s, w.gateway.activeExecutionScope = some s → w.log.countP (startsIn s) ≤
      w'.gateway.executionResultsByCallId.length + unrecordedIn w' s) : Ledger w' := by
  have hrest := h.apart hrun
  have hunrecorded : run ∈ unrecorded w := List.mem_append_left _ (List.mem_of_getElem? hrun)
  refine ⟨?_, ?_, ?_, hdistinct, ?_, ?_, ?_, ?_, ?_⟩
  · intro s c o ho habout
    rw [hsame.issued]
    rcases (hlog.mem o).mp ho with ho | rfl
    · exact h.issued s c o ho habout
    · obtain ⟨rfl, rfl⟩ := habout
      exact h.issued _ _ _ (h.runs run hunrecorded) ⟨rfl, rfl⟩
  · rw [hsame.scope, hsame.issued]
    exact h.installed
  · exact fun r hr => (hlog.mem _).mpr (.inl (h.runs r (hsub r hr)))
  · intro r hr fp reply' hresponded
    rw [hexecutions] at hr
    rcases (hlog.mem _).mp hresponded with hold | hnew
    · exact h.unanswered r (List.mem_of_mem_eraseIdx hr) fp reply' hold
    · obtain ⟨hs, hc, -, -⟩ : r.request.scope = run.request.scope ∧
          r.request.callId = run.request.callId ∧ fp = run.fingerprint ∧ reply' = reply := by
        simpa using hnew
      exact hrest r (List.mem_append_left _ hr) (Prod.ext hs hc)
  · rw [hsame.scope]
    exact habsent
  · rw [hsame.scope]
    exact fun s c fp hs hmem => hstarted s c fp hs (((hlog.mem _).mp hmem).resolve_right (by simp))
  · rw [hsame.scope]
    exact hanswered
  · intro s hs
    rw [hsame.scope] at hs
    rw [hlog, List.countP_append, List.countP_singleton]
    exact hcounted s hs

/-- The run ended in an exception that is not caught. -/
lemma Ledger.notStored {i : ℕ} {run : Execution} (reply : Reply) (h : Ledger w)
    (hrun : w.executions[i]? = some run) (hlog : AnsweredRun w w' run reply)
    (hsame : SameSession w w') (hgateway : w'.gateway = w.gateway)
    (hexecutions : w'.executions = w.executions.eraseIdx i)
        (hfailed : w'.failed = w.failed ++ [run]) :
    Ledger w' := by
  have hperm : (unrecorded w').Perm (unrecorded w) := by
    refine List.Perm.trans ?_ (unrecorded_resumed hrun).symm
    rw [unrecorded, hexecutions, hfailed, ← List.append_assoc]
    exact List.perm_append_singleton run _
  refine h.ended hrun hlog hsame hexecutions (fun r => hperm.mem_iff.mp) ?_ ?_ ?_ ?_ ?_
  · exact (hperm.map callOf).nodup_iff.mpr h.distinct
  · rw [hgateway]
    exact fun r hr => h.absent r (hperm.mem_iff.mp hr)
  · intro s c fp hs hmem
    rw [Accounted, hgateway]
    refine (h.started s c fp hs hmem).imp_left ?_
    rintro ⟨r, hr, hcall⟩
    exact ⟨r, hperm.mem_iff.mpr hr, hcall⟩
  · intro s c fp r hs hmem
    rcases (hlog.mem _).mp hmem with hold | hnew
    · exact (h.answered s c fp r hs hold).mono (by rw [hgateway]) (by rw [hgateway])
        (fun r hr => hfailed ▸ List.mem_append_left _ hr)
    · obtain ⟨rfl, rfl, -⟩ : s = run.request.scope ∧ c = run.request.callId ∧ _ := by
        simpa using hnew
      exact .failed run (hfailed ▸ List.mem_append_right _ (List.mem_singleton.mpr rfl)) rfl
  · intro s hs
    rw [hgateway, unrecordedIn, hperm.countP_eq]
    exact h.counted s hs

/-- The run ended with something to store. -/
lemma Ledger.stored {i : ℕ} {run : Execution} (entry : StoredResult) {reply : Reply}
    (h : Ledger w) (hrun : w.executions[i]? = some run) (hlog : AnsweredRun w w' run reply)
    (hsame : SameSession w w') (hgateway : w'.gateway = w.gateway.store entry)
    (hexecutions : w'.executions = w.executions.eraseIdx i) (hfailed : w'.failed = w.failed)
    (helsewhere : UnseenElsewhere w run) (hentry : entry.callId = run.request.callId)
    (hfp : entry.fingerprint = run.fingerprint)
        (hreply : reply = ⟨entry.status, .text entry.body⟩) :
    Ledger w' := by
  have hperm : (unrecorded w).Perm (run :: unrecorded w') := by
    rw [show unrecorded w' = unrecorded (resumed w i) by simp [unrecorded, resumed, *]]
    exact unrecorded_resumed hrun
  have hmem : ∀ r, r ∈ unrecorded w ↔ r = run ∨ r ∈ unrecorded w' := fun r =>
    hperm.mem_iff.trans List.mem_cons
  have hnodup := (hperm.map callOf).nodup_iff.mp h.distinct
  rw [List.map_cons, List.nodup_cons] at hnodup
  have hself : w'.gateway.lookup run.request.callId = some entry := by
    rw [hgateway, ← hentry]
    exact lookup_store_self w.gateway entry
  have hother : ∀ c, c ≠ run.request.callId → w'.gateway.lookup c = w.gateway.lookup c := by
    intro c hc
    rw [hgateway]
    exact lookup_store_of_ne (hentry ▸ hc.symm)
  -- what has been seen of the stored call under the installed scope is of the run's own scope
  have hown : ∀ s, w.gateway.activeExecutionScope = some s → ∀ o ∈ w.log,
      About s run.request.callId o → s = run.request.scope := by
    intro s hs o ho habout
    by_contra hne
    exact helsewhere s hs hne o ho habout
  have habsent := h.absent run ((hmem run).mpr (.inl rfl))
  refine h.ended hrun hlog hsame hexecutions
    (fun r hr => (hmem r).mpr (.inr hr)) hnodup.2 ?_ ?_ ?_ ?_
  · intro r hr hs
    have hr' := (hmem r).mpr (.inr hr)
    by_cases hc : r.request.callId = run.request.callId
    · have hscope := hown _ hs _ (h.runs r hr') ⟨rfl, hc⟩
      exact absurd (List.mem_map_of_mem hr)
        ((Prod.ext hscope hc : callOf r = callOf run) ▸ hnodup.1)
    · rw [hother _ hc]
      exact h.absent r hr' hs
  · intro s c fp hs hstarted
    by_cases hc : c = run.request.callId
    · obtain rfl := hc
      obtain rfl := hown s hs _ hstarted ⟨rfl, rfl⟩
      rcases h.started _ _ fp hs hstarted with ⟨r, hr, hcall, hr'⟩ | ⟨old, hold, -⟩
      · rcases (hmem r).mp hr with rfl | hrest
        · exact .inr ⟨entry, hself, hfp.trans hr'⟩
        · exact .inl ⟨r, hrest, hcall, hr'⟩
      · simp [habsent hs] at hold
    · rw [Accounted, hother c hc]
      refine (h.started s c fp hs hstarted).imp_left ?_
      rintro ⟨r, hr, hcall, hr'⟩
      rcases (hmem r).mp hr with rfl | hrest
      · exact absurd (congrArg Prod.snd hcall).symm hc
      · exact ⟨r, hrest, hcall, hr'⟩
  · intro s c fp r hs hresponded
    rcases (hlog.mem _).mp hresponded with hold | hnew
    · by_cases hc : c = run.request.callId
      · obtain rfl := hc
        obtain rfl := hown s hs _ hold ⟨rfl, rfl⟩
        exact absurd hold (h.unanswered run (List.mem_of_getElem? hrun) fp r)
      · refine (h.answered s c fp r hs hold).mono (hother c hc) ?_ fun r hr => hfailed ▸ hr
        rw [hgateway]
        exact length_le_store w.gateway entry
    · obtain ⟨rfl, rfl, rfl, rfl⟩ : s = run.request.scope ∧ c = run.request.callId ∧
          fp = run.fingerprint ∧ r = reply := by simpa using hnew
      exact .replayed entry hself (by rw [StoredResult.replay, if_neg (not_not.mpr hfp), hreply])
  · intro s hs
    have hcounted := h.counted s hs
    have hlength := length_le_store w.gateway entry
    rw [unrecordedIn, hperm.countP_eq, List.countP_cons] at hcounted
    rw [hgateway, unrecordedIn]
    split_ifs at hcounted with hrunning
    · obtain rfl : run.request.scope = s := of_decide_eq_true hrunning
      rw [length_store_of_none (hentry ▸ habsent hs)]
      omega
    · omega

lemma Ledger.finish {i : ℕ} {run : Execution} {ended : CapabilityEnd} (h : Ledger w)
    (hrun : w.executions[i]? = some run)
    (helsewhere : (capabilityReply run.request.callId ended).isSome → UnseenElsewhere w run) :
    Ledger ((resumed w i).finish L run ended) := by
  have hsame : SameSession w ((resumed w i).finish L run ended) := by
    obtain ⟨hid, hscope, hlatest, hissued⟩ := finish_same L (resumed w i) run ended
    exact ⟨hid, hscope, hlatest, hissued⟩
  have hexecutions : ((resumed w i).finish L run ended).executions = w.executions.eraseIdx i :=
    finish_executions L ..
  cases hreply : capabilityReply run.request.callId ended with
  | none =>
    refine Ledger.notStored serverError h hrun ?_ hsame ?_ hexecutions ?_ <;>
      simp [AnsweredRun, GatewayWorld.finish, GatewayWorld.observe, resumed, hreply]
  | some answer =>
    obtain ⟨status, body⟩ := answer
    refine Ledger.stored ⟨run.request.callId, run.fingerprint, status, L.dumps false body,
      run.request.scope⟩ h hrun ?_ hsame ?_ hexecutions ?_ (helsewhere (by simp [hreply])) rfl rfl
      rfl <;>
      simp [AnsweredRun, GatewayWorld.finish, GatewayWorld.observe, resumed, hreply]

/-- What a run that is waited for is answered is the first answer to its call. -/
lemma Ledger.finishSafe {i : ℕ} {run : Execution} {ended : CapabilityEnd} (h : Ledger w)
    (hsafe : ReplaySafe w.log) (hrun : w.executions[i]? = some run) :
    ReplaySafe ((resumed w i).finish L run ended).log := by
  have hwaited := List.mem_of_getElem? hrun
  have hstarted := h.runs run (List.mem_append_left _ hwaited)
  obtain ⟨reply, hlog⟩ := finish_log L (resumed w i) run ended
  rw [hlog]
  refine replaySafe_respond hsafe (fun reply' hr' _ _ => ?_) fun fp hfp hne => ?_
  · exact absurd hr' (h.unanswered run hwaited _ reply')
  · exact absurd (fingerprint_once hsafe.once hstarted hfp) hne

/-- A new scope has a table, and a count, of its own. -/
lemma Ledger.install (h : Ledger w) {localSessionId : Option String} {i handler : ℕ}
    {sessionToken scopeToken : String} {gateway : GatewayState} (hfresh : scopeToken ∉ w.issued)
    (hgateway : gateway = w.gateway.install localSessionId sessionToken scopeToken) :
    Ledger (({ w with
      gateway
      attempts := w.attempts.eraseIdx i
      issued := w.issued ++ gateway.activeExecutionScope.toList } : GatewayWorld).observe
        (.installed handler w.gateway.latestSessionAttempt gateway.activeSessionId
          gateway.activeExecutionScope)) := by
  have hnew : ∀ s, gateway.activeExecutionScope = some s → s = scopeToken := by
    intro s hs
    simp only [hgateway, GatewayState.install] at hs
    split_ifs at hs
    exact (Option.some.inj hs).symm
  have hunseen : ∀ s, gateway.activeExecutionScope = some s → ∀ c, ∀ o ∈ w.log, ¬ About s c o := by
    intro s hs c o ho habout
    exact hfresh (hnew s hs ▸ h.issued s c o ho habout)
  refine ⟨?_, ?_, ?_, h.distinct, ?_, ?_, ?_, ?_, ?_⟩
  · intro s c o ho habout
    rcases List.mem_append.mp ho with ho | ho
    · exact List.mem_append_left _ (h.issued s c o ho habout)
    · obtain rfl := List.mem_singleton.mp ho
      exact habout.elim
  · intro s hs
    change gateway.activeExecutionScope = some s at hs
    exact List.mem_append_right _ (by simp [hs])
  · exact fun run hrun => List.mem_append_left _ (h.runs run hrun)
  · exact fun run hrun fp reply hr =>
      h.unanswered run hrun fp reply (by simpa [GatewayWorld.observe] using hr)
  · exact fun run hrun hs => (hunseen _ hs _ _ (h.runs run hrun) ⟨rfl, rfl⟩).elim
  · intro s c fp hs hstarted
    have hmem : .started s c fp ∈ w.log := by simpa [GatewayWorld.observe] using hstarted
    exact (hunseen s hs c _ hmem ⟨rfl, rfl⟩).elim
  · intro s c fp reply hs hresponded
    have hmem : .responded s c fp reply ∈ w.log := by
      simpa [GatewayWorld.observe] using hresponded
    exact (hunseen s hs c _ hmem ⟨rfl, rfl⟩).elim
  · intro s hs
    have hzero : w.log.countP (startsIn s) = 0 := by
      refine List.countP_eq_zero.mpr fun o ho hstarts => ?_
      cases o with
      | started s' c fp => exact hunseen s hs c _ ho ⟨of_decide_eq_true hstarts, rfl⟩
      | _ => cases hstarts
    rw [GatewayWorld.observe_log, List.countP_append, hzero, List.countP_singleton]
    exact Nat.zero_le _

/-! ### Runs -/

lemma replay_answered {client : Client} {request : ExecutionRequest}
    {ended : Option CapabilityEnd} {reply : Reply} (h : Ledger w) (hsafe : ReplaySafe w.log)
    (hc : Undisturbed w (.execute client request ended)) (hcurrent : Current w request)
    (hanswered : Answered w request.scope request.callId fingerprint reply) :
    Ledger (w.observe (.responded request.scope request.callId fingerprint reply)) ∧
      ReplaySafe (w.observe (.responded request.scope request.callId fingerprint reply)).log :=
  ⟨h.respond hcurrent.scope (hc hcurrent).1 hanswered,
    h.agrees hsafe hcurrent.scope (hc hcurrent).1 hanswered⟩

lemma replay_started {client : Client} {ended : Option CapabilityEnd} (run : Execution)
    (h : Ledger w) (hsafe : ReplaySafe w.log)
    (hc : Undisturbed w (.execute client run.request ended))
    (hadmits : Admits L w run.request run.fingerprint) :
    Ledger (waiting w run) ∧ ReplaySafe (waiting w run).log := by
  obtain ⟨hrecorded, hroom⟩ := hc hadmits.current
  have hlt := hroom hadmits.absent hadmits.room
  have hcounted := h.counted _ hadmits.current.scope
  exact ⟨h.start hadmits hrecorded,
    replaySafe_start hsafe (h.unseen hadmits hrecorded) (by omega)⟩

/-- A capability that does not await is waited for and ends at once. -/
lemma resumed_waiting (w : GatewayWorld) (run : Execution) :
    resumed (waiting w run) w.executions.length =
      w.observe (.started run.request.scope run.request.callId run.fingerprint) := by
  simp [resumed, waiting, GatewayWorld.observe, List.eraseIdx_append_of_length_le]

/-- **A step keeps the ledger and the safety of the replay.** -/
theorem replay_step {a : GatewayAction} (h : Ledger w) (hsafe : ReplaySafe w.log)
    (hc : Undisturbed w a) (hs : gatewayStep L w a = some w') :
    Ledger w' ∧ ReplaySafe w'.log := by
  have hunrelated : ∀ {w' : GatewayWorld} {new : List Observation}, Unrelated w w' →
      w'.log = w.log ++ new → (∀ o ∈ new, ∀ scope callId, ¬ About scope callId o) →
      Ledger w' ∧ ReplaySafe w'.log := fun hsame hlog hnew =>
    ⟨h.unrelated hsame hlog hnew, hlog ▸ replaySafe_append hsafe hnew⟩
  have hquiet : ∀ {w' : GatewayWorld}, Unrelated w w' → w'.log = w.log →
      Ledger w' ∧ ReplaySafe w'.log := fun hsame hlog =>
    hunrelated hsame (hlog.trans (List.append_nil _).symm) (by simp)
  cases gatewayStep_move hs with
  | replayed client request ended fingerprint cached hcurrent hcached =>
    exact replay_answered h hsafe hc hcurrent (.replayed cached hcached rfl)
  | limited client request ended fingerprint hcurrent habsent hfull =>
    exact replay_answered h hsafe hc hcurrent (.limited habsent hfull rfl)
  | ran client request said ended fingerprint hadmits hended =>
    have hadmits' : Admits L w (⟨request, fingerprint⟩ : Execution).request fingerprint := hadmits
    obtain ⟨hledger, hlog⟩ := replay_started ⟨request, fingerprint⟩ h hsafe hc hadmits'
    have hrun : (waiting w ⟨request, fingerprint⟩).executions[w.executions.length]? =
        some ⟨request, fingerprint⟩ := by simp [waiting]
    rw [← resumed_waiting w ⟨request, fingerprint⟩]
    refine ⟨hledger.finish hrun fun _ s hs hne => ?_, hledger.finishSafe hlog hrun⟩
    exact absurd (Option.some.inj (hs.symm.trans hadmits.current.scope)) hne
  | suspended client request fingerprint permission hadmits hresolves hparsed =>
    exact replay_started ⟨request, fingerprint⟩ h hsafe hc hadmits
  | resumed i run ended hrun =>
    exact ⟨h.finish hrun (hc run hrun), h.finishSafe hsafe hrun⟩
  | installed i answer sessionToken scopeToken handler localSessionId gateway hattempt hfresh
      hgateway =>
    exact ⟨h.install hfresh hgateway, replaySafe_append hsafe (by simp [About])⟩
  | admitted hasApiKey request localSessionId hactive hempty =>
    exact hunrelated ⟨rfl, rfl, rfl, rfl, rfl⟩ rfl (by simp [About])
  | validated i body handler localSessionId hattempt =>
    exact hunrelated ⟨rfl, rfl, rfl, rfl, rfl⟩ rfl (by simp [About])
  | refused client request ended =>
    exact hunrelated ⟨rfl, rfl, rfl, rfl, rfl⟩ rfl (by simp [About])
  | controller activeSession => exact hquiet ⟨rfl, rfl, rfl, rfl, rfl⟩ rfl
  | unadmitted hasApiKey request => exact ⟨h, hsafe⟩
  | rejected i body => exact hquiet ⟨rfl, rfl, rfl, rfl, rfl⟩ rfl
  | answered i answer sessionToken scopeToken => exact hquiet ⟨rfl, rfl, rfl, rfl, rfl⟩ rfl

lemma ledger_start : Ledger {} := by
  refine ⟨?_, ?_, ?_, ?_, ?_, ?_, ?_, ?_, ?_⟩ <;> simp [unrecorded]

lemma replaySafe_nil : ReplaySafe [] := by
  refine ⟨.nil, ?_, ?_, fun _ => Nat.zero_le _⟩ <;> simp [Replays, RefusesReuse]

/-- **The replay is safe** in a run in which no request comes for a call whose run is not in the
table, the runs that are not in the table leave room for those that are started, and none of them
ends under another scope that has seen its `call_id`. -/
theorem replaySafe_run (h : Run (gatewayStep L) Undisturbed {} as w) : ReplaySafe w.log := by
  have hboth : Ledger w ∧ ReplaySafe w.log :=
    h.invariant (I := fun w => Ledger w ∧ ReplaySafe w.log) ⟨ledger_start, replaySafe_nil⟩
      fun _ _ _ hi hc hs => replay_step hi.1 hi.2 hc hs
  exact hboth.2

/-- A request comes again while its permission is being resolved. -/
def askedTwice : List GatewayAction :=
  [.controller (some "voice-one-01")] ++ givenScope 0 "scope-0123456789" ++
  [.execute pageClient (permissionRequest "scope-0123456789") none,
   .execute pageClient (permissionRequest "scope-0123456789") none]

/-- The capability of one call runs twice. -/
theorem replaySafe_askedTwice : ∃ as, ∀ L, ∃ w, Run (gatewayStep L) (fun _ _ => True) {} as w ∧
    ¬ ReplaySafe w.log := by
  refine ⟨askedTwice, fun L => ?_⟩
  obtain ⟨fp, hexec⟩ : ∃ fp, (exec (gatewayStep L) (fun _ _ => true) {} askedTwice).map
      (fun w => w.log.drop 3) = some [.started "scope-0123456789" "call-1" fp,
        .started "scope-0123456789" "call-1" fp] := ⟨_, rfl⟩
  obtain ⟨w, hw, hlog⟩ := Option.map_eq_some_iff.mp hexec
  have hrun := run_of_exec (C := fun _ _ => True) (fun _ _ _ => trivial) _ _ hw
  refine ⟨w, hrun, fun hsafe => ?_⟩
  have honce := hsafe.once.sublist (List.drop_sublist 3 w.log)
  rw [hlog, List.pairwise_pair] at honce
  exact honce _ _ fp fp rfl rfl

/-- A request comes again once its permission has been resolved. -/
def askedAgain : List GatewayAction :=
  [.controller (some "voice-one-01")] ++ givenScope 0 "scope-0123456789" ++
  [.execute pageClient (permissionRequest "scope-0123456789") none,
   .resume 0 (.result [("ok", .bool true)]),
   .execute pageClient (permissionRequest "scope-0123456789") none]

theorem replaySafe_run_askedAgain : ∃ as, ∀ L, ∃ w, Run (gatewayStep L) Undisturbed {} as w ∧
    w.gateway.executionResultsByCallId.length = 1 ∧ ReplaySafe w.log := by
  refine ⟨askedAgain, fun L => ?_⟩
  have hexec : (exec (gatewayStep L) (fun w a => decide (Undisturbed w a)) {} askedAgain).map
      (fun w => w.gateway.executionResultsByCallId.length) = some 1 := rfl
  obtain ⟨w, hw, hlength⟩ := Option.map_eq_some_iff.mp hexec
  have hrun := run_of_exec (C := Undisturbed) (fun _ _ => of_decide_eq_true) _ _ hw
  exact ⟨w, hrun, hlength, replaySafe_run hrun⟩

end HermesRealtime.Replay
