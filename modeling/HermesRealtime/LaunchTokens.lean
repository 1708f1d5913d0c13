import HermesRealtime.Tokens
import Mathlib.Algebra.Order.Ring.Rat
import Mathlib.Data.List.Induction
import Mathlib.Tactic.Linarith

/-!
The token store over any history of calls: which token is valid is a matter of the calls since it
was issued, and of the time.
-/

namespace HermesRealtime.LaunchTokens

open Tokens LaunchTokenStore

inductive TokenCall
  | issue (localSessionId token : String)
  | validate (token : String)
  | consume (token : String)
  | invalidate (token : String)
  deriving DecidableEq

/-- A call, and what the clock reads at it: the store after it, and what it returns. -/
def call (s : LaunchTokenStore) : ℚ × TokenCall → LaunchTokenStore × Option String
  | (now, .issue localSessionId token) => (s.issue localSessionId token now, some token)
  | (now, .validate token) => (s, s.validate token now)
  | (now, .consume token) => s.consume token now
  | (_, .invalidate token) => (s.invalidate token, none)

/-- The store after a history of calls. -/
def replay (s : LaunchTokenStore) (h : List (ℚ × TokenCall)) : LaunchTokenStore :=
  h.foldl (fun s x => (call s x).1) s

/-- What the token factory has made in a call. -/
def issued : ℚ × TokenCall → Option String
  | (_, .issue _ token) => some token
  | _ => none

/-- The token was issued last, for the session and at that time, and no call since then consumed or
invalidated it. -/
def Unused (h : List (ℚ × TokenCall)) (token localSessionId : String) (time : ℚ) : Prop :=
  ∃ before after, h = before ++ (time, .issue localSessionId token) :: after ∧ ∀ x ∈ after,
    (∀ s t, x.2 ≠ .issue s t) ∧ x.2 ≠ .consume token ∧ x.2 ≠ .invalidate token

variable {s : LaunchTokenStore} {h h' : List (ℚ × TokenCall)} {x : ℚ × TokenCall}
  {token other localSessionId sessionId : String} {time now : ℚ}

lemma replay_append : replay s (h ++ h') = replay (replay s h) h' := List.foldl_append

lemma replay_snoc : replay s (h ++ [x]) = (call (replay s h) x).1 := replay_append

/-- The last call of a history. -/
lemma unused_snoc : Unused (h ++ [x]) token localSessionId time ↔
    x = (time, .issue localSessionId token) ∨ Unused h token localSessionId time ∧
      (∀ s t, x.2 ≠ .issue s t) ∧ x.2 ≠ .consume token ∧ x.2 ≠ .invalidate token := by
  constructor
  · rintro ⟨before, after, hh, hafter⟩
    rcases List.eq_nil_or_concat after with rfl | ⟨after, y, rfl⟩
    · exact .inl (List.append_singleton_inj.mp hh).2
    · rw [List.concat_eq_append] at hh hafter
      have hsplit : h ++ [x] = (before ++ (time, .issue localSessionId token) :: after) ++ [y] := by
        rw [hh, List.append_assoc, List.cons_append]
      obtain ⟨rfl, rfl⟩ := List.append_singleton_inj.mp hsplit
      exact .inr ⟨⟨before, after, rfl, fun z hz => hafter z (by simp [hz])⟩, hafter x (by simp)⟩
  · rintro (rfl | ⟨⟨before, after, rfl, hafter⟩, hx⟩)
    · exact ⟨h, [], rfl, by simp⟩
    · refine ⟨before, after ++ [x], by simp, fun z hz => ?_⟩
      rcases List.mem_append.mp hz with hz | hz
      · exact hafter z hz
      · rw [List.mem_singleton.mp hz]
        exact hx

/-! ### What a call does to a token -/

/-- The store holds an unused record of the token, of the newest generation. -/
def Pending (s : LaunchTokenStore) (token localSessionId : String) (expiresAt : ℚ) : Prop :=
  s.records token = some ⟨localSessionId, expiresAt, s.generation, false⟩

lemma validate_eq_some : s.validate token now = some localSessionId ↔
    ∃ expiresAt, Pending s token localSessionId expiresAt ∧ now ≤ expiresAt := by
  unfold validate Pending
  rcases s.records token with _ | ⟨id, expiresAt, generation, consumed⟩
  · simp
  · simp only [Option.some_inj, TokenRecord.mk.injEq]
    split_ifs with hgeneration hconsumed hexpired
    · simp_all
    · simp_all
    · refine iff_of_false (by simp) ?_
      rintro ⟨_, ⟨-, rfl, -⟩, hnow⟩
      exact absurd hnow (not_le.mpr hexpired)
    · simp_all

lemma consume_snd : (s.consume token now).2 = s.validate token now := by
  unfold consume
  split <;> simp_all

/-- A record that is marked is not pending, and no other one changes. -/
lemma pending_markConsumed {expiresAt : ℚ} :
    Pending (s.markConsumed other) token localSessionId expiresAt ↔
      Pending s token localSessionId expiresAt ∧ token ≠ other := by
  unfold Pending
  by_cases h : token = other
  · subst h
    unfold markConsumed
    split <;> simp_all
  · rw [s.markConsumed_of_ne h, s.markConsumed_generation]
    simp [h]

/-- The records are of generations so far, and one token at most is of the newest. -/
structure Orderly (s : LaunchTokenStore) : Prop where
  bounded : ∀ token record, s.records token = some record → record.generation ≤ s.generation
  newest : ∀ token other record record', s.records token = some record →
    s.records other = some record' → record.generation = s.generation →
      record'.generation = s.generation → token = other

lemma Pending.unique {time' : ℚ} (hs : Orderly s) (hp : Pending s token localSessionId time)
    (hp' : Pending s other sessionId time') : token = other :=
  hs.newest _ _ _ _ hp hp' rfl rfl

/-- A token that is issued supersedes all others. -/
lemma pending_issue (hs : Orderly s) {expiresAt : ℚ} :
    Pending (s.issue sessionId other now) token localSessionId expiresAt ↔
      token = other ∧ localSessionId = sessionId ∧
        expiresAt = floatSum now s.tokenTtlSeconds := by
  unfold Pending issue
  by_cases h : token = other
  · subst h
    simp [eq_comm]
  · simp only [Function.update_of_ne h, h, false_and, iff_false]
    intro hrecord
    have := hs.bounded _ _ hrecord
    simp at this

/-- A token that is consumed in time is not pending any more. -/
lemma pending_consume {expiresAt : ℚ} (hnow : now ≤ expiresAt) :
    Pending (s.consume other now).1 token localSessionId expiresAt ↔
      Pending s token localSessionId expiresAt ∧ token ≠ other := by
  unfold consume
  rcases hvalid : s.validate other now with _ | id
  · refine ⟨fun hp => ⟨hp, ?_⟩, And.left⟩
    rintro rfl
    rw [validate_eq_some.mpr ⟨expiresAt, hp, hnow⟩] at hvalid
    cases hvalid
  · exact pending_markConsumed

/-- A token becomes pending by being issued only. -/
lemma pending_of_call (hs : Orderly s) {expiresAt : ℚ}
    (hp : Pending (call s x).1 token localSessionId expiresAt) :
    Pending s token localSessionId expiresAt ∨ ∃ other, x.2 = .issue localSessionId other := by
  obtain ⟨now, c⟩ := x
  cases c with
  | issue sessionId other =>
    obtain ⟨-, rfl, -⟩ := (pending_issue hs).mp hp
    exact .inr ⟨other, rfl⟩
  | validate other => exact .inl hp
  | consume other =>
    change Pending (s.consume other now).1 token localSessionId expiresAt at hp
    unfold consume at hp
    split at hp
    · exact .inl hp
    · exact .inl (pending_markConsumed.mp hp).1
  | invalidate other => exact .inl (pending_markConsumed.mp hp).1

lemma markConsumed_self : (s.markConsumed token).records token =
    (s.records token).map fun record => { record with consumed := true } := by
  unfold LaunchTokenStore.markConsumed
  split <;> simp_all

lemma issue_records : (s.issue localSessionId token now).records = Function.update s.records token
    (some ⟨localSessionId, floatSum now s.tokenTtlSeconds, s.generation + 1, false⟩) := rfl

lemma Orderly.markConsumed (hs : Orderly s) : Orderly (s.markConsumed token) := by
  have hrecord {t : String} {r : TokenRecord} (h : (s.markConsumed token).records t = some r) :
      ∃ r', s.records t = some r' ∧ r.generation = r'.generation := by
    by_cases ht : t = token
    · subst ht
      rw [markConsumed_self] at h
      obtain ⟨r', hr', rfl⟩ := Option.map_eq_some_iff.mp h
      exact ⟨r', hr', rfl⟩
    · rw [s.markConsumed_of_ne ht] at h
      exact ⟨r, h, rfl⟩
  constructor
  · intro t r h
    obtain ⟨r', hr', hgeneration⟩ := hrecord h
    rw [s.markConsumed_generation, hgeneration]
    exact hs.bounded t r' hr'
  · intro t t' r r' h h' hnew hnew'
    obtain ⟨p, hp, hpr⟩ := hrecord h
    obtain ⟨p', hp', hpr'⟩ := hrecord h'
    rw [s.markConsumed_generation] at hnew hnew'
    exact hs.newest t t' p p' hp hp' (hpr ▸ hnew) (hpr' ▸ hnew')

lemma Orderly.issue (hs : Orderly s) : Orderly (s.issue localSessionId token now) := by
  have hrecord {t : String} {r : TokenRecord}
      (h : (s.issue localSessionId token now).records t = some r) :
      t = token ∨ r.generation ≤ s.generation := by
    by_cases ht : t = token
    · exact .inl ht
    · refine .inr (hs.bounded t r ?_)
      rwa [issue_records, Function.update_of_ne ht] at h
  have hgeneration : (s.issue localSessionId token now).generation = s.generation + 1 := rfl
  constructor
  · intro t r h
    rcases hrecord h with rfl | hle
    · rw [issue_records, Function.update_self, Option.some_inj] at h
      rw [← h]
      exact le_refl _
    · omega
  · intro t t' r r' h h' hnew hnew'
    rcases hrecord h with rfl | hle
    · rcases hrecord h' with rfl | hle'
      · rfl
      · omega
    · omega

lemma orderly_call (hs : Orderly s) (x : ℚ × TokenCall) : Orderly (call s x).1 := by
  obtain ⟨now, c⟩ := x
  cases c with
  | issue localSessionId token => exact hs.issue
  | validate token => exact hs
  | consume token =>
    change Orderly (s.consume token now).1
    unfold consume
    split
    · exact hs
    · exact hs.markConsumed
  | invalidate token => exact hs.markConsumed

lemma orderly_replay (hs : Orderly s) (h : List (ℚ × TokenCall)) : Orderly (replay s h) := by
  induction h using List.reverseRecOn with
  | nil => exact hs
  | append_singleton h x ih =>
    rw [replay_snoc]
    exact orderly_call ih x

lemma call_ttl (s : LaunchTokenStore) (x : ℚ × TokenCall) :
    (call s x).1.tokenTtlSeconds = s.tokenTtlSeconds := by
  have hmark (token : String) : (s.markConsumed token).tokenTtlSeconds = s.tokenTtlSeconds := by
    unfold markConsumed
    split <;> rfl
  obtain ⟨now, c⟩ := x
  cases c with
  | issue | validate => rfl
  | consume token =>
    change (s.consume token now).1.tokenTtlSeconds = _
    unfold consume
    split
    · rfl
    · exact hmark token
  | invalidate token => exact hmark token

lemma replay_ttl (s : LaunchTokenStore) (h : List (ℚ × TokenCall)) :
    (replay s h).tokenTtlSeconds = s.tokenTtlSeconds := by
  induction h using List.reverseRecOn with
  | nil => rfl
  | append_singleton h x ih => rw [replay_snoc, call_ttl, ih]

/-! ### The history decides -/

/-- A store that has not been called. -/
def fresh (ttl : ℚ) : LaunchTokenStore := { tokenTtlSeconds := ttl }

lemma orderly_fresh (ttl : ℚ) : Orderly (fresh ttl) := ⟨by simp [fresh], by simp [fresh]⟩

/-- While a token is not too old, the store and the history agree on it. -/
lemma pending_replay (ttl : ℚ) {expiresAt : ℚ} (hclock : ∀ x ∈ h, x.1 ≤ expiresAt) :
    Pending (replay (fresh ttl) h) token localSessionId expiresAt ↔
      ∃ time, Unused h token localSessionId time ∧ expiresAt = floatSum time ttl := by
  induction h using List.reverseRecOn with
  | nil => simp [replay, Pending, Unused, fresh]
  | append_singleton h x ih =>
    have horderly := orderly_replay (orderly_fresh ttl) h
    have httl : (replay (fresh ttl) h).tokenTtlSeconds = ttl := replay_ttl _ _
    have hbefore := ih fun y hy => hclock y (by simp [hy])
    rw [replay_snoc]
    simp only [unused_snoc]
    obtain ⟨now, c⟩ := x
    have hnow : now ≤ expiresAt := hclock (now, c) (by simp)
    cases c with
    | issue sessionId other =>
      refine (pending_issue horderly).trans ?_
      rw [httl]
      constructor
      · rintro ⟨rfl, rfl, hexpires⟩
        exact ⟨now, .inl rfl, hexpires⟩
      · rintro ⟨time, heq | ⟨-, hnot, -⟩, hexpires⟩
        · cases heq
          exact ⟨rfl, rfl, hexpires⟩
        · exact absurd rfl (hnot sessionId other)
    | validate other =>
      refine hbefore.trans ?_
      simp
    | consume other =>
      refine (pending_consume hnow).trans ?_
      rw [hbefore, ← exists_and_right]
      simp [eq_comm, and_right_comm]
    | invalidate other =>
      refine pending_markConsumed.trans ?_
      rw [hbefore, ← exists_and_right]
      simp [eq_comm, and_right_comm]

/-- What the store says of a token follows from the history. -/
lemma validate_replay (ttl : ℚ) (hclock : ∀ x ∈ h, x.1 ≤ now) :
    (replay (fresh ttl) h).validate token now = some localSessionId ↔
      ∃ time, Unused h token localSessionId time ∧ now ≤ floatSum time ttl := by
  rw [validate_eq_some]
  constructor
  · rintro ⟨expiresAt, hp, hnow⟩
    obtain ⟨time, hunused, rfl⟩ :=
      (pending_replay ttl fun x hx => (hclock x hx).trans hnow).mp hp
    exact ⟨time, hunused, hnow⟩
  · rintro ⟨time, hunused, hnow⟩
    exact ⟨floatSum time ttl,
      (pending_replay ttl fun x hx => (hclock x hx).trans hnow).mpr ⟨time, hunused, rfl⟩, hnow⟩

/-! ### Once only -/

def Used (s : LaunchTokenStore) (token : String) : Prop :=
  ∃ record, s.records token = some record ∧ record.consumed = true

lemma Used.markConsumed (hu : Used s token) : Used (s.markConsumed other) token := by
  obtain ⟨record, hrecord, hconsumed⟩ := hu
  by_cases h : token = other
  · subst h
    exact ⟨_, by rw [markConsumed_self, hrecord]; rfl, rfl⟩
  · exact ⟨record, by rwa [s.markConsumed_of_ne h], hconsumed⟩

lemma Used.validate (hu : Used s token) : s.validate token now = none := by
  obtain ⟨record, hrecord, hconsumed⟩ := hu
  unfold LaunchTokenStore.validate
  simp [hrecord, hconsumed]

lemma used_of_consumed (h : (s.consume token now).2 = some sessionId) :
    Used (s.consume token now).1 token := by
  rw [consume_snd] at h
  obtain ⟨expiresAt, hp, -⟩ := validate_eq_some.mp h
  unfold consume
  rw [h]
  exact ⟨_, by rw [markConsumed_self, hp]; rfl, rfl⟩

/-- A token that is used up stays so until it is made again. -/
lemma used_call (hu : Used s token) (hx : issued x ≠ some token) : Used (call s x).1 token := by
  obtain ⟨now, c⟩ := x
  cases c with
  | issue localSessionId other =>
    obtain ⟨record, hrecord, hconsumed⟩ := hu
    have hne : token ≠ other := fun h => hx (congrArg some h.symm)
    exact ⟨record, by rwa [call, issue_records, Function.update_of_ne hne], hconsumed⟩
  | validate other => exact hu
  | consume other =>
    change Used (s.consume other now).1 token
    unfold consume
    split
    · exact hu
    · exact hu.markConsumed
  | invalidate other => exact hu.markConsumed

lemma used_replay (hu : Used s token) (hh : token ∉ h.filterMap issued) :
    Used (replay s h) token := by
  induction h using List.reverseRecOn with
  | nil => exact hu
  | append_singleton h x ih =>
    rw [List.filterMap_append, List.mem_append, not_or] at hh
    rw [replay_snoc]
    exact used_call (ih hh.1) fun hx => hh.2 (by simp [hx])

/-- The store has records of the tokens that were made. -/
lemma issued_of_records {ttl : ℚ} (hrecord : (replay (fresh ttl) h).records token ≠ none) :
    token ∈ h.filterMap issued := by
  induction h using List.reverseRecOn with
  | nil => simp [replay, fresh] at hrecord
  | append_singleton h x ih =>
    rw [List.filterMap_append, List.mem_append]
    rw [replay_snoc] at hrecord
    have hmark {other : String} (hm : ((replay (fresh ttl) h).markConsumed other).records token ≠
        none) : token ∈ h.filterMap issued := by
      refine ih fun hnone => hm ?_
      by_cases ht : token = other
      · subst ht
        rw [markConsumed_self, hnone, Option.map_none]
      · rwa [markConsumed_of_ne _ ht]
    obtain ⟨now, c⟩ := x
    cases c with
    | issue localSessionId other =>
      by_cases ht : token = other
      · exact .inr (by simp [issued, ht])
      · rw [call, issue_records, Function.update_of_ne ht] at hrecord
        exact .inl (ih hrecord)
    | validate other => exact .inl (ih hrecord)
    | consume other =>
      change ((replay (fresh ttl) h).consume other now).1.records token ≠ none at hrecord
      unfold consume at hrecord
      split at hrecord
      · exact .inl (ih hrecord)
      · exact .inl (hmark hrecord)
    | invalidate other => exact .inl (hmark hrecord)

/-- A token that has been consumed is not consumed again. -/
lemma consume_once {ttl now' : ℚ} {before after : List (ℚ × TokenCall)}
    (hdistinct : ((before ++ (now, .consume token) :: after).filterMap issued).Nodup)
    (hfirst : ((replay (fresh ttl) before).consume token now).2 ≠ none) :
    ((replay (fresh ttl) (before ++ (now, .consume token) :: after)).consume token now').2 =
      none := by
  obtain ⟨sessionId, hfirst⟩ := Option.ne_none_iff_exists'.mp hfirst
  have hmade : token ∈ before.filterMap issued := by
    rw [consume_snd] at hfirst
    obtain ⟨expiresAt, hp, -⟩ := validate_eq_some.mp hfirst
    exact issued_of_records (by rw [hp]; simp)
  have hnot : token ∉ after.filterMap issued := by
    rw [List.filterMap_append, List.nodup_append] at hdistinct
    exact fun hafter => hdistinct.2.2 token hmade token hafter rfl
  rw [consume_snd, ← List.concat_append, replay_append, List.concat_eq_append, replay_snoc]
  exact (used_replay (used_of_consumed hfirst) hnot).validate

end HermesRealtime.LaunchTokens
