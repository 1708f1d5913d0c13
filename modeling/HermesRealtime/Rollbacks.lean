import Mathlib.Data.Finset.Basic
import Mathlib.Data.Finset.Lattice.Lemmas
import Mathlib.Data.List.Basic

/-!
Scripts that are undone when they fail. A command makes resources, another one registers what has
been made, and a trap removes what is registered. A command may fail after it has made a part of
what it makes. Where every resource is registered by the command after the one that makes it, what
survives the trap is what the failing command has made itself.
-/

namespace HermesRealtime.Rollbacks

/-- What a command of a script does to the resources. -/
inductive Action (R : Type*)
  | command (creates : Finset R)
  | register (r : R)
  | refuse (r : R)
  | arm (on : Bool)
  | quit

structure Ledger (R : Type*) where
  present : Finset R
  registered : List R
  armed : Bool
  deriving DecidableEq

variable {R C : Type*} (action : C → Action R)

/-- Every resource is registered by the command after the one that makes it. -/
inductive Prompt : List C → Prop
  | nil : Prompt []
  | plain {c : C} {rest : List C} (hc : action c = .command ∅ ∨ action c = .quit)
      (h : Prompt rest) : Prompt (c :: rest)
  | made {c d : C} {rest : List C} {r : R} (hc : action c = .command {r})
      (hd : action d = .register r) (h : Prompt rest) : Prompt (c :: d :: rest)

variable {action} in
lemma Prompt.append {a b : List C} (ha : Prompt action a) (hb : Prompt action b) :
    Prompt action (a ++ b) := by
  induction ha with
  | nil => exact hb
  | plain hc _ ih => exact .plain hc ih
  | made hc hd _ ih => exact .made hc hd ih

variable [DecidableEq R]

namespace Ledger

def perform (s : Ledger R) : Action R → Ledger R
  | .command creates => { s with present := s.present ∪ creates }
  | .register r => { s with registered := s.registered ++ [r] }
  | .refuse _ => s
  | .arm on => { s with armed := on }
  | .quit => s

@[simp] lemma perform_empty (s : Ledger R) : s.perform (.command ∅) = s := by
  cases s
  simp [perform]

@[simp] lemma perform_refuse (s : Ledger R) (r : R) : s.perform (.refuse r) = s := rfl

@[simp] lemma perform_quit (s : Ledger R) : s.perform .quit = s := rfl

/-- What is there after the trap. -/
def rollback (s : Ledger R) : Finset R :=
  if s.armed then s.present.filter (· ∉ s.registered) else s.present

/-- The command does not end the script when it does what it is for. -/
def Passes (s : Ledger R) : Action R → Prop
  | .refuse r => r ∉ s.present
  | .quit => False
  | _ => True

/-- Exactly what is there is registered. -/
structure Balanced (s : Ledger R) : Prop where
  armed : s.armed = true
  registered : ∀ r, r ∈ s.present ↔ r ∈ s.registered

instance (s : Ledger R) : DecidablePred s.Passes
  | .refuse r => inferInstanceAs (Decidable (r ∉ s.present))
  | .quit => inferInstanceAs (Decidable False)
  | .command _ | .register _ | .arm _ => inferInstanceAs (Decidable True)

/-- What a command leaves that fails in a balanced ledger is all that survives. -/
lemma Balanced.rollback_union {s : Ledger R} (hs : s.Balanced) {left : Finset R}
    (hleft : Disjoint left s.present) :
    ({ s with present := s.present ∪ left } : Ledger R).rollback = left := by
  ext r
  simp only [rollback, hs.armed, if_true, Finset.mem_filter, Finset.mem_union, ← hs.registered]
  constructor
  · rintro ⟨hold | hnew, hout⟩
    · exact absurd hold hout
    · exact hnew
  · exact fun hnew => ⟨Or.inr hnew, Finset.disjoint_left.mp hleft hnew⟩

/-- What has been made and not registered yet survives with it. -/
lemma Balanced.rollback_late {s : Ledger R} (hs : s.Balanced) {r : R} (hr : r ∉ s.present)
    {left : Finset R} (hleft : Disjoint left (s.present ∪ {r})) :
    ({ s with present := s.present ∪ {r} ∪ left } : Ledger R).rollback = {r} ∪ left := by
  rw [Finset.union_assoc]
  refine hs.rollback_union (Finset.disjoint_union_left.mpr ⟨?_, ?_⟩)
  · exact Finset.disjoint_singleton_left.mpr hr
  · exact Finset.disjoint_of_subset_right Finset.subset_union_left hleft

end Ledger

def performAll (script : List C) (s : Ledger R) : Ledger R :=
  script.foldl (fun s c => s.perform (action c)) s

@[simp] lemma performAll_nil (s : Ledger R) : performAll action [] s = s := rfl

@[simp] lemma performAll_cons (c : C) (script : List C) (s : Ledger R) :
    performAll action (c :: script) s = performAll action script (s.perform (action c)) := rfl

/-- The script fails at the command, which has made what it leaves; last the ledger that the trap
finds. -/
inductive Fails : List C → Ledger R → C → Finset R → Ledger R → Prop
  | command {c : C} {rest : List C} {s : Ledger R} {creates left : Finset R}
      (hc : action c = .command creates) (hleft : left ⊆ creates \ s.present) :
      Fails (c :: rest) s c left { s with present := s.present ∪ left }
  | refuse {c : C} {rest : List C} {s : Ledger R} {r : R} (hc : action c = .refuse r)
      (hr : r ∈ s.present) : Fails (c :: rest) s c ∅ s
  | quit {c : C} {rest : List C} {s : Ledger R} (hc : action c = .quit) :
      Fails (c :: rest) s c ∅ s
  | later {c d : C} {rest : List C} {s s' : Ledger R} {left : Finset R}
      (hc : s.Passes (action c)) (h : Fails rest (s.perform (action c)) d left s') :
      Fails (c :: rest) s d left s'

/-- The run in which the command at the place fails. -/
def failAt (left : Finset R) : ℕ → List C → Ledger R → Option (C × Ledger R)
  | _, [], _ => none
  | 0, c :: _, s =>
    match action c with
    | .command creates =>
      if left ⊆ creates \ s.present then some (c, { s with present := s.present ∪ left }) else none
    | .refuse r => if left = ∅ ∧ r ∈ s.present then some (c, s) else none
    | .quit => if left = ∅ then some (c, s) else none
    | .register _ | .arm _ => none
  | n + 1, c :: rest, s =>
    if s.Passes (action c) then failAt left n rest (s.perform (action c)) else none

variable {action}

lemma fails_of_failAt {left : Finset R} {n : ℕ} {script : List C} {s s' : Ledger R} {c : C}
    (h : failAt action left n script s = some (c, s')) : Fails action script s c left s' := by
  induction script generalizing n s with
  | nil => cases n <;> cases h
  | cons d rest ih =>
    cases n with
    | zero =>
      unfold failAt at h
      split at h
      case h_1 creates hd =>
        split_ifs at h with hleft
        cases h
        exact .command hd hleft
      case h_2 r hd =>
        split_ifs at h with hr
        obtain ⟨rfl, hr⟩ := hr
        cases h
        exact .refuse hd hr
      case h_3 hd =>
        split_ifs at h with hleft
        subst hleft
        cases h
        exact .quit hd
      all_goals cases h
    | succ n =>
      rw [failAt] at h
      split_ifs at h with hpasses
      exact .later hpasses (ih h)

lemma Fails.mem {script : List C} {s s' : Ledger R} {c : C} {left : Finset R}
    (h : Fails action script s c left s') : c ∈ script := by
  induction h with
  | command | refuse | quit => exact List.mem_cons_self
  | later _ _ ih => exact List.mem_cons_of_mem _ ih

lemma Fails.command_cases {c d : C} {rest : List C} {s s' : Ledger R} {creates left : Finset R}
    (hc : action c = .command creates) (h : Fails action (c :: rest) s d left s') :
    (d = c ∧ Disjoint left s.present ∧ s' = { s with present := s.present ∪ left }) ∨
      Fails action rest (s.perform (.command creates)) d left s' := by
  cases h with
  | command _ hleft =>
    exact Or.inl ⟨rfl, Finset.disjoint_of_subset_left hleft Finset.sdiff_disjoint, rfl⟩
  | refuse hc' _ => cases hc.symm.trans hc'
  | quit hc' => cases hc.symm.trans hc'
  | later _ h => exact Or.inr (hc ▸ h)

lemma Fails.of_register {c d : C} {rest : List C} {s s' : Ledger R} {r : R} {left : Finset R}
    (hc : action c = .register r) (h : Fails action (c :: rest) s d left s') :
    Fails action rest (s.perform (.register r)) d left s' := by
  cases h with
  | command hc' _ => cases hc.symm.trans hc'
  | refuse hc' _ => cases hc.symm.trans hc'
  | quit hc' => cases hc.symm.trans hc'
  | later _ h => exact hc ▸ h

lemma Fails.append_cases {a b : List C} {s s' : Ledger R} {c : C} {left : Finset R}
    (h : Fails action (a ++ b) s c left s') :
    Fails action a s c left s' ∨ Fails action b (performAll action a s) c left s' := by
  induction a generalizing s with
  | nil => exact Or.inr h
  | cons d a ih =>
    cases h with
    | command hc hleft => exact Or.inl (.command hc hleft)
    | refuse hc hr => exact Or.inl (.refuse hc hr)
    | quit hc => exact Or.inl (.quit hc)
    | later hc h => exact (ih h).imp_left (.later hc)

/-- Commands that make nothing. -/
lemma Fails.idle {script : List C} {s s' : Ledger R} {c : C} {left : Finset R}
    (h : Fails action script s c left s')
    (hidle : ∀ d ∈ script, action d = .command ∅ ∨ ∃ r, action d = .refuse r) :
    left = ∅ ∧ s' = s := by
  induction h with
  | @command d rest s creates left hc hleft =>
    have hnone : creates = ∅ := by
      rcases hidle d List.mem_cons_self with hd | ⟨r, hd⟩
      · exact Action.command.inj (hc.symm.trans hd)
      · cases hc.symm.trans hd
    obtain rfl : left = ∅ := by simpa [hnone] using hleft
    exact ⟨rfl, by simp⟩
  | refuse => exact ⟨rfl, rfl⟩
  | quit => exact ⟨rfl, rfl⟩
  | @later d _ rest s s' left hc h ih =>
    have hsame : s.perform (action d) = s := by
      rcases hidle d List.mem_cons_self with hd | ⟨r, hd⟩ <;> simp [hd]
    rw [hsame] at ih
    exact ih fun e he => hidle e (List.mem_cons_of_mem _ he)

lemma Ledger.Balanced.made {s : Ledger R} (hs : s.Balanced) (r : R) :
    ((s.perform (.command {r})).perform (.register r)).Balanced := by
  refine ⟨hs.armed, fun x => ?_⟩
  simp [perform, hs.registered, or_comm]

/-- **A prompt script is undone but for its last command.** -/
theorem Prompt.rollback_eq {script : List C} (h : Prompt action script) {s s' : Ledger R}
    (hs : s.Balanced) {c : C} {left : Finset R} (hf : Fails action script s c left s') :
    s'.rollback = left := by
  induction h generalizing s with
  | nil => cases hf
  | plain hc _ ih =>
    rcases hc with hc | hc
    · rcases hf.command_cases hc with ⟨-, hleft, rfl⟩ | hf
      · exact hs.rollback_union hleft
      · exact ih (by simpa using hs) hf
    · cases hf with
      | command hc' _ => cases hc.symm.trans hc'
      | refuse hc' _ => cases hc.symm.trans hc'
      | quit =>
        have hnothing := hs.rollback_union (Finset.disjoint_empty_left _)
        rwa [Finset.union_empty] at hnothing
      | later hpasses _ => simp [hc, Ledger.Passes] at hpasses
  | made hc hd _ ih =>
    rcases hf.command_cases hc with ⟨-, hleft, rfl⟩ | hf
    · exact hs.rollback_union hleft
    · exact ih (hs.made _) (hf.of_register hd)

end HermesRealtime.Rollbacks
