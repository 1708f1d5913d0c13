import Mathlib.Tactic.Common
import Mathlib.Data.List.Basic

/-!
Bounded queues with a last message.

A queue of capacity `n` lets messages in while it has room. A message that is the last one gets
in whatever the queue holds: a full queue loses its oldest message for it. The ledger of a queue
keeps what it has let in and what it has given out next to what waits in it.
-/

namespace HermesRealtime.Ledgers

variable {α : Type*}

structure Ledger (α : Type*) where
  accepted : List α := []
  taken : List α := []
  waiting : List α := []

/-- The messages wait and leave in the order in which they got in, and nothing gets in after a
last one; nothing is lost, but for one message that a full queue lost when the last one got in:
the oldest of those that waited then. -/
inductive Orderly (n : ℕ) (final : α → Prop) (l : Ledger α) : Prop
  | going (hgoing : ∀ x ∈ l.accepted, ¬ final x) (h : l.taken ++ l.waiting = l.accepted)
  | ended (before z) (hbefore : ∀ x ∈ before, ¬ final x) (hz : final z)
      (haccepted : l.accepted = before ++ [z]) (h : l.taken ++ l.waiting = l.accepted)
  | displaced (before oldest behind z) (hbefore : ∀ x ∈ before ++ oldest :: behind, ¬ final x)
      (hz : final z) (hfull : (oldest :: behind).length = n)
      (haccepted : l.accepted = before ++ oldest :: behind ++ [z])
      (h : l.taken ++ l.waiting = before ++ behind ++ [z]) (htaken : before <+: l.taken)

namespace Orderly

variable {n : ℕ} {final : α → Prop} {l l' : Ledger α}

/-- What is taken or waits got in, in that order, and each message as often at most. -/
lemma sublist (h : Orderly n final l) : (l.taken ++ l.waiting).Sublist l.accepted := by
  cases h with
  | going hgoing h => rw [h]
  | ended before z hbefore hz haccepted h => rw [h]
  | displaced before oldest behind z hbefore hz hfull haccepted h htaken =>
    rw [h, haccepted]
    exact ((List.Sublist.refl before).append (.cons oldest (.refl behind))).append_right [z]

/-- Where only the last one of a list is a last message, nothing is behind it. -/
lemma last_of_snoc {xs front before after : List α} {y z : α} (hfront : ∀ x ∈ front, ¬ final x)
    (hy : xs = front ++ [y]) (hsplit : xs = before ++ z :: after) (hz : final z) :
    after = [] ∧ ∀ x ∈ before, ¬ final x := by
  rcases List.eq_nil_or_concat' after with rfl | ⟨rest, x, rfl⟩
  · rw [hsplit] at hy
    exact ⟨rfl, (List.append_inj' hy rfl).1 ▸ hfront⟩
  · have hinside : (before ++ z :: rest) ++ [x] = front ++ [y] := by
      rw [← hy, hsplit, List.append_assoc, List.cons_append]
    exact absurd hz (hfront z ((List.append_inj' hinside rfl).1 ▸ by simp))

/-- Nothing gets in behind a last message, so there is one at most. -/
lemma accepted_last {before after : List α} {z : α} (h : Orderly n final l)
    (hsplit : l.accepted = before ++ z :: after) (hz : final z) :
    after = [] ∧ ∀ x ∈ before, ¬ final x := by
  cases h with
  | going hgoing h => exact absurd hz (hgoing z (by simp [hsplit]))
  | ended front y hfront hy haccepted h => exact last_of_snoc hfront haccepted hsplit hz
  | displaced front oldest behind y hfront hy hfull haccepted h htaken =>
    exact last_of_snoc hfront haccepted hsplit hz

/-- Nothing is taken, or waits, behind a last message. -/
lemma left_last {before after : List α} {z : α} (h : Orderly n final l)
    (hsplit : l.taken ++ l.waiting = before ++ z :: after) (hz : final z) :
    after = [] ∧ ∀ x ∈ before, ¬ final x := by
  cases h with
  | going hgoing h => exact absurd hz (hgoing z (by simp [← h, hsplit]))
  | ended front y hfront hy haccepted h => exact last_of_snoc hfront (h.trans haccepted) hsplit hz
  | displaced front oldest behind y hfront hy hfull haccepted h htaken =>
    refine last_of_snoc (fun x hx => hfront x ?_) h hsplit hz
    simp only [List.mem_append, List.mem_cons] at hx ⊢
    tauto

/-- Until a last message gets in, nothing is lost. -/
lemma of_going (h : Orderly n final l) (hgoing : ∀ x ∈ l.accepted, ¬ final x) :
    l.taken ++ l.waiting = l.accepted := by
  cases h with
  | going _ h => exact h
  | ended before z hbefore hz haccepted h => exact h
  | displaced before oldest behind z hbefore hz hfull haccepted h htaken =>
    exact absurd hz (hgoing z (by simp [haccepted]))

/-- A message that is not the last one gets in, before that one does. -/
lemma put {x : α} (h : Orderly n final l) (hgoing : ∀ x ∈ l.accepted, ¬ final x) (hx : ¬ final x)
    (haccepted : l'.accepted = l.accepted ++ [x]) (htaken : l'.taken = l.taken)
    (hwaiting : l'.waiting = l.waiting ++ [x]) : Orderly n final l' := by
  refine .going (fun y hy => ?_) ?_
  · rw [haccepted, List.mem_append, List.mem_singleton] at hy
    rcases hy with hy | rfl
    · exact hgoing y hy
    · exact hx
  · rw [haccepted, htaken, hwaiting, ← List.append_assoc, h.of_going hgoing]

/-- The last message gets in, where there is room for it. -/
lemma putLast {z : α} (h : Orderly n final l) (hgoing : ∀ x ∈ l.accepted, ¬ final x)
    (hz : final z) (haccepted : l'.accepted = l.accepted ++ [z]) (htaken : l'.taken = l.taken)
    (hwaiting : l'.waiting = l.waiting ++ [z]) : Orderly n final l' := by
  refine .ended l.accepted z hgoing hz haccepted ?_
  rw [haccepted, htaken, hwaiting, ← List.append_assoc, h.of_going hgoing]

/-- The last message gets in, and a full queue loses its oldest one. -/
lemma displace {z : α} (h : Orderly n final l) (hgoing : ∀ x ∈ l.accepted, ¬ final x)
    (hz : final z) (hfull : l.waiting.length = n) (hn : 0 < n)
    (haccepted : l'.accepted = l.accepted ++ [z]) (htaken : l'.taken = l.taken)
    (hwaiting : l'.waiting = l.waiting.tail ++ [z]) : Orderly n final l' := by
  have hall := h.of_going hgoing
  rcases hw : l.waiting with _ | ⟨oldest, behind⟩
  · simp [hw] at hfull
    omega
  · rw [hw] at hall hwaiting hfull
    refine .displaced l.taken oldest behind z (by rwa [hall]) hz hfull (by rw [haccepted, hall])
      ?_ (htaken ▸ List.prefix_rfl)
    rw [htaken, hwaiting, List.tail_cons, List.append_assoc]

/-- The oldest message is taken, if one waits. -/
lemma take (h : Orderly n final l) (haccepted : l'.accepted = l.accepted)
    (htaken : l'.taken = l.taken ++ l.waiting.head?.toList)
    (hwaiting : l'.waiting = l.waiting.tail) : Orderly n final l' := by
  have hall : l'.taken ++ l'.waiting = l.taken ++ l.waiting := by
    rw [htaken, hwaiting, List.append_assoc]
    cases l.waiting <;> rfl
  cases h with
  | going hgoing h => exact .going (by rwa [haccepted]) (by rw [hall, h, haccepted])
  | ended before z hbefore hz hended h =>
    exact .ended before z hbefore hz (haccepted.trans hended) (by rw [hall, h, haccepted])
  | displaced before oldest behind z hbefore hz hfull hended h htakenBefore =>
    refine .displaced before oldest behind z hbefore hz hfull (haccepted.trans hended)
      (hall.trans h) (htakenBefore.trans ?_)
    rw [htaken]
    exact List.prefix_append _ _

end Orderly

end HermesRealtime.Ledgers
