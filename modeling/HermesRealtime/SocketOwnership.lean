import HermesRealtime.SocketPath
import Mathlib.Data.Fintype.Basic

/-!
Who owns the path of the activation socket. Where nobody else acts between a check of the path and
the change that relies on it, an instance that has bound its socket keeps the path until it closes
the socket, so that there is never a second one; and what a dead instance has left does not keep
the next one from starting.
-/

namespace HermesRealtime.SocketOwnership

open SocketPath Runs

variable {ι : Type} [DecidableEq ι] {w w' : World ι} {i : ι}

/-- Between a check and the change that relies on it: in `start` from the last look at the path
until the socket listens, in `stop` from the check until the removal. -/
def Inside (phase : Phase) : Prop :=
  match phase with
  | .confirmed | .free | .cleared | .bound _ | .leaving => True
  | _ => False

/-- Nobody else is about to change the path. -/
def Calm (w : World ι) (i : ι) : Prop := ∀ j, j ≠ i → ¬ Inside (w.phase j)

/-- While an instance is between a check and its change, the others at most crash; and a probe fails
only where nobody listens, though `_probe_socket` takes a full backlog or a timeout for that too. -/
structure Undisturbed (w : World ι) (a : ι × Act) : Prop where
  calm : a.2 ≠ .crash → Calm w a.1
  accurate : a.2 = .probe false → w.live = false

/-- An instance is still going to compare an inode number with what is at the path then. -/
def Recalls (w : World ι) (j : ι) (x : ℕ) : Prop :=
  match w.phase j with
  | .seen n | .probed n => n.inode = x ∨ w.identity j = some x
  | .stopped => False
  | _ => w.identity j = some x

/-- A new socket does not get an inode number that another instance still compares with. -/
def Unmistaken (w : World ι) (a : ι × Act) : Prop :=
  match a.2 with
  | .bind x => ∀ j, j ≠ a.1 → ¬ Recalls w j x
  | _ => True

/-- The invariant of the path. -/
structure Owned (w : World ι) : Prop where
  path : ∀ i x, (w.phase i).inode = some x → w.path = some ⟨x, true⟩
  unique : ∀ i j x, (w.phase i).inode = some x → (w.phase j).inode = some x → i = j
  accepted : ∀ i x, (w.phase i).inode = some x → ¬ Inside (w.phase i) → w.accepting x = true
  probed : ∀ i n, w.phase i = .probed n → ∀ j, (w.phase j).inode ≠ some n.inode
  /-- Who is about to change the path is alone. -/
  alone : ∀ i, Inside (w.phase i) → ∀ j, j ≠ i → (w.phase j).inode = none
  named : ∀ i x, w.phase i ≠ .stopped → w.identity i = some x →
    ∀ j, (w.phase j).inode = some x → j = i

omit [DecidableEq ι] in
lemma owned_init (left : Option Node) : Owned (World.init left : World ι) where
  path _ _ h := by cases h
  unique _ _ _ h := by cases h
  accepted _ _ h := by cases h
  probed _ _ h := by cases h
  alone _ h := h.elim
  named _ _ _ h := by cases h

/-- An instance goes on without a socket of its own. -/
lemma Owned.move (hw : Owned w) (i : ι) (hphase : ∀ j, j ≠ i → w'.phase j = w.phase j)
    (hidentity : w'.identity = w.identity)
    (hpath : ∀ j, j ≠ i → ∀ x, (w.phase j).inode = some x → w'.path = w.path)
    (haccepting : ∀ j, j ≠ i → ∀ x, (w.phase j).inode = some x →
      w'.accepting x = w.accepting x)
    (hnone : (w'.phase i).inode = none)
    (hprobed : ∀ n, w'.phase i = .probed n → ∀ j, j ≠ i → (w.phase j).inode ≠ some n.inode)
    (halone : Inside (w'.phase i) → ∀ j, j ≠ i → (w.phase j).inode = none)
    (hrunning : w'.phase i = .stopped ∨ w.phase i ≠ .stopped) : Owned w' := by
  have hother {j : ι} {x : ℕ} (h : (w'.phase j).inode = some x) :
      j ≠ i ∧ (w.phase j).inode = some x := by
    by_cases hj : j = i
    · subst hj
      rw [hnone] at h
      cases h
    · rw [hphase j hj] at h
      exact ⟨hj, h⟩
  refine ⟨fun j x h => ?_, fun j k x hj hk => ?_, fun j x h hout => ?_, fun j n h k hk => ?_,
    fun j hinside k hkj => ?_, fun j x hgoing h k hk => ?_⟩
  · obtain ⟨hj, hx⟩ := hother h
    rw [hpath j hj x hx]
    exact hw.path j x hx
  · exact hw.unique j k x (hother hj).2 (hother hk).2
  · obtain ⟨hj, hx⟩ := hother h
    rw [hphase j hj] at hout
    rw [haccepting j hj x hx]
    exact hw.accepted j x hx hout
  · obtain ⟨hki, hx⟩ := hother hk
    by_cases hj : j = i
    · subst hj
      exact hprobed n h k hki hx
    · rw [hphase j hj] at h
      exact hw.probed j n h k hx
  · by_cases hk : k = i
    · subst hk
      exact hnone
    · rw [hphase k hk]
      by_cases hj : j = i
      · subst hj
        exact halone hinside k hk
      · rw [hphase j hj] at hinside
        exact hw.alone j hinside k hkj
  · rw [hidentity] at h
    refine hw.named j x ?_ h k (hother hk).2
    by_cases hj : j = i
    · subst hj
      exact hrunning.resolve_left hgoing
    · rwa [hphase j hj] at hgoing

/-- Nothing but the phase of an instance changes. -/
lemma Owned.goTo (hw : Owned w) {phase : Phase} (hnone : phase.inode = none)
    (hprobed : ∀ n, phase = .probed n → ∀ j, j ≠ i → (w.phase j).inode ≠ some n.inode)
    (halone : Inside phase → ∀ j, j ≠ i → (w.phase j).inode = none)
    (hrunning : w.phase i ≠ .stopped) : Owned (w.goTo i phase) := by
  have hself : (w.goTo i phase).phase i = phase := Function.update_self ..
  refine hw.move i (fun j hj => Function.update_of_ne hj ..) rfl (fun _ _ _ _ => rfl)
    (fun _ _ _ _ => rfl) ?_ ?_ ?_ (Or.inr hrunning)
  · rw [hself]
    exact hnone
  · rw [hself]
    exact hprobed
  · rw [hself]
    exact halone

/-- An instance is out of everything. -/
lemma Owned.goTo_out (hw : Owned w) {phase : Phase} (hnone : phase.inode = none)
    (hprobed : ∀ n, phase ≠ .probed n) (hout : ¬ Inside phase) (hrunning : w.phase i ≠ .stopped) :
    Owned (w.goTo i phase) :=
  hw.goTo hnone (fun n h => (hprobed n h).elim) (fun h => (hout h).elim) hrunning

/-- The path is changed by who is alone. -/
lemma Owned.change (hw : Owned w) {path : Option Node} {phase : Phase}
    (hnone : phase.inode = none) (hprobed : ∀ n, phase ≠ .probed n)
    (halone : ∀ j, j ≠ i → (w.phase j).inode = none) (hrunning : w.phase i ≠ .stopped) :
    Owned ({ w with path }.goTo i phase) := by
  have hself : (World.goTo { w with path } i phase).phase i = phase := Function.update_self ..
  refine hw.move i (fun j hj => Function.update_of_ne hj ..) rfl (fun j hj x hx => ?_)
    (fun _ _ _ _ => rfl) (by rw [hself]; exact hnone) ?_ (fun _ => halone) (Or.inr hrunning)
  · rw [halone j hj] at hx
    cases hx
  · rw [hself]
    exact fun n h => (hprobed n h).elim

/-- An instance closes its socket, if it has one. -/
lemma Owned.hangUp (hw : Owned w) {phase : Phase} (hnone : phase.inode = none)
    (hprobed : ∀ n, phase ≠ .probed n) (hout : ¬ Inside phase)
    (hrunning : phase = .stopped ∨ w.phase i ≠ .stopped) :
    Owned ((w.hangUp i).goTo i phase) := by
  have hself (v : World ι) : (v.goTo i phase).phase i = phase := Function.update_self ..
  have hphase : ((w.hangUp i).goTo i phase).phase i = phase := hself _
  have hcase : ∀ j, j ≠ i → ((w.hangUp i).goTo i phase).phase j = w.phase j := fun j hj => by
    refine (Function.update_of_ne hj ..).trans ?_
    unfold World.hangUp
    split <;> rfl
  refine hw.move i hcase ?_ (fun j hj x hx => ?_) (fun j hj x hx => ?_) ?_ ?_ ?_ ?_
  · unfold World.hangUp
    split <;> rfl
  · unfold World.hangUp
    split <;> rfl
  · unfold World.hangUp
    split
    · rename_i inode hinode
      refine Function.update_of_ne ?_ ..
      rintro rfl
      exact hj (hw.unique j i x hx hinode)
    · rfl
  · rw [hphase]
    exact hnone
  · rw [hphase]
    exact fun n h => (hprobed n h).elim
  · rw [hphase]
    exact fun h => (hout h).elim
  · rwa [hphase]

/-- The phase of an instance changes, and its socket stays. -/
lemma Owned.keep (hw : Owned w) {phase : Phase}
    (hphase : w'.phase = Function.update w.phase i phase)
    (hsame : phase.inode = (w.phase i).inode) (hprobed : ∀ n, phase ≠ .probed n)
    (hout : ¬ Inside phase) (hpath : w'.path = w.path)
    (haccepted : ∀ j x, (w.phase j).inode = some x → (j ≠ i → ¬ Inside (w.phase j)) →
      w'.accepting x = true)
    (hnamed : ∀ j x, w'.identity j = some x → w.identity j = some x ∨
      j = i ∧ (w.phase i).inode = some x)
    (hrunning : w.phase i ≠ .stopped) : Owned w' := by
  have hself : w'.phase i = phase := by rw [hphase]; exact Function.update_self ..
  have hother {j : ι} (hj : j ≠ i) : w'.phase j = w.phase j := by
    rw [hphase]
    exact Function.update_of_ne hj ..
  have hinode (j : ι) : (w'.phase j).inode = (w.phase j).inode := by
    by_cases hj : j = i
    · subst hj
      rw [hself, hsame]
    · rw [hother hj]
  refine ⟨fun j x h => ?_, fun j k x hj hk => ?_, fun j x h hquiet => ?_, fun j n h k hk => ?_,
    fun j hinside k hkj => ?_, fun j x hgoing h k hk => ?_⟩
  · rw [hpath]
    exact hw.path j x (hinode j ▸ h)
  · exact hw.unique j k x (hinode j ▸ hj) (hinode k ▸ hk)
  · exact haccepted j x (hinode j ▸ h) fun hj => hother hj ▸ hquiet
  · by_cases hj : j = i
    · subst hj
      exact (hprobed n (hself.symm.trans h)).elim
    · exact hw.probed j n ((hother hj).symm.trans h) k (hinode k ▸ hk)
  · by_cases hj : j = i
    · subst hj
      rw [hself] at hinside
      exact absurd hinside hout
    · rw [hinode k]
      exact hw.alone j (hother hj ▸ hinside) k hkj
  · rcases hnamed j x h with hold | ⟨rfl, hown⟩
    · refine hw.named j x ?_ hold k (hinode k ▸ hk)
      by_cases hj : j = i
      · subst hj
        exact hrunning
      · rwa [hother hj] at hgoing
    · exact hw.unique k j x (hinode k ▸ hk) hown

/-! ### Starting to own the path -/

omit [DecidableEq ι] in
/-- Nothing is at the path, so nobody has bound a socket. -/
lemma Owned.none_bound (hw : Owned w) (hpath : w.path = none) (j : ι) :
    (w.phase j).inode = none := by
  rcases hinode : (w.phase j).inode with _ | x
  · rfl
  · have hthere := hw.path j x hinode
    rw [hpath] at hthere
    cases hthere

lemma Owned.look (hw : Owned w) (h : w.step (i, .look) = some w') : Owned w' := by
  simp only [World.step] at h
  split at h
  · rename_i hidle hpath
    obtain rfl := Option.some.inj h
    exact hw.goTo rfl (by simp) (fun _ j _ => hw.none_bound hpath j) (by simp [hidle])
  · rename_i n hidle hpath
    obtain rfl := Option.some.inj h
    split
    · exact hw.goTo_out rfl (by simp) id (by simp [hidle])
    · exact hw.goTo_out rfl (by simp) id (by simp [hidle])
  · cases h

/-- Nobody has bound the socket that the probe has found dead. -/
lemma Owned.probe (hw : Owned w) {answer : Bool} (hcalm : Calm w i)
    (haccurate : answer = false → w.live = false)
    (h : w.step (i, .probe answer) = some w') : Owned w' := by
  simp only [World.step] at h
  split at h
  · rename_i n hseen
    cases answer with
    | true =>
      simp only [if_true, Option.ite_none_right_eq_some, Option.some.injEq] at h
      obtain ⟨-, rfl⟩ := h
      exact hw.goTo_out rfl (by simp) id (by simp [hseen])
    | false =>
      obtain rfl := Option.some.inj h
      have hdead : w.live = false := haccurate rfl
      refine hw.goTo rfl (fun m _ j hj hinode => ?_) (by simp [Inside]) (by simp [hseen])
      have hpath := hw.path j m.inode hinode
      have haccepted := hw.accepted j m.inode hinode (hcalm j hj)
      simp [World.live, hpath, haccepted] at hdead
  · cases h

lemma Owned.lookAgain (hw : Owned w) (h : w.step (i, .lookAgain) = some w') : Owned w' := by
  simp only [World.step] at h
  split at h
  · rename_i n hprobed
    obtain rfl := Option.some.inj h
    split
    · rename_i hpath
      refine hw.goTo rfl (by simp) (fun _ j _ => ?_) (by simp [hprobed])
      rcases hinode : (w.phase j).inode with _ | x
      · rfl
      · have hthere := hw.path j x hinode
        rw [hpath] at hthere
        obtain rfl := Option.some.inj hthere
        exact absurd hinode (hw.probed i _ hprobed j)
    · exact hw.goTo_out rfl (by simp) id (by simp [hprobed])
  · cases h

lemma Owned.unlink (hw : Owned w) (h : w.step (i, .unlink) = some w') : Owned w' := by
  simp only [World.step] at h
  split at h
  · rename_i hconfirmed hpath
    obtain rfl := Option.some.inj h
    exact hw.change rfl (by simp) (hw.alone i (by rw [hconfirmed]; trivial)) (by simp [hconfirmed])
  · rename_i hconfirmed hpath
    obtain rfl := Option.some.inj h
    exact hw.goTo_out rfl (by simp) id (by simp [hconfirmed])
  · cases h

lemma Owned.refuse (hw : Owned w) (h : w.step (i, .refuse) = some w') : Owned w' := by
  have hfailed (hrunning : w.phase i ≠ .stopped) (heq : some (w.goTo i .failed) = some w') :
      Owned w' := by
    obtain rfl := Option.some.inj heq
    exact hw.goTo_out rfl (by simp) id hrunning
  simp only [World.step] at h
  split at h
  · exact hfailed (by simp [*]) h
  · exact hfailed (by simp [*]) h
  · exact hfailed (by simp [*]) h
  · exact hfailed (by simp [*]) h
  · exact hfailed (by simp [*]) h
  · exact hfailed (by simp [*]) h
  · cases h

lemma Owned.clear (hw : Owned w) {removed : Bool} (h : w.step (i, .clear removed) = some w') :
    Owned w' := by
  simp only [World.step] at h
  split at h
  · rename_i hfree hpath
    obtain rfl := Option.some.inj h
    exact hw.change rfl (by simp) (hw.alone i (by rw [hfree]; trivial)) (by simp [hfree])
  · rename_i hfree _
    obtain rfl := Option.some.inj h
    exact hw.goTo rfl (by simp) (fun _ => hw.alone i (by rw [hfree]; trivial)) (by simp [hfree])
  · cases h

/-- The only socket that is bound is the new one, and nobody takes it for another. -/
lemma owned_bound {inode : ℕ} (halone : ∀ j, j ≠ i → (w.phase j).inode = none)
    (hcalm : Calm w i) (hnew : ∀ j, j ≠ i → ¬ Recalls w j inode) :
    Owned ({ w with path := some ⟨inode, true⟩ }.goTo i (.bound inode)) := by
  set w' : World ι := World.goTo { w with path := some ⟨inode, true⟩ } i (.bound inode)
  have hself : w'.phase i = .bound inode := Function.update_self ..
  have hother {j : ι} (hj : j ≠ i) : w'.phase j = w.phase j := Function.update_of_ne hj ..
  have howner {j : ι} {x : ℕ} (h : (w'.phase j).inode = some x) : j = i ∧ x = inode := by
    by_cases hj : j = i
    · subst hj
      rw [hself] at h
      exact ⟨rfl, (Option.some.inj h).symm⟩
    · rw [hother hj, halone j hj] at h
      cases h
  refine ⟨fun j x h => ?_, fun j k x hj hk => ?_, fun j x h hout => ?_, fun j n h k hk => ?_,
    fun j hinside k hkj => ?_, fun j x hgoing h k hk => ?_⟩
  · rw [(howner h).2]
    rfl
  · rw [(howner hj).1, (howner hk).1]
  · obtain ⟨rfl, -⟩ := howner h
    rw [hself] at hout
    exact absurd trivial hout
  · by_cases hj : j = i
    · subst hj
      rw [hself] at h
      cases h
    · rw [hother hj] at h
      have hrecalls := hnew j hj
      rw [Recalls, h] at hrecalls
      exact hrecalls (Or.inl (howner hk).2)
  · by_cases hj : j = i
    · subst hj
      rw [hother hkj]
      exact halone k hkj
    · rw [hother hj] at hinside
      exact absurd hinside (hcalm j hj)
  · obtain ⟨rfl, rfl⟩ := howner hk
    by_contra hne
    have hj : j ≠ k := fun heq => hne heq.symm
    rw [hother hj] at hgoing
    refine hnew j hj ?_
    unfold Recalls
    split
    · exact Or.inr h
    · exact Or.inr h
    · rename_i hstopped
      exact absurd hstopped hgoing
    · exact h

lemma Owned.bind (hw : Owned w) {inode : ℕ} (hcalm : Calm w i)
    (hnew : ∀ j, j ≠ i → ¬ Recalls w j inode) (h : w.step (i, .bind inode) = some w') :
    Owned w' := by
  simp only [World.step] at h
  split at h
  · rename_i hcleared hpath
    obtain rfl := Option.some.inj h
    exact owned_bound (hw.alone i (by rw [hcleared]; trivial)) hcalm hnew
  · rename_i hcleared hpath
    obtain rfl := Option.some.inj h
    exact hw.goTo_out rfl (by simp) id (by simp [hcleared])
  · cases h

lemma Owned.listen (hw : Owned w) (h : w.step (i, .listen) = some w') : Owned w' := by
  simp only [World.step] at h
  split at h
  · rename_i inode hbound
    obtain rfl := Option.some.inj h
    refine hw.keep rfl (by rw [hbound]; rfl) (by simp) id rfl (fun j x hown hout => ?_)
      (fun j x hnamed => Or.inl hnamed) (by simp [hbound])
    by_cases hx : x = inode
    · subst hx
      exact Function.update_self ..
    · have hj : j ≠ i := by
        rintro rfl
        rw [hbound] at hown
        exact hx (Option.some.inj hown).symm
      exact (Function.update_of_ne hx ..).trans (hw.accepted j x hown (hout hj))
  · cases h

/-- The identity that an instance takes is that of its own socket. -/
lemma Owned.identify (hw : Owned w) (hcalm : Calm w i)
    (h : w.step (i, .identify) = some w') : Owned w' := by
  simp only [World.step] at h
  split at h
  · rename_i inode n hlistening hpath
    obtain rfl := Option.some.inj h
    have hown := hw.path i inode (by rw [hlistening]; rfl)
    rw [hpath] at hown
    obtain rfl := Option.some.inj hown
    refine hw.keep rfl (by rw [hlistening]; rfl) (by simp) id rfl
      (fun j x h _ => hw.accepted j x h ?_) (fun j x h => ?_) (by simp [hlistening])
    · by_cases hj : j = i
      · rw [hj, hlistening]
        exact id
      · exact hcalm j hj
    · by_cases hj : j = i
      · subst hj
        have hself : Function.update w.identity j (some inode) j = some x := h
        rw [Function.update_self] at hself
        exact Or.inr ⟨rfl, by rw [hlistening]; exact hself⟩
      · exact Or.inl ((Function.update_of_ne hj ..).symm.trans h)
  · rename_i inode hlistening hpath
    have hown := hw.path i inode (by rw [hlistening]; rfl)
    rw [hpath] at hown
    cases hown
  · cases h

/-! ### Giving the path up -/

lemma Owned.close (hw : Owned w) (h : w.step (i, .close) = some w') : Owned w' := by
  have hclosed (hrunning : w.phase i ≠ .stopped)
      (heq : some ((w.hangUp i).goTo i .closed) = some w') : Owned w' := by
    obtain rfl := Option.some.inj heq
    exact hw.hangUp rfl (by simp) id (Or.inr hrunning)
  simp only [World.step] at h
  split at h
  · exact hclosed (by simp [*]) h
  · exact hclosed (by simp [*]) h
  · exact hclosed (by simp [*]) h
  · exact hclosed (by simp [*]) h
  · cases h

/-- What an instance finds at the path under its own identity is nobody else's. -/
lemma Owned.check (hw : Owned w) (h : w.step (i, .check) = some w') : Owned w' := by
  simp only [World.step] at h
  split at h
  · rename_i n hclosed hpath
    obtain rfl := Option.some.inj h
    have hrunning : w.phase i ≠ .stopped := by simp [hclosed]
    split
    · rename_i hown
      refine hw.goTo rfl (by simp) (fun _ j hj => ?_) hrunning
      rcases hinode : (w.phase j).inode with _ | x
      · rfl
      · have hthere := hw.path j x hinode
        rw [hpath] at hthere
        obtain rfl := Option.some.inj hthere
        exact absurd (hw.named i _ hrunning hown.2 j hinode) hj
    · exact hw.goTo_out rfl (by simp) id hrunning
  · rename_i hclosed hpath
    obtain rfl := Option.some.inj h
    exact hw.goTo_out rfl (by simp) id (by simp [hclosed])
  · cases h

lemma Owned.remove (hw : Owned w) {removed : Bool} (h : w.step (i, .remove removed) = some w') :
    Owned w' := by
  simp only [World.step] at h
  split at h
  · rename_i hleaving
    obtain rfl := Option.some.inj h
    exact hw.change rfl (by simp) (hw.alone i (by rw [hleaving]; trivial)) (by simp [hleaving])
  · cases h

lemma Owned.crash (hw : Owned w) (h : w.step (i, .crash) = some w') : Owned w' := by
  simp only [World.step] at h
  obtain rfl := Option.some.inj h
  exact hw.hangUp rfl (by simp) id (Or.inl rfl)

/-- What one step keeps. -/
lemma owned_step {a : ι × Act} (hw : Owned w) (ha : Undisturbed w a) (hnew : Unmistaken w a)
    (h : w.step a = some w') : Owned w' := by
  obtain ⟨i, act⟩ := a
  cases act with
  | look => exact hw.look h
  | probe answer =>
    exact hw.probe (ha.calm (by simp)) (fun hfalse => ha.accurate (by rw [hfalse])) h
  | lookAgain => exact hw.lookAgain h
  | unlink => exact hw.unlink h
  | refuse => exact hw.refuse h
  | clear removed => exact hw.clear h
  | bind inode => exact hw.bind (ha.calm (by simp)) hnew h
  | listen => exact hw.listen h
  | identify => exact hw.identify (ha.calm (by simp)) h
  | close => exact hw.close h
  | check => exact hw.check h
  | remove removed => exact hw.remove h
  | crash => exact hw.crash h

/-- **The path has one owner.** Whatever instances start, stop and crash in turn, whoever has bound
its socket and not closed it finds it at the path, and there is one of them at most; so long as no
other step comes between a check and its change, no probe fails where someone listens, and no inode
number comes back that an instance still compares with. -/
theorem one_owner {left : Option Node} {as : List (ι × Act)}
    (h : Run World.step (fun w a => Undisturbed w a ∧ Unmistaken w a) (.init left) as w) :
    (∀ i x, (w.phase i).inode = some x → w.path = some ⟨x, true⟩) ∧
      ∀ i j, (w.phase i).inode ≠ none → (w.phase j).inode ≠ none → i = j := by
  have hw : Owned w :=
    h.invariant (owned_init left) fun _ _ _ hw ha hs => owned_step hw ha.1 ha.2 hs
  refine ⟨hw.path, fun i j hi hj => ?_⟩
  obtain ⟨x, hx⟩ := Option.ne_none_iff_exists'.mp hi
  obtain ⟨y, hy⟩ := Option.ne_none_iff_exists'.mp hj
  have hpath := (hw.path i x hx).symm.trans (hw.path j y hy)
  obtain rfl : x = y := by simpa using hpath
  exact hw.unique i j x hx hy

/-- Two starts that overlap find no socket, and the second removes that of the first. -/
example : (exec World.step (fun _ _ => true) (World.init none)
    [(true, .look), (false, .look), (true, .clear true), (true, .bind 0), (true, .listen),
      (true, .identify), (false, .clear true), (false, .bind 1), (false, .listen),
      (false, .identify)]).map (fun w => (w.phase true, w.phase false, w.path)) =
    some (.serving 0, .serving 1, some ⟨1, true⟩) := by decide

/-- An instance that stops takes a socket that has got the inode number of its own for its own. -/
example : (exec World.step (fun _ _ => true) (World.init none)
    [(true, .look), (true, .clear true), (true, .bind 0), (true, .listen), (true, .identify),
      (true, .close), (false, .look), (false, .probe false), (false, .lookAgain), (false, .unlink),
      (false, .clear true), (false, .bind 0), (false, .listen), (false, .identify),
      (true, .check), (true, .remove true)]).map (fun w => (w.phase false, w.path)) =
    some (.serving 0, none) := by decide

instance : DecidablePred Inside := fun phase => by
  unfold Inside
  split <;> infer_instance

instance (w : World ι) (j : ι) (x : ℕ) : Decidable (Recalls w j x) := by
  unfold Recalls
  split <;> infer_instance

instance [Fintype ι] (w : World ι) (i : ι) : Decidable (Calm w i) :=
  inferInstanceAs (Decidable (∀ j, j ≠ i → ¬ Inside (w.phase j)))

instance [Fintype ι] (w : World ι) (a : ι × Act) : Decidable (Undisturbed w a) :=
  decidable_of_iff ((a.2 ≠ .crash → Calm w a.1) ∧ (a.2 = .probe false → w.live = false))
    ⟨fun h => ⟨h.1, h.2⟩, fun h => ⟨h.calm, h.accurate⟩⟩

instance [Fintype ι] (w : World ι) (a : ι × Act) : Decidable (Unmistaken w a) := by
  unfold Unmistaken
  split <;> infer_instance

/-- The first instance crashes, and the second takes over its path and the number of its inode. -/
def takeOver : List (Bool × Act) :=
  [(true, .look), (true, .clear true), (true, .bind 0), (true, .listen), (true, .identify),
    (true, .crash), (false, .look), (false, .probe false), (false, .lookAgain), (false, .unlink),
    (false, .clear true), (false, .bind 0), (false, .listen), (false, .identify)]

theorem one_owner_takeOver : ∃ w : World Bool, w.phase false = .serving 0 ∧
    w.path = some ⟨0, true⟩ := by
  obtain ⟨w, hexec, hserving⟩ : ∃ w,
      exec World.step (fun w a => decide (Undisturbed w a ∧ Unmistaken w a))
        (World.init none) takeOver = some w ∧ w.phase false = .serving 0 := ⟨_, rfl, rfl⟩
  have hrun := run_of_exec (C := fun w a => Undisturbed w a ∧ Unmistaken w a)
    (fun _ _ => of_decide_eq_true) _ _ hexec
  exact ⟨w, hserving, (one_owner hrun).1 false 0 (by rw [hserving]; rfl)⟩

/-! ### Starting -/

/-- What `start` does when none of its calls is refused and nobody listens at the path. -/
def startActs (path : Option Node) (inode : ℕ) : List Act :=
  match path with
  | none => [.look, .clear true, .bind inode, .listen, .identify]
  | some _ =>
    [.look, .probe false, .lookAgain, .unlink, .clear true, .bind inode, .listen, .identify]

/-- A step of who is not disturbed, after some of its steps. -/
lemma Calm.snoc {v : World ι} {acts : List Act} (h : Calm v i) (act : Act) (w' : World ι)
    (hrun : Run World.step Undisturbed v (acts.map fun act => (i, act)) w ∧
      ∀ j, j ≠ i → w.phase j = v.phase j)
    (hprobe : act = .probe false → w.live = false) (hs : w.step (i, act) = some w')
    (hphase : ∀ j, j ≠ i → w'.phase j = w.phase j) :
    Run World.step Undisturbed v ((acts ++ [act]).map fun act => (i, act)) w' ∧
      ∀ j, j ≠ i → w'.phase j = v.phase j := by
  obtain ⟨hrun, hothers⟩ := hrun
  refine ⟨?_, fun j hj => (hphase j hj).trans (hothers j hj)⟩
  rw [List.map_append]
  refine hrun.snoc ⟨fun _ j hj => ?_, hprobe⟩ hs
  rw [hothers j hj]
  exact h j hj

/-- The second half of a start, in which the path is empty. -/
lemma finish_start {v : World ι} {acts : List Act} (h : Calm v i)
    (hrun : Run World.step Undisturbed v (acts.map fun act => (i, act)) w ∧
      ∀ j, j ≠ i → w.phase j = v.phase j) (hfree : w.phase i = .free) (hpath : w.path = none)
    (inode : ℕ) :
    ∃ w' : World ι,
      Run World.step Undisturbed v
        ((acts ++ [Act.clear true, .bind inode, .listen, .identify]).map fun act => (i, act)) w' ∧
      w'.phase i = .serving inode ∧ w'.path = some ⟨inode, true⟩ := by
  set w₁ := w.goTo i .cleared with hw₁
  set w₂ := World.goTo { w₁ with path := some ⟨inode, true⟩ } i (.bound inode) with hw₂
  set w₃ := World.goTo { w₂ with accepting := Function.update w₂.accepting inode true } i
    (.listening inode) with hw₃
  set w₄ := World.goTo { w₃ with identity := Function.update w₃.identity i (some inode) } i
    (.serving inode) with hw₄
  have h₁ : w₁.phase i = .cleared := Function.update_self ..
  have h₂ : w₂.phase i = .bound inode := Function.update_self ..
  have h₃ : w₃.phase i = .listening inode := Function.update_self ..
  have hpath₁ : w₁.path = none := hpath
  have hpath₃ : w₃.path = some ⟨inode, true⟩ := rfl
  have hclear := h.snoc (.clear true) w₁ hrun (by simp)
    (by simp only [World.step, hfree, hpath]; rfl) fun j hj => Function.update_of_ne hj ..
  have hbind := h.snoc (.bind inode) w₂ hclear (by simp)
    (by simp only [World.step, h₁, hpath₁]; rfl) fun j hj => Function.update_of_ne hj ..
  have hlisten := h.snoc .listen w₃ hbind (by simp)
    (by simp only [World.step, h₂]; rfl) fun j hj => Function.update_of_ne hj ..
  have hidentify := h.snoc .identify w₄ hlisten (by simp)
    (by simp only [World.step, h₃, hpath₃]; rfl) fun j hj => Function.update_of_ne hj ..
  refine ⟨w₄, ?_, Function.update_self .., rfl⟩
  have hrun' := hidentify.1
  simp only [List.append_assoc, List.cons_append, List.nil_append] at hrun'
  exact hrun'

/-- **What a dead instance has left is no obstacle.** Where nobody listens on the socket at the
path, `start` left to itself, none of whose calls is refused, comes to serve a socket of its own
there. -/
theorem start_succeeds (w : World ι) (i : ι) (hidle : w.phase i = .idle) (h : Calm w i)
    (hdead : w.live = false) (hsocket : ∀ n, w.path = some n → n.isSocket = true) (inode : ℕ) :
    ∃ w' : World ι,
      Run World.step Undisturbed w ((startActs w.path inode).map fun act => (i, act)) w' ∧
      w'.phase i = .serving inode ∧ w'.path = some ⟨inode, true⟩ := by
  have hbegin : Run World.step Undisturbed w (([] : List Act).map fun act => (i, act)) w ∧
      ∀ j, j ≠ i → w.phase j = w.phase j := ⟨.nil, fun _ _ => rfl⟩
  rcases hpath : w.path with _ | n
  · have hlook := h.snoc .look (w.goTo i .free) hbegin (by simp)
      (by simp only [World.step, hidle, hpath]) fun j hj => Function.update_of_ne hj ..
    have hfree : (w.goTo i .free).phase i = .free := Function.update_self ..
    exact finish_start h hlook hfree hpath inode
  · set w₁ := w.goTo i (.seen n) with hw₁
    set w₂ := w₁.goTo i (.probed n) with hw₂
    set w₃ := w₂.goTo i .confirmed with hw₃
    set w₄ := World.goTo { w₃ with path := none } i .free with hw₄
    have h₁ : w₁.phase i = .seen n := Function.update_self ..
    have h₂ : w₂.phase i = .probed n := Function.update_self ..
    have h₃ : w₃.phase i = .confirmed := Function.update_self ..
    have hpath₂ : w₂.path = some n := hpath
    have hpath₃ : w₃.path = some n := hpath
    have hlook := h.snoc .look w₁ hbegin (by simp)
      (by simp only [World.step, hidle, hpath, hsocket n hpath, if_true]; rfl)
      fun j hj => Function.update_of_ne hj ..
    have hprobe := h.snoc (.probe false) w₂ hlook (fun _ => hdead)
      (by simp only [World.step, h₁, Bool.false_eq_true, if_false]; rfl)
      fun j hj => Function.update_of_ne hj ..
    have hagain := h.snoc .lookAgain w₃ hprobe (by simp)
      (by simp only [World.step, h₂, hpath₂, if_true]; rfl) fun j hj => Function.update_of_ne hj ..
    have hunlink := h.snoc .unlink w₄ hagain (by simp)
      (by simp only [World.step, h₃, hpath₃]; rfl) fun j hj => Function.update_of_ne hj ..
    have hfree : w₄.phase i = .free := Function.update_self ..
    exact finish_start h hunlink hfree rfl inode

/-- A socket that nobody listens on is replaced. -/
theorem start_succeeds_stale : ∃ w' : World Bool, w'.phase true = .serving 6 ∧
    w'.path = some ⟨6, true⟩ := by
  obtain ⟨w', -, hserving, hpath⟩ := start_succeeds (World.init (some ⟨5, true⟩)) true rfl
    (fun _ _ => id) rfl (fun n hn => by obtain rfl := Option.some.inj hn; rfl) 6
  exact ⟨w', hserving, hpath⟩

end HermesRealtime.SocketOwnership
