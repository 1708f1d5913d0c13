import Mathlib.Data.Finset.Card
import Mathlib.Data.List.Perm.Basic

/-!
A set that grows along a list of links until a whole pass over the list adds nothing. Whatever the
order of the list, what is added is what the links lead to, and the passes come to an end.
-/

namespace HermesRealtime.Saturation

variable {α : Type*}

/-- The links lead from the element to the start. -/
inductive Leads (links : List (α × α)) (start : α) : α → Prop
  | start : Leads links start start
  | link {x y : α} (hmem : (x, y) ∈ links) (h : Leads links start y) : Leads links start x

lemma Leads.mono {links links' : List (α × α)} (h : links ⊆ links') {start x : α}
    (hx : Leads links start x) : Leads links' start x := by
  induction hx with
  | start => exact .start
  | link hmem _ ih => exact .link (h hmem) ih

variable [DecidableEq α]

/-- One link of a pass: the element joins when what it links to has joined. -/
def visit (pass : Finset α × Bool) (link : α × α) : Finset α × Bool :=
  if link.1 ∉ pass.1 ∧ link.2 ∈ pass.1 then (insert link.1 pass.1, true) else pass

/-- A pass: the set after it, and whether it has changed. -/
def sweep (links : List (α × α)) (selected : Finset α) : Finset α × Bool :=
  links.foldl visit (selected, false)

lemma subset_visit (pass : Finset α × Bool) (link : α × α) : pass.1 ⊆ (visit pass link).1 := by
  unfold visit
  split
  · exact Finset.subset_insert _ _
  · exact Finset.Subset.refl _

lemma subset_foldl (links : List (α × α)) (pass : Finset α × Bool) :
    pass.1 ⊆ (links.foldl visit pass).1 := by
  induction links generalizing pass with
  | nil => exact Finset.Subset.refl _
  | cons link links ih => exact (subset_visit pass link).trans (ih _)

lemma subset_sweep (links : List (α × α)) (selected : Finset α) :
    selected ⊆ (sweep links selected).1 := subset_foldl links (selected, false)

/-- A pass that reports no change has found every link closed. -/
lemma foldl_unchanged {links : List (α × α)} {pass : Finset α × Bool}
    (h : (links.foldl visit pass).2 = false) :
    links.foldl visit pass = pass ∧ ∀ link ∈ links, link.2 ∈ pass.1 → link.1 ∈ pass.1 := by
  induction links generalizing pass with
  | nil => exact ⟨rfl, fun link hmem => absurd hmem (by simp)⟩
  | cons link links ih =>
    rw [List.foldl_cons] at h ⊢
    obtain ⟨hsame, hclosed⟩ := ih h
    by_cases hjoins : link.1 ∉ pass.1 ∧ link.2 ∈ pass.1
    · rw [hsame, visit, if_pos hjoins] at h
      cases h
    · have hvisit : visit pass link = pass := if_neg hjoins
      rw [hvisit] at hsame hclosed ⊢
      refine ⟨hsame, List.forall_mem_cons.mpr ⟨fun hmem => ?_, hclosed⟩⟩
      exact by_contra fun hout => hjoins ⟨hout, hmem⟩

/-- A pass that reports a change has added an element of the list. -/
lemma foldl_changed {links : List (α × α)} {pass : Finset α × Bool} (hpass : pass.2 = false)
    (h : (links.foldl visit pass).2 = true) :
    ∃ x ∈ links.map Prod.fst, x ∉ pass.1 ∧ x ∈ (links.foldl visit pass).1 := by
  induction links generalizing pass with
  | nil => exact absurd h (by simp [hpass])
  | cons link links ih =>
    rw [List.foldl_cons] at h ⊢
    by_cases hjoins : link.1 ∉ pass.1 ∧ link.2 ∈ pass.1
    · refine ⟨link.1, by simp, hjoins.1, subset_foldl links _ ?_⟩
      rw [visit, if_pos hjoins]
      exact Finset.mem_insert_self _ _
    · have hvisit : visit pass link = pass := if_neg hjoins
      rw [hvisit] at h ⊢
      obtain ⟨x, hmem, hx⟩ := ih hpass h
      exact ⟨x, List.mem_cons_of_mem _ hmem, hx⟩

/-- The elements of the list that have not joined are fewer after a pass with a change. -/
lemma sweep_decreases {links : List (α × α)} {selected : Finset α}
    (h : (sweep links selected).2 = true) :
    ((links.map Prod.fst).toFinset \ (sweep links selected).1).card <
      ((links.map Prod.fst).toFinset \ selected).card := by
  obtain ⟨x, hmem, hout, hin⟩ := foldl_changed rfl h
  refine Finset.card_lt_card (Finset.ssubset_iff_of_subset ?_ |>.mpr ⟨x, ?_, ?_⟩)
  · exact Finset.sdiff_subset_sdiff (Finset.Subset.refl _) (subset_sweep links selected)
  · exact Finset.mem_sdiff.mpr ⟨List.mem_toFinset.mpr hmem, hout⟩
  · exact fun hx => (Finset.mem_sdiff.mp hx).2 hin

/-- The passes, until one of them changes nothing. -/
def grow (links : List (α × α)) (selected : Finset α) : Finset α :=
  if _h : (sweep links selected).2 = true then grow links (sweep links selected).1
  else (sweep links selected).1
termination_by ((links.map Prod.fst).toFinset \ selected).card
decreasing_by exact sweep_decreases _h

/-! ### What has joined in the end -/

lemma visit_sound {links : List (α × α)} {start : α} {pass : Finset α × Bool} {link : α × α}
    (hlink : link ∈ links) (h : ∀ x ∈ pass.1, Leads links start x) :
    ∀ x ∈ (visit pass link).1, Leads links start x := by
  unfold visit
  split
  case isTrue hjoins =>
    intro x hx
    rcases Finset.mem_insert.mp hx with rfl | hold
    · exact .link hlink (h link.2 hjoins.2)
    · exact h x hold
  case isFalse => exact h

lemma sweep_sound {links : List (α × α)} {start : α} {selected : Finset α}
    (h : ∀ x ∈ selected, Leads links start x) :
    ∀ x ∈ (sweep links selected).1, Leads links start x := by
  have hfold : ∀ (rest : List (α × α)) (pass : Finset α × Bool), rest ⊆ links →
      (∀ x ∈ pass.1, Leads links start x) →
        ∀ x ∈ (rest.foldl visit pass).1, Leads links start x := by
    intro rest
    induction rest with
    | nil => exact fun _ _ hpass => hpass
    | cons link rest ih =>
      intro pass hsub hpass
      obtain ⟨hlink, hrest⟩ := List.cons_subset.mp hsub
      exact ih _ hrest (visit_sound hlink hpass)
  exact hfold links (selected, false) (List.Subset.refl _) h

lemma grow_sound {links : List (α × α)} {start : α} {selected : Finset α}
    (h : ∀ x ∈ selected, Leads links start x) :
    ∀ x ∈ grow links selected, Leads links start x := by
  induction selected using grow.induct links with
  | case1 selected hchanged ih =>
    rw [grow, dif_pos hchanged]
    exact ih (sweep_sound h)
  | case2 selected hdone =>
    rw [grow, dif_neg hdone]
    exact sweep_sound h

lemma subset_grow (links : List (α × α)) (selected : Finset α) :
    selected ⊆ grow links selected := by
  induction selected using grow.induct links with
  | case1 selected hchanged ih =>
    rw [grow, dif_pos hchanged]
    exact (subset_sweep links selected).trans ih
  | case2 selected hdone =>
    rw [grow, dif_neg hdone]
    exact subset_sweep links selected

lemma grow_closed (links : List (α × α)) (selected : Finset α) :
    ∀ link ∈ links, link.2 ∈ grow links selected → link.1 ∈ grow links selected := by
  induction selected using grow.induct links with
  | case1 selected hchanged ih =>
    rw [grow, dif_pos hchanged]
    exact ih
  | case2 selected hdone =>
    rw [grow, dif_neg hdone]
    obtain ⟨hsame, hclosed⟩ := foldl_unchanged (Bool.eq_false_iff.mpr hdone)
    have hpass : (sweep links selected).1 = selected := congrArg Prod.fst hsame
    rwa [hpass]

theorem mem_grow_iff {links : List (α × α)} {start x : α} :
    x ∈ grow links {start} ↔ Leads links start x := by
  constructor
  · refine grow_sound (fun y hy => ?_) x
    rw [Finset.mem_singleton.mp hy]
    exact .start
  · intro h
    induction h with
    | start => exact subset_grow links _ (Finset.mem_singleton_self start)
    | link hmem _ ih => exact grow_closed links _ _ hmem ih

/-- The order of the list does not matter. -/
lemma grow_perm {links links' : List (α × α)} (h : links.Perm links') (start : α) :
    grow links {start} = grow links' {start} := by
  ext x
  rw [mem_grow_iff, mem_grow_iff]
  exact ⟨Leads.mono h.subset, Leads.mono h.symm.subset⟩

end HermesRealtime.Saturation
