import Mathlib.Data.List.Basic

/-!
# Union by a relation

`Combine` appends to a group's filters each filter of the other group that no filter already
there is `Equal` to. Read on lists with `Equal` as a relation `r`, this is `unionBy r`. For a
transitive `r` it is a union (a value is found in the result exactly when it is found in either
side) and it is associative, even when `r` is not reflexive: an element related to nothing,
itself included, is appended wherever it appears.
-/

namespace AliceLg

variable {α : Type*} (r : α → α → Bool)

/-- `unionBy r acc fs` appends to `acc` each element of `fs` that no element of the
accumulated list relates to. -/
def unionBy (acc : List α) : List α → List α
  | [] => acc
  | f :: fs => if acc.any (r · f) then unionBy acc fs else unionBy (acc ++ [f]) fs

/-- The elements `unionBy r acc fs` appends. -/
def addedBy (acc : List α) : List α → List α
  | [] => []
  | f :: fs => if acc.any (r · f) then addedBy acc fs else f :: addedBy (acc ++ [f]) fs

/-- `x` is in `ys` or related from an element of `ys`. -/
def Covered (ys : List α) (x : α) : Prop := x ∈ ys ∨ ∃ y ∈ ys, r y x = true

variable {r}

lemma unionBy_eq_append (acc fs : List α) : unionBy r acc fs = acc ++ addedBy r acc fs := by
  induction fs generalizing acc with
  | nil => simp [unionBy, addedBy]
  | cons f fs ih => by_cases h : acc.any (r · f) <;> simp [unionBy, addedBy, h, ih]

lemma unionBy_append (acc xs ys : List α) :
    unionBy r acc (xs ++ ys) = unionBy r (unionBy r acc xs) ys := by
  induction xs generalizing acc with
  | nil => rfl
  | cons f fs ih => by_cases h : acc.any (r · f) <;> simp [unionBy, h, ih]

lemma addedBy_sublist (acc fs : List α) : (addedBy r acc fs).Sublist fs := by
  induction fs generalizing acc with
  | nil => exact List.Sublist.slnil
  | cons f fs ih =>
    by_cases h : acc.any (r · f) <;> simp only [addedBy, h, if_true, if_false]
    exacts [(ih acc).cons f, (ih _).cons₂ f]

lemma mem_unionBy {acc fs : List α} {x : α} (h : x ∈ unionBy r acc fs) : x ∈ acc ∨ x ∈ fs := by
  rw [unionBy_eq_append, List.mem_append] at h
  exact h.imp_right fun hx => (addedBy_sublist (r := r) acc fs).subset hx

lemma addedBy_congr {r' : α → α → Bool} {acc fs : List α}
    (h : ∀ x ∈ acc ++ fs, ∀ y ∈ fs, r x y = r' x y) : addedBy r acc fs = addedBy r' acc fs := by
  induction fs generalizing acc with
  | nil => rfl
  | cons f fs ih =>
    have hf : acc.any (r · f) = acc.any (r' · f) := by
      rw [Bool.eq_iff_iff, List.any_eq_true, List.any_eq_true]
      exact exists_congr fun x => and_congr_right fun hx => by
        rw [h x (by simp [hx]) f (List.mem_cons_self _ _)]
    have ih₁ : addedBy r acc fs = addedBy r' acc fs :=
      ih fun x hx y hy => h x (by simp at hx ⊢; tauto) y (by simp [hy])
    have ih₂ : addedBy r (acc ++ [f]) fs = addedBy r' (acc ++ [f]) fs :=
      ih fun x hx y hy => h x (by simp at hx ⊢; tauto) y (by simp [hy])
    simp only [addedBy, hf, ih₁, ih₂]

/-- Nothing is appended when every element is already related from the accumulator. -/
lemma addedBy_eq_nil {acc : List α} :
    ∀ {fs : List α}, (∀ f ∈ fs, acc.any (r · f) = true) → addedBy r acc fs = []
  | [], _ => rfl
  | f :: fs, h => by
    rw [addedBy, if_pos (h f (List.mem_cons_self _ _))]
    exact addedBy_eq_nil fun y hy => h y (List.mem_cons_of_mem f hy)

/-- Everything is appended when nothing relates to a later element. -/
lemma addedBy_of_pairwise :
    ∀ {acc fs : List α}, (∀ x ∈ acc, ∀ y ∈ fs, r x y = false) →
      fs.Pairwise (fun x y => r x y = false) → addedBy r acc fs = fs
  | _, [], _, _ => rfl
  | acc, f :: fs, h, hp => by
    rw [List.pairwise_cons] at hp
    have hf : acc.any (r · f) = false :=
      List.any_eq_false.2 fun x hx => by simp [h x hx f (List.mem_cons_self _ _)]
    rw [addedBy, if_neg (by simp [hf]), addedBy_of_pairwise (fun x hx y hy => ?_) hp.2]
    rcases List.mem_append.1 hx with hx | hx
    · exact h x hx y (List.mem_cons_of_mem f hy)
    · exact List.mem_singleton.1 hx ▸ hp.1 y hy

/-- For a relation that compares keys, what is appended from a list of distinct keys is the
elements whose key the accumulator does not hold. -/
lemma addedBy_eq_filter {β : Type*} [DecidableEq β] (d : α → β) :
    ∀ {acc fs : List α}, (∀ x ∈ acc ++ fs, ∀ y ∈ fs, r x y = decide (d x = d y)) →
      (fs.map d).Nodup → addedBy r acc fs = fs.filter fun f => d f ∉ acc.map d
  | _, [], _, _ => rfl
  | acc, f :: fs, h, hnd => by
    rw [List.map_cons, List.nodup_cons] at hnd
    have hsub : acc ++ [f] ⊆ acc ++ f :: fs := fun x hx => by simp at hx ⊢; tauto
    have h' : ∀ {acc' : List α}, acc' ⊆ acc ++ [f] → ∀ x ∈ acc' ++ fs, ∀ y ∈ fs,
        r x y = decide (d x = d y) := fun hs x hx y hy =>
      h x (List.append_subset.2 ⟨fun _ hz => hsub (hs hz), by simp⟩ hx) y
        (List.mem_cons_of_mem f hy)
    have hf : acc.any (r · f) = decide (d f ∈ acc.map d) := by
      rw [Bool.eq_iff_iff, List.any_eq_true, decide_eq_true_iff, List.mem_map]
      exact exists_congr fun x => and_congr_right fun hx => by
        rw [h x (List.mem_append_left _ hx) f (List.mem_cons_self _ _), decide_eq_true_iff]
    by_cases hmem : d f ∈ acc.map d
    · rw [addedBy, hf, if_pos (decide_eq_true hmem), List.filter_cons_of_neg (by simpa using hmem)]
      exact addedBy_eq_filter d (h' (List.subset_append_left _ _)) hnd.2
    · rw [addedBy, hf, if_neg (by simpa using hmem), List.filter_cons_of_pos (by simpa using hmem),
        addedBy_eq_filter d (h' (fun _ => id)) hnd.2]
      refine congrArg _ (List.filter_congr fun y hy => ?_)
      have hne : d y ≠ d f := fun e => hnd.1 (e ▸ List.mem_map_of_mem d hy)
      simp [hne]

lemma Covered.mono {ys zs : List α} {x : α} (h : Covered r ys x) (hs : ys ⊆ zs) :
    Covered r zs x :=
  h.imp (@hs x) fun ⟨y, hy, hyx⟩ => ⟨y, hs hy, hyx⟩

lemma prefix_unionBy (acc fs : List α) : acc ⊆ unionBy r acc fs := by
  rw [unionBy_eq_append]; exact List.subset_append_left _ _

/-- Each element of `fs` ends up in `unionBy r acc fs` or is related from an element there. -/
lemma covered_unionBy (acc fs : List α) : ∀ x ∈ fs, Covered r (unionBy r acc fs) x := by
  induction fs generalizing acc with
  | nil => simp
  | cons f fs ih =>
    intro x hx
    by_cases h : acc.any (r · f)
    · simp only [unionBy, h, if_true]
      rcases List.mem_cons.1 hx with rfl | hx
      · obtain ⟨y, hy, hyx⟩ := List.any_eq_true.1 h
        exact .inr ⟨y, prefix_unionBy acc fs hy, hyx⟩
      · exact ih acc x hx
    · simp only [unionBy, h, if_false, Bool.false_eq_true]
      rcases List.mem_cons.1 hx with rfl | hx
      · exact .inl (prefix_unionBy _ fs (by simp))
      · exact ih _ x hx

section Transitive

variable (htrans : ∀ x y z, r x y = true → r y z = true → r x z = true)
include htrans

lemma Covered.any_of_rel {ys : List α} {b c : α} (hb : Covered r ys b) (hbc : r b c = true) :
    ys.any (r · c) = true := by
  rcases hb with hb | ⟨y, hy, hyb⟩
  exacts [List.any_eq_true.2 ⟨b, hb, hbc⟩, List.any_eq_true.2 ⟨y, hy, htrans _ _ _ hyb hbc⟩]

/-- What `unionBy r bs cs` appends to `bs` adds nothing more to `ys` than `cs` does, once `ys`
covers `bs`. -/
lemma unionBy_addedBy {ys bs : List α} (cs : List α) (hcov : ∀ b ∈ bs, Covered r ys b) :
    unionBy r ys (addedBy r bs cs) = unionBy r ys cs := by
  induction cs generalizing ys bs with
  | nil => rfl
  | cons c cs ih =>
    by_cases hb : bs.any (r · c)
    · obtain ⟨b, hbm, hbc⟩ := List.any_eq_true.1 hb
      have hy : ys.any (r · c) = true := (hcov b hbm).any_of_rel htrans hbc
      simp only [addedBy, hb, if_true, unionBy, hy]
      exact ih hcov
    · simp only [addedBy, hb, if_false, Bool.false_eq_true, unionBy]
      by_cases hy : ys.any (r · c)
      · simp only [hy, if_true]
        refine ih fun x hx => ?_
        rcases List.mem_append.1 hx with hx | hx
        · exact hcov x hx
        · obtain ⟨y, hy, hyc⟩ := List.any_eq_true.1 hy
          exact .inr ⟨y, hy, List.mem_singleton.1 hx ▸ hyc⟩
      · simp only [hy, if_false, Bool.false_eq_true]
        refine ih fun x hx => ?_
        rcases List.mem_append.1 hx with hx | hx
        · exact (hcov x hx).mono (List.subset_append_left _ _)
        · exact .inl (by simp [List.mem_singleton.1 hx])

/-- `unionBy` is associative for a transitive relation. -/
lemma unionBy_assoc (as bs cs : List α) :
    unionBy r (unionBy r as bs) cs = unionBy r as (unionBy r bs cs) := by
  rw [unionBy_eq_append bs cs, unionBy_append,
    unionBy_addedBy htrans cs (covered_unionBy as bs)]

/-- An element relates to something in `unionBy r as bs` exactly when it relates to something in
`as` or in `bs`. -/
lemma any_unionBy (as bs : List α) (f : α) :
    (unionBy r as bs).any (r · f) = true ↔ as.any (r · f) = true ∨ bs.any (r · f) = true := by
  constructor
  · intro h
    obtain ⟨x, hx, hxf⟩ := List.any_eq_true.1 h
    exact (mem_unionBy hx).imp (fun hx => List.any_eq_true.2 ⟨x, hx, hxf⟩)
      fun hx => List.any_eq_true.2 ⟨x, hx, hxf⟩
  · rintro (h | h)
    · obtain ⟨x, hx, hxf⟩ := List.any_eq_true.1 h
      exact List.any_eq_true.2 ⟨x, prefix_unionBy as bs hx, hxf⟩
    · obtain ⟨x, hx, hxf⟩ := List.any_eq_true.1 h
      exact (covered_unionBy as bs x hx).any_of_rel htrans hxf

end Transitive

/-- If no element of `acc` relates to a later one, neither does any element of the union. -/
lemma pairwise_unionBy {acc : List α} (h : acc.Pairwise fun x y => r x y = false) (fs : List α) :
    (unionBy r acc fs).Pairwise fun x y => r x y = false := by
  induction fs generalizing acc with
  | nil => exact h
  | cons f fs ih =>
    by_cases hf : acc.any (r · f)
    · simpa [unionBy, hf] using ih h
    · simp only [unionBy, hf, if_false, Bool.false_eq_true]
      refine ih (List.pairwise_append.2 ⟨h, List.pairwise_singleton _ _, ?_⟩)
      intro x hx y hy
      rw [List.mem_singleton.1 hy]
      simpa using List.any_eq_false.1 (Bool.eq_false_iff.2 hf) x hx

end AliceLg
