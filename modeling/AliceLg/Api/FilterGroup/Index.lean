import AliceLg.Api.FilterGroup
import Mathlib.Data.List.Nodup

/-!
# The index of a filter group

A group is consistent when no two of its filters render to the same canonical string and its
index maps a string to a position exactly when the filter there renders to it. On a consistent
group the index is a transparent cache: `AddFilter` does what `countIn` does on the filters alone
(increment the filter with the same canonical string, or append the new one with cardinality
one) and keeps the group consistent, and `rebuildIndex` makes any group with distinct canonical
strings consistent.
-/

namespace AliceLg

/-- The canonical strings of filters, in order. -/
def refsOf (filters : List SearchFilter) : List String :=
  filters.map fun f => filterValueAsString f.value

@[simp] lemma refsOf_nil : refsOf [] = [] := rfl

@[simp] lemma refsOf_cons (f : SearchFilter) (fs : List SearchFilter) :
    refsOf (f :: fs) = filterValueAsString f.value :: refsOf fs := rfl

@[simp] lemma refsOf_append (fs gs : List SearchFilter) :
    refsOf (fs ++ gs) = refsOf fs ++ refsOf gs := List.map_append _ _ _

@[simp] lemma length_refsOf (fs : List SearchFilter) : (refsOf fs).length = fs.length :=
  List.length_map _ _

/-- `idx` maps a string to a position exactly when the filter there renders to it. -/
def IndexOf (idx : String → Option Nat) (filters : List SearchFilter) : Prop :=
  ∀ s i, idx s = some i ↔ (refsOf filters)[i]? = some s

/-- The representation invariant of a group: distinct canonical strings, and the index their
inverse. -/
structure SearchFilterGroup.Consistent (g : SearchFilterGroup) : Prop where
  nodup : (refsOf g.filters).Nodup
  index : IndexOf g.filtersIdx g.filters

lemma SearchFilterGroup.consistent_empty (key : String) :
    (SearchFilterGroup.empty key).Consistent :=
  ⟨List.nodup_nil, fun _ _ => by simp [SearchFilterGroup.empty]⟩

/-- Indexing a new filter at the end keeps the index the inverse of the positions. -/
lemma IndexOf.append {idx : String → Option Nat} {fs : List SearchFilter} (h : IndexOf idx fs)
    (f : SearchFilter) (hf : filterValueAsString f.value ∉ refsOf fs) :
    IndexOf (Function.update idx (filterValueAsString f.value) (some fs.length)) (fs ++ [f]) := by
  intro s i
  rw [refsOf_append, List.getElem?_append]
  by_cases hs : s = filterValueAsString f.value
  · subst hs
    simp only [Function.update_same, Option.some.injEq]
    constructor
    · rintro rfl
      simp
    · intro hi
      by_contra hne
      rcases Nat.lt_or_ge i fs.length with hlt | hge
      · simp only [length_refsOf, hlt, if_true] at hi
        exact hf (List.getElem?_mem hi)
      · have : i - fs.length ≠ 0 := by omega
        simp [Nat.not_lt.2 hge, List.getElem?_cons, this] at hi
  · rw [Function.update_noteq hs, h s i]
    rcases Nat.lt_or_ge i fs.length with hlt | hge
    · simp [hlt]
    · rw [List.getElem?_eq_none (by simpa using hge)]
      simp only [length_refsOf, Nat.not_lt.2 hge, if_false, refsOf_cons, refsOf_nil,
        List.getElem?_cons, reduceCtorEq, false_iff]
      split_ifs
      · exact fun h => hs (Option.some.inj h).symm
      · simp

/-! ### `AddFilter` -/

/-- `AddFilter` on the filters alone: the filter with the same canonical string has its
cardinality incremented, or the new filter is appended with cardinality one. -/
def countIn (f : SearchFilter) : List SearchFilter → List SearchFilter
  | [] => [{ f with cardinality := 1 }]
  | x :: xs =>
    if filterValueAsString x.value = filterValueAsString f.value then
      { x with cardinality := x.cardinality + 1 } :: xs
    else x :: countIn f xs

lemma countIn_of_not_mem {f : SearchFilter} :
    ∀ {fs : List SearchFilter}, filterValueAsString f.value ∉ refsOf fs →
      countIn f fs = fs ++ [{ f with cardinality := 1 }]
  | [], _ => rfl
  | x :: xs, h => by
    simp only [refsOf_cons, List.mem_cons, not_or] at h
    simp [countIn, Ne.symm h.1, countIn_of_not_mem h.2]

lemma countIn_of_getElem? {f : SearchFilter} :
    ∀ {fs : List SearchFilter} {i : Nat} {x : SearchFilter}, (refsOf fs).Nodup → fs[i]? = some x →
      filterValueAsString x.value = filterValueAsString f.value →
      countIn f fs = fs.set i { x with cardinality := x.cardinality + 1 }
  | [], _, _, _, hi, _ => by simp at hi
  | y :: ys, 0, x, _, hi, hx => by
    simp only [List.getElem?_cons_zero, Option.some.injEq] at hi
    subst hi
    simp [countIn, hx]
  | y :: ys, i + 1, x, hnd, hi, hx => by
    simp only [List.getElem?_cons_succ] at hi
    have hy : filterValueAsString y.value ≠ filterValueAsString f.value := fun hy =>
      (List.nodup_cons.1 hnd).1 (by
        show filterValueAsString y.value ∈ refsOf ys
        rw [hy, ← hx]
        exact List.mem_map_of_mem _ (List.getElem?_mem hi))
    simp [countIn, hy, countIn_of_getElem? (List.nodup_cons.1 hnd).2 hi hx]

/-- What holds of the values of the filters and of the new one holds of the values after
`countIn`: it adds no other value. -/
lemma countIn_values {Q : FilterValue → Prop} {f : SearchFilter} (hf : Q f.value) :
    ∀ {fs : List SearchFilter}, (∀ x ∈ fs, Q x.value) → ∀ x ∈ countIn f fs, Q x.value
  | [], _ => by simpa [countIn] using hf
  | y :: ys, h => by
    have hy := h y (List.mem_cons_self _ _)
    have hys := fun x hx => h x (List.mem_cons_of_mem y hx)
    unfold countIn
    split_ifs
    · simpa using ⟨hy, hys⟩
    · simpa using ⟨hy, countIn_values hf hys⟩

lemma foldl_countIn_values {Q : FilterValue → Prop} :
    ∀ {L acc : List SearchFilter}, (∀ x ∈ acc ++ L, Q x.value) →
      ∀ x ∈ L.foldl (fun acc f => countIn f acc) acc, Q x.value
  | [], _, h => fun x hx => h x (by simpa using hx)
  | f :: L, acc, h => foldl_countIn_values (L := L) fun x hx => by
    rcases List.mem_append.1 hx with hx | hx
    · exact countIn_values (h f (by simp)) (fun y hy => h y (List.mem_append_left _ hy)) x hx
    · exact h x (by simp [hx])

lemma countIn_ne_nil (f : SearchFilter) : ∀ fs : List SearchFilter, countIn f fs ≠ []
  | [] => List.cons_ne_nil _ _
  | x :: xs => by unfold countIn; split_ifs <;> exact List.cons_ne_nil _ _

/-- Counting filters in never empties the list, and counting one in makes it non-empty. -/
lemma foldl_countIn_ne_nil :
    ∀ {L a : List SearchFilter}, (a ≠ [] ∨ L ≠ []) →
      L.foldl (fun acc f => countIn f acc) a ≠ []
  | [], _, h => h.resolve_right fun h => h rfl
  | f :: _, a, _ => foldl_countIn_ne_nil (a := countIn f a) (.inl (countIn_ne_nil f a))

@[simp] lemma refsOf_countIn (f : SearchFilter) (fs : List SearchFilter) :
    refsOf (countIn f fs) =
      if filterValueAsString f.value ∈ refsOf fs then refsOf fs
      else refsOf fs ++ [filterValueAsString f.value] := by
  induction fs with
  | nil => rfl
  | cons x xs ih =>
    by_cases hx : filterValueAsString x.value = filterValueAsString f.value
    · simp [countIn, hx]
    · simp only [countIn, hx, if_false, refsOf_cons, ih, List.mem_cons, Ne.symm hx, false_or]
      split_ifs <;> rfl

lemma set_eq_self_of_getElem? {α : Type*} {l : List α} {i : Nat} {a : α}
    (h : l[i]? = some a) : l.set i a = l := by
  apply List.ext_getElem?
  intro j
  rw [List.getElem?_set]
  split_ifs with hij hi
  · subst hij; exact h.symm
  · subst hij; simp_all [List.getElem?_eq_none (Nat.not_lt.1 hi)]
  · rfl

namespace SearchFilterGroup

/-- On a consistent group `AddFilter` succeeds, does what `countIn` does to the filters, and keeps
the group consistent. -/
lemma addFilter_spec {g : SearchFilterGroup} (hg : g.Consistent) (f : SearchFilter) :
    ∃ g', g.addFilter f = some g' ∧ g'.key = g.key ∧ g'.filters = countIn f g.filters ∧
      g'.Consistent := by
  cases hidx : g.filtersIdx (filterValueAsString f.value) with
  | some i =>
    obtain ⟨x, hx, hxs⟩ : ∃ x, g.filters[i]? = some x ∧
        filterValueAsString x.value = filterValueAsString f.value := by
      have := (hg.index _ i).1 hidx
      simp only [refsOf, List.getElem?_map, Option.map_eq_some'] at this
      exact this
    have hrefs : refsOf (g.filters.set i { x with cardinality := x.cardinality + 1 }) =
        refsOf g.filters := by
      simp only [refsOf, List.map_set]
      exact set_eq_self_of_getElem? (by simp [List.getElem?_map, hx])
    have hadd : g.addFilter f = some { g with
        filters := g.filters.set i { x with cardinality := x.cardinality + 1 } } := by
      simp [addFilter, hidx, hx]
    refine ⟨_, hadd, rfl, (countIn_of_getElem? hg.nodup hx hxs).symm, ?_⟩
    exact ⟨hrefs ▸ hg.nodup, fun s j => hrefs ▸ hg.index s j⟩
  | none =>
    have hf : filterValueAsString f.value ∉ refsOf g.filters := fun hm => by
      obtain ⟨j, hj⟩ := List.getElem?_of_mem hm
      simp [(hg.index _ j).2 hj] at hidx
    have hadd : g.addFilter f = some { g with
        filters := g.filters ++ [{ f with cardinality := 1 }]
        filtersIdx := Function.update g.filtersIdx (filterValueAsString f.value)
          (some g.filters.length) } := by
      simp [addFilter, hidx]
    refine ⟨_, hadd, rfl, (countIn_of_not_mem hf).symm, ?_⟩
    refine ⟨?_, hg.index.append { f with cardinality := 1 } hf⟩
    simpa [List.nodup_append] using ⟨hg.nodup, hf⟩

/-- `AddFilters` on a consistent group: `countIn` for each filter in turn. -/
lemma addFilters_spec {g : SearchFilterGroup} (hg : g.Consistent) (fs : List SearchFilter) :
    ∃ g', g.addFilters fs = some g' ∧ g'.key = g.key ∧
      g'.filters = fs.foldl (fun acc f => countIn f acc) g.filters ∧ g'.Consistent := by
  induction fs generalizing g with
  | nil => exact ⟨g, rfl, rfl, rfl, hg⟩
  | cons f fs ih =>
    obtain ⟨g₁, h₁, hk₁, hf₁, hc₁⟩ := addFilter_spec hg f
    obtain ⟨g₂, h₂, hk₂, hf₂, hc₂⟩ := ih hc₁
    refine ⟨g₂, ?_, hk₂.trans hk₁, by rw [hf₂, hf₁]; rfl, hc₂⟩
    simpa [addFilters, h₁] using h₂

/-! ### `rebuildIndex` -/

/-- With distinct canonical strings, the loop of `rebuildIndex` extends an index of `pre` to one
of `pre ++ fs`. -/
lemma indexFrom_indexOf {idx : String → Option Nat} {pre fs : List SearchFilter}
    (h : IndexOf idx pre) (hnd : (refsOf (pre ++ fs)).Nodup) :
    IndexOf (indexFrom idx pre.length fs) (pre ++ fs) := by
  induction fs generalizing idx pre with
  | nil => simpa [indexFrom] using h
  | cons f fs ih =>
    have hf : filterValueAsString f.value ∉ refsOf pre := by
      simp only [refsOf_append, refsOf_cons, List.nodup_append, List.nodup_cons] at hnd
      exact fun hm => hnd.2.2 hm (List.mem_cons_self _ _)
    have := ih (h.append f hf) (by simpa using hnd)
    simpa [indexFrom] using this

/-- `rebuildIndex` makes a group with distinct canonical strings consistent. -/
lemma rebuildIndex_consistent {g : SearchFilterGroup} (hnd : (refsOf g.filters).Nodup) :
    g.rebuildIndex.Consistent :=
  have h₀ : IndexOf (fun _ => none) [] := fun _ _ => by simp
  ⟨hnd, by simpa using @indexFrom_indexOf _ [] g.filters h₀ (by simpa using hnd)⟩

end SearchFilterGroup

end AliceLg
