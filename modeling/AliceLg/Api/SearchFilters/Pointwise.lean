import AliceLg.Api.SearchFilters
import AliceLg.Api.FilterGroup.Lookup
import AliceLg.Api.SearchFilters.Union

/-!
# Position by position

`Combine`, `Sub` and `MergeProperties` pair the groups of two sets by position and run a loop
over their filters that asks `Equal`. On sets whose groups hold values of their facet's kind,
`Equal` never panics and answers `Same`, so each loop computes a total list function: `unionBy`,
a `filter` and a `map`. This module proves those refinements once; the laws of the three
operations are stated on top of them.
-/

namespace AliceLg

/-- `Same` on the values of two filters, as a relation. -/
def SearchFilter.same (x f : SearchFilter) : Bool := decide (x.value.Same f.value)

lemma SearchFilter.same_trans {x y z : SearchFilter} (h₁ : x.same y = true) (h₂ : y.same z = true) :
    x.same z = true := by
  simp only [SearchFilter.same, decide_eq_true_eq] at *
  exact h₁.trans h₂

lemma SearchFilter.same_comm (x y : SearchFilter) : x.same y = y.same x := by
  simp only [SearchFilter.same, Bool.decide_iff_dist]
  exact decide_eq_decide.2 ⟨FilterValue.Same.symm, FilterValue.Same.symm⟩

lemma SearchFilter.same_self {x : SearchFilter} (h : x.value.IsTriple) : x.same x = true := by
  simpa [SearchFilter.same] using h

namespace SearchFilterGroup

/-- The value of `f` is present in `g`: some filter of `g` is `Equal` to it. -/
def Present (g : SearchFilterGroup) (f : SearchFilter) : Prop :=
  ∃ x ∈ g.filters, x.equal f = some true

/-- No two filters of `g` are `Equal`. -/
def DupFree (g : SearchFilterGroup) : Prop :=
  g.filters.Pairwise fun x y => x.equal y ≠ some true

instance (g : SearchFilterGroup) (f : SearchFilter) : Decidable (g.Present f) :=
  inferInstanceAs (Decidable (∃ x ∈ g.filters, x.equal f = some true))

instance (g : SearchFilterGroup) : Decidable g.DupFree :=
  inferInstanceAs (Decidable (g.filters.Pairwise fun x y : SearchFilter => x.equal y ≠ some true))

end SearchFilterGroup

/-- `s` has the six groups in the fixed order, and each value `v` in the group of facet `k`
satisfies `Q k v`. -/
structure SearchFilters.Typed (Q : SearchKey → FilterValue → Prop) (s : SearchFilters) : Prop where
  keys : s.map SearchFilterGroup.key = SearchKey.all.map SearchKey.toString
  values : ∀ (k : SearchKey) (g : SearchFilterGroup), s[k.position]? = some g →
    ∀ f ∈ g.filters, Q k f.value

/-- `s` has the six groups in the fixed order, each holding values of its facet's kind, `*string`
ones from the pool `P`. -/
def SearchFilters.OfKinds (P : StringPool) (s : SearchFilters) : Prop :=
  s.Typed fun k => k.OfKind P

/-- `s` has the six groups in the fixed order, each holding values the builders admit into it. -/
def SearchFilters.Admitted (P : StringPool) (s : SearchFilters) : Prop :=
  s.Typed fun k => k.Admits P

lemma SearchFilters.Typed.mono {Q Q' : SearchKey → FilterValue → Prop} {s : SearchFilters}
    (h : s.Typed Q) (hQ : ∀ k v, Q k v → Q' k v) : s.Typed Q' :=
  ⟨h.keys, fun k g hg f hf => hQ k _ (h.values k g hg f hf)⟩

lemma SearchFilters.Admitted.ofKinds {P : StringPool} {s : SearchFilters} (h : s.Admitted P) :
    s.OfKinds P :=
  SearchFilters.Typed.mono h fun _ _ => SearchKey.Admits.toOfKind

/-- A pairing of the groups of two sets succeeds, group by group, when each pair does. -/
lemma SearchFilters.zipGroups_eq_zipWith
    {op : SearchFilterGroup → SearchFilterGroup → Option SearchFilterGroup}
    {op' : SearchFilterGroup → SearchFilterGroup → SearchFilterGroup} :
    ∀ {A B : SearchFilters}, A.length ≤ B.length →
      (∀ (i : Nat) a b, A[i]? = some a → B[i]? = some b → op a b = some (op' a b)) →
      zipGroups op A B = some (List.zipWith op' A B)
  | [], _, _, _ => rfl
  | _ :: _, [], h, _ => by simp at h
  | a :: A, b :: B, h, hop => by
    have ih := zipGroups_eq_zipWith (A := A) (B := B) (by simpa using h)
      fun i a b ha hb => hop (i + 1) a b (by simpa using ha) (by simpa using hb)
    simp [zipGroups, hop 0 a b (by simp) (by simp), ih]

/-- What a successful pairing returns: a group for each group of the left set, the operation on
the two groups at its position. -/
lemma SearchFilters.zipGroups_spec
    {op : SearchFilterGroup → SearchFilterGroup → Option SearchFilterGroup} :
    ∀ {A B C : SearchFilters}, zipGroups op A B = some C →
      C.length = A.length ∧ ∀ (i : Nat) (c : SearchFilterGroup), C[i]? = some c →
        ∃ a b, A[i]? = some a ∧ B[i]? = some b ∧ op a b = some c
  | [], _, C, h => by
    cases h
    simp
  | _ :: _, [], _, h => by cases h
  | a :: A, b :: B, C, h => by
    simp only [zipGroups, Option.pure_def, Option.bind_eq_bind, Option.bind_eq_some,
      Option.some.injEq] at h
    obtain ⟨c, hc, C', hC', rfl⟩ := h
    obtain ⟨hlen, hi⟩ := zipGroups_spec hC'
    refine ⟨by simp [hlen], fun i c' h' => ?_⟩
    cases i with
    | zero => exact ⟨a, b, by simp, by simp, by simpa [← h'] using hc⟩
    | succ i => simpa using hi i c' (by simpa using h')

/-- On two sets of the fixed six facets, an operation that succeeds on each pair of groups of one
facet, given the values of the facet's kind, succeeds on the sets. -/
lemma SearchFilters.zipGroups_of_kinds {P : StringPool} {A B : SearchFilters}
    {op : SearchFilterGroup → SearchFilterGroup → Option SearchFilterGroup}
    {op' : SearchFilterGroup → SearchFilterGroup → SearchFilterGroup}
    (hA : A.OfKinds P) (hB : B.OfKinds P)
    (hop : ∀ (k : SearchKey) a b, (∀ f ∈ a.filters, k.OfKind P f.value) →
      (∀ f ∈ b.filters, k.OfKind P f.value) → op a b = some (op' a b)) :
    zipGroups op A B = some (List.zipWith op' A B) := by
  refine zipGroups_eq_zipWith (by rw [length_of_keys hA.keys, length_of_keys hB.keys])
    fun i a b ha hb => ?_
  obtain ⟨k, rfl⟩ := SearchKey.exists_position
    (length_of_keys hA.keys ▸ (List.getElem?_eq_some_iff.1 ha).1)
  exact hop k a b (hA.values k a ha) (hB.values k b hb)

/-- The fresh set has the six groups in order and no values. -/
lemma SearchFilters.typed_newSearchFilters (Q : SearchKey → FilterValue → Prop) :
    newSearchFilters.Typed Q := by
  refine ⟨by simp [newSearchFilters, SearchFilterGroup.empty], fun k g hg f hf => ?_⟩
  have : g.filters = [] := by
    obtain ⟨k', -, rfl⟩ := List.mem_map.1 (List.getElem?_mem hg)
    rfl
  simp [this] at hf

/-- Each group of a typed set is the group of one facet. -/
lemma SearchFilters.Typed.exists_key {Q : SearchKey → FilterValue → Prop} {s : SearchFilters}
    (hs : s.Typed Q) {g : SearchFilterGroup} (hg : g ∈ s) : ∃ k, ∀ f ∈ g.filters, Q k f.value := by
  obtain ⟨i, hi⟩ := List.getElem?_of_mem hg
  obtain ⟨k, rfl⟩ := SearchKey.exists_position
    (length_of_keys hs.keys ▸ (List.getElem?_eq_some_iff.1 hi).1)
  exact ⟨k, hs.values k g hi⟩

/-- Replacing the group of facet `k` by one with `k`'s key and values satisfying `Q k` keeps the
set typed. -/
lemma SearchFilters.Typed.set {Q : SearchKey → FilterValue → Prop} {s : SearchFilters}
    (hs : s.Typed Q) {k : SearchKey} {g : SearchFilterGroup} (hkey : g.key = k.toString)
    (hg : ∀ f ∈ g.filters, Q k f.value) : SearchFilters.Typed Q (s.set k.position g) := by
  refine ⟨?_, fun k' g' hg' f hf => ?_⟩
  · rw [List.map_set, hs.keys, hkey]
    exact set_eq_self_of_getElem? (by simp [List.getElem?_map])
  · rw [List.getElem?_set] at hg'
    by_cases h : k = k'
    · subst h
      simp only [if_true, Option.ite_none_right_eq_some, Option.some.injEq] at hg'
      exact hg f (hg'.2 ▸ hf)
    · rw [if_neg (SearchKey.position_injective.ne h)] at hg'
      exact hs.values k' g' hg' f hf

/-- Pairing two sets of one length keeps the left set's keys when each pair keeps the left key. -/
lemma SearchFilters.map_key_zipWith {op : SearchFilterGroup → SearchFilterGroup → SearchFilterGroup}
    (hkey : ∀ a b, (op a b).key = a.key) :
    ∀ {A B : SearchFilters}, A.length = B.length →
      (List.zipWith op A B).map SearchFilterGroup.key = A.map SearchFilterGroup.key
  | [], [], _ => rfl
  | a :: A, b :: B, h => by simp [hkey, map_key_zipWith hkey (by simpa using h)]
  | [], _ :: _, h | _ :: _, [], h => by simp at h

/-- Pairing two sets group by group keeps what their values satisfy, when each pair keeps the
left key and takes each value from one of its two groups. -/
lemma SearchFilters.Typed.zipWith {Q : SearchKey → FilterValue → Prop} {A B : SearchFilters}
    {op : SearchFilterGroup → SearchFilterGroup → SearchFilterGroup}
    (hkey : ∀ a b, (op a b).key = a.key)
    (hval : ∀ a b, ∀ f ∈ (op a b).filters, ∃ x ∈ a.filters ++ b.filters, x.value = f.value)
    (hA : A.Typed Q) (hB : B.Typed Q) : SearchFilters.Typed Q (List.zipWith op A B) := by
  refine ⟨(map_key_zipWith hkey ?_).trans hA.keys, fun k g hg f hf => ?_⟩
  · rw [length_of_keys hA.keys, length_of_keys hB.keys]
  obtain ⟨a, b, ha, hb, rfl⟩ := List.getElem?_zipWith_eq_some.1 hg
  obtain ⟨x, hx, hxf⟩ := hval a b f hf
  rw [← hxf]
  rcases List.mem_append.1 hx with hx | hx
  exacts [hA.values k a ha x hx, hB.values k b hb x hx]

lemma getElem?_zipWith_of {f : SearchFilterGroup → SearchFilterGroup → SearchFilterGroup}
    {A B : SearchFilters} {i : Nat} {a b : SearchFilterGroup} (ha : A[i]? = some a)
    (hb : B[i]? = some b) : (List.zipWith f A B)[i]? = some (f a b) := by
  simp [List.getElem?_zipWith, ha, hb]

namespace SearchFilterGroup

@[simp] lemma rebuildIndex_key (g : SearchFilterGroup) : g.rebuildIndex.key = g.key := rfl

@[simp] lemma rebuildIndex_filters (g : SearchFilterGroup) :
    g.rebuildIndex.filters = g.filters := rfl

/-! ### The three loops -/

section Loops

variable {P : StringPool} {k : SearchKey}

lemma containsIn_eq_any_same {fs : List SearchFilter} {f : SearchFilter}
    (h : ∀ x ∈ fs, k.OfKind P x.value) (hf : k.OfKind P f.value) :
    containsIn fs f = some (fs.any (·.same f)) :=
  containsIn_eq_any h hf

lemma any_equal_eq_any_same {f : SearchFilter} (hf : k.OfKind P f.value) :
    ∀ {fs : List SearchFilter}, (∀ x ∈ fs, k.OfKind P x.value) →
      fs.any (fun x => x.equal f == some true) = fs.any (·.same f)
  | [], _ => rfl
  | x :: xs, h => by
    simp [SearchFilter.equal_eq_same (h x (List.mem_cons_self _ _)) hf, SearchFilter.same,
      any_equal_eq_any_same hf fun y hy => h y (List.mem_cons_of_mem _ hy)]

lemma findIn_eq_find?_same {fs : List SearchFilter} {f : SearchFilter}
    (h : ∀ x ∈ fs, k.OfKind P x.value) (hf : k.OfKind P f.value) :
    findIn fs f = some (fs.find? (·.same f)) :=
  findIn_eq_find? h hf

lemma combineFilters_eq :
    ∀ {acc fs : List SearchFilter}, (∀ x ∈ acc, k.OfKind P x.value) →
      (∀ x ∈ fs, k.OfKind P x.value) →
        combineFilters acc fs = some (unionBy SearchFilter.same acc fs)
  | _, [], _, _ => rfl
  | acc, f :: fs, hacc, hfs => by
    have hf := hfs f (List.mem_cons_self _ _)
    have hfs' := fun x hx => hfs x (List.mem_cons_of_mem f hx)
    have hacc' : ∀ x ∈ acc ++ [f], k.OfKind P x.value := fun x hx => by
      rcases List.mem_append.1 hx with hx | hx
      exacts [hacc x hx, List.mem_singleton.1 hx ▸ hf]
    by_cases h : acc.any (·.same f) <;>
      simp [combineFilters, unionBy, containsIn_eq_any_same hacc hf, h, combineFilters_eq hacc hfs',
        combineFilters_eq hacc' hfs']

lemma subFilters_eq {other : List SearchFilter} (ho : ∀ x ∈ other, k.OfKind P x.value) :
    ∀ {fs : List SearchFilter}, (∀ x ∈ fs, k.OfKind P x.value) →
      subFilters other fs = some (fs.filter fun f => !other.any (·.same f))
  | [], _ => rfl
  | f :: fs, hfs => by
    have hf := hfs f (List.mem_cons_self _ _)
    by_cases h : other.any (·.same f) <;>
      simp [subFilters, containsIn_eq_any_same ho hf, h,
        subFilters_eq ho fun x hx => hfs x (List.mem_cons_of_mem f hx)]

/-- A filter with the name and cardinality of the first filter of `other` that is the same. -/
def mergedWith (other : List SearchFilter) (f : SearchFilter) : SearchFilter :=
  match other.find? (·.same f) with
  | none => f
  | some o => { f with name := o.name, cardinality := o.cardinality }

lemma mergeFilters_eq {other : List SearchFilter} (ho : ∀ x ∈ other, k.OfKind P x.value) :
    ∀ {fs : List SearchFilter}, (∀ x ∈ fs, k.OfKind P x.value) →
      mergeFilters other fs = some (fs.map (mergedWith other))
  | [], _ => rfl
  | f :: fs, hfs => by
    have hf := hfs f (List.mem_cons_self _ _)
    have ih := mergeFilters_eq ho fun x hx => hfs x (List.mem_cons_of_mem f hx)
    simp only [mergeFilters, findIn_eq_find?_same ho hf, ih, List.map_cons]
    cases h : other.find? (·.same f) <;> simp [mergedWith, h]

/-- One position of `Combine` on groups of one facet's kind. -/
lemma combine_eq {a b : SearchFilterGroup} (ha : ∀ x ∈ a.filters, k.OfKind P x.value)
    (hb : ∀ x ∈ b.filters, k.OfKind P x.value) :
    a.combine b = some (rebuildIndex ⟨a.key, unionBy SearchFilter.same a.filters b.filters,
      fun _ => none⟩) := by
  simp [combine, combineFilters_eq ha hb]

/-- One position of `Sub` on groups of one facet's kind. -/
lemma sub_eq {a b : SearchFilterGroup} (ha : ∀ x ∈ a.filters, k.OfKind P x.value)
    (hb : ∀ x ∈ b.filters, k.OfKind P x.value) :
    a.sub b = some (rebuildIndex ⟨a.key, a.filters.filter fun f => !b.filters.any (·.same f),
      fun _ => none⟩) := by
  simp [sub, subFilters_eq hb ha]

/-- One position of `MergeProperties` on groups of one facet's kind. -/
lemma mergeProperties_eq {a b : SearchFilterGroup} (ha : ∀ x ∈ a.filters, k.OfKind P x.value)
    (hb : ∀ x ∈ b.filters, k.OfKind P x.value) :
    a.mergeProperties b = some { a with filters := a.filters.map (mergedWith b.filters) } := by
  simp [mergeProperties, mergeFilters_eq hb ha]

/-! ### Presence -/

lemma present_iff_any {g : SearchFilterGroup} {f : SearchFilter}
    (hg : ∀ x ∈ g.filters, k.OfKind P x.value) (hf : k.OfKind P f.value) :
    g.Present f ↔ g.filters.any (·.same f) = true := by
  simp only [Present, List.any_eq_true]
  exact exists_congr fun x => and_congr_right fun hx => by
    rw [SearchFilter.equal_eq_same (hg x hx) hf]
    simp [SearchFilter.same]

lemma dupFree_iff {g : SearchFilterGroup} (hg : ∀ x ∈ g.filters, k.OfKind P x.value) :
    g.DupFree ↔ g.filters.Pairwise fun x y => x.same y = false := by
  refine List.pairwise_iff_forall_sublist.trans (Iff.trans ?_ List.pairwise_iff_forall_sublist.symm)
  refine forall_congr' fun x => forall_congr' fun y => imp_congr_right fun hxy => ?_
  have hx := hg x (hxy.subset (List.mem_cons_self _ _))
  have hy := hg y (hxy.subset (List.mem_cons_of_mem _ (List.mem_singleton_self _)))
  rw [SearchFilter.equal_eq_same hx hy]
  simp [SearchFilter.same]

end Loops

end SearchFilterGroup

end AliceLg
