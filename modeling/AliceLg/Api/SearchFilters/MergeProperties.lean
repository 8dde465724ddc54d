import AliceLg.Api.SearchFilters.Pointwise
import Mathlib.Data.List.Forall2
import Mathlib.Data.List.Pairwise

/-!
# `MergeProperties`

At each facet `MergeProperties` looks each filter of the receiver up in the other group with
`FindFilter` and, when found, copies the name and cardinality of the filter found. When the other
group holds no two `Equal` filters, the filter found is the one filter with the value, so every
shared value takes exactly the other side's properties; values, their order and the index of the
receiver are untouched.
-/

namespace AliceLg

namespace SearchFilterGroup

variable {P : StringPool} {k : SearchKey}

/-- `MergeProperties` at one position, on groups of one facet's kind. -/
def merged (a b : SearchFilterGroup) : SearchFilterGroup :=
  { a with filters := a.filters.map (mergedWith b.filters) }

@[simp] lemma merged_key (a b : SearchFilterGroup) : (merged a b).key = a.key := rfl

@[simp] lemma merged_filters (a b : SearchFilterGroup) :
    (merged a b).filters = a.filters.map (mergedWith b.filters) := rfl

@[simp] lemma merged_filtersIdx (a b : SearchFilterGroup) :
    (merged a b).filtersIdx = a.filtersIdx := rfl

@[simp] lemma value_mergedWith (o : List SearchFilter) (f : SearchFilter) :
    (mergedWith o f).value = f.value := by
  unfold mergedWith
  split <;> rfl

/-- In a list with no two filters the same, the filter the same as `x` is the one found. -/
lemma mergedWith_of_same {o : List SearchFilter} (hd : o.Pairwise fun x y => x.same y = false)
    {x y : SearchFilter} (hy : y ∈ o) (hyx : y.same x = true) :
    mergedWith o x = { x with name := y.name, cardinality := y.cardinality } := by
  obtain ⟨z, hz⟩ := Option.isSome_iff_exists.1 (List.find?_isSome (p := (·.same x)).2 ⟨y, hy, hyx⟩)
  have hzx : z.same x = true := List.find?_some (p := fun w : SearchFilter => w.same x) hz
  have hzy : z.same y = true := SearchFilter.same_trans hzx ((SearchFilter.same_comm _ _).trans hyx)
  have hsymm : Symmetric fun x y : SearchFilter => x.same y = false := fun a b h =>
    (SearchFilter.same_comm b a).trans h
  obtain rfl : z = y := by
    by_contra hne
    simp [hd.forall hsymm (List.mem_of_find?_eq_some hz) hy hne] at hzy
  simp [mergedWith, hz]

lemma mergedWith_of_not_any {o : List SearchFilter} {x : SearchFilter}
    (h : o.any (·.same x) = false) : mergedWith o x = x := by
  have : o.find? (·.same x) = none := by simpa using h
  simp [mergedWith, this]

/-- At one facet: each filter whose value the other group holds takes the name and cardinality of
the other group's filter with that value, and each other filter keeps its own. -/
lemma merged_spec {a b : SearchFilterGroup} (ha : ∀ x ∈ a.filters, k.OfKind P x.value)
    (hb : ∀ x ∈ b.filters, k.OfKind P x.value) (hd : b.DupFree) :
    (merged a b).key = a.key ∧ (merged a b).filtersIdx = a.filtersIdx ∧
    (merged a b).filters.map SearchFilter.value = a.filters.map SearchFilter.value ∧
    List.Forall₂ (fun x x' =>
      (∀ y ∈ b.filters, y.equal x = some true → x'.name = y.name ∧ x'.cardinality = y.cardinality) ∧
      (¬ b.Present x → x'.name = x.name ∧ x'.cardinality = x.cardinality))
      a.filters (merged a b).filters := by
  rw [dupFree_iff hb] at hd
  refine ⟨rfl, rfl, by simp [Function.comp_def], ?_⟩
  rw [merged_filters, List.forall₂_map_right_iff, List.forall₂_same]
  refine fun x hx => ⟨fun y hy hyx => ?_, fun hx' => ?_⟩
  · rw [SearchFilter.equal_eq_same (hb y hy) (ha x hx)] at hyx
    simp [mergedWith_of_same hd hy (by simpa [SearchFilter.same] using hyx)]
  · rw [present_iff_any hb (ha x hx), Bool.not_eq_true] at hx'
    simp [mergedWith_of_not_any hx']

end SearchFilterGroup

namespace SearchFilters

variable {P : StringPool}

/-- On sets of the six facets in order with values of their facets' kinds, `MergeProperties`
succeeds and is `merged` at each position. -/
lemma mergeProperties_eq_zipWith {S O : SearchFilters} (hS : S.OfKinds P) (hO : O.OfKinds P) :
    S.mergeProperties O = some (List.zipWith SearchFilterGroup.merged S O) :=
  zipGroups_of_kinds hS hO fun _ _ _ ha hb => SearchFilterGroup.mergeProperties_eq ha hb

/-- `MergeProperties` copies exactly the shared values' properties: at each facet a filter whose
value the other set's group holds takes the name and cardinality of the other group's filter with
that value, every other filter keeps its own, and the values, their order and the index are
unchanged. -/
theorem mergeProperties_copies {S O : SearchFilters} (hS : S.OfKinds P) (hO : O.OfKinds P)
    (hd : ∀ g ∈ O, g.DupFree) :
    ∃ S', S.mergeProperties O = some S' ∧ S'.length = 6 ∧
      ∀ (k : SearchKey) (s o s' : SearchFilterGroup), S[k.position]? = some s →
        O[k.position]? = some o → S'[k.position]? = some s' →
        s'.key = s.key ∧ s'.filtersIdx = s.filtersIdx ∧
        s'.filters.map SearchFilter.value = s.filters.map SearchFilter.value ∧
        List.Forall₂ (fun x x' =>
          (∀ y ∈ o.filters, y.equal x = some true →
            x'.name = y.name ∧ x'.cardinality = y.cardinality) ∧
          (¬ o.Present x → x'.name = x.name ∧ x'.cardinality = x.cardinality))
          s.filters s'.filters := by
  refine ⟨_, mergeProperties_eq_zipWith hS hO, ?_, fun k s o s' hs ho hs' => ?_⟩
  · simp [length_of_keys hS.keys, length_of_keys hO.keys]
  · rw [getElem?_zipWith_of hs ho, Option.some.injEq] at hs'
    subst hs'
    exact SearchFilterGroup.merged_spec (hS.values k s hs) (hO.values k o ho)
      (hd o (List.getElem?_mem ho))

/-- `MergeProperties` onto a parsed set holding ASNs 64512 and 64496 from an aggregate holding
64512 named and counted. -/
theorem mergeProperties_copies_asns :
    SearchFilters.OfKinds .pairing (newSearchFilters.set SearchKey.asns.position
      ⟨"asns", [⟨0, "", .int 64512⟩, ⟨0, "", .int 64496⟩], fun _ => none⟩) ∧
    SearchFilters.OfKinds .pairing (newSearchFilters.set SearchKey.asns.position
      ⟨"asns", [⟨5, "AS64512", .int 64512⟩], fun _ => none⟩) ∧
    (∀ g ∈ newSearchFilters.set SearchKey.asns.position
      ⟨"asns", [⟨5, "AS64512", .int 64512⟩], fun _ => none⟩, g.DupFree) ∧
    ∃ S', SearchFilters.mergeProperties (newSearchFilters.set SearchKey.asns.position
          ⟨"asns", [⟨0, "", .int 64512⟩, ⟨0, "", .int 64496⟩], fun _ => none⟩)
        (newSearchFilters.set SearchKey.asns.position
          ⟨"asns", [⟨5, "AS64512", .int 64512⟩], fun _ => none⟩) = some S' ∧ S'.length = 6 ∧
      ∀ (k : SearchKey) (s o s' : SearchFilterGroup),
        (newSearchFilters.set SearchKey.asns.position
          ⟨"asns", [⟨0, "", .int 64512⟩, ⟨0, "", .int 64496⟩], fun _ => none⟩)[k.position]? =
            some s →
        (newSearchFilters.set SearchKey.asns.position
          ⟨"asns", [⟨5, "AS64512", .int 64512⟩], fun _ => none⟩)[k.position]? = some o →
        S'[k.position]? = some s' →
        s'.key = s.key ∧ s'.filtersIdx = s.filtersIdx ∧
        s'.filters.map SearchFilter.value = s.filters.map SearchFilter.value ∧
        List.Forall₂ (fun x x' =>
          (∀ y ∈ o.filters, y.equal x = some true →
            x'.name = y.name ∧ x'.cardinality = y.cardinality) ∧
          (¬ o.Present x → x'.name = x.name ∧ x'.cardinality = x.cardinality))
          s.filters s'.filters :=
  have hS : SearchFilters.OfKinds .pairing (newSearchFilters.set SearchKey.asns.position
      ⟨"asns", [⟨0, "", .int 64512⟩, ⟨0, "", .int 64496⟩], fun _ => none⟩) :=
    Typed.set (typed_newSearchFilters _) rfl (by decide)
  have hO : SearchFilters.OfKinds .pairing (newSearchFilters.set SearchKey.asns.position
      ⟨"asns", [⟨5, "AS64512", .int 64512⟩], fun _ => none⟩) :=
    Typed.set (typed_newSearchFilters _) rfl (by decide)
  have hd : ∀ g ∈ newSearchFilters.set SearchKey.asns.position
      ⟨"asns", [⟨5, "AS64512", .int 64512⟩], fun _ => none⟩, g.DupFree := by decide
  ⟨hS, hO, hd, mergeProperties_copies hS hO hd⟩

end SearchFilters

end AliceLg
