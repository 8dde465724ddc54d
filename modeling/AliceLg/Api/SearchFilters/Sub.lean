import AliceLg.Api.SearchFilters.Pointwise

/-!
# `Sub`

At each facet `Sub` keeps the filters of the left group that no filter of the right group is
`Equal` to, and rebuilds the index. On the values the builders admit `Equal` is reflexive, so this
is a set difference by value, and a set minus itself is six empty groups.
-/

namespace AliceLg

namespace SearchFilterGroup

variable {P : StringPool} {k : SearchKey}

/-- `Sub` at one position, on groups of one facet's kind. -/
def subtracted (a b : SearchFilterGroup) : SearchFilterGroup :=
  rebuildIndex ⟨a.key, a.filters.filter fun f => !b.filters.any (·.same f), fun _ => none⟩

@[simp] lemma subtracted_key (a b : SearchFilterGroup) : (subtracted a b).key = a.key := rfl

@[simp] lemma subtracted_filters (a b : SearchFilterGroup) :
    (subtracted a b).filters = a.filters.filter fun f => !b.filters.any (·.same f) := rfl

lemma mem_subtracted {a b : SearchFilterGroup} {f : SearchFilter} :
    f ∈ (subtracted a b).filters ↔ f ∈ a.filters ∧ b.filters.any (·.same f) = false := by
  simp

/-- Set difference at one facet: the left group's filters that no filter of the right group is
`Equal` to; none of them is present on the right, and each value of the left group is kept or
present on the right. -/
lemma subtracted_spec {a b : SearchFilterGroup} (ha : ∀ x ∈ a.filters, k.Admits P x.value)
    (hb : ∀ x ∈ b.filters, k.Admits P x.value) :
    (subtracted a b).key = a.key ∧
    (subtracted a b).filters =
      a.filters.filter (fun f => !b.filters.any fun x => x.equal f == some true) ∧
    (∀ x ∈ (subtracted a b).filters, ¬ b.Present x) ∧
    (∀ x ∈ a.filters, (subtracted a b).Present x ∨ b.Present x) := by
  have hb' := fun x hx => (hb x hx).toOfKind
  refine ⟨rfl, ?_, fun x hx => ?_, fun x hx => ?_⟩
  · exact List.filter_congr fun x hx => by rw [any_equal_eq_any_same (ha x hx).toOfKind hb']
  · obtain ⟨hxa, hxb⟩ := mem_subtracted.1 hx
    simp [present_iff_any hb' (ha x hxa).toOfKind, hxb]
  · cases h : b.filters.any (·.same x)
    · refine .inl ⟨x, mem_subtracted.2 ⟨hx, h⟩, ?_⟩
      rw [SearchFilter.equal_eq_same (ha x hx).toOfKind (ha x hx).toOfKind]
      simpa using (ha x hx).triple
    · exact .inr ((present_iff_any hb' (ha x hx).toOfKind).2 h)

/-- A group minus itself is empty: each admitted value is `Equal` to itself. -/
lemma subtracted_self {a : SearchFilterGroup} (ha : ∀ x ∈ a.filters, k.Admits P x.value) :
    (subtracted a a).filters = [] := by
  rw [subtracted_filters, List.filter_eq_nil_iff]
  intro x hx
  have : a.filters.any (·.same x) = true :=
    List.any_eq_true.2 ⟨x, hx, SearchFilter.same_self (ha x hx).triple⟩
  simp [this]

end SearchFilterGroup

namespace SearchFilters

variable {P : StringPool}

/-- On sets of the six facets in order with values of their facets' kinds, `Sub` succeeds and is
`subtracted` at each position. -/
lemma sub_eq_zipWith {A B : SearchFilters} (hA : A.OfKinds P) (hB : B.OfKinds P) :
    A.sub B = some (List.zipWith SearchFilterGroup.subtracted A B) :=
  zipGroups_of_kinds hA hB fun _ _ _ ha hb => SearchFilterGroup.sub_eq ha hb

lemma typed_zipWith_subtracted {Q : SearchKey → FilterValue → Prop} {A B : SearchFilters}
    (hA : A.Typed Q) (hB : B.Typed Q) :
    SearchFilters.Typed Q (List.zipWith SearchFilterGroup.subtracted A B) :=
  hA.zipWith (fun _ _ => rfl) (fun _ _ f hf =>
    ⟨f, List.mem_append_left _ (SearchFilterGroup.mem_subtracted.1 hf).1, rfl⟩) hB

/-- `Sub` is a set difference by value: at each facet the left group's filters, in order, that
no filter of the right group is `Equal` to; none of them is present on the right, each value of
the left group is kept or present on the right, and a set minus itself is six empty groups. -/
theorem sub_difference {A B : SearchFilters} (hA : A.Admitted P) (hB : B.Admitted P) :
    (∃ D, A.sub B = some D ∧ D.length = 6 ∧
      ∀ (k : SearchKey) (a b d : SearchFilterGroup), A[k.position]? = some a →
        B[k.position]? = some b → D[k.position]? = some d →
        d.key = a.key ∧
        d.filters = a.filters.filter (fun f => !b.filters.any fun x => x.equal f == some true) ∧
        (∀ x ∈ d.filters, ¬ b.Present x) ∧
        (∀ x ∈ a.filters, d.Present x ∨ b.Present x)) ∧
    ∃ E, A.sub A = some E ∧ E.map SearchFilterGroup.key = SearchKey.all.map SearchKey.toString ∧
      ∀ g ∈ E, g.filters = [] := by
  refine ⟨⟨_, sub_eq_zipWith hA.ofKinds hB.ofKinds, ?_, fun k a b d ha hb hd => ?_⟩,
    _, sub_eq_zipWith hA.ofKinds hA.ofKinds, (typed_zipWith_subtracted hA hA).keys, fun g hg => ?_⟩
  · simp [length_of_keys hA.keys, length_of_keys hB.keys]
  · rw [getElem?_zipWith_of ha hb, Option.some.injEq] at hd
    subst hd
    exact SearchFilterGroup.subtracted_spec (hA.values k a ha) (hB.values k b hb)
  · rw [List.zipWith_same] at hg
    obtain ⟨a, ha, rfl⟩ := List.mem_map.1 hg
    obtain ⟨k, hk⟩ := hA.exists_key ha
    exact SearchFilterGroup.subtracted_self hk

/-- `Sub` of a set holding ASNs 64512 and 64496 and one holding 64512. -/
theorem sub_difference_asns :
    SearchFilters.Admitted .pairing (newSearchFilters.set SearchKey.asns.position
      ⟨"asns", [⟨2, "", .int 64512⟩, ⟨1, "", .int 64496⟩], fun _ => none⟩) ∧
    SearchFilters.Admitted .pairing (newSearchFilters.set SearchKey.asns.position
      ⟨"asns", [⟨1, "", .int 64512⟩], fun _ => none⟩) ∧
    (∃ D, SearchFilters.sub (newSearchFilters.set SearchKey.asns.position
          ⟨"asns", [⟨2, "", .int 64512⟩, ⟨1, "", .int 64496⟩], fun _ => none⟩)
        (newSearchFilters.set SearchKey.asns.position
          ⟨"asns", [⟨1, "", .int 64512⟩], fun _ => none⟩) = some D ∧ D.length = 6 ∧
      ∀ (k : SearchKey) (a b d : SearchFilterGroup),
        (newSearchFilters.set SearchKey.asns.position
          ⟨"asns", [⟨2, "", .int 64512⟩, ⟨1, "", .int 64496⟩], fun _ => none⟩)[k.position]? =
            some a →
        (newSearchFilters.set SearchKey.asns.position
          ⟨"asns", [⟨1, "", .int 64512⟩], fun _ => none⟩)[k.position]? = some b →
        D[k.position]? = some d →
        d.key = a.key ∧
        d.filters = a.filters.filter (fun f => !b.filters.any fun x => x.equal f == some true) ∧
        (∀ x ∈ d.filters, ¬ b.Present x) ∧
        (∀ x ∈ a.filters, d.Present x ∨ b.Present x)) ∧
    ∃ E, SearchFilters.sub (newSearchFilters.set SearchKey.asns.position
          ⟨"asns", [⟨2, "", .int 64512⟩, ⟨1, "", .int 64496⟩], fun _ => none⟩)
        (newSearchFilters.set SearchKey.asns.position
          ⟨"asns", [⟨2, "", .int 64512⟩, ⟨1, "", .int 64496⟩], fun _ => none⟩) = some E ∧
      E.map SearchFilterGroup.key = SearchKey.all.map SearchKey.toString ∧
      ∀ g ∈ E, g.filters = [] :=
  have hA : SearchFilters.Admitted .pairing (newSearchFilters.set SearchKey.asns.position
      ⟨"asns", [⟨2, "", .int 64512⟩, ⟨1, "", .int 64496⟩], fun _ => none⟩) :=
    Typed.set (typed_newSearchFilters _) rfl (by decide)
  have hB : SearchFilters.Admitted .pairing (newSearchFilters.set SearchKey.asns.position
      ⟨"asns", [⟨1, "", .int 64512⟩], fun _ => none⟩) :=
    Typed.set (typed_newSearchFilters _) rfl (by decide)
  ⟨hA, hB, sub_difference hA hB⟩

end SearchFilters

end AliceLg
