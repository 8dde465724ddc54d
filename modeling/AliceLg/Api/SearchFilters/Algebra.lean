import AliceLg.Api.SearchFilters.Invariant

/-!
# Laws of `Combine` and `Sub`

On the filter sets the engine builds, `Combine` and `Sub` satisfy the laws of a union and a
difference as exact equations on the sets the code returns, indexes included. The fresh set is a
unit of `Combine` on both sides and `Combine` is idempotent. Subtracting the fresh set changes
nothing, and the fresh set minus anything is the fresh set. Subtracting what was combined in takes
it out again, and subtracting twice is subtracting the combination. Each law holds group by group,
and `Combine` and `Sub` apply the group operation at each of the six positions.
-/

namespace AliceLg

variable {P : StringPool}

/-- The index is determined by the filters. -/
lemma IndexOf.unique {i j : String → Option Nat} {fs : List SearchFilter} (hi : IndexOf i fs)
    (hj : IndexOf j fs) : i = j :=
  funext fun s => Option.ext fun n => (hi s n).trans (hj s n).symm

namespace SearchFilterGroup

variable {k : SearchKey} {a b : SearchFilterGroup}

/-- On a consistent group `rebuildIndex` builds the index that is there. -/
lemma rebuildIndex_eq_self (ha : a.Consistent) : a.rebuildIndex = a := by
  obtain ⟨key, filters, idx⟩ := a
  exact congrArg (mk key filters) ((rebuildIndex_consistent ha.nodup).index.unique ha.index)

/-- A consistent group of admitted values holds no two `Same` values. -/
lemma Consistent.pairwise_same (ha : a.Consistent) (hv : ∀ x ∈ a.filters, k.Admits P x.value) :
    a.filters.Pairwise fun x y => x.same y = false := by
  refine (List.pairwise_map.1 ha.nodup).imp_of_mem fun hx hy hne => ?_
  have hs := FilterValue.same_iff_string_eq ((hv _ hx).kind.trans (hv _ hy).kind.symm)
    (hv _ hx).triple (hv _ hy).triple
  simpa [SearchFilter.same, hs] using hne

/-! #### `Combine` -/

lemma combined_empty_right (ha : a.Consistent) : combined a (empty a.key) = a :=
  (rebuildIndex_eq_self ha).symm ▸ rfl

lemma combined_empty_left (ha : a.Consistent) (hv : ∀ x ∈ a.filters, k.Admits P x.value) :
    combined (empty a.key) a = a := by
  refine Eq.trans ?_ (rebuildIndex_eq_self ha)
  simp only [combined, empty, unionBy_eq_append, List.nil_append,
    addedBy_of_pairwise (fun _ hx => absurd hx (List.not_mem_nil _)) (ha.pairwise_same hv)]
  rfl

lemma combined_self (ha : a.Consistent) (hv : ∀ x ∈ a.filters, x.value.IsTriple) :
    combined a a = a := by
  refine Eq.trans ?_ (rebuildIndex_eq_self ha)
  rw [combined, unionBy_eq_append, addedBy_eq_nil fun f hf =>
    List.any_eq_true.2 ⟨f, hf, SearchFilter.same_self (hv f hf)⟩, List.append_nil]
  rfl

/-! #### `Sub` -/

lemma subtracted_empty_right (ha : a.Consistent) (key : String) : subtracted a (empty key) = a := by
  refine Eq.trans ?_ (rebuildIndex_eq_self ha)
  simp only [subtracted, empty, List.any_nil, Bool.not_false, List.filter_true]
  rfl

lemma subtracted_empty_left (key : String) (a : SearchFilterGroup) :
    subtracted (empty key) a = empty key := rfl

/-- Subtracting what was combined in takes it out again. -/
lemma subtracted_combined (hb : ∀ x ∈ b.filters, x.value.IsTriple) :
    subtracted (combined a b) b = subtracted a b := by
  simp only [subtracted, combined_key, combined_filters, unionBy_eq_append, List.filter_append]
  rw [(List.filter_eq_nil_iff (l := addedBy SearchFilter.same a.filters b.filters)).2
    fun x hx => ?_, List.append_nil]
  have hxb := (addedBy_sublist _ _).subset hx
  simpa using ⟨x, hxb, SearchFilter.same_self (hb x hxb)⟩

/-- Subtracting twice is subtracting the combination. -/
lemma subtracted_subtracted (a b c : SearchFilterGroup) :
    subtracted (subtracted a b) c = subtracted a (combined b c) := by
  simp only [subtracted, rebuildIndex_key, rebuildIndex_filters, combined_filters,
    List.filter_filter]
  congr 2
  refine List.filter_congr fun f _ => ?_
  rw [← Bool.not_or]
  congr 1
  rw [Bool.eq_iff_iff, Bool.or_eq_true,
    any_unionBy (r := SearchFilter.same) (fun _ _ _ => SearchFilter.same_trans), or_comm]

end SearchFilterGroup

/-! ### Sets -/

lemma SearchKey.position_lt_six (k : SearchKey) : k.position < 6 := by
  cases k <;> decide

namespace SearchFilters

lemma exists_getElem?_position {A : SearchFilters} (h : A.length = 6) (k : SearchKey) :
    ∃ a, A[k.position]? = some a :=
  ⟨_, List.getElem?_eq_getElem (h ▸ k.position_lt_six)⟩

/-- The operation at each facet's position of two sets of six groups gives the third. -/
lemma zipWith_eq_of_position {op : SearchFilterGroup → SearchFilterGroup → SearchFilterGroup}
    {A B C : SearchFilters} (hA : A.length = 6) (hB : B.length = 6) (hC : C.length = 6)
    (h : ∀ (k : SearchKey) a b, A[k.position]? = some a → B[k.position]? = some b →
      C[k.position]? = some (op a b)) :
    List.zipWith op A B = C :=
  ext_position (by simp [hA, hB]) hC fun k => by
    obtain ⟨a, ha⟩ := exists_getElem?_position hA k
    obtain ⟨b, hb⟩ := exists_getElem?_position hB k
    rw [getElem?_zipWith_of ha hb, h k a b ha hb]

/-- The fresh set is a unit of `Combine` on both sides, and `Combine` is idempotent: on every
set the engine builds, combining with the fresh set, either way round, or with itself returns the
set unchanged, index included. -/
theorem combine_unit_idem {A : SearchFilters} (hA : A.WellFormed P) :
    A.combine newSearchFilters = some A ∧ newSearchFilters.combine A = some A ∧
      A.combine A = some A := by
  have hlen := length_of_keys hA.admitted.keys
  have hc := fun {k : SearchKey} {a : SearchFilterGroup} (ha : A[k.position]? = some a) =>
    hA.consistent a (List.getElem?_mem ha)
  refine ⟨?_, ?_, ?_⟩
  · rw [combine_eq_zipWith hA.admitted.ofKinds (typed_newSearchFilters _)]
    refine congrArg some (zipWith_eq_of_position hlen rfl hlen fun k a b ha hb => ?_)
    rw [getElem?_newSearchFilters, Option.some.injEq] at hb
    rw [← hb, ← hA.key_eq ha, SearchFilterGroup.combined_empty_right (hc ha), ha]
  · rw [combine_eq_zipWith (typed_newSearchFilters _) hA.admitted.ofKinds]
    refine congrArg some (zipWith_eq_of_position rfl hlen hlen fun k a b ha hb => ?_)
    rw [getElem?_newSearchFilters, Option.some.injEq] at ha
    rw [← ha, ← hA.key_eq hb,
      SearchFilterGroup.combined_empty_left (hc hb) (hA.admitted.values k b hb), hb]
  · rw [combine_eq_zipWith hA.admitted.ofKinds hA.admitted.ofKinds]
    refine congrArg some (zipWith_eq_of_position hlen hlen hlen fun k a b ha hb => ?_)
    cases ha.symm.trans hb
    rw [SearchFilterGroup.combined_self (hc ha) fun x hx => (hA.admitted.values k a ha x hx).triple,
      ha]

/-- The unit and idempotence laws on the set holding ASN 64512. -/
theorem combine_unit_idem_asn :
    ∃ A, newSearchFilters.updateGroup SearchKey.asns.toString
        (·.addFilter ⟨1, "", .int 64512⟩) = some A ∧ A.WellFormed .pairing ∧
      A.combine newSearchFilters = some A ∧ newSearchFilters.combine A = some A ∧
        A.combine A = some A :=
  have hA := wellFormed_newSearchFilters.addFilter (P := .pairing)
    (rfl : newSearchFilters.updateGroup SearchKey.asns.toString
      (·.addFilter ⟨1, "", .int 64512⟩) = some _) (by decide)
  ⟨_, rfl, hA, combine_unit_idem hA⟩

/-- `Sub` is a difference: on sets the engine builds, subtracting the fresh set changes nothing,
the fresh set minus any set is the fresh set, subtracting a set combined in takes it out again,
and subtracting two sets one after the other is subtracting their combination. -/
theorem sub_laws {A B C : SearchFilters} (hA : A.WellFormed P) (hB : B.Admitted P)
    (hC : C.Admitted P) :
    A.sub newSearchFilters = some A ∧ newSearchFilters.sub A = some newSearchFilters ∧
      (A.combine B).bind (·.sub B) = A.sub B ∧
      (A.sub B).bind (·.sub C) = (B.combine C).bind A.sub := by
  have hlen := length_of_keys hA.admitted.keys
  have hAk := hA.admitted.ofKinds
  refine ⟨?_, ?_, ?_, ?_⟩
  · rw [sub_eq_zipWith hAk (typed_newSearchFilters _)]
    refine congrArg some (zipWith_eq_of_position hlen rfl hlen fun k a b ha hb => ?_)
    rw [getElem?_newSearchFilters, Option.some.injEq] at hb
    rw [← hb, SearchFilterGroup.subtracted_empty_right (hA.consistent a (List.getElem?_mem ha)),
      ha]
  · rw [sub_eq_zipWith (typed_newSearchFilters _) hAk]
    refine congrArg some (zipWith_eq_of_position rfl hlen rfl fun k a b ha hb => ?_)
    rw [getElem?_newSearchFilters, Option.some.injEq] at ha
    rw [← ha, SearchFilterGroup.subtracted_empty_left, getElem?_newSearchFilters]
  · have hBlen := length_of_keys hB.keys
    rw [combine_eq_zipWith hAk hB.ofKinds, Option.some_bind,
      sub_eq_zipWith (typed_zipWith_combined hAk hB.ofKinds) hB.ofKinds,
      sub_eq_zipWith hAk hB.ofKinds]
    refine congrArg some (ext_position (by simp [hlen, hBlen]) (by simp [hlen, hBlen]) fun k => ?_)
    obtain ⟨a, ha⟩ := exists_getElem?_position hlen k
    obtain ⟨b, hb⟩ := exists_getElem?_position hBlen k
    rw [getElem?_zipWith_of (getElem?_zipWith_of ha hb) hb, getElem?_zipWith_of ha hb,
      SearchFilterGroup.subtracted_combined fun x hx => (hB.values k b hb x hx).triple]
  · rw [sub_eq_zipWith hAk hB.ofKinds, Option.some_bind,
      sub_eq_zipWith (typed_zipWith_subtracted hAk hB.ofKinds) hC.ofKinds,
      combine_eq_zipWith hB.ofKinds hC.ofKinds, Option.some_bind,
      sub_eq_zipWith hAk (typed_zipWith_combined hB.ofKinds hC.ofKinds),
      List.zipWith_zipWith_left, List.zipWith_zipWith_right]
    simp only [SearchFilterGroup.subtracted_subtracted]

/-- The laws of `Sub` on the set holding ASN 64512, with itself and the fresh set. -/
theorem sub_laws_asn :
    ∃ A, newSearchFilters.updateGroup SearchKey.asns.toString
        (·.addFilter ⟨1, "", .int 64512⟩) = some A ∧ A.WellFormed .pairing ∧
      A.Admitted .pairing ∧ newSearchFilters.Admitted .pairing ∧
      A.sub newSearchFilters = some A ∧ newSearchFilters.sub A = some newSearchFilters ∧
      (A.combine A).bind (·.sub A) = A.sub A ∧
      (A.sub A).bind (·.sub newSearchFilters) = (A.combine newSearchFilters).bind A.sub :=
  have hA := wellFormed_newSearchFilters.addFilter (P := .pairing)
    (rfl : newSearchFilters.updateGroup SearchKey.asns.toString
      (·.addFilter ⟨1, "", .int 64512⟩) = some _) (by decide)
  ⟨_, rfl, hA, hA.admitted, typed_newSearchFilters _,
    sub_laws hA hA.admitted (typed_newSearchFilters _)⟩

end SearchFilters

end AliceLg
