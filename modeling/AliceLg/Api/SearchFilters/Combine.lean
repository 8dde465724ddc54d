import AliceLg.Api.SearchFilters.Pointwise
import Mathlib.Data.List.Zip

/-!
# `Combine`

At each facet `Combine` keeps the left group's filters and appends each filter of the right
group that is `Equal` to none of them nor to one appended before it. On values of the facets'
kinds this is a union by value that keeps the left copy of a shared value, and it is
associative, so folding the sets of several sources does not depend on the bracketing.
-/

namespace AliceLg

namespace SearchFilterGroup

variable {P : StringPool} {k : SearchKey}

/-- `Combine` at one position, on groups of one facet's kind. -/
def combined (a b : SearchFilterGroup) : SearchFilterGroup :=
  rebuildIndex ⟨a.key, unionBy SearchFilter.same a.filters b.filters, fun _ => none⟩

@[simp] lemma combined_key (a b : SearchFilterGroup) : (combined a b).key = a.key := rfl

@[simp] lemma combined_filters (a b : SearchFilterGroup) :
    (combined a b).filters = unionBy SearchFilter.same a.filters b.filters := rfl

/-- `combined` is associative on any groups: `Same` is transitive. -/
lemma combined_assoc (a b c : SearchFilterGroup) :
    combined (combined a b) c = combined a (combined b c) := by
  simp only [combined, rebuildIndex_key, rebuildIndex_filters,
    unionBy_assoc (r := SearchFilter.same) (fun _ _ _ => SearchFilter.same_trans)]

lemma exists_value_of_mem_combined {a b : SearchFilterGroup} {f : SearchFilter}
    (hf : f ∈ (combined a b).filters) : ∃ x ∈ a.filters ++ b.filters, x.value = f.value :=
  ⟨f, List.mem_append.2 (mem_unionBy hf), rfl⟩

lemma admits_of_mem_unionBy {a b : List SearchFilter} (ha : ∀ x ∈ a, k.Admits P x.value)
    (hb : ∀ x ∈ b, k.Admits P x.value) : ∀ x ∈ unionBy SearchFilter.same a b, k.Admits P x.value :=
  fun x hx => (mem_unionBy hx).elim (ha x) (hb x)

/-- The union at one facet: the appended filters are those no earlier filter is `Equal` to, a
value is present exactly when it is present on either side, a value of the left group is found
as the left group's filter, and a left group without duplicates gives a union without them. -/
lemma combined_spec {a b : SearchFilterGroup} (ha : ∀ x ∈ a.filters, k.Admits P x.value)
    (hb : ∀ x ∈ b.filters, k.Admits P x.value) :
    (combined a b).key = a.key ∧
    (combined a b).filters =
      a.filters ++ addedBy (fun x f => x.equal f == some true) a.filters b.filters ∧
    (∀ f, k.Admits P f.value → ((combined a b).Present f ↔ a.Present f ∨ b.Present f)) ∧
    (∀ f, k.Admits P f.value → a.Present f → (combined a b).findFilter f = a.findFilter f) ∧
    (a.DupFree → (combined a b).DupFree) := by
  have hc := admits_of_mem_unionBy ha hb
  have ofKind := fun {l : List SearchFilter} (h : ∀ x ∈ l, k.Admits P x.value) x hx =>
    (h x hx).toOfKind
  refine ⟨rfl, ?_, fun f hf => ?_, fun f hf hpa => ?_, fun hd => ?_⟩
  · rw [combined_filters, unionBy_eq_append]
    congr 1
    refine addedBy_congr fun x hx y hy => ?_
    have hx' : k.OfKind P x.value := by
      rcases List.mem_append.1 hx with hx | hx
      exacts [(ha x hx).toOfKind, (hb x hx).toOfKind]
    rw [SearchFilter.equal_eq_same hx' (hb y hy).toOfKind]
    simp [SearchFilter.same]
  · rw [present_iff_any (ofKind hc) hf.toOfKind, present_iff_any (ofKind ha) hf.toOfKind,
      present_iff_any (ofKind hb) hf.toOfKind, combined_filters]
    exact any_unionBy (r := SearchFilter.same) (fun _ _ _ => SearchFilter.same_trans) _ _ _
  · rw [findFilter, findFilter, combined_filters, findIn_eq_find?_same (ofKind hc) hf.toOfKind,
      findIn_eq_find?_same (ofKind ha) hf.toOfKind, unionBy_eq_append,
      List.find?_append]
    obtain ⟨x, hx, hxf⟩ := List.any_eq_true.1 ((present_iff_any (ofKind ha) hf.toOfKind).1 hpa)
    obtain ⟨y, hy⟩ := Option.isSome_iff_exists.1
      (List.find?_isSome (p := (·.same f)).2 ⟨x, hx, hxf⟩)
    simp [hy]
  · rw [dupFree_iff (ofKind ha)] at hd
    rw [dupFree_iff (ofKind hc)]
    exact pairwise_unionBy hd _

end SearchFilterGroup

namespace SearchFilters

/-- On sets of the six facets in order with values of their facets' kinds, `Combine` succeeds
and is `combined` at each position. -/
lemma combine_eq_zipWith {P : StringPool} {A B : SearchFilters} (hA : A.OfKinds P)
    (hB : B.OfKinds P) : A.combine B = some (List.zipWith SearchFilterGroup.combined A B) :=
  zipGroups_of_kinds hA hB fun _ _ _ ha hb => SearchFilterGroup.combine_eq ha hb

/-- `Combine` is a left-biased union without duplicates: at each facet the left group's filters
come first, followed by each filter of the right group `Equal` to none before it; a value is
present in the result exactly when it is present on either side, a value of the left group is
found as the left group's filter, and a left group without duplicates gives a result without
them. -/
theorem combine_union {P : StringPool} {A B : SearchFilters} (hA : A.Admitted P)
    (hB : B.Admitted P) :
    ∃ C, A.combine B = some C ∧ C.length = 6 ∧
      ∀ (k : SearchKey) (a b c : SearchFilterGroup), A[k.position]? = some a →
        B[k.position]? = some b → C[k.position]? = some c →
        c.key = a.key ∧
        c.filters = a.filters ++ addedBy (fun x f => x.equal f == some true) a.filters b.filters ∧
        (∀ f, k.Admits P f.value → (c.Present f ↔ a.Present f ∨ b.Present f)) ∧
        (∀ f, k.Admits P f.value → a.Present f → c.findFilter f = a.findFilter f) ∧
        (a.DupFree → c.DupFree) := by
  refine ⟨_, combine_eq_zipWith hA.ofKinds hB.ofKinds, ?_, fun k a b c ha hb hc => ?_⟩
  · simp [length_of_keys hA.keys, length_of_keys hB.keys]
  · rw [getElem?_zipWith_of ha hb, Option.some.injEq] at hc
    subst hc
    exact SearchFilterGroup.combined_spec (hA.values k a ha) (hB.values k b hb)

/-- A set holding ASN 64512, counted twice. -/
def asnSet64512 : SearchFilters :=
  newSearchFilters.set SearchKey.asns.position
    ⟨"asns", [⟨2, "AS64512", .int 64512⟩], fun s => if s = "64512" then some 0 else none⟩

/-- A set holding ASN 64512 under another name, and ASN 64496. -/
def asnSetPeers : SearchFilters :=
  newSearchFilters.set SearchKey.asns.position
    ⟨"asns", [⟨1, "peer", .int 64512⟩, ⟨1, "AS64496", .int 64496⟩],
      fun s => if s = "64512" then some 0 else if s = "64496" then some 1 else none⟩

/-- `Combine` of two sets sharing ASN 64512: the left filter is kept, with its name and count, and
the right one is not appended again. -/
theorem combine_union_asns :
    asnSet64512.Admitted .pairing ∧ asnSetPeers.Admitted .pairing ∧
    ∃ C, asnSet64512.combine asnSetPeers = some C ∧ C.length = 6 ∧
      ∀ (k : SearchKey) (a b c : SearchFilterGroup), asnSet64512[k.position]? = some a →
        asnSetPeers[k.position]? = some b → C[k.position]? = some c →
        c.key = a.key ∧
        c.filters = a.filters ++ addedBy (fun x f => x.equal f == some true) a.filters b.filters ∧
        (∀ f, k.Admits .pairing f.value → (c.Present f ↔ a.Present f ∨ b.Present f)) ∧
        (∀ f, k.Admits .pairing f.value → a.Present f → c.findFilter f = a.findFilter f) ∧
        (a.DupFree → c.DupFree) :=
  have hA : asnSet64512.Admitted .pairing := Typed.set (typed_newSearchFilters _) rfl (by decide)
  have hB : asnSetPeers.Admitted .pairing := Typed.set (typed_newSearchFilters _) rfl (by decide)
  ⟨hA, hB, combine_union hA hB⟩

example : (asnSet64512.combine asnSetPeers).map (·[SearchKey.asns.position]?.map (·.filters)) =
    some (some [⟨2, "AS64512", .int 64512⟩, ⟨1, "AS64496", .int 64496⟩]) := by decide

/-- The union of two sets given the values of the facets' kinds satisfy `Q`. -/
lemma typed_zipWith_combined {Q : SearchKey → FilterValue → Prop} {A B : SearchFilters}
    (hA : A.Typed Q) (hB : B.Typed Q) :
    SearchFilters.Typed Q (List.zipWith SearchFilterGroup.combined A B) :=
  hA.zipWith (fun _ _ => rfl) (fun _ _ _ => SearchFilterGroup.exists_value_of_mem_combined) hB

/-- `Combine` is associative on sets of the six facets with values of their facets' kinds: both
bracketings succeed and give the same set, filters, names, cardinalities and index included. -/
theorem combine_assoc {P : StringPool} {A B C : SearchFilters} (hA : A.OfKinds P)
    (hB : B.OfKinds P) (hC : C.OfKinds P) :
    ∃ D, (A.combine B).bind (·.combine C) = some D ∧ (B.combine C).bind A.combine = some D := by
  refine ⟨List.zipWith SearchFilterGroup.combined (List.zipWith SearchFilterGroup.combined A B) C,
    ?_, ?_⟩
  · rw [combine_eq_zipWith hA hB, Option.some_bind,
      combine_eq_zipWith (typed_zipWith_combined hA hB) hC]
  · rw [combine_eq_zipWith hB hC, Option.some_bind,
      combine_eq_zipWith hA (typed_zipWith_combined hB hC), List.zipWith_zipWith_left,
      List.zipWith_zipWith_right]
    simp only [SearchFilterGroup.combined_assoc]

/-- A set holding ASN 64496 and an extended community of two components, which is `Equal` to
nothing. -/
def asnExtSet : SearchFilters :=
  (newSearchFilters.set SearchKey.asns.position
    ⟨"asns", [⟨1, "AS64496", .int 64496⟩], fun s => if s = "64496" then some 0 else none⟩).set
    SearchKey.extCommunities.position
    ⟨"ext_communities", [⟨1, "RPKI:1", .extCommunity ⟨"RPKI", [1]⟩⟩],
      fun s => if s = "RPKI:1" then some 0 else none⟩

/-- Associativity on three sets, the first two sharing ASN 64512 and the last two ASN 64496, the
last with an extended community of two components. -/
theorem combine_assoc_ext :
    asnSet64512.OfKinds .pairing ∧ asnSetPeers.OfKinds .pairing ∧ asnExtSet.OfKinds .pairing ∧
    ∃ D, (asnSet64512.combine asnSetPeers).bind (·.combine asnExtSet) = some D ∧
      (asnSetPeers.combine asnExtSet).bind asnSet64512.combine = some D :=
  have hA : asnSet64512.OfKinds .pairing := Typed.set (typed_newSearchFilters _) rfl (by decide)
  have hB : asnSetPeers.OfKinds .pairing := Typed.set (typed_newSearchFilters _) rfl (by decide)
  have hC : asnExtSet.OfKinds .pairing :=
    Typed.set (Typed.set (typed_newSearchFilters _) rfl (by decide)) rfl (by decide)
  ⟨hA, hB, hC, combine_assoc hA hB hC⟩

end SearchFilters

end AliceLg
