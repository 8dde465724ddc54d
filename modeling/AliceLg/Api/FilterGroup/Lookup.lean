import AliceLg.Api.FilterGroup.Index

/-!
# Looking a value up in a group

`FindFilter` scans a group with `Equal`; `GetFilterByValue` reads the index. On the values of a
facet's kind, `Equal` compares canonical strings, so on a consistent group the two lookups
return the same filter, provided every extended community has the three components `Equal`
checks for. An extended community of another length is never `Equal` to anything, itself
included, while the index still finds it.
-/

namespace AliceLg

/-- The kind of value each facet's group holds. -/
def SearchKey.valueKind : SearchKey → ValueKind
  | .sources => .string
  | .asns => .int
  | .communities => .community
  | .extCommunities => .extCommunity
  | .largeCommunities => .community
  | .addrFamily => .int

/-- A value of facet `k`'s kind, a `*string` one from the pool `P`. -/
structure SearchKey.OfKind (P : StringPool) (k : SearchKey) (v : FilterValue) : Prop where
  kind : v.kind = k.valueKind
  pooled : v.Pooled P

/-- A value the builders put into `k`'s group: of the facet's kind, and an extended community
with three components. -/
structure SearchKey.Admits (P : StringPool) (k : SearchKey) (v : FilterValue)
    extends k.OfKind P v : Prop where
  triple : v.IsTriple

instance (P : StringPool) (k : SearchKey) (v : FilterValue) : Decidable (k.OfKind P v) :=
  decidable_of_iff (v.kind = k.valueKind ∧ v.Pooled P) ⟨fun h => ⟨h.1, h.2⟩, fun h => ⟨h.1, h.2⟩⟩

instance (P : StringPool) (k : SearchKey) (v : FilterValue) : Decidable (k.Admits P v) :=
  decidable_of_iff (k.OfKind P v ∧ v.IsTriple) ⟨fun h => ⟨h.1, h.2⟩, fun h => ⟨h.1, h.2⟩⟩

lemma SearchKey.OfKind.comparable {P : StringPool} {k : SearchKey} {a b : FilterValue}
    (ha : k.OfKind P a) (hb : k.OfKind P b) : Comparable P a b :=
  ⟨ha.kind.trans hb.kind.symm, by rw [hb.kind]; cases k <;> decide, ha.pooled, hb.pooled⟩

namespace SearchFilter

/-- On values of one facet's kind, `Equal` never panics and answers `Same`. -/
lemma equal_eq_same {P : StringPool} {k : SearchKey} {x f : SearchFilter}
    (hx : k.OfKind P x.value) (hf : k.OfKind P f.value) :
    x.equal f = some (decide (x.value.Same f.value)) :=
  equal_eq_of_comparable (hx.comparable hf)

end SearchFilter

private lemma find?_congr {α : Type*} {p q : α → Bool} :
    ∀ {l : List α}, (∀ x ∈ l, p x = q x) → l.find? p = l.find? q
  | [], _ => rfl
  | x :: xs, h => by
    simp only [List.find?_cons, h x (List.mem_cons_self _ _),
      find?_congr fun y hy => h y (List.mem_cons_of_mem _ hy)]

namespace SearchFilterGroup

/-- On filters of one facet's kind, `FindFilter`'s scan is `find?` with `Same`. -/
lemma findIn_eq_find? {P : StringPool} {k : SearchKey} {f : SearchFilter} :
    ∀ {fs : List SearchFilter}, (∀ x ∈ fs, k.OfKind P x.value) → k.OfKind P f.value →
      findIn fs f = some (fs.find? fun x => decide (x.value.Same f.value))
  | [], _, _ => rfl
  | x :: xs, h, hf => by
    have hx := SearchFilter.equal_eq_same (h x (List.mem_cons_self _ _)) hf
    by_cases hs : x.value.Same f.value <;>
      simp [findIn, hx, hs, findIn_eq_find? (fun y hy => h y (List.mem_cons_of_mem _ hy)) hf]

lemma containsIn_eq_any {P : StringPool} {k : SearchKey} {f : SearchFilter}
    {fs : List SearchFilter} (h : ∀ x ∈ fs, k.OfKind P x.value) (hf : k.OfKind P f.value) :
    containsIn fs f = some (fs.any fun x => decide (x.value.Same f.value)) := by
  rw [containsIn, findIn_eq_find? h hf, Option.map_some']
  congr 1
  rw [Bool.eq_iff_iff, List.any_eq_true, ← List.find?_isSome]

/-- On the values the builders admit, `FindFilter`'s scan looks for the canonical string. -/
lemma findIn_eq_find?_string {P : StringPool} {k : SearchKey} {f : SearchFilter}
    {fs : List SearchFilter} (h : ∀ x ∈ fs, k.Admits P x.value) (hf : k.Admits P f.value) :
    findIn fs f = some (fs.find? fun x =>
      decide (filterValueAsString x.value = filterValueAsString f.value)) := by
  rw [findIn_eq_find? (fun x hx => (h x hx).toOfKind) hf.toOfKind]
  exact congrArg some (find?_congr fun x hx => decide_eq_decide.2
    (FilterValue.same_iff_string_eq ((h x hx).kind.trans hf.kind.symm) (h x hx).triple hf.triple))

/-- In filters with distinct canonical strings, the first filter rendering like `x` is `x`. -/
lemma find?_string_of_getElem? {x : SearchFilter} :
    ∀ {fs : List SearchFilter} {i : Nat}, (refsOf fs).Nodup → fs[i]? = some x →
      fs.find? (fun y => decide (filterValueAsString y.value = filterValueAsString x.value)) =
        some x
  | [], _, _, hi => by simp at hi
  | y :: ys, 0, _, hi => by simp_all
  | y :: ys, i + 1, hnd, hi => by
    simp only [List.getElem?_cons_succ] at hi
    have hy : filterValueAsString y.value ≠ filterValueAsString x.value := fun hy =>
      (List.nodup_cons.1 hnd).1 (by
        show filterValueAsString y.value ∈ refsOf ys
        rw [hy]
        exact List.mem_map_of_mem _ (List.getElem?_mem hi))
    simp [hy, find?_string_of_getElem? (List.nodup_cons.1 hnd).2 hi]

/-- `FindFilter` and `GetFilterByValue` agree on a consistent group of a facet whose values, and
the probe's, are of the facet's kind with three-component extended communities: both return
nothing, or the same filter of the group. -/
theorem findFilter_eq_getFilterByValue {P : StringPool} {k : SearchKey} {g : SearchFilterGroup}
    (hg : g.Consistent) (hvals : ∀ x ∈ g.filters, k.Admits P x.value) {f : SearchFilter}
    (hf : k.Admits P f.value) :
    ∃ r, g.findFilter f = some r ∧ g.getFilterByValue f.value = some r ∧
      ∀ x ∈ r, x ∈ g.filters := by
  rw [findFilter, findIn_eq_find?_string hvals hf, getFilterByValue]
  cases hidx : g.filtersIdx (filterValueAsString f.value) with
  | some i =>
    obtain ⟨x, hx, hxs⟩ : ∃ x, g.filters[i]? = some x ∧
        filterValueAsString x.value = filterValueAsString f.value := by
      simpa [refsOf, List.getElem?_map] using (hg.index _ i).1 hidx
    refine ⟨some x, ?_, by simp [hx], fun y hy => ?_⟩
    · rw [← hxs, find?_string_of_getElem? hg.nodup hx]
    · cases hy
      exact List.getElem?_mem hx
  | none =>
    refine ⟨none, congrArg some ?_, rfl, fun _ h => by cases h⟩
    rw [List.find?_eq_none]
    intro x hx h
    have hm : filterValueAsString f.value ∈ refsOf g.filters :=
      of_decide_eq_true h ▸ List.mem_map_of_mem _ hx
    obtain ⟨j, hj⟩ := List.getElem?_of_mem hm
    simp [(hg.index _ j).2 hj] at hidx

/-- The two lookups agree on an ASN group holding `64512`. -/
theorem findFilter_eq_getFilterByValue_asn :
    (rebuildIndex ⟨"asns", [⟨1, "", .int 64512⟩], fun _ => none⟩).Consistent ∧
    (∀ x ∈ [(⟨1, "", .int 64512⟩ : SearchFilter)], SearchKey.asns.Admits .pairing x.value) ∧
    SearchKey.asns.Admits .pairing (.int 64512) ∧
    ∃ r, (rebuildIndex ⟨"asns", [⟨1, "", .int 64512⟩], fun _ => none⟩).findFilter
        ⟨0, "", .int 64512⟩ = some r ∧
      (rebuildIndex ⟨"asns", [⟨1, "", .int 64512⟩], fun _ => none⟩).getFilterByValue
        (.int 64512) = some r ∧ ∀ x ∈ r, x ∈ [(⟨1, "", .int 64512⟩ : SearchFilter)] :=
  have hc := rebuildIndex_consistent (g := ⟨"asns", [⟨1, "", .int 64512⟩], fun _ => none⟩)
    (by decide)
  have hv : ∀ x ∈ [(⟨1, "", .int 64512⟩ : SearchFilter)], SearchKey.asns.Admits .pairing x.value :=
    by simp only [List.mem_singleton, forall_eq]; exact ⟨⟨rfl, trivial⟩, trivial⟩
  have hf : SearchKey.asns.Admits .pairing (.int 64512) := ⟨⟨rfl, trivial⟩, trivial⟩
  ⟨hc, hv, hf, findFilter_eq_getFilterByValue (f := ⟨0, "", .int 64512⟩) hc hv hf⟩

/-- An extended community with a single value: the index finds it, while `Equal`, which asks for
three components, finds it equal to nothing. -/
theorem findFilter_ne_getFilterByValue_short_ext :
    (rebuildIndex ⟨"ext_communities", [⟨1, "RPKI:1", .extCommunity ⟨"RPKI", [1]⟩⟩],
      fun _ => none⟩).Consistent ∧
    (rebuildIndex ⟨"ext_communities", [⟨1, "RPKI:1", .extCommunity ⟨"RPKI", [1]⟩⟩],
      fun _ => none⟩).findFilter ⟨1, "RPKI:1", .extCommunity ⟨"RPKI", [1]⟩⟩ = some none ∧
    (rebuildIndex ⟨"ext_communities", [⟨1, "RPKI:1", .extCommunity ⟨"RPKI", [1]⟩⟩],
      fun _ => none⟩).getFilterByValue (.extCommunity ⟨"RPKI", [1]⟩) =
        some (some ⟨1, "RPKI:1", .extCommunity ⟨"RPKI", [1]⟩⟩) :=
  ⟨rebuildIndex_consistent (by decide), by decide, by decide⟩

end SearchFilterGroup

end AliceLg
