import AliceLg.Api.SearchFilters.Search
import AliceLg.Api.SearchFilters.Algebra
import AliceLg.Api.SearchFilters.Counting
import AliceLg.Api.BGPInfo

/-!
# What a filter set asks of a route

A filter set means, facet by facet, a list of values. `MatchRoute` asks a route for one of the
source ids, ASNs and address families listed, when any is, and for every community, extended
community and large community listed; names, cardinalities, the order of the filters and the
index play no part. The operations of the engine act on that meaning as operations on lists:
`Combine` joins the two sets' values, `Sub` takes the other set's values out, `MergeProperties`
keeps the values, and `SetFilterAddrFamilies` adds the enabled families. So the verdict of
`MatchRoute` on what they return is read off the values of the sets they start from.
-/

namespace AliceLg

variable {P : StringPool}

namespace SearchFilters

/-- On a set of the six groups in order, `MatchRoute` never panics and decides `Passes` on the
set's values. -/
lemma matchRoute_eq_passes_of_keys {S : SearchFilters}
    (hS : S.map SearchFilterGroup.key = SearchKey.all.map SearchKey.toString) (r : Filterable) :
    S.matchRoute r = some (decide (Passes S.valuesAt r)) :=
  matchRoute_eq_passes (fun k => by
    obtain ⟨g, hg⟩ := exists_getElem?_position (length_of_keys hS) k
    exact ⟨g, hg, by simpa [List.getElem?_map, hg] using congrArg (·[k.position]?) hS⟩) r

/-- The values of two sets, facet by facet, once some operation pairs up their groups. -/
lemma valuesAt_zipWith {op : SearchFilterGroup → SearchFilterGroup → SearchFilterGroup}
    {A B : SearchFilters} {k : SearchKey} {a b : SearchFilterGroup} (ha : A[k.position]? = some a)
    (hb : B[k.position]? = some b) :
    valuesAt (List.zipWith op A B) k = (op a b).filters.map (·.value) :=
  valuesAt_of (getElem?_zipWith_of ha hb)

lemma keys_zipWith (op : SearchFilterGroup → SearchFilterGroup → SearchFilterGroup)
    (hop : ∀ a b, (op a b).key = a.key) {A B : SearchFilters} (hA : A.OfKinds P)
    (hB : B.OfKinds P) :
    (List.zipWith op A B).map SearchFilterGroup.key = SearchKey.all.map SearchKey.toString :=
  (map_key_zipWith hop (by rw [length_of_keys hA.keys, length_of_keys hB.keys])).trans hA.keys

end SearchFilters

/-! ### The set operations on the values -/

namespace SearchFilterGroup

/-- On values that are not `*string`s, the union holds the values of both groups. -/
lemma values_combined {a b : SearchFilterGroup}
    (h : ∀ x ∈ a.filters ++ b.filters, x.value.deref = x.value) (v : FilterValue) :
    v ∈ (combined a b).filters.map (·.value) ↔ v ∈ (a.filters ++ b.filters).map (·.value) := by
  simp only [List.mem_map, combined_filters]
  constructor
  · rintro ⟨x, hx, rfl⟩
    exact ⟨x, List.mem_append.2 (mem_unionBy hx), rfl⟩
  · rintro ⟨x, hx, rfl⟩
    rcases List.mem_append.1 hx with hxa | hxb
    · exact ⟨x, prefix_unionBy _ _ hxa, rfl⟩
    rcases covered_unionBy (r := SearchFilter.same) a.filters b.filters x hxb with
      hx' | ⟨y, hy, hyx⟩
    · exact ⟨x, hx', rfl⟩
    · have hs : y.value.deref = x.value.deref := (of_decide_eq_true hyx).2
      exact ⟨y, hy, by rw [← h y (List.mem_append.2 (mem_unionBy hy)), hs, h x hx]⟩

/-- On values that are not `*string`s and have their components, the difference holds the values
of the left group that the right one does not. -/
lemma values_subtracted {a b : SearchFilterGroup}
    (h : ∀ x ∈ a.filters ++ b.filters, x.value.deref = x.value ∧ x.value.IsTriple)
    (v : FilterValue) :
    v ∈ (subtracted a b).filters.map (·.value) ↔
      v ∈ a.filters.map (·.value) ∧ v ∉ b.filters.map (·.value) := by
  simp only [subtracted, rebuildIndex_filters, List.mem_map, List.mem_filter, Bool.not_eq_true',
    List.any_eq_false, SearchFilter.same, decide_eq_true_eq, not_exists, not_and]
  constructor
  · rintro ⟨x, ⟨hx, hnb⟩, rfl⟩
    refine ⟨⟨x, hx, rfl⟩, fun y hy hyx => hnb y hy ⟨(h y (List.mem_append_right _ hy)).2, ?_⟩⟩
    rw [hyx]
  · rintro ⟨⟨x, hx, rfl⟩, hnb⟩
    refine ⟨x, ⟨hx, fun y hy hyx => hnb y hy ?_⟩, rfl⟩
    rw [← (h y (List.mem_append_right _ hy)).1, hyx.2, (h x (List.mem_append_left _ hx)).1]

lemma values_merged (a b : SearchFilterGroup) :
    (merged a b).filters.map (·.value) = a.filters.map (·.value) := by
  simp [Function.comp_def]

end SearchFilterGroup

namespace SearchFilters

/-- Values of admitted sets are `*string`s only at the sources. -/
lemma Admitted.deref_eq {A : SearchFilters} (hA : A.Admitted P) {k : SearchKey}
    {a : SearchFilterGroup} (ha : A[k.position]? = some a) (hk : k ≠ .sources) :
    ∀ x ∈ a.filters, x.value.deref = x.value :=
  fun x hx => (hA.values k a ha x hx).deref_eq hk

/-- Two admitted sets whose sources are plain strings hold no `*string` at any facet. -/
lemma deref_eq_of_sources {A B : SearchFilters} (hA : A.Admitted P) (hB : B.Admitted P)
    (hsrc : ∀ v ∈ A.valuesAt .sources ++ B.valuesAt .sources, v.deref = v) {k : SearchKey}
    {a b : SearchFilterGroup} (ha : A[k.position]? = some a) (hb : B[k.position]? = some b) :
    ∀ x ∈ a.filters ++ b.filters, x.value.deref = x.value := fun x hx => by
  by_cases hk : k = .sources
  · subst hk
    rw [valuesAt_of ha, valuesAt_of hb, ← List.map_append] at hsrc
    exact hsrc _ (List.mem_map_of_mem _ hx)
  · rcases List.mem_append.1 hx with hx | hx
    exacts [hA.deref_eq ha hk x hx, hB.deref_eq hb hk x hx]

/-- A combined set matches a route as the two sets' values joined facet by facet would: for the
sets of values of the facets' kinds the engine builds, whose sources are plain strings, a route
passes `A.Combine(B)` exactly when, at the sources, ASNs and address families, both sets list
none or one of the values listed on either side matches the route, and the route matches every
community, extended community and large community listed on either side. -/
theorem matchRoute_combine {A B : SearchFilters} (hA : A.Admitted P) (hB : B.Admitted P)
    (hsrc : ∀ v ∈ A.valuesAt .sources ++ B.valuesAt .sources, v.deref = v) (r : Filterable) :
    ∃ C, A.combine B = some C ∧
      C.matchRoute r = some (decide (Passes (fun k => A.valuesAt k ++ B.valuesAt k) r)) := by
  refine ⟨_, combine_eq_zipWith hA.ofKinds hB.ofKinds, ?_⟩
  rw [matchRoute_eq_passes_of_keys (keys_zipWith SearchFilterGroup.combined (fun _ _ => rfl)
    hA.ofKinds hB.ofKinds)]
  refine congrArg some (decide_passes_congr (fun k v => ?_) r)
  obtain ⟨a, ha⟩ := exists_getElem?_position (length_of_keys hA.keys) k
  obtain ⟨b, hb⟩ := exists_getElem?_position (length_of_keys hB.keys) k
  rw [valuesAt_zipWith ha hb, valuesAt_of ha, valuesAt_of hb, ← List.map_append]
  exact SearchFilterGroup.values_combined (deref_eq_of_sources hA hB hsrc ha hb) v

/-- A route from the route server `rs1`, of ASN 64512 and address family 4, with every
community. -/
def routeFromRs1 : Filterable :=
  ⟨fun id => id == "rs1", fun asn => asn == 64512, fun _ => true, fun _ => true, fun _ => true,
    fun af => af == 4⟩

/-- Combining a set holding ASN 64512 with one holding the source `rs1`. -/
theorem matchRoute_combine_asn_source :
    ∃ A B, newSearchFilters.updateGroup SearchKey.asns.toString
        (·.addFilter ⟨1, "", .int 64512⟩) = some A ∧
      newSearchFilters.updateGroup SearchKey.sources.toString
        (·.addFilter ⟨1, "rs1", .string "rs1"⟩) = some B ∧
      A.Admitted .pairing ∧ B.Admitted .pairing ∧
      (∀ v ∈ A.valuesAt .sources ++ B.valuesAt .sources, v.deref = v) ∧
      ∃ C, A.combine B = some C ∧ C.matchRoute routeFromRs1 =
        some (decide (Passes (fun k => A.valuesAt k ++ B.valuesAt k) routeFromRs1)) :=
  have hA := wellFormed_newSearchFilters.addFilter (P := .pairing)
    (rfl : newSearchFilters.updateGroup SearchKey.asns.toString
      (·.addFilter ⟨1, "", .int 64512⟩) = some _) (by decide)
  have hB := wellFormed_newSearchFilters.addFilter (P := .pairing)
    (rfl : newSearchFilters.updateGroup SearchKey.sources.toString
      (·.addFilter ⟨1, "rs1", .string "rs1"⟩) = some _) (by decide)
  ⟨_, _, rfl, rfl, hA.admitted, hB.admitted, by decide,
    matchRoute_combine hA.admitted hB.admitted (by decide) _⟩

/-- `MergeProperties` never changes which routes a set matches: it copies names and cardinalities
and leaves the values as they are. -/
theorem matchRoute_mergeProperties {S O : SearchFilters} (hS : S.OfKinds P) (hO : O.OfKinds P)
    (r : Filterable) : ∃ S', S.mergeProperties O = some S' ∧ S'.matchRoute r = S.matchRoute r := by
  refine ⟨_, mergeProperties_eq_zipWith hS hO, ?_⟩
  rw [matchRoute_eq_passes_of_keys (keys_zipWith SearchFilterGroup.merged (fun _ _ => rfl) hS hO),
    matchRoute_eq_passes_of_keys hS.keys]
  congr 3
  funext k
  obtain ⟨a, ha⟩ := exists_getElem?_position (length_of_keys hS.keys) k
  obtain ⟨b, hb⟩ := exists_getElem?_position (length_of_keys hO.keys) k
  rw [valuesAt_zipWith ha hb, valuesAt_of ha, SearchFilterGroup.values_merged]

/-- Merging the properties of a set holding ASN 64512 into itself. -/
theorem matchRoute_mergeProperties_asn :
    ∃ S, newSearchFilters.updateGroup SearchKey.asns.toString
        (·.addFilter ⟨1, "AS64512", .int 64512⟩) = some S ∧ S.OfKinds .pairing ∧
      ∃ S', S.mergeProperties S = some S' ∧
        S'.matchRoute routeFromRs1 = S.matchRoute routeFromRs1 :=
  have hS := wellFormed_newSearchFilters.addFilter (P := .pairing)
    (rfl : newSearchFilters.updateGroup SearchKey.asns.toString
      (·.addFilter ⟨1, "AS64512", .int 64512⟩) = some _) (by decide)
  ⟨_, rfl, hS.admitted.ofKinds,
    matchRoute_mergeProperties hS.admitted.ofKinds hS.admitted.ofKinds _⟩

/-- `Sub` takes the other set's values out: for the sets of values of the facets' kinds the
engine builds, whose sources are plain strings, a route passes `A.Sub(B)` exactly when it passes
the values of `A` that `B` does not list. -/
theorem matchRoute_sub {A B : SearchFilters} (hA : A.Admitted P) (hB : B.Admitted P)
    (hsrc : ∀ v ∈ A.valuesAt .sources ++ B.valuesAt .sources, v.deref = v) (r : Filterable) :
    ∃ D, A.sub B = some D ∧ D.matchRoute r =
      some (decide (Passes (fun k => (A.valuesAt k).filter (· ∉ B.valuesAt k)) r)) := by
  refine ⟨_, sub_eq_zipWith hA.ofKinds hB.ofKinds, ?_⟩
  rw [matchRoute_eq_passes_of_keys (keys_zipWith SearchFilterGroup.subtracted (fun _ _ => rfl)
    hA.ofKinds hB.ofKinds)]
  refine congrArg some (decide_passes_congr (fun k v => ?_) r)
  obtain ⟨a, ha⟩ := exists_getElem?_position (length_of_keys hA.keys) k
  obtain ⟨b, hb⟩ := exists_getElem?_position (length_of_keys hB.keys) k
  rw [valuesAt_zipWith ha hb, List.mem_filter, decide_eq_true_iff, valuesAt_of ha, valuesAt_of hb]
  refine SearchFilterGroup.values_subtracted
    (fun x hx => ⟨deref_eq_of_sources hA hB hsrc ha hb x hx, ?_⟩) v
  rcases List.mem_append.1 hx with hx | hx
  exacts [(hA.values k a ha x hx).triple, (hB.values k b hb x hx).triple]

/-- Taking the source `rs1` out of a set holding the sources `rs1` and `rs2`. -/
theorem matchRoute_sub_source :
    ∃ A B, newSearchFilters.updateGroup SearchKey.sources.toString
        (·.addFilters [⟨1, "rs1", .string "rs1"⟩, ⟨1, "rs2", .string "rs2"⟩]) = some A ∧
      newSearchFilters.updateGroup SearchKey.sources.toString
        (·.addFilter ⟨1, "rs1", .string "rs1"⟩) = some B ∧
      A.Admitted .pairing ∧ B.Admitted .pairing ∧
      (∀ v ∈ A.valuesAt .sources ++ B.valuesAt .sources, v.deref = v) ∧
      ∃ D, A.sub B = some D ∧ D.matchRoute routeFromRs1 =
        some (decide (Passes (fun k => (A.valuesAt k).filter (· ∉ B.valuesAt k)) routeFromRs1)) :=
  have hA := wellFormed_newSearchFilters.addFilters (P := .pairing)
    (rfl : newSearchFilters.updateGroup SearchKey.sources.toString
      (·.addFilters [⟨1, "rs1", .string "rs1"⟩, ⟨1, "rs2", .string "rs2"⟩]) = some _) (by decide)
  have hB := wellFormed_newSearchFilters.addFilter (P := .pairing)
    (rfl : newSearchFilters.updateGroup SearchKey.sources.toString
      (·.addFilter ⟨1, "rs1", .string "rs1"⟩) = some _) (by decide)
  ⟨_, _, rfl, rfl, hA.admitted, hB.admitted, by decide,
    matchRoute_sub hA.admitted hB.admitted (by decide) _⟩

/-! ### Adding address families -/

/-- `AddFilter` at a facet other than the sources of a set the engine builds adds the value to
the facet's values and keeps the invariant. -/
lemma WellFormed.valuesAt_addFilter {S : SearchFilters} (hS : S.WellFormed P) {k : SearchKey}
    {f : SearchFilter} (hf : k.Admits P f.value) (hk : k ≠ .sources) :
    ∃ S', S.updateGroup k.toString (·.addFilter f) = some S' ∧ S'.WellFormed P ∧
      ∀ k' v, v ∈ S'.valuesAt k' ↔ v ∈ S.valuesAt k' ∨ (k' = k ∧ v = f.value) := by
  have hlen := length_of_keys hS.admitted.keys
  obtain ⟨a, ha⟩ := exists_getElem?_position hlen k
  obtain ⟨a', h', -, hfs, -⟩ :=
    SearchFilterGroup.addFilter_spec (hS.consistent a (List.getElem?_mem ha)) f
  have hu : S.updateGroup k.toString (·.addFilter f) = some (S.set k.position a') := by
    simp [ha, h']
  refine ⟨_, hu, hS.addFilter hu hf, fun k' v => ?_⟩
  rw [valuesAt, getElem?_set_position (hlen ▸ k.position_lt_six)]
  by_cases hk' : k' = k
  · subst hk'
    simp only [if_true, hfs, true_and, valuesAt_of ha]
    exact mem_values_countIn (SearchKey.injOn_admits P k') ⟨hf, hf.deref_eq hk⟩
      (fun x hx => ⟨hS.admitted.values k' a ha x hx, hS.admitted.deref_eq ha hk x hx⟩) v
  · simp only [hk', if_false, false_and, or_false]
    rfl

/-- `SetFilterAddrFamilies` adds the enabled families to what a route must match: on a set the
engine builds, the set returned matches a route as the set's values would with `4` added to the
address families when IPv4 is enabled and `6` when IPv6 is. -/
theorem matchRoute_setFilterAddrFamilies {S : SearchFilters} (hS : S.WellFormed P)
    (ip4 ip6 : Bool) (r : Filterable) :
    ∃ S', S.setFilterAddrFamilies ip4 ip6 = some S' ∧
      S'.matchRoute r = some (decide (Passes (Function.update S.valuesAt .addrFamily
        (S.valuesAt .addrFamily ++ (if ip4 then [.int 4] else []) ++
          (if ip6 then [.int 6] else []))) r)) := by
  have step : ∀ (b : Bool) (af : UInt8) {T : SearchFilters}, T.WellFormed P →
      ∃ T', (if b then T.addFilterAddrFamily af else some T) = some T' ∧ T'.WellFormed P ∧
        ∀ k v, v ∈ T'.valuesAt k ↔ v ∈ T.valuesAt k ∨ (k = .addrFamily ∧ b ∧ v = .int af.toNat)
    | false, _, T, hT => ⟨T, rfl, hT, by simp⟩
    | true, af, T, hT => by
      obtain ⟨T', h, hw, hv⟩ := hT.valuesAt_addFilter (k := .addrFamily)
        (f := addrFamilyFilter af) ⟨⟨rfl, trivial⟩, trivial⟩ (by decide)
      exact ⟨T', h, hw, fun k v => by simpa [addrFamilyFilter] using hv k v⟩
  obtain ⟨S₁, h₁, hw₁, hv₁⟩ := step ip4 addrFamilyIPv4 hS
  obtain ⟨S₂, h₂, hw₂, hv₂⟩ := step ip6 addrFamilyIPv6 hw₁
  refine ⟨S₂, by rw [setFilterAddrFamilies_eq, h₁, Option.some_bind, h₂], ?_⟩
  rw [matchRoute_eq_passes_of_keys hw₂.admitted.keys]
  refine congrArg some (decide_passes_congr (fun k v => ?_) r)
  rw [hv₂, hv₁]
  by_cases hk : k = .addrFamily
  · subst hk
    cases ip4 <;> cases ip6 <;> simp [addrFamilyIPv4, addrFamilyIPv6, or_assoc]
  · simp [hk, Function.update_noteq hk]

/-- Enabling both families on a set that already holds IPv4: the IPv4 filter is counted again
and IPv6 is added. -/
theorem matchRoute_setFilterAddrFamilies_ipv4 :
    ∃ S, newSearchFilters.addFilterAddrFamily addrFamilyIPv4 = some S ∧ S.WellFormed .pairing ∧
      ∃ S', S.setFilterAddrFamilies true true = some S' ∧
        S'.matchRoute routeFromRs1 = some (decide (Passes (Function.update S.valuesAt
          .addrFamily (S.valuesAt .addrFamily ++ (if true then [.int 4] else []) ++
            (if true then [.int 6] else []))) routeFromRs1)) :=
  have h : newSearchFilters.addFilterAddrFamily addrFamilyIPv4 = some _ := rfl
  have hS := wellFormed_newSearchFilters.addFilterAddrFamily (P := .pairing) h
  ⟨_, h, hS, matchRoute_setFilterAddrFamilies hS true true _⟩

example : ((newSearchFilters.addFilterAddrFamily addrFamilyIPv4).bind
    (·.setFilterAddrFamilies true true)).map (·[SearchKey.addrFamily.position]?.map (·.filters)) =
      some (some [⟨2, "IPv4", .int 4⟩, ⟨1, "IPv6", .int 6⟩]) := by decide

/-! ### A route and the filters built from it -/

/-- `UpdateFromRoute` on a fresh set puts in the values of the route's communities, and only
those. -/
lemma updateFromRoute_values {r : Route}
    (hext : ∀ e ∈ r.bgp.extCommunities, e.values.length = 2) :
    ∃ S, newSearchFilters.updateFromRoute r = some S ∧
      S.map SearchFilterGroup.key = SearchKey.all.map SearchKey.toString ∧
      ∀ k v, v ∈ S.valuesAt k ↔ v ∈ (r.bgp.filters k).map (·.value) := by
  obtain ⟨S, hS, hh⟩ := holds_newSearchFilters.updateCommunities r.bgp
  refine ⟨S, hS,
    (wellFormed_newSearchFilters.updateCommunities (P := .pairing) hext hS).admitted.keys,
    fun k v => ?_⟩
  obtain ⟨g, hg, -, hgf⟩ := hh k
  rw [valuesAt_of hg, hgf]
  refine (mem_values_foldl_countIn (SearchKey.injOn_admits .pairing k) (a := []) (fun x hx => ?_)
    v).trans (by simp)
  cases k <;> simp only [List.nil_append, BGPInfo.filters, List.mem_map, List.not_mem_nil] at hx
  all_goals obtain ⟨c, hc, rfl⟩ := hx
  · exact ⟨admits_community _ c, rfl⟩
  · exact ⟨⟨⟨rfl, trivial⟩, hext c hc⟩, rfl⟩
  · exact ⟨admits_largeCommunity (admits_community _ c), rfl⟩

/-- A route matches the filters built from it exactly when its communities have their lengths:
for a route whose community methods are the presence checks of its `BGPInfo`, and whose extended
communities have three components, the set `UpdateFromRoute` builds from it on a fresh set matches
it exactly when every standard community has two components and every large community three. -/
theorem matchRoute_updateFromRoute_self {r : Route} {f : Filterable}
    (hc : f.matchCommunity = r.bgp.hasCommunity)
    (he : f.matchExtCommunity = r.bgp.hasExtCommunity)
    (hl : f.matchLargeCommunity = r.bgp.hasLargeCommunity)
    (hext : ∀ e ∈ r.bgp.extCommunities, e.values.length = 2) :
    ∃ S, newSearchFilters.updateFromRoute r = some S ∧
      S.matchRoute f = some (decide ((∀ c ∈ r.bgp.communities, c.length = 2) ∧
        ∀ c ∈ r.bgp.largeCommunities, c.length = 3)) := by
  obtain ⟨S, hS, hkeys, hv⟩ := updateFromRoute_values hext
  refine ⟨S, hS, ?_⟩
  rw [matchRoute_eq_passes_of_keys hkeys, decide_passes_congr hv]
  refine congrArg some (decide_eq_decide.2 ?_)
  simp only [Passes, List.forall_mem_cons, List.not_mem_nil, false_implies,
    implies_true, and_true, BGPInfo.filters, List.map_nil, true_or, true_and, List.map_map,
    List.forall_mem_map, Function.comp_def, communityFilter, extCommunityFilter,
    SearchKey.comparator, searchFilterMatchCommunity, searchFilterMatchExtCommunity,
    searchFilterMatchLargeCommunity, searchFilterMatchAs, FilterValue.asCommunity?,
    FilterValue.asExtCommunity?, hc, he, hl, BGPInfo.hasCommunity, BGPInfo.hasLargeCommunity,
    hasCommunityOfLength_iff, BGPInfo.hasExtCommunity_iff]
  exact ⟨fun ⟨h₁, _, h₃⟩ => ⟨fun c hc => (h₁ c hc).1, fun c hc => (h₃ c hc).1⟩,
    fun ⟨h₁, h₃⟩ => ⟨fun c hc => ⟨h₁ c hc, hc⟩, fun e he => ⟨hext e he, he⟩,
      fun c hc => ⟨h₃ c hc, hc⟩⟩⟩

/-- A route with one standard, one large and one extended community. -/
def routeWithCommunities : Route :=
  ⟨⟨[[65000, 1]], [[65000, 1, 2]], [⟨"rt", [65000, 7]⟩]⟩⟩

/-- The set built from `routeWithCommunities` matches the route, its communities having their
lengths. -/
theorem matchRoute_updateFromRoute_self_route :
    ∃ S, newSearchFilters.updateFromRoute routeWithCommunities = some S ∧
      S.matchRoute ⟨fun _ => true, fun _ => true, routeWithCommunities.bgp.hasCommunity,
          routeWithCommunities.bgp.hasExtCommunity, routeWithCommunities.bgp.hasLargeCommunity,
          fun _ => true⟩ =
        some (decide ((∀ c ∈ routeWithCommunities.bgp.communities, c.length = 2) ∧
          ∀ c ∈ routeWithCommunities.bgp.largeCommunities, c.length = 3)) :=
  matchRoute_updateFromRoute_self rfl rfl rfl (by decide)

/-! ### Sets built from lookup routes -/

end SearchFilters

/-- No comparator accepts a `*string`: a non-empty group of them matches no route under
`MatchAny`, whatever its key. -/
lemma SearchFilterGroup.matchAny_strPtr {g : SearchFilterGroup} (hne : g.filters ≠ [])
    (hp : ∀ x ∈ g.filters, ∃ p, x.value = .strPtr p) (r : Filterable) : g.matchAny r = false := by
  unfold SearchFilterGroup.matchAny
  rw [if_neg (by simpa using hne)]
  split
  · rfl
  · rename_i cmp hcmp
    obtain ⟨k, -, rfl⟩ := Option.map_eq_some'.1 hcmp
    refine List.any_eq_false.2 fun x hx => ?_
    obtain ⟨p, hp⟩ := hp x hx
    cases k <;> simp [hp, SearchKey.comparator, searchFilterMatchSource, searchFilterMatchASN,
      searchFilterMatchCommunity, searchFilterMatchExtCommunity, searchFilterMatchLargeCommunity,
      searchFilterMatchAddrFamily, searchFilterMatchAs, FilterValue.asString?, FilterValue.asInt?,
      FilterValue.asCommunity?, FilterValue.asExtCommunity?]

/-- Only lookup routes add to the sources, and what they add is a `*string`. -/
lemma Observation.strPtr_of_mem_sources {o : Observation} {f : SearchFilter}
    (h : f ∈ o.filters .sources) : ∃ p, f.value = .strPtr p := by
  cases o <;> simp [Observation.filters, BGPInfo.filters] at h
  exact ⟨_, congrArg SearchFilter.value h⟩

namespace SearchFilters

/-- A set whose sources group holds only `*string` values, and at least one, matches no route. -/
lemma matchRoute_of_strPtr_sources {S : SearchFilters} {g : SearchFilterGroup}
    (hg : S[SearchKey.sources.position]? = some g) (hne : g.filters ≠ [])
    (hp : ∀ x ∈ g.filters, ∃ p, x.value = .strPtr p) (r : Filterable) :
    S.matchRoute r = some false := by
  simp [matchRoute, hg, SearchFilterGroup.matchAny_strPtr hne hp r]

/-- Filter sets built from lookup routes match no route: `UpdateSourcesFromLookupRoute` keeps the
route server's id as a `*string`, and the comparator of the sources asserts a `string`. Whatever
routes, lookup routes and address families a fresh set observes, once one lookup route is among
them `MatchRoute` is false for every route. -/
theorem matchRoute_observe_lookupRoute {os : List Observation}
    (hos : ∃ r, Observation.lookupRoute r ∈ os) (f : Filterable) :
    ∃ S, os.foldlM SearchFilters.observe newSearchFilters = some S ∧
      S.matchRoute f = some false := by
  obtain ⟨S, hS, hh⟩ := Holds.foldlM_observe os holds_newSearchFilters
  obtain ⟨g, hg, -, hgf⟩ := hh .sources
  obtain ⟨r, hr⟩ := hos
  refine ⟨S, hS, matchRoute_of_strPtr_sources hg ?_ ?_ f⟩ <;> rw [hgf]
  · exact foldl_countIn_ne_nil (.inr (List.ne_nil_of_mem
      (List.mem_flatMap.2 ⟨_, hr, List.mem_singleton_self (sourceFilter r)⟩)))
  · refine foldl_countIn_values (Q := fun v => ∃ p, v = .strPtr p) fun x hx => ?_
    obtain ⟨o, -, hx⟩ := List.mem_flatMap.1 (by simpa using hx)
    exact Observation.strPtr_of_mem_sources hx

/-- One lookup route from `rs1`: the set built from it does not match a route from `rs1`. -/
theorem matchRoute_observe_lookupRoute_rs1 :
    (∃ r, Observation.lookupRoute r ∈
      [Observation.lookupRoute ⟨⟨⟨[], [], []⟩⟩, ⟨⟨1, "rs1"⟩, "rs1"⟩, ⟨64512, "AS64512"⟩⟩]) ∧
    ∃ S, [Observation.lookupRoute ⟨⟨⟨[], [], []⟩⟩, ⟨⟨1, "rs1"⟩, "rs1"⟩, ⟨64512, "AS64512"⟩⟩].foldlM
        SearchFilters.observe newSearchFilters = some S ∧
      S.matchRoute routeFromRs1 = some false :=
  ⟨⟨_, List.mem_singleton_self _⟩,
    matchRoute_observe_lookupRoute ⟨_, List.mem_singleton_self _⟩ routeFromRs1⟩

end SearchFilters

end AliceLg
