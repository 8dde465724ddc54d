import AliceLg.Api.SearchFilters

/-!
# `MatchRoute`

A set of the six facets in the fixed order matches a route when the route has one of the source
ids, one of the ASNs, all the communities, extended communities and large communities, and one
of the address families the set holds; an empty group does not constrain. The early returns of
`MatchRoute`, `MatchAny` and `MatchAll` and the dispatch of `selectCmpFuncByKey` on the group's
key string compute exactly that, so the answer depends only on which values each group holds.
-/

namespace AliceLg

namespace SearchFilterGroup

variable {g g' : SearchFilterGroup} {k : SearchKey} {r : Filterable}

lemma matchAny_eq_true (hk : g.key = k.toString) :
    g.matchAny r = true ↔ g.filters = [] ∨ ∃ f ∈ g.filters, k.comparator r f.value = true := by
  cases h : g.filters <;> simp [matchAny, selectCmpFuncByKey, hk, h]

lemma matchAll_eq_true (hk : g.key = k.toString) :
    g.matchAll r = true ↔ ∀ f ∈ g.filters, k.comparator r f.value = true := by
  cases h : g.filters <;> simp [matchAll, selectCmpFuncByKey, hk, h]

/-! ### Only the values count -/

section SameValues

variable (hv : ∀ v, v ∈ g.filters.map SearchFilter.value ↔ v ∈ g'.filters.map SearchFilter.value)
include hv

lemma filters_eq_nil_iff_of_values : g.filters = [] ↔ g'.filters = [] := by
  simpa [List.eq_nil_iff_forall_not_mem] using forall_congr' fun v => not_congr (hv v)

lemma exists_iff_of_values (p : FilterValue → Prop) :
    (∃ f ∈ g.filters, p f.value) ↔ ∃ f ∈ g'.filters, p f.value := by
  have h : ∀ l : List SearchFilter, (∃ f ∈ l, p f.value) ↔ ∃ v ∈ l.map SearchFilter.value, p v :=
    fun l => by simp
  rw [h, h]
  exact exists_congr fun v => and_congr_left' (hv v)

lemma forall_iff_of_values (p : FilterValue → Prop) :
    (∀ f ∈ g.filters, p f.value) ↔ ∀ f ∈ g'.filters, p f.value := by
  have h : ∀ l : List SearchFilter, (∀ f ∈ l, p f.value) ↔ ∀ v ∈ l.map SearchFilter.value, p v :=
    fun l => by simp
  rw [h, h]
  exact forall_congr' fun v => imp_congr_left (hv v)

lemma matchAny_congr (hk : g.key = k.toString) (hk' : g'.key = k.toString) :
    g.matchAny r = g'.matchAny r := by
  rw [Bool.eq_iff_iff, matchAny_eq_true hk, matchAny_eq_true hk']
  exact or_congr (filters_eq_nil_iff_of_values hv)
    (exists_iff_of_values hv fun v => k.comparator r v = true)

lemma matchAll_congr (hk : g.key = k.toString) (hk' : g'.key = k.toString) :
    g.matchAll r = g'.matchAll r := by
  rw [Bool.eq_iff_iff, matchAll_eq_true hk, matchAll_eq_true hk']
  exact forall_iff_of_values hv fun v => k.comparator r v = true

end SameValues

end SearchFilterGroup

namespace SearchFilters

/-- An early `return false` before a verdict `c` is the conjunction with `c`. -/
lemma ite_not_some_false (b c : Bool) :
    (if (!b) = true then some false else some c) = some (b && c) := by
  cases b <;> rfl

/-- On the six groups in order, `MatchRoute` never panics and is the conjunction of the facets'
verdicts, `MatchAny` for sources, ASNs and address families and `MatchAll` for the communities. -/
lemma matchRoute_six {g₀ g₁ g₂ g₃ g₄ g₅ : SearchFilterGroup} (r : Filterable) :
    matchRoute [g₀, g₁, g₂, g₃, g₄, g₅] r = some (g₀.matchAny r && g₁.matchAny r &&
      g₂.matchAll r && g₃.matchAll r && g₄.matchAll r && g₅.matchAny r) := by
  simp only [matchRoute, getGroupByKey, SearchKey.ofString?_toString, Option.some_bind,
    SearchKey.position, List.getElem?_cons_zero, List.getElem?_cons_succ, Option.bind_eq_bind,
    Option.pure_def, ite_not_some_false, Bool.and_true, Bool.and_assoc]

/-- `MatchRoute` on the six groups in the fixed order is the conjunction of the facets'
conditions (a source id, an ASN and an address family among those of the group, when it is not
empty, and every community, extended community and large community of the groups), and it is the
same on any set whose groups hold the same values. -/
theorem matchRoute_iff {sources asns communities extCommunities largeCommunities addrFamily :
      SearchFilterGroup}
    (hkeys : [sources, asns, communities, extCommunities, largeCommunities, addrFamily].map
      SearchFilterGroup.key = SearchKey.all.map SearchKey.toString) (r : Filterable) :
    (∃ b, matchRoute [sources, asns, communities, extCommunities, largeCommunities, addrFamily] r =
        some b ∧
      (b = true ↔
        (sources.filters = [] ∨
          ∃ f ∈ sources.filters, ∃ id, f.value = .string id ∧ r.matchSourceID id = true) ∧
        (asns.filters = [] ∨
          ∃ f ∈ asns.filters, ∃ asn, f.value = .int asn ∧ r.matchASN asn = true) ∧
        (∀ f ∈ communities.filters, ∃ c, f.value = .community c ∧ r.matchCommunity c = true) ∧
        (∀ f ∈ extCommunities.filters,
          ∃ c, f.value = .extCommunity c ∧ r.matchExtCommunity c = true) ∧
        (∀ f ∈ largeCommunities.filters,
          ∃ c, f.value = .community c ∧ r.matchLargeCommunity c = true) ∧
        (addrFamily.filters = [] ∨ ∃ f ∈ addrFamily.filters,
          ∃ v, f.value = .int v ∧ r.matchAddrFamily (uint8OfInt v) = true))) ∧
    ∀ S : SearchFilters, S.map SearchFilterGroup.key = SearchKey.all.map SearchKey.toString →
      (∀ (i : Nat) (g g' : SearchFilterGroup),
        [sources, asns, communities, extCommunities, largeCommunities, addrFamily][i]? = some g →
        S[i]? = some g' →
        ∀ v, v ∈ g.filters.map SearchFilter.value ↔ v ∈ g'.filters.map SearchFilter.value) →
      S.matchRoute r =
        matchRoute [sources, asns, communities, extCommunities, largeCommunities, addrFamily]
          r := by
  simp only [SearchKey.all, List.map_cons, List.map_nil, List.cons.injEq, and_true] at hkeys
  obtain ⟨h₀, h₁, h₂, h₃, h₄, h₅⟩ := hkeys
  refine ⟨⟨_, matchRoute_six r, ?_⟩, fun S hS hv => ?_⟩
  · simp only [Bool.and_eq_true, and_assoc,
      SearchFilterGroup.matchAny_eq_true (k := .sources) h₀,
      SearchFilterGroup.matchAny_eq_true (k := .asns) h₁,
      SearchFilterGroup.matchAll_eq_true (k := .communities) h₂,
      SearchFilterGroup.matchAll_eq_true (k := .extCommunities) h₃,
      SearchFilterGroup.matchAll_eq_true (k := .largeCommunities) h₄,
      SearchFilterGroup.matchAny_eq_true (k := .addrFamily) h₅, SearchKey.comparator,
      searchFilterMatchSource, searchFilterMatchASN, searchFilterMatchCommunity,
      searchFilterMatchExtCommunity, searchFilterMatchLargeCommunity, searchFilterMatchAddrFamily,
      searchFilterMatchAs_eq_true, FilterValue.asString?_eq_some, FilterValue.asInt?_eq_some,
      FilterValue.asCommunity?_eq_some, FilterValue.asExtCommunity?_eq_some]
  · obtain ⟨b₀, b₁, b₂, b₃, b₄, b₅, rfl⟩ := exists_six_of_keys hS
    simp only [SearchKey.all, List.map_cons, List.map_nil, List.cons.injEq, and_true] at hS
    obtain ⟨k₀, k₁, k₂, k₃, k₄, k₅⟩ := hS
    rw [matchRoute_six, matchRoute_six,
      SearchFilterGroup.matchAny_congr (hv 0 sources b₀ rfl rfl) h₀ k₀,
      SearchFilterGroup.matchAny_congr (hv 1 asns b₁ rfl rfl) h₁ k₁,
      SearchFilterGroup.matchAll_congr (hv 2 communities b₂ rfl rfl) h₂ k₂,
      SearchFilterGroup.matchAll_congr (hv 3 extCommunities b₃ rfl rfl) h₃ k₃,
      SearchFilterGroup.matchAll_congr (hv 4 largeCommunities b₄ rfl rfl) h₄ k₄,
      SearchFilterGroup.matchAny_congr (hv 5 addrFamily b₅ rfl rfl) h₅ k₅]

/-- `MatchRoute` on a set that constrains only the ASN, to 64512, for a route of that ASN. -/
theorem matchRoute_iff_asn :
    [.empty "sources", ⟨"asns", [⟨1, "", .int 64512⟩], fun _ => none⟩, .empty "communities",
        .empty "ext_communities", .empty "large_communities", .empty "addr_family"].map
      SearchFilterGroup.key = SearchKey.all.map SearchKey.toString ∧
    (∃ b, matchRoute [.empty "sources", ⟨"asns", [⟨1, "", .int 64512⟩], fun _ => none⟩,
          .empty "communities", .empty "ext_communities", .empty "large_communities",
          .empty "addr_family"]
        ⟨fun _ => true, (· == 64512), fun _ => true, fun _ => true, fun _ => true, fun _ => true⟩ =
        some b ∧
      (b = true ↔
        ((SearchFilterGroup.empty "sources").filters = [] ∨
          ∃ f ∈ (SearchFilterGroup.empty "sources").filters, ∃ id, f.value = .string id ∧
            (⟨fun _ => true, (· == 64512), fun _ => true, fun _ => true, fun _ => true,
              fun _ => true⟩ : Filterable).matchSourceID id = true) ∧
        ((⟨"asns", [⟨1, "", .int 64512⟩], fun _ => none⟩ : SearchFilterGroup).filters = [] ∨
          ∃ f ∈ (⟨"asns", [⟨1, "", .int 64512⟩], fun _ => none⟩ : SearchFilterGroup).filters,
            ∃ asn, f.value = .int asn ∧
              (⟨fun _ => true, (· == 64512), fun _ => true, fun _ => true, fun _ => true,
                fun _ => true⟩ : Filterable).matchASN asn = true) ∧
        (∀ f ∈ (SearchFilterGroup.empty "communities").filters, ∃ c, f.value = .community c ∧
          (⟨fun _ => true, (· == 64512), fun _ => true, fun _ => true, fun _ => true,
            fun _ => true⟩ : Filterable).matchCommunity c = true) ∧
        (∀ f ∈ (SearchFilterGroup.empty "ext_communities").filters, ∃ c, f.value = .extCommunity c ∧
          (⟨fun _ => true, (· == 64512), fun _ => true, fun _ => true, fun _ => true,
            fun _ => true⟩ : Filterable).matchExtCommunity c = true) ∧
        (∀ f ∈ (SearchFilterGroup.empty "large_communities").filters, ∃ c, f.value = .community c ∧
          (⟨fun _ => true, (· == 64512), fun _ => true, fun _ => true, fun _ => true,
            fun _ => true⟩ : Filterable).matchLargeCommunity c = true) ∧
        ((SearchFilterGroup.empty "addr_family").filters = [] ∨
          ∃ f ∈ (SearchFilterGroup.empty "addr_family").filters, ∃ v, f.value = .int v ∧
            (⟨fun _ => true, (· == 64512), fun _ => true, fun _ => true, fun _ => true,
              fun _ => true⟩ : Filterable).matchAddrFamily (uint8OfInt v) = true))) ∧
    ∀ S : SearchFilters, S.map SearchFilterGroup.key = SearchKey.all.map SearchKey.toString →
      (∀ (i : Nat) (g g' : SearchFilterGroup),
        [.empty "sources", ⟨"asns", [⟨1, "", .int 64512⟩], fun _ => none⟩, .empty "communities",
          .empty "ext_communities", .empty "large_communities", .empty "addr_family"][i]? =
            some g →
        S[i]? = some g' →
        ∀ v, v ∈ g.filters.map SearchFilter.value ↔ v ∈ g'.filters.map SearchFilter.value) →
      S.matchRoute
          ⟨fun _ => true, (· == 64512), fun _ => true, fun _ => true, fun _ => true,
            fun _ => true⟩ =
        matchRoute [.empty "sources", ⟨"asns", [⟨1, "", .int 64512⟩], fun _ => none⟩,
            .empty "communities", .empty "ext_communities", .empty "large_communities",
            .empty "addr_family"]
          ⟨fun _ => true, (· == 64512), fun _ => true, fun _ => true, fun _ => true,
            fun _ => true⟩ :=
  have hkeys : [SearchFilterGroup.empty "sources", ⟨"asns", [⟨1, "", .int 64512⟩], fun _ => none⟩,
      .empty "communities", .empty "ext_communities", .empty "large_communities",
      .empty "addr_family"].map SearchFilterGroup.key = SearchKey.all.map SearchKey.toString := rfl
  ⟨hkeys, matchRoute_iff hkeys _⟩

/-! ### Address families -/

/-- An address-family filter of 260, outside `0..255`, selects a route of family 4 (IPv4), since
`uint8(260)` is 4. -/
theorem matchRoute_addrFamily_260 :
    ¬ ((0 : Int) ≤ 260 ∧ (260 : Int) ≤ 255) ∧
    matchRoute [.empty "sources", .empty "asns", .empty "communities", .empty "ext_communities",
        .empty "large_communities", ⟨"addr_family", [⟨1, "", .int 260⟩], fun _ => none⟩]
      { matchSourceID := fun _ => false, matchASN := fun _ => false,
        matchCommunity := fun _ => false, matchExtCommunity := fun _ => false,
        matchLargeCommunity := fun _ => false, matchAddrFamily := (· == addrFamilyIPv4) } =
      some true :=
  ⟨by decide, rfl⟩

end SearchFilters

end AliceLg
