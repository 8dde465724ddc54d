import AliceLg.Api.SearchFilters.Tokens
import AliceLg.Api.SearchFilters.Match

/-!
# Searching: from a query to `MatchRoute`

`Passes` says what the values of a set ask of a route, facet by facet, and `MatchRoute` decides
it: `MatchAny` asks for one of the values, `MatchAll` for all of them, and an empty group for
nothing. `AddFilter` merges a filter into the one whose value renders to the same canonical
string. On the values of one facet's kind that are not `*string`s the canonical string tells
values apart, so a group built by `AddFilters` holds the values of the plain list of the filters
added: the merging and the index change no verdict. On the sets `FiltersFromQuery` and
`FiltersFromTokens` build, this reads `MatchRoute` off what the value parsers return for the
query's facets or for the `#`-tokens.
-/

namespace AliceLg

variable {P : StringPool}

/-! ### Values the canonical string tells apart -/

section Merging

variable {V : Set FilterValue} (hV : Set.InjOn filterValueAsString V)
include hV

/-- `countIn` keeps the values there and adds the new one. -/
lemma mem_values_countIn {f : SearchFilter} {fs : List SearchFilter} (hf : f.value ∈ V)
    (hfs : ∀ x ∈ fs, x.value ∈ V) (v : FilterValue) :
    v ∈ (countIn f fs).map (·.value) ↔ v ∈ fs.map (·.value) ∨ v = f.value := by
  induction fs with
  | nil => simp [countIn]
  | cons x xs ih =>
    have ih := ih fun y hy => hfs y (List.mem_cons_of_mem x hy)
    by_cases h : filterValueAsString x.value = filterValueAsString f.value
    · have hxf : x.value = f.value := hV (hfs x (List.mem_cons_self _ _)) hf h
      simp only [countIn, h, if_true, List.map_cons, List.mem_cons, hxf]
      exact (or_iff_left_of_imp Or.inl).symm
    · simp only [countIn, h, if_false, List.map_cons, List.mem_cons, ih, or_assoc]

lemma mem_values_foldl_countIn :
    ∀ {L a : List SearchFilter}, (∀ x ∈ a ++ L, x.value ∈ V) → ∀ v,
      v ∈ (L.foldl (fun acc f => countIn f acc) a).map (·.value) ↔
        v ∈ a.map (·.value) ∨ v ∈ L.map (·.value)
  | [], _, _, _ => by simp
  | f :: L, acc, h, v => by
    have hacc := fun x hx => h x (List.mem_append_left _ hx)
    have hf := h f (by simp)
    rw [List.foldl_cons, mem_values_foldl_countIn (fun x hx => ?_) v,
      mem_values_countIn hV hf hacc]
    · simp only [List.map_cons, List.mem_cons, or_assoc]
    · rcases List.mem_append.1 hx with hx | hx
      · exact countIn_values (Q := (· ∈ V)) hf hacc x hx
      · exact h x (by simp [hx])

end Merging

/-- Values of a facet's kind that are not `*string`s render apart. -/
lemma SearchKey.injOn_admits (P : StringPool) (k : SearchKey) :
    Set.InjOn filterValueAsString {v | k.Admits P v ∧ v.deref = v} := fun a ha b hb h => by
  rw [← ha.2, ← hb.2]
  exact ((FilterValue.same_iff_string_eq (ha.1.kind.trans hb.1.kind.symm) ha.1.triple
    hb.1.triple).2 h).2

/-- Only the sources hold `*string`s. -/
lemma SearchKey.Admits.deref_eq {k : SearchKey} {v : FilterValue} (h : k.Admits P v)
    (hk : k ≠ .sources) : v.deref = v := by
  have := h.kind
  cases v <;> cases k <;> simp_all [FilterValue.kind, SearchKey.valueKind, FilterValue.deref]

/-! ### A group built by `AddFilters` -/

/-- Merging by canonical string loses and adds no value: on a consistent group of facet `k` whose
values, and those added, are of the facet's kind and not `*string`s, the group `AddFilters` builds
holds the values of the group and of the list. -/
lemma SearchFilterGroup.values_addFilters {g : SearchFilterGroup} {k : SearchKey}
    {L : List SearchFilter} (hg : g.Consistent)
    (hL : ∀ f ∈ g.filters ++ L, k.Admits P f.value ∧ f.value.deref = f.value) :
    ∃ g', g.addFilters L = some g' ∧ g'.key = g.key ∧
      ∀ v, v ∈ g'.filters.map (·.value) ↔ v ∈ (g.filters ++ L).map (·.value) := by
  obtain ⟨g', hg', hk', hf', -⟩ := addFilters_spec hg L
  refine ⟨g', hg', hk', fun v => ?_⟩
  rw [hf', mem_values_foldl_countIn (SearchKey.injOn_admits P k) hL, List.map_append,
    List.mem_append]

/-! ### What a set asks of a route -/

namespace SearchFilters

/-- The values of facet `k`: those of the group at the facet's position. -/
def valuesAt (S : SearchFilters) (k : SearchKey) : List FilterValue :=
  match S[k.position]? with
  | some g => g.filters.map (·.value)
  | none => []

lemma valuesAt_of {S : SearchFilters} {k : SearchKey} {g : SearchFilterGroup}
    (h : S[k.position]? = some g) : S.valuesAt k = g.filters.map (·.value) := by
  simp [valuesAt, h]

end SearchFilters

/-- What values per facet ask of a route: one of the source ids, ASNs and address families
listed, when any is, and every community, extended community and large community listed. -/
def Passes (V : SearchKey → List FilterValue) (r : Filterable) : Prop :=
  (∀ k ∈ [SearchKey.sources, .asns, .addrFamily], V k = [] ∨ ∃ v ∈ V k, k.comparator r v = true) ∧
    ∀ k ∈ [SearchKey.communities, .extCommunities, .largeCommunities],
      ∀ v ∈ V k, k.comparator r v = true

instance (V : SearchKey → List FilterValue) (r : Filterable) : Decidable (Passes V r) :=
  inferInstanceAs (Decidable (_ ∧ _))

/-- Only which values are listed counts. -/
lemma passes_congr {V W : SearchKey → List FilterValue} (h : ∀ k v, v ∈ V k ↔ v ∈ W k)
    (r : Filterable) : Passes V r ↔ Passes W r := by
  have hnil : ∀ k, V k = [] ↔ W k = [] := fun k => by
    simp only [List.eq_nil_iff_forall_not_mem, h k]
  simp only [Passes, hnil, h]

lemma decide_passes_congr {V W : SearchKey → List FilterValue} (h : ∀ k v, v ∈ V k ↔ v ∈ W k)
    (r : Filterable) : decide (Passes V r) = decide (Passes W r) :=
  decide_eq_decide.2 (passes_congr h r)

/-- `Passes` on the values of lists of filters. -/
lemma passes_map_value (L : SearchKey → List SearchFilter) (r : Filterable) :
    Passes (fun k => (L k).map (·.value)) r ↔
      (∀ k ∈ [SearchKey.sources, .asns, .addrFamily],
        L k = [] ∨ ∃ f ∈ L k, k.comparator r f.value = true) ∧
      ∀ k ∈ [SearchKey.communities, .extCommunities, .largeCommunities],
        ∀ f ∈ L k, k.comparator r f.value = true := by
  simp only [Passes, List.map_eq_nil_iff, List.mem_map, exists_exists_and_eq_and,
    forall_exists_index, and_imp, forall_apply_eq_imp_iff₂]

namespace SearchFilters

/-- `MatchRoute` on a set with a group at each facet's position. -/
lemma matchRoute_eq {S : SearchFilters} {G : SearchKey → SearchFilterGroup}
    (hS : ∀ k, S[k.position]? = some (G k)) (r : Filterable) :
    S.matchRoute r = some ((G .sources).matchAny r && (G .asns).matchAny r &&
      (G .communities).matchAll r && (G .extCommunities).matchAll r &&
      (G .largeCommunities).matchAll r && (G .addrFamily).matchAny r) := by
  simp only [matchRoute, getGroupByKey_toString, hS, Option.some_bind, Option.bind_eq_bind,
    Option.pure_def, ite_not_some_false, Bool.and_true, Bool.and_assoc]

/-- On a set with a group of each facet's key at the facet's position, `MatchRoute` never panics
and decides `Passes` on the set's values. -/
lemma matchRoute_eq_passes {S : SearchFilters}
    (hS : ∀ k : SearchKey, ∃ g, S[k.position]? = some g ∧ g.key = k.toString) (r : Filterable) :
    S.matchRoute r = some (decide (Passes S.valuesAt r)) := by
  choose G hG hk using hS
  rw [matchRoute_eq hG, Option.some.injEq, Bool.eq_iff_iff, decide_eq_true_iff,
    show S.valuesAt = fun k => (G k).filters.map (·.value) from funext fun k => valuesAt_of (hG k),
    passes_map_value fun k => (G k).filters]
  simp only [Bool.and_eq_true, SearchFilterGroup.matchAny_eq_true (hk .sources),
    SearchFilterGroup.matchAny_eq_true (hk .asns),
    SearchFilterGroup.matchAll_eq_true (hk .communities),
    SearchFilterGroup.matchAll_eq_true (hk .extCommunities),
    SearchFilterGroup.matchAll_eq_true (hk .largeCommunities),
    SearchFilterGroup.matchAny_eq_true (hk .addrFamily), List.forall_mem_cons, List.not_mem_nil,
    false_implies, implies_true, and_true]
  exact ⟨fun ⟨⟨⟨⟨⟨h₀, h₁⟩, h₂⟩, h₃⟩, h₄⟩, h₅⟩ => ⟨⟨h₀, h₁, h₅⟩, h₂, h₃, h₄⟩,
    fun ⟨⟨h₀, h₁, h₅⟩, h₂, h₃, h₄⟩ => ⟨⟨⟨⟨⟨h₀, h₁⟩, h₂⟩, h₃⟩, h₄⟩, h₅⟩⟩

/-- A set whose group of each facet is built by `AddFilters` from an empty group matches a route
as the lists added do: one value of each non-empty list for the sources, ASNs and address
families, every value for the three kinds of community. -/
lemma Built.matchRoute {S : SearchFilters} {L : SearchKey → List SearchFilter} (hS : S.Built L)
    (hL : ∀ k, ∀ f ∈ L k, k.Admits P f.value ∧ f.value.deref = f.value) (r : Filterable) :
    ∃ b, S.matchRoute r = some b ∧ (b = true ↔
      (∀ k ∈ [SearchKey.sources, .asns, .addrFamily],
        L k = [] ∨ ∃ f ∈ L k, k.comparator r f.value = true) ∧
      ∀ k ∈ [SearchKey.communities, .extCommunities, .largeCommunities],
        ∀ f ∈ L k, k.comparator r f.value = true) := by
  have hG := fun k => SearchFilterGroup.values_addFilters (k := k)
    (SearchFilterGroup.consistent_empty k.toString) (by simpa [SearchFilterGroup.empty] using hL k)
  choose G hG hk hv using hG
  have hS' : ∀ k, S[k.position]? = some (G k) := fun k => (hS k).trans (hG k)
  refine ⟨_, matchRoute_eq_passes (fun k => ⟨G k, hS' k, hk k⟩) r, ?_⟩
  rw [decide_eq_true_iff, ← passes_map_value]
  refine passes_congr (fun k v => ?_) r
  rw [valuesAt_of (hS' k), hv k v]
  rfl

end SearchFilters


/-! ### Token searches -/

section Tokens

variable {p : ValueParsers}

/-- The filter of an accepted community text is one its group admits. -/
lemma ValueParsers.Admitted.admits_communityTextParser (hp : p.Admitted P) {t : String}
    {f : SearchFilter} (h : communityTextParser p t = .ok f) :
    (communityTextKey t).Admits P f.value := by
  unfold communityTextParser at h
  unfold communityTextKey
  split_ifs at h ⊢
  · exact hp.extCommunity _ _ h
  · exact hp.community _ _ h
  · exact SearchFilters.admits_largeCommunity (hp.community _ _ h)

/-- A token search matches a route exactly when, for every `#`-token, the route matches the
filter parsed from the text after the `#` with the comparator of the group the text is routed
to. -/
theorem matchRoute_filtersFromTokens (hp : p.Admitted P) {tokens : List String}
    {S : SearchFilters} (h : (filtersFromTokens p tokens).run = some (.ok S)) (r : Filterable) :
    ∃ b, S.matchRoute r = some b ∧ (b = true ↔ ∀ t ∈ communityTexts tokens, ∃ f,
      communityTextParser p t = .ok f ∧ (communityTextKey t).comparator r f.value = true) := by
  have hacc : ∀ t ∈ communityTexts tokens, ¬ CommunityTextRejected p t := fun t ht hr => by
    obtain ⟨e, he⟩ := SearchFilters.Built.foldlM_filtersFromToken_error tokens
      SearchFilters.built_newSearchFilters ⟨t, ht, hr⟩
    cases h.symm.trans he
  let fs : String → SearchFilter := fun t => match communityTextParser p t with
    | .ok f => f
    | .error _ => ⟨0, "", .int 0⟩
  have hfs : ∀ t ∈ communityTexts tokens, ':' ∈ t.data ∧ communityTextParser p t = .ok (fs t) :=
    fun t ht => by
      obtain ⟨hc, f, hf⟩ := exists_ok_of_not_rejected p (hacc t ht)
      exact ⟨hc, by simp [fs, hf]⟩
  obtain ⟨S', hS', hb⟩ := SearchFilters.Built.foldlM_filtersFromToken tokens
    SearchFilters.built_newSearchFilters hfs
  cases h.symm.trans hS'
  have hL : ∀ k, ∀ f ∈ ((communityTexts tokens).filter (communityTextKey · = k)).map fs,
      k.Admits P f.value ∧ f.value.deref = f.value := fun k f hf => by
    obtain ⟨t, ht, rfl⟩ := List.mem_map.1 hf
    obtain ⟨ht, hk⟩ := List.mem_filter.1 ht
    have hk := of_decide_eq_true hk
    have ha := hk ▸ hp.admits_communityTextParser (hfs t ht).2
    exact ⟨ha, ha.deref_eq (hk ▸ by rcases communityTextKey_cases t with h | h | h <;> simp [h])⟩
  obtain ⟨b, hb', hiff⟩ := (show S.Built _ from fun k => by simpa using hb k).matchRoute hL r
  refine ⟨b, hb', hiff.trans ⟨fun ⟨_, hall⟩ t ht => ⟨fs t, (hfs t ht).2, ?_⟩, fun hall => ?_⟩⟩
  · have hm : fs t ∈ ((communityTexts tokens).filter (communityTextKey · = communityTextKey t)).map
        fs := List.mem_map_of_mem _ (List.mem_filter.2 ⟨ht, by simp⟩)
    rcases communityTextKey_cases t with hk | hk | hk <;> rw [hk] at hm ⊢ <;>
      exact hall _ (by simp) _ hm
  · refine ⟨fun k hk => .inl (List.map_eq_nil_iff.2 (List.filter_eq_nil_iff.2 fun t _ h => ?_)),
      fun k _ f hf => ?_⟩
    · simp only [List.mem_cons, List.mem_singleton, List.not_mem_nil, or_false] at hk
      rcases communityTextKey_cases t with h' | h' | h' <;> rcases hk with rfl | rfl | rfl <;>
        simp [h'] at h
    · obtain ⟨t, ht, rfl⟩ := List.mem_map.1 hf
      obtain ⟨ht, hk⟩ := List.mem_filter.1 ht
      obtain ⟨f, hf, hc⟩ := hall t ht
      rw [(hfs t ht).2] at hf
      cases hf
      simpa [of_decide_eq_true hk] using hc

/-- A search for community 65000:1, on the routes that carry it. -/
theorem matchRoute_filtersFromTokens_community :
    ValueParsers.Admitted .pairing ⟨fun _ _ => .ok [], fun _ => .error "", fun _ => .error "",
      fun _ => .ok ⟨0, "", .community [65000, 1]⟩, fun _ => .error ""⟩ ∧
    ∃ S, (filtersFromTokens ⟨fun _ _ => .ok [], fun _ => .error "", fun _ => .error "",
        fun _ => .ok ⟨0, "", .community [65000, 1]⟩, fun _ => .error ""⟩ ["#65000:1"]).run =
          some (.ok S) ∧
      ∃ b, S.matchRoute ⟨fun _ => false, fun _ => false, (· == [65000, 1]), fun _ => false,
          fun _ => false, fun _ => false⟩ = some b ∧
        (b = true ↔ ∀ t ∈ communityTexts ["#65000:1"], ∃ f,
          communityTextParser ⟨fun _ _ => .ok [], fun _ => .error "", fun _ => .error "",
            fun _ => .ok ⟨0, "", .community [65000, 1]⟩, fun _ => .error ""⟩ t = .ok f ∧
          (communityTextKey t).comparator ⟨fun _ => false, fun _ => false, (· == [65000, 1]),
            fun _ => false, fun _ => false, fun _ => false⟩ f.value = true) :=
  have hp : ValueParsers.Admitted .pairing ⟨fun _ _ => .ok [], fun _ => .error "",
      fun _ => .error "", fun _ => .ok ⟨0, "", .community [65000, 1]⟩, fun _ => .error ""⟩ :=
    ⟨fun _ _ _ h _ hf => (by cases h; cases hf),
      fun _ _ h => by cases h; exact SearchFilters.admits_community _ _,
      fun _ _ h => by cases h⟩
  ⟨hp, _, rfl, @matchRoute_filtersFromTokens _ _ hp ["#65000:1"] _ rfl _⟩

end Tokens

/-! ### Query searches -/

section Query

variable {p : ValueParsers} {query : UrlValues}

lemma ite_nil_any_iff {α : Type*} (c : Prop) [Decidable c] (l : List α) (Q : α → Prop) :
    ((if c then l else []) = [] ∨ ∃ x ∈ (if c then l else []), Q x) ↔
      (c → l = [] ∨ ∃ x ∈ l, Q x) := by
  by_cases c <;> simp [*]

lemma ite_nil_all_iff {α : Type*} (c : Prop) [Decidable c] (l : List α) (Q : α → Prop) :
    (∀ x ∈ (if c then l else []), Q x) ↔ (c → ∀ x ∈ l, Q x) := by
  by_cases c <;> simp [*]

/-- A query search matches a route exactly as the filters parsed for the query's facets say: for
each of the sources, ASNs and address families the query has, the list parsed is empty or one of
its filters matches; for each kind of community the query has, every filter parsed matches. The
source ids parsed are plain strings, as the comparator of the sources asserts. -/
theorem matchRoute_filtersFromQuery (hp : p.Admitted P) {order : List String}
    (horder : order.Perm query.keys) {fs : SearchKey → List SearchFilter}
    (hfs : ∀ k : SearchKey, k.toString ∈ query.keys → k.queryFilters p query = .ok (fs k))
    (hsrc : ∀ f ∈ fs .sources, f.value.deref = f.value) :
    ∃ S, (filtersFromQuery p query order).run = some (.ok S) ∧ ∀ r : Filterable, ∃ b,
      S.matchRoute r = some b ∧ (b = true ↔
        (∀ k ∈ [SearchKey.sources, .asns, .addrFamily], k.toString ∈ query.keys →
          fs k = [] ∨ ∃ f ∈ fs k, k.comparator r f.value = true) ∧
        ∀ k ∈ [SearchKey.communities, .extCommunities, .largeCommunities],
          k.toString ∈ query.keys → ∀ f ∈ fs k, k.comparator r f.value = true) := by
  obtain ⟨S, hrun, -, hS⟩ := foldlM_filtersFromQueryKey_ok (horder.nodup_iff.2 query.nodup)
    (fun k hk => hfs k (horder.mem_iff.1 hk)) (ready_newSearchFilters _)
  have hb : S.Built fun k => if k.toString ∈ query.keys then fs k else [] := fun k => by
    simp only [hS k, getElem?_newSearchFilters, horder.mem_iff, Option.some_bind]
    split_ifs <;> rfl
  have hL : ∀ k, ∀ f ∈ (if k.toString ∈ query.keys then fs k else []),
      k.Admits P f.value ∧ f.value.deref = f.value := fun k f hf => by
    split_ifs at hf with hk
    · have ha := hp.queryFilters k _ _ (hfs k hk) f hf
      by_cases hs : k = .sources
      · subst hs
        exact ⟨ha, hsrc f hf⟩
      · exact ⟨ha, ha.deref_eq hs⟩
    · cases hf
  refine ⟨S, hrun, fun r => ?_⟩
  obtain ⟨b, hb', hiff⟩ := hb.matchRoute hL r
  exact ⟨b, hb', hiff.trans (and_congr (forall₂_congr fun k _ => ite_nil_any_iff _ _ _)
    (forall₂_congr fun k _ => ite_nil_all_iff _ _ _))⟩

/-- A search for route server rs1 and ASN 64512, visiting the ASNs first. -/
theorem matchRoute_filtersFromQuery_asns :
    ValueParsers.Admitted .pairing ⟨fun parse v => (parse v).map fun f => [f],
      fun s => .ok ⟨0, s, .string s⟩, fun s => .ok ⟨0, s, .int ((atoi s).getD 0)⟩,
      fun _ => .error "", fun _ => .error ""⟩ ∧
    ["asns", "sources"].Perm
      (UrlValues.keys ⟨[("sources", ["rs1"]), ("asns", ["64512"])], by decide⟩) ∧
    (∀ k : SearchKey, k.toString ∈
        UrlValues.keys ⟨[("sources", ["rs1"]), ("asns", ["64512"])], by decide⟩ →
      k.queryFilters ⟨fun parse v => (parse v).map fun f => [f],
        fun s => .ok ⟨0, s, .string s⟩, fun s => .ok ⟨0, s, .int ((atoi s).getD 0)⟩,
        fun _ => .error "", fun _ => .error ""⟩
        ⟨[("sources", ["rs1"]), ("asns", ["64512"])], by decide⟩ =
      .ok (if k = .sources then ([⟨0, "rs1", .string "rs1"⟩] : List SearchFilter)
        else if k = .asns then [⟨0, "64512", .int 64512⟩] else [])) ∧
    (∀ f ∈ (if SearchKey.sources = .sources then ([⟨0, "rs1", .string "rs1"⟩] : List SearchFilter)
        else if SearchKey.sources = .asns then [⟨0, "64512", .int 64512⟩] else
          ([] : List SearchFilter)), f.value.deref = f.value) ∧
    ∃ S, (filtersFromQuery ⟨fun parse v => (parse v).map fun f => [f],
        fun s => .ok ⟨0, s, .string s⟩, fun s => .ok ⟨0, s, .int ((atoi s).getD 0)⟩,
        fun _ => .error "", fun _ => .error ""⟩
        ⟨[("sources", ["rs1"]), ("asns", ["64512"])], by decide⟩ ["asns", "sources"]).run =
          some (.ok S) ∧ ∀ r : Filterable, ∃ b, S.matchRoute r = some b ∧ (b = true ↔
        (∀ k ∈ [SearchKey.sources, .asns, .addrFamily], k.toString ∈
            UrlValues.keys ⟨[("sources", ["rs1"]), ("asns", ["64512"])], by decide⟩ →
          (if k = .sources then ([⟨0, "rs1", .string "rs1"⟩] : List SearchFilter)
            else if k = .asns then [⟨0, "64512", .int 64512⟩] else []) = [] ∨
          ∃ f ∈ (if k = .sources then ([⟨0, "rs1", .string "rs1"⟩] : List SearchFilter)
            else if k = .asns then [⟨0, "64512", .int 64512⟩] else ([] : List SearchFilter)),
            k.comparator r f.value = true) ∧
        ∀ k ∈ [SearchKey.communities, .extCommunities, .largeCommunities], k.toString ∈
            UrlValues.keys ⟨[("sources", ["rs1"]), ("asns", ["64512"])], by decide⟩ →
          ∀ f ∈ (if k = .sources then ([⟨0, "rs1", .string "rs1"⟩] : List SearchFilter)
            else if k = .asns then [⟨0, "64512", .int 64512⟩] else ([] : List SearchFilter)),
            k.comparator r f.value = true) :=
  have hp : ValueParsers.Admitted .pairing ⟨fun parse v => (parse v).map fun f => [f],
      fun s => .ok ⟨0, s, .string s⟩, fun s => .ok ⟨0, s, .int ((atoi s).getD 0)⟩,
      fun _ => .error "", fun _ => .error ""⟩ :=
    ⟨fun k _ _ h f hf => by
        cases k <;> simp only [SearchKey.queryValueParser, Except.map, Except.ok.injEq,
          reduceCtorEq] at h <;> subst h <;> rw [List.mem_singleton] at hf <;> subst hf <;>
          exact ⟨⟨rfl, trivial⟩, trivial⟩,
      fun _ _ h => (by cases h),
      fun _ _ h => by cases h⟩
  have horder : ["asns", "sources"].Perm
      (UrlValues.keys ⟨[("sources", ["rs1"]), ("asns", ["64512"])], by decide⟩) :=
    List.Perm.swap _ _ _
  have hfs : ∀ k : SearchKey, k.toString ∈
        UrlValues.keys ⟨[("sources", ["rs1"]), ("asns", ["64512"])], by decide⟩ →
      k.queryFilters ⟨fun parse v => (parse v).map fun f => [f],
        fun s => .ok ⟨0, s, .string s⟩, fun s => .ok ⟨0, s, .int ((atoi s).getD 0)⟩,
        fun _ => .error "", fun _ => .error ""⟩
        ⟨[("sources", ["rs1"]), ("asns", ["64512"])], by decide⟩ =
      .ok (if k = .sources then ([⟨0, "rs1", .string "rs1"⟩] : List SearchFilter)
        else if k = .asns then [⟨0, "64512", .int 64512⟩] else []) := fun k hk => by
    cases k <;> first | rfl | exact absurd hk (by decide)
  have hsrc : ∀ f ∈ (if SearchKey.sources = .sources then
      ([⟨0, "rs1", .string "rs1"⟩] : List SearchFilter)
      else if SearchKey.sources = .asns then [⟨0, "64512", .int 64512⟩] else
        ([] : List SearchFilter)), f.value.deref = f.value := by decide
  ⟨hp, horder, hfs, hsrc, matchRoute_filtersFromQuery hp horder hfs hsrc⟩

end Query

end AliceLg
