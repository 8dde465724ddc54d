import AliceLg.Api.SearchFilters
import AliceLg.Api.FilterGroup.Index
import AliceLg.Go.Strconv
import AliceLg.Go.Strings

/-!
# Filter sets from a query and from tokens

`FiltersFromQuery` ranges over the keys of a `url.Values` map, parses the first value of each
facet key and adds the filters to that facet's group of a fresh set; `FiltersFromTokens` adds a
filter for each `#`-token to the group its community text belongs to. The value parsers of
package `api` these call are not under `src/`; the model takes them as parameters, so the results
here hold whatever they compute.

Go visits the keys of a map in an unspecified order, which the model takes as an argument: each
facet key writes only its own group, once, so the set returned does not depend on the order, and
a key whose value the parser rejects fails the call whichever keys come before it.
-/

namespace AliceLg

/-- Go's `url.Values`: each key with its values. A map holds no key twice. -/
structure UrlValues where
  entries : List (String × List String)
  nodup : (entries.map Prod.fst).Nodup

namespace UrlValues

/-- The keys a `range` over the map visits, in some order. -/
def keys (query : UrlValues) : List String := query.entries.map Prod.fst

/-- `Values.Get`: the first value of the key, or `""` for a key without values. -/
def get (query : UrlValues) (key : String) : String :=
  match query.entries.lookup key with
  | some (v :: _) => v
  | _ => ""

end UrlValues

/-- The parsers of package `api` that `FiltersFromQuery` and `parseCommunityFilterText` call. -/
structure ValueParsers where
  parseQueryValueList :
    (String → Except String SearchFilter) → String → Except String (List SearchFilter)
  parseStringValue : String → Except String SearchFilter
  parseIntValue : String → Except String SearchFilter
  parseCommunityValue : String → Except String SearchFilter
  parseExtCommunityValue : String → Except String SearchFilter

variable (p : ValueParsers)

/-- The value parser `FiltersFromQuery` hands to `parseQueryValueList` for each facet. -/
def SearchKey.queryValueParser : SearchKey → String → Except String SearchFilter
  | .sources => p.parseStringValue
  | .asns => p.parseIntValue
  | .communities => p.parseCommunityValue
  | .extCommunities => p.parseExtCommunityValue
  | .largeCommunities => p.parseCommunityValue
  | .addrFamily => p.parseIntValue

/-! ### `FiltersFromQuery` -/

/-- One key of the loop of `FiltersFromQuery`: the `switch` on the key; a facet key's first value
is parsed into filters that are added to the facet's group, any other key is skipped. -/
def filtersFromQueryKey (query : UrlValues) (queryFilters : SearchFilters) (key : String) :
    ExceptT String Option SearchFilters := do
  let value := query.get key
  match SearchKey.ofString? key with
  | none => return queryFilters
  | some k =>
    let filters ← (p.parseQueryValueList (k.queryValueParser p) value : Except String _)
    let queryFilters ← queryFilters.updateGroup k.toString (·.addFilters filters)
    return queryFilters

/-- `FiltersFromQuery`, visiting the keys of `query` in the order `order`. -/
def filtersFromQuery (query : UrlValues) (order : List String) :
    ExceptT String Option SearchFilters :=
  order.foldlM (filtersFromQueryKey p query) newSearchFilters

/-- The filters `FiltersFromQuery` parses for facet `k` from the first value of its key. -/
def SearchKey.queryFilters (query : UrlValues) (k : SearchKey) :
    Except String (List SearchFilter) :=
  p.parseQueryValueList (k.queryValueParser p) (query.get k.toString)

/-! ### The loop over the keys -/

section QueryLoop

variable {p} {query : UrlValues}

lemma filtersFromQueryKey_of_ofString?_none {s : SearchFilters} {key : String}
    (h : SearchKey.ofString? key = none) : filtersFromQueryKey p query s key = pure s := by
  simp only [filtersFromQueryKey, h]

/-- A facet key's step: the parsed filters, if any, are added to the facet's group. -/
lemma filtersFromQueryKey_toString (s : SearchFilters) (k : SearchKey) :
    filtersFromQueryKey p query s k.toString =
      match k.queryFilters p query with
      | .error e => ExceptT.mk (some (.error e))
      | .ok fs => ExceptT.mk ((s.updateGroup k.toString (·.addFilters fs)).map .ok) := by
  simp only [filtersFromQueryKey, SearchKey.ofString?_toString, SearchKey.queryFilters]
  cases p.parseQueryValueList (k.queryValueParser p) (query.get k.toString) with
  | error e => rfl
  | ok fs =>
    show (liftM (s.updateGroup k.toString (·.addFilters fs)) >>= pure :
      ExceptT String Option SearchFilters) =
        ExceptT.mk ((s.updateGroup k.toString (·.addFilters fs)).map .ok)
    cases s.updateGroup k.toString (·.addFilters fs) <;> rfl

/-- Adding filters to a consistent group of facet `k` replaces it by a consistent group. -/
lemma updateGroup_addFilters {s : SearchFilters} {k : SearchKey} {g : SearchFilterGroup}
    (hs : s[k.position]? = some g) (hg : g.Consistent) (fs : List SearchFilter) :
    ∃ g', g.addFilters fs = some g' ∧ g'.Consistent ∧
      s.updateGroup k.toString (·.addFilters fs) = some (s.set k.position g') := by
  obtain ⟨g', h, -, -, hc⟩ := SearchFilterGroup.addFilters_spec hg fs
  exact ⟨g', h, hc, by simp [hs, h]⟩

/-- Replacing one facet's group by a consistent group keeps every facet's group consistent. -/
lemma ready_set {ks : List String} {s : SearchFilters} {k₀ : SearchKey} {g g' : SearchFilterGroup}
    (hg : s[k₀.position]? = some g) (hc' : g'.Consistent)
    (hready : ∀ k : SearchKey, k.toString ∈ ks → ∃ g, s[k.position]? = some g ∧ g.Consistent) :
    ∀ k : SearchKey, k.toString ∈ ks →
      ∃ g, (s.set k₀.position g')[k.position]? = some g ∧ g.Consistent := fun k hk => by
  rw [SearchFilters.getElem?_set_position (List.getElem?_eq_some_iff.1 hg).1]
  split_ifs
  exacts [⟨g', rfl, hc'⟩, hready k hk]

/-- When no facet key of `ks` fails to parse, the loop over `ks` adds each facet key's filters to
its group, once, and leaves the other groups alone. -/
lemma foldlM_filtersFromQueryKey_ok {fs : SearchKey → List SearchFilter} :
    ∀ {ks : List String} {s : SearchFilters}, ks.Nodup →
      (∀ k : SearchKey, k.toString ∈ ks → k.queryFilters p query = .ok (fs k)) →
      (∀ k : SearchKey, k.toString ∈ ks → ∃ g, s[k.position]? = some g ∧ g.Consistent) →
      ∃ S, (ks.foldlM (filtersFromQueryKey p query) s).run = some (.ok S) ∧
        S.length = s.length ∧ ∀ k : SearchKey, S[k.position]? =
          if k.toString ∈ ks then s[k.position]?.bind (·.addFilters (fs k)) else s[k.position]?
  | [], s, _, _, _ => ⟨s, rfl, rfl, by simp⟩
  | key :: ks, s, hnd, hok, hready => by
    rw [List.nodup_cons] at hnd
    cases hkey : SearchKey.ofString? key with
    | none =>
      have hne : ∀ k : SearchKey, k.toString ≠ key := fun k h => by simp [← h] at hkey
      obtain ⟨S, hrun, hlen, hS⟩ := foldlM_filtersFromQueryKey_ok hnd.2
        (fun k hk => hok k (List.mem_cons_of_mem _ hk))
        (fun k hk => hready k (List.mem_cons_of_mem _ hk))
      refine ⟨S, ?_, hlen, fun k => ?_⟩
      · rw [List.foldlM_cons, filtersFromQueryKey_of_ofString?_none hkey, pure_bind]
        exact hrun
      · simp only [hS k, List.mem_cons, hne k, false_or]
    | some k₀ =>
      obtain rfl := SearchKey.toString_of_ofString? hkey
      obtain ⟨g, hg, hc⟩ := hready k₀ (List.mem_cons_self _ _)
      obtain ⟨g', hg', hc', hup⟩ := updateGroup_addFilters hg hc (fs k₀)
      obtain ⟨S, hrun, hlen, hS⟩ := foldlM_filtersFromQueryKey_ok hnd.2
        (fun k hk => hok k (List.mem_cons_of_mem _ hk))
        (ready_set hg hc' fun k hk => hready k (List.mem_cons_of_mem _ hk))
      refine ⟨S, ?_, by simpa using hlen, fun k => ?_⟩
      · rw [List.foldlM_cons, filtersFromQueryKey_toString, hok k₀ (List.mem_cons_self _ _)]
        simp only [hup, Option.map_some']
        exact hrun
      · rw [hS k, SearchFilters.getElem?_set_position (List.getElem?_eq_some_iff.1 hg).1]
        by_cases hk : k = k₀
        · subst hk
          simp [hnd.1, hg, hg']
        · have hs : k.toString ≠ k₀.toString := fun h => hk (SearchKey.toString_injective h)
          simp [hk, hs]

lemma ready_newSearchFilters (ks : List String) (k : SearchKey) (_ : k.toString ∈ ks) :
    ∃ g, newSearchFilters[k.position]? = some g ∧ g.Consistent :=
  ⟨_, getElem?_newSearchFilters k, SearchFilterGroup.consistent_empty _⟩

/-- Two sets of six groups that agree at every facet's position are equal. -/
lemma SearchFilters.ext_position {S S' : SearchFilters} (h : S.length = 6) (h' : S'.length = 6)
    (hk : ∀ k : SearchKey, S[k.position]? = S'[k.position]?) : S = S' := by
  refine List.ext_getElem? fun i => ?_
  by_cases hi : i < 6
  · obtain ⟨k, rfl⟩ := SearchKey.exists_position hi
    exact hk k
  · rw [List.getElem?_eq_none (by omega), List.getElem?_eq_none (by omega)]

end QueryLoop

/-! ### `FiltersFromTokens` -/

/-- `parseCommunityFilterText`: the key of the group a community text belongs to, and its
filter. A first segment that `Atoi` rejects makes an extended community. -/
def parseCommunityFilterText (text : String) : Except String (String × SearchFilter) := do
  let tokens := split text ':'
  if tokens.length < 2 then throw "BGP community incomplete"
  let maybeExt := (atoi (tokens.headD "")).isNone
  if maybeExt then
    let filter ← p.parseExtCommunityValue text
    return (SearchKey.extCommunities.toString, filter)
  match p.parseCommunityValue text with
  | .error _ => throw "BGP community incomplete"
  | .ok filter =>
    if tokens.length = 2 then return (SearchKey.communities.toString, filter)
    else return (SearchKey.largeCommunities.toString, filter)

/-- One token of the loop of `FiltersFromTokens`: a `#`-token's filter is added to its group. -/
def filtersFromToken (queryFilters : SearchFilters) (value : String) :
    ExceptT String Option SearchFilters :=
  if hasPrefix value "#" then do
    let (key, filter) ← (parseCommunityFilterText p (value.drop 1) : Except String _)
    let queryFilters ← queryFilters.updateGroup key (·.addFilter filter)
    return queryFilters
  else return queryFilters

/-- What a successful `parseCommunityFilterText` returns: an extended community's filter from
`parseExtCommunityValue`, or a community's or large community's from `parseCommunityValue`. -/
lemma parseCommunityFilterText_ok {text key : String} {filter : SearchFilter}
    (h : parseCommunityFilterText p text = .ok (key, filter)) :
    (key = SearchKey.extCommunities.toString ∧ p.parseExtCommunityValue text = .ok filter) ∨
    ((key = SearchKey.communities.toString ∨ key = SearchKey.largeCommunities.toString) ∧
      p.parseCommunityValue text = .ok filter) := by
  cases hx : p.parseExtCommunityValue text <;> cases hc : p.parseCommunityValue text <;>
    simp only [parseCommunityFilterText, hx, hc, bind, Except.bind, pure, Except.pure, throw,
      throwThe, MonadExceptOf.throw] at h <;>
    split_ifs at h <;> simp_all

/-- `FiltersFromTokens`. -/
def filtersFromTokens (tokens : List String) : ExceptT String Option SearchFilters :=
  tokens.foldlM (filtersFromToken p) newSearchFilters

end AliceLg
