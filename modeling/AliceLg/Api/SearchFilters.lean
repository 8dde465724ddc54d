import AliceLg.Api.FilterGroup

/-!
# Filter sets

`SearchFilters` is a slice of groups that `NewSearchFilters` lays out in the fixed order of
`SearchKey.all`; `GetGroupByKey` relies on that order and returns the group at the key's
hard-coded position. The builders add the attributes of observed routes to the groups, and
`Combine`, `Sub` and `MergeProperties` work position by position on two sets.

Go panics (an index out of range, a method called on the `nil` group of an unknown key, a failed
type assertion inside `Equal`) are modelled as `none`. `MergeProperties` mutates its receiver in
place; the model returns the mutated set.
-/

namespace AliceLg

/-- `api.LookupRouteServer`, the fields the builders read. -/
structure LookupRouteServer where
  id : StrPtr
  name : String

/-- `api.Neighbor`, the fields the builders read. -/
structure Neighbor where
  asn : Int
  description : String

/-- `api.BGPInfo`, the communities the builders read. -/
structure BGPInfo where
  communities : List Community
  largeCommunities : List Community
  extCommunities : List ExtCommunity

/-- `api.Route`, the fields the builders read. -/
structure Route where
  bgp : BGPInfo

/-- `api.LookupRoute`, the fields the builders read. -/
structure LookupRoute where
  route : Route
  routeServer : LookupRouteServer
  neighbor : Neighbor

/-- Modelled from the spec: the address-family constant `AddrFamilyIPv4` of package `api` (not
under `src/`), numbered as the spec's data model has it. -/
def addrFamilyIPv4 : UInt8 := 4

/-- Modelled from the spec: the address-family constant `AddrFamilyIPv6` of package `api` (not
under `src/`), numbered as the spec's data model has it. -/
def addrFamilyIPv6 : UInt8 := 6

/-- `SearchFilters`. -/
abbrev SearchFilters := List SearchFilterGroup

/-- `NewSearchFilters`: one empty group per key, in the fixed order. -/
def newSearchFilters : SearchFilters :=
  SearchKey.all.map fun k => .empty k.toString

lemma SearchKey.exists_position {i : Nat} (h : i < 6) : ∃ k : SearchKey, k.position = i := by
  rcases i with _ | _ | _ | _ | _ | _ | i
  exacts [⟨.sources, rfl⟩, ⟨.asns, rfl⟩, ⟨.communities, rfl⟩, ⟨.extCommunities, rfl⟩,
    ⟨.largeCommunities, rfl⟩, ⟨.addrFamily, rfl⟩, by omega]

@[simp] lemma getElem?_newSearchFilters (k : SearchKey) :
    newSearchFilters[k.position]? = some (.empty k.toString) := by
  cases k <;> rfl

@[simp] lemma length_newSearchFilters : newSearchFilters.length = 6 := rfl

namespace SearchFilters

lemma length_of_keys {s : SearchFilters}
    (h : s.map SearchFilterGroup.key = SearchKey.all.map SearchKey.toString) : s.length = 6 := by
  simpa using congrArg List.length h

/-- A set with the six keys in order is a list of six groups. -/
lemma exists_six_of_keys {s : SearchFilters}
    (h : s.map SearchFilterGroup.key = SearchKey.all.map SearchKey.toString) :
    ∃ g₀ g₁ g₂ g₃ g₄ g₅, s = [g₀, g₁, g₂, g₃, g₄, g₅] := by
  have hlen := length_of_keys h
  rcases s with _ | ⟨g₀, _ | ⟨g₁, _ | ⟨g₂, _ | ⟨g₃, _ | ⟨g₄, _ | ⟨g₅, _ | ⟨_, _⟩⟩⟩⟩⟩⟩⟩ <;>
    simp at hlen
  exact ⟨g₀, g₁, g₂, g₃, g₄, g₅, rfl⟩

/-- `GetGroupByKey`; `none` for an unknown key (Go's `nil`) or a position past the end (a
panic). -/
def getGroupByKey (s : SearchFilters) (key : String) : Option SearchFilterGroup :=
  (SearchKey.ofString? key).bind fun k => s[k.position]?

/-- A mutation of the group `GetGroupByKey(key)` points to. -/
def updateGroup (s : SearchFilters) (key : String)
    (f : SearchFilterGroup → Option SearchFilterGroup) : Option SearchFilters := do
  let k ← SearchKey.ofString? key
  let g ← s[k.position]?
  return s.set k.position (← f g)

@[simp] lemma getGroupByKey_toString (s : SearchFilters) (k : SearchKey) :
    s.getGroupByKey k.toString = s[k.position]? := by
  simp [getGroupByKey]

@[simp] lemma updateGroup_toString (s : SearchFilters) (k : SearchKey)
    (f : SearchFilterGroup → Option SearchFilterGroup) :
    s.updateGroup k.toString f = s[k.position]?.bind fun g => (f g).map (s.set k.position) := by
  simp only [updateGroup, SearchKey.ofString?_toString, Option.pure_def, Option.bind_eq_bind,
    Option.some_bind]
  cases s[k.position]? <;> simp only [Option.none_bind, Option.some_bind]
  cases f _ <;> rfl

/-- Replacing the group of facet `k` leaves every other facet's group as it was. -/
lemma getElem?_set_position {s : SearchFilters} {k : SearchKey} (hk : k.position < s.length)
    (g : SearchFilterGroup) (k' : SearchKey) :
    (s.set k.position g)[k'.position]? = if k' = k then some g else s[k'.position]? := by
  rw [List.getElem?_set]
  by_cases h : k' = k
  · simp [h, hk]
  · simp [h, SearchKey.position_injective.ne (Ne.symm h)]

/-! ### Builders -/

/-- A filter named by its community, as the builders add them. -/
def communityFilter (c : Community) : SearchFilter :=
  { cardinality := 0, name := Community.string c, value := .community c }

/-- A filter named by its extended community. -/
def extCommunityFilter (c : ExtCommunity) : SearchFilter :=
  { cardinality := 0, name := c.string, value := .extCommunity c }

/-- The filter `UpdateSourcesFromLookupRoute` adds: the route server's name and id. -/
def sourceFilter (r : LookupRoute) : SearchFilter :=
  { cardinality := 0, name := r.routeServer.name, value := .strPtr r.routeServer.id }

/-- The filter `UpdateASNSFromLookupRoute` adds: the neighbor's description and ASN. -/
def asnFilter (r : LookupRoute) : SearchFilter :=
  { cardinality := 0, name := r.neighbor.description, value := .int r.neighbor.asn }

/-- `UpdateSourcesFromLookupRoute`. -/
def updateSourcesFromLookupRoute (s : SearchFilters) (r : LookupRoute) : Option SearchFilters :=
  s.updateGroup SearchKey.sources.toString fun g => g.addFilter (sourceFilter r)

/-- `UpdateASNSFromLookupRoute`. -/
def updateASNSFromLookupRoute (s : SearchFilters) (r : LookupRoute) : Option SearchFilters :=
  s.updateGroup SearchKey.asns.toString fun g => g.addFilter (asnFilter r)

/-- The body shared by `UpdateCommunitiesFromLookupRoute` and `UpdateFromRoute`: every community,
extended community and large community of `bgp`, each to its group. -/
def updateCommunities (s : SearchFilters) (bgp : BGPInfo) : Option SearchFilters := do
  let s ← s.updateGroup SearchKey.communities.toString fun g =>
    g.addFilters (bgp.communities.map communityFilter)
  let s ← s.updateGroup SearchKey.extCommunities.toString fun g =>
    g.addFilters (bgp.extCommunities.map extCommunityFilter)
  s.updateGroup SearchKey.largeCommunities.toString fun g =>
    g.addFilters (bgp.largeCommunities.map communityFilter)

/-- `UpdateCommunitiesFromLookupRoute`. -/
def updateCommunitiesFromLookupRoute (s : SearchFilters) (r : LookupRoute) :
    Option SearchFilters :=
  s.updateCommunities r.route.bgp

/-- `UpdateFromLookupRoute`. -/
def updateFromLookupRoute (s : SearchFilters) (r : LookupRoute) : Option SearchFilters := do
  let s ← s.updateSourcesFromLookupRoute r
  let s ← s.updateASNSFromLookupRoute r
  s.updateCommunitiesFromLookupRoute r

/-- `UpdateFromRoute`: only the communities, a plain route naming no source or neighbor. -/
def updateFromRoute (s : SearchFilters) (r : Route) : Option SearchFilters :=
  s.updateCommunities r.bgp

/-- The filter `addFilterAddrFamily` adds for an address family. -/
def addrFamilyFilter (af : UInt8) : SearchFilter :=
  let name := if af = addrFamilyIPv6 then "IPv6" else "IPv4"
  { cardinality := 1, name, value := .int af.toNat }

/-- `addFilterAddrFamily`. -/
def addFilterAddrFamily (s : SearchFilters) (af : UInt8) : Option SearchFilters :=
  s.updateGroup SearchKey.addrFamily.toString fun g => g.addFilter (addrFamilyFilter af)

/-- `SetFilterAddrFamilies`. -/
def setFilterAddrFamilies (s : SearchFilters) (ip4 ip6 : Bool) : Option SearchFilters := do
  let s ← if ip4 then s.addFilterAddrFamily addrFamilyIPv4 else pure s
  if ip6 then s.addFilterAddrFamily addrFamilyIPv6 else pure s

lemma setFilterAddrFamilies_eq (s : SearchFilters) (ip4 ip6 : Bool) :
    s.setFilterAddrFamilies ip4 ip6 =
      (if ip4 then s.addFilterAddrFamily addrFamilyIPv4 else some s).bind fun s =>
        if ip6 then s.addFilterAddrFamily addrFamilyIPv6 else some s := by
  cases ip4 <;> rfl

/-! ### Matching -/

/-- `MatchRoute`: the facets in order, returning at the first one that rejects the route. -/
def matchRoute (s : SearchFilters) (r : Filterable) : Option Bool := do
  let sources ← s.getGroupByKey SearchKey.sources.toString
  if !sources.matchAny r then return false
  let asns ← s.getGroupByKey SearchKey.asns.toString
  if !asns.matchAny r then return false
  let communities ← s.getGroupByKey SearchKey.communities.toString
  if !communities.matchAll r then return false
  let extCommunities ← s.getGroupByKey SearchKey.extCommunities.toString
  if !extCommunities.matchAll r then return false
  let largeCommunities ← s.getGroupByKey SearchKey.largeCommunities.toString
  if !largeCommunities.matchAll r then return false
  let addrFamily ← s.getGroupByKey SearchKey.addrFamily.toString
  if !addrFamily.matchAny r then return false
  return true

/-- `HasGroup`. -/
def hasGroup (s : SearchFilters) (key : String) : Option Bool :=
  (s.getGroupByKey key).map fun group => 0 < group.filters.length

end SearchFilters

/-! ### Combining two sets -/

namespace SearchFilterGroup

/-- The loop of `Combine` over the other group's filters: each filter the combined filters do
not contain is appended. -/
def combineFilters (combined : List SearchFilter) : List SearchFilter → Option (List SearchFilter)
  | [] => some combined
  | f :: fs => do
    if ← containsIn combined f then combineFilters combined fs
    else combineFilters (combined ++ [f]) fs

/-- One position of `Combine`. -/
def combine (group otherGroup : SearchFilterGroup) : Option SearchFilterGroup := do
  let filters ← combineFilters group.filters otherGroup.filters
  return rebuildIndex { key := group.key, filters, filtersIdx := fun _ => none }

/-- The loop of `Sub` over a group's filters: those the other group contains are skipped. -/
def subFilters (otherFilters : List SearchFilter) : List SearchFilter → Option (List SearchFilter)
  | [] => some []
  | f :: fs => do
    if ← containsIn otherFilters f then subFilters otherFilters fs
    else return f :: (← subFilters otherFilters fs)

/-- One position of `Sub`. -/
def sub (group otherGroup : SearchFilterGroup) : Option SearchFilterGroup := do
  let filters ← subFilters otherGroup.filters group.filters
  return rebuildIndex { key := group.key, filters, filtersIdx := fun _ => none }

/-- The loop of `MergeProperties` over a group's filters: a filter found in the other group takes
its name and cardinality. -/
def mergeFilters (otherFilters : List SearchFilter) :
    List SearchFilter → Option (List SearchFilter)
  | [] => some []
  | filter :: fs => do
    let merged ← (findIn otherFilters filter).map fun
      | none => filter
      | some otherFilter =>
        { filter with name := otherFilter.name, cardinality := otherFilter.cardinality }
    return merged :: (← mergeFilters otherFilters fs)

/-- One position of `MergeProperties`. -/
def mergeProperties (group otherGroup : SearchFilterGroup) : Option SearchFilterGroup := do
  return { group with filters := ← mergeFilters otherGroup.filters group.filters }

end SearchFilterGroup

namespace SearchFilters

/-- The loop shared by `Combine`, `Sub` and `MergeProperties`: the `id`-th group of `s` with the
`id`-th group of `other`, which must exist. -/
def zipGroups (op : SearchFilterGroup → SearchFilterGroup → Option SearchFilterGroup) :
    SearchFilters → SearchFilters → Option SearchFilters
  | [], _ => some []
  | _ :: _, [] => none
  | group :: s, otherGroup :: other => do
    return (← op group otherGroup) :: (← zipGroups op s other)

/-- `Combine`. -/
def combine (s other : SearchFilters) : Option SearchFilters :=
  zipGroups SearchFilterGroup.combine s other

/-- `Sub`. -/
def sub (s other : SearchFilters) : Option SearchFilters :=
  zipGroups SearchFilterGroup.sub s other

/-- `MergeProperties`. -/
def mergeProperties (s other : SearchFilters) : Option SearchFilters :=
  zipGroups SearchFilterGroup.mergeProperties s other

end SearchFilters

end AliceLg
