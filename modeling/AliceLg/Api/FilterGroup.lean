import AliceLg.Api.FilterValue
import Mathlib.Logic.Function.Basic

/-!
# Filter groups

A `SearchFilterGroup` holds the filters of one facet in the order they were added, and
`filtersIdx`, a map from the canonical string of a value to the position of its filter. The map
is how `AddFilter` finds in constant time the filter whose cardinality to increment;
`FindFilter` instead scans the filters with `Equal`.

Filters are modelled as values: Go's groups hold `*SearchFilter`, and a pointer into the group
is modelled by the position it points to. Go's map is a function from strings.
-/

namespace AliceLg

/-- The six filterable attributes, the constants `SearchKeySources` … `SearchKeyAddrFamily`. -/
inductive SearchKey where
  | sources | asns | communities | extCommunities | largeCommunities | addrFamily
  deriving DecidableEq, Repr

namespace SearchKey

/-- The key string of each constant. -/
def toString : SearchKey → String
  | sources => "sources"
  | asns => "asns"
  | communities => "communities"
  | extCommunities => "ext_communities"
  | largeCommunities => "large_communities"
  | addrFamily => "addr_family"

/-- The six keys in the order `NewSearchFilters` lays out their groups. -/
def all : List SearchKey :=
  [sources, asns, communities, extCommunities, largeCommunities, addrFamily]

/-- The position of a key's group, as `GetGroupByKey` hard-codes it. -/
def position : SearchKey → Nat
  | sources => 0
  | asns => 1
  | communities => 2
  | extCommunities => 3
  | largeCommunities => 4
  | addrFamily => 5

/-- A `switch` over the six key constants. -/
def ofString? (key : String) : Option SearchKey :=
  all.find? fun k => k.toString == key

@[simp] lemma ofString?_toString (k : SearchKey) : ofString? k.toString = some k := by
  cases k <;> rfl

lemma toString_of_ofString? {key : String} {k : SearchKey} (h : ofString? key = some k) :
    k.toString = key := by
  simpa using List.find?_some h

lemma toString_injective : Function.Injective toString := by
  intro a b h
  simpa [h] using (ofString?_toString a).symm

@[simp] lemma getElem?_all_position (k : SearchKey) : all[k.position]? = some k := by
  cases k <;> rfl

lemma position_injective : Function.Injective position := fun a b h => by
  simpa [h] using (getElem?_all_position a).symm

@[simp] lemma length_all : all.length = 6 := rfl

end SearchKey

/-- `SearchFilterGroup`. -/
structure SearchFilterGroup where
  key : String
  filters : List SearchFilter
  filtersIdx : String → Option Nat

namespace SearchFilterGroup

/-- An empty group for `key`, as `NewSearchFilters` makes it. -/
def empty (key : String) : SearchFilterGroup :=
  { key, filters := [], filtersIdx := fun _ => none }

/-! ### Lookup -/

/-- `FindFilter`, over the filters it scans: the first filter `Equal` to `filter`. -/
def findIn (filters : List SearchFilter) (filter : SearchFilter) : Option (Option SearchFilter) :=
  match filters with
  | [] => some none
  | f :: fs => do if ← f.equal filter then return some f else findIn fs filter

/-- `FindFilter`. -/
def findFilter (g : SearchFilterGroup) (filter : SearchFilter) : Option (Option SearchFilter) :=
  findIn g.filters filter

/-- `Contains`, over the filters it scans. -/
def containsIn (filters : List SearchFilter) (filter : SearchFilter) : Option Bool :=
  (findIn filters filter).map Option.isSome

/-- `Contains`. -/
def contains (g : SearchFilterGroup) (filter : SearchFilter) : Option Bool :=
  containsIn g.filters filter

/-- `GetFilterByValue`; an index entry past the end of the filters panics. -/
def getFilterByValue (g : SearchFilterGroup) (value : FilterValue) :
    Option (Option SearchFilter) :=
  match g.filtersIdx (filterValueAsString value) with
  | none => some none
  | some idx => g.filters[idx]?.map some

/-! ### Insertion -/

/-- `AddFilter`: a value whose canonical string is indexed increments the cardinality of the
filter it is indexed at; any other value is appended with cardinality one and indexed. -/
def addFilter (g : SearchFilterGroup) (filter : SearchFilter) : Option SearchFilterGroup :=
  let ref := filterValueAsString filter.value
  match g.filtersIdx ref with
  | some idx => do
    let presentFilter ← g.filters[idx]?
    return { g with
      filters := g.filters.set idx { presentFilter with
        cardinality := presentFilter.cardinality + 1 } }
  | none =>
    some { g with
      filters := g.filters ++ [{ filter with cardinality := 1 }]
      filtersIdx := Function.update g.filtersIdx ref (some g.filters.length) }

/-- `AddFilters`. -/
def addFilters (g : SearchFilterGroup) (filters : List SearchFilter) : Option SearchFilterGroup :=
  filters.foldlM addFilter g

/-- The loop of `rebuildIndex` from position `i` on: a later position overrides an earlier one
with the same canonical string. -/
def indexFrom (idx : String → Option Nat) (i : Nat) :
    List SearchFilter → String → Option Nat
  | [] => idx
  | f :: fs => indexFrom (Function.update idx (filterValueAsString f.value) (some i)) (i + 1) fs

/-- `rebuildIndex`. -/
def rebuildIndex (g : SearchFilterGroup) : SearchFilterGroup :=
  { g with filtersIdx := indexFrom (fun _ => none) 0 g.filters }

end SearchFilterGroup

/-! ### Matching -/

/-- `Filterable`: the matching methods a route offers. -/
structure Filterable where
  matchSourceID : String → Bool
  matchASN : Int → Bool
  matchCommunity : Community → Bool
  matchExtCommunity : ExtCommunity → Bool
  matchLargeCommunity : Community → Bool
  matchAddrFamily : UInt8 → Bool

/-- `SearchFilterComparator`. -/
abbrev SearchFilterComparator := Filterable → FilterValue → Bool

/-- Go's conversion `uint8(v)` of an `int`: the low eight bits of its two's complement. -/
def uint8OfInt (v : Int) : UInt8 := UInt8.ofNat (v % 256).toNat

/-- The type assertion `value.(string)`: a `*string` is not a `string`. -/
def FilterValue.asString? : FilterValue → Option String
  | .string s => some s
  | _ => none

/-- The type assertion `value.(int)`. -/
def FilterValue.asInt? : FilterValue → Option Int
  | .int v => some v
  | _ => none

/-- The type assertion `value.(Community)`. -/
def FilterValue.asCommunity? : FilterValue → Option Community
  | .community c => some c
  | _ => none

/-- The type assertion `value.(ExtCommunity)`. -/
def FilterValue.asExtCommunity? : FilterValue → Option ExtCommunity
  | .extCommunity c => some c
  | _ => none

@[simp] lemma FilterValue.asString?_eq_some {v : FilterValue} {s : String} :
    v.asString? = some s ↔ v = .string s := by
  cases v <;> simp [asString?]

@[simp] lemma FilterValue.asInt?_eq_some {v : FilterValue} {n : Int} :
    v.asInt? = some n ↔ v = .int n := by
  cases v <;> simp [asInt?]

@[simp] lemma FilterValue.asCommunity?_eq_some {v : FilterValue} {c : Community} :
    v.asCommunity? = some c ↔ v = .community c := by
  cases v <;> simp [asCommunity?]

@[simp] lemma FilterValue.asExtCommunity?_eq_some {v : FilterValue} {c : ExtCommunity} :
    v.asExtCommunity? = some c ↔ v = .extCommunity c := by
  cases v <;> simp [asExtCommunity?]

/-- The shape of every `searchFilterMatch*` function: assert the value's dynamic type and call
the route's method on it; a failed assertion does not match. -/
def searchFilterMatchAs {α : Type} (assert : FilterValue → Option α) (method : α → Bool)
    (value : FilterValue) : Bool :=
  match assert value with
  | some x => method x
  | none => false

@[simp] lemma searchFilterMatchAs_eq_true {α : Type} {assert : FilterValue → Option α}
    {method : α → Bool} {value : FilterValue} :
    searchFilterMatchAs assert method value = true ↔
      ∃ x, assert value = some x ∧ method x = true := by
  unfold searchFilterMatchAs
  split <;> simp_all

/-- `searchFilterMatchSource`. -/
def searchFilterMatchSource (route : Filterable) : FilterValue → Bool :=
  searchFilterMatchAs FilterValue.asString? route.matchSourceID

/-- `searchFilterMatchASN`. -/
def searchFilterMatchASN (route : Filterable) : FilterValue → Bool :=
  searchFilterMatchAs FilterValue.asInt? route.matchASN

/-- `searchFilterMatchCommunity`. -/
def searchFilterMatchCommunity (route : Filterable) : FilterValue → Bool :=
  searchFilterMatchAs FilterValue.asCommunity? route.matchCommunity

/-- `searchFilterMatchExtCommunity`. -/
def searchFilterMatchExtCommunity (route : Filterable) : FilterValue → Bool :=
  searchFilterMatchAs FilterValue.asExtCommunity? route.matchExtCommunity

/-- `searchFilterMatchLargeCommunity`. -/
def searchFilterMatchLargeCommunity (route : Filterable) : FilterValue → Bool :=
  searchFilterMatchAs FilterValue.asCommunity? route.matchLargeCommunity

/-- `searchFilterMatchAddrFamily`: the `int` is converted to `uint8` before the call. -/
def searchFilterMatchAddrFamily (route : Filterable) : FilterValue → Bool :=
  searchFilterMatchAs FilterValue.asInt? fun family => route.matchAddrFamily (uint8OfInt family)

/-- The comparator of each key. -/
def SearchKey.comparator : SearchKey → SearchFilterComparator
  | .sources => searchFilterMatchSource
  | .asns => searchFilterMatchASN
  | .communities => searchFilterMatchCommunity
  | .extCommunities => searchFilterMatchExtCommunity
  | .largeCommunities => searchFilterMatchLargeCommunity
  | .addrFamily => searchFilterMatchAddrFamily

/-- `selectCmpFuncByKey`: no comparator for an unknown key. -/
def selectCmpFuncByKey (key : String) : Option SearchFilterComparator :=
  (SearchKey.ofString? key).map SearchKey.comparator

namespace SearchFilterGroup

/-- `MatchAny`: an empty group matches everything, a group with an unknown key nothing. -/
def matchAny (g : SearchFilterGroup) (route : Filterable) : Bool :=
  if g.filters.length = 0 then true
  else match selectCmpFuncByKey g.key with
    | none => false
    | some cmp => g.filters.any fun filter => cmp route filter.value

/-- `MatchAll`. -/
def matchAll (g : SearchFilterGroup) (route : Filterable) : Bool :=
  if g.filters.length = 0 then true
  else match selectCmpFuncByKey g.key with
    | none => false
    | some cmp => g.filters.all fun filter => cmp route filter.value

end SearchFilterGroup

end AliceLg
