import AliceLg.Api.SearchFilters.Invariant

/-!
# Facet counts

Observing routes into a fresh set counts them per facet: each group holds one filter per distinct
value observed in the facet, in the order of first observation, with the name of the first
observation and the number of observations as cardinality. Values are told apart as the spec
has it, a `*string` by its text; `AddFilter` tells them apart by canonical string, which agrees
on the values of one facet's kind once extended communities have three components.

`Combine` of the sets two runs build holds the values of the joined run, in the same order, but
not its counts: a value keeps its count in the first run that observed it.
-/

namespace AliceLg

/-! ### Counting by value -/

/-- The first occurrence of each element, in order. -/
def firstOccurrences {α : Type} [DecidableEq α] : List α → List α
  | [] => []
  | a :: as => a :: (firstOccurrences as).filter (· ≠ a)

example : firstOccurrences [1, 3, 2, 2, 3, 5] = [1, 3, 2, 5] := by decide

section FirstOccurrences

variable {α : Type} [DecidableEq α]

@[simp] lemma mem_firstOccurrences {a : α} : ∀ {l : List α}, a ∈ firstOccurrences l ↔ a ∈ l
  | [] => Iff.rfl
  | b :: l => by
    by_cases h : a = b <;> simp [firstOccurrences, h, mem_firstOccurrences]

lemma firstOccurrences_append_singleton (a : α) :
    ∀ l : List α, firstOccurrences (l ++ [a]) =
      firstOccurrences l ++ if a ∈ l then [] else [a]
  | [] => rfl
  | b :: l => by
    rw [List.cons_append, firstOccurrences, firstOccurrences_append_singleton a l, firstOccurrences,
      List.filter_append, List.cons_append]
    by_cases hab : a = b
    · subst hab
      split_ifs <;> simp_all
    · split_ifs <;> simp_all

lemma nodup_firstOccurrences : ∀ l : List α, (firstOccurrences l).Nodup
  | [] => List.nodup_nil
  | a :: l => List.nodup_cons.2 ⟨by simp, (nodup_firstOccurrences l).filter _⟩

/-- The first occurrences over two lists: those of the first, then those of the second that the
first does not hold. -/
lemma firstOccurrences_append : ∀ l₁ l₂ : List α,
    firstOccurrences (l₁ ++ l₂) = firstOccurrences l₁ ++ (firstOccurrences l₂).filter (· ∉ l₁)
  | [], l₂ => by simp [firstOccurrences]
  | a :: l₁, l₂ => by
    simp [firstOccurrences, firstOccurrences_append l₁ l₂, List.filter_filter, not_or, and_comm]

end FirstOccurrences

/-- `AddFilter` with values told apart as the spec has it: the filter with the value of `f` has
its cardinality incremented, or `f` is appended with cardinality one. -/
def countByValue (f : SearchFilter) : List SearchFilter → List SearchFilter
  | [] => [{ f with cardinality := 1 }]
  | x :: xs =>
    if x.value.deref = f.value.deref then { x with cardinality := x.cardinality + 1 } :: xs
    else x :: countByValue f xs

lemma map_deref_countByValue (f : SearchFilter) :
    ∀ l : List SearchFilter, (countByValue f l).map (·.value.deref) =
      if f.value.deref ∈ l.map (·.value.deref) then l.map (·.value.deref)
      else l.map (·.value.deref) ++ [f.value.deref]
  | [] => rfl
  | x :: xs => by
    by_cases h : x.value.deref = f.value.deref
    · simp [countByValue, h]
    · simp only [countByValue, h, if_false, List.map_cons, map_deref_countByValue f xs,
        List.mem_cons, Ne.symm h, false_or]
      split_ifs <;> rfl

/-- A filter after `countByValue` is an untouched one with another value, the one with the
value of `f` incremented, or `f` itself, new, with cardinality one. -/
lemma mem_countByValue {f x : SearchFilter} :
    ∀ {l : List SearchFilter}, (l.map (·.value.deref)).Nodup → x ∈ countByValue f l →
      (x ∈ l ∧ x.value.deref ≠ f.value.deref) ∨
      (∃ y ∈ l, y.value.deref = f.value.deref ∧ x = { y with cardinality := y.cardinality + 1 }) ∨
      (f.value.deref ∉ l.map (·.value.deref) ∧ x = { f with cardinality := 1 })
  | [], _, hx => by simp_all [countByValue]
  | y :: ys, hnd, hx => by
    rw [List.map_cons, List.nodup_cons] at hnd
    unfold countByValue at hx
    split_ifs at hx with hy
    · rcases List.mem_cons.1 hx with rfl | hx
      · exact .inr (.inl ⟨y, List.mem_cons_self _ _, hy, rfl⟩)
      · refine .inl ⟨List.mem_cons_of_mem _ hx, fun h => hnd.1 ?_⟩
        rw [hy, ← h]
        exact List.mem_map_of_mem _ hx
    · rcases List.mem_cons.1 hx with rfl | hx
      · exact .inl ⟨List.mem_cons_self _ _, hy⟩
      · rcases mem_countByValue hnd.2 hx with ⟨hx, hne⟩ | ⟨z, hz, hzf, rfl⟩ | ⟨hf, rfl⟩
        · exact .inl ⟨List.mem_cons_of_mem _ hx, hne⟩
        · exact .inr (.inl ⟨z, List.mem_cons_of_mem _ hz, hzf, rfl⟩)
        · exact .inr (.inr ⟨by simpa [Ne.symm hy] using hf, rfl⟩)

lemma countByValue_values {Q : FilterValue → Prop} {f : SearchFilter} (hf : Q f.value) :
    ∀ {l : List SearchFilter}, (∀ x ∈ l, Q x.value) → ∀ x ∈ countByValue f l, Q x.value
  | [], _ => by simpa [countByValue] using hf
  | y :: ys, h => by
    have hy := h y (List.mem_cons_self _ _)
    have hys := fun x hx => h x (List.mem_cons_of_mem y hx)
    unfold countByValue
    split_ifs
    · simpa using ⟨hy, hys⟩
    · simpa using ⟨hy, countByValue_values hf hys⟩

/-- On values of one kind with three-component extended communities, `countIn` and
`countByValue` agree: canonical strings tell such values apart as the spec does. -/
lemma countIn_eq_countByValue {f : SearchFilter} (hf : f.value.IsTriple) :
    ∀ {l : List SearchFilter}, (∀ x ∈ l, x.value.kind = f.value.kind ∧ x.value.IsTriple) →
      countIn f l = countByValue f l
  | [], _ => rfl
  | x :: xs, h => by
    obtain ⟨hk, hx⟩ := h x (List.mem_cons_self _ _)
    have ih := countIn_eq_countByValue hf fun y hy => h y (List.mem_cons_of_mem x hy)
    have hiff : filterValueAsString x.value = filterValueAsString f.value ↔
        x.value.deref = f.value.deref := by
      rw [← FilterValue.same_iff_string_eq hk hx hf]
      exact ⟨fun h => h.2, fun h => ⟨hx, h⟩⟩
    by_cases hd : x.value.deref = f.value.deref
    · simp [countIn, countByValue, hd, hiff.2 hd]
    · simp [countIn, countByValue, hd, mt hiff.1 hd, ih]

lemma foldl_countIn_eq {κ : ValueKind} :
    ∀ {l acc : List SearchFilter}, (∀ x ∈ acc, x.value.kind = κ ∧ x.value.IsTriple) →
      (∀ x ∈ l, x.value.kind = κ ∧ x.value.IsTriple) →
      l.foldl (fun acc f => countIn f acc) acc = l.foldl (fun acc f => countByValue f acc) acc
  | [], _, _, _ => rfl
  | f :: l, acc, hacc, hl => by
    obtain ⟨hfk, hft⟩ := hl f (List.mem_cons_self _ _)
    have hl' := fun x hx => hl x (List.mem_cons_of_mem f hx)
    rw [List.foldl_cons, List.foldl_cons,
      countIn_eq_countByValue hft fun x hx => ⟨(hacc x hx).1.trans hfk.symm, (hacc x hx).2⟩]
    exact foldl_countIn_eq (countByValue_values (Q := fun v => v.kind = κ ∧ v.IsTriple)
      ⟨hfk, hft⟩ hacc) hl'

/-- Counting a list of observations by value: one filter per distinct value, in order of first
observation; each is the first observation of its value with the number of observations of the
value as cardinality. -/
theorem foldl_countByValue_spec (obs : List SearchFilter) :
    (obs.foldl (fun acc f => countByValue f acc) []).map (·.value.deref) =
      firstOccurrences (obs.map (·.value.deref)) ∧
    ∀ x ∈ obs.foldl (fun acc f => countByValue f acc) [],
      ∃ f, obs.find? (·.value.deref = x.value.deref) = some f ∧
        x = { f with cardinality := obs.countP (·.value.deref = x.value.deref) } := by
  induction obs using List.reverseRecOn with
  | nil => simp [firstOccurrences]
  | append_singleton pre f ih =>
    obtain ⟨hmap, hmem⟩ := ih
    have hiff : f.value.deref ∈ (pre.foldl (fun acc f => countByValue f acc) []).map
        (·.value.deref) ↔ f.value.deref ∈ pre.map (·.value.deref) := by
      rw [hmap, mem_firstOccurrences]
    rw [List.foldl_append, List.foldl_cons, List.foldl_nil]
    refine ⟨?_, fun x hx => ?_⟩
    · rw [map_deref_countByValue, hmap, List.map_append, List.map_singleton,
        firstOccurrences_append_singleton]
      simp only [mem_firstOccurrences]
      split_ifs <;> simp
    · have hnd := hmap ▸ nodup_firstOccurrences (pre.map fun x : SearchFilter => x.value.deref)
      rcases mem_countByValue hnd hx with ⟨hx, hne⟩ | ⟨y, hy, hyf, rfl⟩ | ⟨hf, rfl⟩
      · obtain ⟨g, hg, hxg⟩ := hmem x hx
        have hf0 : [f].countP (·.value.deref = x.value.deref) = 0 := by simp [Ne.symm hne]
        exact ⟨g, by simp [hg], by rw [List.countP_append, hf0, Nat.add_zero]; exact hxg⟩
      · obtain ⟨g, hg, hyg⟩ := hmem y hy
        have hc := congrArg SearchFilter.cardinality hyg
        have hn := congrArg SearchFilter.name hyg
        have hv := congrArg SearchFilter.value hyg
        simp only at hc hn hv
        refine ⟨g, by simp [hg], ?_⟩
        simp only [SearchFilter.mk.injEq, List.countP_append, hc, hn, hv, true_and, and_true]
        simp [← hv, hyf]
      · have hnot : ∀ y ∈ pre, y.value.deref ≠ f.value.deref := fun y hy h =>
          (hiff.not.1 hf) (h ▸ List.mem_map_of_mem _ hy)
        have hnone : pre.find? (·.value.deref = f.value.deref) = none := by simpa using hnot
        have hzero : pre.countP (·.value.deref = f.value.deref) = 0 := by simpa using hnot
        exact ⟨f, by simp [hnone], by simp [hzero]⟩

/-- The union by `Same` of two lists of observations counted by value, with values of three
components: the values are the first occurrences over both lists, and each filter is the first
observation of its value over both, with the count of its value in the first list that holds it. -/
lemma unionBy_countByValue {obs₁ obs₂ : List SearchFilter}
    (h : ∀ x ∈ obs₁ ++ obs₂, x.value.IsTriple) :
    (unionBy SearchFilter.same (obs₁.foldl (fun acc f => countByValue f acc) [])
        (obs₂.foldl (fun acc f => countByValue f acc) [])).map (·.value.deref) =
      firstOccurrences ((obs₁ ++ obs₂).map (·.value.deref)) ∧
    ∀ x ∈ unionBy SearchFilter.same (obs₁.foldl (fun acc f => countByValue f acc) [])
        (obs₂.foldl (fun acc f => countByValue f acc) []),
      ∃ f, (obs₁ ++ obs₂).find? (·.value.deref = x.value.deref) = some f ∧
        x = { f with cardinality :=
          if x.value.deref ∈ obs₁.map (·.value.deref)
          then obs₁.countP (·.value.deref = x.value.deref)
          else obs₂.countP (·.value.deref = x.value.deref) } := by
  obtain ⟨hm₁, hx₁⟩ := foldl_countByValue_spec obs₁
  obtain ⟨hm₂, hx₂⟩ := foldl_countByValue_spec obs₂
  set L₁ := obs₁.foldl (fun acc f => countByValue f acc) []
  set L₂ := obs₂.foldl (fun acc f => countByValue f acc) []
  have htriple : ∀ x ∈ L₁ ++ L₂, x.value.IsTriple := fun x hx => by
    rcases List.mem_append.1 hx with hx | hx
    · obtain ⟨f, hf, hxf⟩ := hx₁ x hx
      rw [hxf]
      exact h f (List.mem_append_left _ (List.mem_of_find?_eq_some hf))
    · obtain ⟨f, hf, hxf⟩ := hx₂ x hx
      rw [hxf]
      exact h f (List.mem_append_right _ (List.mem_of_find?_eq_some hf))
  have hnot : ∀ v, v ∉ L₁.map (·.value.deref) ↔ v ∉ obs₁.map (·.value.deref) := by
    simp [hm₁]
  rw [unionBy_eq_append, addedBy_eq_filter (·.value.deref)
    (fun x hx y _ => by simp [SearchFilter.same, FilterValue.Same, htriple x hx])
    (hm₂ ▸ nodup_firstOccurrences _)]
  refine ⟨?_, fun x hx => ?_⟩
  · have hfm : (L₂.filter fun f => f.value.deref ∉ L₁.map (·.value.deref)).map (·.value.deref) =
        (L₂.map (·.value.deref)).filter (· ∉ L₁.map (·.value.deref)) := by
      rw [List.filter_map]; rfl
    rw [List.map_append, hfm, hm₁, hm₂, List.map_append, firstOccurrences_append]
    exact congrArg _ (List.filter_congr fun v _ => by simp [hnot])
  · rw [List.find?_append]
    rcases List.mem_append.1 hx with hx | hx
    · obtain ⟨f, hf, hxf⟩ := hx₁ x hx
      have hin : x.value.deref ∈ obs₁.map (·.value.deref) :=
        List.mem_map.2 ⟨f, List.mem_of_find?_eq_some hf, by simpa using List.find?_some hf⟩
      exact ⟨f, by rw [hf]; rfl, by rw [if_pos hin]; exact hxf⟩
    · obtain ⟨hx, hnx⟩ := List.mem_filter.1 hx
      have hnin := (hnot _).1 (of_decide_eq_true hnx)
      obtain ⟨f, hf, hxf⟩ := hx₂ x hx
      have hnone : obs₁.find? (·.value.deref = x.value.deref) = none :=
        List.find?_eq_none.2 fun y hy hyx => hnin (List.mem_map.2 ⟨y, hy, of_decide_eq_true hyx⟩)
      exact ⟨f, by rw [hnone, hf]; rfl, by rw [if_neg hnin]; exact hxf⟩

/-! ### Observing routes -/

/-- One call of a builder: a route of a lookup, a plain route, or the address families of a
source. -/
inductive Observation where
  | lookupRoute (r : LookupRoute)
  | route (r : Route)
  | addrFamilies (ip4 ip6 : Bool)

/-- The builder each observation calls. -/
def SearchFilters.observe (s : SearchFilters) : Observation → Option SearchFilters
  | .lookupRoute r => s.updateFromLookupRoute r
  | .route r => s.updateFromRoute r
  | .addrFamilies ip4 ip6 => s.setFilterAddrFamilies ip4 ip6

/-- What a route's communities show at each facet, in order: each community under its
rendering. -/
def BGPInfo.filters (bgp : BGPInfo) : SearchKey → List SearchFilter
  | .communities => bgp.communities.map fun c => ⟨0, Community.string c, .community c⟩
  | .extCommunities => bgp.extCommunities.map fun c => ⟨0, c.string, .extCommunity c⟩
  | .largeCommunities => bgp.largeCommunities.map fun c => ⟨0, Community.string c, .community c⟩
  | _ => []

/-- What an observation shows at each facet, in order: a lookup route its route server's id under
the server's name and its neighbor's ASN under the neighbor's description, every route its
communities, and the enabled address families `4` and `6` under `IPv4` and `IPv6`. -/
def Observation.filters : Observation → SearchKey → List SearchFilter
  | .lookupRoute r, .sources => [⟨0, r.routeServer.name, .strPtr r.routeServer.id⟩]
  | .lookupRoute r, .asns => [⟨0, r.neighbor.description, .int r.neighbor.asn⟩]
  | .lookupRoute r, k => r.route.bgp.filters k
  | .route r, k => r.bgp.filters k
  | .addrFamilies ip4 ip6, .addrFamily =>
    (if ip4 then [⟨1, "IPv4", .int 4⟩] else []) ++ (if ip6 then [⟨1, "IPv6", .int 6⟩] else [])
  | .addrFamilies _ _, _ => []

lemma Observation.kind_of_mem_filters {o : Observation} {k : SearchKey} {f : SearchFilter}
    (h : f ∈ o.filters k) : f.value.kind = k.valueKind := by
  cases o <;> cases k <;> simp [filters, BGPInfo.filters] at h <;>
    first
    | (rcases h with ⟨-, rfl⟩ | ⟨-, rfl⟩ <;> rfl)
    | (obtain ⟨c, -, rfl⟩ := h; rfl)

lemma FilterValue.isTriple_of_kind_ne {v : FilterValue} (h : v.kind ≠ .extCommunity) :
    v.IsTriple := by
  cases v <;> simp_all [FilterValue.kind, FilterValue.IsTriple]

/-! ### The groups along a run -/

namespace SearchFilters

/-- Each facet's group of `s` is consistent and holds the filters `c k`. -/
def Holds (s : SearchFilters) (c : SearchKey → List SearchFilter) : Prop :=
  ∀ k, ∃ g, s[k.position]? = some g ∧ g.Consistent ∧ g.filters = c k

lemma holds_newSearchFilters : newSearchFilters.Holds fun _ => [] := fun k =>
  ⟨_, getElem?_newSearchFilters k, SearchFilterGroup.consistent_empty _, rfl⟩

/-- `AddFilters` on one facet's group does `countIn` for each filter there and nothing
elsewhere. -/
lemma Holds.addFilters {s : SearchFilters} {c : SearchKey → List SearchFilter} (hs : s.Holds c)
    (k : SearchKey) (fs : List SearchFilter) :
    ∃ s', s.updateGroup k.toString (·.addFilters fs) = some s' ∧
      s'.Holds (Function.update c k (fs.foldl (fun acc f => countIn f acc) (c k))) := by
  obtain ⟨g, hg, hc, hfs⟩ := hs k
  obtain ⟨g', h', -, hf', hc'⟩ := SearchFilterGroup.addFilters_spec hc fs
  refine ⟨s.set k.position g', by simp [hg, h'], fun k' => ?_⟩
  rw [getElem?_set_position (List.getElem?_eq_some_iff.1 hg).1]
  by_cases hk : k' = k
  · subst hk
    exact ⟨g', by simp, hc', by simp [hf', hfs]⟩
  · obtain ⟨g'', hg'', hc'', hf''⟩ := hs k'
    exact ⟨g'', by simp [hk, hg''], hc'', by simp [hf'', Function.update_noteq hk]⟩

lemma Holds.addFilter {s : SearchFilters} {c : SearchKey → List SearchFilter} (hs : s.Holds c)
    (k : SearchKey) (f : SearchFilter) :
    ∃ s', s.updateGroup k.toString (·.addFilter f) = some s' ∧
      s'.Holds (Function.update c k (countIn f (c k))) := by
  have h : ∀ g : SearchFilterGroup, g.addFilter f = g.addFilters [f] := fun g => by
    simp [SearchFilterGroup.addFilters]
  simpa only [h] using hs.addFilters k [f]

lemma Holds.updateCommunities {s : SearchFilters} {c : SearchKey → List SearchFilter}
    (hs : s.Holds c) (bgp : BGPInfo) :
    ∃ s', s.updateCommunities bgp = some s' ∧
      s'.Holds fun k => (bgp.filters k).foldl (fun acc f => countIn f acc) (c k) := by
  obtain ⟨s₁, h₁, hs₁⟩ := hs.addFilters .communities (bgp.communities.map communityFilter)
  obtain ⟨s₂, h₂, hs₂⟩ := hs₁.addFilters .extCommunities (bgp.extCommunities.map extCommunityFilter)
  obtain ⟨s₃, h₃, hs₃⟩ := hs₂.addFilters .largeCommunities
    (bgp.largeCommunities.map communityFilter)
  refine ⟨s₃, by simp only [SearchFilters.updateCommunities, h₁, h₂, h₃, Option.bind_eq_bind,
    Option.some_bind], ?_⟩
  convert hs₃ using 2 with k
  cases k <;> rfl

/-- One observation counts its filters into each facet's group. -/
lemma Holds.observe {s : SearchFilters} {c : SearchKey → List SearchFilter} (hs : s.Holds c)
    (o : Observation) :
    ∃ s', s.observe o = some s' ∧
      s'.Holds fun k => (o.filters k).foldl (fun acc f => countIn f acc) (c k) := by
  cases o with
  | lookupRoute r =>
    obtain ⟨s₁, h₁, hs₁⟩ := hs.addFilter .sources (sourceFilter r)
    obtain ⟨s₂, h₂, hs₂⟩ := hs₁.addFilter .asns (asnFilter r)
    obtain ⟨s₃, h₃, hs₃⟩ := hs₂.updateCommunities r.route.bgp
    refine ⟨s₃, ?_, ?_⟩
    · simp only [SearchFilters.observe, updateFromLookupRoute, updateCommunitiesFromLookupRoute,
        updateSourcesFromLookupRoute, updateASNSFromLookupRoute, h₁, h₂, h₃, Option.bind_eq_bind,
        Option.some_bind]
    · convert hs₃ using 2 with k
      cases k <;> rfl
  | route r => exact hs.updateCommunities r.bgp
  | addrFamilies ip4 ip6 =>
    have step : ∀ {t : SearchFilters} {d : SearchKey → List SearchFilter} (b : Bool) (af : UInt8),
        t.Holds d → ∃ t', (if b then t.addFilterAddrFamily af else some t) = some t' ∧
          t'.Holds (Function.update d .addrFamily
            ((if b then [addrFamilyFilter af] else []).foldl (fun acc f => countIn f acc)
              (d .addrFamily))) := by
      intro t d b af ht
      cases b
      · exact ⟨t, rfl, by simpa using ht⟩
      · simpa only [if_true, List.foldl_cons, List.foldl_nil] using
          ht.addFilter .addrFamily (addrFamilyFilter af)
    obtain ⟨s₁, h₁, hs₁⟩ := step ip4 addrFamilyIPv4 hs
    obtain ⟨s₂, h₂, hs₂⟩ := step ip6 addrFamilyIPv6 hs₁
    refine ⟨s₂, by
      rw [SearchFilters.observe, setFilterAddrFamilies_eq, h₁, Option.some_bind, h₂], ?_⟩
    convert hs₂ using 2 with k
    cases k
    case addrFamily => cases ip4 <;> cases ip6 <;> rfl
    all_goals rfl

/-- A run of observations counts each observation's filters into each facet's group, in order. -/
lemma Holds.foldlM_observe :
    ∀ (os : List Observation) {s : SearchFilters} {c : SearchKey → List SearchFilter}, s.Holds c →
      ∃ S, os.foldlM SearchFilters.observe s = some S ∧
        S.Holds fun k => (os.flatMap (·.filters k)).foldl (fun acc f => countIn f acc) (c k)
  | [], s, _, hs => ⟨s, rfl, by simpa using hs⟩
  | o :: os, _, _, hs => by
    obtain ⟨s₁, h₁, hs₁⟩ := hs.observe o
    obtain ⟨S, hS, hSh⟩ := Holds.foldlM_observe os hs₁
    refine ⟨S, by simp [List.foldlM_cons, h₁, hS], ?_⟩
    simpa [List.flatMap_cons, List.foldl_append] using hSh

/-- Facet counting is exact: observing routes and address families into a fresh set, with
extended communities of three components, leaves in each facet's group one filter per distinct
value observed there, in order of first observation, each the first observation of its value
with the number of observations of the value as cardinality. -/
theorem observe_counts (os : List Observation)
    (hext : ∀ o ∈ os, ∀ f ∈ o.filters .extCommunities, f.value.IsTriple) :
    ∃ S, os.foldlM SearchFilters.observe newSearchFilters = some S ∧
      ∀ k : SearchKey, ∃ g, S.getGroupByKey k.toString = some g ∧
        g.filters.map (·.value.deref) =
          firstOccurrences ((os.flatMap (·.filters k)).map (·.value.deref)) ∧
        ∀ x ∈ g.filters, ∃ f, (os.flatMap (·.filters k)).find? (·.value.deref = x.value.deref) =
            some f ∧
          x = { f with cardinality :=
            (os.flatMap (·.filters k)).countP (·.value.deref = x.value.deref) } := by
  obtain ⟨S, hS, hSh⟩ := holds_newSearchFilters.foldlM_observe os
  refine ⟨S, hS, fun k => ?_⟩
  obtain ⟨g, hg, -, hgf⟩ := hSh k
  have hq : ∀ x ∈ os.flatMap (·.filters k), x.value.kind = k.valueKind ∧ x.value.IsTriple := by
    intro x hx
    obtain ⟨o, ho, hx⟩ := List.mem_flatMap.1 hx
    refine ⟨Observation.kind_of_mem_filters hx, ?_⟩
    by_cases hk : k = .extCommunities
    · subst hk
      exact hext o ho x hx
    · refine FilterValue.isTriple_of_kind_ne ?_
      rw [Observation.kind_of_mem_filters hx]
      cases k <;> simp_all [SearchKey.valueKind]
  beta_reduce at hgf
  rw [foldl_countIn_eq (by simp) hq] at hgf
  exact ⟨g, by simpa using hg, hgf ▸ foldl_countByValue_spec _⟩

/-- Counting a route carrying one community twice and an extended community, and IPv4. -/
theorem observe_counts_route :
    (∀ o ∈ ([.route ⟨⟨[[65000, 100], [65000, 100]], [], [⟨"rt", [65000, 1]⟩]⟩⟩,
        .addrFamilies true false] : List Observation),
      ∀ f ∈ o.filters .extCommunities, f.value.IsTriple) ∧
    ∃ S, ([.route ⟨⟨[[65000, 100], [65000, 100]], [], [⟨"rt", [65000, 1]⟩]⟩⟩,
        .addrFamilies true false] : List Observation).foldlM
        SearchFilters.observe newSearchFilters = some S ∧
      ∀ k : SearchKey, ∃ g, S.getGroupByKey k.toString = some g ∧
        g.filters.map (·.value.deref) = firstOccurrences
          ((([.route ⟨⟨[[65000, 100], [65000, 100]], [], [⟨"rt", [65000, 1]⟩]⟩⟩,
            .addrFamilies true false] : List Observation).flatMap (·.filters k)).map
            (·.value.deref)) ∧
        ∀ x ∈ g.filters, ∃ f, (([.route ⟨⟨[[65000, 100], [65000, 100]], [],
            [⟨"rt", [65000, 1]⟩]⟩⟩, .addrFamilies true false] : List Observation).flatMap
            (·.filters k)).find? (·.value.deref = x.value.deref) = some f ∧
          x = { f with cardinality := (([.route ⟨⟨[[65000, 100], [65000, 100]], [],
            [⟨"rt", [65000, 1]⟩]⟩⟩, .addrFamilies true false] : List Observation).flatMap
            (·.filters k)).countP (·.value.deref = x.value.deref) } :=
  have hext : ∀ o ∈ ([.route ⟨⟨[[65000, 100], [65000, 100]], [], [⟨"rt", [65000, 1]⟩]⟩⟩,
      .addrFamilies true false] : List Observation),
      ∀ f ∈ o.filters .extCommunities, f.value.IsTriple := by decide
  ⟨hext, observe_counts _ hext⟩

/-! ### The counts of two runs combined -/

variable {P : StringPool}

/-- An observation keeps the invariant, given a lookup route's id comes from the pool and the
extended communities observed have three components. -/
lemma WellFormed.observe {s s' : SearchFilters} (hs : s.WellFormed P) {o : Observation}
    (hid : ∀ r, o = .lookupRoute r → r.routeServer.id.InPool P)
    (hext : ∀ f ∈ o.filters .extCommunities, f.value.IsTriple) (h : s.observe o = some s') :
    s'.WellFormed P := by
  have hlen : ∀ bgp : BGPInfo, (∀ f ∈ bgp.filters .extCommunities, f.value.IsTriple) →
      ∀ c ∈ bgp.extCommunities, c.values.length = 2 :=
    fun _ h c hc => h _ (List.mem_map_of_mem _ hc)
  cases o with
  | lookupRoute r => exact hs.updateFromLookupRoute (hid r rfl) (hlen _ hext) h
  | route r => exact hs.updateCommunities (hlen _ hext) h
  | addrFamilies => exact hs.setFilterAddrFamilies h

lemma WellFormed.foldlM_observe :
    ∀ {os : List Observation} {s S : SearchFilters}, s.WellFormed P →
      (∀ r, Observation.lookupRoute r ∈ os → r.routeServer.id.InPool P) →
      (∀ o ∈ os, ∀ f ∈ o.filters .extCommunities, f.value.IsTriple) →
      os.foldlM SearchFilters.observe s = some S → S.WellFormed P
  | [], _, _, hs, _, _, h => Option.some.inj h ▸ hs
  | o :: _, _, _, hs, hid, hext, h => by
    obtain ⟨s₁, h₁, h⟩ := Option.bind_eq_some.1 h
    exact (hs.observe (fun r hr => hid r (hr ▸ List.mem_cons_self _ _))
      (hext o (List.mem_cons_self _ _)) h₁).foldlM_observe
      (fun r hr => hid r (List.mem_cons_of_mem _ hr))
      (fun o ho => hext o (List.mem_cons_of_mem _ ho)) h

/-- What a run adds to a facet is of the facet's kind, and has three components given the
extended communities observed have. -/
lemma kind_isTriple_of_mem_flatMap {os : List Observation}
    (hext : ∀ o ∈ os, ∀ f ∈ o.filters .extCommunities, f.value.IsTriple) {k : SearchKey}
    {x : SearchFilter} (hx : x ∈ os.flatMap (·.filters k)) :
    x.value.kind = k.valueKind ∧ x.value.IsTriple := by
  obtain ⟨o, ho, hx⟩ := List.mem_flatMap.1 hx
  refine ⟨Observation.kind_of_mem_filters hx, ?_⟩
  by_cases hk : k = .extCommunities
  · subst hk
    exact hext o ho x hx
  · refine FilterValue.isTriple_of_kind_ne ?_
    rw [Observation.kind_of_mem_filters hx]
    cases k <;> simp_all [SearchKey.valueKind]

/-- A run from a fresh set counts each facet's filters by value. -/
lemma foldlM_observe_counted (os : List Observation)
    (hext : ∀ o ∈ os, ∀ f ∈ o.filters .extCommunities, f.value.IsTriple) :
    ∃ S, os.foldlM SearchFilters.observe newSearchFilters = some S ∧
      ∀ k : SearchKey, ∃ g, S[k.position]? = some g ∧
        g.filters = (os.flatMap (·.filters k)).foldl (fun acc f => countByValue f acc) [] := by
  obtain ⟨S, hS, hSh⟩ := holds_newSearchFilters.foldlM_observe os
  refine ⟨S, hS, fun k => ?_⟩
  obtain ⟨g, hg, -, hgf⟩ := hSh k
  exact ⟨g, hg, hgf.trans (foldl_countIn_eq (by simp) fun x hx =>
    kind_isTriple_of_mem_flatMap hext hx)⟩

/-- Combining the filters of two runs gives the values of the joined run, in the same order, but
not its counts. For lookup routes whose ids come from the pool and extended communities of three
components, let two runs of observations build sets from fresh ones: each filter of their
`Combine` is the first observation of its value over both runs, with the number of observations of
its value in the first run that observed it as cardinality, where observing the joined run into
one set counts both. -/
theorem combine_observe {os₁ os₂ : List Observation}
    (hid : ∀ r, Observation.lookupRoute r ∈ os₁ ++ os₂ → r.routeServer.id.InPool P)
    (hext : ∀ o ∈ os₁ ++ os₂, ∀ f ∈ o.filters .extCommunities, f.value.IsTriple) :
    ∃ A B C, os₁.foldlM SearchFilters.observe newSearchFilters = some A ∧
      os₂.foldlM SearchFilters.observe newSearchFilters = some B ∧ A.combine B = some C ∧
      ∀ k : SearchKey, ∃ c, C.getGroupByKey k.toString = some c ∧
        c.filters.map (·.value.deref) =
          firstOccurrences (((os₁ ++ os₂).flatMap (·.filters k)).map (·.value.deref)) ∧
        ∀ x ∈ c.filters, ∃ f,
          ((os₁ ++ os₂).flatMap (·.filters k)).find? (·.value.deref = x.value.deref) = some f ∧
          x = { f with cardinality :=
            if x.value.deref ∈ (os₁.flatMap (·.filters k)).map (·.value.deref)
            then (os₁.flatMap (·.filters k)).countP (·.value.deref = x.value.deref)
            else (os₂.flatMap (·.filters k)).countP (·.value.deref = x.value.deref) } := by
  have hext₁ : ∀ o ∈ os₁, ∀ f ∈ o.filters .extCommunities, f.value.IsTriple :=
    fun o ho => hext o (List.mem_append_left _ ho)
  have hext₂ : ∀ o ∈ os₂, ∀ f ∈ o.filters .extCommunities, f.value.IsTriple :=
    fun o ho => hext o (List.mem_append_right _ ho)
  obtain ⟨A, hA, hAg⟩ := foldlM_observe_counted os₁ hext₁
  obtain ⟨B, hB, hBg⟩ := foldlM_observe_counted os₂ hext₂
  have wA := wellFormed_newSearchFilters.foldlM_observe
    (fun r hr => hid r (List.mem_append_left _ hr)) hext₁ hA
  have wB := wellFormed_newSearchFilters.foldlM_observe
    (fun r hr => hid r (List.mem_append_right _ hr)) hext₂ hB
  refine ⟨A, B, _, hA, hB, combine_eq_zipWith wA.admitted.ofKinds wB.admitted.ofKinds, fun k => ?_⟩
  obtain ⟨a, ha, hfa⟩ := hAg k
  obtain ⟨b, hb, hfb⟩ := hBg k
  refine ⟨_, by rw [getGroupByKey_toString, getElem?_zipWith_of ha hb], ?_⟩
  rw [SearchFilterGroup.combined_filters, hfa, hfb, List.flatMap_append]
  exact unionBy_countByValue fun x hx =>
    (kind_isTriple_of_mem_flatMap hext (by rwa [List.flatMap_append])).2

/-- Two routes carrying the community `65000:1`. -/
def oneCommunityRun : List Observation :=
  [.route ⟨⟨[[65000, 1]], [], []⟩⟩, .route ⟨⟨[[65000, 1]], [], []⟩⟩]

/-- A route carrying `65000:1` and `65000:2`, and IPv4. -/
def twoCommunitiesRun : List Observation :=
  [.route ⟨⟨[[65000, 1], [65000, 2]], [], []⟩⟩, .addrFamilies true false]

/-- Combining the counts of the two runs: `65000:1` keeps the count of the first. -/
theorem combine_observe_communities :
    (∀ r, Observation.lookupRoute r ∈ oneCommunityRun ++ twoCommunitiesRun →
      r.routeServer.id.InPool .pairing) ∧
    (∀ o ∈ oneCommunityRun ++ twoCommunitiesRun,
      ∀ f ∈ o.filters .extCommunities, f.value.IsTriple) ∧
    ∃ A B C, oneCommunityRun.foldlM SearchFilters.observe newSearchFilters = some A ∧
      twoCommunitiesRun.foldlM SearchFilters.observe newSearchFilters = some B ∧
      A.combine B = some C ∧
      ∀ k : SearchKey, ∃ c, C.getGroupByKey k.toString = some c ∧
        c.filters.map (·.value.deref) = firstOccurrences (((oneCommunityRun ++
          twoCommunitiesRun).flatMap (·.filters k)).map (·.value.deref)) ∧
        ∀ x ∈ c.filters, ∃ f, ((oneCommunityRun ++ twoCommunitiesRun).flatMap
            (·.filters k)).find? (·.value.deref = x.value.deref) = some f ∧
          x = { f with cardinality :=
            if x.value.deref ∈ (oneCommunityRun.flatMap (·.filters k)).map (·.value.deref)
            then (oneCommunityRun.flatMap (·.filters k)).countP (·.value.deref = x.value.deref)
            else (twoCommunitiesRun.flatMap (·.filters k)).countP (·.value.deref = x.value.deref)
          } :=
  have hid : ∀ r, Observation.lookupRoute r ∈ oneCommunityRun ++ twoCommunitiesRun →
      r.routeServer.id.InPool .pairing := by
    simp [oneCommunityRun, twoCommunitiesRun]
  have hext : ∀ o ∈ oneCommunityRun ++ twoCommunitiesRun,
      ∀ f ∈ o.filters .extCommunities, f.value.IsTriple := by decide
  ⟨hid, hext, combine_observe hid hext⟩

end SearchFilters

end AliceLg
