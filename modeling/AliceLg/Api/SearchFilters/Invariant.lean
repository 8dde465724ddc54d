import AliceLg.Api.SearchFilters.Combine
import AliceLg.Api.SearchFilters.Sub
import AliceLg.Api.SearchFilters.MergeProperties
import AliceLg.Api.Query

/-!
# The representation invariant of filter sets

Every filter set the engine builds has the six groups in the fixed order, and each group is
consistent: no two filters render to one canonical string, and the index is the inverse of the
positions. The sets built are those reachable from a fresh set, a query or a token list by the
builders, `AddFilter` and `AddFilters` on a group, `MergeProperties`, `Combine` and `Sub`, with the
values of each facet's kind. Each operation keeps the invariant; induction over the operations
gives it for every reachable set.
-/

namespace AliceLg

variable {P : StringPool}

/-- The invariant: the six groups in order with values the builders admit, each consistent. -/
structure SearchFilters.WellFormed (P : StringPool) (s : SearchFilters) : Prop where
  admitted : s.Admitted P
  consistent : ∀ g ∈ s, g.Consistent

namespace SearchFilters

lemma wellFormed_newSearchFilters : newSearchFilters.WellFormed P :=
  ⟨typed_newSearchFilters _, fun g hg => by
    obtain ⟨k, -, rfl⟩ := List.mem_map.1 hg
    exact SearchFilterGroup.consistent_empty _⟩

lemma WellFormed.key_eq {s : SearchFilters} (hs : s.WellFormed P) {k : SearchKey}
    {g : SearchFilterGroup} (hg : s[k.position]? = some g) : g.key = k.toString := by
  have := congrArg (·[k.position]?) hs.admitted.keys
  simpa [List.getElem?_map, hg] using this

/-! ### Updating one group -/

/-- Replacing the group of facet `k` by what `f` makes of it keeps the invariant, when `f` keeps
a consistent group's key, consistency and the kind of its values. -/
lemma WellFormed.updateGroup {s s' : SearchFilters} (hs : s.WellFormed P) {k : SearchKey}
    {f : SearchFilterGroup → Option SearchFilterGroup}
    (hf : ∀ g g', g.Consistent → (∀ x ∈ g.filters, k.Admits P x.value) → f g = some g' →
      g'.key = g.key ∧ g'.Consistent ∧ ∀ x ∈ g'.filters, k.Admits P x.value)
    (h : s.updateGroup k.toString f = some s') : s'.WellFormed P := by
  simp only [updateGroup_toString, Option.bind_eq_some, Option.map_eq_some'] at h
  obtain ⟨g, hg, g', hg', rfl⟩ := h
  have hgs := List.getElem?_mem hg
  obtain ⟨hkey, hc, hv⟩ := hf g g' (hs.consistent g hgs) (hs.admitted.values k g hg) hg'
  refine ⟨hs.admitted.set (hkey.trans (hs.key_eq hg)) hv, fun c hc' => ?_⟩
  rcases List.mem_or_eq_of_mem_set hc' with hc' | rfl
  exacts [hs.consistent c hc', hc]

lemma addFilter_step {k : SearchKey} {f : SearchFilter} (hf : k.Admits P f.value)
    (g g' : SearchFilterGroup) (hg : g.Consistent) (hv : ∀ x ∈ g.filters, k.Admits P x.value)
    (h : g.addFilter f = some g') :
    g'.key = g.key ∧ g'.Consistent ∧ ∀ x ∈ g'.filters, k.Admits P x.value := by
  obtain ⟨g'', h', hkey, hfs, hc⟩ := SearchFilterGroup.addFilter_spec hg f
  cases h.symm.trans h'
  exact ⟨hkey, hc, hfs ▸ countIn_values hf hv⟩

lemma addFilters_step {k : SearchKey} {fs : List SearchFilter}
    (hfs : ∀ f ∈ fs, k.Admits P f.value)
    (g g' : SearchFilterGroup) (hg : g.Consistent) (hv : ∀ x ∈ g.filters, k.Admits P x.value)
    (h : g.addFilters fs = some g') :
    g'.key = g.key ∧ g'.Consistent ∧ ∀ x ∈ g'.filters, k.Admits P x.value := by
  induction fs generalizing g with
  | nil => cases h; exact ⟨rfl, hg, hv⟩
  | cons f fs ih =>
    simp only [SearchFilterGroup.addFilters, List.foldlM_cons, Option.bind_eq_bind,
      Option.bind_eq_some] at h
    obtain ⟨g₁, h₁, h₂⟩ := h
    obtain ⟨hk₁, hc₁, hv₁⟩ := addFilter_step (hfs f (List.mem_cons_self _ _)) g g₁ hg hv h₁
    obtain ⟨hk₂, hc₂, hv₂⟩ := ih (fun f hf => hfs f (List.mem_cons_of_mem _ hf)) g₁ hc₁ hv₁ h₂
    exact ⟨hk₂.trans hk₁, hc₂, hv₂⟩

lemma WellFormed.addFilter {s s' : SearchFilters} (hs : s.WellFormed P) {k : SearchKey}
    {f : SearchFilter} (h : s.updateGroup k.toString (·.addFilter f) = some s')
    (hf : k.Admits P f.value) : s'.WellFormed P :=
  hs.updateGroup (addFilter_step hf) h

lemma WellFormed.addFilters {s s' : SearchFilters} (hs : s.WellFormed P) {k : SearchKey}
    {fs : List SearchFilter} (h : s.updateGroup k.toString (·.addFilters fs) = some s')
    (hfs : ∀ f ∈ fs, k.Admits P f.value) : s'.WellFormed P :=
  hs.updateGroup (addFilters_step hfs) h

/-! ### The builders -/

lemma admits_community (P : StringPool) (c : Community) :
    SearchKey.communities.Admits P (.community c) := ⟨⟨rfl, trivial⟩, trivial⟩

lemma admits_largeCommunity {v : FilterValue} (h : SearchKey.communities.Admits P v) :
    SearchKey.largeCommunities.Admits P v := ⟨⟨h.kind, h.pooled⟩, h.triple⟩

lemma WellFormed.updateCommunities {s s' : SearchFilters} (hs : s.WellFormed P) {bgp : BGPInfo}
    (hbgp : ∀ c ∈ bgp.extCommunities, c.values.length = 2)
    (h : s.updateCommunities bgp = some s') : s'.WellFormed P := by
  simp only [SearchFilters.updateCommunities, Option.bind_eq_bind, Option.bind_eq_some] at h
  obtain ⟨s₁, h₁, s₂, h₂, h₃⟩ := h
  refine ((hs.addFilters h₁ ?_).addFilters h₂ ?_).addFilters h₃ ?_ <;>
    simp only [List.mem_map, forall_exists_index, and_imp, forall_apply_eq_imp_iff₂]
  · exact fun c _ => admits_community P c
  · exact fun c hc => ⟨⟨rfl, trivial⟩, hbgp c hc⟩
  · exact fun c _ => admits_largeCommunity (admits_community P c)

lemma WellFormed.updateFromLookupRoute {s s' : SearchFilters} (hs : s.WellFormed P)
    {r : LookupRoute} (hid : r.routeServer.id.InPool P)
    (hext : ∀ c ∈ r.route.bgp.extCommunities, c.values.length = 2)
    (h : s.updateFromLookupRoute r = some s') : s'.WellFormed P := by
  simp only [SearchFilters.updateFromLookupRoute, Option.bind_eq_bind, Option.bind_eq_some] at h
  obtain ⟨s₁, h₁, s₂, h₂, h₃⟩ := h
  exact ((hs.addFilter h₁ ⟨⟨rfl, hid⟩, trivial⟩).addFilter h₂ ⟨⟨rfl, trivial⟩, trivial⟩
    ).updateCommunities hext h₃

lemma WellFormed.addFilterAddrFamily {s s' : SearchFilters} (hs : s.WellFormed P) {af : UInt8}
    (h : s.addFilterAddrFamily af = some s') : s'.WellFormed P :=
  hs.addFilter h ⟨⟨rfl, trivial⟩, trivial⟩

lemma WellFormed.setFilterAddrFamilies {s s' : SearchFilters} (hs : s.WellFormed P)
    {ip4 ip6 : Bool} (h : s.setFilterAddrFamilies ip4 ip6 = some s') : s'.WellFormed P := by
  have step : ∀ {t t' : SearchFilters} (b : Bool) (af : UInt8), t.WellFormed P →
      (if b then t.addFilterAddrFamily af else pure t) = some t' → t'.WellFormed P := by
    intro t t' b af ht h
    cases b
    · simpa [show t = t' by simpa using h] using ht
    · exact ht.addFilterAddrFamily h
  obtain ⟨s₁, h₁, h₂⟩ := Option.bind_eq_some.1 (setFilterAddrFamilies_eq s ip4 ip6 ▸ h)
  exact step ip6 _ (step ip4 _ hs h₁) h₂

/-! ### Two sets, position by position -/

/-- On values the builders admit into one facet, distinct canonical strings are the absence of
`Same`. -/
lemma nodup_refsOf_iff {k : SearchKey} {l : List SearchFilter}
    (hl : ∀ x ∈ l, k.Admits P x.value) :
    (refsOf l).Nodup ↔ l.Pairwise fun x y => x.same y = false := by
  rw [refsOf, List.Nodup, List.pairwise_map]
  refine List.Pairwise.iff_of_mem fun hx hy => ?_
  rw [SearchFilter.same, decide_eq_false_iff_not, FilterValue.same_iff_string_eq
    ((hl _ hx).kind.trans (hl _ hy).kind.symm) (hl _ hx).triple (hl _ hy).triple]

/-- A pairing of a well-formed set with another keeps the invariant when the operation keeps,
at each facet, the key, consistency and the kind of the values. -/
lemma WellFormed.zipGroups {A B C : SearchFilters} (hA : A.WellFormed P)
    {op : SearchFilterGroup → SearchFilterGroup → Option SearchFilterGroup}
    (hop : ∀ (k : SearchKey) a b c, A[k.position]? = some a → B[k.position]? = some b →
      op a b = some c → c.key = a.key ∧ c.Consistent ∧ ∀ x ∈ c.filters, k.Admits P x.value)
    (h : zipGroups op A B = some C) : C.WellFormed P := by
  obtain ⟨hlen, hi⟩ := zipGroups_spec h
  have hlen6 : C.length = 6 := hlen.trans (length_of_keys hA.admitted.keys)
  have hpos : ∀ i c, C[i]? = some c → ∃ k : SearchKey, k.position = i := fun i c hc => by
    have := (List.getElem?_eq_some_iff.1 hc).1
    exact SearchKey.exists_position (by omega)
  have hk : ∀ (k : SearchKey) c, C[k.position]? = some c → ∃ a, A[k.position]? = some a ∧
      c.key = a.key ∧ c.Consistent ∧ ∀ x ∈ c.filters, k.Admits P x.value := fun k c hc => by
    obtain ⟨a, b, ha, hb, hab⟩ := hi _ c hc
    exact ⟨a, ha, hop k a b c ha hb hab⟩
  refine ⟨⟨?_, fun k c hc => ?_⟩, fun c hc => ?_⟩
  · rw [← hA.admitted.keys]
    refine List.ext_getElem? fun i => ?_
    rw [List.getElem?_map, List.getElem?_map]
    cases hc : C[i]? with
    | none => simp [List.getElem?_eq_none (hlen ▸ List.getElem?_eq_none_iff.1 hc)]
    | some c =>
      obtain ⟨k, rfl⟩ := hpos i c hc
      obtain ⟨a, ha, hkey, -⟩ := hk k c hc
      simp [ha, hkey]
  · obtain ⟨a, -, -, -, hv⟩ := hk k c hc
    exact hv
  · obtain ⟨i, hi⟩ := List.getElem?_of_mem hc
    obtain ⟨k, rfl⟩ := hpos i c hi
    obtain ⟨a, -, -, hcc, -⟩ := hk k c hi
    exact hcc

lemma WellFormed.combine {A B C : SearchFilters} (hA : A.WellFormed P) (hB : B.WellFormed P)
    (h : A.combine B = some C) : C.WellFormed P := by
  refine hA.zipGroups (fun k a b c ha hb hc => ?_) h
  have hav := hA.admitted.values k a ha
  have hbv := hB.admitted.values k b hb
  rw [SearchFilterGroup.combine_eq (fun x hx => (hav x hx).toOfKind)
    (fun x hx => (hbv x hx).toOfKind), Option.some.injEq] at hc
  subst hc
  have hcv := SearchFilterGroup.admits_of_mem_unionBy hav hbv
  refine ⟨rfl, SearchFilterGroup.rebuildIndex_consistent ((nodup_refsOf_iff hcv).2 ?_), hcv⟩
  exact pairwise_unionBy ((nodup_refsOf_iff hav).1 (hA.consistent a (List.getElem?_mem ha)).nodup) _

lemma WellFormed.sub {A B C : SearchFilters} (hA : A.WellFormed P) (hB : B.WellFormed P)
    (h : A.sub B = some C) : C.WellFormed P := by
  refine hA.zipGroups (fun k a b c ha hb hc => ?_) h
  have hav := hA.admitted.values k a ha
  rw [SearchFilterGroup.sub_eq (fun x hx => (hav x hx).toOfKind)
    (fun x hx => (hB.admitted.values k b hb x hx).toOfKind), Option.some.injEq] at hc
  subst hc
  refine ⟨rfl, SearchFilterGroup.rebuildIndex_consistent ?_,
    fun x hx => hav x (List.mem_of_mem_filter hx)⟩
  exact (hA.consistent a (List.getElem?_mem ha)).nodup.sublist ((List.filter_sublist _).map _)

lemma WellFormed.mergeProperties {A B C : SearchFilters} (hA : A.WellFormed P)
    (hB : B.WellFormed P) (h : A.mergeProperties B = some C) : C.WellFormed P := by
  refine hA.zipGroups (fun k a b c ha hb hc => ?_) h
  have hav := hA.admitted.values k a ha
  rw [SearchFilterGroup.mergeProperties_eq (fun x hx => (hav x hx).toOfKind)
    (fun x hx => (hB.admitted.values k b hb x hx).toOfKind), Option.some.injEq] at hc
  subst hc
  have hrefs :
      refsOf (a.filters.map (SearchFilterGroup.mergedWith b.filters)) = refsOf a.filters := by
    simp [refsOf, Function.comp_def]
  have hca := hA.consistent a (List.getElem?_mem ha)
  refine ⟨rfl, ⟨hrefs ▸ hca.nodup, fun s i => hrefs ▸ hca.index s i⟩, fun x hx => ?_⟩
  obtain ⟨y, hy, rfl⟩ := List.mem_map.1 hx
  simpa using hav y hy

end SearchFilters

/-! ### Queries and tokens -/

/-- Parsers that return values of the kind of the facet they parse for, extended communities with
three components. -/
structure ValueParsers.Admitted (P : StringPool) (p : ValueParsers) : Prop where
  queryFilters : ∀ (k : SearchKey) (value : String) (fs : List SearchFilter),
    p.parseQueryValueList (k.queryValueParser p) value = .ok fs → ∀ f ∈ fs, k.Admits P f.value
  community : ∀ (text : String) (f : SearchFilter), p.parseCommunityValue text = .ok f →
    SearchKey.communities.Admits P f.value
  extCommunity : ∀ (text : String) (f : SearchFilter), p.parseExtCommunityValue text = .ok f →
    SearchKey.extCommunities.Admits P f.value

/-- What every successful step keeps holds after a successful loop. -/
lemma foldlM_run_ok_invariant {α σ : Type} {Q : σ → Prop}
    {step : σ → α → ExceptT String Option σ}
    (hstep : ∀ s a s', Q s → (step s a).run = some (.ok s') → Q s') :
    ∀ {l : List α} {s s' : σ}, Q s → (l.foldlM step s).run = some (.ok s') → Q s'
  | [], s, s', hs, h => by
    cases h
    exact hs
  | a :: l, s, s', hs, h => by
    rw [List.foldlM_cons, ExceptT.run_bind] at h
    cases h₁ : (step s a).run with
    | none => simp [h₁] at h
    | some r =>
      cases r with
      | error e => simp [h₁] at h
      | ok s₁ =>
        simp only [h₁] at h
        exact foldlM_run_ok_invariant hstep (hstep s a s₁ hs h₁) h

/-- A `#`-token's step: the filter parsed from the text after the `#` is added to its group. -/
lemma filtersFromToken_run (p : ValueParsers) (s : SearchFilters) (value : String) :
    (filtersFromToken p s value).run =
      if hasPrefix value "#" then
        match parseCommunityFilterText p (value.drop 1) with
        | .error e => some (.error e)
        | .ok (key, filter) => (s.updateGroup key (·.addFilter filter)).map .ok
      else some (.ok s) := by
  unfold filtersFromToken
  split_ifs
  · cases parseCommunityFilterText p (value.drop 1) with
    | error e => rfl
    | ok r =>
      show (liftM (s.updateGroup r.1 (·.addFilter r.2)) >>= pure :
        ExceptT String Option SearchFilters).run = (s.updateGroup r.1 (·.addFilter r.2)).map .ok
      cases s.updateGroup r.1 (·.addFilter r.2) <;> rfl
  · rfl

namespace SearchFilters

variable {p : ValueParsers}

lemma WellFormed.filtersFromQuery (hp : p.Admitted P) {query : UrlValues} {order : List String}
    {s : SearchFilters} (h : (filtersFromQuery p query order).run = some (.ok s)) :
    s.WellFormed P := by
  refine foldlM_run_ok_invariant (fun t key t' ht hstep => ?_) wellFormed_newSearchFilters h
  cases hkey : SearchKey.ofString? key with
  | none =>
    rw [filtersFromQueryKey_of_ofString?_none hkey] at hstep
    cases hstep
    exact ht
  | some k =>
    obtain rfl := SearchKey.toString_of_ofString? hkey
    rw [filtersFromQueryKey_toString] at hstep
    cases hq : k.queryFilters p query with
    | error e => simp [hq] at hstep
    | ok fs =>
      simp only [hq] at hstep
      obtain ⟨t₁, ht₁, he⟩ := Option.map_eq_some'.1 hstep
      cases he
      exact ht.addFilters ht₁ (hp.queryFilters k _ fs hq)

lemma WellFormed.filtersFromTokens (hp : p.Admitted P) {tokens : List String}
    {s : SearchFilters} (h : (filtersFromTokens p tokens).run = some (.ok s)) :
    s.WellFormed P := by
  refine foldlM_run_ok_invariant (fun t value t' ht hstep => ?_) wellFormed_newSearchFilters h
  rw [filtersFromToken_run] at hstep
  split_ifs at hstep
  · cases hparse : parseCommunityFilterText p (value.drop 1) with
    | error e => simp [hparse] at hstep
    | ok r =>
      obtain ⟨key, filter⟩ := r
      simp only [hparse] at hstep
      obtain ⟨t₁, ht₁, he⟩ := Option.map_eq_some'.1 hstep
      cases he
      rcases parseCommunityFilterText_ok p hparse with ⟨rfl, hf⟩ | ⟨hkey | hkey, hf⟩
      · exact ht.addFilter ht₁ (hp.extCommunity _ _ hf)
      · subst hkey
        exact ht.addFilter ht₁ (hp.community _ _ hf)
      · subst hkey
        exact ht.addFilter ht₁ (admits_largeCommunity (hp.community _ _ hf))
  · cases hstep
    exact ht

/-! ### Reachable sets -/

/-- The filter sets the engine builds, with `*string` ids from the pool `P` and extended
communities of three components: a fresh set, a set from a query or a token list, and the result
of the builders, of `AddFilter` and `AddFilters` on a group, and of `MergeProperties`, `Combine`
and `Sub` with another such set. -/
inductive Reachable (P : StringPool) : SearchFilters → Prop
  | new : Reachable P newSearchFilters
  | fromQuery {p : ValueParsers} {query : UrlValues} {order : List String} {s : SearchFilters} :
    p.Admitted P → (filtersFromQuery p query order).run = some (.ok s) → Reachable P s
  | fromTokens {p : ValueParsers} {tokens : List String} {s : SearchFilters} :
    p.Admitted P → (filtersFromTokens p tokens).run = some (.ok s) → Reachable P s
  | updateFromLookupRoute {s s' : SearchFilters} {r : LookupRoute} : Reachable P s →
    r.routeServer.id.InPool P → (∀ c ∈ r.route.bgp.extCommunities, c.values.length = 2) →
    s.updateFromLookupRoute r = some s' → Reachable P s'
  | updateFromRoute {s s' : SearchFilters} {r : Route} : Reachable P s →
    (∀ c ∈ r.bgp.extCommunities, c.values.length = 2) → s.updateFromRoute r = some s' →
    Reachable P s'
  | setFilterAddrFamilies {s s' : SearchFilters} {ip4 ip6 : Bool} : Reachable P s →
    s.setFilterAddrFamilies ip4 ip6 = some s' → Reachable P s'
  | addFilter {s s' : SearchFilters} {k : SearchKey} {f : SearchFilter} : Reachable P s →
    k.Admits P f.value → s.updateGroup k.toString (·.addFilter f) = some s' → Reachable P s'
  | addFilters {s s' : SearchFilters} {k : SearchKey} {fs : List SearchFilter} : Reachable P s →
    (∀ f ∈ fs, k.Admits P f.value) → s.updateGroup k.toString (·.addFilters fs) = some s' →
    Reachable P s'
  | mergeProperties {s o s' : SearchFilters} : Reachable P s → Reachable P o →
    s.mergeProperties o = some s' → Reachable P s'
  | combine {s o s' : SearchFilters} : Reachable P s → Reachable P o → s.combine o = some s' →
    Reachable P s'
  | sub {s o s' : SearchFilters} : Reachable P s → Reachable P o → s.sub o = some s' →
    Reachable P s'

lemma Reachable.wellFormed {s : SearchFilters} (h : Reachable P s) : s.WellFormed P := by
  induction h with
  | new => exact wellFormed_newSearchFilters
  | fromQuery hp h => exact .filtersFromQuery hp h
  | fromTokens hp h => exact .filtersFromTokens hp h
  | updateFromLookupRoute _ hid hext h ih => exact ih.updateFromLookupRoute hid hext h
  | updateFromRoute _ hext h ih => exact ih.updateCommunities hext h
  | setFilterAddrFamilies _ h ih => exact ih.setFilterAddrFamilies h
  | addFilter _ hf h ih => exact ih.addFilter h hf
  | addFilters _ hfs h ih => exact ih.addFilters h hfs
  | mergeProperties _ _ h ih ih' => exact ih.mergeProperties ih' h
  | combine _ _ h ih ih' => exact ih.combine ih' h
  | sub _ _ h ih ih' => exact ih.sub ih' h

/-- Every filter set the engine builds has the six groups in the fixed order, so that
`GetGroupByKey` finds each key's own group, and in each group the canonical strings are distinct
and the index maps a string to a position exactly when the filter there renders to it. -/
theorem reachable_invariant {s : SearchFilters} (h : Reachable P s) :
    s.map SearchFilterGroup.key = SearchKey.all.map SearchKey.toString ∧
    (∀ k : SearchKey, ∃ g, s.getGroupByKey k.toString = some g ∧ g.key = k.toString) ∧
    ∀ g ∈ s, (refsOf g.filters).Nodup ∧ IndexOf g.filtersIdx g.filters := by
  have hs := h.wellFormed
  refine ⟨hs.admitted.keys, fun k => ?_, fun g hg => ⟨(hs.consistent g hg).nodup,
    (hs.consistent g hg).index⟩⟩
  have hk : k.position < s.length := by
    rw [length_of_keys hs.admitted.keys]
    cases k <;> decide
  have hg : s[k.position]? = some s[k.position] := List.getElem?_eq_getElem hk
  exact ⟨_, by simp, hs.key_eq hg⟩

/-- The invariant after a run through `AddFilters` and `Combine`: ASN 64512 counted twice into
one set, ASNs 64496 and 64512 into another, and the two combined, 64512 on both sides. -/
theorem reachable_invariant_combine :
    ∃ A B S, newSearchFilters.updateGroup SearchKey.asns.toString
        (·.addFilters [⟨0, "AS64512", .int 64512⟩, ⟨0, "AS64512", .int 64512⟩]) = some A ∧
      newSearchFilters.updateGroup SearchKey.asns.toString
        (·.addFilters [⟨0, "AS64496", .int 64496⟩, ⟨0, "AS64512", .int 64512⟩]) = some B ∧
      A.combine B = some S ∧ Reachable .pairing S ∧
      S.map SearchFilterGroup.key = SearchKey.all.map SearchKey.toString ∧
      (∀ k : SearchKey, ∃ g, S.getGroupByKey k.toString = some g ∧ g.key = k.toString) ∧
      ∀ g ∈ S, (refsOf g.filters).Nodup ∧ IndexOf g.filtersIdx g.filters :=
  have hA := Reachable.addFilters (P := .pairing) .new (by decide)
    (rfl : newSearchFilters.updateGroup SearchKey.asns.toString
      (·.addFilters [⟨0, "AS64512", .int 64512⟩, ⟨0, "AS64512", .int 64512⟩]) = some _)
  have hB := Reachable.addFilters (P := .pairing) .new (by decide)
    (rfl : newSearchFilters.updateGroup SearchKey.asns.toString
      (·.addFilters [⟨0, "AS64496", .int 64496⟩, ⟨0, "AS64512", .int 64512⟩]) = some _)
  have hS := Reachable.combine hA hB rfl
  ⟨_, _, _, rfl, rfl, rfl, hS, reachable_invariant hS⟩

end SearchFilters

end AliceLg