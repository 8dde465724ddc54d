import AliceLg.Api.SearchFilters.Invariant

/-!
# `FiltersFromTokens`

`FiltersFromTokens` skips the tokens without a `#` and hands the text after the `#` of each other
token to `parseCommunityFilterText`. The text is routed by its first `:`-segment and by its number
of segments: to the extended communities when `Atoi` rejects the first segment, to the
communities when it has two segments, to the large communities otherwise. Each facet's group is
then what `AddFilters` builds from an empty group with the filters routed to it, in the order of
the tokens. Since `AddFilter` counts every filter it is given once, the cardinalities of the three
community groups add up to the number of `#`-tokens.
-/

namespace AliceLg

/-! ### Routing a community text -/

/-- The first `:`-segment of a text. -/
def firstSegment (t : String) : String := ⟨t.data.takeWhile (· ≠ ':')⟩

/-- The group a community text belongs to, as the spec routes it: the extended communities when
`Atoi` rejects its first segment, the communities when it has two segments, the large
communities otherwise. -/
def communityTextKey (t : String) : SearchKey :=
  if atoi (firstSegment t) = none then .extCommunities
  else if (split t ':').length = 2 then .communities
  else .largeCommunities

/-- The texts after the `#` of the `#`-tokens, in order. -/
def communityTexts (tokens : List String) : List String :=
  (tokens.filter (hasPrefix · "#")).map (·.drop 1)

lemma communityTexts_cons (tok : String) (tokens : List String) :
    communityTexts (tok :: tokens) =
      if hasPrefix tok "#" then tok.drop 1 :: communityTexts tokens else communityTexts tokens := by
  by_cases h : hasPrefix tok "#" <;> simp [communityTexts, List.filter_cons, h]

lemma communityTextKey_cases (t : String) :
    communityTextKey t = .extCommunities ∨ communityTextKey t = .communities ∨
      communityTextKey t = .largeCommunities := by
  unfold communityTextKey; split_ifs <;> simp

/-- Each community text goes to exactly one of the three community groups. -/
lemma length_filter_communityTextKey (l : List String) :
    (l.filter (communityTextKey · = .extCommunities)).length +
      (l.filter (communityTextKey · = .communities)).length +
      (l.filter (communityTextKey · = .largeCommunities)).length = l.length := by
  induction l with
  | nil => rfl
  | cons t l ih =>
    rcases communityTextKey_cases t with h | h | h <;> simp [List.filter_cons, h] <;> omega

variable (p : ValueParsers)

/-- The parser of a community text's kind. -/
def communityTextParser (t : String) : Except String SearchFilter :=
  if atoi (firstSegment t) = none then p.parseExtCommunityValue t else p.parseCommunityValue t

/-- A community text `parseCommunityFilterText` rejects, as the spec describes it. -/
def CommunityTextRejected (t : String) : Prop :=
  ':' ∉ t.data ∨ atoi (firstSegment t) = none ∧ (∃ e, p.parseExtCommunityValue t = .error e) ∨
    (atoi (firstSegment t)).isSome ∧ ∃ e, p.parseCommunityValue t = .error e

lemma communityTextRejected_iff (t : String) :
    CommunityTextRejected p t ↔ ':' ∉ t.data ∨ ∃ e, communityTextParser p t = .error e := by
  unfold CommunityTextRejected communityTextParser
  rcases atoi (firstSegment t) <;> simp

/-- A text that is not rejected has a `:`, and the parser of its kind accepts it. -/
lemma exists_ok_of_not_rejected {t : String} (h : ¬ CommunityTextRejected p t) :
    ':' ∈ t.data ∧ ∃ f, communityTextParser p t = .ok f := by
  rw [communityTextRejected_iff, not_or, not_not] at h
  refine ⟨h.1, ?_⟩
  cases hp : communityTextParser p t with
  | error e => exact absurd ⟨e, hp⟩ h.2
  | ok f => exact ⟨f, rfl⟩

lemma parseCommunityFilterText_of_not_mem {t : String} (h : ':' ∉ t.data) :
    parseCommunityFilterText p t = .error "BGP community incomplete" := by
  rw [mem_iff_two_le_length_split, not_le] at h
  simp [parseCommunityFilterText, h, throw, throwThe, MonadExceptOf.throw, bind, Except.bind]

/-- A text with a `:` goes to the parser of its kind, and its filter to its group. -/
lemma parseCommunityFilterText_of_mem {t : String} (h : ':' ∈ t.data) :
    parseCommunityFilterText p t =
      match communityTextParser p t with
      | .ok f => .ok ((communityTextKey t).toString, f)
      | .error e =>
        .error (if atoi (firstSegment t) = none then e else "BGP community incomplete") := by
  obtain ⟨ts, hts⟩ := split_eq_cons t ':'
  have hlen := (mem_iff_two_le_length_split t ':').1 h
  have hfirst : (split t ':').headD "" = firstSegment t := by rw [hts]; rfl
  rw [parseCommunityFilterText, if_neg (by omega), hfirst]
  unfold communityTextParser communityTextKey
  by_cases ha : atoi (firstSegment t) = none
  · cases p.parseExtCommunityValue t <;> simp [ha, bind, Except.bind, pure, Except.pure]
  · cases p.parseCommunityValue t with
    | error e => simp [ha, Option.isNone_iff_eq_none, throw, throwThe, MonadExceptOf.throw]
    | ok f =>
      simp only [ha, Option.isNone_iff_eq_none, if_false, Bool.false_eq_true]
      split_ifs <;> rfl

lemma parseCommunityFilterText_error_iff (t : String) :
    (∃ e, parseCommunityFilterText p t = .error e) ↔ CommunityTextRejected p t := by
  rw [communityTextRejected_iff]
  by_cases h : ':' ∈ t.data
  · rw [parseCommunityFilterText_of_mem p h]
    cases communityTextParser p t <;> simp [h]
  · simp [parseCommunityFilterText_of_not_mem p h, h]

/-! ### The groups along the loop -/

lemma SearchFilterGroup.addFilters_concat (g : SearchFilterGroup) (fs : List SearchFilter)
    (f : SearchFilter) : g.addFilters (fs ++ [f]) = (g.addFilters fs).bind (·.addFilter f) := by
  simp [SearchFilterGroup.addFilters, List.foldlM_append]

namespace SearchFilters

/-- Each facet's group of `s` is what `AddFilters` builds from an empty group with `F k`. -/
def Built (s : SearchFilters) (F : SearchKey → List SearchFilter) : Prop :=
  ∀ k : SearchKey, s[k.position]? = (SearchFilterGroup.empty k.toString).addFilters (F k)

lemma built_newSearchFilters : newSearchFilters.Built fun _ => [] := fun k =>
  getElem?_newSearchFilters k

/-- `AddFilter` on the group of facet `k` appends the filter to what that group was built from. -/
lemma Built.addFilter {s : SearchFilters} {F : SearchKey → List SearchFilter} (hs : s.Built F)
    (k : SearchKey) (f : SearchFilter) :
    ∃ s', s.updateGroup k.toString (·.addFilter f) = some s' ∧
      s'.Built (Function.update F k (F k ++ [f])) := by
  obtain ⟨g, hg, -, -, hc⟩ :=
    SearchFilterGroup.addFilters_spec (SearchFilterGroup.consistent_empty k.toString) (F k)
  obtain ⟨g', hg', -, -, -⟩ := SearchFilterGroup.addFilter_spec hc f
  have hk : s[k.position]? = some g := (hs k).trans hg
  refine ⟨s.set k.position g', by simp [hk, hg'], fun k' => ?_⟩
  rw [getElem?_set_position (List.getElem?_eq_some_iff.1 hk).1]
  by_cases h : k' = k
  · subst h
    simp [SearchFilterGroup.addFilters_concat, hg, hg']
  · simp [h, hs k']

end SearchFilters

/-! ### The loop over the tokens -/

section Loop

variable {p}

lemma filtersFromToken_of_not_hash (s : SearchFilters) {tok : String}
    (h : hasPrefix tok "#" = false) : filtersFromToken p s tok = pure s := by
  simp [filtersFromToken, h]

/-- A `#`-token whose text is rejected fails the loop. -/
lemma filtersFromToken_of_rejected (s : SearchFilters) {tok : String}
    (h : hasPrefix tok "#" = true) (hr : CommunityTextRejected p (tok.drop 1)) :
    ∃ e, (filtersFromToken p s tok).run = some (.error e) := by
  obtain ⟨e, he⟩ := (parseCommunityFilterText_error_iff p _).2 hr
  exact ⟨e, by rw [filtersFromToken_run, if_pos h, he]⟩

/-- A `#`-token whose text is accepted adds its filter to the group of the text. -/
lemma SearchFilters.Built.filtersFromToken_ok {s : SearchFilters}
    {F : SearchKey → List SearchFilter} (hs : s.Built F) {tok : String} {f : SearchFilter}
    (h : hasPrefix tok "#" = true) (hc : ':' ∈ (tok.drop 1).data)
    (hf : communityTextParser p (tok.drop 1) = .ok f) :
    ∃ s', (filtersFromToken p s tok).run = some (.ok s') ∧
      s'.Built (Function.update F (communityTextKey (tok.drop 1))
        (F (communityTextKey (tok.drop 1)) ++ [f])) := by
  obtain ⟨s', hs', hb⟩ := hs.addFilter (communityTextKey (tok.drop 1)) f
  refine ⟨s', ?_, hb⟩
  rw [filtersFromToken_run, if_pos h, parseCommunityFilterText_of_mem p hc, hf]
  simp [hs']

/-- When every `#`-token's text is accepted, with filter `fs t`, each facet's group gets the
filters of the texts routed to it, in order. -/
lemma SearchFilters.Built.foldlM_filtersFromToken {fs : String → SearchFilter} :
    ∀ (tokens : List String) {s : SearchFilters} {F : SearchKey → List SearchFilter}, s.Built F →
      (∀ t ∈ communityTexts tokens, ':' ∈ t.data ∧ communityTextParser p t = .ok (fs t)) →
      ∃ S, (tokens.foldlM (filtersFromToken p) s).run = some (.ok S) ∧
        S.Built fun k => F k ++ ((communityTexts tokens).filter (communityTextKey · = k)).map fs
  | [], s, F, hs, _ => ⟨s, rfl, by simpa [communityTexts] using hs⟩
  | tok :: tokens, s, F, hs, hok => by
    rw [communityTexts_cons] at hok ⊢
    rw [List.foldlM_cons, ExceptT.run_bind]
    by_cases h : hasPrefix tok "#" = true
    · simp only [h, if_true, List.mem_cons, forall_eq_or_imp] at hok ⊢
      obtain ⟨⟨hc, hf⟩, hok⟩ := hok
      obtain ⟨s₁, h₁, hs₁⟩ := hs.filtersFromToken_ok h hc hf
      obtain ⟨S, hS, hSb⟩ := SearchFilters.Built.foldlM_filtersFromToken tokens hs₁ hok
      refine ⟨S, by rw [h₁]; exact hS, ?_⟩
      convert hSb using 2 with k
      by_cases hk : k = communityTextKey (tok.drop 1)
      · subst hk
        simp [List.filter_cons]
      · simp [List.filter_cons, hk, Ne.symm hk]
    · rw [Bool.not_eq_true] at h
      simp only [h, Bool.false_eq_true, if_false] at hok ⊢
      obtain ⟨S, hS, hSb⟩ := SearchFilters.Built.foldlM_filtersFromToken tokens hs hok
      exact ⟨S, by rw [filtersFromToken_of_not_hash s h]; exact hS, hSb⟩

/-- A `#`-token whose text is rejected fails the loop, whatever comes before it. -/
lemma SearchFilters.Built.foldlM_filtersFromToken_error :
    ∀ (tokens : List String) {s : SearchFilters} {F : SearchKey → List SearchFilter}, s.Built F →
      (∃ t ∈ communityTexts tokens, CommunityTextRejected p t) →
      ∃ e, (tokens.foldlM (filtersFromToken p) s).run = some (.error e)
  | [], _, _, _, ⟨_, ht, _⟩ => by simp [communityTexts] at ht
  | tok :: tokens, s, F, hs, ⟨t, ht, hr⟩ => by
    rw [communityTexts_cons] at ht
    rw [List.foldlM_cons, ExceptT.run_bind]
    by_cases h : hasPrefix tok "#" = true
    · simp only [h, if_true, List.mem_cons] at ht
      by_cases hr₀ : CommunityTextRejected p (tok.drop 1)
      · obtain ⟨e, he⟩ := filtersFromToken_of_rejected s h hr₀
        exact ⟨e, by rw [he]; rfl⟩
      · have ht' : t ∈ communityTexts tokens := ht.resolve_left fun h' => hr₀ (h' ▸ hr)
        obtain ⟨hc, f, hf⟩ := exists_ok_of_not_rejected p hr₀
        obtain ⟨s₁, h₁, hs₁⟩ := hs.filtersFromToken_ok h hc hf
        obtain ⟨e, he⟩ := SearchFilters.Built.foldlM_filtersFromToken_error tokens hs₁ ⟨t, ht', hr⟩
        exact ⟨e, by rw [h₁]; exact he⟩
    · rw [Bool.not_eq_true] at h
      simp only [h, Bool.false_eq_true, if_false] at ht
      obtain ⟨e, he⟩ := SearchFilters.Built.foldlM_filtersFromToken_error tokens hs ⟨t, ht, hr⟩
      exact ⟨e, by rw [filtersFromToken_of_not_hash s h]; exact he⟩

/-- Tokens without a `#` change nothing. -/
lemma foldlM_filtersFromToken_filter :
    ∀ (tokens : List String) (s : SearchFilters),
      tokens.foldlM (filtersFromToken p) s =
        (tokens.filter (hasPrefix · "#")).foldlM (filtersFromToken p) s
  | [], _ => rfl
  | tok :: tokens, s => by
    by_cases h : hasPrefix tok "#" = true
    · simp only [List.filter_cons, h, if_true, List.foldlM_cons]
      exact congrArg _ (funext fun s' => foldlM_filtersFromToken_filter tokens s')
    · rw [Bool.not_eq_true] at h
      simp only [List.filter_cons, h, Bool.false_eq_true, if_false, List.foldlM_cons,
        filtersFromToken_of_not_hash s h, pure_bind]
      exact foldlM_filtersFromToken_filter tokens s

end Loop

/-! ### Cardinalities -/

/-- `countIn` adds one to the total cardinality: it increments one filter or appends one. -/
lemma sum_cardinality_countIn (f : SearchFilter) :
    ∀ fs : List SearchFilter,
      ((countIn f fs).map (·.cardinality)).sum = (fs.map (·.cardinality)).sum + 1
  | [] => by simp [countIn]
  | x :: xs => by
    unfold countIn
    split_ifs
    · simp only [List.map_cons, List.sum_cons]; omega
    · simp only [List.map_cons, List.sum_cons, sum_cardinality_countIn f xs]; omega

lemma sum_cardinality_foldl_countIn :
    ∀ (fs acc : List SearchFilter),
      ((fs.foldl (fun acc f => countIn f acc) acc).map (·.cardinality)).sum =
        (acc.map (·.cardinality)).sum + fs.length
  | [], _ => by simp
  | f :: fs, acc => by
    rw [List.foldl_cons, sum_cardinality_foldl_countIn fs, sum_cardinality_countIn,
      List.length_cons]
    omega

/-- A group built by `AddFilters` from an empty group has a cardinality for each filter given. -/
lemma sum_cardinality_addFilters_empty (key : String) (fs : List SearchFilter) :
    ∃ g, (SearchFilterGroup.empty key).addFilters fs = some g ∧
      (g.filters.map (·.cardinality)).sum = fs.length := by
  obtain ⟨g, hg, -, hf, -⟩ :=
    SearchFilterGroup.addFilters_spec (SearchFilterGroup.consistent_empty key) fs
  exact ⟨g, hg, by rw [hf, sum_cardinality_foldl_countIn]; simp [SearchFilterGroup.empty]⟩

/-! ### `FiltersFromTokens` -/

lemma communityTextParser_eq_ok {t : String} {f : SearchFilter} :
    communityTextParser p t = .ok f ↔
      (atoi (firstSegment t) = none → p.parseExtCommunityValue t = .ok f) ∧
      ((atoi (firstSegment t)).isSome → p.parseCommunityValue t = .ok f) := by
  unfold communityTextParser
  rcases atoi (firstSegment t) <;> simp

/-- `FiltersFromTokens` routes and counts every `#`-token once. It ignores the tokens without a
`#`; it fails exactly when the text after the `#` of some token has no `:`, or is rejected by the
parser of its kind (`parseExtCommunityValue` when `Atoi` rejects its first segment,
`parseCommunityValue` otherwise). Otherwise the sources, ASN and address-family groups stay empty,
and each community group is what `AddFilters` builds from the filters of the texts routed to it,
in order, so the cardinalities of the three community groups add up to the number of
`#`-tokens. -/
theorem filtersFromTokens_routes (tokens : List String) :
    filtersFromTokens p tokens = filtersFromTokens p (tokens.filter (hasPrefix · "#")) ∧
    ((∃ e, (filtersFromTokens p tokens).run = some (.error e)) ↔
      ∃ t ∈ communityTexts tokens, ':' ∉ t.data ∨
        atoi (firstSegment t) = none ∧ (∃ e, p.parseExtCommunityValue t = .error e) ∨
        (atoi (firstSegment t)).isSome ∧ ∃ e, p.parseCommunityValue t = .error e) ∧
    ∀ fs : String → SearchFilter,
      (∀ t ∈ communityTexts tokens, ':' ∈ t.data ∧
        (atoi (firstSegment t) = none → p.parseExtCommunityValue t = .ok (fs t)) ∧
        ((atoi (firstSegment t)).isSome → p.parseCommunityValue t = .ok (fs t))) →
      ∃ S, (filtersFromTokens p tokens).run = some (.ok S) ∧
        (∀ k ∈ [SearchKey.sources, .asns, .addrFamily],
          S.getGroupByKey k.toString = some (.empty k.toString)) ∧
        (∀ k ∈ [SearchKey.extCommunities, .communities, .largeCommunities],
          S.getGroupByKey k.toString = (SearchFilterGroup.empty k.toString).addFilters
            (((communityTexts tokens).filter (communityTextKey · = k)).map fs)) ∧
        ∃ ge gc gl, S.getGroupByKey SearchKey.extCommunities.toString = some ge ∧
          S.getGroupByKey SearchKey.communities.toString = some gc ∧
          S.getGroupByKey SearchKey.largeCommunities.toString = some gl ∧
          ((ge.filters ++ gc.filters ++ gl.filters).map (·.cardinality)).sum =
            (communityTexts tokens).length := by
  have hok : ∀ fs : String → SearchFilter, (∀ t ∈ communityTexts tokens,
      ':' ∈ t.data ∧ communityTextParser p t = .ok (fs t)) →
      ∃ S, (filtersFromTokens p tokens).run = some (.ok S) ∧ ∀ k : SearchKey,
        S.getGroupByKey k.toString = (SearchFilterGroup.empty k.toString).addFilters
          (((communityTexts tokens).filter (communityTextKey · = k)).map fs) := fun fs hfs => by
    obtain ⟨S, hS, hb⟩ :=
      SearchFilters.Built.foldlM_filtersFromToken tokens SearchFilters.built_newSearchFilters hfs
    exact ⟨S, hS, fun k => by simpa using hb k⟩
  refine ⟨foldlM_filtersFromToken_filter tokens _, ⟨fun ⟨e, he⟩ => ?_, fun ⟨t, ht, hr⟩ =>
    SearchFilters.Built.foldlM_filtersFromToken_error tokens
      SearchFilters.built_newSearchFilters ⟨t, ht, hr⟩⟩, fun fs hfs => ?_⟩
  · by_contra hne
    obtain ⟨S, hS, -⟩ := hok (fun t => match communityTextParser p t with
      | .ok f => f
      | .error _ => ⟨0, "", .int 0⟩) fun t ht => by
        obtain ⟨hc, f, hf⟩ := exists_ok_of_not_rejected p fun hr => hne ⟨t, ht, hr⟩
        exact ⟨hc, by simp [hf]⟩
    rw [hS] at he
    cases he
  · obtain ⟨S, hS, hk⟩ := hok fs fun t ht =>
      ⟨(hfs t ht).1, (communityTextParser_eq_ok p).2 (hfs t ht).2⟩
    have hnil : ∀ k ∈ [SearchKey.sources, .asns, .addrFamily],
        (communityTexts tokens).filter (communityTextKey · = k) = [] := fun k hk =>
      List.filter_eq_nil_iff.2 fun t _ h => by
        simp only [List.mem_cons, List.mem_singleton, List.not_mem_nil, or_false] at hk
        rcases communityTextKey_cases t with h' | h' | h' <;> rcases hk with rfl | rfl | rfl <;>
          simp [h'] at h
    have hsum := fun k : SearchKey => sum_cardinality_addFilters_empty k.toString
      (((communityTexts tokens).filter (communityTextKey · = k)).map fs)
    obtain ⟨ge, hge, hse⟩ := hsum .extCommunities
    obtain ⟨gc, hgc, hsc⟩ := hsum .communities
    obtain ⟨gl, hgl, hsl⟩ := hsum .largeCommunities
    refine ⟨S, hS, fun k hk' => by rw [hk k, hnil k hk']; rfl, fun k _ => hk k,
      ge, gc, gl, (hk _).trans hge, (hk _).trans hgc, (hk _).trans hgl, ?_⟩
    have hlen := length_filter_communityTextKey (communityTexts tokens)
    simp only [List.map_append, List.sum_append, hse, hsc, hsl, List.length_map]
    omega

example : ((filtersFromTokens ⟨fun _ _ => .ok [], fun _ => .error "", fun _ => .error "",
      fun t => .ok ⟨0, "", .community ((split t ':').map fun v => (atoi v).getD 0)⟩,
      fun _ => .error "ext"⟩ ["#65000:1", "AS65000", "#65000:1", "#1:2:3"]).run.map
        fun r => r.toOption.map fun S => S.map fun g => g.filters.map (·.cardinality)) =
    some (some [[], [], [2], [], [1], []]) := rfl

end AliceLg
