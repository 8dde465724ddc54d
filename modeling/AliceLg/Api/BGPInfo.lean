import AliceLg.Api.SearchFilters

/-!
# Community presence on a route

`BGPInfo.HasCommunity`, `HasLargeCommunity` and `HasExtCommunity` look a community up in a
route's BGP attributes: a community of the wrong length never matches, and otherwise the loop
returns at the first community of the same length whose components agree one by one. Comparing
the components up to the expected length is comparing the whole community, so each check decides
membership of a community of the expected length, and the standard and large checks differ only
in that length and in the list they read.
-/

namespace AliceLg

/-- The loop shared by `HasCommunity` and `HasLargeCommunity`, for communities of `n`
components. -/
def hasCommunityOfLength (n : Nat) (communities : List Community) (community : Community) :
    Bool :=
  if community.length ≠ n then false
  else communities.any fun com =>
    com.length == community.length && (List.range n).all fun i => com[i]? == community[i]?

namespace BGPInfo

/-- `BGPInfo.HasCommunity`. -/
def hasCommunity (bgp : BGPInfo) (community : Community) : Bool :=
  hasCommunityOfLength 2 bgp.communities community

/-- `BGPInfo.HasLargeCommunity`. -/
def hasLargeCommunity (bgp : BGPInfo) (community : Community) : Bool :=
  hasCommunityOfLength 3 bgp.largeCommunities community

/-- `BGPInfo.HasExtCommunity`: the same loop over extended communities, whose element `0` is the
tag and elements `1` and `2` the values. -/
def hasExtCommunity (bgp : BGPInfo) (community : ExtCommunity) : Bool :=
  if community.length ≠ 3 then false
  else bgp.extCommunities.any fun com =>
    com.length == community.length && com.tag == community.tag &&
      com.values[0]? == community.values[0]? && com.values[1]? == community.values[1]?

end BGPInfo

/-- Two lists of length `n` are equal when their components below `n` are. -/
lemma all_range_getElem?_iff {α : Type} [DecidableEq α] {n : Nat} {l l' : List α}
    (h : l.length = n) (h' : l'.length = n) :
    ((List.range n).all fun i => l[i]? == l'[i]?) = true ↔ l = l' := by
  simp only [List.all_eq_true, List.mem_range, beq_iff_eq]
  refine ⟨fun hi => List.ext_getElem? fun i => ?_, fun he _ _ => he ▸ rfl⟩
  by_cases hin : i < n
  · exact hi i hin
  · rw [List.getElem?_eq_none (by omega), List.getElem?_eq_none (by omega)]

lemma hasCommunityOfLength_iff (n : Nat) (communities : List Community) (community : Community) :
    hasCommunityOfLength n communities community = true ↔
      community.length = n ∧ community ∈ communities := by
  unfold hasCommunityOfLength
  split_ifs with hn
  · simp [hn]
  · simp only [ne_eq, Decidable.not_not] at hn
    simp only [List.any_eq_true, Bool.and_eq_true, beq_iff_eq, hn, true_and]
    constructor
    · rintro ⟨com, hm, hl, he⟩
      exact (all_range_getElem?_iff hl hn).1 he ▸ hm
    · exact fun hm => ⟨community, hm, hn, (all_range_getElem?_iff hn hn).2 rfl⟩

namespace BGPInfo

lemma hasExtCommunity_iff (bgp : BGPInfo) (e : ExtCommunity) :
    bgp.hasExtCommunity e = true ↔ e.values.length = 2 ∧ e ∈ bgp.extCommunities := by
  unfold hasExtCommunity ExtCommunity.length
  split_ifs with hn
  · simp_all
  · obtain ⟨a, b, hab⟩ := List.length_eq_two.1 (by simpa using hn : e.values.length = 2)
    simp only [List.any_eq_true, Bool.and_eq_true, beq_iff_eq, hab, List.length_cons,
      List.length_nil, List.getElem?_cons_zero, List.getElem?_cons_succ, true_and]
    constructor
    · rintro ⟨⟨tag, vs⟩, hm, ⟨⟨hl, rfl⟩, h₀⟩, h₁⟩
      obtain ⟨a', b', rfl⟩ := List.length_eq_two.1 (by simpa using hl : vs.length = 2)
      cases e
      simp_all
    · exact fun hm => ⟨e, hm, by simp [hab]⟩

/-- The three presence checks decide membership: a standard community is present when it has two
components and is among the route's communities, a large one when it has three and is among the
large communities, and an extended one when it has a tag and two values and is among the
extended communities. -/
theorem has_iff_mem (bgp : BGPInfo) (c : Community) (e : ExtCommunity) :
    (bgp.hasCommunity c = true ↔ c.length = 2 ∧ c ∈ bgp.communities) ∧
      (bgp.hasLargeCommunity c = true ↔ c.length = 3 ∧ c ∈ bgp.largeCommunities) ∧
      (bgp.hasExtCommunity e = true ↔ e.values.length = 2 ∧ e ∈ bgp.extCommunities) :=
  ⟨hasCommunityOfLength_iff .., hasCommunityOfLength_iff .., hasExtCommunity_iff ..⟩

end BGPInfo

end AliceLg
