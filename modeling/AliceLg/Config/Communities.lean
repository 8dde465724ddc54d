import AliceLg.Go.Strconv
import AliceLg.Go.Strings

/-!
# Community label sections

Two forgiving parsers of the configuration map communities to labels. `parseAndMergeCommunities`
reads `community = label` lines: the text before the first `=` is the community and the rest the
label, both trimmed; a line without an `=` is skipped. `parseRejectionCandidateCommunities` reads
the `communities = c₁,c₂,…` lines of the rejection-candidate section and labels the candidates
`reject-candidate-1`, `reject-candidate-2`, … in order, with one counter for the whole section; a
line with another key, or without an `=`, is skipped. A section written as the configuration
writes it is read back entry by entry, in order.
-/

namespace AliceLg

section Sections

/- `api.BGPCommunityMap` and its `Set` are not part of the sources modelled here: the map is any
type and `set` any update of it. -/
variable {σ : Type} (set : σ → String → String → σ)

/-- One line of the loop of `parseAndMergeCommunities`. -/
def mergeCommunityLine (communities : σ) (line : String) : σ :=
  match splitN line '=' 2 with
  | [community, label] => set communities (trimSpace community) (trimSpace label)
  | _ => communities

/-- `parseAndMergeCommunities`. -/
def parseAndMergeCommunities (communities : σ) (body : String) : σ :=
  (split body '\n').foldl (mergeCommunityLine set) communities

/-- The label `fmt.Sprintf("reject-candidate-%d", n)`. -/
def rejectCandidateLabel (n : Nat) : String := "reject-candidate-" ++ itoa n

/-- The inner loop of `parseRejectionCandidateCommunities`: each candidate is set with the label
of the counter, incremented first. -/
def setRejectCandidates (acc : σ × Nat) (candidates : List String) : σ × Nat :=
  candidates.foldl (fun acc c => (set acc.1 c (rejectCandidateLabel (acc.2 + 1)), acc.2 + 1)) acc

/-- One line of the loop of `parseRejectionCandidateCommunities`, with the map and the counter. -/
def rejectionCandidateLine (acc : σ × Nat) (line : String) : σ × Nat :=
  match splitN line '=' 2 with
  | [key, value] =>
    if trimSpace key ≠ "communities" then acc
    else setRejectCandidates set acc (split (trimSpace value) ',')
  | _ => acc

/-- `parseRejectionCandidateCommunities`, the counter starting at zero. Its error result is always
`nil`. -/
def parseRejectionCandidateCommunities (comms : σ) (s : String) : σ :=
  ((split s '\n').foldl (rejectionCandidateLine set) (comms, 0)).1

end Sections

/-! ### Sections as the configuration writes them -/

/-- A label section: a `community = label` line per entry. -/
def communityLabelSection (entries : List (String × String)) : String :=
  "\n".intercalate (entries.map fun e => e.1 ++ " = " ++ e.2)

/-- A rejection-candidate section: a `communities = c₁,c₂,…` line per list of candidates. -/
def rejectionCandidateSection (lists : List (List String)) : String :=
  "\n".intercalate (lists.map fun cs => "communities = " ++ ",".intercalate cs)

/-- A `key = value` line, cut at its first `=`. -/
lemma splitN_entry {key value : String} (h : '=' ∉ key.data) :
    splitN (key ++ " = " ++ value) '=' 2 = [key ++ " ", " " ++ value] := by
  have hs : key ++ " = " ++ value = ⟨(key ++ " ").data ++ '=' :: (" " ++ value).data⟩ :=
    String.ext (by simp)
  rw [hs, splitN_two_append _ _ _ (by simpa using h)]

lemma trimSpace_append_space (s : String) : trimSpace (s ++ " ") = trimSpace s :=
  trimSpace_append_spaces s [' '] (by decide)

lemma trimSpace_space_append (s : String) : trimSpace (" " ++ s) = trimSpace s :=
  trimSpace_spaces_append [' '] s (by decide)

section Sections

variable {σ : Type} (set : σ → String → String → σ)

lemma mergeCommunityLine_entry (m : σ) {key label : String} (hk : '=' ∉ key.data)
    (hk' : trimSpace key = key) (hl : trimSpace label = label) :
    mergeCommunityLine set m (key ++ " = " ++ label) = set m key label := by
  rw [mergeCommunityLine, splitN_entry hk]
  simp only [trimSpace_append_space, trimSpace_space_append, hk', hl]

/-- A label section is read back entry by entry: for communities without `=` and line breaks,
and labels without line breaks, neither with surrounding white space, `parseAndMergeCommunities`
sets each community to its label, in order. A label may hold `=`. -/
theorem parseAndMergeCommunities_section (communities : σ) (entries : List (String × String))
    (hk : ∀ e ∈ entries, '=' ∉ e.1.data ∧ '\n' ∉ e.1.data ∧ trimSpace e.1 = e.1)
    (hl : ∀ e ∈ entries, '\n' ∉ e.2.data ∧ trimSpace e.2 = e.2) :
    parseAndMergeCommunities set communities (communityLabelSection entries) =
      entries.foldl (fun m e => set m e.1 e.2) communities := by
  obtain rfl | hne := eq_or_ne entries []
  · rfl
  rw [parseAndMergeCommunities, communityLabelSection, show "\n" = String.singleton '\n' from rfl,
    split_intercalate _ (by simpa using hne) fun t ht => ?_, List.foldl_map]
  · exact List.foldl_ext _ _ _ fun m e he =>
      mergeCommunityLine_entry set m (hk e he).1 (hk e he).2.2 (hl e he).2
  · obtain ⟨e, he, rfl⟩ := List.mem_map.1 ht
    simpa using ⟨(hk e he).2.1, (hl e he).1⟩

/-- Two labels read back from their section, the second holding an `=`. -/
theorem parseAndMergeCommunities_section_labels :
    (∀ e ∈ [("65000:1", "upstream"), ("65000:2", "peer = customer")],
        '=' ∉ e.1.data ∧ '\n' ∉ e.1.data ∧ trimSpace e.1 = e.1) ∧
      (∀ e ∈ [("65000:1", "upstream"), ("65000:2", "peer = customer")],
        '\n' ∉ e.2.data ∧ trimSpace e.2 = e.2) ∧
      parseAndMergeCommunities (fun (m : List (String × String)) k l => m ++ [(k, l)]) []
          (communityLabelSection [("65000:1", "upstream"), ("65000:2", "peer = customer")]) =
        [("65000:1", "upstream"), ("65000:2", "peer = customer")] :=
  ⟨by decide, by decide, parseAndMergeCommunities_section _ [] _ (by decide) (by decide)⟩

/-- The counter of the inner loop numbers the candidates from where it stands. -/
lemma setRejectCandidates_eq (acc : σ × Nat) (cs : List String) :
    setRejectCandidates set acc cs =
      ((cs.enumFrom (acc.2 + 1)).foldl (fun m c => set m c.2 (rejectCandidateLabel c.1)) acc.1,
        acc.2 + cs.length) := by
  induction cs generalizing acc with
  | nil => rfl
  | cons c cs ih =>
    simp only [setRejectCandidates, List.foldl_cons] at ih ⊢
    rw [ih]
    simp only [List.enumFrom_cons, List.foldl_cons, List.length_cons, Prod.mk.injEq, true_and]
    omega

/-- A `communities = c₁,c₂,…` line sets its candidates. -/
lemma rejectionCandidateLine_candidates (acc : σ × Nat) {cs : List String}
    (hc : ∀ c ∈ cs, ',' ∉ c.data) (hne : cs ≠ [])
    (ht : trimSpace (",".intercalate cs) = ",".intercalate cs) :
    rejectionCandidateLine set acc ("communities = " ++ ",".intercalate cs) =
      setRejectCandidates set acc cs := by
  rw [rejectionCandidateLine, show "communities = " = "communities" ++ " = " from rfl,
    splitN_entry (by decide)]
  dsimp only
  rw [if_neg (by decide), trimSpace_space_append, ht,
    show "," = String.singleton ',' from rfl, split_intercalate _ hne hc]

lemma foldl_rejectionCandidateLine (lists : List (List String))
    (hc : ∀ cs ∈ lists, ∀ c ∈ cs, ',' ∉ c.data)
    (hv : ∀ cs ∈ lists, cs ≠ [] ∧ trimSpace (",".intercalate cs) = ",".intercalate cs)
    (acc : σ × Nat) :
    (lists.map fun cs => "communities = " ++ ",".intercalate cs).foldl
        (rejectionCandidateLine set) acc =
      ((lists.flatten.enumFrom (acc.2 + 1)).foldl
        (fun m c => set m c.2 (rejectCandidateLabel c.1)) acc.1, acc.2 + lists.flatten.length) := by
  induction lists generalizing acc with
  | nil => rfl
  | cons cs lists ih =>
    have hcs := hv cs (List.mem_cons_self _ _)
    rw [List.map_cons, List.foldl_cons, rejectionCandidateLine_candidates set acc
      (hc cs (List.mem_cons_self _ _)) hcs.1 hcs.2, setRejectCandidates_eq,
      ih (fun cs h => hc cs (List.mem_cons_of_mem _ h))
        (fun cs h => hv cs (List.mem_cons_of_mem _ h))]
    simp only [List.flatten_cons, List.enumFrom_append, List.foldl_append, List.length_append,
      Prod.mk.injEq]
    constructor
    · congr 2
      omega
    · omega

/-- A rejection-candidate section is read back candidate by candidate: for non-empty lists of
candidates without `,` and line breaks, joined without surrounding white space,
`parseRejectionCandidateCommunities` sets the candidates in order, across all lines, with the
labels `reject-candidate-1`, `reject-candidate-2`, and so on. -/
theorem parseRejectionCandidateCommunities_section (comms : σ) (lists : List (List String))
    (hc : ∀ cs ∈ lists, ∀ c ∈ cs, ',' ∉ c.data ∧ '\n' ∉ c.data)
    (hv : ∀ cs ∈ lists, cs ≠ [] ∧ trimSpace (",".intercalate cs) = ",".intercalate cs) :
    parseRejectionCandidateCommunities set comms (rejectionCandidateSection lists) =
      (lists.flatten.enumFrom 1).foldl (fun m c => set m c.2 (rejectCandidateLabel c.1)) comms := by
  obtain rfl | hne := eq_or_ne lists []
  · rfl
  rw [parseRejectionCandidateCommunities, rejectionCandidateSection,
    show "\n" = String.singleton '\n' from rfl,
    split_intercalate _ (by simpa using hne) fun t ht => ?_,
    foldl_rejectionCandidateLine set _ (fun cs h c hc' => (hc cs h c hc').1) hv]
  obtain ⟨cs, hcs, rfl⟩ := List.mem_map.1 ht
  simpa using not_mem_data_intercalate (by decide) fun c h => (hc cs hcs c h).2

/-- Two lines of candidates, numbered on from one line to the next. -/
theorem parseRejectionCandidateCommunities_section_two_lines :
    (∀ cs ∈ [["65000:666", "65000:667"], ["65000:668"]], ∀ c ∈ cs, ',' ∉ c.data ∧ '\n' ∉ c.data) ∧
      (∀ cs ∈ [["65000:666", "65000:667"], ["65000:668"]],
        cs ≠ [] ∧ trimSpace (",".intercalate cs) = ",".intercalate cs) ∧
      parseRejectionCandidateCommunities (fun (m : List (String × String)) k l => m ++ [(k, l)]) []
          (rejectionCandidateSection [["65000:666", "65000:667"], ["65000:668"]]) =
        [("65000:666", rejectCandidateLabel 1), ("65000:667", rejectCandidateLabel 2),
          ("65000:668", rejectCandidateLabel 3)] :=
  ⟨by decide, by decide, parseRejectionCandidateCommunities_section _ [] _ (by decide) (by decide)⟩

example : rejectCandidateLabel 12 = "reject-candidate-12" := by decide

end Sections

end AliceLg
