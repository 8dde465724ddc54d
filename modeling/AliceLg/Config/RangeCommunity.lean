import AliceLg.Go.Strconv
import AliceLg.Go.Strings

/-!
# Ranged communities in the configuration

A section of ranged communities holds one community per line, with `#` comments and blank
lines in between. A community is a list of `:`-separated segments, and each segment is a value
or a `low-high` range. If the first value is not an integer for `strconv.Atoi`, the community
is read as an extended community: a tag followed by exactly two numeric segments.

The parser's loop over the segments cannot fail, and it turns every segment into its pair of
bounds. So the parser rejects exactly the texts without a `:` and the extended communities
that do not have three segments. A section is rejected exactly when one of its lines is;
otherwise it is its community lines, parsed in order and sorted by kind.
-/

namespace AliceLg

/-- A component of an `api.BGPCommunityRange` (`[]interface{}`): the `[]string` pair of an
extended community's tag, or the `[]int` that `decoders.IntListFromStrings` makes of a pair of
bounds. -/
inductive RangeComponent
  | strings (values : List String)
  | ints (values : List Int)
  deriving DecidableEq, Repr

/-- `api.BGPCommunityRange`. -/
abbrev BGPCommunityRange := List RangeComponent

/-- `api.BGPCommunitiesSet`: the ranges of a section, by kind. -/
structure BGPCommunitiesSet where
  standard : List BGPCommunityRange
  large : List BGPCommunityRange
  extended : List BGPCommunityRange
  deriving DecidableEq, Repr

/-- The kinds `BGPCommunityRange.Type()` sorts ranges into. -/
inductive BGPCommunityType
  | std
  | large
  | ext
  deriving DecidableEq, Repr

/-- `ErrInvalidCommunity`, rendered by its `%s` format. -/
def errInvalidCommunity (s : String) : String := "invalid community: " ++ s

/-! ### `parseRangeCommunity` -/

/-- The loop of `parseRangeCommunity` over the `:`-segments: each segment's two bounds, cut at
its first `-`, or the segment twice when it has none. -/
def rangeParts (s : String) (tokens : List String) : Except String (List (List String)) :=
  tokens.mapM fun t =>
    match splitN t '-' 2 with
    | [] => throw (errInvalidCommunity s)
    | [v] => pure [v, v]
    | v₀ :: v₁ :: _ => pure [v₀, v₁]

section Parse

/- `decoders.IntListFromStrings` and `BGPCommunityRange.Type()` are not part of the sources
modelled here; the parser is stated for any of them. -/
variable (intListFromStrings : List String → List Int)
  (communityType : BGPCommunityRange → Option BGPCommunityType)

/-- `parseRangeCommunity`. The two bounds of each part are its first two elements, so
`parts[0][0]` is the head of the head of the parts. -/
def parseRangeCommunity (s : String) : Except String BGPCommunityRange := do
  let tokens := split s ':'
  if tokens.length < 2 then
    throw (errInvalidCommunity s)
  let parts ← rangeParts s tokens
  if parts.length ≤ 1 then
    throw (errInvalidCommunity s)
  let isExt := (atoi ((parts.headD []).headD "")).isNone
  if isExt && parts.length != 3 then
    throw (errInvalidCommunity s)
  match isExt, parts with
  | true, [p₀, p₁, p₂] =>
    return [.strings [p₀.headD "", p₀.headD ""], .ints (intListFromStrings p₁),
      .ints (intListFromStrings p₂)]
  | _, _ => return parts.map fun p => .ints (intListFromStrings p)

/-- One line of the loop of `parseRangeCommunitiesSet`: blank lines and comments are skipped, a
community is added to the list of its kind, and one of no known kind is dropped. -/
def parseRangeCommunitiesLine (set : BGPCommunitiesSet) (line : String) :
    Except String BGPCommunitiesSet :=
  let line := trimSpace line
  if line = "" then pure set
  else if hasPrefix line "#" then pure set
  else do
    let comm ← parseRangeCommunity intListFromStrings line
    match communityType comm with
    | some .std => pure { set with standard := set.standard ++ [comm] }
    | some .large => pure { set with large := set.large ++ [comm] }
    | some .ext => pure { set with extended := set.extended ++ [comm] }
    | none => pure set

/-- `parseRangeCommunitiesSet`. -/
def parseRangeCommunitiesSet (body : String) : Except String BGPCommunitiesSet :=
  (split body '\n').foldlM (parseRangeCommunitiesLine intListFromStrings communityType)
    ⟨[], [], []⟩

end Parse

example : parseRangeCommunity (fun l => l.map fun v => (atoi v).getD 0) "65000:100-200" =
    .ok [.ints [65000, 65000], .ints [100, 200]] := rfl
example : parseRangeCommunity (fun l => l.map fun v => (atoi v).getD 0) "rt:65000:1-9" =
    .ok [.strings ["rt", "rt"], .ints [65000, 65000], .ints [1, 9]] := rfl

/-! ### The grammar, stated on the text -/

/-- The bounds of a segment as the configuration format describes them: the texts before and
after its first `-`, or the segment itself twice when it has no `-`. -/
def rangeBounds (seg : String) : List String :=
  if '-' ∈ seg.data then [⟨seg.data.takeWhile (· ≠ '-')⟩, ⟨(seg.data.dropWhile (· ≠ '-')).tail⟩]
  else [seg, seg]

/-- The first part of a community text: its first `:`-segment up to that segment's first `-`. -/
def firstRangePart (s : String) : String :=
  ⟨(s.data.takeWhile (· ≠ ':')).takeWhile (· ≠ '-')⟩

lemma splitN_two_ne_nil (t : String) : splitN t '-' 2 ≠ [] := by
  rw [splitN_two]; split_ifs <;> simp

/-- The loop over the segments never fails: each segment becomes its bounds. -/
lemma rangeParts_eq (s : String) (tokens : List String) :
    rangeParts s tokens = .ok (tokens.map rangeBounds) := by
  induction tokens with
  | nil => rfl
  | cons t ts ih =>
    simp only [rangeParts, List.mapM_cons] at ih ⊢
    rw [ih, splitN_two, List.map_cons, rangeBounds]
    split_ifs <;> rfl

lemma headD_rangeBounds (seg : String) :
    (rangeBounds seg).headD "" = ⟨seg.data.takeWhile (· ≠ '-')⟩ := by
  rw [rangeBounds]
  split_ifs with h
  · rfl
  · exact congrArg String.mk (List.takeWhile_eq_self_iff.2 fun c hc => by
      simp only [ne_eq, decide_eq_true_eq]; rintro rfl; exact h hc).symm

section Parse

variable (intListFromStrings : List String → List Int)

/-- What `parseRangeCommunity` does with a text that has a `:`, once the segments are cut
into their bounds. -/
lemma parseRangeCommunity_of_mem {s : String} (h : ':' ∈ s.data) :
    ∃ t₀ ts, split s ':' = t₀ :: ts ∧ firstRangePart s = (rangeBounds t₀).headD "" ∧
      parseRangeCommunity intListFromStrings s =
        if (atoi (firstRangePart s)).isNone && (t₀ :: ts).length != 3 then
          .error (errInvalidCommunity s)
        else match (atoi (firstRangePart s)).isNone, (t₀ :: ts).map rangeBounds with
          | true, [p₀, p₁, p₂] => .ok [.strings [p₀.headD "", p₀.headD ""],
              .ints (intListFromStrings p₁), .ints (intListFromStrings p₂)]
          | _, _ =>
            .ok (((t₀ :: ts).map rangeBounds).map fun p => .ints (intListFromStrings p)) := by
  obtain ⟨ts, hts⟩ := split_eq_cons s ':'
  have hlen := (mem_iff_two_le_length_split s ':').1 h
  rw [hts, List.length_cons] at hlen
  have hfirst : firstRangePart s = (rangeBounds ⟨s.data.takeWhile (· ≠ ':')⟩).headD "" := by
    rw [headD_rangeBounds]; rfl
  refine ⟨_, ts, hts, hfirst, ?_⟩
  simp only [parseRangeCommunity, hts, rangeParts_eq, List.map_cons, List.headD_cons, ← hfirst,
    List.length_map, List.length_cons, bind, Except.bind, pure, Except.pure]
  rw [if_neg (by omega), if_neg (by omega)]

lemma parseRangeCommunity_of_not_mem {s : String} (h : ':' ∉ s.data) :
    parseRangeCommunity intListFromStrings s = .error (errInvalidCommunity s) := by
  rw [mem_iff_two_le_length_split, not_le] at h
  simp [parseRangeCommunity, h, throw, throwThe, MonadExceptOf.throw, bind, Except.bind]

/-- A community whose first part is an integer is one component per segment. -/
lemma parseRangeCommunity_of_isSome {s : String} (h : ':' ∈ s.data)
    (ha : (atoi (firstRangePart s)).isSome) :
    parseRangeCommunity intListFromStrings s =
      .ok ((split s ':').map fun t => .ints (intListFromStrings (rangeBounds t))) := by
  obtain ⟨t₀, ts, hts, -, heq⟩ := parseRangeCommunity_of_mem intListFromStrings h
  have hn : (atoi (firstRangePart s)).isNone = false := by simpa using ha
  rw [heq, hn, hts]
  simp

/-- An extended community: a tag and two numeric segments. -/
lemma parseRangeCommunity_of_isNone {s : String} (ha : atoi (firstRangePart s) = none)
    (hc : (split s ':').length = 3) :
    ∃ t₀ t₁ t₂, split s ':' = [t₀, t₁, t₂] ∧ parseRangeCommunity intListFromStrings s =
      .ok [.strings [firstRangePart s, firstRangePart s],
        .ints (intListFromStrings (rangeBounds t₁)),
        .ints (intListFromStrings (rangeBounds t₂))] := by
  have h : ':' ∈ s.data := (mem_iff_two_le_length_split s ':').2 (by omega)
  obtain ⟨t₀, ts, hts, hfirst, heq⟩ := parseRangeCommunity_of_mem intListFromStrings h
  rw [hts] at hc
  match ts, hc with
  | [t₁, t₂], _ => exact ⟨t₀, t₁, t₂, hts, by rw [heq, ha, hfirst]; rfl⟩

/-- An extended community without exactly three segments is rejected. -/
lemma parseRangeCommunity_of_isNone_of_ne {s : String} (h : ':' ∈ s.data)
    (ha : atoi (firstRangePart s) = none) (hc : (split s ':').length ≠ 3) :
    parseRangeCommunity intListFromStrings s = .error (errInvalidCommunity s) := by
  obtain ⟨t₀, ts, hts, -, heq⟩ := parseRangeCommunity_of_mem intListFromStrings h
  rw [hts] at hc
  rw [heq, if_pos (by simpa [ha] using hc)]

/-- `parseRangeCommunity` fails only with `ErrInvalidCommunity` of its input. -/
lemma parseRangeCommunity_error_iff {s : String} {e : String} :
    parseRangeCommunity intListFromStrings s = .error e ↔
      e = errInvalidCommunity s ∧
        (':' ∉ s.data ∨ atoi (firstRangePart s) = none ∧ (split s ':').length ≠ 3) := by
  by_cases h : ':' ∈ s.data
  · rcases ha : atoi (firstRangePart s) with _ | v
    · by_cases hc : (split s ':').length = 3
      · obtain ⟨_, _, _, -, heq⟩ := parseRangeCommunity_of_isNone intListFromStrings ha hc
        simp [heq, hc, h]
      · rw [parseRangeCommunity_of_isNone_of_ne intListFromStrings h ha hc]
        simp [hc, eq_comm]
    · rw [parseRangeCommunity_of_isSome intListFromStrings h (by simp [ha])]
      simp [h]
  · rw [parseRangeCommunity_of_not_mem intListFromStrings h]
    simp [h, eq_comm]

end Parse

/-! ### Sections -/

/-- A fold in `Except` fails exactly when one of its steps fails, when whether a step fails
does not depend on the accumulated value. -/
lemma foldlM_except_error_iff {α β ε : Type} (f : β → α → Except ε β) (Bad : α → Prop)
    (hf : ∀ b x, (∃ e, f b x = .error e) ↔ Bad x) (l : List α) (b : β) :
    (∃ e, l.foldlM f b = .error e) ↔ ∃ x ∈ l, Bad x := by
  induction l generalizing b with
  | nil => simp [List.foldlM, pure, Except.pure]
  | cons x l ih =>
    rw [List.foldlM_cons]
    cases h : f b x with
    | error e => simp [bind, Except.bind, (hf b x).1 ⟨e, h⟩]
    | ok b' =>
      have hx : ¬ Bad x := fun hx => by
        obtain ⟨e, he⟩ := (hf b x).2 hx
        simp [h] at he
      simp [bind, Except.bind, ih b', hx]

section Set

variable (intListFromStrings : List String → List Int)
  (communityType : BGPCommunityRange → Option BGPCommunityType)

/-- A line fails exactly when it is a community that `parseRangeCommunity` rejects. -/
lemma parseRangeCommunitiesLine_error_iff (set : BGPCommunitiesSet) (line : String) :
    (∃ e, parseRangeCommunitiesLine intListFromStrings communityType set line = .error e) ↔
      trimSpace line ≠ "" ∧ hasPrefix (trimSpace line) "#" = false ∧
        ∃ e, parseRangeCommunity intListFromStrings (trimSpace line) = .error e := by
  simp only [parseRangeCommunitiesLine]
  split_ifs with h₁ h₂
  · simp [h₁, pure, Except.pure]
  · simp [h₂, pure, Except.pure]
  · cases hp : parseRangeCommunity intListFromStrings (trimSpace line) with
    | error e => simp [h₁, h₂, bind, Except.bind]
    | ok comm =>
      simp only [bind, Except.bind, h₁, h₂]
      split <;> simp [pure, Except.pure]

/-- The parser accepts exactly its grammar. A section fails exactly when one of its lines is
a community that `parseRangeCommunity` rejects. A community is rejected exactly when it has no
`:`, or when its first part is not an integer and it does not have three segments. Otherwise it
is one component per segment, or an extended community's tag and its two numeric segments.
The loop over the segments never fails and keeps one part per segment, so the checks for no
values and for at most one part never fire. -/
theorem parseRangeCommunitiesSet_grammar :
    (∀ body, (∃ e, parseRangeCommunitiesSet intListFromStrings communityType body = .error e) ↔
      ∃ line ∈ split body '\n', trimSpace line ≠ "" ∧ hasPrefix (trimSpace line) "#" = false ∧
        ∃ e, parseRangeCommunity intListFromStrings (trimSpace line) = .error e) ∧
    (∀ s, (∃ e, parseRangeCommunity intListFromStrings s = .error e) ↔
      ':' ∉ s.data ∨ atoi (firstRangePart s) = none ∧ (split s ':').length ≠ 3) ∧
    (∀ s, ':' ∈ s.data → (atoi (firstRangePart s)).isSome →
      parseRangeCommunity intListFromStrings s =
        .ok ((split s ':').map fun t => .ints (intListFromStrings (rangeBounds t)))) ∧
    (∀ s, atoi (firstRangePart s) = none → (split s ':').length = 3 →
      ∃ t₀ t₁ t₂, split s ':' = [t₀, t₁, t₂] ∧ parseRangeCommunity intListFromStrings s =
        .ok [.strings [firstRangePart s, firstRangePart s],
          .ints (intListFromStrings (rangeBounds t₁)),
          .ints (intListFromStrings (rangeBounds t₂))]) ∧
    (∀ t, splitN t '-' 2 ≠ []) ∧
    ∀ s tokens, rangeParts s tokens = .ok (tokens.map rangeBounds) :=
  ⟨fun _ => foldlM_except_error_iff _ _
      (parseRangeCommunitiesLine_error_iff intListFromStrings communityType) _ _,
    fun _ => ⟨fun ⟨_, he⟩ => ((parseRangeCommunity_error_iff intListFromStrings).1 he).2,
      fun h => ⟨_, (parseRangeCommunity_error_iff intListFromStrings).2 ⟨rfl, h⟩⟩⟩,
    fun _ => parseRangeCommunity_of_isSome intListFromStrings,
    fun _ => parseRangeCommunity_of_isNone intListFromStrings, splitN_two_ne_nil, rangeParts_eq⟩

/-! ### The section as a whole -/

/-- The lines of a section that hold a community: trimmed, and neither blank nor a comment. -/
def communityLines (body : String) : List String :=
  ((split body '\n').map trimSpace).filter fun line => !(line == "") && !hasPrefix line "#"

/-- The ranges of `comms` added to those of `set`, each to the list of its kind. -/
def BGPCommunitiesSet.addAll (set : BGPCommunitiesSet) (comms : List BGPCommunityRange) :
    BGPCommunitiesSet :=
  ⟨set.standard ++ comms.filter (communityType · = some .std),
    set.large ++ comms.filter (communityType · = some .large),
    set.extended ++ comms.filter (communityType · = some .ext)⟩

@[simp] lemma BGPCommunitiesSet.addAll_nil (set : BGPCommunitiesSet) :
    set.addAll communityType [] = set := by
  simp [BGPCommunitiesSet.addAll]

lemma BGPCommunitiesSet.addAll_cons (set : BGPCommunitiesSet) (comm : BGPCommunityRange)
    (comms : List BGPCommunityRange) :
    set.addAll communityType (comm :: comms) =
      (set.addAll communityType [comm]).addAll communityType comms := by
  simp only [BGPCommunitiesSet.addAll, List.filter_cons, List.filter_nil]
  split_ifs <;> simp

/-- A line with a community adds it to the list of its kind. -/
lemma parseRangeCommunitiesLine_of_ok {set : BGPCommunitiesSet} {line : String}
    {comm : BGPCommunityRange} (h₁ : trimSpace line ≠ "") (h₂ : hasPrefix (trimSpace line) "#" = false)
    (h : parseRangeCommunity intListFromStrings (trimSpace line) = .ok comm) :
    parseRangeCommunitiesLine intListFromStrings communityType set line =
      .ok (set.addAll communityType [comm]) := by
  simp only [parseRangeCommunitiesLine, h₁, h₂, h, if_false, Bool.false_eq_true]
  rcases hk : communityType comm with _ | _ | _ | _ <;>
    simp [bind, Except.bind, pure, Except.pure, BGPCommunitiesSet.addAll, hk]

/-- The loop over the lines parses each line that holds a community, stops at the first one
rejected, and adds the others by kind. -/
lemma foldlM_parseRangeCommunitiesLine (lines : List String) (set : BGPCommunitiesSet) :
    lines.foldlM (parseRangeCommunitiesLine intListFromStrings communityType) set =
      set.addAll communityType <$>
        (((lines.map trimSpace).filter fun line => !(line == "") && !hasPrefix line "#").mapM
          (parseRangeCommunity intListFromStrings)) := by
  induction lines generalizing set with
  | nil => simp only [List.foldlM_nil, List.map_nil, List.filter_nil, List.mapM_nil, map_pure,
      BGPCommunitiesSet.addAll_nil]
  | cons line lines ih =>
    rw [List.foldlM_cons, List.map_cons, List.filter_cons]
    by_cases h₁ : trimSpace line = ""
    · simp only [parseRangeCommunitiesLine, h₁, if_true]
      simpa using ih set
    by_cases h₂ : hasPrefix (trimSpace line) "#" = true
    · simp only [parseRangeCommunitiesLine, h₁, h₂, if_true, if_false]
      simpa [h₂] using ih set
    simp only [Bool.not_eq_true] at h₂
    have hkeep : (!(trimSpace line == "") && !hasPrefix (trimSpace line) "#") = true := by
      simpa [h₂] using h₁
    rw [if_pos hkeep, List.mapM_cons]
    cases hp : parseRangeCommunity intListFromStrings (trimSpace line) with
    | error e => simp [parseRangeCommunitiesLine, h₁, h₂, hp, bind, Except.bind]
    | ok comm =>
      rw [parseRangeCommunitiesLine_of_ok intListFromStrings communityType h₁ h₂ hp]
      simp only [bind, Except.bind, ih]
      cases (((lines.map trimSpace).filter fun line => !(line == "") && !hasPrefix line "#").mapM
          (parseRangeCommunity intListFromStrings)) with
      | error e => rfl
      | ok comms => exact congrArg Except.ok (BGPCommunitiesSet.addAll_cons _ set comm comms).symm

/-- `parseRangeCommunitiesSet` parses the lines that hold a community, fails with the error of
the first one rejected, and otherwise sorts the ranges by kind, each list in the order of the
lines; ranges of no known kind are dropped. -/
theorem parseRangeCommunitiesSet_eq (body : String) :
    parseRangeCommunitiesSet intListFromStrings communityType body =
      (BGPCommunitiesSet.mk [] [] []).addAll communityType <$>
        (communityLines body).mapM (parseRangeCommunity intListFromStrings) :=
  foldlM_parseRangeCommunitiesLine intListFromStrings communityType _ _

example : parseRangeCommunitiesSet (fun l => l.map fun v => (atoi v).getD 0)
    (fun r => if r.length = 2 then some .std else if r.length = 3 then some .ext else none)
    "# blackholes\n 65535:666 \n\nrt:65000:1-9\n1:2:3:4" =
      .ok ⟨[[.ints [65535, 65535], .ints [666, 666]]], [],
        [[.strings ["rt", "rt"], .ints [65000, 65000], .ints [1, 9]]]⟩ := rfl

end Set

end AliceLg
