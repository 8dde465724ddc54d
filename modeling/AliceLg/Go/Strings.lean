import Mathlib.Data.List.Basic

/-!
# Go's `strings` functions

The functions of Go's `strings` package that the query and configuration parsers call, each
with a separator of one character, on the characters of the string. Go works on the UTF-8 bytes,
but a one-character separator below `U+0080` never occurs inside the encoding of another
character, so splitting bytes and splitting characters give the same pieces.
-/

namespace AliceLg

/-- `strings.Split(s, sep)`: the pieces between the occurrences of `sep`; one piece, `s`
itself, when it has none. -/
def split (s : String) (sep : Char) : List String :=
  (s.data.splitOn sep).map String.mk

/-- The pieces of `strings.SplitN(s, sep, n)` for `n ≥ 0`: at most `n` pieces, the last one the
unsplit rest; none for `n = 0`. -/
def splitNChars (sep : Char) : Nat → List Char → List (List Char)
  | 0, _ => []
  | 1, cs => [cs]
  | n + 2, cs =>
    match cs.span (· ≠ sep) with
    | (pre, []) => [pre]
    | (pre, _ :: rest) => pre :: splitNChars sep (n + 1) rest

/-- `strings.SplitN(s, sep, n)` for `n ≥ 0`. -/
def splitN (s : String) (sep : Char) (n : Nat) : List String :=
  (splitNChars sep n s.data).map String.mk

example : split "65000:100-200" ':' = ["65000", "100-200"] := by decide
example : split "" ':' = [""] := by decide
example : splitN "100-200-300" '-' 2 = ["100", "200-300"] := by decide

/-- `unicode.IsSpace`: the characters with Unicode's White_Space property. -/
def isSpace (c : Char) : Bool :=
  [0x09, 0x0A, 0x0B, 0x0C, 0x0D, 0x20, 0x85, 0xA0, 0x1680, 0x2028, 0x2029, 0x202F, 0x205F,
    0x3000].contains c.toNat || (0x2000 ≤ c.toNat && c.toNat ≤ 0x200A)

/-- `strings.TrimSpace`: without leading and trailing white space. -/
def trimSpace (s : String) : String :=
  ⟨((s.data.dropWhile isSpace).reverse.dropWhile isSpace).reverse⟩

/-- `strings.HasPrefix`. -/
def hasPrefix (s pre : String) : Bool :=
  pre.data.isPrefixOf s.data

example : trimSpace " \t65000:1 \n" = "65000:1" := by decide

/-- White space in front does not change what `TrimSpace` returns. -/
lemma trimSpace_spaces_append (ws : List Char) (s : String) (h : ∀ c ∈ ws, isSpace c = true) :
    trimSpace ⟨ws ++ s.data⟩ = trimSpace s := by
  simp [trimSpace, List.dropWhile_append_of_pos h]

/-- White space at the end does not change what `TrimSpace` returns. -/
lemma trimSpace_append_spaces (s : String) (ws : List Char) (h : ∀ c ∈ ws, isSpace c = true) :
    trimSpace ⟨s.data ++ ws⟩ = trimSpace s := by
  unfold trimSpace
  congr 2
  rw [List.dropWhile_append]
  split_ifs with he
  · rw [List.dropWhile_eq_nil_iff.2 h, List.isEmpty_iff.1 he]
  · rw [List.reverse_append, List.dropWhile_append_of_pos (by simpa using h)]

/-! ### The pieces of `Split` and `SplitN` -/

lemma length_splitOn (sep : Char) (cs : List Char) :
    (cs.splitOn sep).length = cs.count sep + 1 := by
  induction cs with
  | nil => rfl
  | cons c cs ih =>
    simp only [List.splitOn, List.splitOnP_cons, List.count_cons] at ih ⊢
    split_ifs <;> simp [ih]

lemma head?_splitOn (sep : Char) (cs : List Char) :
    (cs.splitOn sep).head? = some (cs.takeWhile (· ≠ sep)) := by
  induction cs with
  | nil => rfl
  | cons c cs ih =>
    simp only [List.splitOn, List.splitOnP_cons] at ih ⊢
    by_cases hc : c = sep
    · simp [hc]
    · simp [hc, ih]

/-- `Split` gives one piece more than there are separators. -/
lemma length_split (s : String) (sep : Char) : (split s sep).length = s.data.count sep + 1 := by
  simp [split, length_splitOn]

/-- `Split` cuts a text in two pieces or more exactly when the separator occurs in it. -/
lemma mem_iff_two_le_length_split (s : String) (sep : Char) :
    sep ∈ s.data ↔ 2 ≤ (split s sep).length := by
  rw [length_split, ← List.count_pos_iff]; omega

/-- The first piece of `Split` is the text before the first separator. -/
lemma split_eq_cons (s : String) (sep : Char) :
    ∃ ts, split s sep = ⟨s.data.takeWhile (· ≠ sep)⟩ :: ts := by
  have h := head?_splitOn sep s.data
  cases hs : s.data.splitOn sep with
  | nil => simp [hs] at h
  | cons c cs =>
    simp only [hs, List.head?_cons, Option.some.injEq] at h
    exact ⟨cs.map String.mk, by simp [split, hs, h]⟩

/-- `SplitN(t, sep, 2)` cuts at the first separator, and leaves a text without one whole. -/
lemma splitN_two (t : String) (sep : Char) : splitN t sep 2 =
    if sep ∈ t.data then [⟨t.data.takeWhile (· ≠ sep)⟩, ⟨(t.data.dropWhile (· ≠ sep)).tail⟩]
    else [t] := by
  simp only [splitN, splitNChars, List.span_eq_take_drop]
  cases h : t.data.dropWhile (· ≠ sep) with
  | nil =>
    have hsep : sep ∉ t.data := fun hm => by simpa using List.dropWhile_eq_nil_iff.1 h sep hm
    have happ := List.takeWhile_append_dropWhile (· ≠ sep) t.data
    rw [h, List.append_nil] at happ
    rw [if_neg hsep]
    exact congrArg (fun cs => [String.mk cs]) happ
  | cons c rest =>
    have hc : c = sep := by
      simpa only [h, List.head_cons, decide_eq_false_iff_not, not_not] using
        List.head_dropWhile_not (· ≠ sep) t.data (by rw [h]; simp)
    have hm : sep ∈ t.data :=
      hc ▸ (List.dropWhile_sublist (· ≠ sep)).subset (h ▸ List.mem_cons_self c rest)
    simp [hm, splitNChars]


/-- `SplitN(a + sep + b, sep, 2)` is `[a, b]` when `a` has no separator. -/
lemma splitN_two_append (a b : String) (sep : Char) (h : sep ∉ a.data) :
    splitN ⟨a.data ++ sep :: b.data⟩ sep 2 = [a, b] := by
  have ha : ∀ c ∈ a.data, decide (c ≠ sep) = true := fun c hc =>
    decide_eq_true fun h' => h (h' ▸ hc)
  rw [splitN_two, if_pos (List.mem_append_right _ (List.mem_cons_self _ _)),
    List.takeWhile_append_of_pos ha, List.dropWhile_append_of_pos ha]
  simp

/-! ### Joining and splitting again -/

private lemma data_intercalateGo_singleton (sep : Char) (acc : String) (l : List String) :
    (String.intercalate.go acc (String.singleton sep) l).data =
      acc.data ++ (l.map fun b => sep :: b.data).flatten := by
  induction l generalizing acc with
  | nil => simp [String.intercalate.go]
  | cons b l ih =>
    have hs : (String.singleton sep).data = [sep] := rfl
    simp [String.intercalate.go, ih, hs]

private lemma splitOn_append_flatten (sep : Char) :
    ∀ (cs : List Char) (l : List (List Char)), sep ∉ cs → (∀ b ∈ l, sep ∉ b) →
      (cs ++ (l.map (sep :: ·)).flatten).splitOn sep = cs :: l
  | cs, [], hcs, _ => by
    simpa [List.splitOn] using
      List.splitOnP_eq_single (· == sep) cs fun x hx h => hcs ((beq_iff_eq.1 h) ▸ hx)
  | cs, b :: l, hcs, hl => by
    rw [List.map_cons, List.flatten_cons, List.cons_append, List.splitOn,
      List.splitOnP_first (· == sep) cs (fun x hx h => hcs ((beq_iff_eq.1 h) ▸ hx)) sep
        (by simp)]
    exact congrArg (cs :: ·) (splitOn_append_flatten sep b l (hl b (List.mem_cons_self _ _))
      fun b' hb' => hl b' (List.mem_cons_of_mem _ hb'))

/-- `Split` undoes joining a non-empty list with the separator, when no piece holds it. -/
lemma split_intercalate (sep : Char) {l : List String} (hl : l ≠ [])
    (h : ∀ t ∈ l, sep ∉ t.data) :
    split ((String.singleton sep).intercalate l) sep = l := by
  obtain ⟨a, l, rfl⟩ := List.exists_cons_of_ne_nil hl
  have hd : ((String.singleton sep).intercalate (a :: l)).data =
      a.data ++ ((l.map String.data).map (sep :: ·)).flatten := by
    simp [String.intercalate, data_intercalateGo_singleton, Function.comp_def]
  rw [split, hd, splitOn_append_flatten sep _ _ (h a (List.mem_cons_self _ _)) fun b hb => by
    obtain ⟨t, ht, rfl⟩ := List.mem_map.1 hb
    exact h t (List.mem_cons_of_mem _ ht)]
  simp [Function.comp_def]

/-- A character other than the separator occurs in a joined text only if it occurs in a piece. -/
lemma not_mem_data_intercalate {c sep : Char} (hc : c ≠ sep) :
    ∀ {l : List String}, (∀ t ∈ l, c ∉ t.data) →
      c ∉ ((String.singleton sep).intercalate l).data
  | [], _ => by simp [String.intercalate]
  | a :: l, h => by
    simp only [String.intercalate, data_intercalateGo_singleton, List.mem_append, List.mem_flatten,
      List.mem_map, not_or, not_exists, not_and]
    refine ⟨h a (List.mem_cons_self _ _), fun _ ⟨t, ht, hs⟩ hm => ?_⟩
    subst hs
    rcases List.mem_cons.1 hm with rfl | hm
    exacts [hc rfl, h t (List.mem_cons_of_mem _ ht) hm]

end AliceLg
