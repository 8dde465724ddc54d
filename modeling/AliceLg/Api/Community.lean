import AliceLg.Go.Strconv

/-!
# BGP communities and their canonical strings

`Community` is a list of integers (two components for a standard community, three for a large
one) and `ExtCommunity` a type tag followed by integers. Their `String` methods render the
canonical strings that the filter index is keyed by; the lemmas below are what makes that index
exact: a community's rendering determines the community, and so does an extended community's
when it has the three components of a BGP extended community, whatever its tag contains.
-/

namespace AliceLg

/-- `api.Community`: a BGP community, standard (two components) or large (three). -/
abbrev Community := List Int

/-- `api.ExtCommunity`: an extended community, a type tag followed by integer components. Go holds
it as a `[]interface{}`; `String` asserts the first element to be a `string` and the others `int`,
which is the shape modelled here. -/
structure ExtCommunity where
  tag : String
  values : List Int
  deriving DecidableEq, Repr

/-- `len(com)` of the Go slice: the tag and the values. -/
def ExtCommunity.length (com : ExtCommunity) : Nat := com.values.length + 1

/-- `Community.String`: the components joined by `:`. -/
def Community.string (com : Community) : String :=
  if com.length < 1 then "" else ":".intercalate (com.map itoa)

/-- `ExtCommunity.String`: the tag, then `:` and each value. The slice is never empty here, so the
branch for `len(com) < 1` is absent. -/
def ExtCommunity.string (com : ExtCommunity) : String :=
  ":".intercalate (com.tag :: com.values.map itoa)

example : Community.string [65000, 100] = "65000:100" := by decide
example : ExtCommunity.string ⟨"rt", [0, 42]⟩ = "rt:0:42" := by decide

/-! ### The characters of a rendering -/

/-- The characters of `:v₁:v₂…`, the part of a rendering after its first element. -/
def colonTail (vs : List Int) : List Char :=
  (vs.map fun v => ':' :: (itoa v).data).flatten

@[simp] lemma colonTail_nil : colonTail [] = [] := rfl

@[simp] lemma colonTail_cons (v : Int) (vs : List Int) :
    colonTail (v :: vs) = ':' :: ((itoa v).data ++ colonTail vs) := rfl

private lemma data_intercalate_go (acc s : String) (l : List String) :
    (String.intercalate.go acc s l).data =
      acc.data ++ (l.map fun a => s.data ++ a.data).flatten := by
  induction l generalizing acc with
  | nil => simp [String.intercalate.go]
  | cons a l ih => simp [String.intercalate.go, ih]

private lemma data_intercalate_colon (a : String) (vs : List Int) :
    (":".intercalate (a :: vs.map itoa)).data = a.data ++ colonTail vs := by
  simp [String.intercalate, data_intercalate_go, colonTail, Function.comp_def]

lemma Community.string_nil : Community.string [] = "" := rfl

lemma Community.string_data_cons (v : Int) (vs : List Int) :
    (Community.string (v :: vs)).data = (itoa v).data ++ colonTail vs := by
  simp only [Community.string, List.length_cons, Nat.lt_irrefl, if_false, List.map_cons]
  exact data_intercalate_colon _ _

lemma ExtCommunity.string_data (com : ExtCommunity) :
    com.string.data = com.tag.data ++ colonTail com.values :=
  data_intercalate_colon _ _

/-! ### Cutting at a separator -/

/-- Two lists that agree once each is cut before its first `c` agree on both sides of the cut. -/
lemma append_eq_append_of_sep {α : Type*} {c : α} :
    ∀ {l₁ l₂ r₁ r₂ : List α}, c ∉ l₁ → c ∉ l₂ → (∀ x ∈ r₁.head?, x = c) →
      (∀ x ∈ r₂.head?, x = c) → l₁ ++ r₁ = l₂ ++ r₂ → l₁ = l₂ ∧ r₁ = r₂
  | [], [], _, _, _, _, _, _, h => ⟨rfl, h⟩
  | [], y :: l₂, _, _, _, h₂, hr₁, _, h => by
    subst h
    exact absurd (hr₁ y rfl ▸ List.mem_cons_self y l₂) h₂
  | x :: l₁, [], _, _, h₁, _, _, hr₂, h => by
    subst h
    exact absurd (hr₂ x rfl ▸ List.mem_cons_self x l₁) h₁
  | x :: l₁, y :: l₂, _, _, h₁, h₂, hr₁, hr₂, h => by
    simp only [List.cons_append, List.cons.injEq] at h
    obtain ⟨rfl, h⟩ := h
    obtain ⟨rfl, rfl⟩ := append_eq_append_of_sep (List.not_mem_of_not_mem_cons h₁)
      (List.not_mem_of_not_mem_cons h₂) hr₁ hr₂ h
    exact ⟨rfl, rfl⟩

private lemma colonTail_head (vs : List Int) : ∀ x ∈ (colonTail vs).head?, x = ':' := by
  cases vs <;> simp

/-- The integer in front of a `colonTail` is read off up to the first `:`. -/
lemma itoa_append_colonTail_inj {a b : Int} {as bs : List Int}
    (h : (itoa a).data ++ colonTail as = (itoa b).data ++ colonTail bs) :
    a = b ∧ colonTail as = colonTail bs := by
  obtain ⟨h₁, h₂⟩ := append_eq_append_of_sep (colon_not_mem_itoa a) (colon_not_mem_itoa b)
    (colonTail_head as) (colonTail_head bs) h
  exact ⟨itoa_injective (String.ext h₁), h₂⟩

lemma colonTail_injective : Function.Injective colonTail := by
  intro as bs h
  induction as generalizing bs with
  | nil => cases bs <;> simp_all
  | cons a as ih =>
    cases bs with
    | nil => simp at h
    | cons b bs =>
      obtain ⟨rfl, h'⟩ := itoa_append_colonTail_inj (List.cons_injective h)
      rw [ih h']

/-- The rendering of a community determines it, negative components and the empty community
included. -/
lemma Community.string_injective : Function.Injective Community.string
  | [], [], _ => rfl
  | [], b :: bs, h => by
    have := congrArg String.data h
    rw [Community.string_nil, Community.string_data_cons] at this
    exact absurd (List.append_eq_nil.1 this.symm).1 (itoa_data_ne_nil b)
  | a :: as, [], h => by
    have := congrArg String.data h
    rw [Community.string_nil, Community.string_data_cons] at this
    exact absurd (List.append_eq_nil.1 this).1 (itoa_data_ne_nil a)
  | a :: as, b :: bs, h => by
    have := congrArg String.data h
    rw [Community.string_data_cons, Community.string_data_cons] at this
    obtain ⟨rfl, h'⟩ := itoa_append_colonTail_inj this
    rw [colonTail_injective h']

/-- Read from the right, the last two components of a triple's rendering come before any `:` of
its tag. -/
lemma ExtCommunity.string_inj_of_triple {a b : ExtCommunity} (ha : a.values.length = 2)
    (hb : b.values.length = 2) (h : a.string = b.string) : a = b := by
  obtain ⟨t₁, _ | ⟨x₁, _ | ⟨y₁, _ | ⟨_, _⟩⟩⟩⟩ := a <;> simp at ha
  obtain ⟨t₂, _ | ⟨x₂, _ | ⟨y₂, _ | ⟨_, _⟩⟩⟩⟩ := b <;> simp at hb
  have hd := congrArg (fun s => (String.data s).reverse) h
  simp only [ExtCommunity.string_data, colonTail_cons, colonTail_nil, List.append_nil,
    List.reverse_append, List.reverse_cons, List.append_assoc, List.singleton_append] at hd
  have sep := fun v => List.mem_reverse.not.2 (colon_not_mem_itoa v)
  obtain ⟨hy, hd⟩ := append_eq_append_of_sep (sep y₁) (sep y₂) (by simp) (by simp) hd
  obtain ⟨hx, ht⟩ := append_eq_append_of_sep (sep x₁) (sep x₂) (by simp) (by simp)
    (List.cons_injective hd)
  have ht := List.reverse_injective (List.cons_injective ht)
  rw [itoa_injective (String.ext (List.reverse_injective hx)),
    itoa_injective (String.ext (List.reverse_injective hy)), String.ext ht]

/-- The canonical renderings are injective: two communities, negative components and the empty
community included, render alike exactly when they are equal, and so do two extended
communities of a tag and two values, whatever their tags contain. -/
theorem canonicalString_injective :
    (∀ a b : Community, a.string = b.string ↔ a = b) ∧
    ∀ (t₁ t₂ : String) (x₁ y₁ x₂ y₂ : Int),
      ExtCommunity.string ⟨t₁, [x₁, y₁]⟩ = ExtCommunity.string ⟨t₂, [x₂, y₂]⟩ ↔
        (t₁, x₁, y₁) = (t₂, x₂, y₂) :=
  ⟨fun _ _ => Community.string_injective.eq_iff, fun _ _ _ _ _ _ =>
    ⟨fun h => by cases ExtCommunity.string_inj_of_triple (h := h) (by rfl) (by rfl); rfl,
      by rintro ⟨⟩; rfl⟩⟩

end AliceLg
