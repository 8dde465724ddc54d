import AliceLg.Api.Community
import Mathlib.Data.Nat.Pairing

/-!
# Search filters and their values

A `SearchFilter` holds a `FilterValue`, which Go types as `interface{}`. The filter engine
distinguishes six dynamic types, and `FilterValue` is the closed sum of them. Two functions look
at a value: `SearchFilter.Equal`, which picks a comparator from the type of the other value and
type-asserts the first one (a failed assertion panics, modelled as `none`), and
`filterValueAsString`, which renders the canonical string the group index is keyed by.

The main results say when the two agree: on values of one kind, with `*string` values drawn from
one string pool, `Equal` never panics, is symmetric and transitive, and, extended communities
apart, holds exactly when the canonical strings coincide; for extended communities it needs the
three components it checks for.
-/

namespace AliceLg

/-- A `*string`: the address of a string and the string stored there. -/
structure StrPtr where
  addr : Nat
  val : String
  deriving DecidableEq, Repr

/-- A pool of interned strings, handing out one address per text. -/
structure StringPool where
  addr : String → Nat
  addr_injective : Function.Injective addr

/-- The code of a string's characters, paired up: distinct strings get distinct codes. -/
def pairingCode (cs : List Char) : Nat :=
  cs.foldr (fun c n => Nat.pair c.toNat n + 1) 0

lemma pairingCode_injective : Function.Injective pairingCode := by
  intro as bs h
  induction as generalizing bs with
  | nil => cases bs <;> simp_all [pairingCode]
  | cons a as ih =>
    cases bs with
    | nil => simp [pairingCode] at h
    | cons b bs =>
      simp only [pairingCode, List.foldr_cons, Nat.add_right_cancel_iff, Nat.pair_eq_pair] at h
      rw [Char.ext (UInt32.toNat.inj h.1), ih h.2]

/-- A pool numbering each string by `pairingCode`. -/
def StringPool.pairing : StringPool :=
  ⟨fun s => pairingCode s.data, fun _ _ h => String.ext (pairingCode_injective h)⟩

/-- A pointer handed out by the pool `P`. -/
def StrPtr.InPool (P : StringPool) (p : StrPtr) : Prop := p.addr = P.addr p.val

/-- The dynamic types a `FilterValue` takes in the filter engine. -/
inductive FilterValue where
  | int (v : Int)
  | uint8 (v : UInt8)
  | strPtr (p : StrPtr)
  | string (s : String)
  | community (c : Community)
  | extCommunity (c : ExtCommunity)
  deriving DecidableEq, Repr

/-- `api.SearchFilter`. -/
structure SearchFilter where
  cardinality : Int
  name : String
  value : FilterValue
  deriving DecidableEq, Repr

/-- `SearchFilterCmpFunc`; `none` is a panic of a failed type assertion. -/
abbrev SearchFilterCmpFunc := FilterValue → FilterValue → Option Bool

/-! ### Comparators -/

/-- `searchFilterCmpInt`: `a.(int) == b.(int)`. -/
def searchFilterCmpInt (a b : FilterValue) : Option Bool :=
  match a, b with
  | .int x, .int y => some (x == y)
  | _, _ => none

/-- The string a `string` holds or a `*string` points to; `none` for any other type. -/
def FilterValue.stringValue? : FilterValue → Option String
  | .strPtr p => some p.val
  | .string s => some s
  | _ => none

/-- `searchFilterCmpString`: two `*string` values are compared as pointers, relying on both
coming from the pool; otherwise the strings are compared. -/
def searchFilterCmpString (a b : FilterValue) : Option Bool :=
  match a, b with
  | .strPtr p, .strPtr q => some (p.addr == q.addr)
  | _, _ => do
    let valA ← a.stringValue?
    let valB ← b.stringValue?
    return valA == valB

/-- `searchFilterCmpCommunity`: equal lengths and equal components. -/
def searchFilterCmpCommunity (a b : FilterValue) : Option Bool :=
  match a, b with
  | .community ca, .community cb =>
    some (ca.length == cb.length && (List.range ca.length).all fun i => ca[i]? == cb[i]?)
  | _, _ => none

/-- `searchFilterCmpExtCommunity`: both of length three, with equal components. -/
def searchFilterCmpExtCommunity (a b : FilterValue) : Option Bool :=
  match a, b with
  | .extCommunity ca, .extCommunity cb =>
    if ca.length != cb.length || ca.length != 3 || cb.length != 3 then some false
    else some (ca.tag == cb.tag && ca.values[0]? == cb.values[0]? && ca.values[1]? == cb.values[1]?)
  | _, _ => none

/-- The comparator `Equal` selects from the dynamic type of the other value. -/
def cmpFuncOf : FilterValue → Option SearchFilterCmpFunc
  | .community _ => some searchFilterCmpCommunity
  | .extCommunity _ => some searchFilterCmpExtCommunity
  | .int _ => some searchFilterCmpInt
  | .string _ => some searchFilterCmpString
  | .strPtr _ => some searchFilterCmpString
  | .uint8 _ => none

/-- `SearchFilter.Equal`. Without a comparator for the other value's type it logs and answers
`false`. -/
def SearchFilter.equal (f other : SearchFilter) : Option Bool :=
  match cmpFuncOf other.value with
  | none => some false
  | some cmp => cmp f.value other.value

/-- `filterValueAsString`: the canonical string of a value. -/
def filterValueAsString : FilterValue → String
  | .int v => itoa v
  | .uint8 v => itoa v.toNat
  | .strPtr p => p.val
  | .string s => s
  | .community c => Community.string c
  | .extCommunity c => c.string

/-! ### Kinds -/

/-- The kinds of value; `string` and `*string` are one kind, compared by `searchFilterCmpString`. -/
inductive ValueKind where
  | int | uint8 | string | community | extCommunity
  deriving DecidableEq, Repr

/-- The kind of a value. -/
def FilterValue.kind : FilterValue → ValueKind
  | .int _ => .int
  | .uint8 _ => .uint8
  | .strPtr _ => .string
  | .string _ => .string
  | .community _ => .community
  | .extCommunity _ => .extCommunity

/-- A `*string` value comes from the pool; other values are unconstrained. -/
def FilterValue.Pooled (P : StringPool) : FilterValue → Prop
  | .strPtr p => p.InPool P
  | _ => True

instance FilterValue.decidablePooled (P : StringPool) : (v : FilterValue) → Decidable (v.Pooled P)
  | .strPtr p => inferInstanceAs (Decidable (p.addr = P.addr p.val))
  | .int _ | .uint8 _ | .string _ | .community _ | .extCommunity _ => instDecidableTrue

/-- An extended community value has the three components a BGP extended community has. -/
def FilterValue.IsTriple : FilterValue → Prop
  | .extCommunity c => c.values.length = 2
  | _ => True

instance FilterValue.decidableIsTriple : (v : FilterValue) → Decidable v.IsTriple
  | .extCommunity c => inferInstanceAs (Decidable (c.values.length = 2))
  | .int _ | .uint8 _ | .strPtr _ | .string _ | .community _ => instDecidableTrue

/-- Values that `Equal` compares without panicking and without falling back on `false`: one
kind, other than `uint8`, with `*string` values from one pool. -/
structure Comparable (P : StringPool) (a b : FilterValue) : Prop where
  kind_eq : a.kind = b.kind
  kind_ne : b.kind ≠ .uint8
  pooled_left : a.Pooled P
  pooled_right : b.Pooled P

/-- A value with a `*string` replaced by the string it points to. -/
def FilterValue.deref : FilterValue → FilterValue
  | .strPtr p => .string p.val
  | v => v

/-- What the comparator of `b`'s type answers when no assertion fails: the values agree once
pointers are dereferenced, and an extended community has its three components. -/
def FilterValue.Same (a b : FilterValue) : Prop := a.IsTriple ∧ a.deref = b.deref

instance (a b : FilterValue) : Decidable (a.Same b) :=
  inferInstanceAs (Decidable (a.IsTriple ∧ a.deref = b.deref))

private lemma cmpCommunity_eq (ca cb : Community) :
    searchFilterCmpCommunity (.community ca) (.community cb) = some (decide (ca = cb)) := by
  show some (_ && _) = _
  congr 1
  rw [Bool.eq_iff_iff]
  simp only [Bool.and_eq_true, beq_iff_eq, List.all_eq_true, List.mem_range, decide_eq_true_eq]
  constructor
  · rintro ⟨hl, h⟩
    exact List.ext_getElem? fun i => if hi : i < ca.length then h i hi else by
      rw [List.getElem?_eq_none (by omega), List.getElem?_eq_none (by omega)]
  · rintro rfl
    simp

private lemma cmpExtCommunity_eq (c d : ExtCommunity) :
    searchFilterCmpExtCommunity (.extCommunity c) (.extCommunity d) =
      some (decide (c.values.length = 2 ∧ c = d)) := by
  simp only [searchFilterCmpExtCommunity, ExtCommunity.length]
  by_cases hc : c.values.length = 2
  · by_cases hd : d.values.length = 2
    · obtain ⟨t₁, _ | ⟨x₁, _ | ⟨y₁, _ | ⟨_, _⟩⟩⟩⟩ := c <;> simp at hc
      obtain ⟨t₂, _ | ⟨x₂, _ | ⟨y₂, _ | ⟨_, _⟩⟩⟩⟩ := d <;> simp at hd
      simp [and_assoc]
      rw [Bool.and_assoc]
      rfl
    · have : c ≠ d := fun h => hd (h ▸ hc)
      simp [hc, hd, this]
  · simp [hc]

/-- On comparable values `Equal` answers whether they are the same value. -/
lemma SearchFilter.equal_eq_of_comparable {P : StringPool} {f g : SearchFilter}
    (h : Comparable P f.value g.value) : f.equal g = some (decide (f.value.Same g.value)) := by
  obtain ⟨hk, hu, hf, hg⟩ := h
  rcases f with ⟨_, _, a⟩
  rcases g with ⟨_, _, b⟩
  cases a <;> cases b <;> simp_all [FilterValue.kind, SearchFilter.equal, cmpFuncOf,
    searchFilterCmpInt, searchFilterCmpString, cmpCommunity_eq,
    cmpExtCommunity_eq, FilterValue.stringValue?, FilterValue.Same, FilterValue.deref,
    FilterValue.IsTriple, FilterValue.Pooled,
    StrPtr.InPool, beq_eq_decide, P.addr_injective.eq_iff]

/-! ### Sameness -/

namespace FilterValue

@[simp] lemma isTriple_deref (v : FilterValue) : v.deref.IsTriple ↔ v.IsTriple := by
  cases v <;> rfl

@[simp] lemma kind_deref (v : FilterValue) : v.deref.kind = v.kind := by
  cases v <;> rfl

lemma Same.symm {a b : FilterValue} (h : a.Same b) : b.Same a :=
  ⟨(isTriple_deref b).1 (h.2 ▸ (isTriple_deref a).2 h.1), h.2.symm⟩

lemma Same.trans {a b c : FilterValue} (h₁ : a.Same b) (h₂ : b.Same c) : a.Same c :=
  ⟨h₁.1, h₁.2.trans h₂.2⟩

lemma Same.kind_eq {a b : FilterValue} (h : a.Same b) : a.kind = b.kind := by
  rw [← kind_deref, h.2, kind_deref]

@[simp] lemma same_self_iff {a : FilterValue} : a.Same a ↔ a.IsTriple := by
  simp [Same]

/-- On values of one kind that are triples, `Equal`'s verdict is equality of canonical strings:
the canonical renderings of each kind are injective. -/
lemma same_iff_string_eq {a b : FilterValue} (hk : a.kind = b.kind) (ha : a.IsTriple)
    (hb : b.IsTriple) : a.Same b ↔ filterValueAsString a = filterValueAsString b := by
  cases a <;> cases b <;> simp_all [Same, deref, kind, IsTriple, filterValueAsString,
    Community.string_injective.eq_iff]
  case uint8.uint8 => exact ⟨fun h => h ▸ rfl, fun h => UInt8.toNat.inj (by exact_mod_cast h)⟩
  case extCommunity.extCommunity c d =>
    exact ⟨fun h => h ▸ rfl, ExtCommunity.string_inj_of_triple ha hb⟩

end FilterValue

end AliceLg
