import Mathlib.Algebra.Group.Int
import Mathlib.Data.List.Basic
import Mathlib.Data.Nat.Digits

/-!
# `strconv.Itoa` and `strconv.Atoi`

The two conversions of Go's `strconv` package that the filter engine and the configuration
parser use, on a 64-bit platform. `Itoa` renders the canonical strings the filter index is keyed
by, so the lemmas here are the facts about it that the index relies on: the rendering is
injective, never empty, and contains no `:`.
-/

namespace AliceLg

/-- `strconv.Itoa`: decimal digits, with a leading `-` for negative values. -/
def itoa (v : Int) : String := v.repr

/-- The value of a run of decimal digits, read most significant first. -/
def decimalValue (ds : List Char) : Nat :=
  ds.foldl (fun n c => 10 * n + (c.toNat - '0'.toNat)) 0

/-- `strconv.Atoi` on a 64-bit platform: an optional sign and at least one ASCII digit, whose
value fits in an `int`; `none` is the returned error. -/
def atoi (s : String) : Option Int :=
  let (neg, ds) : Bool × List Char := match s.data with
    | '-' :: ds => (true, ds)
    | '+' :: ds => (false, ds)
    | ds => (false, ds)
  if ds ≠ [] ∧ ds.all Char.isDigit then
    let v : Int := if neg then -(decimalValue ds : Int) else decimalValue ds
    if -2 ^ 63 ≤ v ∧ v < 2 ^ 63 then some v else none
  else none

example : atoi "-0042" = some (-42) := by decide
example : atoi "9223372036854775808" = none := by decide

/-! ### Digits of `Nat.repr` -/

private lemma digitChar_spec : ∀ d, d < 10 →
    (Nat.digitChar d).isDigit = true ∧ (Nat.digitChar d).toNat - '0'.toNat = d := by
  decide

/-- With enough fuel, `toDigitsCore` puts the digits of `n` in front of `ds`; read back, they
continue the value `n`. -/
private lemma decimalValue_toDigitsCore (fuel n : Nat) (ds : List Char) (h : n < fuel) :
    (Nat.toDigitsCore 10 fuel n ds).foldl (fun n c => 10 * n + (c.toNat - '0'.toNat)) 0 =
      ds.foldl (fun n c => 10 * n + (c.toNat - '0'.toNat)) n := by
  induction fuel generalizing n ds with
  | zero => omega
  | succ fuel ih =>
    have hd := (digitChar_spec (n % 10) (Nat.mod_lt _ (by omega))).2
    simp only [Nat.toDigitsCore]
    split_ifs with h0
    · simp only [List.foldl_cons, hd]
      congr 1
      omega
    · rw [ih _ _ (by omega)]
      simp only [List.foldl_cons, hd]
      congr 1
      omega

private lemma isDigit_of_mem_toDigitsCore (fuel n : Nat) (ds : List Char) :
    ∀ c ∈ Nat.toDigitsCore 10 fuel n ds, c.isDigit = true ∨ c ∈ ds := by
  induction fuel generalizing n ds with
  | zero => exact fun c hc => .inr hc
  | succ fuel ih =>
    have hd := (digitChar_spec (n % 10) (Nat.mod_lt _ (by omega))).1
    intro c hc
    simp only [Nat.toDigitsCore] at hc
    split_ifs at hc
    · rcases List.mem_cons.1 hc with rfl | hc
      exacts [.inl hd, .inr hc]
    · rcases ih _ _ c hc with h | hc
      · exact .inl h
      · rcases List.mem_cons.1 hc with rfl | hc
        exacts [.inl hd, .inr hc]

private lemma toDigitsCore_ne_nil (fuel n : Nat) (ds : List Char) :
    Nat.toDigitsCore 10 (fuel + 1) n ds ≠ [] := by
  induction fuel generalizing n ds with
  | zero => simp only [Nat.toDigitsCore]; split_ifs <;> simp
  | succ fuel ih => rw [Nat.toDigitsCore]; split_ifs <;> simp [ih]

lemma decimalValue_repr (n : Nat) : decimalValue (Nat.repr n).data = n := by
  simpa using decimalValue_toDigitsCore (n + 1) n [] (by omega)

lemma isDigit_of_mem_repr {n : Nat} {c : Char} (h : c ∈ (Nat.repr n).data) : c.isDigit = true :=
  (isDigit_of_mem_toDigitsCore _ n [] c h).resolve_right (List.not_mem_nil c)

lemma repr_data_ne_nil (n : Nat) : (Nat.repr n).data ≠ [] :=
  toDigitsCore_ne_nil n n []

/-! ### `Itoa` -/

lemma itoa_negSucc (n : Nat) : itoa (Int.negSucc n) = "-" ++ Nat.repr (n + 1) := rfl

/-- Every character of a rendered integer is a digit or the sign. -/
lemma mem_itoa {v : Int} {c : Char} (h : c ∈ (itoa v).data) : c.isDigit = true ∨ c = '-' := by
  cases v with
  | ofNat n => exact .inl (isDigit_of_mem_repr h)
  | negSucc n =>
    rcases List.mem_cons.1 h with rfl | h
    exacts [.inr rfl, .inl (isDigit_of_mem_repr h)]

lemma colon_not_mem_itoa (v : Int) : ':' ∉ (itoa v).data := fun h => by
  rcases mem_itoa h with h | h <;> revert h <;> decide

lemma itoa_data_ne_nil (v : Int) : (itoa v).data ≠ [] := by
  cases v with
  | ofNat n => exact repr_data_ne_nil n
  | negSucc n => simp [itoa_negSucc]

lemma itoa_injective : Function.Injective itoa := by
  have key : ∀ m n : Nat, (Nat.repr m).data ≠ '-' :: (Nat.repr n).data := fun m n h => by
    have := isDigit_of_mem_repr (n := m) (c := '-') (h ▸ List.mem_cons_self _ _)
    revert this; decide
  intro a b h
  have hd := congrArg String.data h
  cases a with
  | ofNat m =>
    cases b with
    | ofNat n =>
      have := congrArg decimalValue hd
      change decimalValue (Nat.repr m).data = decimalValue (Nat.repr n).data at this
      rw [decimalValue_repr, decimalValue_repr] at this
      rw [this]
    | negSucc n => exact absurd hd (key m (n + 1))
  | negSucc m =>
    cases b with
    | ofNat n => exact absurd hd.symm (key n (m + 1))
    | negSucc n =>
      have := congrArg decimalValue (List.cons_injective hd)
      change decimalValue (Nat.repr (m + 1)).data = decimalValue (Nat.repr (n + 1)).data at this
      rw [decimalValue_repr, decimalValue_repr] at this
      rw [Nat.succ_injective this]

@[simp] lemma itoa_inj {a b : Int} : itoa a = itoa b ↔ a = b := itoa_injective.eq_iff

end AliceLg
