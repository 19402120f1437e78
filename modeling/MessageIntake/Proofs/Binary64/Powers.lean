import MessageIntake.Binary64.Reading
import MessageIntake.Proofs.Binary64.Rounding
/-!
# Powers and order

The values from positive zero to positive infinity are the `ofUnits`, and their order is that of
the units. What is made of them by products, lesser values and cuts to whole numbers keeps the
order, since each product is rounded once and rounding keeps it.

Main statement: the powers of a representable value of at least one do not fall
(`monotone_powerUnits`), although each of the products that they are made of is rounded. From one
exponent to the next a carry runs through the low bits: there a square takes the place of the
product of all squares before it, and that product was rounded from no more at each step.
-/

namespace MessageIntake.Binary64

/-! ### Values by their units -/

/-- **The value of so many units**, an infinity beyond the finite values. -/
def ofUnits (u : Nat) : Binary64 :=
  if u < unitsLimit then .finite false u else .infinity false

theorem ofUnits_of_lt {u : Nat} (lt : u < unitsLimit) : ofUnits u = .finite false u := if_pos lt

theorem ofUnits_of_le {u : Nat} (le : unitsLimit ≤ u) : ofUnits u = .infinity false :=
  if_neg (Nat.not_lt.2 le)

/-- It is finite, or an infinity. -/
theorem ofUnits_eq (u : Nat) : ofUnits u = .finite false u ∨ ofUnits u = .infinity false :=
  (Nat.lt_or_ge u unitsLimit).imp ofUnits_of_lt ofUnits_of_le

theorem isFinite_ofUnits (u : Nat) : (ofUnits u).isFinite = true ↔ u < unitsLimit := by
  rcases Nat.lt_or_ge u unitsLimit with lt | le
  · rw [ofUnits_of_lt lt]
    exact iff_of_true rfl lt
  · rw [ofUnits_of_le le]
    exact iff_of_false Bool.false_ne_true (Nat.not_lt.2 le)

theorem ofUnitRatio_of_lt (negative : Bool) {num den : Nat}
    (small : roundUnits num den < unitsLimit) :
    ofUnitRatio negative num den = .finite negative (roundUnits num den) := by
  simp only [ofUnitRatio]
  rw [if_pos small]

theorem ofUnitRatio_of_le (negative : Bool) {num den : Nat}
    (large : unitsLimit ≤ roundUnits num den) :
    ofUnitRatio negative num den = .infinity negative := by
  simp only [ofUnitRatio]
  rw [if_neg (Nat.not_lt.2 large)]

theorem unitsPerOne_pos : 0 < unitsPerOne := by
  unfold unitsPerOne
  apply two_pow_pos

theorem unitsPerOne_lt : unitsPerOne < unitsLimit := by
  unfold unitsPerOne unitsLimit
  apply two_pow_lt
  decide

theorem representable_unitsPerOne : Representable unitsPerOne := by
  unfold unitsPerOne
  apply representable_pow

theorem representable_unitsLimit : Representable unitsLimit := by
  unfold unitsLimit
  apply representable_pow

theorem one_eq : one = ofUnits unitsPerOne := (ofUnits_of_lt unitsPerOne_lt).symm

/-- **The units of a whole number**: those of as many ones, rounded. -/
def unitsOf (n : Nat) : Nat := roundUnits (n * unitsPerOne) 1

theorem ofNat_eq (n : Nat) : ofNat n = ofUnits (unitsOf n) := rfl

theorem unitsOf_zero : unitsOf 0 = 0 := by
  rw [unitsOf, Nat.zero_mul]
  rfl

theorem unitsOf_mono {n m : Nat} (le : n ≤ m) : unitsOf n ≤ unitsOf m :=
  roundUnits_mono (by decide) (Nat.mul_le_mul_right _ le)

theorem unitsPerOne_le_unitsOf {n : Nat} (pos : 0 < n) : unitsPerOne ≤ unitsOf n :=
  calc
    unitsPerOne = roundUnits (unitsPerOne * 1) 1 :=
      (representable_unitsPerOne.roundUnits_mul (by decide)).symm
    _ = unitsOf 1 := by rw [unitsOf, Nat.mul_comm]
    _ ≤ unitsOf n := unitsOf_mono pos

/-! ### Order -/

theorem place_ofUnits (u : Nat) : (ofUnits u).place = some (min u unitsLimit : Nat) := by
  rcases Nat.lt_or_ge u unitsLimit with lt | le
  · rw [ofUnits_of_lt lt, Nat.min_eq_left lt.le]
    rfl
  · rw [ofUnits_of_le le, Nat.min_eq_right le]
    rfl

theorem less_finite {negative other : Bool} {u v : Nat} :
    (finite negative u).less (finite other v) =
      decide ((if negative then -(u : Int) else u) < (if other then -(v : Int) else v)) := rfl

theorem less_ofUnits {u v : Nat} :
    (ofUnits u).less (ofUnits v) = true ↔ u < v ∧ u < unitsLimit := by
  simp only [less, place_ofUnits]
  grind

/-- **The lesser of two values** is that of the lesser number of units. -/
theorem minimum_ofUnits (u v : Nat) : (ofUnits u).minimum (ofUnits v) = ofUnits (min u v) := by
  have chosen : (ofUnits u).minimum (ofUnits v) =
      if (ofUnits v).less (ofUnits u) then ofUnits v else ofUnits u := by
    rcases ofUnits_eq u with eq | eq <;> rcases ofUnits_eq v with eq' | eq' <;> rw [eq, eq'] <;> rfl
  rw [chosen]
  split
  · next lt => rw [Nat.min_eq_right (less_ofUnits.1 lt).1.le]
  · next not_lt =>
    rcases Nat.le_total u v with le | le
    · rw [Nat.min_eq_left le]
    · have same : unitsLimit ≤ v ∨ u = v := by
        have := mt less_ofUnits.2 not_lt
        omega
      rw [Nat.min_eq_right le]
      rcases same with large | rfl
      · rw [ofUnits_of_le large, ofUnits_of_le (large.trans le)]
      · rfl

/-- What is not less than one is the greater of the two. -/
theorem maximum_one {u : Nat} (le : unitsPerOne ≤ u) : (ofUnits u).maximum one = ofUnits u := by
  have chosen : (ofUnits u).maximum one =
      if (ofUnits u).less one then one else ofUnits u := by
    rcases ofUnits_eq u with eq | eq <;> rw [eq] <;> rfl
  have not_less : ¬(ofUnits u).less one = true := by
    rw [one_eq, less_ofUnits]
    omega
  rw [chosen, if_neg not_less]

theorem toNatSaturating_finite (limit u : Nat) :
    (finite false u).toNatSaturating limit = min (u / unitsPerOne) limit := rfl

theorem toNatSaturating_zero (limit : Nat) : (ofUnits 0).toNatSaturating limit = 0 := by
  rw [ofUnits_of_lt (unitsPerOne_pos.trans unitsPerOne_lt), toNatSaturating_finite, Nat.zero_div,
    Nat.zero_min]

theorem toNatSaturating_le (limit : Nat) (x : Binary64) : x.toNatSaturating limit ≤ limit := by
  cases x with
  | nan => exact Nat.zero_le limit
  | infinity negative =>
    cases negative with
    | true => exact Nat.zero_le limit
    | false => exact le_rfl
  | finite negative units =>
    cases negative with
    | true => exact Nat.zero_le limit
    | false => exact Nat.min_le_right ..

/-- Cutting values to whole numbers keeps their order. -/
theorem toNatSaturating_mono {u v : Nat} (limit : Nat) (le : u ≤ v) :
    (ofUnits u).toNatSaturating limit ≤ (ofUnits v).toNatSaturating limit := by
  rcases Nat.lt_or_ge v unitsLimit with small | large
  · rw [ofUnits_of_lt small, ofUnits_of_lt (le.trans_lt small)]
    have := Nat.div_le_div_right (c := unitsPerOne) le
    rw [toNatSaturating_finite, toNatSaturating_finite]
    omega
  · rw [ofUnits_of_le large]
    exact toNatSaturating_le limit _

/-! ### Products -/

/-- The units of a product. -/
def mulUnits (u v : Nat) : Nat := roundUnits (u * v) unitsPerOne

theorem mulUnits_mono {u u' v v' : Nat} (le : u ≤ u') (le' : v ≤ v') :
    mulUnits u v ≤ mulUnits u' v' :=
  roundUnits_mono unitsPerOne_pos (Nat.mul_le_mul le le')

theorem representable_mulUnits (u v : Nat) : Representable (mulUnits u v) :=
  representable_roundUnits unitsPerOne_pos _

/-- One times a representable value is that value. -/
theorem Representable.one_mulUnits {u : Nat} (h : Representable u) :
    mulUnits unitsPerOne u = u := by
  rw [mulUnits, Nat.mul_comm]
  exact h.roundUnits_mul unitsPerOne_pos

/-- A product with what is at least one is not less. -/
theorem Representable.le_mulUnits {u v : Nat} (h : Representable u) (le : unitsPerOne ≤ v) :
    u ≤ mulUnits u v :=
  calc
    u = mulUnits unitsPerOne u := h.one_mulUnits.symm
    _ ≤ mulUnits v u := mulUnits_mono le le_rfl
    _ = mulUnits u v := by rw [mulUnits, mulUnits, Nat.mul_comm]

theorem unitsPerOne_le_mulUnits {u v : Nat} (le : unitsPerOne ≤ u) (le' : unitsPerOne ≤ v) :
    unitsPerOne ≤ mulUnits u v :=
  (representable_unitsPerOne.le_mulUnits le').trans (mulUnits_mono le le_rfl)

/-- A product with an infinity is as large. -/
theorem unitsLimit_le_mulUnits {u v : Nat} (large : unitsLimit ≤ u) (le : unitsPerOne ≤ v) :
    unitsLimit ≤ mulUnits u v :=
  (representable_unitsLimit.le_mulUnits le).trans (mulUnits_mono large le_rfl)

theorem mul_finite (negative other : Bool) (u v : Nat) :
    (finite negative u).mul (finite other v) =
      ofUnitRatio (negative != other) (u * v) unitsPerOne := rfl

/-- A product with an infinity is one, unless the other factor is zero. -/
theorem infinity_mul_finite (negative other : Bool) {v : Nat} (pos : 0 < v) :
    (infinity negative).mul (finite other v) = infinity (negative != other) :=
  if_neg fun zero => pos.ne' (beq_iff_eq.1 zero)

theorem finite_mul_infinity (negative other : Bool) {u : Nat} (pos : 0 < u) :
    (finite negative u).mul (infinity other) = infinity (negative != other) :=
  if_neg fun zero => pos.ne' (beq_iff_eq.1 zero)

/-- **The product of two values** of at least one is that of their units. -/
theorem mul_ofUnits {u v : Nat} (le : unitsPerOne ≤ u) (le' : unitsPerOne ≤ v) :
    (ofUnits u).mul (ofUnits v) = ofUnits (mulUnits u v) := by
  rcases Nat.lt_or_ge v unitsLimit with small' | large'
  · rcases Nat.lt_or_ge u unitsLimit with small | large
    · rw [ofUnits_of_lt small, ofUnits_of_lt small']
      rfl
    · rw [ofUnits_of_le large, ofUnits_of_lt small',
        ofUnits_of_le (unitsLimit_le_mulUnits large le')]
      exact infinity_mul_finite false false (unitsPerOne_pos.trans_le le')
  · have large : unitsLimit ≤ mulUnits u v := by
      rw [mulUnits, Nat.mul_comm]
      exact unitsLimit_le_mulUnits large' le
    rw [ofUnits_of_le large', ofUnits_of_le large]
    rcases ofUnits_eq u with eq | eq
    · rw [eq]
      exact finite_mul_infinity false false (unitsPerOne_pos.trans_le le)
    · rw [eq]
      rfl

/-- Zero times an infinity is no number. -/
theorem zero_mul_ofUnits (u : Nat) :
    (ofUnits 0).mul (ofUnits u) = if u < unitsLimit then ofUnits 0 else .nan false := by
  have zero : ofUnits 0 = .finite false 0 := ofUnits_of_lt (unitsPerOne_pos.trans unitsPerOne_lt)
  rcases Nat.lt_or_ge u unitsLimit with small | large
  · rw [if_pos small, zero, ofUnits_of_lt small, mul_finite, Nat.zero_mul, ← zero]
    change ofUnits (roundUnits 0 unitsPerOne) = ofUnits 0
    rw [zero_roundUnits]
  · rw [if_neg (Nat.not_lt.2 large), zero, ofUnits_of_le large]
    rfl

/-- What is negative is nothing. -/
theorem toNatSaturating_negative (limit num den : Nat) :
    (ofUnitRatio true num den).toNatSaturating limit = 0 := by
  refine (Nat.lt_or_ge (roundUnits num den) unitsLimit).elim (fun small => ?_) fun large => ?_
  · rw [ofUnitRatio_of_lt true small]
    rfl
  · rw [ofUnitRatio_of_le true large]
    rfl

/-- A negative factor makes nothing of what is not negative. -/
theorem toNatSaturating_mul_negative (limit u w : Nat) :
    ((ofUnits u).mul (.finite true w)).toNatSaturating limit = 0 := by
  rcases ofUnits_eq u with eq | eq
  · rw [eq, mul_finite, Bool.false_bne]
    exact toNatSaturating_negative ..
  · rw [eq]
    rcases Nat.eq_zero_or_pos w with rfl | pos
    · rfl
    · rw [infinity_mul_finite false true pos]
      rfl

/-- **A greater factor** makes no less of what is no less. A factor that is negative or no number
makes nothing of it. -/
theorem toNatSaturating_mul_mono {u v f : Nat} {factor : Binary64} (limit : Nat) (le : u ≤ v)
    (one_le : unitsPerOne ≤ f) (finite : f < unitsLimit)
    (most : (ofUnits f).less factor = false) :
    ((ofUnits u).mul factor).toNatSaturating limit ≤
      ((ofUnits v).mul (ofUnits f)).toNatSaturating limit := by
  have vanishes : ∀ {x : Binary64}, x.toNatSaturating limit = 0 → x.toNatSaturating limit ≤
      ((ofUnits v).mul (ofUnits f)).toNatSaturating limit := by
    intro x none
    rw [none]
    exact Nat.zero_le _
  cases factor with
  | nan =>
    refine vanishes ?_
    rcases ofUnits_eq u with eq | eq <;> rw [eq] <;> rfl
  | infinity negative =>
    cases negative with
    | true =>
      refine vanishes ?_
      rcases ofUnits_eq u with eq | eq
      · rw [eq]
        rcases Nat.eq_zero_or_pos u with rfl | pos
        · rfl
        · rw [finite_mul_infinity false true pos]
          rfl
      · rw [eq]
        rfl
    | false =>
      have less : (ofUnits f).less (.infinity false) = true := by
        rw [← ofUnits_of_le le_rfl, less_ofUnits]
        exact ⟨finite, finite⟩
      rw [less] at most
      cases most
  | finite negative w =>
    cases negative with
    | true =>
      exact vanishes (toNatSaturating_mul_negative limit u w)
    | false =>
      rcases Nat.lt_or_ge v unitsLimit with small | large
      · have lesser : w ≤ f := by
          rw [ofUnits_of_lt finite, less_finite, if_neg Bool.false_ne_true,
            if_neg Bool.false_ne_true] at most
          exact Int.ofNat_le.1 (Int.not_lt.1 (of_decide_eq_false most))
        rw [ofUnits_of_lt small, ofUnits_of_lt (le.trans_lt small), ofUnits_of_lt finite,
          mul_finite, mul_finite]
        exact toNatSaturating_mono limit (mulUnits_mono le lesser)
      · -- the greater product is infinite
        have product : (ofUnits v).mul (ofUnits f) = .infinity false := by
          rw [ofUnits_of_le large, ofUnits_of_lt finite]
          exact infinity_mul_finite false false (unitsPerOne_pos.trans_le one_le)
        rw [product]
        exact toNatSaturating_le limit _

/-! ### Powers -/

/-- The units of `acc` times a power, taken as `power` takes it. -/
def powerUnits (acc base n : Nat) : Nat :=
  if _h : n = 0 then acc
  else powerUnits (if n % 2 == 1 then mulUnits acc base else acc) (mulUnits base base) (n / 2)
  termination_by n
  decreasing_by omega

/-- The squaring loop goes by units. -/
theorem powerLoop_ofUnits {acc base : Nat} (n : Nat) (one_acc : unitsPerOne ≤ acc)
    (one_base : unitsPerOne ≤ base) :
    powerLoop (ofUnits acc) (ofUnits base) n = ofUnits (powerUnits acc base n) := by
  induction n using Nat.strongRecOn generalizing acc base with
  | ind n ih =>
    have taken : (if n % 2 == 1 then (ofUnits acc).mul (ofUnits base) else ofUnits acc) =
        ofUnits (if n % 2 == 1 then mulUnits acc base else acc) := by
      rw [mul_ofUnits one_acc one_base]
      split <;> rfl
    have one_taken : unitsPerOne ≤ if n % 2 == 1 then mulUnits acc base else acc := by
      split
      · exact unitsPerOne_le_mulUnits one_acc one_base
      · exact one_acc
    rw [powerLoop, powerUnits, taken]
    by_cases none : n = 0
    · have even : ¬(n % 2 == 1) = true := by simp [none]
      rw [dif_pos (by omega), dif_pos none, if_neg even]
    · rw [dif_neg none]
      split
      · next last =>
        rw [last, powerUnits]
        rfl
      · rw [mul_ofUnits one_base one_base]
        exact ih _ (by omega) one_taken (unitsPerOne_le_mulUnits one_base one_base)

theorem power_ofUnits {base : Nat} (n : Nat) (le : unitsPerOne ≤ base) :
    (ofUnits base).power n = ofUnits (powerUnits unitsPerOne base n) := by
  rw [power, one_eq]
  exact powerLoop_ofUnits n le_rfl le

theorem powerUnits_zero (acc base : Nat) : powerUnits acc base 0 = acc := by
  rw [powerUnits]
  rfl

/-- The lowest bit of the exponent decides whether the base is taken. -/
theorem powerUnits_of_pos (acc base : Nat) {n : Nat} (pos : 0 < n) :
    powerUnits acc base n =
      powerUnits (if n % 2 == 1 then mulUnits acc base else acc) (mulUnits base base) (n / 2) := by
  rw [powerUnits, dif_neg pos.ne']

theorem powerUnits_even (acc base : Nat) {k : Nat} (pos : 0 < k) :
    powerUnits acc base (2 * k) = powerUnits acc (mulUnits base base) k := by
  rw [powerUnits_of_pos acc base (by omega), Nat.mul_mod_right,
    Nat.mul_div_cancel_left k (by decide)]
  rfl

theorem powerUnits_odd (acc base k : Nat) :
    powerUnits acc base (2 * k + 1) = powerUnits (mulUnits acc base) (mulUnits base base) k := by
  have half : (2 * k + 1) / 2 = k := by omega
  have last : (2 * k + 1) % 2 = 1 := by omega
  rw [powerUnits_of_pos acc base (by omega), half, last]
  rfl

/-- What was taken so far may be more. -/
theorem powerUnits_mono {acc acc' : Nat} (base n : Nat) (le : acc ≤ acc') :
    powerUnits acc base n ≤ powerUnits acc' base n := by
  induction n using Nat.strongRecOn generalizing acc acc' base with
  | ind n ih =>
    rcases Nat.eq_zero_or_pos n with rfl | pos
    · simpa only [powerUnits_zero] using le
    · rw [powerUnits_of_pos acc base pos, powerUnits_of_pos acc' base pos]
      refine ih _ (by omega) _ ?_
      split
      · exact mulUnits_mono le le_rfl
      · exact le

/-- **From one exponent to the next.** Where the low bits are ones, the next exponent starts
anew, with the square of what they would take next. -/
theorem powerUnits_le_succ {acc base : Nat} (le : acc ≤ base) (h : Representable base) (n : Nat) :
    powerUnits acc base n ≤ powerUnits unitsPerOne base (n + 1) := by
  induction n using Nat.strongRecOn generalizing acc base with
  | ind n ih =>
    have square := representable_mulUnits base base
    obtain ⟨k, rfl | rfl⟩ : ∃ k, n = 2 * k ∨ n = 2 * k + 1 := ⟨n / 2, by omega⟩
    · -- the next exponent takes the base instead
      rw [powerUnits_odd, h.one_mulUnits]
      rcases Nat.eq_zero_or_pos k with rfl | pos
      · simpa only [Nat.mul_zero, powerUnits_zero] using le
      · rw [powerUnits_even acc base pos]
        exact powerUnits_mono _ k le
    · -- the carry goes on to the next bit
      rw [powerUnits_odd, show 2 * k + 1 + 1 = 2 * (k + 1) by omega,
        powerUnits_even unitsPerOne base k.succ_pos]
      exact ih k (by omega) (mulUnits_mono le le_rfl) square

/-- **The powers of a representable value of at least one do not fall.** -/
theorem monotone_powerUnits {base : Nat} (h : Representable base) (le : unitsPerOne ≤ base) :
    Monotone (powerUnits unitsPerOne base) :=
  monotone_nat_of_le_succ (powerUnits_le_succ le h)

theorem unitsPerOne_le_powerUnits {base : Nat} (h : Representable base)
    (le : unitsPerOne ≤ base) (n : Nat) : unitsPerOne ≤ powerUnits unitsPerOne base n :=
  (powerUnits_zero unitsPerOne base).symm.trans_le (monotone_powerUnits h le n.zero_le)

/-! ### Regular values -/

/-- **A regular value** is one that rounding can give. -/
inductive Regular : Binary64 → Prop
  | rounded (negative : Bool) (num den : Nat) (pos : 0 < den) :
      Regular (ofUnitRatio negative num den)
  | zero (negative : Bool) : Regular (.finite negative 0)
  | infinity (negative : Bool) : Regular (.infinity negative)
  | nan (negative : Bool) : Regular (.nan negative)

theorem regular_ofNat (n : Nat) : Regular (ofNat n) := .rounded false _ 1 (by decide)

theorem regular_ofDecimal (negative : Bool) (digits count : Nat) (exponent : Int) :
    Regular (ofDecimal negative digits count exponent) := by
  unfold ofDecimal
  split
  · exact .zero negative
  split
  · exact .zero negative
  split
  · exact .infinity negative
  · generalize digits * Nat.pow 10 exponent.toNat * unitsPerOne = num
    have pos : 0 < Nat.pow 10 (-exponent).toNat := Nat.pow_pos (by decide)
    generalize Nat.pow 10 (-exponent).toNat = den at pos
    exact .rounded negative num den pos

theorem regular_readWord {negative : Bool} {cs : List Char} {x : Binary64}
    (read : readWord negative cs = some x) : Regular x := by
  unfold readWord at read
  split at read
  · cases read
    exact .infinity negative
  · cases read
    exact .infinity negative
  · cases read
    exact .nan negative
  · cases read

theorem regular_readMagnitude {negative : Bool} {cs : List Char} {x : Binary64}
    (read : readMagnitude negative cs = some x) : Regular x := by
  unfold readMagnitude at read
  extract_lets whole rest at read
  split at read
  extract_lets ds at read
  rcases ite_eq_iff.1 read with ⟨-, eq⟩ | ⟨-, eq⟩
  · cases eq
  · obtain ⟨exponent, -, rfl⟩ := Option.map_eq_some_iff.1 eq
    exact regular_ofDecimal ..

/-- **What is read is regular.** -/
theorem regular_of_ofText? {text : String} {x : Binary64} (read : ofText? text = some x) :
    Regular x := by
  unfold ofText? at read
  rcases Option.or_eq_some_iff.1 read with word | ⟨-, magnitude⟩
  · exact regular_readWord word
  · exact regular_readMagnitude magnitude

/-- A regular finite value has a representable number of units. -/
theorem Regular.representable {negative : Bool} {u : Nat} (h : Regular (.finite negative u)) :
    Representable u ∧ u < unitsLimit := by
  generalize eq : Binary64.finite negative u = x at h
  cases h with
  | zero =>
    cases eq
    exact ⟨Nat.dvd_zero _, unitsPerOne_pos.trans unitsPerOne_lt⟩
  | infinity | nan => cases eq
  | rounded sign num den pos =>
    have representable := representable_roundUnits pos num
    refine (Nat.lt_or_ge (roundUnits num den) unitsLimit).elim (fun small => ?_) fun large => ?_
    · rw [ofUnitRatio_of_lt sign small] at eq
      cases eq
      exact ⟨representable, small⟩
    · rw [ofUnitRatio_of_le sign large] at eq
      cases eq

/-- **A regular finite value that is not less than one** goes by its units. -/
theorem Regular.exists_units {x : Binary64} (h : Regular x) (finite : x.isFinite = true)
    (least : x.less one = false) :
    ∃ u, unitsPerOne ≤ u ∧ Representable u ∧ u < unitsLimit ∧ x.maximum one = ofUnits u := by
  cases x with
  | nan | infinity => cases finite
  | finite negative units =>
    obtain ⟨representable, small⟩ := h.representable
    have pos := unitsPerOne_pos
    have least : ¬(if negative then -(units : Int) else units) < unitsPerOne := by
      rw [one, less_finite, if_neg Bool.false_ne_true] at least
      exact of_decide_eq_false least
    cases negative with
    | true =>
      rw [if_pos rfl] at least
      omega
    | false =>
      have le : unitsPerOne ≤ units := by
        rw [if_neg Bool.false_ne_true] at least
        omega
      refine ⟨units, le, representable, small, ?_⟩
      rw [← ofUnits_of_lt small, maximum_one le]

end MessageIntake.Binary64
