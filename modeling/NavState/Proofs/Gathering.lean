import NavState.Metric.Standard
import NavState.Proofs.Reserved

namespace NavState

/-!
# What the library at hand gathers

Families of one name are joined, families without rows are left out, and both
families and rows are sorted.  So what is shown under a name is what was collected
under it, in some order.

A reading is the nearest number in floating point.  It is the number itself if
the significand holds it, as it does for all numbers up to two to the power of 53.
-/

/-! ## Rounding -/

namespace Number

theorem roundQuotient_one (value : Nat) : roundQuotient value 1 = value := by
  simp [roundQuotient, Nat.mod_one]

namespace Binary64

/-- The exponent of a natural puts its leading bit first. -/
theorem exponentOf_one
    {value : Nat}
    (positive : value ≠ 0)
    (small : value.log2 ≤ 52) :
    exponentOf value 1 = -((52 - value.log2 : Nat) : Int) := by
  have leading : 1 <<< value.log2 ≤ value := by
    rw [Nat.one_shiftLeft]
    exact Nat.log2_self_le positive
  have none : Nat.log2 1 = 0 := by decide
  have bound :
      (value.log2 : Int) - ((0 : Nat) : Int) - ((53 : Nat) : Int) +
          ((53 : Nat) : Int) =
        value.log2 := by
    omega
  simp only [exponentOf, precision, leastExponent, none, bound, Int.natCast_nonneg,
    if_true, Int.toNat_natCast, leading]
  omega

/-- Small naturals are not rounded. -/
theorem ofRatio?_one
    {value : Nat}
    (positive : value ≠ 0)
    (small : value < 9007199254740992) :
    ∃ shift : Nat,
      ofRatio? value 1 = some ⟨value <<< shift, -(shift : Int)⟩ := by
  have few : value.log2 ≤ 52 := by
    have below : value.log2 < 53 := (Nat.log2_lt positive).mpr small
    omega
  have inside : value <<< (52 - value.log2) < 1 <<< precision := by
    have below : value < 2 ^ (value.log2 + 1) := Nat.lt_log2_self
    have total : 2 ^ (value.log2 + 1) * 2 ^ (52 - value.log2) = 2 ^ 53 := by
      rw [← Nat.pow_add]
      congr 1
      omega
    rw [Nat.shiftLeft_eq, Nat.one_shiftLeft, precision, ← total]
    exact Nat.mul_lt_mul_of_pos_right below (Nat.two_pow_pos _)
  refine ⟨52 - value.log2, ?_⟩
  have rounded :
      (if (0 : Int) ≤ -((52 - value.log2 : Nat) : Int) then
          roundQuotient value
            (1 <<< (-((52 - value.log2 : Nat) : Int)).toNat)
        else
          roundQuotient
            (value <<< (- -((52 - value.log2 : Nat) : Int)).toNat) 1) =
        value <<< (52 - value.log2) := by
    split
    · next none =>
        have zero : 52 - value.log2 = 0 := by omega
        simp [zero, roundQuotient_one]
    · rw [Int.neg_neg, Int.toNat_natCast, roundQuotient_one]
  have bounded : -((52 - value.log2 : Nat) : Int) ≤ greatestExponent := by
    simp only [greatestExponent]
    omega
  simp only [ofRatio?, if_neg positive, exponentOf_one positive few, rounded,
    if_neg (Nat.ne_of_lt inside), if_pos bounded]

end Binary64

end Number

namespace Metric

/-- A reading is exactly some number. -/
def Reading.Says (reading : Reading) (value : Int) : Prop :=
  let ratio := reading.magnitude.toRatio
  (if reading.negative then -(ratio.1 : Int) else ratio.1) = value * ratio.2

/-- Numbers are not rounded as long as 53 bits hold them. -/
theorem Reading.says_ofInt
    {value : Int}
    (small : value.natAbs ≤ 9007199254740992) :
    (Reading.ofInt value).Says value := by
  have magnitude :
      ∃ top bottom : Nat,
        ((Number.Binary64.ofRatio? value.natAbs 1).getD ⟨0, 0⟩).toRatio =
            (top, bottom) ∧
          top = value.natAbs * bottom := by
    rcases Nat.eq_zero_or_pos value.natAbs with zero | positive
    · rw [zero]
      exact ⟨0, _, rfl, (Nat.zero_mul _).symm⟩
    rcases Nat.lt_or_eq_of_le small with below | greatest
    · obtain ⟨shift, rounded⟩ :=
        Number.Binary64.ofRatio?_one (Nat.ne_of_gt positive) below
      rw [rounded, Option.getD_some, Number.Binary64.toRatio]
      split
      · next none =>
          have zero : shift = 0 := by
            have bound : (0 : Int) ≤ -(shift : Int) := none
            omega
          subst zero
          exact ⟨_, _, rfl, by simp⟩
      · refine ⟨_, _, rfl, ?_⟩
        rw [Nat.shiftLeft_eq, Nat.one_shiftLeft, Int.neg_neg, Int.toNat_natCast]
    · rw [greatest]
      exact ⟨9007199254740992, 1, by decide +kernel, rfl⟩
  obtain ⟨top, bottom, ratio, same⟩ := magnitude
  simp only [Says, ofInt, ratio, same]
  rcases Int.natAbs_eq value with positive | negative
  · have sign : ¬value < 0 := by omega
    simp only [decide_eq_true_eq, if_neg sign]
    rw [Int.natCast_mul, ← positive]
  · by_cases sign : value < 0
    · simp only [decide_eq_true_eq, if_pos sign]
      rw [Int.natCast_mul, ← Int.neg_mul, ← negative]
    · have zero : value = 0 := by omega
      subst zero
      simp

/-! ## Families -/

namespace Family

theorem rowsUnder_cons (name : String) (family : Family) (rest : List Family) :
    rowsUnder name (family :: rest) =
      (if family.name = name then family.rows else []) ++ rowsUnder name rest := by
  rw [rowsUnder, List.filter_cons]
  by_cases own : family.name = name <;> simp [own, rowsUnder]

/-- A family that is joined brings its rows. -/
theorem rowsUnder_join (name : String) (family : Family) (known : List Family) :
    (rowsUnder name (join family known)).Perm
      (rowsUnder name known ++ rowsUnder name [family]) := by
  induction known with
  | nil =>
      exact .refl _
  | cons first rest inductionHypothesis =>
      rw [join]
      split
      · next same =>
          have own :
              rowsUnder name [family] =
                if first.name = name then family.rows else [] := by
            rw [rowsUnder_cons, ← same]
            exact List.append_nil _
          rw [rowsUnder_cons, rowsUnder_cons, own]
          by_cases named : first.name = name
          · simp only [if_pos named, List.append_assoc]
            exact List.perm_append_comm.append_left first.rows
          · simp only [if_neg named, List.nil_append, List.append_nil]
            exact .refl _
      · rw [rowsUnder_cons, rowsUnder_cons, List.append_assoc]
        exact inductionHypothesis.append_left _

theorem rowsUnder_joined
    (name : String)
    (families known : List Family) :
    (rowsUnder name
        (families.foldl (fun known family => join family known) known)).Perm
      (rowsUnder name known ++ rowsUnder name families) := by
  induction families generalizing known with
  | nil =>
      rw [List.foldl_nil]
      exact .of_eq (List.append_nil _).symm
  | cons family rest inductionHypothesis =>
      have added :=
        (rowsUnder_join name family known).append_right (rowsUnder name rest)
      refine (inductionHypothesis (join family known)).trans (added.trans (.of_eq ?_))
      rw [List.append_assoc, rowsUnder_cons name family rest, rowsUnder_cons]
      simp [rowsUnder]

/-- Families without rows make no difference. -/
theorem rowsUnder_inhabited (name : String) (families : List Family) :
    rowsUnder name (families.filter fun family => !family.rows.isEmpty) =
      rowsUnder name families := by
  induction families with
  | nil =>
      rfl
  | cons family rest inductionHypothesis =>
      rw [List.filter_cons]
      split
      · rw [rowsUnder_cons, rowsUnder_cons, inductionHypothesis]
      · next empty =>
          have nothing : family.rows = [] := by simpa using empty
          rw [rowsUnder_cons, nothing, ite_self, List.nil_append, inductionHypothesis]

/-- Rows that are sorted are the same rows. -/
theorem rowsUnder_sorted (name : String) (families : List Family) :
    (rowsUnder name
        (families.map fun family =>
          { family with rows := family.rows.mergeSort Row.le })).Perm
      (rowsUnder name families) := by
  induction families with
  | nil =>
      exact .refl _
  | cons family rest inductionHypothesis =>
      rw [List.map_cons, rowsUnder_cons, rowsUnder_cons]
      refine List.Perm.append ?_ inductionHypothesis
      by_cases named : family.name = name
      · simp only [if_pos named]
        exact List.mergeSort_perm _ _
      · simp only [if_neg named]
        exact .refl _

/-- What is shown under a name is what was collected under it. -/
theorem rowsUnder_gather (name : String) (families : List Family) :
    (rowsUnder name (gather families)).Perm (rowsUnder name families) := by
  let inhabited := families.filter fun family => !family.rows.isEmpty
  let joined := inhabited.foldl (fun known family => join family known) []
  have joins : (rowsUnder name joined).Perm (rowsUnder name families) := by
    refine (rowsUnder_joined name inhabited []).trans (.of_eq ?_)
    rw [rowsUnder_inhabited]
    exact List.nil_append _
  refine List.Perm.trans ?_ ((rowsUnder_sorted name joined).trans joins)
  exact ((List.mergeSort_perm _ _).filter _).flatMap_right _

end Family

/-- The library at hand shows what was collected. -/
theorem Library.shows_standard : Library.standard.Shows where
  rows := fun families name => Family.rowsUnder_gather name families

end Metric

end NavState
