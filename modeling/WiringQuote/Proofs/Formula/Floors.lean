import WiringQuote.Proofs.Decimal.Order
import WiringQuote.Proofs.Formula.Accumulation
import WiringQuote.Proofs.Formula.Shapes

/-!
# Floors

A multiplier is the sum of one and what the lookups and products of a formula contribute, in their order;
then the floors are applied, all at once. A floor is no term of the sum, and where it stands among the terms
does not matter.

* `quantity_none_eq`: without group totals, a quantity is the sum over the lookups and products.
* `multiplier_eq_of_parts`: a multiplier is known from the lookups and products in order and the floors in order.
* `largestFloor_spec`: the largest floor.
* `multiplier_clamped`: the floors clamp the sum.
-/

namespace WiringQuote.Formula

open Decimal Fallible

/-! ## Terms and floors -/

/-- A lookup or a product. -/
def Entry.isTerm : Entry → Bool
  | .lookup _ _ | .product _ _ => true
  | .reference _ _ | .floor _ => false

def Entry.floor? : Entry → Option Float
  | .floor minimum => some minimum
  | _ => none

/-- The lookups and products of a formula, in order. -/
def terms (formula : Formula) : Formula := formula.filter Entry.isTerm

/-- The floors of a formula, in order. -/
def floors (formula : Formula) : List Float := formula.filterMap Entry.floor?

variable {formula other : Formula} {env : Environment}

/-- The floors of a formula that is read are finite. -/
theorem isFinite_of_normal (normal : ∀ entry ∈ formula, entry.Normal) :
    ∀ minimum ∈ formula.floors, minimum.isFinite = true := by
  intro minimum listed
  obtain ⟨entry, present, own⟩ := List.mem_filterMap.1 listed
  cases entry with
  | floor least =>
    cases own
    cases normal _ present with
    | floor finite => exact finite
  | lookup | product | reference => cases own

/-! ## The sum -/

theorem adds_none (entry : Entry) : entry.adds none = entry.isTerm := by
  cases entry <;> rfl

theorem quantity_cons_term {entry : Entry} (isTerm : entry.isTerm = true) (base : Float)
    (rest : Formula) (env : Environment) : quantity base (entry :: rest) env none =
      entry.contribution env none >>= fun term => quantity (base + term) rest env none := by
  unfold quantity
  rw [List.foldlM_cons, if_pos ((adds_none entry).trans isTerm)]
  cases entry.contribution env none <;> rfl

/-- Without group totals, a quantity is the base and the contributions of the lookups and products. -/
theorem quantity_none_eq (base : Float) (formula : Formula) (env : Environment) :
    formula.quantity base env none =
      do return (← formula.terms.mapM (·.contribution env none)).foldl (· + ·) base := by
  induction formula generalizing base with
  | nil => rfl
  | cons entry rest ih =>
    cases isTerm : entry.isTerm with
    | true =>
      have first : terms (entry :: rest) = entry :: terms rest := List.filter_cons_of_pos isTerm
      rw [quantity_cons_term isTerm, first, List.mapM_cons]
      cases entry.contribution env none with
      | error fault => rfl
      | ok term =>
        show quantity (base + term) rest env none = _
        rw [ih]
        cases (terms rest).mapM (·.contribution env none) <;> rfl
    | false =>
      have passed : terms (entry :: rest) = terms rest :=
        List.filter_cons_of_neg (by rw [isTerm]; exact Bool.false_ne_true)
      rw [quantity_cons_passes ((adds_none entry).trans isTerm), passed]
      exact ih base

theorem largestFloor_eq (formula : Formula) : formula.largestFloor =
    formula.floors.foldl (fun largest minimum => some ((largest.map (larger · minimum)).getD minimum))
      none := by
  unfold largestFloor floors
  rw [List.foldl_filterMap]
  refine congrArg (fun step => formula.foldl step none) ?_
  funext largest entry
  cases entry <;> cases largest <;> rfl

/-- A multiplier is known from the lookups and products in order and the floors in order. -/
theorem multiplier_eq_of_parts (sameTerms : other.terms = formula.terms)
    (sameFloors : other.floors = formula.floors) (env : Environment) :
    other.multiplier env = formula.multiplier env := by
  unfold multiplier
  rw [quantity_none_eq, quantity_none_eq, largestFloor_eq, largestFloor_eq, sameTerms, sameFloors]

/-! ## The largest floor -/

variable {x y : Float}

/-- The larger of two numbers is one of them, and both are at most it. -/
theorem larger_spec (xNumber : x.isNaN = false) (yNumber : y.isNaN = false) :
    (larger x y = x ∨ larger x y = y) ∧ x ≤ larger x y ∧ y ≤ larger x y := by
  unfold larger
  split
  · rename_i less
    exact ⟨.inr rfl, le_of_lt less, le_self yNumber⟩
  · rename_i least
    exact ⟨.inl rfl, le_self xNumber, le_of_not_lt xNumber yNumber least⟩

/-- What a search for the largest number finds is listed, and all that is listed is at most that. -/
theorem foldl_larger_spec {rest : List Float} (number : x.isNaN = false)
    (numbers : ∀ y ∈ rest, y.isNaN = false) :
    ∃ z ∈ x :: rest, (∀ y ∈ x :: rest, y ≤ z) ∧ rest.foldl
      (fun largest minimum => some ((largest.map (larger · minimum)).getD minimum)) (some x) = some z := by
  induction rest generalizing x with
  | nil => exact ⟨x, List.mem_cons_self, by simp [le_self number], rfl⟩
  | cons y rest ih =>
    obtain ⟨yNumber, others⟩ := List.forall_mem_cons.1 numbers
    obtain ⟨one, aboveX, aboveY⟩ := larger_spec number yNumber
    have stillNumber : (larger x y).isNaN = false := by
      rcases one with same | same <;> rw [same] <;> assumption
    obtain ⟨z, listed, above, found⟩ := ih stillNumber others
    obtain ⟨aboveLarger, aboveRest⟩ := List.forall_mem_cons.1 above
    refine ⟨z, ?_, ?_, found⟩
    · rcases List.mem_cons.1 listed with rfl | later
      · rcases one with same | same <;> rw [same] <;> simp
      · simp [later]
    · intro w present
      rcases List.mem_cons.1 present with rfl | present
      · exact le_trans aboveX aboveLarger
      rcases List.mem_cons.1 present with rfl | later
      · exact le_trans aboveY aboveLarger
      · exact aboveRest w later

/-- The largest of some floors is one of them, and no floor lies above it. -/
theorem largestFloor_spec (numbers : ∀ minimum ∈ formula.floors, minimum.isNaN = false) :
    (formula.floors = [] ∧ formula.largestFloor = none) ∨
      ∃ x ∈ formula.floors, (∀ minimum ∈ formula.floors, minimum ≤ x) ∧
        formula.largestFloor = some x := by
  rw [largestFloor_eq]
  cases listed : formula.floors with
  | nil => exact .inl ⟨rfl, rfl⟩
  | cons first rest =>
    rw [listed] at numbers
    obtain ⟨number, others⟩ := List.forall_mem_cons.1 numbers
    obtain ⟨x, present, above, found⟩ := foldl_larger_spec number others
    exact .inr ⟨x, present, above, found⟩

/-! ## The clamp -/

/-- The sum of a multiplier: one and the contributions of the lookups and products, in order. -/
def Sums (formula : Formula) (env : Environment) (sum : Float) : Prop :=
  ∃ contributions, formula.terms.mapM (·.contribution env none) = .ok contributions ∧
    contributions.foldl (· + ·) 1.0 = sum

/-- What floors make of a sum:

* `kept`: a sum that lies below no floor stays.
* `raised`: another one becomes a floor.
* `least`: no floor lies above the result, so a raised sum becomes the largest floor. -/
structure Clamps (floors : List Float) (sum result : Float) : Prop where
  kept : (∀ minimum ∈ floors, minimum ≤ sum) → result = sum
  raised : ¬ (∀ minimum ∈ floors, minimum ≤ sum) → result ∈ floors
  least : ∀ minimum ∈ floors, minimum ≤ result

theorem clamps_larger {floors : List Float} {sum : Float} (number : sum.isNaN = false)
    (xNumber : x.isNaN = false) (listed : x ∈ floors) (above : ∀ minimum ∈ floors, minimum ≤ x) :
    Clamps floors sum (larger sum x) where
  kept within := if_neg (not_lt_of_le (within x listed))
  raised exceeded := by
    have less : sum < x := by
      by_contra least
      exact exceeded fun minimum present =>
        le_trans (above minimum present) (le_of_not_lt number xNumber least)
    unfold larger
    rwa [if_pos less]
  least minimum present := le_trans (above minimum present) (larger_spec number xNumber).2.2

/-- A multiplier is known from the lookups and products in order and the floors in order, wherever the
floors stand and whatever is referenced. Unless its sum is undefined, it is this sum if that lies below no
floor, and otherwise the largest floor. -/
theorem multiplier_clamped (finite : ∀ minimum ∈ formula.floors, minimum.isFinite = true)
    {result : Float} (evaluated : formula.multiplier env = .ok result) :
    (∀ other : Formula, other.terms = formula.terms → other.floors = formula.floors →
      other.multiplier env = .ok result) ∧
    ∃ sum, formula.Sums env sum ∧ (sum.isNaN = false → Clamps formula.floors sum result) := by
  refine ⟨fun other sameTerms sameFloors => ?_, ?_⟩
  · rw [multiplier_eq_of_parts sameTerms sameFloors, evaluated]
  · unfold multiplier at evaluated
    obtain ⟨sum, summed, clamped⟩ := bind_ok_iff.1 evaluated
    rw [quantity_none_eq] at summed
    obtain ⟨contributions, each, added⟩ := bind_ok_iff.1 summed
    refine ⟨sum, ⟨contributions, each, pure_ok_iff.1 added⟩, fun number => ?_⟩
    have numbers : ∀ minimum ∈ formula.floors, minimum.isNaN = false := fun minimum listed =>
      isNumber_of_finite (finite minimum listed)
    rcases largestFloor_spec numbers with ⟨none, unfound⟩ | ⟨x, listed, above, found⟩
    · rw [unfound] at clamped
      obtain rfl := pure_ok_iff.1 clamped
      rw [none]
      exact ⟨fun _ => rfl, fun exceeded => absurd (by simp) exceeded, by simp⟩
    · rw [found] at clamped
      obtain rfl := pure_ok_iff.1 clamped
      exact clamps_larger number (numbers x listed) listed above

/-- Hours that fall below both floors, one of which stands before the terms. -/
def raisedHours : Formula :=
  [.floor 0.5, .lookup "etage" [("1", 0.25)], .reference "GRP-SOC-SKT" 2.0,
    .product ["raumgroesse"] (-0.5), .floor 0.9]

def storedHours : Value :=
  .list [.obj [("floor", .float 0.5), ("etage", .obj [("1", .float 0.25)])],
    .obj [("type", .str "group_ref"), ("group_id", .str "GRP-SOC-SKT"), ("factor", .int 2)],
    .obj [("raumgroesse", .float (-0.5)), ("floor", .float 0.9)]]

/-- The same without the reference, and with the floors behind the terms. -/
def movedHours : Formula :=
  [.lookup "etage" [("1", 0.25)], .product ["raumgroesse"] (-0.5), .floor 0.5, .floor 0.9]

def smallRoom : Environment := .ofList [("etage", .int 1), ("raumgroesse", .float 2.0)]

theorem raisedHours_clamped : read Json.usualDepth storedHours = .ok raisedHours ∧
    raisedHours.terms.mapM (·.contribution smallRoom none) = .ok [0.25, -1.0] ∧
    raisedHours.multiplier smallRoom = .ok 0.9 ∧ movedHours.multiplier smallRoom = .ok 0.9 ∧
    Clamps raisedHours.floors 0.25 0.9 := by
  have done : read Json.usualDepth storedHours = .ok raisedHours :=
    toOption_eq_some_iff.1 (by decide +kernel)
  have evaluated : raisedHours.multiplier smallRoom = .ok 0.9 :=
    toOption_eq_some_iff.1 (by decide +kernel)
  obtain ⟨moved, sum, ⟨contributions, each, added⟩, clamps⟩ :=
    multiplier_clamped (isFinite_of_normal (read_normal done)) evaluated
  have known : raisedHours.terms.mapM (·.contribution smallRoom none) = .ok [0.25, -1.0] :=
    toOption_eq_some_iff.1 (by decide +kernel)
  obtain rfl := Except.ok.inj (known.symm.trans each)
  have quarter : sum = 0.25 := added.symm.trans (by decide +kernel)
  have sameTerms : movedHours.terms = raisedHours.terms := by decide +kernel
  have sameFloors : movedHours.floors = raisedHours.floors := by decide +kernel
  subst quarter
  exact ⟨done, known, evaluated, moved movedHours sameTerms sameFloors, clamps (by decide +kernel)⟩

end WiringQuote.Formula
