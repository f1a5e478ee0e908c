import WiringQuote.Formula.Evaluate
import WiringQuote.Proofs.Catalog.Kinds
import WiringQuote.Proofs.Decimal.Value

/-!
# Keys of stored values

A parameter may be given one number in many ways: as a whole number, as a number with a point, or as a text
with a decimal point or a decimal comma. It stores each number in one form only, so a table that is looked
up by its text cannot tell these ways apart.

* `number_of_fits`: what a parameter for numbers stores is a number.
* `eq_of_fits`: stored numbers of the same value are the same.
* `coerce_canonical`: coercing twice is coercing once, and numbers of the same value have one key.
-/

namespace WiringQuote

open Decimal

namespace ParameterDefinition

variable {definition : ParameterDefinition} {a b : Number}

theorem number_of_fits {stored : Value} (kind : definition.kind = .number)
    (fits : definition.Fits stored) : ∃ a, stored = .num a := by
  cases fits with
  | boolean b other => cases other.symm.trans kind
  | whole n => exact ⟨.int n, rfl⟩
  | fraction => exact ⟨.float _, rfl⟩
  | option other => cases other.symm.trans kind
  | text t other => cases other.symm.trans kind

/-- No stored fraction has the value of a whole number. -/
theorem value_ne_whole {x : Float} (finite : x.isFinite = true) (fraction : isWhole x = false) (n : ℤ) :
    value x ≠ n := by
  intro same
  rw [(isWhole_iff_value finite).2 ⟨n, same⟩] at fraction
  cases fraction

/-- Stored numbers of the same value are the same. -/
theorem eq_of_fits (first : definition.Fits (.num a)) (second : definition.Fits (.num b))
    (same : a.value = b.value) : a = b := by
  cases first with
  | whole m =>
    cases second with
    | whole n =>
      have equal : (m : ℚ) = n := same
      rw [Int.cast_injective equal]
    | fraction _ finite fraction => exact absurd same.symm (value_ne_whole finite fraction m)
  | @fraction x _ finite fraction =>
    cases second with
    | whole n => exact absurd same (value_ne_whole finite fraction n)
    | @fraction y _ finiteY _ =>
      have some : value x ≠ 0 := by simpa using value_ne_whole finite fraction 0
      rw [eq_of_value finite finiteY some same]

/-- A finite number is stored in its normal form. -/
theorem coerceNumber_of_read {key : String} {value : Value} {x : Float} (read : number? value = some a)
    (reached : a.toFloat = .ok x) (finite : x.isFinite = true) :
    coerceNumber key value = .ok (.num (normalNumber a)) := by
  unfold coerceNumber
  rw [read]
  dsimp only
  rw [reached]
  exact if_pos finite

/-- Four ways to write a number, the last of them with a decimal comma. -/
def twenties : List Value := [.str "20", .int 20, .float 20.0, .str "20,0"]

theorem coerceNumber_twenties (key : String) :
    ∀ value ∈ twenties, coerceNumber key value = .ok (.int 20) := by
  have finite : (20.0 : Float).isFinite = true := by decide +kernel
  have stored : normalNumber (.float 20.0) = .int 20 := by decide +kernel
  have point : number? (.str "20") = some (.float 20.0) := by decide +kernel
  have comma : number? (.str "20,0") = some (.float 20.0) := by decide +kernel
  have reached : (Number.int 20).toFloat = .ok 20.0 :=
    Fallible.toOption_eq_some_iff.1 (by decide +kernel)
  have written : ∀ value, number? value = some (.float 20.0) →
      coerceNumber key value = .ok (.int 20) := by
    intro value read
    rw [coerceNumber_of_read read rfl finite, stored]
    rfl
  intro value listed
  simp only [twenties, List.mem_cons, List.not_mem_nil, or_false] at listed
  rcases listed with rfl | rfl | rfl | rfl
  · exact written _ point
  · exact coerceNumber_of_read rfl reached finite
  · exact written _ rfl
  · exact written _ comma

/-- A value in the form in which a parameter stores it is stored as it is. Whatever two values a parameter
for numbers accepts, if what it stores for them has the same value, then both have one key, and a lookup
adds the same for both; so `20`, written in any way, has one key. -/
theorem coerce_canonical (definition : ParameterDefinition) :
    (∀ value stored, definition.coerce value = .ok stored → definition.coerce stored = .ok stored) ∧
    (definition.kind = .number →
      (∀ value other first second, definition.coerce value = .ok first →
        definition.coerce other = .ok second →
        ∃ a b : Number, first = .num a ∧ second = .num b ∧ (a.value = b.value →
          Formula.lookupKey first = Formula.lookupKey second ∧
          ∀ (env others : Environment) param table totals, env.get? param = some first →
            others.get? param = some second →
            (Formula.Entry.lookup param table).contribution env totals =
              (Formula.Entry.lookup param table).contribution others totals)) ∧
      ∀ value ∈ twenties, definition.coerce value = .ok (.int 20)) := by
  refine ⟨fun value stored coerced => coerce_fixed ⟨value, coerced⟩, fun kind => ⟨?_, ?_⟩⟩
  · intro value other first second coerced coercedOther
    have fits := coerce_fits coerced
    have fitsOther := coerce_fits coercedOther
    obtain ⟨a, rfl⟩ := number_of_fits kind fits
    obtain ⟨b, rfl⟩ := number_of_fits kind fitsOther
    refine ⟨a, b, rfl, rfl, fun same => ?_⟩
    obtain rfl := eq_of_fits fits fitsOther same
    refine ⟨rfl, fun env others param table totals known knownOther => ?_⟩
    unfold Formula.Entry.contribution
    dsimp only
    rw [known, knownOther]
  · intro value written
    unfold coerce
    rw [kind]
    exact coerceNumber_twenties _ value written

/-- The size of a room, which need not be a whole number. -/
def roomSize : ParameterDefinition :=
  ⟨"raumgroesse", "Raumgröße", .number, none, none, false, none, none, []⟩

theorem roomSize_canonical :
    roomSize.coerce (.str "2,50") = .ok (.float 2.5) ∧
    roomSize.coerce (.float 2.5) = .ok (.float 2.5) ∧
    (∀ table, (Formula.Entry.lookup "raumgroesse" table).contribution
        (.ofList [("raumgroesse", .float 2.5)]) none =
      (Formula.Entry.lookup "raumgroesse" table).contribution
        (.ofList [("etage", .int 1), ("raumgroesse", .float 2.5)]) none) ∧
    ∀ value ∈ twenties, roomSize.coerce value = .ok (.int 20) := by
  obtain ⟨fixed, numbers⟩ := coerce_canonical roomSize
  obtain ⟨alike, written⟩ := numbers rfl
  have comma : roomSize.coerce (.str "2,50") = .ok (.float 2.5) := by
    have read : number? (.str "2,50") = some (.float 2.5) := by decide +kernel
    have normal : normalNumber (.float 2.5) = .float 2.5 := by decide +kernel
    show coerceNumber "raumgroesse" (.str "2,50") = _
    rw [coerceNumber_of_read read rfl (by decide +kernel), normal]
    rfl
  have point := fixed _ _ comma
  obtain ⟨a, b, first, second, keys⟩ := alike _ _ _ _ comma point
  cases first
  cases second
  exact ⟨comma, point, fun table => (keys rfl).2 _ _ _ table none rfl rfl, written⟩

end ParameterDefinition

end WiringQuote
