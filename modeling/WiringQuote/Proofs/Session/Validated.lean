import WiringQuote.Proofs.Catalog.Kinds
import WiringQuote.Proofs.Session.Answered
import WiringQuote.Proofs.Session.Fresh

/-!
# Values at the boundary

Every value that a user enters is checked before it is stored: a parameter by its definition, a setting
by its bounds. A check stores a value that is fit or refuses, and a write hands the refusal on as that of
a parameter or of a setting.

* `Refuses`: the check of a write does not accept its value.
* `write_of_refuses`: what the write answers then.
* `validators_check`: what each check answers, and for which values it fails.
* `vastNumber_overflows`: a number for which neither does.
-/

namespace WiringQuote

open Decimal Fallible

/-- The two refusals of a value that is entered. -/
def SessionFault.isInvalid : SessionFault → Bool
  | .parameter _ | .override _ => true
  | _ => false

namespace SessionFault

theorem isInvalid_ofParameter {fault : ParameterFault} (refusal : fault.IsRefusal) :
    (ofParameter fault).isInvalid = true := by
  cases fault with
  | arithmetic reason => exact absurd rfl (refusal reason)
  | _ => rfl

theorem isInvalid_ofOverride {fault : OverrideFault} (refusal : fault.IsRefusal) :
    (ofOverride fault).isInvalid = true := by
  cases fault with
  | arithmetic reason => exact absurd rfl (refusal reason)
  | _ => rfl

end SessionFault

namespace Session

open Override

variable {s : Session} {value : Value} {w : Write} {fault : SessionFault}

/-! ## Writes whose value is not accepted -/

/-- What is written to is known, and the check of the value ends in a fault. A blank value takes back
what was set, where there may be nothing. -/
inductive Refuses (s : Session) (value : Value) : Write → SessionFault → Prop
  | globalValue {key : String} {fault : ParameterFault} :
      s.catalog.coerceGlobal key value = .error fault →
      Refuses s value (.setGlobal (.str key) value) (.ofParameter fault)
  | localValue {id key : String} {selection : Selection} {fault : ParameterFault} :
      s.store.instances.get? id = some selection →
      s.catalog.coerceLocal selection.packageId key value = .error fault →
      Refuses s value (.setLocal (.str id) (.str key) value) (.ofParameter fault)
  | price {itemId : Value} {item : LineItem} {fault : OverrideFault} :
      s.findRow itemId = .ok item → isBlank value = false → Override.price value = .error fault →
      Refuses s value (.setPrice itemId value) (.ofOverride fault)
  | markup {itemId : Value} {item : LineItem} {fault : OverrideFault} :
      s.findRow itemId = .ok item → isBlank value = false → Override.markup value = .error fault →
      Refuses s value (.setMarkup itemId value) (.ofOverride fault)
  | hours {itemId roleName : Value} {role : Role} {item : LineItem} {fault : OverrideFault} :
      Override.role roleName = .ok role → s.findRow itemId = .ok item → isBlank value = false →
      Override.hours value = .error fault →
      Refuses s value (.setHours itemId roleName value) (.ofOverride fault)
  | quantity {itemId : Value} {fault : OverrideFault} : Override.quantity value = .error fault →
      Refuses s value (.setQuantity itemId value) (.ofOverride fault)
  | wage {roleName : Value} {role : Role} {fault : OverrideFault} :
      Override.role roleName = .ok role → isBlank value = false →
      Override.wage value = .error fault →
      Refuses s value (.setWage roleName value) (.ofOverride fault)

theorem setEntry_error {α : Type} {entries : OrderedMap String α} {itemId : String}
    {clean : Value → Except OverrideFault α} {fault : OverrideFault}
    (given : isBlank value = false) (fails : clean value = .error fault) :
    setEntry entries itemId clean value = .error (.ofOverride fault) := by
  unfold setEntry
  rw [given, fails]
  rfl

theorem carryOut_error {plan : Except SessionFault Store} (fails : plan = .error fault) :
    s.carryOut plan = (.error fault, s) := by
  rw [fails]
  rfl

/-- The write answers with the fault of the check and changes nothing. -/
theorem write_of_refuses (refuses : s.Refuses value w fault) (tag : String) :
    s.write tag w = (.error fault, s) := by
  rw [write_eq]
  cases refuses with
  | globalValue fails =>
    refine carryOut_error (bind_error_iff.2 (.inl ?_))
    refine bind_error_iff.2 (.inr ⟨_, rfl, bind_error_iff.2 (.inl ?_)⟩)
    rw [fails]
    rfl
  | @localValue id key selection _ selected fails =>
    have known : s.instanceKey (.str id) = .ok id := by
      refine bind_ok_iff.2 ⟨_, rfl, ?_⟩
      rw [if_pos (OrderedMap.contains_iff.2 (OrderedMap.mem_keys_iff.2 ⟨_, selected⟩))]
      rfl
    have found : s.selectionAt (.str id) = .ok (id, selection) := by
      refine bind_ok_iff.2 ⟨_, known, ?_⟩
      rw [selected]
      rfl
    refine carryOut_error (bind_error_iff.2 (.inr ⟨_, found, ?_⟩))
    refine bind_error_iff.2 (.inl (bind_error_iff.2 (.inl ?_)))
    rw [fails]
    rfl
  | price found given fails =>
    exact carryOut_error (bind_error_iff.2 (.inr ⟨_, found,
      bind_error_iff.2 (.inl (setEntry_error given fails))⟩))
  | markup found given fails =>
    exact carryOut_error (bind_error_iff.2 (.inr ⟨_, found,
      bind_error_iff.2 (.inl (setEntry_error given fails))⟩))
  | hours known found given fails =>
    refine carryOut_error ?_
    unfold planHours
    rw [known, found, given, fails]
    rfl
  | quantity fails =>
    refine carryOut_error ?_
    unfold planQuantity
    rw [fails]
    rfl
  | @wage roleName _ _ known given fails =>
    show s.keep (s.planWage roleName value) = _
    unfold planWage
    rw [known, given, fails]
    rfl

/-- A value in range that is not accepted is refused as invalid. -/
theorem isInvalid_of_refuses (refuses : s.Refuses value w fault) (inRange : value.InRange) :
    fault.isInvalid = true := by
  have settings : ∀ {α : Type} {clean : Value → Except OverrideFault α} {what within fit fault},
      Checks clean what within fit → clean value = .error fault →
      (SessionFault.ofOverride fault).isInvalid = true := by
    intro α clean what within fit fault checks fails
    exact SessionFault.isInvalid_ofOverride
      ((answers_iff.1 (checks.answers value inRange)).2 fault fails)
  cases refuses with
  | globalValue fails =>
    refine SessionFault.isInvalid_ofParameter fun reason same => ?_
    exact Catalog.coerceGlobal_inRange inRange _ (same ▸ fails)
  | localValue _ fails =>
    refine SessionFault.isInvalid_ofParameter fun reason same => ?_
    exact Catalog.coerceLocal_inRange inRange _ _ (same ▸ fails)
  | price _ _ fails => exact settings (amount_checks _) fails
  | markup _ _ fails => exact settings markup_checks fails
  | hours _ _ _ fails => exact settings (amount_checks _) fails
  | quantity fails => exact settings quantity_checks fails
  | wage _ _ fails => exact settings (amount_checks _) fails

/-! ## All checks -/

/-- Each check answers with a fit value or a refusal, but fails where it has to convert a whole number
that binary64 does not reach: the check of a setting always does, that of a parameter if it is one for
numbers. It accepts what is within its bounds. What it does not accept, its write refuses and changes
nothing, as invalid if the value is in range. -/
theorem validators_check (definition : ParameterDefinition) (what : String) (s : Session)
    (value : Value) :
    definition.Checks ∧
    Checks (number what) what (fun x => x.isFinite = true) (fun x => x.isFinite = true) ∧
    (∀ x : Float, x.isFinite = true → number what (.float x) = .ok x) ∧
    Checks Override.price "Purchase price" BoundedAmount BoundedAmount ∧
    Checks Override.hours "Hours" BoundedAmount BoundedAmount ∧
    Checks Override.wage "Wage" BoundedAmount BoundedAmount ∧
    Checks Override.markup "Markup" BoundedMarkup BoundedMarkup ∧
    Checks Override.quantity "Quantity" WholeUnits BoundedQuantity ∧
    ∀ (w : Write) (fault : SessionFault), s.Refuses value w fault →
      (∀ tag, s.write tag w = (.error fault, s)) ∧ (value.InRange → fault.isInvalid = true) :=
  ⟨definition.checks, number_checks what, fun _ finite => number_float finite what,
    amount_checks _, amount_checks _, amount_checks _, markup_checks, quantity_checks,
    fun _ _ refuses => ⟨write_of_refuses refuses, isInvalid_of_refuses refuses⟩⟩

/-- The size of a room, a number. -/
def roomSize : ParameterDefinition where
  key := "raumgroesse"
  label := "Raum"
  kind := .number
  unit := none
  default := none
  isGlobal := false
  labelTrue := none
  labelFalse := none
  options := []

theorem load_twoLocations : ∃ start, Session.load twoLocations .null = .ok start := by
  have loads : (Session.load twoLocations .null).isOk = true := by decide +kernel
  exact isOk_iff.1 loads

theorem geselle_known : Override.role (.str "geselle") = .ok .geselle := rfl

theorem twenty_refused : Override.wage (.str "twenty") = .error (.notNumber "Wage" (.str "twenty")) := by
  have unread : (readFloat? (Text.commaToPoint (Text.trim "twenty"))).isNone = true := by
    decide +kernel
  refine bind_error_iff.2 (.inl ?_)
  unfold number written?
  dsimp only
  rw [Option.isNone_iff_eq_none.1 unread]

/-- No number is written, so the wage is refused. -/
theorem wordWage_refused : ∃ start, Session.load twoLocations .null = .ok start ∧
    (Value.str "twenty").InRange ∧
    start.Refuses (.str "twenty") (.setWage (.str "geselle") (.str "twenty"))
      (.override (.notNumber "Wage" (.str "twenty"))) ∧
    start.write "" (.setWage (.str "geselle") (.str "twenty")) =
      (.error (.override (.notNumber "Wage" (.str "twenty"))), start) ∧
    (SessionFault.override (.notNumber "Wage" (.str "twenty"))).isInvalid = true := by
  obtain ⟨start, loaded⟩ := load_twoLocations
  have inRange : (Value.str "twenty").InRange := Value.inRange_of_ne fun _ same => (by cases same)
  have refuses : start.Refuses (.str "twenty") (.setWage (.str "geselle") (.str "twenty"))
      (SessionFault.ofOverride (.notNumber "Wage" (.str "twenty"))) :=
    .wage geselle_known rfl twenty_refused
  obtain ⟨_, _, _, _, _, _, _, _, writes⟩ :=
    validators_check roomSize "Wage" start (.str "twenty")
  obtain ⟨answers, invalid⟩ := writes _ _ refuses
  exact ⟨start, loaded, inRange, refuses, answers "", invalid inRange⟩

/-! ## A number that is not refused -/

theorem vastNumber_beyond : ¬ (Value.int (10 ^ 400)).InRange := by
  intro inRange
  have unreached : (ofInt (10 ^ 400)).isOk = false := by decide +kernel
  rw [isOk_iff.2 (inRange _ rfl)] at unreached
  cases unreached

/-- A number that no parameter can hold and no setting can be is not refused: its conversion fails. -/
theorem vastNumber_overflows :
    roomSize.coerce (.int (10 ^ 400)) = .error (.arithmetic .beyondRange) ∧
      Override.price (.int (10 ^ 400)) = .error (.arithmetic .beyondRange) ∧
      ∃ start, Session.load twoLocations .null = .ok start ∧
        start.write "" (.setWage (.str "geselle") (.int (10 ^ 400))) =
          (.error (.arithmetic .beyondRange), start) := by
  have read : ∀ what, number what (.int (10 ^ 400)) = .error (.arithmetic .beyondRange) :=
    number_beyondRange vastNumber_beyond
  have priced : Override.price (.int (10 ^ 400)) = .error (.arithmetic .beyondRange) :=
    bind_error_iff.2 (.inl (read _))
  have paid : Override.wage (.int (10 ^ 400)) = .error (.arithmetic .beyondRange) :=
    bind_error_iff.2 (.inl (read _))
  obtain ⟨start, loaded⟩ := load_twoLocations
  exact ⟨ParameterDefinition.coerce_beyondRange rfl vastNumber_beyond, priced, start, loaded,
    write_of_refuses (.wage geselle_known rfl paid) ""⟩

end Session

end WiringQuote
