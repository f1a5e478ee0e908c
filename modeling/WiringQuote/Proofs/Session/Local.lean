import WiringQuote.Proofs.Session.Edits

/-!
# Figures of single rows

A price, a markup or hours that a user sets for a row enter no product, no quantity and no device: they
are laid over the rows once these are resolved. So setting one of them moves nothing else, although all
rows are resolved anew.

* `Overlays.withFigure`: what setting a figure does to the overlay.
* `Overlay.WithFigure.revise`, `Overlay.WithFigure.valueRow`: what that does to rows.
* `figure_local`: in a session that shows its store, only the figure of the row changes.
-/

namespace WiringQuote

open Fallible

/-- A figure that a user may set for a row. -/
inductive Figure where
  | price
  | markup
  | hours (role : Role)

/-- The write sets or takes back a figure of a row. Taking back a markup is setting it to nothing. -/
def Write.setsFigure : Write → Bool
  | .setPrice _ _ | .setMarkup _ _ | .setHours _ _ _ => true
  | _ => false

/-- The write sets this figure of the row with this id, or takes it back. -/
inductive Write.SetsFigure (id : String) : Figure → Option Float → Write → Prop
  | price (value : Value) :
      SetsFigure id .price (Override.cleaned Override.price value) (.setPrice (.str id) value)
  | markup (value : Value) :
      SetsFigure id .markup (Override.cleaned Override.markup value) (.setMarkup (.str id) value)
  | hours {name : Value} {role : Role} (value : Value) : Override.role name = .ok role →
      SetsFigure id (.hours role) (Override.cleaned Override.hours value)
        (.setHours (.str id) name value)

theorem Write.SetsFigure.setsRow {id : String} {figure : Figure} {x : Option Float} {w : Write}
    (sets : w.SetsFigure id figure x) : w.SetsRow id := by
  cases sets with
  | price value => exact .price value
  | markup value => exact .markup value
  | hours value _ => exact .hours _ value

/-- The row with a figure set, or without it. Hours that are set are the hours of that role; without
them the role has those of the product again. -/
inductive LineItem.WithFigure (row : LineItem) : Figure → Option Float → LineItem → Prop
  | price (x : Option Float) : WithFigure row .price x { row with localPrice := x.map .float }
  | markup (x : Option Float) : WithFigure row .markup x { row with localMarkup := x.map .float }
  | hours {role : Role} {x : Option Float} {total : Float} : (∀ set, x = some set → total = set) →
      WithFigure row (.hours role) x { row with
        manualHours := row.manualHours.set role x
        hoursTotal := row.hoursTotal.set role total }

/-- A row with the id has the figure set, or is without it; any other row is the same. -/
def LineItem.WithFigureAt (id : String) (figure : Figure) (x : Option Float) (row next : LineItem) :
    Prop :=
  if row.id = id then row.WithFigure figure x next else next = row

namespace Overlay

/-- The overlay with a figure of a row set, or without it: no entry of another row and none of another
kind is different. -/
inductive WithFigure (overlay : Overlay) (id : String) :
    Figure → Option Float → Overlay → Prop
  | price {prices : OrderedMap String Float} : prices.erase id = overlay.prices.erase id →
      WithFigure overlay id .price (prices.get? id) { overlay with prices }
  | markup {markups : OrderedMap String Float} : markups.erase id = overlay.markups.erase id →
      WithFigure overlay id .markup (markups.get? id) { overlay with markups }
  | hours {role : Role} {x : Option Float} {hours : OrderedMap String (PerRole (Option Float))} :
      hours.erase id = overlay.hours.erase id →
      (hours.get? id).getD (.const none) =
        ((overlay.hours.get? id).getD (.const none)).set role x →
      WithFigure overlay id (.hours role) x { overlay with hours }

end Overlay

theorem Session.setHours_own (entries : OrderedMap String (PerRole (Option Float))) (id : String)
    (hours : PerRole (Option Float)) :
    ((setHours entries id hours).get? id).getD (.const none) = hours := by
  unfold setHours
  split
  · rename_i nothing
    simp [OrderedMap.erase, nothing]
  · rw [OrderedMap.get?_insert, if_pos rfl, Option.getD_some]

/-- What setting a figure does to the overlay. -/
theorem Overlays.withFigure {before after : Overlay} {w : Write} (overlays : Overlays before w after)
    (isFigure : w.setsFigure = true) : ∃ id figure x, w.SetsFigure id figure x ∧
      before.WithFigure id figure x after := by
  cases overlays with
  | @setPrice id value prices set =>
    have own : prices.get? id = Override.cleaned Override.price value := by
      simpa using Setting.setEntry_get? set id
    exact ⟨id, .price, _, .price value, own ▸ .price (Session.setEntry_filterKeys set _ (by simp))⟩
  | @setMarkup id value markups set =>
    have own : markups.get? id = Override.cleaned Override.markup value := by
      simpa using Setting.setEntry_get? set id
    exact ⟨id, .markup, _, .markup value, own ▸ .markup (Session.setEntry_filterKeys set _ (by simp))⟩
  | @setHours id name role value named =>
    exact ⟨id, .hours role, _, .hours value named,
      .hours (Session.setHours_filterKeys _ _ _ (by simp)) (Session.setHours_own _ _ _)⟩
  | _ => cases isFigure

theorem Overlay.withManual_set (manual : PerRole (Option Float)) (hours : PerRole Float) (role : Role)
    (x : Option Float) : withManual (manual.set role x) hours =
      (withManual manual hours).set role (x.getD (hours.get role)) := by
  unfold withManual PerRole.zipWith PerRole.set
  refine congrArg PerRole.ofFn (funext fun other => ?_)
  by_cases same : other = role <;> simp [same]

namespace Overlay.WithFigure

variable {before after : Overlay} {id : String} {figure : Figure} {x : Option Float}
  (changes : before.WithFigure id figure x after)

include changes

/-- No figure enters the revision of rows. -/
theorem revise (catalog : Catalog) (location : Option String) :
    after.revise catalog location = before.revise catalog location := by
  cases changes <;> rfl

/-- The row itself gets the figure, and other rows stay as they are. -/
theorem valueRow (item : LineItem) :
    LineItem.WithFigureAt id figure x (before.valueRow item) (after.valueRow item) := by
  unfold LineItem.WithFigureAt
  split
  · rename_i own
    obtain rfl : item.id = id := own
    cases changes with
    | price => exact .price _
    | markup => exact .markup _
    | @hours role x hours _ set =>
      have shown : ({ before with hours } : Overlay).valueRow item = { before.valueRow item with
          manualHours := (before.valueRow item).manualHours.set role x
          hoursTotal := (before.valueRow item).hoursTotal.set role
            (x.getD (item.hoursTotal.get role)) } := by
        unfold Overlay.valueRow
        dsimp only
        rw [set, withManual_set]
      rw [shown]
      exact .hours fun h same => by rw [same, Option.getD_some]
  · rename_i other
    have apart : item.id ≠ id := other
    unfold Overlay.valueRow
    cases changes with
    | price others | markup others | hours others =>
      dsimp only
      rw [OrderedMap.get?_of_erase others apart]

end Overlay.WithFigure

namespace Session

/-- In the second session a figure of a row is set, or taken back, and all else is as in the first. -/
structure WithFigure (id : String) (figure : Figure) (x : Option Float) (s t : Session) : Prop where
  items : List.Forall₂ (LineItem.WithFigureAt id figure x) s.display.items t.display.items
  protection :
    List.Forall₂ (LineItem.WithFigureAt id figure x) s.display.protection t.display.protection
  diagnostics : t.display.diagnostics = s.display.diagnostics
  reference : t.reference = s.reference
  location : t.store.location = s.store.location
  rates : t.store.rateDiagnostics = s.store.rateDiagnostics
  globals : t.store.globals = s.store.globals
  instances : t.store.instances = s.store.instances
  wages : t.store.wages = s.store.wages
  overlay : s.store.overlay.WithFigure id figure x t.store.overlay

variable {start s t : Session} {id : String} {w : Write}

/-- A write to a row that is carried out shows the store with another overlay. -/
theorem setsRow_ok (distinct : s.store.overlay.removed.Nodup) {tag : String} (sets : w.SetsRow id)
    (done : s.write tag w = (.ok (), t)) :
    (s.overlaid t.store.overlay).display s.reference = .ok t.display ∧
      t = { s with store := s.overlaid t.store.overlay, display := t.display } := by
  obtain ⟨plan, written, only⟩ := planRow_setsOnly distinct sets tag
  rw [written] at done
  obtain ⟨store, planned, shows, same⟩ := carryOut_ok done
  obtain ⟨overlay, rfl, _⟩ := only store planned
  rw [same]
  exact ⟨shows, rfl⟩

/-- Setting a figure where the store is shown. -/
theorem withFigure_of_fresh (fresh : s.store.display s.reference = .ok s.display)
    {overlay : Overlay} {display : Display} {figure : Figure} {x : Option Float}
    (changes : s.store.overlay.WithFigure id figure x overlay)
    (shows : (s.overlaid overlay).display s.reference = .ok display) :
    WithFigure id figure x s { s with store := s.overlaid overlay, display } := by
  unfold Store.display at fresh shows
  obtain ⟨result, resolved, same⟩ := bind_ok_iff.1 fresh
  obtain ⟨again, resolvedAgain, sameAgain⟩ := bind_ok_iff.1 shows
  -- Both are shown from the same rows, since nothing that these are resolved from is different.
  have alike : again = result := by
    have revise := changes.revise s.reference.catalog (s.store.configuration s.reference).location
    refine Except.ok.inj (resolvedAgain.symm.trans ?_)
    show Configuration.resolve s.reference.catalog
      (overlay.revise s.reference.catalog (s.store.configuration s.reference).location)
      (s.store.configuration s.reference) = .ok result
    rw [revise]
    exact resolved
  subst alike
  have rows : ∀ items : List LineItem, List.Forall₂ (LineItem.WithFigureAt id figure x)
      (items.map s.store.overlay.valueRow) (items.map overlay.valueRow) := by
    intro items
    rw [List.forall₂_map_left_iff, List.forall₂_map_right_iff, List.forall₂_same]
    exact fun item _ => changes.valueRow item
  have shown := Except.ok.inj same
  have shownAgain := Except.ok.inj sameAgain
  exact {
    items := by rw [← shown, ← shownAgain]; exact rows again.items
    protection := by rw [← shown, ← shownAgain]; exact rows again.protection
    diagnostics := by rw [← shown, ← shownAgain]; rfl
    reference := rfl
    location := rfl
    rates := rfl
    globals := rfl
    instances := rfl
    wages := rfl
    overlay := changes }

/-- After settled writes, setting or taking back a price, a markup or hours that is carried out changes
that figure of the row, in what is shown and in the overlay, and nothing else. -/
theorem figure_local {source : Source} {asked : Value} {tag : String}
    (loaded : Session.load source asked = .ok start) (run : Run settled start s)
    (isFigure : w.setsFigure = true) (done : s.write tag w = (.ok (), t)) :
    ∃ id figure x, w.SetsFigure id figure x ∧ WithFigure id figure x s t := by
  have overlays : Overlays s.store.overlay w t.store.overlay := by
    have carried := write_overlays (congrArg Prod.fst done)
    rwa [done] at carried
  obtain ⟨id, figure, x, sets, changes⟩ := overlays.withFigure isFigure
  obtain ⟨shows, same⟩ := setsRow_ok (run_valid loaded run).2.overlay.removed sets.setsRow done
  exact ⟨id, figure, x, sets, same ▸ withFigure_of_fresh (run_fresh loaded run) changes shows⟩

/-- Hours of a master for the larger of two enclosures. -/
def boardHours : Write := .setHours (.str "1-00000001-UV-24") (.str "meister") (.str "1,25")

theorem boardHours_done : (Session.load twoEnclosures .null).toOption.map (fun start =>
    let s := start.after selection
    (start.settles selection, (s.write "" boardHours).1.isOk,
      (s.write "" boardHours).2.rows.map fun row => (row.id, row.manualHours.meister))) =
    some (true, true, [("1-00000001-SKT", none), ("1-00000001-UV-24", some 1.25),
      ("1-00000001-UV-12", none), ("schutzorgane-MCB16", none)]) := by decide +kernel

/-- They are set for that row, and nothing else is different. -/
theorem boardHours_local : ∃ start s t, Session.load twoEnclosures .null = .ok start ∧
    Run settled start s ∧ boardHours.setsFigure = true ∧ s.write "" boardHours = (.ok (), t) ∧
    t.rows.map (·.id) =
      ["1-00000001-SKT", "1-00000001-UV-24", "1-00000001-UV-12", "schutzorgane-MCB16"] ∧
    WithFigure "1-00000001-UV-24" (.hours .meister) (some 1.25) s t := by
  obtain ⟨start, loaded, facts⟩ := toOption_map_eq_some_iff.1 boardHours_done
  obtain ⟨settles, facts⟩ := Prod.mk.inj facts
  obtain ⟨done, rows⟩ := Prod.mk.inj facts
  obtain ⟨t, done⟩ := done_of_isOk done
  have run := run_selection settles
  have ids := congrArg (List.map Prod.fst) rows
  rw [List.map_map, done] at ids
  have value : Override.cleaned Override.hours (.str "1,25") = some 1.25 := by decide +kernel
  obtain ⟨_, _, _, sets, changes⟩ := figure_local loaded run (w := boardHours) rfl done
  obtain ⟨role, named, own⟩ : ∃ role, Override.role (.str "meister") = .ok role ∧
      WithFigure "1-00000001-UV-24" (.hours role)
        (Override.cleaned Override.hours (.str "1,25")) _ t := by
    cases sets with
    | hours _ named => exact ⟨_, named, changes⟩
  have role : role = .meister := Except.ok.inj (named.symm.trans (by rfl))
  rw [value, role] at own
  exact ⟨start, _, t, loaded, run, rfl, done, ids, own⟩

end Session

end WiringQuote
