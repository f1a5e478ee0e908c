import WiringQuote.Proofs.Session.Agreement
import WiringQuote.Proofs.Session.Valid

/-!
# Displays follow stores

As long as no write ends in a fault of arithmetic, a session shows what its store is resolved to, so
its history does not matter:

* `run_fresh`: the display of a reached session is that of its store.
* `location_back`: setting the location back restores the session.
* `settled_fresh`: both, and that sessions whose stores agree show the same and have the same totals.
-/

namespace WiringQuote

open Fallible

/-- A refusal, for a reason that the caller is told. -/
def SessionFault.isRefusal : SessionFault → Bool
  | .parameter _ | .unknownLocation _ | .override _ | .unknownPackage _ | .unknownInstance _
  | .unknownItem _ => true
  | _ => false

namespace Session

/-- Carried out or refused. -/
def isSettled : Except SessionFault Unit → Bool
  | .ok _ => true
  | .error fault => fault.isRefusal

/-- The write was carried out or refused. -/
def settled (_ : Write) (outcome : Except SessionFault Unit) : Prop := isSettled outcome = true

variable {start s : Session}

/-! ## One write -/

/-- A settled write shows its store if the store before was shown. -/
theorem write_fresh (fresh : s.store.display s.reference = .ok s.display) {tag : String}
    {w : Write} (allowed : settled w (s.write tag w).1) :
    (s.write tag w).2.store.display (s.write tag w).2.reference =
      .ok (s.write tag w).2.display := by
  have moves := write_moves s tag w
  generalize s.write tag w = written at moves allowed
  cases moves with
  | refused fault => exact fresh
  | shown shows => exact shows
  | unshown store fault => cases allowed
  | wages wages => exact fresh

/-- The display of a reached session is that of its store. -/
theorem run_fresh {source : Source} {asked : Value} (loaded : Session.load source asked = .ok start)
    (run : Run settled start s) : s.store.display s.reference = .ok s.display :=
  run.keeps (fun s => s.store.display s.reference = .ok s.display) (load_displays loaded)
    fun _ _ _ fresh allowed => write_fresh fresh allowed

/-! ## Locations -/

/-- Setting a location changes nothing else in the store than what was found missing for it. -/
theorem setLocation_store (s : Session) (tag : String) (key : Value) :
    ∃ location rateDiagnostics, (s.write tag (.setLocation key)).2.store =
      { s.store with location, rateDiagnostics } := by
  rw [write_eq]
  show ∃ location rateDiagnostics, (s.carryOut (s.planLocation key)).2.store = _
  cases planned : s.planLocation key with
  | error fault => exact ⟨s.store.location, s.store.rateDiagnostics, rfl⟩
  | ok store =>
    unfold planLocation at planned
    obtain ⟨id, _, same⟩ := bind_ok_iff.1 planned
    cases same
    refine ⟨some id, s.reference.rateDiagnostics (some id), ?_⟩
    unfold carryOut commit
    dsimp only
    split <;> rfl

/-- Setting the location of a shown store leads to the session that shows it. -/
theorem setLocation_shows {t : Session} (fresh : s.store.display s.reference = .ok s.display)
    (reference : t.reference = s.reference) {id : String}
    (known : s.reference.locations.contains id = true)
    (store : { t.store with location := some id }.checkRates s.reference = s.store) (tag : String) :
    t.write tag (.setLocation (.str id)) = (.ok (), s) := by
  have planned : t.planLocation (.str id) = .ok s.store := by
    have found : t.locationKey (.str id) = .ok id := by
      unfold locationKey
      rw [reference]
      exact if_pos known
    unfold planLocation
    rw [found, reference, ← store]
    rfl
  rw [write_eq]
  show t.carryOut (t.planLocation (.str id)) = (.ok (), s)
  unfold carryOut commit
  rw [planned]
  dsimp only
  rw [reference, fresh]

/-- Setting another location, with any outcome, and then the old one restores the session. -/
theorem location_back (fresh : s.store.display s.reference = .ok s.display)
    (valid : s.store.Valid s.reference) {id : String} (placed : s.store.location = some id)
    (other : Value) (tag back : String) :
    (s.write tag (.setLocation other)).2.write back (.setLocation (.str id)) = (.ok (), s) := by
  refine setLocation_shows fresh (write_reference _ _ _) (valid.location id placed) ?_ back
  obtain ⟨location, found, store⟩ := setLocation_store s tag other
  rw [store, ← placed]
  unfold Store.checkRates
  rw [← valid.rates]

/-! ## Settled runs -/

/-- After settled writes a session shows what its store is resolved to, and what it says to be missing
for the wages is what is missing at its location. So two sessions over one reference whose stores agree
show the same and have the same totals, and setting another location and then the old one restores the
session. -/
theorem settled_fresh {source : Source} {asked : Value}
    (loaded : Session.load source asked = .ok start) (run : Run settled start s) :
    s.store.display s.reference = .ok s.display ∧
    s.store.rateDiagnostics = s.reference.rateDiagnostics s.store.location ∧
    (∀ (other : Source) (otherAsked : Value) (first t : Session),
      Session.load other otherAsked = .ok first → Run settled first t →
      s.reference = t.reference → s.store.Agrees t.store →
      s.display = t.display ∧ ∀ scope key, s.totals scope key = t.totals scope key) ∧
    (∀ id, s.store.location = some id → ∀ other tag back,
      (s.write tag (.setLocation other)).2.write back (.setLocation (.str id)) = (.ok (), s)) := by
  have fresh := run_fresh loaded run
  have valid := (run_valid loaded run).2
  refine ⟨fresh, valid.rates, fun other otherAsked first t loadedT runT reference agrees => ?_,
    fun id placed other tag back => location_back fresh valid placed other tag back⟩
  have freshT := run_fresh loadedT runT
  have rates : s.store.rateDiagnostics = t.store.rateDiagnostics := by
    rw [valid.rates, (run_valid loadedT runT).2.rates, reference, agrees.location]
  have display : s.display = t.display := by
    rw [← reference, ← Store.display_congr agrees rates s.reference, fresh] at freshT
    exact Except.ok.inj freshT
  exact ⟨display, totals_congr reference agrees display⟩

/-! ## A session with two locations -/

/-- The session after some writes. -/
def after (s : Session) : List (String × Write) → Session
  | [] => s
  | (tag, w) :: rest => (s.write tag w).2.after rest

/-- All of the writes are settled. -/
def settles (s : Session) : List (String × Write) → Bool
  | [] => true
  | (tag, w) :: rest => isSettled (s.write tag w).1 && (s.write tag w).2.settles rest

/-- Settled writes make up a run, if what is allowed asks no more of them than that. -/
theorem run_of_settles {allows : Write → Except SessionFault Unit → Prop}
    {writes : List (String × Write)}
    (allowed : ∀ tagged ∈ writes, ∀ outcome, isSettled outcome = true → allows tagged.2 outcome)
    (run : Run allows start s) (all : s.settles writes = true) :
    Run allows start (s.after writes) := by
  induction writes generalizing s with
  | nil => exact run
  | cons first rest ih =>
    obtain ⟨tag, w⟩ := first
    unfold settles at all
    rw [Bool.and_eq_true] at all
    exact ih (fun other listed => allowed other (List.mem_cons_of_mem _ listed))
      (.write run (allowed (tag, w) List.mem_cons_self _ all.1)) all.2

theorem run_after (run : Run anyOutcome start s) (writes : List (String × Write)) :
    Run anyOutcome start (s.after writes) := by
  induction writes generalizing s with
  | nil => exact run
  | cons first rest ih => exact ih (.write run trivial)

/-- The first package. -/
def selection : List (String × Write) := [("00000001", .selectPackage (.int 1))]

theorem run_selection (settles : start.settles selection = true) :
    Run settled start (start.after selection) :=
  run_of_settles (fun _ _ _ settled => settled) .refl settles

/-- Two locations, and a socket that only one of them has. -/
def twoLocations : Source where
  rows := {
    packages := [.obj [("id", .int 1), ("name", .str "Bad")]]
    items := [
      .obj [("id", .int 1), ("package_id", .int 1), ("produkt_gruppe_id", .str "GRP-SOC-SKT"),
        ("quantity_base", .int 2), ("multipliers_material", .obj [("raumgroesse", .float 0.3)])]]
    products := [
      .obj [("product_id", .str "STD"), ("name", .str "STD"),
        ("produkt_gruppe", .str "GRP-SOC-SKT"), ("qualitaetsstufe", .str "Standard"),
        ("unit_price", .float 5.0)],
      .obj [("product_id", .str "PRE"), ("name", .str "PRE"),
        ("produkt_gruppe", .str "GRP-SOC-SKT"), ("qualitaetsstufe", .str "Premium"),
        ("unit_price", .float 12.0), ("availability", .list [.str "Hamburg"])]]
    groups := []
    parameters := [
      .obj [("param_key", .str "qualitaetsstufe"), ("label", .str "Stufe"),
        ("param_type", .str "select"), ("default_value", .str "Premium"), ("is_global", .bool true),
        ("options", .list [.str "Standard", .str "Premium"])],
      .obj [("param_key", .str "raumgroesse"), ("label", .str "Raum"),
        ("param_type", .str "number"), ("default_value", .str "10")]]
    links := [.obj [("package_id", .int 1), ("param_key", .str "raumgroesse")]] }
  rates := []
  markup := 40.0
  prices := []
  locations := [
    .obj [("loc_id", .str "1"), ("name", .str "Hamburg")],
    .obj [("loc_id", .str "2"), ("name", .str "München")]]
  currentLocation := .str "1"
  outage := none

/-- A package with its room, a price and hours of its row; another location; a wage. -/
def someWrites : List (String × Write) := [
  ("00000001", .selectPackage (.int 1)),
  ("", .setLocal (.str "1-00000001") (.str "raumgroesse") (.str "12,5")),
  ("", .setPrice (.str "1-00000001-PRE") (.str "9,995")),
  ("", .setHours (.str "1-00000001-PRE") (.str "geselle") (.float 1.505)),
  ("", .setLocation (.str "nowhere")),
  ("", .setLocation (.str "2")),
  ("", .setQuantity (.str "1-00000001-STD") (.float 7.0)),
  ("", .setWage (.str "meister") (.int 95))]

theorem twoLocations_settles : (Session.load twoLocations .null).toOption.map (fun start =>
    (start.settles someWrites, (start.after someWrites).store.location)) =
      some (true, some "2") := by decide +kernel

/-- After those writes, and after a visit to the first location, the session shows its store. -/
theorem twoLocations_fresh : ∃ start s, Session.load twoLocations .null = .ok start ∧
    Run settled start s ∧ s.store.display s.reference = .ok s.display ∧
    (s.write "" (.setLocation (.str "1"))).2.write "" (.setLocation (.str "2")) = (.ok (), s) := by
  obtain ⟨start, loaded, both⟩ := toOption_map_eq_some_iff.1 twoLocations_settles
  obtain ⟨settles, placed⟩ := Prod.mk.inj both
  have run : Run settled start _ := run_of_settles (fun _ _ _ settled => settled) .refl settles
  obtain ⟨fresh, _, _, back⟩ := settled_fresh loaded run
  exact ⟨start, _, loaded, run, fresh, back "2" placed (.str "1") "" ""⟩

end Session

end WiringQuote
