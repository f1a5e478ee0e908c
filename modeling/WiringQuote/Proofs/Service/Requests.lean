import Mathlib.Data.List.Induction
import WiringQuote.Proofs.Service.Registry
import WiringQuote.Service.Handler

/-!
# The open sessions between requests

Requests are answered one after the other, at times that never go back. Between any two of them both
tables of the registry list the same sessions, and no session was used later than the clock says.

* `serve_moves`: what one request makes of the registry, one case per outcome.
* `Moves.inStep`, `Moves.usedBy`: what every request keeps; `after_inStep`, `after_usedBy`: so do all.
* `Moves.serves`: which sessions a request may open, drop or change.
* `after_serves`: and so does any request that comes after any others.
-/

namespace WiringQuote.Service

open Decimal Fallible Value

/-- A request at a time, and the source from which it would load a session. -/
structure Arrival where
  source : Source
  now : Float
  request : Request

namespace Arrival

/-- The request opens a session, which is loaded. -/
def Opens (arrival : Arrival) (session : Session) : Prop :=
  ∃ location, arrival.request.command = .ok (.openSession location) ∧
    Session.load arrival.source (ofOption .str location) = .ok session

/-- The request does something with the session of an id. -/
def ActsOn (arrival : Arrival) (id : String) (action : Action) : Prop :=
  arrival.request.command = .ok (.onSession id action)

end Arrival

section Runs

variable (ids : Identifiers) (bounds : Bounds)

/-- The registry after a request. -/
def serve (registry : Registry) (arrival : Arrival) : Registry :=
  (respond arrival.source bounds registry arrival.now arrival.request ids).2

/-- The registry after all requests of a history. -/
def after (history : List Arrival) : Registry := history.foldl (serve ids bounds) .empty

/-- The identifier of the next session. -/
def nextId (registry : Registry) : String := ids.text (registry.issued + 1)

end Runs

/-- The clock shows numbers and never goes back. -/
structure Clocked (history : List Arrival) : Prop where
  numbers : ∀ arrival ∈ history, arrival.now.isNaN = false
  ordered : history.Pairwise fun first second => first.now ≤ second.now

/-! ## One request -/

/-- What a request makes of the registry. -/
inductive Moves (ids : Identifiers) (bounds : Bounds) (arrival : Arrival) (registry : Registry) :
    Registry → Prop
  | unchanged (none : ∀ session, ¬ arrival.Opens session) : Moves ids bounds arrival registry registry
  | opened {session : Session} (opens : arrival.Opens session) :
    Moves ids bounds arrival registry
      ({ registry with issued := registry.issued + 1 }.add (nextId ids registry) session
        arrival.now bounds)
  | used {id : String} {action : Action} (acts : arrival.ActsOn id action)
    (present : id ∈ registry.opened.keys) (session : Session) (issued : Nat) :
    Moves ids bounds arrival registry ({ registry with issued }.use id session arrival.now)
  | closed {id : String} (acts : arrival.ActsOn id .close) :
    Moves ids bounds arrival registry (registry.close id)

variable {ids : Identifiers} {bounds : Bounds} {arrival : Arrival} {registry next : Registry}

theorem not_opens {command : Except Refusal Command} (made : arrival.request.command = command)
    (other : ∀ location, command ≠ .ok (.openSession location)) (session : Session) :
    ¬ arrival.Opens session := by
  rintro ⟨location, asked, _⟩
  exact other location (made.symm.trans asked)

theorem respondToOpen_moves {location : Option String}
    (made : arrival.request.command = .ok (.openSession location)) (registry : Registry) :
    Moves ids bounds arrival registry
      (respondToOpen ids arrival.source bounds registry arrival.now location).2 := by
  unfold respondToOpen
  cases loaded : Session.load arrival.source (ofOption .str location) with
  | ok session => exact .opened ⟨location, made, loaded⟩
  | error fault =>
    refine .unchanged fun session opens => ?_
    obtain ⟨_, asked, succeeded⟩ := opens
    cases made.symm.trans asked
    cases loaded.symm.trans succeeded

theorem respondToAction_moves {id : String} {action : Action}
    (made : arrival.request.command = .ok (.onSession id action)) (registry : Registry) :
    Moves ids bounds arrival registry
      (respondToAction ids registry arrival.now id action).2 := by
  unfold respondToAction
  cases found : registry.find? id with
  | none => exact .unchanged (not_opens made fun _ same => by cases same)
  | some session =>
    have present : id ∈ registry.opened.keys := OrderedMap.mem_keys_iff.2 ⟨session, found⟩
    cases action with
    | «show» view => exact .used made present session registry.issued
    | write write reply => exact .used made present _ _
    | close => exact .closed made

theorem serve_moves (ids : Identifiers) (bounds : Bounds) (registry : Registry) (arrival : Arrival) :
    Moves ids bounds arrival registry (serve ids bounds registry arrival) := by
  show Moves ids bounds arrival registry
    (respondToCommand ids arrival.source bounds registry arrival.now arrival.request.command).2
  cases made : arrival.request.command with
  | error refusal => exact .unchanged (not_opens made fun _ same => by cases same)
  | ok command =>
    cases command with
    | health => exact .unchanged (not_opens made fun _ same => by cases same)
    | documentation => exact .unchanged (not_opens made fun _ same => by cases same)
    | openSession location => exact respondToOpen_moves made registry
    | onSession id action => exact respondToAction_moves made registry

/-! ## What every request keeps -/

open Registry

theorem Moves.inStep (moves : Moves ids bounds arrival registry next) (inStep : InStep registry) :
    InStep next := by
  cases moves with
  | unchanged => exact inStep
  | opened opens =>
    have new : InStep { registry with issued := registry.issued + 1 } := inStep
    exact new.use.closeAll.closeAll
  | used acts present session issued =>
    have same : InStep { registry with issued } := inStep
    exact same.use
  | closed acts => exact inStep.close

theorem Moves.usedBy (moves : Moves ids bounds arrival registry next)
    (used : UsedBy arrival.now registry) (number : arrival.now.isNaN = false) :
    UsedBy arrival.now next := by
  cases moves with
  | unchanged => exact used
  | opened opens =>
    have new : UsedBy arrival.now { registry with issued := registry.issued + 1 } := used
    exact (new.use number).closeAll.closeAll
  | used acts present session issued =>
    have same : UsedBy arrival.now { registry with issued } := used
    exact same.use number
  | closed acts => exact used.close

theorem after_inStep (ids : Identifiers) (bounds : Bounds) (history : List Arrival) :
    InStep (after ids bounds history) :=
  List.foldlRecOn history _ rfl fun registry inStep arrival _ =>
    (serve_moves ids bounds registry arrival).inStep inStep

theorem after_concat (ids : Identifiers) (bounds : Bounds) (history : List Arrival)
    (arrival : Arrival) : after ids bounds (history ++ [arrival]) =
      serve ids bounds (after ids bounds history) arrival := by
  unfold after
  rw [List.foldl_concat]

theorem after_usedBy {history : List Arrival} (clocked : Clocked history) {now : Float}
    (later : ∀ arrival ∈ history, arrival.now ≤ now) : UsedBy now (after ids bounds history) := by
  induction history using List.reverseRecOn generalizing now with
  | nil => exact OrderedMap.each_empty _
  | append_singleton history arrival ih =>
    obtain ⟨numbers, ordered⟩ := clocked
    obtain ⟨orderedBefore, _, before⟩ := List.pairwise_append.1 ordered
    have used : UsedBy arrival.now (after ids bounds history) :=
      ih ⟨fun earlier listed => numbers earlier (List.mem_append_left _ listed), orderedBefore⟩
        fun earlier listed => before earlier listed arrival (List.mem_singleton_self _)
    rw [after_concat]
    refine UsedBy.mono ?_ (later arrival (by simp))
    exact (serve_moves ids bounds _ arrival).usedBy used (numbers arrival (by simp))

/-! ## What a request may do -/

/-- What a request may do to the open sessions. -/
structure Serves (ids : Identifiers) (bounds : Bounds) (arrival : Arrival)
    (before after : Registry) : Prop where
  inStepBefore : InStep before
  inStepAfter : InStep after
  /-- A session that is opened is there, and the bounds are kept. -/
  opened : ∀ session, arrival.Opens session →
    Added bounds arrival.now (nextId ids before) session before after
  /-- Only closing a session and opening one drop sessions. -/
  removed : ∀ id ∈ before.opened.keys, id ∉ after.opened.keys →
    arrival.ActsOn id .close ∨ ∃ session, arrival.Opens session
  /-- What is done with one session changes no other. -/
  others : ∀ id action, arrival.ActsOn id action → ∀ other ≠ id,
    after.opened.get? other = before.opened.get? other ∧
      after.lastUses.get? other = before.lastUses.get? other
  /-- Any other request changes nothing. -/
  unchanged : (∀ session, ¬ arrival.Opens session) → (∀ id action, ¬ arrival.ActsOn id action) →
    after = before

theorem opens_unique {first second : Session} (opens : arrival.Opens first)
    (again : arrival.Opens second) : first = second := by
  obtain ⟨location, asked, loaded⟩ := opens
  obtain ⟨other, askedAgain, loadedAgain⟩ := again
  cases asked.symm.trans askedAgain
  exact Except.ok.inj (loaded.symm.trans loadedAgain)

theorem not_opens_of_acts {id : String} {action : Action} (acts : arrival.ActsOn id action)
    (session : Session) : ¬ arrival.Opens session :=
  not_opens acts (fun _ same => by cases same) session

theorem Moves.serves (moves : Moves ids bounds arrival registry next) (inStep : InStep registry)
    (used : UsedBy arrival.now registry) (number : arrival.now.isNaN = false) (sound : bounds.Sound)
    (fresh : ∀ session, arrival.Opens session → nextId ids registry ∉ registry.opened.keys) :
    Serves ids bounds arrival registry next := by
  have inStepAfter := moves.inStep inStep
  cases moves with
  | unchanged none =>
    exact ⟨inStep, inStepAfter, fun session opens => absurd opens (none session),
      fun _ before notAfter => absurd before notAfter, fun _ _ _ _ _ => ⟨rfl, rfl⟩, fun _ _ => rfl⟩
  | @opened session opens =>
    refine ⟨inStep, inStepAfter, fun other again => ?_, fun _ _ _ => .inr ⟨session, opens⟩,
      fun id action acts => absurd opens (not_opens_of_acts acts session),
      fun none => absurd opens (none session)⟩
    obtain rfl := opens_unique opens again
    -- The number of identifiers is of no account to the tables.
    have inStep : InStep { registry with issued := registry.issued + 1 } := inStep
    obtain ⟨bounded, present, usedNow, kept, dropped⟩ :=
      add_added inStep used number sound (fresh session opens) session
    exact ⟨bounded, present, usedNow, kept, dropped⟩
  | @used id action acts present session issued =>
    refine ⟨inStep, inStepAfter, fun session opens => absurd opens (not_opens_of_acts acts session),
      fun other before notAfter => ?_, fun other action actsToo third different => ?_,
      fun _ none => absurd acts (none id action)⟩
    · refine absurd ?_ notAfter
      unfold Registry.use
      rw [OrderedMap.keys_insert, if_pos present]
      exact before
    · cases acts.symm.trans actsToo
      exact use_of_ne different
  | @closed id acts =>
    refine ⟨inStep, inStepAfter, fun session opens => absurd opens (not_opens_of_acts acts session),
      fun other before notAfter => .inl ?_, fun other action actsToo third different => ?_,
      fun _ none => absurd acts (none id .close)⟩
    · have own : other = id := by
        by_contra different
        rw [← OrderedMap.get?_eq_none_iff, (close_of_ne different).1,
          OrderedMap.get?_eq_none_iff] at notAfter
        exact notAfter before
      exact own ▸ acts
    · cases acts.symm.trans actsToo
      exact close_of_ne different

/-- After any history of requests, the next one opens, drops and changes sessions as it should. -/
theorem after_serves (ids : Identifiers) {bounds : Bounds} (sound : bounds.Sound)
    {history : List Arrival} {arrival : Arrival} (clocked : Clocked (history ++ [arrival]))
    (fresh : ∀ session, arrival.Opens session →
      nextId ids (after ids bounds history) ∉ (after ids bounds history).opened.keys) :
    Serves ids bounds arrival (after ids bounds history)
      (after ids bounds (history ++ [arrival])) := by
  obtain ⟨numbers, ordered⟩ := clocked
  obtain ⟨orderedBefore, _, before⟩ := List.pairwise_append.1 ordered
  have clockedBefore : Clocked history :=
    ⟨fun earlier listed => numbers earlier (List.mem_append_left _ listed), orderedBefore⟩
  have used : UsedBy arrival.now (after ids bounds history) :=
    after_usedBy clockedBefore fun earlier listed => before earlier listed arrival (by simp)
  rw [after_concat]
  exact (serve_moves ids bounds _ arrival).serves (after_inStep ids bounds history) used
    (numbers arrival (by simp)) sound fresh

/-! ## Three sessions where two may be open -/

/-- One package and one product. -/
def oneProduct : Source where
  rows := {
    packages := [.obj [("id", .int 1), ("name", .str "Room")]]
    items := []
    products := [.obj [("product_id", .str "SKT"), ("name", .str "Socket")]]
    groups := []
    parameters := []
    links := [] }
  rates := []
  markup := 0.0
  prices := []
  locations := []
  currentLocation := .null
  outage := none

def openAt (now : Float) : Arrival where
  source := oneProduct
  now := now
  request := ⟨some .post, .ofText "/api/configurator/sessions", some (.obj [])⟩

def twoOpen : Bounds := ⟨3600.0, 2⟩

def twoOpened : List Arrival := [openAt 1000.0, openAt 1001.0]

theorem twoOpened_ids :
    (after .counted twoOpen twoOpened).opened.keys = [Identifier.text 1, Identifier.text 2] ∧
      nextId .counted (after .counted twoOpen twoOpened) = Identifier.text 3 := by
  decide +kernel

theorem thirdOpened_opens : ∃ session, (openAt 1003.0).Opens session := by
  have loads : (Session.load oneProduct .null).isOk = true := by decide +kernel
  obtain ⟨session, loaded⟩ := isOk_iff.1 loads
  exact ⟨session, none, rfl, loaded⟩

/-- A third session is opened beside two, where two may be open. -/
theorem thirdOpened_serves : (after .counted twoOpen twoOpened).opened.size = 2 ∧
    (∃ session, (openAt 1003.0).Opens session) ∧
    Serves .counted twoOpen (openAt 1003.0) (after .counted twoOpen twoOpened)
      (after .counted twoOpen (twoOpened ++ [openAt 1003.0])) := by
  obtain ⟨opened, next⟩ := twoOpened_ids
  refine ⟨by rw [size_eq_length, opened]; rfl, thirdOpened_opens,
    after_serves .counted ⟨by decide +kernel, by decide⟩ ⟨?_, ?_⟩ fun session opens => ?_⟩
  · decide +kernel
  · decide +kernel
  · rw [opened, next]
    decide +kernel

end WiringQuote.Service
