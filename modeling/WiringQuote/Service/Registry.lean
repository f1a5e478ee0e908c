import WiringQuote.Session.Basic
import WiringQuote.Settings.Basic

/-!
# The open sessions

The registry holds the open sessions in one table and the time at which each was last used in another.
When a session is opened, those that have been idle for too long are dropped, and of the others the
least recently used ones as long as there are too many. Nothing else drops a session but its closing.
-/

namespace WiringQuote.Service

/-- An open session and the time at which it was last used, in seconds. -/
structure OpenSession where
  session : Session
  lastUsed : Float

/-- Both tables have the sessions in the order in which they were opened. -/
structure Registry where
  opened : OrderedMap String Session
  /-- The times of the last uses, in seconds. -/
  lastUses : OrderedMap String Float
  /-- The number of identifiers given out so far. -/
  issued : Nat

/-- How long a session may be idle, in seconds, and how many may be open. -/
structure Bounds where
  idleSeconds : Float
  sessions : Int

/-- The bounds that the service is set to. -/
def Bounds.ofSettings (settings : Settings) : Bounds :=
  ⟨Float.ofInt settings.idleSeconds, settings.maxSessions⟩

def Bounds.default : Bounds :=
  ⟨Float.ofInt Settings.defaultIdleSeconds, Settings.defaultSessions⟩

namespace Registry

def empty : Registry := ⟨.empty, .empty, 0⟩

def find? (registry : Registry) (id : String) : Option Session := registry.opened.get? id

/-- What both tables say of the open sessions. -/
def sessions (registry : Registry) : OrderedMap String OpenSession :=
  registry.opened.filterMap fun id session =>
    (registry.lastUses.get? id).map fun lastUsed => ⟨session, lastUsed⟩

/-- The session as it is after it was used at a time. -/
def use (registry : Registry) (id : String) (session : Session) (now : Float) : Registry :=
  { registry with
    opened := registry.opened.insert id session
    lastUses := registry.lastUses.insert id now }

def close (registry : Registry) (id : String) : Registry :=
  { registry with opened := registry.opened.erase id, lastUses := registry.lastUses.erase id }

/-! ## Dropping sessions -/

def closeAll (registry : Registry) (ids : List String) : Registry := ids.foldl close registry

/-- A session that was last used at that time has not been used for longer than a number of seconds. -/
def isIdle (now seconds lastUsed : Float) : Bool := seconds < now - lastUsed

/-- The ids of the idle sessions. -/
def idle (registry : Registry) (now seconds : Float) : List String :=
  (registry.lastUses.filter fun _ lastUsed => isIdle now seconds lastUsed).keys

/-- The ids, the least recently used first; of those used at one time the one opened first. -/
def byUse (registry : Registry) : List String :=
  (registry.lastUses.entries.mergeSort fun a b => a.2 ≤ b.2).map (·.1)

/-- The ids of the least recently used sessions, without which no more than a number remain. -/
def excess (registry : Registry) (limit : Int) : List String :=
  registry.byUse.take ((registry.opened.size : Int) - limit).toNat

/-- Without the idle sessions, and then without those that are too many. -/
def prune (registry : Registry) (now : Float) (bounds : Bounds) : Registry :=
  let active := registry.closeAll (registry.idle now bounds.idleSeconds)
  active.closeAll (active.excess bounds.sessions)

/-- Opens a session. -/
def add (registry : Registry) (id : String) (session : Session) (now : Float) (bounds : Bounds) :
    Registry :=
  (registry.use id session now).prune now bounds

end Registry

end WiringQuote.Service
