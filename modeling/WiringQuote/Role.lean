/-!
# Labour roles

Hours and wages are kept per role of the crew, and every sum over the roles runs in one order:
master, journeyman, fitter.
-/

namespace WiringQuote

/-- The roles of a crew. -/
inductive Role where
  | meister
  | geselle
  | monteur
deriving DecidableEq, Repr

namespace Role

def all : List Role := [.meister, .geselle, .monteur]

def name : Role → String
  | .meister => "meister"
  | .geselle => "geselle"
  | .monteur => "monteur"

def ofName? (s : String) : Option Role := all.find? fun role => role.name == s

end Role

/-- One value for each role. -/
structure PerRole (α : Type) where
  meister : α
  geselle : α
  monteur : α
deriving DecidableEq, Repr

namespace PerRole

variable {α β γ : Type}

def get (p : PerRole α) : Role → α
  | .meister => p.meister
  | .geselle => p.geselle
  | .monteur => p.monteur

def ofFn (f : Role → α) : PerRole α := ⟨f .meister, f .geselle, f .monteur⟩

def const (a : α) : PerRole α := ⟨a, a, a⟩

def map (f : α → β) (p : PerRole α) : PerRole β := ofFn fun role => f (p.get role)

def zipWith (f : α → β → γ) (p : PerRole α) (q : PerRole β) : PerRole γ :=
  ofFn fun role => f (p.get role) (q.get role)

def set (p : PerRole α) (role : Role) (a : α) : PerRole α :=
  ofFn fun r => if r = role then a else p.get r

def toList (p : PerRole α) : List (Role × α) := Role.all.map fun role => (role, p.get role)

/-- The sum in role order, from zero. -/
def sum (p : PerRole Float) : Float := ((0.0 + p.meister) + p.geselle) + p.monteur

@[simp] theorem get_ofFn (f : Role → α) (role : Role) : (ofFn f).get role = f role := by
  cases role <;> rfl

theorem get_set (p : PerRole α) (role other : Role) (a : α) :
    (p.set role a).get other = if other = role then a else p.get other := by
  simp [set]

end PerRole

end WiringQuote
