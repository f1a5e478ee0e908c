/-!
# Quality tiers

Products come in tiers. A requested tier is tried first, then the fallback tiers.
-/

namespace WiringQuote.Quality

/-- The tiers that a request may name. -/
def levels : List String := ["Basic", "Standard", "Premium"]

/-- The tiers tried after the requested ones. -/
def fallback : List String := ["Standard", "Basic"]

/-- The global parameter that holds the requested tier. -/
def parameter : String := "qualitaetsstufe"

/-- The first occurrence of each text, in order. -/
def distinct : List String → List String
  | [] => []
  | level :: rest => level :: (distinct rest).filter (· != level)

/-- The requested tiers and then the fallback tiers, each once and blank ones left out. -/
def chain (requested : List (Option String)) : List String :=
  distinct ((requested.filterMap id ++ fallback).filter (!·.isEmpty))

example : chain [some "Basic", some "Premium"] = ["Basic", "Premium", "Standard"] := by decide +kernel

end WiringQuote.Quality
