/-!
The kinds of engines, by their names. The build at hand has two of them. The third one needs a
library from outside and is part of builds with that library only; it is left out here, but for its
name and for the error that says so.
-/

namespace FormatScan

inductive EngineKind where
  /-- Tries every pattern on its own. -/
  | backtrack
  /-- Sorts out by all patterns together, then verifies those that are left. -/
  | twoPhase
  /-- Matches by a database of all patterns, in builds that have been given the library for it. -/
  | vectorscan
deriving DecidableEq

namespace EngineKind

def all : List EngineKind := [backtrack, twoPhase, vectorscan]

def name : EngineKind → String
  | backtrack => "backtrack"
  | twoPhase => "two-phase"
  | vectorscan => "vectorscan"

def isAvailable : EngineKind → Bool
  | backtrack => true
  | twoPhase => true
  | vectorscan => false

def available : List EngineKind := all.filter isAvailable

def ofLowerName? (name : String) : Option EngineKind :=
  if name = "backtrack" ∨ name = "boost" then some backtrack
  else if name = "two-phase" ∨ name = "twophase" ∨ name = "re2" then some twoPhase
  else if name = "vectorscan" ∨ name = "hyperscan" ∨ name = "hs" then some vectorscan
  else none

def lower (name : String) : String := String.ofList (name.toList.map Char.toLower)

def ofName? (name : String) : Option EngineKind := ofLowerName? (lower name)

theorem ofName?_name (kind : EngineKind) : ofName? kind.name = some kind := by
  cases kind <;> decide +kernel

end EngineKind

end FormatScan
