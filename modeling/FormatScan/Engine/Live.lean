import FormatScan.Engine.Basic
/-!
Engines in use. What an engine searches with keeps a memory from one file to the next, and an engine
is prepared in place. The searches themselves come from a library, so that they are left open here;
no memory is ever used for any other goal than its own.
-/

namespace FormatScan

open Regex

/-- A way of searching files for a goal, which keeps a memory from one file to the next. -/
structure Search (Goal Answer : Type) where
  Memory : Type
  /-- The memory in front of the first file. -/
  fresh : Goal → Memory
  /-- The answer for a file, and the memory behind it. -/
  run : Goal → Memory → Haystack → Answer × Memory

inductive Search.Remembers {Goal Answer : Type} (search : Search Goal Answer) (goal : Goal) :
    search.Memory → Prop
  | fresh : search.Remembers goal (search.fresh goal)
  | run {memory h} (hmemory : search.Remembers goal memory) :
      search.Remembers goal (search.run goal memory h).2

structure Searcher {Goal Answer : Type} (search : Search Goal Answer) (goal : Goal) where
  memory : search.Memory
  remembers : search.Remembers goal memory

namespace Searcher

variable {Goal Answer : Type} {search : Search Goal Answer} {goal : Goal}

def fresh : Searcher search goal := ⟨search.fresh goal, .fresh⟩

def ask (s : Searcher search goal) (h : Haystack) : Answer × Searcher search goal :=
  ((search.run goal s.memory h).1, ⟨(search.run goal s.memory h).2, .run s.remembers⟩)

end Searcher

/-- The searches that engines are built from. -/
structure SearchKit where
  /-- Goes back wherever it has gone wrong, as long as it can afford to. -/
  bounded : Search Expr (Option Bool)
  /-- The longest file that the bounded search is tried on. -/
  longest : Expr → Nat
  /-- Goes through a file once, with all that may still become a match. -/
  unbounded : Search Expr Bool
  /-- Searches for one expression, with memories from a pool. -/
  single : Search Expr Bool
  /-- Searches for several expressions at once, and answers with the places of those that match. -/
  joint : Search (List Expr) (List Nat)

def matchingPlaces (exprs : List Expr) (h : Haystack) : List Nat :=
  (exprs.zipIdx.filter fun expr => h.isMatch expr.1).map (·.2)

/-- Searches that remember nothing, and never give up. -/
def SearchKit.plain : SearchKit where
  bounded := ⟨Unit, fun _ => (), fun expr _ h => (some (h.isMatch expr), ())⟩
  longest _ := 4 * 1024 * 1024
  unbounded := ⟨Unit, fun _ => (), fun expr _ h => (h.isMatch expr, ())⟩
  single := ⟨Unit, fun _ => (), fun expr _ h => (h.isMatch expr, ())⟩
  joint := ⟨Unit, fun _ => (), fun exprs _ h => (matchingPlaces exprs h, ())⟩

variable {kit : SearchKit}

/-! ### Trying every pattern on its own -/

structure LiveMatcher (kit : SearchKit) where
  matcher : Matcher
  bounded : Searcher kit.bounded matcher.expr
  unbounded : Searcher kit.unbounded matcher.expr

namespace LiveMatcher

def fresh (m : Matcher) : LiveMatcher kit := ⟨m, .fresh, .fresh⟩

def searchUnbounded (m : LiveMatcher kit) (h : Haystack) : Bool × LiveMatcher kit :=
  let (found, unbounded) := m.unbounded.ask h
  (found, { m with unbounded })

/-- Falls back on the unbounded search where the file is too long for the bounded one, or where that
one gives up. -/
def search (m : LiveMatcher kit) (h : Haystack) : Bool × LiveMatcher kit :=
  if h.size ≤ kit.longest m.matcher.expr then
    match m.bounded.ask h with
    | (some found, bounded) => (found, { m with bounded })
    | (none, bounded) => { m with bounded }.searchUnbounded h
  else m.searchUnbounded h

def tryOn (h : Haystack) (m : LiveMatcher kit) (stats : Stats) : LiveMatcher kit × Stats :=
  if !m.matcher.pattern.appliesTo h.size || stats.detected.contains m.matcher.pattern.name then
    (m, stats)
  else
    let (found, searched) := m.search h
    (searched, if found then stats.recorded m.matcher.pattern.name else stats)

def tryAll (h : Haystack) : List (LiveMatcher kit) → Stats → List (LiveMatcher kit) × Stats
  | [], stats => ([], stats)
  | m :: rest, stats =>
    let (m, stats) := m.tryOn h stats
    let (rest, stats) := tryAll h rest stats
    (m :: rest, stats)

end LiveMatcher

/-! ### Sorting out and verifying -/

structure LiveVerifier (kit : SearchKit) where
  matcher : Matcher
  single : Searcher kit.single matcher.expr

structure LiveFilter (kit : SearchKit) where
  members : List Expr
  joint : Searcher kit.joint members

namespace LiveVerifier

def fresh (m : Matcher) : LiveVerifier kit := ⟨m, .fresh⟩

def verify (h : Haystack) (v : LiveVerifier kit) (stats : Stats) : LiveVerifier kit × Stats :=
  if v.matcher.pattern.appliesTo h.size then
    let (found, single) := v.single.ask h
    ({ v with single }, if found then stats.recorded v.matcher.pattern.name else stats)
  else (v, stats)

def verifyAt (h : Haystack) (state : List (LiveVerifier kit) × Stats) (place : Nat) :
    List (LiveVerifier kit) × Stats :=
  match state.1[place]? with
  | none => state
  | some v =>
    let (v, stats) := v.verify h state.2
    (state.1.set place v, stats)

end LiveVerifier

namespace LiveFilter

def fresh (members : List Expr) : LiveFilter kit := ⟨members, .fresh⟩

def ask (f : LiveFilter kit) (h : Haystack) : List Nat × LiveFilter kit :=
  let (places, joint) := f.joint.ask h
  (places, { f with joint })

end LiveFilter

/-! ### Engines -/

inductive LiveEngine (kit : SearchKit) where
  | backtrack (matchers : List (LiveMatcher kit))
  | twoPhase (verifiers : List (LiveVerifier kit)) (filter : Option (LiveFilter kit))

structure LivePreparation (kit : SearchKit) where
  engine : LiveEngine kit
  report : PrepareReport
  filterFault : Option String

namespace LiveEngine

def create (kit : SearchKit) : EngineKind → Except ScanError (LiveEngine kit)
  | .backtrack => .ok (.backtrack [])
  | .twoPhase => .ok (.twoPhase [] none)
  | .vectorscan => .error (.engineUnavailable .vectorscan)

def kind : LiveEngine kit → EngineKind
  | .backtrack _ => .backtrack
  | .twoPhase _ _ => .twoPhase

def activeCount : LiveEngine kit → Nat
  | .backtrack matchers => matchers.length
  | .twoPhase verifiers _ => verifiers.length

def hasFilter? : LiveEngine kit → Option Bool
  | .backtrack _ => none
  | .twoPhase _ filter => some filter.isSome

def clear : LiveEngine kit → LiveEngine kit
  | .backtrack _ => .backtrack []
  | .twoPhase _ _ => .twoPhase [] none

def push (e : LiveEngine kit) (m : Matcher) : LiveEngine kit :=
  match e with
  | .backtrack matchers => .backtrack (matchers ++ [.fresh m])
  | .twoPhase verifiers filter => .twoPhase (verifiers ++ [.fresh m]) filter

/-- Adds a pattern to those of the engine, or to those that are refused. -/
def addPattern (state : LiveEngine kit × List Exclusion) (p : Pattern) :
    LiveEngine kit × List Exclusion :=
  match Matcher.ofPattern state.1.kind p with
  | .ok m => (state.1.push m, state.2)
  | .error exclusion => (state.1, state.2 ++ [exclusion])

/-- Sets up the filter, if there is anything to filter and a filter can be made. -/
def combine : LiveEngine kit → LiveEngine kit × Option String
  | .backtrack matchers => (.backtrack matchers, none)
  | .twoPhase verifiers filter =>
    if verifiers.isEmpty then (.twoPhase verifiers filter, none)
    else
      match Matcher.filterOf (verifiers.map (·.matcher)) with
      | .ok members => (.twoPhase verifiers (some (.fresh members)), none)
      | .error fault => (.twoPhase verifiers filter, some fault)

def prepare (e : LiveEngine kit) (patterns : List Pattern) : LivePreparation kit :=
  let (filled, excluded) := patterns.foldl addPattern (e.clear, [])
  let (engine, filterFault) := filled.combine
  { engine, report := ⟨engine.activeCount, excluded⟩, filterFault }

def scan (e : LiveEngine kit) (bytes : ByteArray) (stats : Stats) : LiveEngine kit × Stats :=
  if bytes.size = 0 then (e, stats)
  else
    let h := Haystack.ofBytes bytes
    match e with
    | .backtrack matchers =>
      let (matchers, stats) := LiveMatcher.tryAll h matchers stats
      (.backtrack matchers, stats)
    | .twoPhase verifiers none =>
      let (verifiers, stats) := (List.range verifiers.length).foldl (LiveVerifier.verifyAt h)
        (verifiers, stats)
      (.twoPhase verifiers none, stats)
    | .twoPhase verifiers (some filter) =>
      let (places, filter) := filter.ask h
      let (verifiers, stats) := places.foldl (LiveVerifier.verifyAt h) (verifiers, stats)
      (.twoPhase verifiers (some filter), stats)

/-- The engine without its memories. -/
def still : LiveEngine kit → Engine
  | .backtrack matchers => { kind := .backtrack, matchers := matchers.map (·.matcher) }
  | .twoPhase verifiers filter =>
    { kind := .twoPhase, matchers := verifiers.map (·.matcher), filter := filter.map (·.members) }

end LiveEngine

def LivePreparation.still (p : LivePreparation kit) : Preparation :=
  ⟨p.engine.still, p.report, p.filterFault⟩

end FormatScan
