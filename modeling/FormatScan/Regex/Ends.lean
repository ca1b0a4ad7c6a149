import FormatScan.Regex.Haystack
/-!
Matching: from the set of places where a match may begin to the set of places where it may end.
-/

namespace FormatScan.Regex

/-- Applies a step `count` times, but not on and on where it changes nothing. -/
def iterate (step : Nat → Nat) : Nat → Nat → Nat
  | 0, s => s
  | count + 1, s =>
    let next := step s
    if next = s then s else iterate step count next

/-- The places that at most `count` steps lead to, where `reached` are known already and
`frontier` are those of them that are new. -/
def reach (step : Nat → Nat) : (count frontier reached : Nat) → Nat
  | 0, _, reached => reached
  | count + 1, frontier, reached =>
    let next := step frontier
    let fresh := next ^^^ (next &&& reached)
    if fresh = 0 then reached else reach step count fresh (reached ||| fresh)

/-- The places that single steps within `mask` lead to, by steps that double in length. -/
def spread : (rounds length mask s : Nat) → Nat
  | 0, _, _, s => s
  | rounds + 1, length, mask, s =>
    spread rounds (length * 2) (mask &&& (mask >>> length)) (s ||| ((s &&& mask) <<< length))

namespace Haystack

def stepByte (h : Haystack) (set : ByteSet) (s : Nat) : Nat := h.select set s <<< 1

def stepScalar (h : Haystack) (set : Unicode.Ranges) (s : Nat) : Nat :=
  let ofLength (length : Nat) : Nat :=
    h.filter (fun i =>
      match h.decodeAt? h.size i with
      | some (n, size) => size == length && set.contains n
      | none => false) s <<< length
  ofLength 1 ||| ofLength 2 ||| ofLength 3 ||| ofLength 4

def spreadByte (h : Haystack) (set : ByteSet) (s : Nat) : Nat :=
  spread (depthOf h.size) 1 (h.select set h.inner) s

/-- The places where a match that begins at a place of `s` may end. A repetition without a bound
is one that is bounded by the number of places. -/
def ends (h : Haystack) : Expr → Nat → Nat
  | .empty, s => s
  | .byte set, s => h.stepByte set s
  | .scalar set, s => h.stepScalar set s
  | .look condition, s => h.lookAt condition s
  | .seq first second, s =>
    let middle := h.ends first s
    if middle = 0 then 0 else h.ends second middle
  | .alt left right, s => h.ends left s ||| h.ends right s
  | .repeated min max _ body, s =>
    let start := iterate (h.ends body) min s
    match max, body.bare with
    | none, .byte set => h.spreadByte set start
    | none, _ => reach (h.ends body) (h.size + 1) start start
    | some max, _ => reach (h.ends body) (max - min) start start
  | .group _ body, s => h.ends body s

def isMatch (h : Haystack) (e : Expr) : Bool := h.ends e h.places != 0

end Haystack

end FormatScan.Regex
