import FormatScan.Engine.Basic
import FormatScan.Signature.Builtin
import FormatScan.Signature.Load
/-!
Checks that hold for any bytes: the engines agree, and signatures that were loaded can be used.
-/

namespace FormatScan.SelfCheck

def patterns : List Pattern := (Signature.compileAll .unanchored Signature.builtin).1

def scan (kind : EngineKind) (bytes : ByteArray) : Option Stats :=
  match Engine.build kind patterns with
  | .ok p => some (p.engine.scan bytes .empty)
  | .error _ => none

/-- Whether all engines find the same, and each name once at most. -/
def enginesAgree (bytes : ByteArray) : Bool :=
  match scan .backtrack bytes, scan .twoPhase bytes with
  | some a, some b =>
    a.same b && [a, b].all fun s => s.counts.entries.all fun e => e.2 == 1
  | _, _ => false

/-- Whether all signatures that are loaded from a text have a name and a field to match by. -/
def loadedAreUsable (bytes : ByteArray) : Bool :=
  match (String.fromUTF8? bytes).map Signature.parse with
  | some (.ok (signatures, _)) => signatures.all fun s => s.name != "" && !s.isEmpty
  | _ => true

end FormatScan.SelfCheck
