/-
**The front end as a whole.**

A source text is scanned, parsed and analyzed; the first stage that fails ends it.

* `analyzeSource` — the program of a source text that obeys all rules.
-/

import TypedImp.Analysis.Resolve
import TypedImp.Parse.Program
import TypedImp.Token.Scan

namespace TypedImp

/-- The program of a source text, before its analysis. -/
def parseSource (source : String) : Except Failure Program :=
  match scan source with
  | .error error => .error (.scan error)
  | .ok tokens =>
    match parse tokens with
    | .error error => .error (.parse error)
    | .ok program => .ok program

/-- The program of a source text that obeys all rules, or the first failure. -/
def analyzeSource (source : String) : Except Failure Program := do
  let program ← parseSource source
  match analyze program defaultLimit with
  | .error error => throw (.semantic error)
  | .ok _ => return program

end TypedImp
