import TypedPreferences.Source.Literal
import TypedPreferences.Source.Parse

/-! Options inside the brackets of an attribute: words and assignments with commas between them. -/

namespace TypedPreferences.Source

/-- Why options are not read: they have no proper form, or an option is refused for a reason. -/
inductive Refusal (ε : Type) where
  | malformed
  | because (reason : ε)

namespace Options

open Reader

/-- The name of an option: words with double colons between them, which may be keywords. -/
def optionPath : Reader NamePath := do
  let leading ← mark? "::"
  let first ← anyWord
  let more ← repeated do
    if ← mark? "::" then return some (← anyWord) else return none
  let all := first :: more
  return ⟨⟨leading, all.dropLast.map (⟨·, []⟩)⟩, all.getLast?.getD first, []⟩

def textOption : Reader String := do
  mark "="
  match ← rest with
  | .literal text :: ts =>
    moveTo ts
    match textValue? text with
    | some value => return value
    | none => failure
  | _ => failure

def exprOption (r : Rules) : Reader (List Token) := do
  mark "="
  let (_, spelled) ← noting r.expr
  return spelled

/-- Reads options one after the other into a state; `one` reads the value of an option whose name
was read, or refuses it. What follows a refused option is not looked at. -/
def readFrom {σ ε : Type} (fuel : Nat) (one : σ → NamePath → Reader (Except ε σ)) (state : σ) :
    Reader (Except ε σ) :=
  match fuel with
  | 0 => failure
  | fuel + 1 => do
    if ← atEnd then return .ok state
    let path ← optionPath
    match ← one state path with
    | .error reason =>
      moveTo []
      return .error reason
    | .ok state =>
      if !(← atEnd) then mark ","
      readFrom fuel one state

/-- Reads the options of an attribute into a state. Only brackets hold options. -/
def ofAttribute {σ ε : Type} (one : Rules → σ → NamePath → Reader (Except ε σ)) (state : σ)
    (a : Attribute) : Except (Refusal ε) σ :=
  match a.body with
  | .list _ args =>
    match parse? (fun r => readFrom (args.length + 1) (one r) state) args with
    | some (.ok state) => .ok state
    | some (.error reason) => .error (.because reason)
    | none => .error .malformed
  | _ => .error .malformed

def ofAttributes {σ ε : Type} (name : String)
    (one : Rules → σ → NamePath → Reader (Except ε σ)) (state : σ)
      (attributes : List Attribute) : Except (Refusal ε) σ :=
  (attributes.filter (·.path.isIdent name)).foldlM (ofAttribute one) state

end Options

end TypedPreferences.Source
