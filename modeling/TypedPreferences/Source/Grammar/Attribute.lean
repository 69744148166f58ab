import TypedPreferences.Source.Grammar.Path

/-! Attributes, and the options inside the brackets of one. -/

namespace TypedPreferences.Source.Grammar

open Reader

/-- What follows the path of an attribute. A value is one literal up to the end, or else an
expression. -/
def attributeBody (r : Rules) : Reader AttributeBody := do
  match ← rest with
  | .group d args :: _ =>
    let _ ← rawGroup
    return .list d args
  | ts =>
    if atMark "=" ts then
      mark "="
      let ts ← rest
      require (!(atMark "#" ts && atGroup .bracket (tail ts)))
      let ((), spelled) ← noting do
        if (← ahead? (do literal; require (← atEnd))).isSome then literal
        else
          let _ ← r.expr
      return .value spelled
    else
      return .word

def oneAttribute (r : Rules) (inner : Bool) : Reader Attribute := do
  mark "#"
  if inner then mark "!"
  inside .bracket do
    let path ← if ← looks (atWord "unsafe") then NamePath.single <$> anyWord else modPath
    return ⟨inner, path, ← attributeBody r⟩

def outerAttributes (r : Rules) : Reader (List Attribute) :=
  whileLooks (atMark "#") (oneAttribute r false)

def innerAttributes (r : Rules) : Reader (List Attribute) :=
  whileLooks (fun ts => atMark "#" ts && atMark "!" (tail ts)) (oneAttribute r true)

end TypedPreferences.Source.Grammar
