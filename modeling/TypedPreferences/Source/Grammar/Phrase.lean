import TypedPreferences.Source.Reader

/-! The phrases of the grammar that hold one another, and rules that read them. A reader of one
phrase gets the rules for the phrases inside it as an argument, so every phrase has its own module
and the recursion is tied in one place. -/

namespace TypedPreferences.Source

/-- A type as it is read, and, when it may be a single trait that no word introduces, the spelling
of that trait without parentheses around it. -/
structure TypeRead where
  ty : Ty
  bound : Option (List Token) := none
deriving Inhabited

/-- What a later decision needs to know of an expression: whether it is a range, whether it is a
comparison, whether it ends a statement or an arm on its own, whether it is a macro call with
braces, and whether its first operand is one that is kept as it stands in the source. -/
structure ExprForm where
  range : Bool := false
  comparison : Bool := false
  blockLike : Bool := false
  braceCall : Bool := false
  rawHead : Bool := false
deriving Inhabited

/-- What a later decision needs to know of a pattern: whether it is a range with one bound, and
whether it is kept as it stands in the source. -/
structure PatternForm where
  openRange : Bool := false
  asItStands : Bool := false
deriving Inhabited

/-- The kinds of phrases, each with what reading it yields. -/
inductive Phrase : Type → Type where
  -- A type; bounds may follow it after a plus sign or not.
  | type (plus : Bool) : Phrase TypeRead
  -- An expression; a structure literal may begin it or not.
  | expr (structs : Bool) : Phrase ExprForm
  -- An operand with its prefix operators.
  | operand (structs : Bool) : Phrase ExprForm
  -- What follows a left operand, down to a least precedence.
  | operation (structs : Bool) (left : ExprForm) (least : Nat) : Phrase ExprForm
  -- An expression as a statement or as the body of an arm.
  | standing : Phrase ExprForm
  -- A conditional with its alternatives.
  | conditional : Phrase Unit
  -- A pattern without alternatives.
  | pattern : Phrase PatternForm
  -- A block; attributes may stand at its front or not.
  | block (attributes : Bool) : Phrase Unit
  -- A tree of imported names; a double colon may begin it or not. Whether one begins a part.
  | imports (rooted : Bool) : Phrase Bool
  -- An item.
  | item : Phrase Item

abbrev Rules := (α : Type) → Phrase α → Reader α

namespace Rules

def typeRead (r : Rules) (plus : Bool := true) : Reader TypeRead := r TypeRead (.type plus)

def type (r : Rules) (plus : Bool := true) : Reader Ty := do
  return (← r.typeRead plus).ty

def expr (r : Rules) (structs : Bool := true) : Reader ExprForm := r ExprForm (.expr structs)

def operand (r : Rules) (structs : Bool) : Reader ExprForm := r ExprForm (.operand structs)

def operation (r : Rules) (structs : Bool) (left : ExprForm) (least : Nat) : Reader ExprForm :=
  r ExprForm (.operation structs left least)

def standing (r : Rules) : Reader ExprForm := r ExprForm .standing

def conditional (r : Rules) : Reader Unit := r Unit .conditional

def pattern (r : Rules) : Reader PatternForm := r PatternForm .pattern

def block (r : Rules) (attributes : Bool := true) : Reader Unit := r Unit (.block attributes)

/-- Reads imported names; whether a double colon begins a part of them. -/
def imports (r : Rules) (rooted : Bool) : Reader Bool := r Bool (.imports rooted)

def item (r : Rules) : Reader Item := r Item .item

end Rules

end TypedPreferences.Source
