import TypedPreferences.Source.Item

/-! Readers take tokens from the front of a sequence and write the normal spelling of what they
took: marks of one operator joint, all else apart. A reader fails when the tokens are not of its
form. -/

namespace TypedPreferences.Source

/-- What is left to read, and the normal spelling of what was read. -/
structure Cursor where
  rest : List Token
  written : Array Token := #[]

abbrev Reader := StateT Cursor Option

namespace Reader

theorem bind_eq_some {α β : Type} {p : Reader α} {f : α → Reader β} {c c' : Cursor} {b : β} :
    (p >>= f) c = some (b, c') ↔ ∃ a c₁, p c = some (a, c₁) ∧ f a c₁ = some (b, c') := by
  constructor
  · intro hrun
    obtain ⟨⟨a, c₁⟩, hp, hf⟩ := Option.bind_eq_some_iff.1 hrun
    exact ⟨a, c₁, hp, hf⟩
  · rintro ⟨a, c₁, hp, hf⟩
    exact Option.bind_eq_some_iff.2 ⟨(a, c₁), hp, hf⟩

def rest : Reader (List Token) := do
  return (← get).rest

def looks (test : List Token → Bool) : Reader Bool := do
  return test (← rest)

def require (condition : Bool) : Reader Unit :=
  if condition then pure () else failure

def write (ts : List Token) : Reader Unit :=
  modify fun c => { c with written := c.written ++ ts.toArray }

def moveTo (rest : List Token) : Reader Unit :=
  modify fun c => { c with rest }

/-- Reads and takes back what was written; the writing is the second result. -/
def capture {α : Type} (p : Reader α) : Reader (α × List Token) := do
  let before := (← get).written
  modify fun c => { c with written := #[] }
  let a ← p
  let spelled := (← get).written.toList
  modify fun c => { c with written := before }
  return (a, spelled)

def spelling (p : Reader Unit) : Reader (List Token) := do
  let (_, ts) ← capture p
  return ts

def noting {α : Type} (p : Reader α) : Reader (α × List Token) := do
  let (a, ts) ← capture p
  write ts
  return (a, ts)

def silently {α : Type} (p : Reader α) : Reader α := do
  let (a, _) ← capture p
  return a

/-- The result of a reader, when it succeeds, without taking anything. -/
def ahead? {α : Type} (p : Reader α) : Reader (Option α) := fun c =>
  some ((p c).map (·.1), c)

/-- Takes what a reader takes. When the reading says so it is written as it stands in the source,
otherwise in its normal spelling. -/
def verbatimWhen {α : Type} (asItStands : α → Bool) (p : Reader α) : Reader α := do
  let before ← rest
  let (a, spelled) ← capture p
  let after ← rest
  write (if asItStands a then before.take (before.length - after.length) else spelled)
  return a

def verbatim {α : Type} (p : Reader α) : Reader α :=
  verbatimWhen (fun _ => true) p

def atEnd : Reader Bool := looks List.isEmpty

/-- Repeats a step while it asks for more; every step takes a token. -/
def repeatFrom {α : Type} (fuel : Nat) (step : Reader (Option α)) : Reader (List α) :=
  match fuel with
  | 0 => failure
  | fuel + 1 => do
    match ← step with
    | some a => return a :: (← repeatFrom fuel step)
    | none => return []

def repeated {α : Type} (step : Reader (Option α)) : Reader (List α) := do
  repeatFrom ((← rest).length + 1) step

def whileLooks {α : Type} (test : List Token → Bool) (p : Reader α) : Reader (List α) :=
  repeated do
    if ← looks test then return some (← p) else return none

/-- Readings up to a stop, each but the last followed by a separator; a separator may also follow
the last. -/
def separatedFrom {α : Type} (fuel : Nat) (stop : List Token → Bool) (separator : Reader Bool)
    (p : Reader α) : Reader (List α) :=
  match fuel with
  | 0 => failure
  | fuel + 1 => do
    if ← looks stop then return []
    let a ← p
    if ← separator then return a :: (← separatedFrom fuel stop separator p) else return [a]

end Reader

/-- What stands after the first token; a lifetime is one token here. -/
def tail : List Token → List Token
  | .punct '\'' true :: .ident _ :: rest => rest
  | _ :: rest => rest
  | [] => []

/-- Whether tokens begin with the marks of an operator. A mark after the last may be joint to it. -/
def beginsWithMarks : List Char → List Token → Bool
  | [], _ => true
  | [c], t :: _ => t.isMark c
  | c :: rest, t :: ts => t.isMark c && t.isJoint && beginsWithMarks rest ts
  | _, [] => false

def atMark (op : String) (ts : List Token) : Bool :=
  beginsWithMarks op.toList ts

def atWord (word : String) : List Token → Bool
  | t :: _ => t.isWord word
  | [] => false

def atGroup (d : Delimiter) : List Token → Bool
  | .group d' _ :: _ => d == d'
  | _ => false

def keywords : List String :=
  ["_", "abstract", "as", "async", "await", "become", "box", "break", "const", "continue", "crate",
    "do", "dyn", "else", "enum", "extern", "false", "final", "fn", "for", "if", "impl", "in", "let",
    "loop", "macro", "match", "mod", "move", "mut", "override", "priv", "pub", "ref", "return",
    "Self", "self", "static", "struct", "super", "trait", "true", "try", "type", "typeof", "unsafe",
    "unsized", "use", "virtual", "where", "while", "yield"]

def atAnyWord : List Token → Bool
  | .ident _ :: _ => true
  | _ => false

def atName : List Token → Bool
  | .ident text :: _ => !keywords.contains text
  | _ => false

def atLifetime : List Token → Bool
  | .punct '\'' true :: .ident _ :: _ => true
  | _ => false

def isNumber (text : String) : Bool :=
  text.toList.head?.any Char.isDigit

/-- Whether tokens begin with a literal: a truth value and a negative number are literals too. -/
def atLiteral : List Token → Bool
  | .literal _ :: _ => true
  | .ident text :: _ => text == "true" || text == "false"
  | .punct '-' _ :: .literal text :: _ => isNumber text
  | _ => false

def isTextLiteral (text : String) : Bool :=
  match text.toList with
  | '"' :: _ => true
  | 'r' :: _ => true
  | _ => false

def atTextLiteral : List Token → Bool
  | .literal text :: _ => isTextLiteral text
  | _ => false

def atPathWord (ts : List Token) : Bool :=
  atName ts || atWord "super" ts || atWord "self" ts || atWord "Self" ts || atWord "crate" ts

namespace Reader

def mark (op : String) : Reader Unit := do
  let ts ← rest
  require (atMark op ts)
  moveTo (ts.drop op.length)
  write (Token.operator op)

def mark? (op : String) : Reader Bool := do
  if ← looks (atMark op) then
    mark op
    return true
  else
    return false

def anyWord : Reader String := do
  match ← rest with
  | .ident text :: ts =>
    moveTo ts
    write [.ident text]
    return text
  | _ => failure

def word (text : String) : Reader Unit := do
  require (← looks (atWord text))
  let _ ← anyWord

def word? (text : String) : Reader Bool := do
  if ← looks (atWord text) then
    word text
    return true
  else
    return false

def name : Reader String := do
  require (← looks atName)
  anyWord

def lifetime : Reader String := do
  match ← rest with
  | .punct '\'' true :: .ident text :: ts =>
    moveTo ts
    write (Token.lifetime text)
    return text
  | _ => failure

def literal : Reader Unit := do
  require (← looks atLiteral)
  match ← rest with
  | .punct '-' _ :: t :: ts =>
    moveTo ts
    write [.punct '-' false, t]
  | t :: ts =>
    moveTo ts
    write [t]
  | [] => failure

def inside {α : Type} (d : Delimiter) (p : Reader α) : Reader α := do
  match ← rest with
  | .group d' body :: ts =>
    require (d == d')
    let before := (← get).written
    set (⟨body, #[]⟩ : Cursor)
    let a ← p
    require (← atEnd)
    let spelled := (← get).written.toList
    set (⟨ts, before.push (.group d spelled)⟩ : Cursor)
    return a
  | _ => failure

def rawGroup : Reader Delimiter := do
  match ← rest with
  | .group d body :: ts =>
    moveTo ts
    write [.group d body]
    return d
  | _ => failure

def commaSeparated {α : Type} (p : Reader α) : Reader (List α) :=
  repeated do
    if ← atEnd then return none
    let a ← p
    if !(← atEnd) then mark ","
    return some a

def separated {α : Type} (stop : List Token → Bool) (op : String) (p : Reader α) :
    Reader (List α) := do
  separatedFrom ((← rest).length + 1) stop (mark? op) p

def readAll? {α : Type} (p : Reader α) (ts : List Token) : Option α := do
  let (a, c) ← p ⟨ts, #[]⟩
  if c.rest.isEmpty then some a else none

end Reader

end TypedPreferences.Source
