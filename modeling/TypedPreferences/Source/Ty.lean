import TypedPreferences.Source.Token

/-! Types as they are written in a declaration source, and their spelling. Only the parts that
decide a type's identity are structured: the last segment of a path with its arguments, references,
slices, arrays and parentheses. -/

namespace TypedPreferences.Source

/-- A segment of a path: its name and the spelling of its arguments. -/
structure Step where
  name : String
  args : List Token
deriving Repr, Inhabited

/-- What stands before the last segment of a path: whether it begins with a double colon, and the
other segments. -/
structure Qualifier where
  leading : Bool := false
  steps : List Step := []
deriving Repr, Inhabited

mutual

inductive Ty where
  -- A path whose last segment has no arguments.
  | plain (qualifier : Qualifier) (name : String)
  -- A path whose last segment has arguments, after a double colon or not, with a comma after the
  -- last or not.
  | applied (qualifier : Qualifier) (name : String) (turbofish : Bool) (args : List Arg)
    (trailing : Bool)
  -- A path through a type in angle marks, given by its spelling and its last name.
  | projection (spelling : List Token) (last : String)
  -- A reference: what stands after the mark, and the type referred to.
  | reference (modifiers : List Token) (referent : Ty)
  | slice (element : Ty)
  | array (element : Ty) (length : List Token)
  | paren (inner : Ty)
  -- Any other type: a tuple, a function pointer, a pointer, a trait object, a placeholder.
  | other (spelling : List Token)

/-- A generic argument: a type, or another argument given by its spelling. -/
inductive Arg where
  | type (ty : Ty)
  | lifetime (name : String)
  | other (spelling : List Token)

end

instance : Inhabited Ty := ⟨.other []⟩

namespace Token

def colons : List Token := operator "::"

def comma : Token := punct ',' false

/-- A list in angle marks. Lifetimes come first; each entry says whether it is one, how it is
spelled and whether a comma follows it, and a comma is put before an entry that follows one without.
-/
def angled (entries : List (Bool × List Token × Bool)) : List Token :=
  let inOrder := entries.filter (·.1) ++ entries.filter (!·.1)
  let body := inOrder.foldl
    (fun (acc : List Token × Bool) (e : Bool × List Token × Bool) =>
      (acc.1 ++ (if acc.2 then [] else [comma]) ++ e.2.1 ++ (if e.2.2 then [comma] else []), e.2.2))
    ([], true)
  [punct '<' false] ++ body.1 ++ [punct '>' false]

def withCommas (trailing : Bool) : List (Bool × List Token) → List (Bool × List Token × Bool)
  | [] => []
  | [(l, ts)] => [(l, ts, trailing)]
  | (l, ts) :: rest => (l, ts, true) :: withCommas trailing rest

end Token

def Qualifier.spelling (q : Qualifier) : List Token :=
  (if q.leading then Token.colons else []) ++
    q.steps.flatMap fun s => .ident s.name :: s.args ++ Token.colons

mutual

def Ty.tokens : Ty → List Token
  | .plain q name => q.spelling ++ [.ident name]
  | .applied q name turbofish args trailing =>
    q.spelling ++ [.ident name] ++ (if turbofish then Token.colons else []) ++
      Token.angled (Token.withCommas trailing (argTokens args))
  | .projection spelling _ => spelling
  | .reference modifiers referent => .punct '&' false :: modifiers ++ referent.tokens
  | .slice element => Token.brackets element.tokens
  | .array element length => Token.brackets (element.tokens ++ .punct ';' false :: length)
  | .paren inner => Token.parens inner.tokens
  | .other spelling => spelling

def argTokens : List Arg → List (Bool × List Token)
  | [] => []
  | .type ty :: rest => (false, ty.tokens) :: argTokens rest
  | .lifetime name :: rest => (true, Token.lifetime name) :: argTokens rest
  | .other spelling :: rest => (false, spelling) :: argTokens rest

end

/-- A named path: a type path without a type in angle marks, kept as a qualifier, a name and the
spelling of the last arguments. -/
structure NamePath where
  qualifier : Qualifier
  name : String
  args : List Token := []
deriving Repr, Inhabited

namespace NamePath

def tokens (p : NamePath) : List Token :=
  p.qualifier.spelling ++ .ident p.name :: p.args

def single (name : String) : NamePath := ⟨{}, name, []⟩

def isIdent (p : NamePath) (name : String) : Bool :=
  !p.qualifier.leading && p.qualifier.steps.isEmpty && p.args.isEmpty && p.name == name

def isModStyle (p : NamePath) : Bool :=
  p.args.isEmpty && p.qualifier.steps.all (·.args.isEmpty)

end NamePath

end TypedPreferences.Source
