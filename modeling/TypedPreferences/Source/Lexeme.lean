import TypedPreferences.Text.Blank
import TypedPreferences.Text.Letter
import TypedPreferences.Text.Quoted

/-! Lexemes: how many characters at the front of a text make up a blank, a comment, a name or a
literal. -/

namespace TypedPreferences.Source.Lexeme

open TypedPreferences.Text

def marks : List Char :=
  "~!@#$%^&*-=+|;:,<.>/?'".toList

def startsWith (text : String) (cs : List Char) : Bool :=
  text.toList.isPrefixOf cs

def plainName? : List Char → Option Nat
  | c :: rest => if isIdentStart c then some (1 + (rest.takeWhile isIdentContinue).length) else none
  | [] => none

/-- The length of a name, raw or not; five words have no raw form. -/
def name? (cs : List Char) : Option Nat :=
  if startsWith "r#" cs then do
    let n ← plainName? (cs.drop 2)
    let word := String.ofList ((cs.drop 2).take n)
    if ["_", "super", "self", "Self", "crate"].contains word then none else some (n + 2)
  else
    plainName? cs

def quotedOpenings : List String :=
  ["r\"", "r#\"", "r##", "b\"", "b'", "br\"", "br#", "c\"", "cr\"", "cr#"]

def ident? (cs : List Char) : Option Nat :=
  if quotedOpenings.any (startsWith · cs) then none else name? cs

/-- The length of the suffix after a literal, which may be missing. -/
def suffix (cs : List Char) : Nat :=
  (plainName? cs).getD 0

def withSuffix (cs : List Char) (n : Nat) : Nat :=
  n + suffix (cs.drop n)

/-- The length of the characters of a raw text up to and including the closing quote and its hashes.
-/
def rawBody? (allowed : Char → Bool) (hashes : Nat) : List Char → Option Nat
  | [] => none
  | '"' :: rest =>
    if (rest.take hashes).length == hashes && (rest.take hashes).all (· == '#') then
      some (1 + hashes)
    else (rawBody? allowed hashes rest).map (· + 1)
  | '\r' :: '\n' :: rest => (rawBody? allowed hashes rest).map (· + 2)
  | c :: rest => if c != '\r' && allowed c then (rawBody? allowed hashes rest).map (· + 1) else none

/-- The length of a raw text after the letter that opens it: hashes, a quote, the body, a quote and
as many hashes. -/
def raw? (allowed : Char → Bool) (cs : List Char) : Option Nat :=
  let hashes := (cs.takeWhile (· == '#')).length
  match cs.drop hashes with
  | '"' :: rest =>
    if hashes > 255 then none else (rawBody? allowed hashes rest).map (· + (hashes + 1))
  | _ => none

def cooked? (f : Quoted.Flavour) (cs : List Char) : Option Nat :=
  Quoted.lengthFrom? f .plain cs

def charEscape? (bytes : Bool) : List Char → Option Nat
  | 'x' :: a :: b :: _ =>
    match hexDigit? a, hexDigit? b with
    | some high, some _ => if bytes || high ≤ 7 then some 3 else none
    | _, _ => none
  | 'u' :: '\x7b' :: rest =>
    let body := rest.takeWhile fun c => (hexDigit? c).isSome || c == '_'
    let digits := body.filterMap hexDigit?
    let value := digits.foldl (fun n d => 16 * n + d) 0
    if !bytes && body.head? != some '_' && digits.length > 0 && digits.length ≤ 6 &&
      (charOfNat? value).isSome &&
        (rest.drop body.length).head? == some '\x7d' then
      some (3 + body.length)
    else none
  | c :: _ => if ['n', 'r', 't', '\\', '0', '\'', '"'].contains c then some 1 else none
  | [] => none

/-- The length of a character literal after its opening quote: one character or an escape, and the
closing quote. -/
def charBody? (bytes : Bool) : List Char → Option Nat
  | '\\' :: rest => do
    let n ← charEscape? bytes rest
    if (rest.drop n).head? == some '\'' then some (n + 2) else none
  | c :: '\'' :: _ => if bytes && c.toNat ≥ 128 then none else some 2
  | _ => none

/-- The length of a quoted literal: a text, a byte text, a text without nulls, a byte or a
character. -/
def quoted? (cs : List Char) : Option Nat :=
  match cs with
  | '"' :: rest => (cooked? .text rest).map (· + 1)
  | 'b' :: '"' :: rest => (cooked? .bytes rest).map (· + 2)
  | 'b' :: '\'' :: rest => (charBody? true rest).map (· + 2)
  | 'b' :: 'r' :: rest => (raw? (fun c => c.toNat < 128) rest).map (· + 2)
  | 'c' :: '"' :: rest => (cooked? .zeroFree rest).map (· + 2)
  | 'c' :: 'r' :: rest => (raw? (fun c => c.toNat != 0) rest).map (· + 2)
  | 'r' :: rest => (raw? (fun _ => true) rest).map (· + 1)
  | '\'' :: rest => (charBody? false rest).map (· + 1)
  | _ => none

/-- The digits of a number with a fraction or an exponent: their count, and whether each of the two
was seen. -/
structure FloatDigits where
  length : Nat
  dot : Bool
  exponent : Bool

/-- The digits up to and including an exponent mark; `none` when a dot begins a range, a field or a
method. -/
def mantissa? (dot : Bool) : List Char → Option FloatDigits
  | [] => some ⟨0, dot, false⟩
  | '.' :: rest =>
    if dot then some ⟨0, dot, false⟩
    else if rest.head?.any fun c => c == '.' || isIdentStart c then none
    else (mantissa? true rest).map fun d => { d with length := d.length + 1 }
  | c :: rest =>
    if c.isDigit || c == '_' then
      (mantissa? dot rest).map fun d => { d with length := d.length + 1 }
    else if c == 'e' || c == 'E' then some ⟨1, dot, true⟩
    else some ⟨0, dot, false⟩

/-- The length of an exponent after its mark: low lines, one sign before the digits, at least one
digit; a second sign is an error. -/
def exponent? (sign digit : Bool) : List Char → Option Nat
  | [] => if digit then some 0 else none
  | c :: rest =>
    if c == '+' || c == '-' then
      if digit then some 0 else if sign then none else (exponent? true digit rest).map (· + 1)
    else if c.isDigit then (exponent? sign true rest).map (· + 1)
    else if c == '_' then (exponent? sign digit rest).map (· + 1)
    else if digit then some 0
    else none

def floatDigits? (cs : List Char) : Option Nat := do
  guard (cs.head?.any Char.isDigit)
  let d ← mantissa? false (cs.drop 1)
  guard (d.dot || d.exponent)
  if d.exponent then
    match exponent? false false (cs.drop (d.length + 1)) with
    | some n => some (d.length + 1 + n)
    | none => if d.dot then some d.length else none
  else
    some (d.length + 1)

def numberEnd? (cs : List Char) (n : Nat) : Option Nat :=
  let m := withSuffix cs n
  if (cs.drop m).head?.any isIdentContinue then none else some m

/-- The digits of a whole number to a base: their count, `none` at a digit the base does not have.
-/
def digitsTo? (base : Nat) (empty : Bool) : List Char → Option Nat
  | [] => if empty then none else some 0
  | c :: rest =>
    if c == '_' then
      if empty && base == 10 then none else (digitsTo? base empty rest).map (· + 1)
    else
      match hexDigit? c with
      | some d =>
        if d < base then (digitsTo? base false rest).map (· + 1)
        else if c.isDigit then none
        else if empty then none
        else some 0
      | none => if empty then none else some 0

def intDigits? (cs : List Char) : Option Nat :=
  if startsWith "0x" cs then (digitsTo? 16 true (cs.drop 2)).map (· + 2)
  else if startsWith "0o" cs then (digitsTo? 8 true (cs.drop 2)).map (· + 2)
  else if startsWith "0b" cs then (digitsTo? 2 true (cs.drop 2)).map (· + 2)
  else digitsTo? 10 true cs

def number? (cs : List Char) : Option Nat :=
  ((floatDigits? cs).bind (numberEnd? cs)).or ((intDigits? cs).bind (numberEnd? cs))

def literal? (cs : List Char) : Option Nat :=
  ((quoted? cs).map (withSuffix cs)).or (number? cs)

/-- What stands for an expansion that failed: a literal, although it looks like a comment in
parentheses. -/
def failedExpansion : String := "(/*ERROR*/)"

/-- The length of a nested block comment, counted from its opening. -/
def blockComment? (depth : Nat) : List Char → Option Nat
  | '/' :: '*' :: rest => (blockComment? (depth + 1) rest).map (· + 2)
  | '*' :: '/' :: rest => if depth ≤ 1 then some 2 else (blockComment? (depth - 1) rest).map (· + 2)
  | _ :: rest => (blockComment? depth rest).map (· + 1)
  | [] => none

def lineBody : List Char → List Char
  | [] => []
  | '\n' :: _ => []
  | '\r' :: '\n' :: _ => []
  | c :: rest => c :: lineBody rest

def isSpace (c : Char) : Bool :=
  isBlank c || c == '\u200e' || c == '\u200f'

/-- The length of one blank or comment at the front; zero when there is none. -/
def skipped (cs : List Char) : Nat :=
  match cs with
  | '/' :: '/' :: rest =>
    if (startsWith "/" rest && !startsWith "//" rest) || startsWith "!" rest then 0
    else 2 + (lineBody rest).length
  | '/' :: '*' :: rest =>
    if startsWith "*/" rest then 4
    else if (startsWith "*" rest && !startsWith "**" rest) || startsWith "!" rest then 0
    else (blockComment? 0 cs).getD 0
  | c :: _ => if isSpace c then 1 else 0
  | [] => 0

/-- A documentation comment: its length, its text, and whether it belongs to what encloses it. -/
structure DocComment where
  length : Nat
  text : List Char
  inner : Bool

def carriagesPaired : List Char → Bool
  | [] => true
  | '\r' :: '\n' :: rest => carriagesPaired rest
  | '\r' :: _ => false
  | _ :: rest => carriagesPaired rest

def lineDoc (inner : Bool) (rest : List Char) : DocComment :=
  let body := lineBody rest
  -- a line that ends in a carriage return and a line feed gives up the carriage return
  let ended := if (rest.drop body.length).head? == some '\r' then 1 else 0
  ⟨3 + body.length + ended, body, inner⟩

def blockDoc? (inner : Bool) (cs : List Char) : Option DocComment :=
  (blockComment? 0 cs).bind fun n =>
    -- a comment too short to have a body is no documentation
    if n < 5 then none else some ⟨n, (cs.drop 3).take (n - 5), inner⟩

def docComment? (cs : List Char) : Option DocComment :=
  let found : Option DocComment :=
    match cs with
    | '/' :: '/' :: '!' :: rest => some (lineDoc true rest)
    | '/' :: '*' :: '!' :: _ => blockDoc? true cs
    | '/' :: '/' :: '/' :: rest => if startsWith "/" rest then none else some (lineDoc false rest)
    | '/' :: '*' :: '*' :: rest => if startsWith "*" rest then none else blockDoc? false cs
    | _ => none
  found.filter (carriagesPaired ·.text)

/-- A punctuation mark at the front; the slash of a comment is none. -/
def mark? : List Char → Option Char
  | c :: rest =>
    if c == '/' && (startsWith "/" rest || startsWith "*" rest) then none
    else if marks.contains c then some c
    else none
  | [] => none

end TypedPreferences.Source.Lexeme
