import TypedPreferences.Text.Printable

/-! Quoted texts: how a text is written between quotes, and how one is read, character by character.
The reader is an automaton: its length function finds the end of a quoted text, its value function
collects what the characters stand for. -/

namespace TypedPreferences.Text

def hexDigit? (c : Char) : Option Nat :=
  if '0' ≤ c && c ≤ '9' then some (c.toNat - 48)
  else if 'a' ≤ c && c ≤ 'f' then some (c.toNat - 87)
  else if 'A' ≤ c && c ≤ 'F' then some (c.toNat - 55)
  else none

def charOfNat? (n : Nat) : Option Char :=
  if n < 0xd800 || (0xdfff < n && n < 0x110000) then some (Char.ofNat n) else none

def hexDigits (n : Nat) : List Char :=
  Nat.toDigits 16 n

namespace Quoted

/-- What a quoted text may hold: any text, ASCII bytes, or a text without the null character. -/
inductive Flavour where
  | text
  | bytes
  | zeroFree
deriving DecidableEq, Repr

/-- Where the reader stands inside a quoted text. -/
inductive Place where
  | plain
  | carriage
  | escape
  | firstHex
  | secondHex (high : Nat)
  | openBrace
  | digits (value count : Nat)
  | skipping
  | skippingCarriage
deriving DecidableEq, Repr

/-- What one character does: it closes the text, or leads to another place and may stand for a
character, or may not stand here. -/
inductive Outcome where
  | close
  | next (place : Place) (meaning : Option Char)
  | refuse

def plainStep (f : Flavour) (c : Char) : Outcome :=
  if c == '"' then .close
  else if c == '\r' then .next .carriage none
  else if c == '\\' then .next .escape none
  else if (f == .zeroFree && c.toNat == 0) || (f == .bytes && c.toNat ≥ 128) then .refuse
  else .next .plain (some c)

def escapeStep (f : Flavour) (c : Char) : Outcome :=
  match c with
  | 'x' => .next .firstHex none
  | 'n' => .next .plain (some '\n')
  | 'r' => .next .plain (some '\r')
  | 't' => .next .plain (some '\t')
  | '\\' => .next .plain (some '\\')
  | '\'' => .next .plain (some '\'')
  | '"' => .next .plain (some '"')
  | '0' => if f == .zeroFree then .refuse else .next .plain (some (Char.ofNat 0))
  | 'u' => if f == .bytes then .refuse else .next .openBrace none
  | '\n' => .next .skipping none
  | '\r' => .next .skippingCarriage none
  | _ => .refuse

/-- The digits between braces of a numbered character: one to six, low lines between them. -/
def digitStep (f : Flavour) (value count : Nat) (c : Char) : Outcome :=
  if c == '_' && count > 0 then .next (.digits value count) none
  else if c == '\x7d' && count > 0 then
    match charOfNat? value with
    | some d => if f == .zeroFree && value == 0 then .refuse else .next .plain (some d)
    | none => .refuse
  else
    match hexDigit? c with
    | some d => if count < 6 then .next (.digits (16 * value + d) (count + 1)) none else .refuse
    | none => .refuse

def step (f : Flavour) (place : Place) (c : Char) : Outcome :=
  match place with
  | .plain => plainStep f c
  | .carriage => if c == '\n' then .next .plain (some '\n') else .refuse
  | .escape => escapeStep f c
  | .firstHex =>
    match hexDigit? c with
    | some d => if f == .text && d > 7 then .refuse else .next (.secondHex d) none
    | none => .refuse
  | .secondHex high =>
    match hexDigit? c with
    | some d =>
      if f == .zeroFree && high == 0 && d == 0 then .refuse
      else .next .plain (some (Char.ofNat (16 * high + d)))
    | none => .refuse
  | .openBrace => if c == '\x7b' then .next (.digits 0 0) none else .refuse
  | .digits value count => digitStep f value count c
  | .skipping =>
    if c == '\r' then .next .skippingCarriage none
    else if c == ' ' || c == '\t' || c == '\n' then .next .skipping none
    else plainStep f c
  | .skippingCarriage => if c == '\n' then .next .skipping none else .refuse

def lengthFrom? (f : Flavour) : Place → List Char → Option Nat
  | _, [] => none
  | place, c :: rest =>
    match step f place c with
    | .close => some 1
    | .next place' _ => (lengthFrom? f place' rest).map (· + 1)
    | .refuse => none

def valueFrom? (f : Flavour) : Place → List Char → Option (List Char)
  | _, [] => none
  | place, c :: rest =>
    match step f place c with
    | .close => some []
    | .next place' meaning => (valueFrom? f place' rest).map (meaning.toList ++ ·)
    | .refuse => none

/-- A character as it stands between quotes, given the character after it: a null before an octal
digit is written in two digits, so that the digit is not taken for a part of it. -/
def encodeChar (c : Char) (next : Option Char) : List Char :=
  match c with
  | '"' => ['\\', '"']
  | '\\' => ['\\', '\\']
  | '\n' => ['\\', 'n']
  | '\r' => ['\\', 'r']
  | '\t' => ['\\', 't']
  | c =>
    if c.toNat == 0 then
      if next.any fun d => '0' ≤ d && d ≤ '7' then ['\\', 'x', '0', '0'] else ['\\', '0']
    else if isPrintable c then [c]
    else ['\\', 'u', '\x7b'] ++ hexDigits c.toNat ++ ['\x7d']

def encodeBody : List Char → List Char
  | [] => []
  | c :: rest => encodeChar c rest.head? ++ encodeBody rest

def encode (text : String) : String :=
  String.ofList ('"' :: encodeBody text.toList ++ ['"'])

end Quoted

end TypedPreferences.Text
