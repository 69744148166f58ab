import TypedPreferences.Derive.Expand
import TypedPreferences.Emission.Cut
import TypedPreferences.Proofs.Emission.Members
import TypedPreferences.Proofs.Text.Decimal

/-! What the emitted ordinals of an enumeration say: the elements of the array, and what a function
whose body is a match gives, by the first arm that takes its argument. The tokens are an array and
two functions; each expression, arm and member of them is read back as what it spells. -/

namespace TypedPreferences.Derive

open Source Emission

/-- What the expressions of an emitted enumeration denote: an entry, an ordinal, or an entry that is
found or not. -/
inductive Denoted where
  | entry (name : String)
  | ordinal (n : Int32)
  | found (entry : Option String)
deriving DecidableEq

/-- The number of 32 bits that a literal with its type spells. -/
def int32Of? (text : String) : Option Int32 :=
  let cs := text.toList
  let digits := cs.length - "i32".length
  if cs.drop digits = "i32".toList then Text.int32? (cs.take digits) else none

def Denoted.ofTokens? : List Token → Option Denoted
  | [.ident "Self", .punct ':' true, .punct ':' false, .ident name] => some (.entry name)
  | [.literal text] => (int32Of? text).map .ordinal
  | [.punct ':' true, .punct ':' false, .ident "core", .punct ':' true, .punct ':' false,
      .ident "option", .punct ':' true, .punct ':' false, .ident "Option", .punct ':' true,
      .punct ':' false, .ident "Some",
      .group .paren [.ident "Self", .punct ':' true, .punct ':' false, .ident name]] =>
    some (.found (some name))
  | [.punct ':' true, .punct ':' false, .ident "core", .punct ':' true, .punct ':' false,
      .ident "option", .punct ':' true, .punct ':' false, .ident "Option", .punct ':' true,
      .punct ':' false, .ident "None"] => some (.found none)
  | _ => none

/-- The parts of tokens between commas; one comma may follow the last part. -/
def parts (ts : List Token) : List (List Token) :=
  (ts.splitOnP (·.isMark ',')).filter (!·.isEmpty)

/-- The pattern of an arm and its result. -/
def arm? (ts : List Token) : Option (List Token × List Token) :=
  match ts.dropWhile (!·.isMark '=') with
  | .punct '=' true :: .punct '>' false :: result => some (ts.takeWhile (!·.isMark '='), result)
  | _ => none

def takes (argument : Denoted) : List Token → Bool
  | [.ident "_"] => true
  | pattern => Denoted.ofTokens? pattern = some argument

/-- What the arms of a match give for an argument: the result of the first arm that takes it. -/
def matched? (arms : List Token) (argument : Denoted) : Option Denoted := do
  let arm ← (← (parts arms).mapM arm?).find? fun arm => takes argument arm.1
  Denoted.ofTokens? arm.2

/-- The members of an implementation. -/
def membersOf (ts : List Token) : List (List Token) :=
  match ts.getLast? with
  | some (.group .brace body) => cut body
  | _ => []

/-- What an emitted function whose body is a match on its parameter gives for an argument. -/
def called? (ts : List Token) (function parameter : String) (argument : Denoted) :
    Option Denoted := do
  let declared ← (membersOf ts).find? (declaredFunction? · == some function)
  match declared.getLast? with
  | some (.group .brace [.ident "match", .ident word, .group .brace arms]) =>
    if word = parameter then matched? arms argument else none
  | _ => none

/-- The elements of an emitted array. -/
def elements? (ts : List Token) (constant : String) : Option (List Denoted) := do
  let declared ← (membersOf ts).find? fun
    | .ident "const" :: .ident name :: _ => name = constant
    | _ => false
  match declared.dropWhile (!·.isMark '=') with
  | [.punct '=' _, .punct '&' _, .group .bracket elements, .punct ';' _] =>
    (parts elements).mapM Denoted.ofTokens?
  | _ => none

section Expressions

def entryPath (name : String) : List Token :=
  [.ident "Self", .punct ':' true, .punct ':' false, .ident name]

def arrow : List Token := [.punct '=' true, .punct '>' false]

def optionPath (variant : String) : List Token :=
  [.punct ':' true, .punct ':' false, .ident "core", .punct ':' true, .punct ':' false,
    .ident "option", .punct ':' true, .punct ':' false, .ident "Option", .punct ':' true,
    .punct ':' false, .ident variant]

/-- The tokens of an arm: its pattern, the arrow and its result. -/
def spelledArm (arm : List Token × List Token) : List Token :=
  arm.1 ++ arrow ++ arm.2

/-- The tokens of arms one after another, each with a comma. -/
def spelledArms (arms : List (List Token × List Token)) : List Token :=
  arms.flatMap fun a => spelledArm a ++ [Token.comma]

/-- The arm that leads from an entry to its ordinal. -/
def ordinalArm (e : String × Nat) : List Token × List Token :=
  (entryPath e.1, [int32Literal (Int32.ofNat e.2)])

/-- The arm that leads back. -/
def foundArm (e : String × Nat) : List Token × List Token :=
  ([int32Literal (Int32.ofNat e.2)], optionPath "Some" ++ Token.parens (entryPath e.1))

/-- The arm that takes all other numbers. -/
def otherwiseArm : List Token × List Token :=
  ([.ident "_"], optionPath "None")

theorem int32Of?_spelled (n : Int32) :
    int32Of? (String.ofList (Text.signedDecimal n.toInt ++ "i32".toList)) = some n := by
  have htype : "i32".toList.length = "i32".length := rfl
  unfold int32Of?
  dsimp only
  rw [String.toList_ofList, List.length_append, htype, Nat.add_sub_cancel, List.drop_left,
    if_pos rfl, List.take_left, Text.int32?_signedDecimal]

theorem ofTokens?_entryPath (name : String) :
    Denoted.ofTokens? (entryPath name) = some (.entry name) :=
  rfl

theorem ofTokens?_int32Literal (n : Int32) :
    Denoted.ofTokens? [int32Literal n] = some (.ordinal n) := by
  have hliteral (text : String) :
      Denoted.ofTokens? [.literal text] = (int32Of? text).map .ordinal := rfl
  rw [int32Literal, hliteral, int32Of?_spelled, Option.map_some]

theorem ofTokens?_some (name : String) :
    Denoted.ofTokens? (optionPath "Some" ++ Token.parens (entryPath name)) =
      some (.found (some name)) :=
  rfl

theorem ofTokens?_none : Denoted.ofTokens? (optionPath "None") = some (.found none) :=
  rfl

end Expressions

section Templates

variable (e : String × Nat)

theorem lookup_entry : (entryHoles e).lookup "entry" = some [.ident e.1] :=
  rfl

theorem lookup_ordinal : (entryHoles e).lookup "ordinal" = some [int32Literal (Int32.ofNat e.2)] :=
  rfl

theorem fill_entry : fill (entryHoles e) "Self::$entry" = entryPath e.1 := by
  rw [fill_of_tokens? _ [.ident "Self", .punct ':' true, .punct ':' true, .punct '$' false,
    .ident "entry"] rfl]
  simp [fillTokens, fillToken, isPair, lookup_entry, entryPath]

theorem fill_ordinal : fill (entryHoles e) "Self::$entry => $ordinal," =
    spelledArm (ordinalArm e) ++ [Token.comma] := by
  rw [fill_of_tokens? _ [.ident "Self", .punct ':' true, .punct ':' true, .punct '$' false,
    .ident "entry", .punct '=' true, .punct '>' false, .punct '$' false, .ident "ordinal",
    .punct ',' false] rfl]
  simp [fillTokens, fillToken, isPair, lookup_entry, lookup_ordinal, spelledArm, ordinalArm,
    entryPath, arrow, Token.comma]

theorem fill_found :
    fill (entryHoles e) "$ordinal => ::core::option::Option::Some(Self::$entry)," =
      spelledArm (foundArm e) ++ [Token.comma] := by
  rw [fill_of_tokens? _ [.punct '$' false, .ident "ordinal", .punct '=' true, .punct '>' false,
    .punct ':' true, .punct ':' false, .ident "core", .punct ':' true, .punct ':' false,
    .ident "option", .punct ':' true, .punct ':' false, .ident "Option", .punct ':' true,
    .punct ':' false, .ident "Some", .group .paren [.ident "Self", .punct ':' true,
      .punct ':' true, .punct '$' false, .ident "entry"], .punct ',' false] rfl]
  simp [fillTokens, fillToken, isPair, lookup_entry, lookup_ordinal, spelledArm, foundArm,
    entryPath, arrow, optionPath, Token.parens, Token.comma]

theorem fill_otherwise : fill [] "_ => ::core::option::Option::None," =
    spelledArms [otherwiseArm] := by
  rw [fill_of_tokens? _ [.ident "_", .punct '=' true, .punct '>' false, .punct ':' true,
    .punct ':' false, .ident "core", .punct ':' true, .punct ':' false, .ident "option",
    .punct ':' true, .punct ':' false, .ident "Option", .punct ':' true, .punct ':' false,
    .ident "None", .punct ',' false] rfl]
  simp [fillTokens, fillToken, isPair, spelledArms, spelledArm, otherwiseArm, arrow, optionPath,
    Token.comma]

end Templates

section Parts

/-- Tokens that stand between two commas: there are some, and none is a comma. -/
def IsPart (ts : List Token) : Prop :=
  ts ≠ [] ∧ ∀ t ∈ ts, t.isMark ',' = false

variable {part : List Token}

theorem IsPart.not_isEmpty (h : IsPart part) : (!part.isEmpty) = true := by
  rw [Bool.not_eq_true', List.isEmpty_eq_false_iff]
  exact h.1

theorem parts_self (h : IsPart part) : parts part = [part] := by
  rw [parts, List.splitOnP_eq_singleton h.2, List.filter_cons, if_pos h.not_isEmpty]
  rfl

theorem parts_cons (h : IsPart part) (rest : List Token) :
    parts (part ++ Token.comma :: rest) = part :: parts rest := by
  rw [parts, List.splitOnP_append_cons_of_forall_mem h.2 Token.comma rfl, List.filter_cons,
    if_pos h.not_isEmpty]
  rfl

theorem parts_flatMap {ps : List (List Token)} (h : ∀ p ∈ ps, IsPart p) :
    parts (ps.flatMap (· ++ [Token.comma])) = ps := by
  induction ps with
  | nil => rfl
  | cons p ps ih =>
    obtain ⟨hp, hps⟩ := List.forall_mem_cons.1 h
    rw [List.flatMap_cons, List.append_assoc, List.singleton_append, parts_cons hp, ih hps]

theorem parts_commas {ps : List (List Token)} (h : ∀ p ∈ ps, IsPart p) :
    parts (commas ps) = ps := by
  induction ps with
  | nil => rfl
  | cons p ps ih =>
    obtain ⟨hp, hps⟩ := List.forall_mem_cons.1 h
    cases ps with
    | nil =>
      have hone : commas [p] = p := List.append_nil p
      rw [hone, parts_self hp]
    | cons q ps =>
      have hmore : commas (p :: q :: ps) = p ++ Token.comma :: commas (q :: ps) := rfl
      rw [hmore, parts_cons hp, ih hps]

end Parts

section Arms

/-- A pattern and a result that can be told apart, and from the arms around them. -/
structure IsArm (arm : List Token × List Token) : Prop where
  pattern : ∀ t ∈ arm.1, t.isMark '=' = false ∧ t.isMark ',' = false
  result : ∀ t ∈ arm.2, t.isMark ',' = false

variable {arm : List Token × List Token} {arms : List (List Token × List Token)}

theorem IsArm.isPart (h : IsArm arm) : IsPart (spelledArm arm) := by
  refine ⟨by simp [spelledArm, arrow], ?_⟩
  intro t ht
  rcases List.mem_append.1 ht with ht | ht
  · rcases List.mem_append.1 ht with ht | ht
    · exact (h.pattern t ht).2
    · simp only [arrow, List.mem_cons, List.not_mem_nil, or_false] at ht
      rcases ht with rfl | rfl <;> rfl
  · exact h.result t ht

theorem IsArm.arm?_spelledArm (h : IsArm arm) : arm? (spelledArm arm) = some arm := by
  have hpattern : ∀ t ∈ arm.1, (!t.isMark '=') = true := by
    intro t ht
    rw [(h.pattern t ht).1]
    rfl
  have hdrop : (spelledArm arm).dropWhile (!·.isMark '=') = arrow ++ arm.2 := by
    rw [spelledArm, List.append_assoc, List.dropWhile_append_of_pos hpattern]
    rfl
  have htake : (spelledArm arm).takeWhile (!·.isMark '=') = arm.1 := by
    rw [spelledArm, List.append_assoc, List.takeWhile_append_of_pos hpattern]
    exact List.append_nil _
  rw [arm?, hdrop, htake]
  rfl

theorem mapM_arm? (h : ∀ a ∈ arms, IsArm a) : (arms.map spelledArm).mapM arm? = some arms := by
  induction arms with
  | nil => rfl
  | cons a arms ih =>
    obtain ⟨ha, harms⟩ := List.forall_mem_cons.1 h
    rw [List.map_cons, List.mapM_cons, ha.arm?_spelledArm, ih harms]
    rfl

/-- A match on arms that are spelled one after another, each with a comma, is the result of the
first arm that takes the argument. -/
theorem matched?_spelledArms (h : ∀ a ∈ arms, IsArm a) (argument : Denoted) :
    matched? (spelledArms arms) argument =
      (arms.find? fun a => takes argument a.1).bind fun a => Denoted.ofTokens? a.2 := by
  have hparts : parts (spelledArms arms) = arms.map spelledArm := by
    rw [← parts_flatMap (List.forall_mem_map.2 fun a ha => (h a ha).isPart), List.flatMap_map,
      spelledArms]
  rw [matched?, hparts, mapM_arm? h]
  rfl

end Arms

section Implementation

theorem isArm_ordinalArm (e : String × Nat) : IsArm (ordinalArm e) := by
  constructor <;> simp [ordinalArm, entryPath, int32Literal, Token.isMark]

theorem isArm_foundArm (e : String × Nat) : IsArm (foundArm e) := by
  constructor <;> simp [foundArm, entryPath, optionPath, Token.parens, int32Literal, Token.isMark]

theorem isArm_otherwiseArm : IsArm otherwiseArm := by
  constructor <;> simp [otherwiseArm, optionPath, Token.isMark]

theorem isPart_entryPath (name : String) : IsPart (entryPath name) := by
  constructor <;> simp [entryPath, Token.isMark]

/-- An emitted function: its head, and a match on its parameter. -/
def functionMember (head : List Token) (parameter : String)
    (arms : List (List Token × List Token)) : List Token :=
  head ++ Token.braces ([.ident "match", .ident parameter] ++ Token.braces (spelledArms arms))

def ordinalHead : List Token :=
  [.ident "fn", .ident "ordinal", .group .paren [.punct '&' false, .ident "self"],
    .punct '-' true, .punct '>' false, .ident "i32"]

def foundHead : List Token :=
  [.ident "fn", .ident "from_ordinal",
    .group .paren [.ident "ordinal", .punct ':' false, .ident "i32"], .punct '-' true,
    .punct '>' false, .punct ':' true, .punct ':' false, .ident "core", .punct ':' true,
    .punct ':' false, .ident "option", .punct ':' true, .punct ':' false, .ident "Option",
    .punct '<' false, .ident "Self", .punct '>' false]

def arrayMember (elements : List Token) : List Token :=
  [.ident "const", .ident "ENTRIES", .punct ':' false, .punct '&' false, .punct '\'' true,
    .ident "static", .group .bracket [.ident "Self"], .punct '=' false, .punct '&' false,
    .group .bracket elements, .punct ';' false]

theorem fill_ordinalHead : fill [] "fn ordinal(&self) -> i32" = ordinalHead :=
  fill_of_tokens? [] ordinalHead rfl

theorem fill_foundHead :
    fill [] "fn from_ordinal(ordinal: i32) -> ::core::option::Option<Self>" = foundHead :=
  fill_of_tokens? [] foundHead rfl

theorem fill_array (elements : List Token) :
    fill [("entries", elements)] "const ENTRIES: &'static [Self] = &[$entries];" =
      arrayMember elements := by
  rw [fill_of_tokens? _ [.ident "const", .ident "ENTRIES", .punct ':' false, .punct '&' true,
    .punct '\'' true, .ident "static", .group .bracket [.ident "Self"], .punct '=' false,
    .punct '&' false, .group .bracket [.punct '$' false, .ident "entries"], .punct ';' false] rfl]
  simp [fillTokens, fillToken, isPair, arrayMember]

/-- The first item ends at the first token that ends one. -/
theorem cutAfter_append {ts : List Token} {last : Token} (hts : ∀ t ∈ ts, endsItem t = false)
    (hlast : endsItem last = true) (current rest : List Token) :
    cutAfter current (ts ++ last :: rest) = (current.reverse ++ ts ++ [last]) :: cut rest := by
  induction ts generalizing current with
  | nil =>
    rw [List.nil_append, cutAfter, if_pos hlast, List.reverse_cons, List.append_nil]
    rfl
  | cons t ts ih =>
    obtain ⟨ht, hts⟩ := List.forall_mem_cons.1 hts
    rw [List.cons_append, cutAfter, if_neg (by rw [ht]; decide), ih hts, List.reverse_cons,
      List.append_assoc current.reverse]
    rfl

theorem cut_arrayMember (elements rest : List Token) :
    cut (arrayMember elements ++ rest) = arrayMember elements :: cut rest :=
  rfl

theorem cut_functionMember {head : List Token} (hhead : ∀ t ∈ head, endsItem t = false)
    (parameter : String) (arms : List (List Token × List Token)) (rest : List Token) :
    cut (functionMember head parameter arms ++ rest) =
      functionMember head parameter arms :: cut rest := by
  rw [functionMember, Token.braces, List.append_assoc, List.singleton_append, cut,
    cutAfter_append hhead rfl]
  rfl

theorem membersOf_braces (ts body : List Token) : membersOf (ts ++ Token.braces body) = cut body := by
  rw [membersOf, Token.braces, List.getLast?_concat]

variable (name : String) (o : Ordinals)

theorem membersOf_ordinalImplementation : membersOf (ordinalImplementation name o) =
    [arrayMember (commas (o.numbered.map fun e => entryPath e.1)),
      functionMember ordinalHead "self" (o.numbered.map ordinalArm),
      functionMember foundHead "ordinal" (o.numbered.map foundArm ++ [otherwiseArm])] := by
  have hself : fill [] "match self" = [.ident "match", .ident "self"] :=
    fill_of_tokens? [] [.ident "match", .ident "self"] rfl
  have hordinal : fill [] "match ordinal" = [.ident "match", .ident "ordinal"] :=
    fill_of_tokens? [] [.ident "match", .ident "ordinal"] rfl
  have hordinals : (o.numbered.flatMap fun e => spelledArm (ordinalArm e) ++ [Token.comma]) =
      spelledArms (o.numbered.map ordinalArm) := by
    rw [spelledArms, List.flatMap_map]
  have hfound : (o.numbered.flatMap fun e => spelledArm (foundArm e) ++ [Token.comma]) ++
      spelledArms [otherwiseArm] = spelledArms (o.numbered.map foundArm ++ [otherwiseArm]) := by
    rw [spelledArms, spelledArms, List.flatMap_append, List.flatMap_map]
  unfold ordinalImplementation
  dsimp only
  simp only [fill_entry, fill_ordinal, fill_found, fill_otherwise, fill_array, fill_ordinalHead,
    fill_foundHead, hself, hordinal, hordinals, hfound]
  rw [membersOf_braces]
  -- The tokens are those of the three members in a row.
  have hmembers (array ordinals found : List Token) :
      array ++ ordinalHead ++ Token.braces ordinals ++ foundHead ++ Token.braces found =
        array ++ ((ordinalHead ++ Token.braces ordinals) ++
          ((foundHead ++ Token.braces found) ++ [])) := by
    simp only [List.append_assoc, List.append_nil]
  rw [hmembers, cut_arrayMember]
  have hends : (∀ t ∈ ordinalHead, endsItem t = false) ∧ ∀ t ∈ foundHead, endsItem t = false := by
    simp [ordinalHead, foundHead, endsItem]
  exact congrArg (_ :: ·) ((cut_functionMember hends.1 "self" _ _).trans
    (congrArg (_ :: ·) (cut_functionMember hends.2 "ordinal" _ [])))

theorem declaredFunction?_arrayMember (elements : List Token) :
    declaredFunction? (arrayMember elements) = none := by
  simp [declaredFunction?, arrayMember]

variable (argument : Denoted)

theorem called?_ordinal : called? (ordinalImplementation name o) "ordinal" "self" argument =
    matched? (spelledArms (o.numbered.map ordinalArm)) argument := by
  have hfound : (membersOf (ordinalImplementation name o)).find?
      (declaredFunction? · == some "ordinal") =
        some (functionMember ordinalHead "self" (o.numbered.map ordinalArm)) := by
    rw [membersOf_ordinalImplementation, List.find?_cons, declaredFunction?_arrayMember]
    rfl
  rw [called?, hfound]
  rfl

theorem called?_from_ordinal :
    called? (ordinalImplementation name o) "from_ordinal" "ordinal" argument =
      matched? (spelledArms (o.numbered.map foundArm ++ [otherwiseArm])) argument := by
  have hfound : (membersOf (ordinalImplementation name o)).find?
      (declaredFunction? · == some "from_ordinal") =
        some (functionMember foundHead "ordinal" (o.numbered.map foundArm ++ [otherwiseArm])) := by
    rw [membersOf_ordinalImplementation, List.find?_cons, declaredFunction?_arrayMember]
    rfl
  rw [called?, hfound]
  rfl

end Implementation

end TypedPreferences.Derive
