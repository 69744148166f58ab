import Mathlib.Algebra.Ring.Nat
import TypedPreferences.Proofs.Source.Phrases

/-! How many characters of a kind stand in the spelling of a type, blanks apart. Showing tokens drops
blanks only, so what is shown of two types differs where the amounts of their spellings do. -/

namespace TypedPreferences

open Source Text

/-- The characters of a text other than blanks. -/
def letters (cs : List Char) : List Char :=
  cs.filter (· ≠ ' ')

theorem letters_append (cs rest : List Char) : letters (cs ++ rest) = letters cs ++ letters rest :=
  List.filter_append cs rest

theorem letters_replaceAfter {pattern replacement : List Char}
    (hsame : letters replacement = letters pattern) (hne : pattern ≠ []) (skip : Nat)
    (cs : List Char) :
    letters (replaceAfter pattern replacement skip cs) = letters (cs.drop skip) := by
  -- By induction on the text, for every number of characters that are still to be left out.
  induction cs generalizing skip with
  | nil => rw [List.drop_nil, replaceAfter]
  | cons c cs ih =>
    cases skip with
    | succ skip =>
      rw [replaceAfter, List.drop_succ_cons]
      exact ih skip
    | zero =>
      rw [replaceAfter, List.drop_zero]
      split
      · rename_i hprefix
        obtain ⟨rest, hrest⟩ := List.isPrefixOf_iff_prefix.1 hprefix
        have hskipped : cs.drop (pattern.length - 1) = rest := by
          cases pattern with
          | nil => exact absurd rfl hne
          | cons p ps =>
            rw [List.cons_append] at hrest
            obtain ⟨-, rfl⟩ := List.cons.inj hrest
            rw [List.length_cons, Nat.add_sub_cancel, List.drop_left]
        rw [letters_append, ih, hskipped, hsame, ← letters_append, hrest]
      · have hrest := ih 0
        rw [List.drop_zero] at hrest
        calc letters (c :: replaceAfter pattern replacement 0 cs)
            = letters [c] ++ letters (replaceAfter pattern replacement 0 cs) := letters_append [c] _
          _ = letters [c] ++ letters cs := by rw [hrest]
          _ = letters (c :: cs) := (letters_append [c] cs).symm

theorem letters_replace {pattern replacement : String}
    (hsame : letters replacement.toList = letters pattern.toList) (hne : pattern.toList ≠ [])
    (cs : List Char) : letters (replace pattern replacement cs) = letters cs :=
  letters_replaceAfter hsame hne 0 cs

/-- Only blanks are dropped from a text that is shown. -/
theorem letters_displayTokens (ts : List Token) :
    letters (displayTokens ts).toList = letters (Token.spellAll ts).toList := by
  rw [displayTokens, String.toList_ofList, letters_replace, letters_replace, letters_replace,
    letters_replace, letters_replace, letters_replace]
  all_goals decide

theorem letters_spellAll_cons (t : Token) (ts : List Token) :
    letters (Token.spellAll (t :: ts)).toList =
      letters t.spell.toList ++ letters (Token.spellAll ts).toList := by
  rw [Token.spellAll_cons, String.toList_append, letters_append]
  congr 1
  cases ts with
  | nil => rfl
  | cons u rest =>
    rw [Token.spellAfter]
    cases t.isJoint with
    | true => simp
    | false =>
      change letters (" " ++ Token.spellAll (u :: rest)).toList = _
      rw [String.toList_append, letters_append]
      rfl

section Amounts

variable (p : Char → Bool)

/-- How many characters of a kind stand in a text, blanks apart. -/
def amount (text : String) : Nat :=
  (letters text.toList).countP p

theorem amount_append (text rest : String) :
    amount p (text ++ rest) = amount p text + amount p rest := by
  rw [amount, String.toList_append, letters_append, List.countP_append]
  rfl

theorem amount_displayTokens (ts : List Token) :
    amount p (displayTokens ts) = amount p (Token.spellAll ts) := by
  rw [amount, letters_displayTokens, amount]

/-- A text without characters of the kind. -/
theorem amount_eq_zero {p : Char → Bool} {text : String} (h : ∀ c ∈ text.toList, p c = false) :
    amount p text = 0 := by
  rw [amount, List.countP_eq_zero]
  intro c hc
  rw [h c (List.mem_filter.1 hc).1]
  decide

/-- A separator without characters of the kind does not count. -/
theorem amount_intercalate {separator : String} (h : amount p separator = 0) (texts : List String) :
    amount p (separator.intercalate texts) = (texts.map (amount p)).sum := by
  induction texts with
  | nil => rfl
  | cons text rest ih =>
    cases rest with
    | nil => rw [String.intercalate_singleton, List.map_singleton, List.sum_singleton]
    | cons next more =>
      rw [String.intercalate_cons_cons, amount_append, amount_append, h, ih, Nat.add_zero]
      simp only [List.map_cons, List.sum_cons]

namespace Source

/-- How many characters of a kind stand in the spelling of tokens. -/
def Token.total (ts : List Token) : Nat :=
  amount p (spellAll ts)

theorem Token.total_nil : total p [] = 0 := rfl

theorem Token.total_cons (t : Token) (ts : List Token) :
    total p (t :: ts) = amount p t.spell + total p ts := by
  rw [total, amount, letters_spellAll_cons, List.countP_append]
  rfl

theorem Token.total_append (ts us : List Token) :
    total p (ts ++ us) = total p ts + total p us := by
  induction ts with
  | nil => rw [List.nil_append, total_nil, Nat.zero_add]
  | cons t rest ih => rw [List.cons_append, total_cons, total_cons, ih, Nat.add_assoc]

/-- An entry of a list in angle marks without its spelling. -/
def Token.unspelled (e : Bool × List Token × Bool) : Bool × List Token × Bool :=
  (e.1, [], e.2.2)

/-- The spellings of the entries stand in a list in angle marks, besides its own marks. -/
theorem Token.total_angled (entries : List (Bool × List Token × Bool)) :
    total p (angled entries) = total p (angled (entries.map unspelled)) +
      (entries.map fun e => total p e.2.1).sum := by
  -- The list is built by a fold that remembers a comma, so the sum is generalised over both.
  have hbody : ∀ (inOrder : List (Bool × List Token × Bool)) (ts us : List Token) (comma : Bool),
      let step := fun (acc : List Token × Bool) (e : Bool × List Token × Bool) =>
        (acc.1 ++ (if acc.2 then [] else [Token.comma]) ++ e.2.1 ++
          (if e.2.2 then [Token.comma] else []), e.2.2)
      total p (inOrder.foldl step (ts, comma)).1 + total p us =
        total p ((inOrder.map unspelled).foldl step (us, comma)).1 +
          (inOrder.map fun e => total p e.2.1).sum + total p ts := by
    intro inOrder
    induction inOrder with
    | nil =>
      intro ts us comma
      simp only [List.foldl_nil, List.map_nil, List.sum_nil]
      omega
    | cons e rest ih =>
      intro ts us comma
      have hrest := ih (ts ++ (if comma then [] else [Token.comma]) ++ e.2.1 ++
          (if e.2.2 then [Token.comma] else []))
        (us ++ (if comma then [] else [Token.comma]) ++ [] ++
          (if e.2.2 then [Token.comma] else [])) e.2.2
      simp only [total_append, total_nil] at hrest
      simp only [List.map_cons, List.foldl_cons, List.sum_cons, unspelled]
      omega
  -- Lifetimes are written first, which changes no sum.
  have hsort : ((entries.map unspelled).filter (·.1) ++ (entries.map unspelled).filter (!·.1)) =
      (entries.filter (·.1) ++ entries.filter (!·.1)).map unspelled := by
    rw [List.filter_map, List.filter_map, List.map_append]
    rfl
  have hsum : ((entries.filter (·.1) ++ entries.filter (!·.1)).map fun e => total p e.2.1).sum =
      (entries.map fun e => total p e.2.1).sum :=
    ((List.filter_append_perm (·.1) entries).map _).sum_nat
  have hentries := hbody (entries.filter (·.1) ++ entries.filter (!·.1)) [] [] true
  rw [hsum, ← hsort] at hentries
  rw [angled, angled]
  simp only [total_append, total_nil] at hentries ⊢
  omega

theorem Token.map_withCommas {α : Type} (f : Bool × List Token × Bool → α)
    (g : Bool × List Token → α) (h : ∀ l ts c, f (l, ts, c) = g (l, ts)) (trailing : Bool)
    (parts : List (Bool × List Token)) : (withCommas trailing parts).map f = parts.map g := by
  induction parts using withCommas.induct with
  | case1 => rfl
  | case2 l ts => exact congrArg (fun a => [a]) (h l ts trailing)
  | case3 l ts rest hrest ih =>
    rw [withCommas.eq_3 _ _ _ _ hrest, List.map_cons, List.map_cons, h, ih]

theorem Token.unspelled_withCommas (trailing : Bool) (parts : List (Bool × List Token)) :
    (withCommas trailing parts).map unspelled =
      withCommas trailing (parts.map fun part => (part.1, [])) := by
  induction parts using withCommas.induct with
  | case1 => rfl
  | case2 l ts => rfl
  | case3 l ts rest hrest ih =>
    have hmapped : (rest.map fun part => (part.1, ([] : List Token))) ≠ [] :=
      mt List.map_eq_nil_iff.1 hrest
    rw [withCommas.eq_3 _ _ _ _ hrest, List.map_cons, List.map_cons,
      withCommas.eq_3 _ _ _ _ hmapped, ih]
    rfl

/-- The marks of a list of arguments: they do not depend on how the arguments are spelled. -/
def Arg.marks (trailing : Bool) (args : List (Bool × List Token)) : List Token :=
  Token.angled (Token.withCommas trailing (args.map fun part => (part.1, [])))

theorem Arg.total_angled (trailing : Bool) (parts : List (Bool × List Token)) :
    Token.total p (Token.angled (Token.withCommas trailing parts)) =
      Token.total p (Arg.marks trailing parts) + (parts.map fun part => Token.total p part.2).sum := by
  rw [Token.total_angled, Token.unspelled_withCommas,
    Token.map_withCommas _ (fun part => Token.total p part.2) fun _ _ _ => rfl]
  rfl

/-- How many characters of a kind stand in the spelling of a type. -/
def Ty.total (t : Ty) : Nat :=
  Token.total p t.tokens

def Arg.totals (args : List Arg) : Nat :=
  ((argTokens args).map fun part => Token.total p part.2).sum

theorem argTokens_append : ∀ args rest : List Arg,
    argTokens (args ++ rest) = argTokens args ++ argTokens rest
  | [], _ => rfl
  | .type _ :: more, rest => congrArg (_ :: ·) (argTokens_append more rest)
  | .lifetime _ :: more, rest => congrArg (_ :: ·) (argTokens_append more rest)
  | .other _ :: more, rest => congrArg (_ :: ·) (argTokens_append more rest)

theorem Ty.total_applied (q : Qualifier) (name : String) (turbofish : Bool) (args : List Arg)
    (trailing : Bool) :
    (Ty.applied q name turbofish args trailing).total p =
      Token.total p q.spelling + amount p name +
        Token.total p (if turbofish then Token.colons else []) +
        Token.total p (Arg.marks trailing (argTokens args)) + Arg.totals p args := by
  rw [total, tokens, Token.total_append, Token.total_append, Token.total_append, Token.total_cons,
    Token.total_nil, Arg.total_angled, Arg.totals, Token.spell]
  omega

theorem Ty.total_reference (modifiers : List Token) (referent : Ty) :
    (Ty.reference modifiers referent).total p =
      amount p "&" + Token.total p modifiers + referent.total p := by
  rw [total, tokens, List.cons_append, Token.total_cons, Token.total_append, Nat.add_assoc]
  rfl

theorem Ty.total_paren (inner : Ty) :
    (Ty.paren inner).total p = amount p "(" + inner.total p + amount p ")" := by
  rw [total, tokens, Token.parens, Token.total_cons, Token.spell, amount_append, amount_append]
  rfl

theorem Token.total_brackets (ts : List Token) :
    total p (brackets ts) = amount p "[" + total p ts + amount p "]" := by
  rw [brackets, total_cons, spell, amount_append, amount_append]
  rfl

theorem Ty.total_slice (element : Ty) :
    (Ty.slice element).total p = amount p "[" + element.total p + amount p "]" :=
  Token.total_brackets p element.tokens

theorem Ty.total_array (element : Ty) (length : List Token) :
    (Ty.array element length).total p =
      amount p "[" + element.total p + amount p ";" + Token.total p length + amount p "]" := by
  rw [total, tokens, Token.total_brackets, Token.total_append, Token.total_cons, Token.spell]
  change _ + (_ + (amount p ";" + _)) + _ = _
  rw [total]
  omega

end Source

end Amounts

end TypedPreferences
