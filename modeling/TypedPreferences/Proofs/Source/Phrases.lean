import TypedPreferences.Declared.TypeRef
import TypedPreferences.Proofs.Source.Lexemes

/-! Tokens that stand for lexemes, and their spelling: it closes all brackets and quotes that it
opens, also once it is made ready to be shown. -/

namespace TypedPreferences.Source

open TypedPreferences.Text Bracketing

/-- The text of a name at the front of some text. -/
def IsName (text : String) : Prop :=
  ∃ cs n, Lexeme.name? cs = some n ∧ text.toList = cs.take n

/-- The text of a literal: one at the front of some text, what stands for an expansion that failed,
the position of a field, or a text as it is written between quotes. -/
inductive IsLiteral : String → Prop where
  | read {text : String} {cs : List Char} {n : Nat} : Lexeme.literal? cs = some n →
    text.toList = cs.take n → IsLiteral text
  | failedExpansion : IsLiteral Lexeme.failedExpansion
  | position (n : Nat) : IsLiteral (toString n)
  | quoted (value : String) : IsLiteral (Quoted.encode value)

/-- A token that may stand after a single quote: its text begins with a letter, and the letter is
not quoted. -/
def Token.Leads (t : Token) : Prop :=
  t.isJoint = false ∧ ∃ c rest, t.spell.toList = c :: rest ∧ c ∉ '\\' :: specials ∧
    rest.head? ≠ some '\''

/-- A sequence of tokens that stand for lexemes. A single quote is the mark of a lifetime. -/
inductive IsPhrase : List Token → Prop where
  | nil : IsPhrase []
  | ident {text : String} {ts : List Token} : IsName text → IsPhrase ts →
    IsPhrase (.ident text :: ts)
  | literal {text : String} {ts : List Token} : IsLiteral text → IsPhrase ts →
    IsPhrase (.literal text :: ts)
  | mark {c : Char} {joint : Bool} {ts : List Token} : c ∈ Lexeme.marks → c ≠ '\'' → IsPhrase ts →
    IsPhrase (.punct c joint :: ts)
  | lifetime {t : Token} {ts : List Token} : t.Leads → IsPhrase (t :: ts) →
    IsPhrase (.punct '\'' true :: t :: ts)
  | group {d : Delimiter} {body ts : List Token} : IsPhrase body → IsPhrase ts →
    IsPhrase (.group d body :: ts)

theorem IsPhrase.append {ts us : List Token} (h : IsPhrase ts) (h' : IsPhrase us) :
    IsPhrase (ts ++ us) := by
  induction h with
  | nil => exact h'
  | ident hname _ ih => exact .ident hname ih
  | literal hliteral _ ih => exact .literal hliteral ih
  | mark hmark hne _ ih => exact .mark hmark hne ih
  | lifetime hleads _ ih => exact .lifetime hleads ih
  | group hbody _ _ ih => exact .group hbody ih

theorem isPhrase_flatMap {α : Type} {l : List α} {f : α → List Token}
    (h : ∀ a ∈ l, IsPhrase (f a)) : IsPhrase (l.flatMap f) := by
  induction l with
  | nil => exact .nil
  | cons a rest ih =>
    obtain ⟨ha, hrest⟩ := List.forall_mem_cons.1 h
    rw [List.flatMap_cons]
    exact ha.append (ih hrest)

/-- The marks of an operator without a single quote are a phrase. -/
theorem isPhrase_operatorOf {op : List Char}
    (h : (op.all fun c => Lexeme.marks.contains c && c != '\'') = true) :
    IsPhrase (Token.operatorOf op) := by
  induction op with
  | nil => exact .nil
  | cons c rest ih =>
    obtain ⟨hboth, hrest⟩ := Bool.and_eq_true_iff.1 h
    obtain ⟨hmark, hne⟩ := Bool.and_eq_true_iff.1 hboth
    have hmark : c ∈ Lexeme.marks := List.contains_iff_mem.1 hmark
    cases rest with
    | nil => exact .mark hmark (bne_iff_ne.1 hne) .nil
    | cons d more => exact .mark hmark (bne_iff_ne.1 hne) (ih hrest)

theorem IsName.closed {text : String} (h : IsName text) : Closed text.toList := by
  obtain ⟨cs, n, hname, htext⟩ := h
  rw [htext]
  exact Lexeme.closed_name? hname

theorem isDigit_of_position {n : Nat} {c : Char} (h : c ∈ (toString n).toList) :
    c.isDigit = true := by
  rw [Nat.toString_eq_ofList_toDigits, String.toList_ofList] at h
  exact Nat.isDigit_of_mem_toDigits (by decide) (by decide) h

theorem IsLiteral.closed {text : String} (h : IsLiteral text) : Closed text.toList := by
  cases h with
  | read hliteral htext =>
    rw [htext]
    exact Lexeme.closed_literal? hliteral
  | failedExpansion => exact closed_of_plain (forall_of_all (by decide))
  | position n =>
    refine closed_of_plain fun c hc => Lexeme.isPlain_of_digit ?_
    rw [isDigit_of_position hc, Bool.true_or]
  | quoted value => exact closed_encode value

/-- What follows the spelling of a token. -/
def Token.spellAfter (t : Token) : List Token → String
  | [] => ""
  | u :: rest => (if t.isJoint then "" else " ") ++ spellAll (u :: rest)

theorem Token.spellAll_cons (t : Token) (ts : List Token) :
    spellAll (t :: ts) = t.spell ++ t.spellAfter ts := by
  cases ts with
  | nil => rw [spellAll, spellAfter, String.append_empty]
  | cons u rest => rw [spellAll, spellAfter, String.append_assoc]

/-- A token that is not joint is followed by a blank. -/
theorem Token.closed_cons {t : Token} {ts : List Token} (hjoint : t.isJoint = false)
    (ht : Closed t.spell.toList) (hts : Closed (spellAll ts).toList) :
    Closed (spellAll (t :: ts)).toList := by
  rw [spellAll_cons, String.toList_append]
  cases ts with
  | nil =>
    rw [spellAfter]
    simpa using ht
  | cons u rest =>
    rw [spellAfter, hjoint]
    simpa using ht.join hts (by decide) (by decide)

theorem step_of_mark : ∀ c ∈ Lexeme.marks, c ≠ '\'' → ∀ depth,
    step (.code false, depth) c = some (.code false, depth) := by
  have hmarks : ∀ c ∈ Lexeme.marks, c ≠ '\'' → c = '#' ∨ IsPlain c ∧ c ≠ 'r' :=
    forall_of_all (by decide)
  intro c hc hne depth
  rcases hmarks c hc hne with rfl | ⟨hplain, hr⟩
  · rfl
  · rw [step, codeStep_plain hplain, decide_eq_false hr]

theorem Token.closed_mark_cons {c : Char} {joint : Bool} {ts : List Token}
    (hc : c ∈ Lexeme.marks) (hne : c ≠ '\'') (hts : Closed (spellAll ts).toList) :
    Closed (spellAll (.punct c joint :: ts)).toList := by
  have hmark : ∀ cs, Closed cs → Closed (c :: cs) := by
    intro cs hcs depth
    rw [run_cons, step_of_mark c hc hne depth]
    exact hcs depth
  rw [spellAll_cons, String.toList_append]
  cases ts with
  | nil => simpa [spell, spellAfter] using hmark [] closed_nil
  | cons u rest =>
    cases joint with
    | true => simpa [spell, spellAfter, isJoint] using hmark _ hts
    | false =>
      have hblank := hts.cons (c := ' ') (by decide) (by decide)
      simpa [spell, spellAfter, isJoint] using hmark _ hblank

/-- After the mark of a lifetime a letter has the effect that it has elsewhere. -/
theorem closed_lifetime {c : Char} {cs : List Char} (hc : c ∉ '\\' :: specials)
    (hnext : cs.head? ≠ some '\'') (h : Closed (c :: cs)) : Closed ('\'' :: c :: cs) := by
  obtain ⟨hescape, hspecial⟩ := not_or.1 (mt List.mem_cons.2 hc)
  have hplain : IsPlain c := Lexeme.isPlain_of_not_special hspecial
  intro depth
  obtain ⟨place, hrun, hrests⟩ := h depth
  have hplace : markPlace c = .word (c = 'r') := by
    rw [markPlace, if_neg hescape, if_neg (by simpa using hspecial)]
  rw [run_cons, step, codeStep_plain hplain] at hrun
  change ∃ place, run (markPlace c, depth) cs = some (place, depth) ∧ Rests place
  rw [hplace]
  cases cs with
  | nil => exact ⟨_, rfl, trivial⟩
  | cons d rest =>
    have hd : d ≠ '\'' := fun heq => hnext (congrArg some heq)
    refine ⟨place, ?_, hrests⟩
    rw [run_cons, step, if_neg hd]
    exact hrun

theorem closed_group {d : Delimiter} {body : List Token} (h : Closed (Token.spellAll body).toList) :
    Closed (Token.spell (.group d body)).toList := by
  rw [Token.spell, String.toList_append, String.toList_append]
  cases d with
  | paren =>
    have hclosing := h.join closed_nil (c := ')') (by decide) (by decide)
    rw [Delimiter.closing]
    exact hclosing.cons (c := '(') (by decide) (by decide)
  | bracket =>
    rw [Delimiter.closing]
    exact h.brackets
  | brace =>
    have hclosing : Closed ((Token.spellAll body).toList ++
        (Delimiter.closing body.isEmpty .brace).toList) := by
      cases body.isEmpty with
      | true => exact h.join closed_nil (c := '\x7d') (by decide) (by decide)
      | false =>
        have hlast : Closed ['\x7d'] := closed_of_plain (forall_of_all (by decide))
        exact h.join hlast (c := ' ') (by decide) (by decide)
    have hblank := hclosing.cons (c := ' ') (by decide) (by decide)
    exact hblank.cons (c := '\x7b') (by decide) (by decide)

theorem Token.closed_lifetime_cons {t : Token} {ts : List Token} (hleads : t.Leads)
    (h : Closed (spellAll (t :: ts)).toList) :
    Closed (spellAll (.punct '\'' true :: t :: ts)).toList := by
  obtain ⟨hjoint, c, rest, hspell, hc, hhead⟩ := hleads
  have htext : (spellAll (t :: ts)).toList = c :: (rest ++ (t.spellAfter ts).toList) := by
    rw [spellAll_cons, String.toList_append, hspell, List.cons_append]
  rw [htext] at h
  have hnext : (rest ++ (t.spellAfter ts).toList).head? ≠ some '\'' := by
    cases rest with
    | cons d more => exact hhead
    | nil =>
      cases ts with
      | nil => simp [spellAfter]
      | cons u more => simp [spellAfter, hjoint]
  have hlifetime := closed_lifetime hc hnext h
  rw [← htext] at hlifetime
  rw [spellAll_cons, String.toList_append]
  simpa [spell, spellAfter, isJoint] using hlifetime

/-- The spelling of a phrase closes all brackets and quotes that it opens. -/
theorem IsPhrase.closed {ts : List Token} (h : IsPhrase ts) :
    Closed (Token.spellAll ts).toList := by
  induction h with
  | nil => exact closed_nil
  | ident hname _ ih => exact Token.closed_cons rfl hname.closed ih
  | literal hliteral _ ih => exact Token.closed_cons rfl hliteral.closed ih
  | mark hmark hne _ ih => exact Token.closed_mark_cons hmark hne ih
  | lifetime hleads _ ih => exact Token.closed_lifetime_cons hleads ih
  | group _ _ hbody ih => exact Token.closed_cons rfl (closed_group hbody) ih

theorem closed_displayTokens {ts : List Token} (h : IsPhrase ts) :
    Closed (displayTokens ts).toList := by
  rw [displayTokens, String.toList_ofList]
  refine Closed.replace ?_ (sameEffect_after (by decide)) (by decide)
  refine Closed.replace ?_ ?_ (by decide)
  · refine Closed.replace ?_ (sameEffect_before (by decide)) (by decide)
    refine Closed.replace ?_ (sameEffect_before (by decide)) (by decide)
    refine Closed.replace ?_ (sameEffect_after (by decide)) (by decide)
    exact h.closed.replace (sameEffect_around (by decide)) (by decide)
  · exact (sameEffect_before (c := ':') (by decide)).append (sameEffect_after (by decide))

end TypedPreferences.Source
