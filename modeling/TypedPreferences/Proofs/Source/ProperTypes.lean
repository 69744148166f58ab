import TypedPreferences.Proofs.Source.Phrases
import TypedPreferences.Source.Reader

/-! Types whose words are names and whose other parts are phrases. -/

namespace TypedPreferences.Source

open TypedPreferences.Text Bracketing

/-- The characters of a name: none of them is special, except for the hash of a raw one, which is
not the first. -/
theorem IsName.exists_cons {text : String} (h : IsName text) :
    ∃ c rest, text.toList = c :: rest ∧ c ∉ '\\' :: specials ∧
      ∀ d ∈ rest, d = '#' ∨ d ∉ '\\' :: specials := by
  obtain ⟨cs, n, hname, htext⟩ := h
  -- Both forms of a name are made of the characters of a plain one.
  have hletters : ∀ {cs n}, Lexeme.plainName? cs = some n →
      ∀ d ∈ cs.take n, d ∉ '\\' :: specials := by
    intro cs n hplain d hd
    have hspecial := ((Lexeme.front_plainName? hplain).1 d hd).not_special
    rwa [List.mem_cons, not_or]
  unfold Lexeme.name? at hname
  split at hname
  · rename_i hraw
    obtain ⟨m, hm, hname⟩ := Option.bind_eq_some_iff.1 hname
    obtain ⟨-, hlength⟩ := Option.ite_none_left_eq_some.1 hname
    cases Option.some.inj hlength
    obtain ⟨rest, rfl⟩ := List.isPrefixOf_iff_prefix.1 hraw
    rw [Lexeme.rawLead] at hm htext
    refine ⟨'r', '#' :: rest.take m, htext, by decide, List.forall_mem_cons.2 ⟨.inl rfl, ?_⟩⟩
    exact fun d hd => .inr (hletters hm d hd)
  · obtain ⟨-, hpos, hlength⟩ := Lexeme.front_plainName? hname
    obtain ⟨n, rfl⟩ : ∃ k, n = k + 1 := ⟨n - 1, by omega⟩
    cases cs with
    | nil => exact absurd hlength (Nat.lt_irrefl 0)
    | cons c rest =>
      have hall := List.forall_mem_cons.1 (hletters hname)
      exact ⟨c, rest.take n, htext, hall.1, fun d hd => .inr (hall.2 d hd)⟩

theorem IsName.leads {text : String} (h : IsName text) : (Token.ident text).Leads := by
  obtain ⟨c, rest, htext, hc, hrest⟩ := h.exists_cons
  refine ⟨rfl, c, rest, htext, hc, ?_⟩
  cases rest with
  | nil => nofun
  | cons d more =>
    rintro ⟨⟩
    rcases hrest '\'' List.mem_cons_self with h | h
    · cases h
    · exact h (by decide)

theorem IsName.phrase {text : String} (h : IsName text) : IsPhrase [.ident text] :=
  .ident h .nil

theorem IsName.lifetime {text : String} (h : IsName text) : IsPhrase (Token.lifetime text) :=
  .lifetime h.leads h.phrase

theorem isPhrase_colons : IsPhrase Token.colons :=
  isPhrase_operatorOf (by decide)

theorem isPhrase_comma : IsPhrase [Token.comma] := by
  change IsPhrase (Token.operatorOf [','])
  exact isPhrase_operatorOf (by decide)

theorem isPhrase_ite {ts us : List Token} (condition : Prop) [Decidable condition]
    (h : IsPhrase ts) (h' : IsPhrase us) : IsPhrase (if condition then ts else us) := by
  split
  · exact h
  · exact h'

/-- A list in angle marks of phrases is a phrase. -/
theorem isPhrase_angled {entries : List (Bool × List Token × Bool)}
    (h : ∀ e ∈ entries, IsPhrase e.2.1) : IsPhrase (Token.angled entries) := by
  -- By induction on the fold, with whatever was written before.
  have hbody : ∀ (inOrder : List (Bool × List Token × Bool)) (acc : List Token × Bool),
      IsPhrase acc.1 → (∀ e ∈ inOrder, IsPhrase e.2.1) →
      IsPhrase (inOrder.foldl
        (fun (acc : List Token × Bool) (e : Bool × List Token × Bool) =>
          (acc.1 ++ (if acc.2 then [] else [Token.comma]) ++ e.2.1 ++
            (if e.2.2 then [Token.comma] else []), e.2.2))
        acc).1 := by
    intro inOrder
    induction inOrder with
    | nil => exact fun _ hacc _ => hacc
    | cons e rest ih =>
      intro acc hacc hentries
      obtain ⟨he, hrest⟩ := List.forall_mem_cons.1 hentries
      have hbefore := hacc.append (isPhrase_ite (acc.2 = true) .nil isPhrase_comma)
      exact ih _ ((hbefore.append he).append (isPhrase_ite _ isPhrase_comma .nil)) hrest
  have hopening : IsPhrase (Token.operatorOf ['<']) := isPhrase_operatorOf (by decide)
  have hclosing : IsPhrase (Token.operatorOf ['>']) := isPhrase_operatorOf (by decide)
  refine (hopening.append ?_).append hclosing
  refine hbody _ _ .nil fun e he => ?_
  rcases List.mem_append.1 he with he | he <;> exact h e (List.mem_filter.1 he).1

/-- The names and arguments of a qualifier are names and phrases. -/
def Qualifier.Proper (q : Qualifier) : Prop :=
  ∀ s ∈ q.steps, IsName s.name ∧ IsPhrase s.args

/-- Tokens one of which is no name: it is no word, or a keyword. -/
def Unnamed (ts : List Token) : Prop :=
  ∃ t ∈ ts, ∀ word, t = .ident word → word ∈ keywords

theorem Unnamed.append_left {ts : List Token} (h : Unnamed ts) (us : List Token) :
    Unnamed (ts ++ us) := by
  obtain ⟨t, ht, hword⟩ := h
  exact ⟨t, List.mem_append_left us ht, hword⟩

theorem Unnamed.append_right {us : List Token} (ts : List Token) (h : Unnamed us) :
    Unnamed (ts ++ us) := by
  obtain ⟨t, ht, hword⟩ := h
  exact ⟨t, List.mem_append_right ts ht, hword⟩

mutual

/-- A type as it is read: its names are names, its spellings are phrases, and what is kept as a
spelling is no name. -/
def Ty.Proper : Ty → Prop
  | .plain q name => q.Proper ∧ IsName name
  | .applied q name _ args _ => q.Proper ∧ IsName name ∧ AllProper args
  | .projection spelling _ => IsPhrase spelling ∧ Unnamed spelling
  | .reference modifiers referent => IsPhrase modifiers ∧ referent.Proper
  | .slice element => element.Proper
  | .array element length => element.Proper ∧ IsPhrase length
  | .paren inner => inner.Proper
  | .other spelling => IsPhrase spelling ∧ Unnamed spelling

def AllProper : List Arg → Prop
  | [] => True
  | .type ty :: rest => ty.Proper ∧ AllProper rest
  | .lifetime name :: rest => IsName name ∧ AllProper rest
  | .other spelling :: rest => IsPhrase spelling ∧ AllProper rest

end

theorem Qualifier.Proper.phrase {q : Qualifier} (h : q.Proper) : IsPhrase q.spelling := by
  obtain ⟨leading, steps⟩ := q
  refine (isPhrase_ite (leading = true) isPhrase_colons .nil).append ?_
  refine isPhrase_flatMap fun s hs => ?_
  obtain ⟨hname, hargs⟩ := h s hs
  exact (hname.phrase.append hargs).append isPhrase_colons

theorem mem_withCommas {trailing : Bool} {parts : List (Bool × List Token)}
    {e : Bool × List Token × Bool} (h : e ∈ Token.withCommas trailing parts) :
    (e.1, e.2.1) ∈ parts := by
  induction parts using Token.withCommas.induct with
  | case1 => cases h
  | case2 l ts =>
    rw [Token.withCommas, List.mem_singleton] at h
    rw [h]
    exact List.mem_singleton_self _
  | case3 l ts rest hrest ih =>
    rw [Token.withCommas.eq_3 _ _ _ _ hrest] at h
    rcases List.mem_cons.1 h with rfl | h
    · exact List.mem_cons_self
    · exact List.mem_cons_of_mem _ (ih h)

mutual

/-- The tokens of a proper type are a phrase. -/
theorem Ty.Proper.phrase : ∀ {t : Ty}, t.Proper → IsPhrase t.tokens
  | .plain _ _, ⟨hq, hname⟩ => hq.phrase.append hname.phrase
  | .applied _ _ turbofish _ _, ⟨hq, hname, hargs⟩ => by
    refine ((hq.phrase.append hname.phrase).append
      (isPhrase_ite (turbofish = true) isPhrase_colons .nil)).append (isPhrase_angled ?_)
    exact fun e he => phrase_of_argTokens hargs _ (mem_withCommas he)
  | .projection _ _, h => h.1
  | .reference _ _, ⟨hmodifiers, hreferent⟩ =>
    .mark (by decide) (by decide) (hmodifiers.append hreferent.phrase)
  | .slice _, h => .group (Ty.Proper.phrase h) .nil
  | .array _ _, ⟨helement, hlength⟩ =>
    .group (helement.phrase.append (.mark (by decide) (by decide) hlength)) .nil
  | .paren _, h => .group (Ty.Proper.phrase h) .nil
  | .other _, h => h.1

theorem phrase_of_argTokens : ∀ {args : List Arg}, AllProper args →
    ∀ part ∈ argTokens args, IsPhrase part.2
  | [], _, _, hpart => nomatch hpart
  | .type _ :: _, ⟨hty, hrest⟩, part, hpart => by
    rcases List.mem_cons.1 hpart with rfl | hpart
    · exact hty.phrase
    · exact phrase_of_argTokens hrest part hpart
  | .lifetime _ :: _, ⟨hname, hrest⟩, part, hpart => by
    rcases List.mem_cons.1 hpart with rfl | hpart
    · exact hname.lifetime
    · exact phrase_of_argTokens hrest part hpart
  | .other _ :: _, ⟨hspelling, hrest⟩, part, hpart => by
    rcases List.mem_cons.1 hpart with rfl | hpart
    · exact hspelling
    · exact phrase_of_argTokens hrest part hpart

end

end TypedPreferences.Source
