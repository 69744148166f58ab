import TypedPreferences.Proofs.Source.Amounts
import TypedPreferences.Proofs.Source.ProperTypes

/-! What the shown text of a phrase tells: a text of letters is shown by one word only. -/

namespace TypedPreferences

open Source Text Bracketing

theorem replaceAfter_eq_self {pattern replacement : List Char} {c : Char} (hpattern : c ∈ pattern)
    {cs : List Char} (h : c ∉ cs) : replaceAfter pattern replacement 0 cs = cs := by
  induction cs with
  | nil => rfl
  | cons d cs ih =>
    have hprefix : ¬ pattern.isPrefixOf (d :: cs) = true := fun hprefix =>
      h ((List.isPrefixOf_iff_prefix.1 hprefix).subset hpattern)
    rw [replaceAfter, if_neg hprefix, ih (mt (List.mem_cons_of_mem _) h)]

theorem mem_letters {c : Char} (hc : c ≠ ' ') {cs : List Char} : c ∈ letters cs ↔ c ∈ cs := by
  rw [letters, List.mem_filter]
  exact and_iff_left (decide_eq_true hc)

theorem mem_displayTokens {ts : List Token} {c : Char} (hc : c ≠ ' ')
    (h : c ∈ (Token.spellAll ts).toList) : c ∈ (displayTokens ts).toList := by
  rw [← mem_letters hc, letters_displayTokens, mem_letters hc]
  exact h

/-- A text without marks is shown as it is spelled. -/
theorem displayTokens_of_no_marks {ts : List Token}
    (h : ∀ c ∈ ['<', '>', ',', ':', '&'], c ∉ (Token.spellAll ts).toList) :
    displayTokens ts = Token.spellAll ts := by
  have hself : ∀ (pattern replacement : String) (c : Char), c ∈ ['<', '>', ',', ':', '&'] →
      c ∈ pattern.toList →
      replace pattern replacement (Token.spellAll ts).toList = (Token.spellAll ts).toList :=
    fun _ _ c hc hpattern => replaceAfter_eq_self hpattern (h c hc)
  rw [displayTokens, hself " < " _ '<' (by decide) (by decide),
    hself "< " _ '<' (by decide) (by decide), hself " >" _ '>' (by decide) (by decide),
    hself " ," _ ',' (by decide) (by decide), hself " :: " _ ':' (by decide) (by decide),
    hself "& " _ '&' (by decide) (by decide), String.ofList_toList]

theorem mem_spellAll {ts : List Token} {t : Source.Token} {c : Char} (ht : t ∈ ts)
    (hc : c ∈ t.spell.toList) : c ∈ (Token.spellAll ts).toList := by
  induction ts with
  | nil => exact absurd ht List.not_mem_nil
  | cons u rest ih =>
    rw [Token.spellAll_cons, String.toList_append, List.mem_append]
    rcases List.mem_cons.1 ht with rfl | ht
    · exact .inl hc
    · refine .inr ?_
      cases rest with
      | nil => exact absurd ht List.not_mem_nil
      | cons v more =>
        rw [Token.spellAfter, String.toList_append]
        exact List.mem_append_right _ (ih ht)

/-- The characters of no name: marks, brackets and the blank. -/
def separators : List Char :=
  Lexeme.marks ++ ['(', ')', '[', ']', '\x7b', '\x7d', ' ']

theorem isDigit_of_hexDigit? {c : Char} {d : Nat} (h : hexDigit? c = some d) (hd : d < 10) :
    c.isDigit = true := by
  have hlower : ∀ {lo : Char}, (decide (lo ≤ c)) = true → lo.toNat ≤ c.toNat :=
    fun hle => UInt32.le_iff_toNat_le.1 (Char.le_def.1 (of_decide_eq_true hle))
  unfold hexDigit? at h
  split at h
  · rename_i hrange
    obtain ⟨hlo, hhi⟩ := Bool.and_eq_true_iff.1 hrange
    exact Bool.and_eq_true_iff.2 ⟨hlo, hhi⟩
  split at h
  · rename_i hrange
    have hlo : 97 ≤ c.toNat := hlower (Bool.and_eq_true_iff.1 hrange).1
    cases Option.some.inj h
    omega
  split at h
  · rename_i hrange
    have hlo : 65 ≤ c.toNat := hlower (Bool.and_eq_true_iff.1 hrange).1
    cases Option.some.inj h
    omega
  · cases h

/-- The characters that begin a quoted literal. -/
def quoteLeads : List Char :=
  ['"', '\'', 'b', 'c', 'r']

theorem head_of_quoted? {cs : List Char} {n : Nat} (h : Lexeme.quoted? cs = some n) :
    ∀ c ∈ cs.head?, c ∈ quoteLeads := by
  unfold Lexeme.quoted? at h
  split at h
  all_goals first
    | cases h
    | rintro c ⟨⟩; decide

theorem head_of_intDigits? {cs : List Char} {n : Nat} (h : Lexeme.intDigits? cs = some n) :
    ∀ c ∈ cs.head?, c.isDigit = true := by
  -- A base is marked by a zero, which is a digit too.
  have hbase : ∀ lead : String, lead.toList.head? = some '0' →
      Lexeme.startsWith lead cs = true → ∀ c ∈ cs.head?, c.isDigit = true := by
    intro lead hlead hstart c hc
    obtain ⟨rest, rfl⟩ := List.isPrefixOf_iff_prefix.1 hstart
    obtain ⟨more, hmore⟩ := List.head?_eq_some_iff.1 hlead
    rw [hmore] at hc
    cases hc
    rfl
  unfold Lexeme.intDigits? at h
  split at h
  · exact hbase "0x" rfl ‹_›
  split at h
  · exact hbase "0o" rfl ‹_›
  split at h
  · exact hbase "0b" rfl ‹_›
  cases cs with
  | nil => nofun
  | cons c rest =>
    rintro c ⟨⟩
    rw [Lexeme.digitsTo?] at h
    split at h
    · cases h
    split at h
    · rename_i d hdigit
      split at h
      · exact isDigit_of_hexDigit? hdigit ‹_›
      split at h <;> cases h
    · cases h

theorem head_of_floatDigits? {cs : List Char} {n : Nat} (h : Lexeme.floatDigits? cs = some n) :
    ∀ c ∈ cs.head?, c.isDigit = true := by
  obtain ⟨⟨⟩, hguard, -⟩ := Option.bind_eq_some_iff.1 h
  have hany : cs.head?.any Char.isDigit = true := (Option.guard_eq_some' _).1 hguard
  intro c hc
  rw [hc] at hany
  exact hany

/-- The text of a literal begins with a digit, a quote, a letter before a quote or a bracket. -/
theorem head_of_isLiteral {text : String} (h : IsLiteral text) :
    ∀ c ∈ text.toList.head?, c.isDigit = true ∨ c ∈ '(' :: quoteLeads := by
  intro c hc
  cases h with
  | @read _ cs n hliteral htext =>
    have hhead : c ∈ cs.head? := by
      rw [htext] at hc
      cases n with
      | zero => cases hc
      | succ n =>
        cases cs with
        | nil => cases hc
        | cons d rest => exact hc
    -- A quoted text is tried first, then a number with a fraction, then a whole one.
    rcases Option.or_eq_some_iff.1 hliteral with h | ⟨-, h⟩
    · obtain ⟨m, hm, -⟩ := Option.map_eq_some_iff.1 h
      exact .inr (List.mem_cons_of_mem _ (head_of_quoted? hm c hhead))
    · rcases Option.or_eq_some_iff.1 h with h | ⟨-, h⟩
      · obtain ⟨m, hm, -⟩ := Option.bind_eq_some_iff.1 h
        exact .inl (head_of_floatDigits? hm c hhead)
      · obtain ⟨m, hm, -⟩ := Option.bind_eq_some_iff.1 h
        exact .inl (head_of_intDigits? hm c hhead)
  | failedExpansion =>
    cases hc
    exact .inr (by decide)
  | position n => exact .inl (isDigit_of_position (List.mem_of_head? hc))
  | quoted value =>
    rw [Quoted.encode, String.toList_ofList] at hc
    cases hc
    exact .inr (by decide)

/-- A word that is neither a mark nor a literal. -/
def IsPlainWord (word : String) : Prop :=
  (∀ c ∈ word.toList, c ∉ separators) ∧ ∃ c ∈ word.toList.head?, c.isDigit = false ∧
    c ∉ '(' :: quoteLeads

/-- A phrase that is shown by a plain word is that word. -/
theorem eq_ident_of_displayTokens {ts : List Token} {word : String} (h : IsPhrase ts)
    (hdisplay : displayTokens ts = word) (hword : IsPlainWord word) : ts = [.ident word] := by
  obtain ⟨hletters, c, hc, hdigit, hlead⟩ := hword
  -- No character of the spelling, other than a blank, is a separator.
  have hno : ∀ c ∈ separators, c ≠ ' ' → c ∉ (Token.spellAll ts).toList := by
    intro c hsep hblank hmem
    exact hletters c (hdisplay ▸ mem_displayTokens hblank hmem) hsep
  have hspell : Token.spellAll ts = word := by
    rw [← displayTokens_of_no_marks, hdisplay]
    intro c hmark
    refine hno c ?_ ?_ <;> revert c <;> exact forall_of_all (by decide)
  have hblank : ' ' ∉ (Token.spellAll ts).toList := by
    rw [hspell]
    exact fun hmem => hletters ' ' hmem (by decide)
  have hspelled : ∀ t ∈ ts, ∀ c ∈ separators, c ≠ ' ' → c ∉ t.spell.toList :=
    fun t ht c hsep hne hmem => hno c hsep hne (mem_spellAll ht hmem)
  have hsingle : ∀ t rest, ts = t :: rest → t.isJoint = false → rest = [] := by
    rintro t rest rfl hjoint
    cases rest with
    | nil => rfl
    | cons u more =>
      refine absurd ?_ hblank
      rw [Token.spellAll_cons, Token.spellAfter, hjoint]
      simp
  cases h with
  | nil =>
    rw [← hspell] at hc
    cases hc
  | ident hname hts =>
    cases hsingle _ _ rfl rfl
    rw [Token.spellAll, Token.spell] at hspell
    rw [hspell]
  | literal hliteral hts =>
    cases hsingle _ _ rfl rfl
    rw [Token.spellAll, Token.spell] at hspell
    subst hspell
    rcases head_of_isLiteral hliteral c hc with h | h
    · rw [h] at hdigit
      cases hdigit
    · exact absurd h hlead
  | @mark mark joint rest hmark hne hts =>
    have hsep : mark ∈ separators := List.mem_append_left _ hmark
    have hnot : mark ≠ ' ' := by
      rintro rfl
      exact absurd hmark (by decide)
    exact absurd (by rw [Token.spell]; simp) (hspelled _ List.mem_cons_self mark hsep hnot)
  | lifetime hleads hts =>
    exact absurd (by rw [Token.spell]; simp) (hspelled _ List.mem_cons_self '\'' (by decide)
      (by decide))
  | @group d body rest hbody hts =>
    have hopen : ∃ c ∈ separators, c ≠ ' ' ∧ c ∈ d.opening.toList := by
      cases d with
      | paren => exact ⟨'(', by decide, by decide, by decide⟩
      | bracket => exact ⟨'[', by decide, by decide, by decide⟩
      | brace => exact ⟨'\x7b', by decide, by decide, by decide⟩
    obtain ⟨c, hsep, hne, hmem⟩ := hopen
    refine absurd ?_ (hspelled _ List.mem_cons_self c hsep hne)
    rw [Token.spell, String.toList_append, String.toList_append]
    exact List.mem_append_left _ (List.mem_append_left _ hmem)

end TypedPreferences
