import TypedPreferences.Proofs.Source.Displayed
import TypedPreferences.Proofs.Source.Grammar.Declarations
import TypedPreferences.Source.Parse

/-! The tokens of a text are a phrase, a type that is read from a text is proper, and what the items
of a text declare has names. -/

namespace TypedPreferences.Source

open TypedPreferences.Text Bracketing Lexeme

instance sound_rules (depth : Nat) : (rules depth).Sound := by
  induction depth with
  | zero => exact ⟨fun _ => .failure⟩
  | succ depth ih =>
    refine ⟨fun phrase => ?_⟩
    cases phrase with
    | type plus => exact (sound_typeBody (rules depth) plus).reads
    | expr structs => exact (sound_exprBody (rules depth) structs).reads
    | operand structs => exact (sound_operandBody (rules depth) structs).reads
    | operation structs left least =>
      exact (sound_operationBody (rules depth) structs left least).reads
    | standing => exact (sound_standingBody (rules depth)).reads
    | conditional => exact (sound_conditionalBody (rules depth)).reads
    | pattern => exact (sound_patternBody (rules depth)).reads
    | block attributes => exact (sound_blockBody (rules depth) attributes).reads
    | imports rooted => exact (sound_importsBody (rules depth) rooted).reads
    | item => exact (sound_itemBody (rules depth)).reads

theorem run_of_parse? {α : Type} {reader : Rules → Reader α} {ts : List Token} {a : α}
    (h : parse? reader ts = some a) :
    ∃ c, reader (rules (depthFor ts)) ⟨ts, #[]⟩ = some (a, c) := by
  obtain ⟨⟨b, c⟩, hrun, hend⟩ := Option.bind_eq_some_iff.1 h
  obtain ⟨-, hsame⟩ := Option.ite_none_right_eq_some.1 hend
  cases Option.some.inj hsame
  exact ⟨c, hrun⟩

/-- What a sound reader yields of a phrase is as its kind is known. -/
theorem holds_of_parse? {α : Type} [Checked α] {reader : Rules → Reader α}
    (h : ∀ depth, Sound (reader (rules depth))) {ts : List Token} (hts : IsPhrase ts) {a : α}
    (hparse : parse? reader ts = some a) : Checked.holds a := by
  obtain ⟨c, hrun⟩ := run_of_parse? hparse
  obtain ⟨-, -, -, hholds⟩ := (h _).reads ⟨ts, #[]⟩ hts a c hrun
  exact hholds

/-- A text that begins with a letter after which no single quote stands. -/
def BeginsName (cs : List Char) : Prop :=
  ∃ c rest, cs = c :: rest ∧ isIdentStart c = true ∧ rest.head? ≠ some '\''

theorem beginsName_of_name? {cs : List Char} {n : Nat} (h : name? cs = some n)
    (hend : (cs.drop n).head? ≠ some '\'') : BeginsName cs := by
  have hplain : ∀ {cs n}, plainName? cs = some n → (cs.drop n).head? ≠ some '\'' →
      BeginsName cs := by
    intro cs n h hend
    cases cs with
    | nil => cases h
    | cons c rest =>
      obtain ⟨hstart, hlength⟩ := Option.ite_none_right_eq_some.1 h
      cases Option.some.inj hlength
      refine ⟨c, rest, rfl, hstart, ?_⟩
      -- The name would be this letter alone, and `hend` says that no quote follows it.
      rintro hquote
      obtain ⟨more, rfl⟩ := List.head?_eq_some_iff.1 hquote
      have hno : isIdentContinue '\'' = false := (isIdent_of_special '\'' (by decide)).2
      rw [List.takeWhile_cons, hno] at hend
      exact hend rfl
  unfold name? at h
  split at h
  · rename_i hraw
    obtain ⟨rest, rfl⟩ := List.isPrefixOf_iff_prefix.1 hraw
    exact ⟨'r', '#' :: rest, rfl, by decide +kernel, nofun⟩
  · exact hplain h hend

/-- The numbers of the digits and of the characters that are skipped. -/
def nonLetters : List Nat :=
  List.range' 48 10 ++ List.range' 9 5 ++ List.range' 0x2000 11 ++
    [32, 0x85, 0xa0, 0x1680, 0x2028, 0x2029, 0x202f, 0x205f, 0x3000, 0x200e, 0x200f]

theorem mem_nonLetters {c : Char} (h : c.isDigit = true ∨ isSpace c = true) :
    c.toNat ∈ nonLetters := by
  have hmark : ∀ d : Char, (c == d) = true → c.toNat = d.toNat := fun d heq => by
    rw [beq_iff_eq.1 heq]
  simp only [nonLetters, List.mem_append, List.mem_range'_1, List.mem_cons, List.not_mem_nil,
    or_false]
  rcases h with h | h
  · obtain ⟨hlow, hhigh⟩ := Bool.and_eq_true_iff.1 h
    have hlow : 48 ≤ c.toNat := UInt32.le_iff_toNat_le.1 (of_decide_eq_true hlow)
    have hhigh : c.toNat ≤ 57 := UInt32.le_iff_toNat_le.1 (of_decide_eq_true hhigh)
    omega
  · simp only [isSpace, isBlank, Bool.or_eq_true, Bool.and_eq_true, decide_eq_true_eq] at h
    rcases h with (h | h) | h
    · simp only [beq_iff_eq] at h
      omega
    · have hnumber : c.toNat = 0x200e := hmark _ h
      omega
    · have hnumber : c.toNat = 0x200f := hmark _ h
      omega

/-- A letter is no digit and is not skipped. -/
theorem not_digit_nor_space {c : Char} (h : isIdentStart c = true) :
    ¬ (c.isDigit = true ∨ isSpace c = true) := by
  have hno : (nonLetters.all fun n => !isIdentStart (Char.ofNat n)) = true := by decide +kernel
  intro hother
  have hnone := List.all_eq_true.1 hno c.toNat (mem_nonLetters hother)
  rw [Char.ofNat_toNat, h] at hnone
  cases hnone

/-- The characters with which a comment, a bracket or a mark begins. -/
def leads : List Char :=
  marks ++ ['(', ')', '[', ']', '\x7b', '\x7d']

theorem not_mem_leads {c : Char} (h : isIdentStart c = true) : c ∉ leads := by
  have hno : ∀ c ∈ leads, isIdentStart c = false := forall_of_all (by decide +kernel)
  intro hmem
  rw [hno c hmem] at h
  cases h

/-- Only a quoted literal begins with a letter. -/
theorem pos_of_literal? {c : Char} {rest : List Char} {n : Nat} (hc : isIdentStart c = true)
    (h : literal? (c :: rest) = some n) : 0 < n := by
  have hdigit : ¬ c.isDigit = true := fun hdigit => not_digit_nor_space hc (.inl hdigit)
  rcases Option.or_eq_some_iff.1 h with h | ⟨-, h⟩
  · obtain ⟨m, hm, rfl⟩ := Option.map_eq_some_iff.1 h
    have hpos : 0 < m := by
      unfold quoted? at hm
      split at hm
      all_goals first
        | cases hm
        | obtain ⟨k, -, rfl⟩ := Option.map_eq_some_iff.1 hm
          omega
    exact Nat.lt_of_lt_of_le hpos (Nat.le_add_right _ _)
  · rcases Option.or_eq_some_iff.1 h with h | ⟨-, h⟩
    · obtain ⟨m, hm, -⟩ := Option.bind_eq_some_iff.1 h
      exact absurd (head_of_floatDigits? hm c rfl) hdigit
    · obtain ⟨m, hm, -⟩ := Option.bind_eq_some_iff.1 h
      exact absurd (head_of_intDigits? hm c rfl) hdigit

theorem pos_of_ident? {cs : List Char} {n : Nat} (h : ident? cs = some n) :
    name? cs = some n ∧ 0 < n := by
  unfold ident? at h
  split at h
  · cases h
  refine ⟨h, ?_⟩
  unfold name? at h
  split at h
  · obtain ⟨m, -, h⟩ := Option.bind_eq_some_iff.1 h
    obtain ⟨-, hlength⟩ := Option.ite_none_left_eq_some.1 h
    cases Option.some.inj hlength
    omega
  · exact (front_plainName? h).2.1

/-- A word at the front of a text that begins a name leads a lifetime. -/
theorem leads_of_take {cs : List Char} {n : Nat} (h : BeginsName cs) (hn : 0 < n) {t : Token}
    (hjoint : t.isJoint = false) (htext : t.spell.toList = cs.take n) : t.Leads := by
  obtain ⟨c, rest, rfl, hc, hquote⟩ := h
  obtain ⟨m, rfl⟩ : ∃ m, n = m + 1 := ⟨n - 1, by omega⟩
  have hletter : IsLetter c := .inl hc
  have hspecial : c ∉ '\\' :: specials := by
    rw [List.mem_cons, not_or]
    exact hletter.not_special
  refine ⟨hjoint, c, rest.take m, htext, hspecial, ?_⟩
  cases m with
  | zero => nofun
  | succ m =>
    cases rest with
    | nil => nofun
    | cons d more => exact hquote

theorem mem_marks_of_mark? {cs : List Char} {c : Char} (h : mark? cs = some c) :
    c ∈ marks ∧ cs.head? = some c := by
  cases cs with
  | nil => cases h
  | cons d rest =>
    rw [mark?] at h
    split at h
    · cases h
    split at h
    · cases h
      exact ⟨List.contains_iff_mem.1 ‹_›, rfl⟩
    · cases h

theorem mark?_of_letter {c : Char} (h : isIdentStart c = true) (rest : List Char) :
    mark? (c :: rest) = none := by
  cases hmark : mark? (c :: rest) with
  | none => rfl
  | some d =>
    obtain ⟨hmem, hhead⟩ := mem_marks_of_mark? hmark
    cases hhead
    exact absurd (List.mem_append_left _ hmem) (not_mem_leads h)

/-- A lexeme is a phrase, or the mark of a lifetime before its name. -/
theorem leaf_cases {cs : List Char} {t : Token} {n : Nat} (h : leaf? cs = some (t, n)) :
    IsPhrase [t] ∨ (t = .punct '\'' true ∧ BeginsName (cs.drop n)) := by
  -- In the order of the lexer: a literal, the mark of a lifetime, any other mark, a failed
  -- expansion, a name.
  unfold leaf? at h
  split at h
  · rename_i m hliteral
    cases h
    exact .inl (.literal (.read hliteral String.toList_ofList) .nil)
  split at h
  · rename_i hmark
    obtain ⟨m, hname, h⟩ := Option.bind_eq_some_iff.1 h
    obtain ⟨⟨⟩, hguard, h⟩ := Option.bind_eq_some_iff.1 h
    cases h
    have hend := (Option.guard_eq_some' _).1 hguard
    rw [Bool.and_eq_true, bne_iff_ne] at hend
    exact .inr ⟨rfl, beginsName_of_name? hname hend.1⟩
  · rename_i c hquote hmark
    cases h
    exact .inl (.mark (mem_marks_of_mark? hmark).1 hquote .nil)
  · split at h
    · cases h
      exact .inl (.literal .failedExpansion .nil)
    · obtain ⟨m, hident, h⟩ := Option.map_eq_some_iff.1 h
      cases h
      have hname : IsName (String.ofList (cs.take n)) :=
        ⟨cs, n, (pos_of_ident? hident).1, String.toList_ofList⟩
      exact .inl hname.phrase

/-- A lexeme that begins a name leads a lifetime. -/
theorem leaf_leads {cs : List Char} {t : Token} {n : Nat} (hcs : BeginsName cs)
    (h : leaf? cs = some (t, n)) : t.Leads ∧ IsPhrase [t] := by
  have hphrase := leaf_cases h
  have hbegins := hcs
  obtain ⟨c, rest, rfl, hc, -⟩ := hcs
  have hleads : t.Leads := by
    unfold leaf? at h
    split at h
    · rename_i m hliteral
      cases h
      exact leads_of_take hbegins (pos_of_literal? hc hliteral) rfl String.toList_ofList
    -- A name begins with a letter, and neither a mark nor a failed expansion does.
    rw [mark?_of_letter hc] at h
    dsimp only at h
    split at h
    · rename_i hfailed
      obtain ⟨more, hmore⟩ := List.isPrefixOf_iff_prefix.1 hfailed
      cases hmore
      exact absurd (by decide) (not_mem_leads hc)
    · obtain ⟨m, hident, h⟩ := Option.map_eq_some_iff.1 h
      cases h
      exact leads_of_take hbegins (pos_of_ident? hident).2 rfl String.toList_ofList
  refine ⟨hleads, hphrase.elim id fun hquote => ?_⟩
  rw [hquote.1] at hleads
  cases hleads.1

/-! A lexer. -/

/-- What may stand before a text in the tokens read so far, last first: a phrase, or a phrase and the
mark of a lifetime, of which the text begins the name. -/
def Pending (current : List Token) (cs : List Char) : Prop :=
  IsPhrase current.reverse ∨
    ∃ before, current = .punct '\'' true :: before ∧ IsPhrase before.reverse ∧ BeginsName cs

theorem Pending.leaf {current : List Token} {cs : List Char} {t : Token} {n : Nat}
    (h : Pending current cs) (hleaf : leaf? cs = some (t, n)) :
    Pending (t :: current) (cs.drop n) := by
  rcases h with hphrase | ⟨before, rfl, hbefore, hbegins⟩
  · rcases leaf_cases hleaf with ht | ⟨rfl, hbegins⟩
    · refine .inl ?_
      rw [List.reverse_cons]
      exact hphrase.append ht
    · exact .inr ⟨current, rfl, hphrase, hbegins⟩
  · obtain ⟨hleads, ht⟩ := leaf_leads hbegins hleaf
    refine .inl ?_
    rw [List.reverse_cons, List.reverse_cons, List.append_assoc]
    exact hbefore.append (.lifetime hleads ht)

/-- A lexer before a text: what was read so far are phrases. -/
structure Lexing.Sound (s : Lexing) (cs : List Char) : Prop where
  current : Pending s.current cs
  enclosing : ∀ e ∈ s.enclosing, IsPhrase e.2.reverse

theorem isPhrase_docTokens (doc : DocComment) : IsPhrase (docTokens doc) := by
  have hdoc : IsName "doc" := ⟨"doc".toList, 3, by decide +kernel, rfl⟩
  have hbody : IsPhrase [.ident "doc", .punct '=' false,
      .literal (Quoted.encode (String.ofList doc.text))] :=
    .ident hdoc (.mark (by decide) (by decide) (.literal (.quoted _) .nil))
  have hinner : IsPhrase (if doc.inner then [Token.punct '!' false] else []) :=
    isPhrase_ite _ (.mark (by decide) (by decide) .nil) .nil
  exact .mark (by decide) (by decide) (hinner.append (.group hbody .nil))

theorem step?_of_letter (s : Lexing) {c : Char} (hc : isIdentStart c = true) (rest : List Char) :
    s.step? c (c :: rest) = (leaf? (c :: rest)).map fun (t, n) => (s.push [t], n) := by
  -- A letter begins no blank, no comment and no group, so that only a leaf is left to try.
  have hlead := not_mem_leads hc
  have hskipped : skipped (c :: rest) = 0 := by
    unfold skipped
    split
    case h_3 =>
      rename_i heq
      cases heq
      exact if_neg fun hspace => not_digit_nor_space hc (.inr hspace)
    case h_4 =>
      rename_i heq
      cases heq
    all_goals
      rename_i heq
      cases heq
      exact absurd (by decide) hlead
  have hdoc : docComment? (c :: rest) = none := by
    unfold docComment?
    split
    case h_5 => rfl
    all_goals
      rename_i heq
      cases heq
      exact absurd (by decide) hlead
  have hopened : opened? c = none := by
    unfold opened?
    split
    case h_4 => rfl
    all_goals exact absurd (by decide) hlead
  have hclosed : closed? c = none := by
    unfold closed?
    split
    case h_4 => rfl
    all_goals exact absurd (by decide) hlead
  rw [Lexing.step?, hskipped, hdoc, hopened, hclosed, ite_self]

/-- A part of the text that is read leaves phrases. -/
theorem Lexing.Sound.step {s s' : Lexing} {c : Char} {rest : List Char} {n : Nat}
    (h : s.Sound (c :: rest)) (hstep : s.step? c (c :: rest) = some (s', n)) :
    s'.Sound ((c :: rest).drop n) := by
  have hleaf : ∀ {t n}, leaf? (c :: rest) = some (t, n) →
      (s.push [t]).Sound ((c :: rest).drop n) := fun hleaf =>
    ⟨h.current.leaf hleaf, h.enclosing⟩
  rcases h.current with hphrase | ⟨before, hcurrent, hbefore, hbegins⟩
  · unfold Lexing.step? at hstep
    split at hstep
    · cases hstep
      exact ⟨.inl hphrase, h.enclosing⟩
    split at hstep
    · rename_i doc _
      cases hstep
      refine ⟨.inl ?_, h.enclosing⟩
      rw [Lexing.push, List.reverse_append, List.reverse_reverse]
      exact hphrase.append (isPhrase_docTokens doc)
    split at hstep
    · cases hstep
      exact ⟨.inl .nil, List.forall_mem_cons.2 ⟨hphrase, h.enclosing⟩⟩
    split at hstep
    · rename_i d d' outer enclosing _ henclosing
      obtain ⟨-, hstep⟩ := Option.ite_none_right_eq_some.1 hstep
      cases hstep
      obtain ⟨houter, hothers⟩ := List.forall_mem_cons.1 (henclosing ▸ h.enclosing)
      refine ⟨.inl ?_, hothers⟩
      rw [List.reverse_cons]
      exact houter.append (.group hphrase .nil)
    · cases hstep
    · obtain ⟨⟨t, m⟩, ht, heq⟩ := Option.map_eq_some_iff.1 hstep
      cases heq
      exact hleaf ht
  -- After the mark of a lifetime only its name can follow.
  · obtain ⟨d, more, heq, hd, -⟩ := hbegins
    cases heq
    rw [step?_of_letter s hd] at hstep
    obtain ⟨⟨t, m⟩, ht, heq⟩ := Option.map_eq_some_iff.1 hstep
    cases heq
    exact hleaf ht

theorem isPhrase_of_lexFrom {fuel : Nat} {s : Lexing} {cs : List Char} {ts : List Token}
    (h : s.Sound cs) (hlex : lexFrom fuel s cs = some ts) : IsPhrase ts := by
  -- By induction on the fuel: each step keeps what was read a phrase, and so does the end.
  induction fuel generalizing s cs with
  | zero =>
    cases cs with
    | cons c rest => cases hlex
    | nil =>
      rw [lexFrom] at hlex
      obtain ⟨-, hts⟩ := Option.ite_none_right_eq_some.1 hlex
      cases hts
      exact h.current.resolve_right fun ⟨_, _, _, _, _, heq, _⟩ => nomatch heq
  | succ fuel ih =>
    cases cs with
    | nil =>
      rw [lexFrom] at hlex
      obtain ⟨-, hts⟩ := Option.ite_none_right_eq_some.1 hlex
      cases hts
      exact h.current.resolve_right fun ⟨_, _, _, _, _, heq, _⟩ => nomatch heq
    | cons c rest =>
      rw [lexFrom] at hlex
      split at hlex
      · exact ih (h.step ‹_›) hlex
      · cases hlex

/-- The tokens of a text are a phrase. -/
theorem isPhrase_of_tokens? {text : String} {ts : List Token} (h : tokens? text = some ts) :
    IsPhrase ts := by
  have hstart : ∀ cs, Lexing.Sound ⟨[], []⟩ cs := fun cs => ⟨.inl .nil, fun _ h => nomatch h⟩
  exact isPhrase_of_lexFrom (hstart _) h

/-- A type that is read from a text is proper. -/
theorem proper_of_typeOf? {text : String} {t : Ty} (h : typeOf? text = some t) : t.Proper := by
  obtain ⟨ts, hts, hparse⟩ := Option.bind_eq_some_iff.1 h
  have hsound : ∀ depth, Sound ((rules depth).type) := fun depth => sound_type (rules depth) true
  exact (holds_of_parse? hsound (isPhrase_of_tokens? hts) hparse).1

instance sound_readItems (r : Rules) [r.Sound] : Sound (readItems r) := by
  unfold readItems
  infer_instance

/-- What the items of a text declare has names. -/
theorem allNamed_of_itemsOf? {text : String} {content : List Item}
    (h : itemsOf? text = some content) : AllNamed content := by
  obtain ⟨ts, hts, hparse⟩ := Option.bind_eq_some_iff.1 h
  have hsound : ∀ depth, Sound (readItems (rules depth)) := fun depth =>
    sound_readItems (rules depth)
  exact allNamed_iff.2 (holds_of_parse? hsound (isPhrase_of_tokens? hts) hparse)

end TypedPreferences.Source
