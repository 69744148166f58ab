import TypedPreferences.Proofs.Source.Parsed

/-! Names with double colons between them are read as the path that has them as its segments. -/

namespace TypedPreferences.Source

open TypedPreferences.Text Bracketing Lexeme

/-- The path of names without arguments. -/
def NamePath.ofNames (first : String) (more : List String) : NamePath :=
  ⟨⟨false, (first :: more).dropLast.map (⟨·, []⟩)⟩, more.getLast?.getD first, []⟩

/-- The names of the segments of a path. -/
def NamePath.names (p : NamePath) : List String :=
  p.qualifier.steps.map (·.name) ++ [p.name]

theorem NamePath.names_ofNames (first : String) (more : List String) :
    (ofNames first more).names = first :: more := by
  have hlast : more.getLast?.getD first ∈ (first :: more).getLast? := by
    rw [List.getLast?_cons]
    rfl
  simp only [names, ofNames, List.map_map, Function.comp_def, List.map_id']
  exact List.dropLast_append_getLast? _ hlast

theorem NamePath.ofNames_inj {first : String} {more more' : List String} :
    ofNames first more = ofNames first more' ↔ more = more' := by
  refine ⟨fun h => ?_, fun h => h ▸ rfl⟩
  have hnames := congrArg names h
  rw [names_ofNames, names_ofNames] at hnames
  exact (List.cons.inj hnames).2

/-! A name at the front of a text is a lexeme, when the text ends after it or a colon follows. -/

section Name

variable {cs after : List Char} {n : Nat}

theorem plainName?_append (h : plainName? cs = some n) (hafter : ∀ c ∈ after.head?, c = ':') :
    plainName? (cs.take n ++ after) = some n := by
  cases cs with
  | nil => cases h
  | cons c rest =>
    obtain ⟨hstart, hlength⟩ := Option.ite_none_right_eq_some.1 h
    cases Option.some.inj hlength
    have htake : (c :: rest).take (1 + (rest.takeWhile isIdentContinue).length) =
        c :: rest.takeWhile isIdentContinue := by
      rw [Nat.add_comm, List.take_succ_cons]
      exact congrArg _ (List.prefix_iff_eq_take.1 (List.takeWhile_prefix _)).symm
    have hend : after.takeWhile isIdentContinue = [] := by
      cases after with
      | nil => rfl
      | cons d more =>
        obtain rfl : d = ':' := hafter d rfl
        rw [List.takeWhile_cons, (isIdent_of_special ':' (by decide)).2]
        rfl
    rw [htake, List.cons_append, plainName?, if_pos hstart,
      List.takeWhile_append_of_pos fun _ => List.mem_takeWhile_imp, hend, List.append_nil]

theorem length_take_of_plainName? (h : plainName? cs = some n) : (cs.take n).length = n := by
  cases cs with
  | nil => cases h
  | cons c rest =>
    obtain ⟨-, hlength⟩ := Option.ite_none_right_eq_some.1 h
    cases Option.some.inj hlength
    have hle : (rest.takeWhile isIdentContinue).length ≤ rest.length :=
      (List.takeWhile_prefix _).length_le
    rw [List.length_take, List.length_cons]
    omega

theorem name?_append {text : String} (h : IsName text) (hafter : ∀ c ∈ after.head?, c = ':') :
    name? (text.toList ++ after) = some text.length := by
  obtain ⟨cs, n, hname, htext⟩ := h
  rw [← String.length_toList, htext]
  unfold name? at hname
  split at hname
  · rename_i hraw
    obtain ⟨m, hm, hname⟩ := Option.bind_eq_some_iff.1 hname
    obtain ⟨hword, hlength⟩ := Option.ite_none_left_eq_some.1 hname
    cases Option.some.inj hlength
    obtain ⟨rest, rfl⟩ := List.isPrefixOf_iff_prefix.1 hraw
    have hlength : (rest.take m).length = m := length_take_of_plainName? hm
    have hagain : plainName? (rest.take m ++ after) = some m := plainName?_append hm hafter
    change name? ('r' :: '#' :: (rest.take m ++ after)) = some ((rest.take m).length + 2)
    unfold name?
    rw [if_pos (by rfl)]
    refine Option.bind_eq_some_iff.2 ⟨m, hagain, ?_⟩
    change (if ["_", "super", "self", "Self", "crate"].contains
      (String.ofList ((rest.take m ++ after).take m)) then none else some (m + 2)) = _
    rw [List.take_left' hlength, hlength]
    exact if_neg hword
  · rename_i hplain
    rw [length_take_of_plainName? hname]
    -- With a hash behind an `r` the text would end, and the hash would be what follows.
    have hno : ¬ startsWith "r#" (cs.take n ++ after) = true := by
      intro hraw
      obtain ⟨rest, hrest⟩ := List.isPrefixOf_iff_prefix.1 hraw
      rw [rawLead] at hrest
      have hletters := (front_plainName? hname).1
      have hpos := (front_plainName? hname).2.1
      rw [← length_take_of_plainName? hname] at hpos
      rw [Front] at hletters
      generalize cs.take n = front at hrest hletters hpos
      rcases front with _ | ⟨c, _ | ⟨d, more⟩⟩
      · exact absurd hpos (Nat.lt_irrefl 0)
      · cases hrest
        exact absurd (hafter '#' rfl) (by decide)
      · cases hrest
        exact absurd (by decide) (hletters '#' (by simp)).not_special.2
    rw [name?, if_neg hno]
    exact plainName?_append hname hafter

theorem IsName.begins {text : String} (h : IsName text) :
    ∃ c rest, text.toList = c :: rest ∧ isIdentStart c = true := by
  obtain ⟨cs, n, hname, htext⟩ := h
  unfold name? at hname
  split at hname
  · rename_i hraw
    obtain ⟨m, -, hname⟩ := Option.bind_eq_some_iff.1 hname
    obtain ⟨-, hlength⟩ := Option.ite_none_left_eq_some.1 hname
    cases Option.some.inj hlength
    obtain ⟨rest, rfl⟩ := List.isPrefixOf_iff_prefix.1 hraw
    exact ⟨'r', '#' :: rest.take m, htext, by decide +kernel⟩
  · cases cs with
    | nil => cases hname
    | cons c rest =>
      obtain ⟨hstart, hlength⟩ := Option.ite_none_right_eq_some.1 hname
      cases Option.some.inj hlength
      rw [Nat.add_comm, List.take_succ_cons] at htext
      exact ⟨c, _, htext, hstart⟩

/-- Neither quote stands in a text. -/
def Unquoted (cs : List Char) : Prop :=
  '"' ∉ cs ∧ '\'' ∉ cs

theorem IsName.unquoted {text : String} (h : IsName text) : Unquoted text.toList := by
  obtain ⟨c, rest, htext, hc, hrest⟩ := h.exists_cons
  have hmem : ∀ q ∈ specials, q ≠ '#' → q ∉ text.toList := by
    intro q hq hhash hmem
    rw [htext] at hmem
    rcases List.mem_cons.1 hmem with rfl | hmem
    · exact hc (List.mem_cons_of_mem _ hq)
    · exact (hrest q hmem).elim hhash fun h => h (List.mem_cons_of_mem _ hq)
  exact ⟨hmem '"' (by decide) (by decide), hmem '\'' (by decide) (by decide)⟩

theorem raw?_of_unquoted {allowed : Char → Bool} (h : Unquoted cs) : raw? allowed cs = none := by
  unfold raw?
  dsimp only
  split
  · rename_i rest hrest
    exact absurd (List.mem_of_mem_drop (hrest ▸ List.mem_cons_self)) h.1
  · rfl

theorem Unquoted.mono {cs' : List Char} (h : Unquoted cs) (hsub : cs' ⊆ cs) : Unquoted cs' :=
  ⟨fun hmem => h.1 (hsub hmem), fun hmem => h.2 (hsub hmem)⟩

theorem Unquoted.append (h : Unquoted cs) (h' : Unquoted after) : Unquoted (cs ++ after) := by
  unfold Unquoted
  simp [h.1, h.2, h'.1, h'.2]

theorem quoted?_of_unquoted (h : Unquoted cs) : quoted? cs = none := by
  have hraw : ∀ {rest allowed}, rest ⊆ cs → raw? allowed rest = none := fun hsub =>
    raw?_of_unquoted (h.mono hsub)
  unfold quoted?
  split
  · exact absurd List.mem_cons_self h.1
  · exact absurd (by simp) h.1
  · exact absurd (by simp) h.2
  · rw [hraw (by simp)]
    rfl
  · exact absurd (by simp) h.1
  · rw [hraw (by simp)]
    rfl
  · rw [hraw (by simp)]
    rfl
  · exact absurd List.mem_cons_self h.2
  · rfl

theorem literal?_of_unquoted {c : Char} (h : Unquoted (c :: cs)) (hc : c.isDigit = false) :
    literal? (c :: cs) = none := by
  have hfloat : floatDigits? (c :: cs) = none := by
    cases hfloat : floatDigits? (c :: cs) with
    | none => rfl
    | some m =>
      have hdigit := head_of_floatDigits? hfloat c rfl
      rw [hc] at hdigit
      cases hdigit
  have hint : intDigits? (c :: cs) = none := by
    cases hint : intDigits? (c :: cs) with
    | none => rfl
    | some m =>
      have hdigit := head_of_intDigits? hint c rfl
      rw [hc] at hdigit
      cases hdigit
  rw [literal?, quoted?_of_unquoted h, number?, hfloat, hint]
  rfl

/-- The letters of a raw or a marked literal before a hash are no name before a colon. -/
theorem not_startsWith_hashed {op : String} (hop : op ∈ ["r##", "br#", "cr#"]) {text : String}
    (h : name? (text.toList ++ after) = some text.length) (hafter : ∀ c ∈ after.head?, c = ':') :
    startsWith op (text.toList ++ after) = false := by
  rw [Bool.eq_false_iff]
  intro hstart
  obtain ⟨rest, hrest⟩ := List.isPrefixOf_iff_prefix.1 hstart
  have hhash := isIdent_of_special '#' (by decide)
  have hdrop : (op.toList ++ rest).drop text.length = after := by
    rw [hrest]
    exact List.drop_left' String.length_toList
  rw [← hrest] at h
  -- With a mark before it, the name ends at the hash, where a colon would have to be.
  have hmarked : ∀ first, isIdentStart first = true → first ≠ 'r' →
      op.toList = [first, 'r', '#'] → False := by
    intro first hfirst hne hop
    rw [hop] at h hdrop
    have hlength : text.length = 2 := by
      have hplain : ¬ startsWith "r#" ([first, 'r', '#'] ++ rest) = true := by
        intro hraw
        obtain ⟨_, hmore⟩ := List.isPrefixOf_iff_prefix.1 hraw
        exact hne (List.cons.inj hmore).1.symm
      rw [name?, if_neg hplain] at h
      have hcontinue : isIdentContinue 'r' = true := by decide +kernel
      rw [List.cons_append, List.cons_append, List.cons_append, plainName?, if_pos hfirst,
        List.takeWhile_cons, hcontinue, if_pos rfl, List.takeWhile_cons, hhash.2] at h
      exact (Option.some.inj h).symm
    rw [hlength] at hdrop
    exact absurd (hafter '#' (by rw [← hdrop]; rfl)) (by decide)
  simp only [List.mem_cons, List.not_mem_nil, or_false] at hop
  rcases hop with rfl | rfl | rfl
  · -- A raw name needs a name behind its hash, and finds another hash.
    rw [name?, if_pos (by rfl)] at h
    obtain ⟨m, hm, -⟩ := Option.bind_eq_some_iff.1 h
    have hno : plainName? ('#' :: rest) = none := by rw [plainName?, hhash.1]; rfl
    cases hno.symm.trans hm
  · exact hmarked 'b' (by decide +kernel) (by decide) rfl
  · exact hmarked 'c' (by decide +kernel) (by decide) rfl

theorem not_startsWith_quoted {op : String} (hop : ¬ Unquoted op.toList) (h : Unquoted cs) :
    startsWith op cs = false := by
  rw [Bool.eq_false_iff]
  intro hstart
  obtain ⟨rest, rfl⟩ := List.isPrefixOf_iff_prefix.1 hstart
  exact hop (h.mono (List.subset_append_left _ _))

theorem ident?_append {text : String} (h : IsName text) (hafter : ∀ c ∈ after.head?, c = ':')
    (hquotes : Unquoted after) : ident? (text.toList ++ after) = some text.length := by
  have hname := name?_append h hafter
  have hall := h.unquoted.append hquotes
  have hopenings : quotedOpenings.any (startsWith · (text.toList ++ after)) = false := by
    rw [List.any_eq_false]
    intro op hop
    rw [Bool.not_eq_true]
    by_cases hhashed : op ∈ ["r##", "br#", "cr#"]
    · exact not_startsWith_hashed hhashed hname hafter
    · refine not_startsWith_quoted (fun hunquoted => ?_) hall
      revert op
      unfold Unquoted
      decide
  rw [ident?, hopenings]
  exact hname

theorem leaf?_append {text : String} (h : IsName text) (hafter : ∀ c ∈ after.head?, c = ':')
    (hquotes : Unquoted after) :
    leaf? (text.toList ++ after) = some (.ident text, text.length) := by
  obtain ⟨c, rest, htext, hc⟩ := h.begins
  have hall := h.unquoted.append hquotes
  -- A name is tried last, so nothing that is tried before it may read anything.
  have hliteral : literal? (text.toList ++ after) = none := by
    rw [htext] at hall ⊢
    exact literal?_of_unquoted hall <| Bool.eq_false_iff.2 fun hdigit =>
      not_digit_nor_space hc (.inl hdigit)
  have hmark : mark? (text.toList ++ after) = none := by
    rw [htext]
    exact mark?_of_letter hc _
  have hfailed : ¬ startsWith failedExpansion (text.toList ++ after) = true := by
    rw [htext, List.cons_append]
    generalize rest ++ after = others
    intro hstart
    obtain ⟨more, hmore⟩ := List.isPrefixOf_iff_prefix.1 hstart
    cases hmore
    exact absurd (by decide) (not_mem_leads hc)
  have htake : (text.toList ++ after).take text.length = text.toList :=
    List.take_left' String.length_toList
  rw [leaf?, hliteral]
  dsimp only
  rw [hmark]
  dsimp only
  rw [if_neg hfailed, ident?_append h hafter hquotes, Option.map_some, htake, String.ofList_toList]

end Name

/-! The text of names with double colons between them, and its tokens. -/

/-- Names with a double colon before each. -/
def colonsBefore (names : List String) : List Char :=
  names.flatMap fun name => ':' :: ':' :: name.toList

def nameTokens (names : List String) : List Token :=
  names.flatMap fun name => [.punct ':' true, .punct ':' false, .ident name]

theorem colonsBefore_cons (name : String) (names : List String) :
    colonsBefore (name :: names) = ':' :: ':' :: (name.toList ++ colonsBefore names) :=
  rfl

theorem toList_intercalate_colons (first : String) (more : List String) :
    ("::".intercalate (first :: more)).toList = first.toList ++ colonsBefore more := by
  rw [String.toList_intercalate]
  induction more generalizing first with
  | nil => simp [colonsBefore]
  | cons name more ih =>
    rw [List.map_cons, List.map_cons, List.intercalate_cons_cons, ← List.map_cons, ih,
      List.append_assoc]
    rfl

section Names

variable {names more : List String} {s : Lexing} {fuel : Nat}

theorem unquoted_colonsBefore (h : ∀ name ∈ names, IsName name) : Unquoted (colonsBefore names) := by
  induction names with
  | nil => exact ⟨List.not_mem_nil, List.not_mem_nil⟩
  | cons name names ih =>
    obtain ⟨hname, hnames⟩ := List.forall_mem_cons.1 h
    have hcolons : Unquoted [':', ':'] := by
      unfold Unquoted
      decide
    exact hcolons.append (hname.unquoted.append (ih hnames))

theorem head_colonsBefore : ∀ c ∈ (colonsBefore names).head?, c = ':' := by
  cases names with
  | nil => nofun
  | cons name names =>
    rintro c ⟨⟩
    rfl

theorem lexFrom_step {s' : Lexing} {c : Char} {rest : List Char} {n : Nat}
    (h : s.step? c (c :: rest) = some (s', n)) :
    lexFrom (fuel + 1) s (c :: rest) = lexFrom fuel s' ((c :: rest).drop n) := by
  rw [lexFrom, h]

theorem step?_colon (rest : List Char) :
    s.step? ':' (':' :: rest) = some (s.push [.punct ':' (mark? rest).isSome], 1) :=
  rfl

theorem lexFrom_colons {text : String} (h : IsName text) (after : List Char) :
    lexFrom (fuel + 2) s (':' :: ':' :: (text.toList ++ after)) =
      lexFrom fuel (s.push [.punct ':' true, .punct ':' false]) (text.toList ++ after) := by
  obtain ⟨c, rest, htext, hc⟩ := h.begins
  have hletter : mark? (text.toList ++ after) = none := by
    rw [htext]
    exact mark?_of_letter hc _
  rw [lexFrom_step (step?_colon _), List.drop_one, List.tail_cons, lexFrom_step (step?_colon _),
    hletter]
  rfl

theorem lexFrom_name {text : String} {after : List Char} (h : IsName text)
    (hafter : ∀ c ∈ after.head?, c = ':') (hquotes : Unquoted after) :
    lexFrom (fuel + 1) s (text.toList ++ after) = lexFrom fuel (s.push [.ident text]) after := by
  have hleaf := leaf?_append h hafter hquotes
  have hdrop : (text.toList ++ after).drop text.length = after :=
    List.drop_left' String.length_toList
  obtain ⟨c, rest, htext, hc⟩ := h.begins
  rw [htext, List.cons_append] at hleaf hdrop ⊢
  have hstep := step?_of_letter s hc (rest ++ after)
  rw [hleaf, Option.map_some] at hstep
  rw [lexFrom_step hstep, hdrop]

theorem lexFrom_colonsBefore (h : ∀ name ∈ names, IsName name) (hs : s.enclosing = [])
    (hfuel : (colonsBefore names).length ≤ fuel) :
    lexFrom fuel s (colonsBefore names) = some (s.current.reverse ++ nameTokens names) := by
  induction names generalizing fuel s with
  | nil =>
    have hend : lexFrom fuel s [] = some s.current.reverse := by
      cases fuel <;> rw [lexFrom, hs] <;> rfl
    rw [nameTokens, List.flatMap_nil, List.append_nil]
    exact hend
  | cons name names ih =>
    obtain ⟨hname, hnames⟩ := List.forall_mem_cons.1 h
    obtain ⟨c, rest, htext, -⟩ := hname.begins
    have hlength : 0 < name.toList.length := by
      rw [htext]
      exact Nat.succ_pos _
    rw [colonsBefore_cons] at hfuel ⊢
    simp only [List.length_cons, List.length_append] at hfuel
    -- Two steps for the colons and one for the name, which has a letter at least.
    obtain ⟨k, rfl⟩ : ∃ k, fuel = k + 1 + 2 := ⟨fuel - 3, by omega⟩
    rw [lexFrom_colons hname,
      lexFrom_name hname head_colonsBefore (unquoted_colonsBefore hnames)]
    have hlater : ((s.push [.punct ':' true, .punct ':' false]).push [.ident name]).enclosing = [] :=
      hs
    rw [ih hnames hlater (by omega)]
    simp [Lexing.push, nameTokens]

theorem tokens?_names {first : String} (hfirst : IsName first) (hmore : ∀ name ∈ more, IsName name) :
    tokens? ("::".intercalate (first :: more)) = some (.ident first :: nameTokens more) := by
  obtain ⟨c, rest, htext, hc⟩ := hfirst.begins
  have hmark : ¬ (some c == some '\ufeff') = true := by
    rw [beq_iff_eq, Option.some.injEq]
    rintro rfl
    exact absurd hc (by decide +kernel)
  have hlength : (first.toList ++ colonsBefore more).length =
      rest.length + (colonsBefore more).length + 1 := by
    rw [htext]
    simp [Nat.add_right_comm]
  have hhead : (first.toList ++ colonsBefore more).head? = some c := by
    rw [htext]
    rfl
  rw [tokens?, toList_intercalate_colons, hhead, if_neg hmark, hlength,
    lexFrom_name hfirst head_colonsBefore (unquoted_colonsBefore hmore),
    lexFrom_colonsBefore hmore rfl (Nat.le_add_left _ _)]
  rfl

end Names

/-! Names that are read as a path are its segments. -/

section Reading

open Grammar Reader

variable {r : Rules} {bound : Reader Bool} {c c' : Cursor} {more : List String}

theorem rest_of_mark {op : String} (h : mark op c = some ((), c')) :
    c'.rest = c.rest.drop op.length := by
  rw [mark, rest_bind] at h
  obtain ⟨⟨⟩, c₁, hrequire, hwrite⟩ := bind_eq_some.1 h
  obtain ⟨-, rfl⟩ := require_eq_some hrequire
  cases hwrite
  rfl

theorem anyWord_of_ident {word read : String} {ts : List Token} (hrest : c.rest = .ident word :: ts)
    (h : anyWord c = some (read, c')) : read = word ∧ c'.rest = ts := by
  rw [anyWord, rest_bind, hrest] at h
  cases h
  exact ⟨rfl, rfl⟩

theorem name_of_ident {word read : String} {ts : List Token} (hrest : c.rest = .ident word :: ts)
    (h : name c = some (read, c')) : read = word ∧ c'.rest = ts := by
  obtain ⟨found, c₁, hlooks, hrequired⟩ := bind_eq_some.1 h
  obtain ⟨-, rfl⟩ := looks_eq_some hlooks
  obtain ⟨⟨⟩, c₂, hrequire, hword⟩ := bind_eq_some.1 hrequired
  obtain ⟨-, rfl⟩ := require_eq_some hrequire
  exact anyWord_of_ident hrest hword

/-- After a name no arguments stand. -/
theorem no_args : atMark "<" (nameTokens more) = false ∧
    atMark "<" ((nameTokens more).drop 2) = false := by
  cases more with
  | nil => exact ⟨rfl, rfl⟩
  | cons name more => exact ⟨rfl, rfl⟩

/-- A segment before a double colon or at the end has no arguments. -/
theorem segment_of_name {name : String} {read : SegmentRead}
    (hrest : c.rest = .ident name :: nameTokens more)
    (h : Grammar.segment r bound false c = some (read, c')) :
    read = ⟨name, none, []⟩ ∧ c'.rest = nameTokens more := by
  rw [Grammar.segment, rest_bind] at h
  split at h
  · obtain ⟨word, c₁, hword, h⟩ := bind_eq_some.1 h
    obtain ⟨rfl, hafter⟩ := anyWord_of_ident hrest hword
    cases h
    exact ⟨rfl, hafter⟩
  · dsimp only at h
    split at h
    all_goals
      obtain ⟨id, c₁, hid, h⟩ := bind_eq_some.1 h
      obtain ⟨rfl, hafter⟩ : id = name ∧ c₁.rest = nameTokens more := by
        first
          | exact anyWord_of_ident hrest hid
          | exact name_of_ident hrest hid
      rw [rest_bind, hafter, no_args.1, no_args.2] at h
      simp only [Bool.and_false, Bool.false_and, Bool.or_self] at h
      cases h
      exact ⟨rfl, hafter⟩

theorem segments_of_names {read : List SegmentRead} (hrest : c.rest = nameTokens more)
    (h : segments r bound false c = some (read, c')) : read = more.map (⟨·, none, []⟩) := by
  rw [segments, repeated, rest_bind, hrest] at h
  -- The induction is on the steps; how many there may be does not matter for what is read.
  generalize (nameTokens more).length + 1 = fuel at h
  induction fuel generalizing c more read with
  | zero => cases h
  | succ fuel ih =>
    obtain ⟨found, c₁, hstep, hothers⟩ := bind_eq_some.1 h
    rw [rest_bind, hrest] at hstep
    cases more with
    | nil =>
      cases hstep
      cases hothers
      rfl
    | cons name more =>
      obtain ⟨⟨⟩, c₂, hmark, hsegment⟩ := bind_eq_some.1 hstep
      obtain ⟨segment, c₃, hsegment, hpure⟩ := bind_eq_some.1 hsegment
      cases hpure
      have hnext : c₂.rest = .ident name :: nameTokens more := by
        rw [rest_of_mark hmark, hrest]
        rfl
      obtain ⟨rfl, hafter⟩ := segment_of_name hnext hsegment
      obtain ⟨others, c₄, hothers, hpure⟩ := bind_eq_some.1 hothers
      cases hpure
      rw [ih hafter hothers, List.map_cons]

theorem path_of_names {first : String} {read : PathRead}
    (hrest : c.rest = .ident first :: nameTokens more)
    (h : Grammar.path r bound false c = some (read, c')) : read.named = .ofNames first more := by
  have hname : atMark "::" c.rest = false := by
    rw [hrest]
    rfl
  obtain ⟨leading, c₁, hleading, hpath⟩ := bind_eq_some.1 h
  obtain ⟨found, c₂, hlooks, hmark⟩ := bind_eq_some.1 hleading
  obtain ⟨rfl, rfl⟩ := looks_eq_some hlooks
  rw [hname] at hmark
  cases hmark
  obtain ⟨start, c₃, hsegment, hmore⟩ := bind_eq_some.1 hpath
  obtain ⟨others, c₄, hsegments, hread⟩ := bind_eq_some.1 hmore
  obtain ⟨rfl, hafter⟩ := segment_of_name hrest hsegment
  cases segments_of_names hafter hsegments
  cases hread
  simp [PathRead.named, PathRead.qualifier, NamePath.ofNames, Function.comp_def,
    List.getLast?_cons, List.getLast?_map, Option.getD_map]

end Reading

/-- A path that is read from names with double colons between them has the names as its segments. -/
theorem eq_ofNames_of_pathOf? {first : String} {more : List String} {p : NamePath}
    (hnames : ∀ name ∈ first :: more, IsName name)
    (h : pathOf? ("::".intercalate (first :: more)) = some p) : p = .ofNames first more := by
  obtain ⟨hfirst, hmore⟩ := List.forall_mem_cons.1 hnames
  obtain ⟨ts, hts, hparse⟩ := Option.bind_eq_some_iff.1 h
  cases (tokens?_names hfirst hmore).symm.trans hts
  obtain ⟨c, hrun⟩ := run_of_parse? hparse
  obtain ⟨read, c₁, hpath, hnamed⟩ := Reader.bind_eq_some.1 hrun
  cases hnamed
  exact path_of_names rfl hpath

end TypedPreferences.Source
