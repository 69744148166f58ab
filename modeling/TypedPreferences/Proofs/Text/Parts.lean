import TypedPreferences.Proofs.Text.Decimal
import TypedPreferences.Text.Replace

/-! Parts of a text between separators. Parts that the first character of a separator does not stand
in come back when they are joined and split, and no part of any text has the separator in it. -/

namespace TypedPreferences.Text

/-- Splitting at a single character is splitting a list at it, by induction on the text with the
current part carried along. -/
theorem splitAfter_singleton (separator : Char) (part cs : List Char) :
    splitAfter [separator] part 0 cs = List.splitOnPPrepend (· == separator) cs part := by
  induction cs generalizing part with
  | nil => rfl
  | cons c cs ih =>
    have hprefix : [separator].isPrefixOf (c :: cs) = (c == separator) := by
      rw [List.isPrefixOf, List.isPrefixOf, Bool.and_true, Bool.beq_comm]
    rw [splitAfter, hprefix, List.splitOnPPrepend_cons_eq_if]
    -- At the separator a new part begins; any other character goes to the current one.
    split
    · exact congrArg (part.reverse :: ·) (ih [])
    · exact ih (c :: part)

theorem splitAfter_eq_splitOn (separator : Char) (cs : List Char) :
    splitAfter [separator] [] 0 cs = cs.splitOn separator :=
  splitAfter_singleton separator [] cs

theorem split_comma (cs : List Char) : split "," cs = cs.splitOn ',' :=
  splitAfter_eq_splitOn ',' cs

theorem mem_signedDecimal {n : Int} {c : Char} (h : c ∈ signedDecimal n) :
    c = '-' ∨ (digit? c).isSome = true := by
  rw [signedDecimal] at h
  split at h
  · rcases List.mem_cons.1 h with rfl | hdigit
    · exact .inl rfl
    · exact .inr (areDigits_decimal _ c hdigit)
  · exact .inr (areDigits_decimal _ c h)

/-! Separators of several characters. -/

/-- Characters to be skipped are dropped. -/
theorem splitAfter_skip (separator part : List Char) (skip : Nat) (cs : List Char) :
    splitAfter separator part skip cs = splitAfter separator part 0 (cs.drop skip) := by
  induction skip generalizing cs with
  | zero => rfl
  | succ skip ih =>
    cases cs with
    | nil => rfl
    | cons c cs => exact ih cs

section Separator
variable {first : Char} {others : List Char}

/-- Characters that do not begin a separator go to the current part. -/
theorem splitAfter_append_of_not_mem {part : List Char} (h : first ∉ part)
    (current rest : List Char) :
    splitAfter (first :: others) current 0 (part ++ rest) =
      splitAfter (first :: others) (part.reverse ++ current) 0 rest := by
  induction part generalizing current with
  | nil => rfl
  | cons c part ih =>
    rw [List.mem_cons, not_or] at h
    obtain ⟨hc, hpart⟩ := h
    have hprefix : ¬ (first :: others).isPrefixOf (c :: (part ++ rest)) = true := by
      rw [List.isPrefixOf_iff_prefix, List.cons_prefix_cons]
      exact fun hboth => hc hboth.1
    rw [List.cons_append, splitAfter, if_neg hprefix, ih hpart, List.reverse_cons,
      List.append_assoc, List.singleton_append]

/-- A separator ends the current part. -/
theorem splitAfter_separator (current rest : List Char) :
    splitAfter (first :: others) current 0 (first :: others ++ rest) =
      current.reverse :: splitAfter (first :: others) [] 0 rest := by
  have hprefix : (first :: others).isPrefixOf (first :: (others ++ rest)) = true :=
    List.isPrefixOf_iff_prefix.2 (List.prefix_append (first :: others) rest)
  rw [List.cons_append, splitAfter, if_pos hprefix, splitAfter_skip, List.length_cons,
    Nat.add_sub_cancel, List.drop_left]

/-- The part before a separator comes first, and what is after it is split on its own. -/
theorem splitAfter_part {part : List Char} (h : first ∉ part) (rest : List Char) :
    splitAfter (first :: others) [] 0 (part ++ (first :: others) ++ rest) =
      part :: splitAfter (first :: others) [] 0 rest := by
  rw [List.append_assoc, splitAfter_append_of_not_mem h, splitAfter_separator, List.append_nil,
    List.reverse_reverse]

/-- Parts are found again between the separators that join them. -/
theorem splitAfter_intercalate {parts : List (List Char)} (hne : parts ≠ [])
    (h : ∀ part ∈ parts, first ∉ part) :
    splitAfter (first :: others) [] 0 ((first :: others).intercalate parts) = parts := by
  induction parts with
  | nil => exact absurd rfl hne
  | cons part parts ih =>
    obtain ⟨hpart, hparts⟩ := List.forall_mem_cons.1 h
    cases parts with
    | nil =>
      have hlast := @splitAfter_append_of_not_mem first others part hpart [] []
      rw [List.append_nil, List.append_nil] at hlast
      rw [List.intercalate_singleton, hlast, splitAfter, List.reverse_reverse]
    | cons next parts =>
      rw [List.intercalate_cons_cons, splitAfter_part hpart, ih (List.cons_ne_nil next parts) hparts]

end Separator

/-- No occurrence of the separator begins in the current part, which has its last character first and
goes on with the rest. -/
def NoneBegins (separator current rest : List Char) : Prop :=
  ∀ tail, tail ≠ [] → tail <:+ current.reverse → ¬ separator <+: tail ++ rest

theorem NoneBegins.nil (separator rest : List Char) : NoneBegins separator [] rest :=
  fun _ hne htail => absurd (List.suffix_nil.1 htail) hne

theorem NoneBegins.cons {separator current rest : List Char} {c : Char}
    (h : NoneBegins separator current (c :: rest)) (hc : ¬ separator <+: c :: rest) :
    NoneBegins separator (c :: current) rest := by
  intro tail hne htail
  rw [List.reverse_cons, List.suffix_concat_iff] at htail
  obtain rfl | ⟨front, rfl, hfront⟩ := htail
  · exact absurd rfl hne
  · rw [List.append_assoc, List.singleton_append]
    -- The occurrence begins at the new character, or before it.
    by_cases hnil : front = []
    · rw [hnil]
      exact hc
    · exact h front hnil hfront

theorem NoneBegins.not_isInfix {separator current rest : List Char} (hne : separator ≠ [])
    (h : NoneBegins separator current rest) : ¬ separator <:+: current.reverse := by
  rintro ⟨front, back, hcurrent⟩
  have htail : separator ++ back <:+ current.reverse :=
    ⟨front, by rw [← hcurrent, List.append_assoc]⟩
  apply h (separator ++ back) (fun hnil => hne (List.append_eq_nil_iff.1 hnil).1) htail
  rw [List.append_assoc]
  exact List.prefix_append separator (back ++ rest)

/-- No part has the separator in it. The invariant is that none begins in the current part, since it
would have been found there. -/
theorem not_isInfix_of_mem_splitAfter {separator current cs : List Char} {skip : Nat}
    (hne : separator ≠ []) (h : NoneBegins separator current (cs.drop skip)) :
    ∀ part ∈ splitAfter separator current skip cs, ¬ separator <:+: part := by
  fun_induction splitAfter separator current skip cs with
  | case1 current skip =>
    intro part hpart
    rw [List.mem_singleton.1 hpart]
    exact h.not_isInfix hne
  | case2 current skip c cs ih => exact ih h
  | case3 current c cs hprefix ih =>
    intro part hpart
    rcases List.mem_cons.1 hpart with rfl | hrest
    · exact h.not_isInfix hne
    · exact ih (.nil separator _) part hrest
  | case4 current c cs hprefix ih =>
    rw [List.isPrefixOf_iff_prefix] at hprefix
    exact ih (h.cons hprefix)

theorem not_mem_of_mem_splitOn {separator : Char} {cs : List Char} :
    ∀ part ∈ cs.splitOn separator, separator ∉ part := by
  intro part hpart hmem
  rw [← splitAfter_eq_splitOn] at hpart
  obtain ⟨front, back, rfl⟩ := List.append_of_mem hmem
  have hfound : [separator] <:+: front ++ separator :: back :=
    ⟨front, back, by rw [List.append_assoc, List.singleton_append]⟩
  exact not_isInfix_of_mem_splitAfter (List.cons_ne_nil _ _) (.nil _ _) _ hpart hfound

end TypedPreferences.Text
