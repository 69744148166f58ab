import Mathlib.Data.List.TakeWhile
import Mathlib.Data.Option.Basic
import TypedPreferences.Proofs.Text.QuotedEnds
import TypedPreferences.Source.Lexeme

/-! The texts of names and literals: each closes all brackets and quotes that it opens. -/

namespace TypedPreferences.Source.Lexeme

open TypedPreferences.Text Bracketing

theorem isIdent_of_special : ∀ c ∈ '\\' :: specials,
    isIdentStart c = false ∧ isIdentContinue c = false :=
  forall_of_all (by decide +kernel)

/-- A character of a name: it is no special character. -/
def IsLetter (c : Char) : Prop :=
  isIdentStart c = true ∨ isIdentContinue c = true

theorem IsLetter.not_special {c : Char} (h : IsLetter c) : c ≠ '\\' ∧ c ∉ specials := by
  rw [← not_or, ← List.mem_cons]
  intro hmem
  obtain ⟨hstart, hcontinue⟩ := isIdent_of_special c hmem
  rcases h with h | h
  · rw [h] at hstart
    cases hstart
  · rw [h] at hcontinue
    cases hcontinue

theorem isPlain_of_not_special {c : Char} (h : c ∉ specials) : IsPlain c := by
  refine ⟨?_, ?_, ?_, ?_, ?_⟩ <;> rintro rfl <;> exact h (by decide)

theorem IsLetter.isPlain {c : Char} (h : IsLetter c) : IsPlain c :=
  isPlain_of_not_special h.not_special.2

/-- The first characters of a text have a property. -/
def Front (p : Char → Prop) (n : Nat) (cs : List Char) : Prop :=
  ∀ c ∈ cs.take n, p c

section Front

variable {p : Char → Prop} {n m : Nat} {c : Char} {cs : List Char}

theorem front_zero : Front p 0 cs :=
  fun _ h => absurd h (by simp)

theorem Front.cons (hc : p c) (h : Front p n cs) : Front p (n + 1) (c :: cs) :=
  List.forall_mem_cons.2 ⟨hc, h⟩

theorem Front.add (h : Front p n cs) (hmore : Front p m (cs.drop n)) : Front p (n + m) cs := by
  intro c hc
  rw [List.take_add, List.mem_append] at hc
  exact hc.elim (h c) (hmore c)

theorem front_takeWhile {test : Char → Bool} (h : ∀ c, test c = true → p c) :
    Front p (cs.takeWhile test).length cs := by
  intro c hc
  rw [← List.prefix_iff_eq_take.1 (List.takeWhile_prefix test)] at hc
  exact h c (List.mem_takeWhile_imp hc)

theorem Front.mono {q : Char → Prop} (h : Front p n cs) (himp : ∀ c, p c → q c) : Front q n cs :=
  fun c hc => himp c (h c hc)

end Front

/-- A name begins with a letter and has only letters. -/
theorem front_plainName? {cs : List Char} {n : Nat} (h : plainName? cs = some n) :
    Front IsLetter n cs ∧ 0 < n ∧ 0 < cs.length := by
  cases cs with
  | nil => cases h
  | cons c rest =>
    obtain ⟨hstart, hlength⟩ := Option.ite_none_right_eq_some.1 h
    cases Option.some.inj hlength
    rw [Nat.add_comm]
    exact ⟨(front_takeWhile fun _ => .inr).cons (.inl hstart), Nat.succ_pos _, Nat.succ_pos _⟩

theorem front_suffix (cs : List Char) : Front IsLetter (suffix cs) cs := by
  unfold suffix
  cases h : plainName? cs with
  | none => exact front_zero
  | some n => exact (front_plainName? h).1

/-! Numbers have only characters that stand for themselves. -/

theorem isPlain_of_digit {c : Char} (h : (c.isDigit || c == '_') = true) : IsPlain c := by
  refine ⟨?_, ?_, ?_, ?_, ?_⟩ <;> rintro rfl <;> cases h

theorem isPlain_of_hexDigit? {c : Char} (h : (hexDigit? c).isSome = true) : IsPlain c := by
  refine ⟨?_, ?_, ?_, ?_, ?_⟩ <;> rintro rfl <;> cases h

theorem front_mantissa? (dot : Bool) (cs : List Char) :
    ∀ d ∈ mantissa? dot cs, Front IsPlain d.length cs := by
  -- The cases of the function: each digit and low line adds a plain character in front.
  fun_induction mantissa? dot cs with
  | case1 | case2 =>
    rintro d ⟨⟩
    exact front_zero
  | case3 =>
    rintro d ⟨⟩
  | case4 dot rest hdot hhead ih =>
    intro d hd
    obtain ⟨d', hd', rfl⟩ := Option.map_eq_some_iff.1 hd
    exact (ih d' hd').cons (by decide)
  | case5 dot c rest _ hdigit ih =>
    intro d hd
    obtain ⟨d', hd', rfl⟩ := Option.map_eq_some_iff.1 hd
    exact (ih d' hd').cons (isPlain_of_digit hdigit)
  | case6 dot c rest _ _ he =>
    rintro d ⟨⟩
    refine front_zero.cons ?_
    rcases Bool.or_eq_true_iff.1 he with he | he <;> rw [beq_iff_eq.1 he] <;> decide
  | case7 =>
    rintro d ⟨⟩
    exact front_zero

theorem front_exponent? (sign digit : Bool) (cs : List Char) :
    ∀ n ∈ exponent? sign digit cs, Front IsPlain n cs := by
  fun_induction exponent? sign digit cs with
  | case1 | case3 | case8 =>
    rintro n ⟨⟩
    exact front_zero
  | case2 | case4 | case9 =>
    rintro n ⟨⟩
  | case5 sign digit c rest hsign _ _ ih =>
    intro n hn
    obtain ⟨m, hm, rfl⟩ := Option.map_eq_some_iff.1 hn
    refine (ih m hm).cons ?_
    rcases Bool.or_eq_true_iff.1 hsign with h | h <;> rw [beq_iff_eq.1 h] <;> decide
  | case6 sign digit c rest _ hdigit ih =>
    intro n hn
    obtain ⟨m, hm, rfl⟩ := Option.map_eq_some_iff.1 hn
    exact (ih m hm).cons (isPlain_of_digit (by rw [hdigit, Bool.true_or]))
  | case7 sign digit c rest _ _ hline ih =>
    intro n hn
    obtain ⟨m, hm, rfl⟩ := Option.map_eq_some_iff.1 hn
    exact (ih m hm).cons (isPlain_of_digit (by rw [hline, Bool.or_true]))

theorem front_digitsTo? (base : Nat) (empty : Bool) (cs : List Char) :
    ∀ n ∈ digitsTo? base empty cs, Front IsPlain n cs := by
  fun_induction digitsTo? base empty cs with
  | case1 | case3 | case6 | case7 | case9 =>
    rintro n ⟨⟩
  | case2 | case8 | case10 =>
    rintro n ⟨⟩
    exact front_zero
  | case4 empty c rest hline _ ih =>
    intro n hn
    obtain ⟨m, hm, rfl⟩ := Option.map_eq_some_iff.1 hn
    exact (ih m hm).cons (isPlain_of_digit (by rw [hline, Bool.or_true]))
  | case5 empty c rest _ d hdigit _ ih =>
    intro n hn
    obtain ⟨m, hm, rfl⟩ := Option.map_eq_some_iff.1 hn
    exact (ih m hm).cons (isPlain_of_hexDigit? (by rw [hdigit]; rfl))

theorem front_floatDigits? {cs : List Char} {n : Nat} (h : floatDigits? cs = some n) :
    Front IsPlain n cs := by
  cases cs with
  | nil => cases h
  | cons c rest =>
    obtain ⟨⟨⟩, hguard, h⟩ := Option.bind_eq_some_iff.1 h
    obtain ⟨d, hd, h⟩ := Option.bind_eq_some_iff.1 h
    obtain ⟨⟨⟩, -, h⟩ := Option.bind_eq_some_iff.1 h
    have hdigit : c.isDigit = true := (Option.guard_eq_some' _).1 hguard
    have hmantissa : Front IsPlain (d.length + 1) (c :: rest) :=
      (front_mantissa? false rest d hd).cons (isPlain_of_digit (by rw [hdigit, Bool.true_or]))
    cases he : d.exponent with
    | false =>
      rw [if_neg (by rw [he]; exact Bool.false_ne_true)] at h
      cases h
      exact hmantissa
    | true =>
      rw [if_pos he] at h
      -- Where the exponent has no digits, its letter begins a suffix.
      cases hexponent : exponent? false false ((c :: rest).drop (d.length + 1)) with
      | some m =>
        rw [hexponent] at h
        cases h
        exact hmantissa.add (front_exponent? false false _ m hexponent)
      | none =>
        rw [hexponent] at h
        obtain ⟨-, hlength⟩ := Option.ite_none_right_eq_some.1 h
        cases Option.some.inj hlength
        intro x hx
        exact hmantissa x (List.take_subset_take_left _ (Nat.le_succ _) hx)

/-- The digits after a mark of their base. -/
theorem front_basedDigits? (lead : String) {base n : Nat} {cs : List Char}
    (hlead : ∀ c ∈ lead.toList, IsPlain c) (hlength : lead.toList.length = 2)
    (hstart : startsWith lead cs = true)
    (h : (digitsTo? base true (cs.drop 2)).map (· + 2) = some n) : Front IsPlain n cs := by
  obtain ⟨m, hm, rfl⟩ := Option.map_eq_some_iff.1 h
  obtain ⟨rest, rfl⟩ := List.isPrefixOf_iff_prefix.1 hstart
  have hfirst : Front IsPlain 2 (lead.toList ++ rest) := by
    intro c hc
    rw [← hlength, List.take_left] at hc
    exact hlead c hc
  rw [Nat.add_comm]
  exact hfirst.add (front_digitsTo? base true _ m hm)

theorem front_intDigits? {cs : List Char} {n : Nat} (h : intDigits? cs = some n) :
    Front IsPlain n cs := by
  unfold intDigits? at h
  split at h
  · exact front_basedDigits? "0x" (forall_of_all (by decide)) (by decide) ‹_› h
  split at h
  · exact front_basedDigits? "0o" (forall_of_all (by decide)) (by decide) ‹_› h
  split at h
  · exact front_basedDigits? "0b" (forall_of_all (by decide)) (by decide) ‹_› h
  · exact front_digitsTo? 10 true cs n h

theorem front_number? {cs : List Char} {n : Nat} (h : number? cs = some n) :
    Front IsPlain n cs := by
  have hend : ∀ m, Front IsPlain m cs → numberEnd? cs m = some n → Front IsPlain n cs := by
    intro m hfront hnumber
    obtain ⟨-, hlength⟩ := Option.ite_none_left_eq_some.1 hnumber
    cases Option.some.inj hlength
    exact hfront.add ((front_suffix _).mono fun _ => IsLetter.isPlain)
  rcases Option.or_eq_some_iff.1 h with h | ⟨-, h⟩
  · obtain ⟨m, hm, hnumber⟩ := Option.bind_eq_some_iff.1 h
    exact hend m (front_floatDigits? hm) hnumber
  · obtain ⟨m, hm, hnumber⟩ := Option.bind_eq_some_iff.1 h
    exact hend m (front_intDigits? hm) hnumber

/-! Quoted literals end outside of quotes. -/

/-! Quoted literals end outside of quotes. -/

theorem step_raw_hash (hashes : Nat) (seen : Option Nat) (depth : Nat) :
    Bracketing.step (.raw hashes seen, depth) '#' = some (hashPlace hashes seen, depth) :=
  rfl

theorem run_raw_hashes {hashes k : Nat} (hk : k < hashes) (depth : Nat) :
    run (.raw hashes (some k), depth) (List.replicate (hashes - k) '#') =
      some (.code false, depth) := by
  obtain ⟨more, rfl⟩ : ∃ more, hashes = k + more + 1 := ⟨hashes - k - 1, by omega⟩
  rw [show k + more + 1 - k = more + 1 by omega]
  induction more generalizing k with
  | zero =>
    rw [List.replicate_one, run_cons, step_raw_hash, hashPlace, if_pos rfl]
    rfl
  | succ more ih =>
    have hnext : k + (more + 1) + 1 = k + 1 + more + 1 := by omega
    rw [List.replicate_succ, run_cons, step_raw_hash, hashPlace, if_neg (by omega), hnext]
    exact ih (by omega)

/-- As many hashes as end a raw text. -/
theorem eq_replicate_of_all {hashes : Nat} {cs : List Char} :
    ((cs.take hashes).length == hashes && (cs.take hashes).all (· == '#')) = true ↔
    cs.take hashes = List.replicate hashes '#' := by
  rw [List.eq_replicate_iff, Bool.and_eq_true_iff, beq_iff_eq, List.all_eq_true]
  simp only [beq_iff_eq]

/-- The hashes after a quote do not end the raw text: some of those that are still needed are
missing. -/
def Unended (hashes : Nat) (seen : Option Nat) (cs : List Char) : Prop :=
  ∀ k ∈ seen, k < hashes ∧ cs.take (hashes - k) ≠ List.replicate (hashes - k) '#'

theorem unended_none (hashes : Nat) (cs : List Char) : Unended hashes none cs :=
  fun _ h => nomatch h

/-- A character that does not end a raw text leads to where the text does not end either. -/
theorem Unended.step {hashes : Nat} {seen : Option Nat} {c : Char} {rest : List Char}
    (h : Unended hashes seen (c :: rest)) (hquote : c ≠ '"') (depth : Nat) :
    ∃ seen', Bracketing.step (.raw hashes seen, depth) c = some (.raw hashes seen', depth) ∧
      Unended hashes seen' rest := by
  rw [Bracketing.step, rawPlace, if_neg hquote]
  by_cases hhash : c = '#'
  · subst hhash
    rw [if_pos rfl]
    cases seen with
    | none => exact ⟨none, rfl, unended_none _ _⟩
    | some k =>
      -- A further hash behind a quote: fewer are missing, and not all of them follow.
      obtain ⟨hk, hmissing⟩ := h k rfl
      obtain ⟨more, rfl⟩ : ∃ more, hashes = k + more + 1 := ⟨hashes - k - 1, by omega⟩
      rw [show k + more + 1 - k = more + 1 by omega, List.take_succ_cons, List.replicate_succ]
        at hmissing
      have hrest : rest.take more ≠ List.replicate more '#' :=
        fun heq => hmissing (congrArg ('#' :: ·) heq)
      have hmore : more ≠ 0 := by
        rintro rfl
        exact hrest rfl
      refine ⟨some (k + 1), ?_, ?_⟩
      · rw [hashPlace, if_neg (by omega)]
      · rintro k' ⟨⟩
        rw [show k + more + 1 - (k + 1) = more by omega]
        exact ⟨by omega, hrest⟩
  · rw [if_neg hhash]
    exact ⟨none, rfl, unended_none _ _⟩

theorem run_rawBody {allowed : Char → Bool} {hashes n : Nat} {cs : List Char}
    (h : rawBody? allowed hashes cs = some n) (depth : Nat) {seen : Option Nat}
    (hseen : Unended hashes seen cs) :
    run (.raw hashes seen, depth) (cs.take n) = some (.code false, depth) := by
  -- By the recursion of the lexer, for every count of hashes that the scan may have seen so far.
  induction cs using rawBody?.induct allowed hashes generalizing n seen with
  | case1 => cases h
  | case2 rest hend =>
    rw [rawBody?, if_pos hend] at h
    cases h
    rw [Nat.add_comm, List.take_succ_cons, eq_replicate_of_all.1 hend, run_cons]
    cases hashes with
    | zero => rfl
    | succ more => exact run_raw_hashes (Nat.succ_pos more) depth
  | case3 rest hend ih =>
    rw [rawBody?, if_neg hend] at h
    obtain ⟨m, hm, rfl⟩ := Option.map_eq_some_iff.1 h
    rw [eq_replicate_of_all] at hend
    -- A quote with too few hashes behind it does not close: the scan counts from there again.
    have hpos : hashes ≠ 0 := by
      rintro rfl
      exact hend rfl
    have hstep : Bracketing.step (.raw hashes seen, depth) '"' =
        some (.raw hashes (some 0), depth) := by
      rw [Bracketing.step, rawPlace, if_pos rfl, if_neg hpos]
    rw [List.take_succ_cons, run_cons, hstep]
    refine ih hm ?_
    rintro k ⟨⟩
    exact ⟨Nat.pos_of_ne_zero hpos, hend⟩
  | case4 rest ih =>
    rw [rawBody?] at h
    obtain ⟨m, hm, rfl⟩ := Option.map_eq_some_iff.1 h
    exact ih hm (unended_none _ _)
  | case5 c rest hquote hpair hallowed ih =>
    rw [rawBody?.eq_4 _ _ _ _ hquote hpair, if_pos hallowed] at h
    obtain ⟨m, hm, rfl⟩ := Option.map_eq_some_iff.1 h
    obtain ⟨seen', hstep, hseen'⟩ := hseen.step hquote depth
    rw [List.take_succ_cons, run_cons, hstep]
    exact ih hm hseen'
  | case6 c rest hquote hpair hallowed =>
    rw [rawBody?.eq_4 _ _ _ _ hquote hpair, if_neg hallowed] at h
    cases h

theorem run_opening_hashes (hashes : Nat) (rest : List Char) (depth : Nat) :
    run (.code true, depth) (List.replicate hashes '#' ++ '"' :: rest) =
      run (.raw hashes none, depth) rest := by
  have hmore : ∀ more k, run (.hashes (k + 1), depth) (List.replicate more '#' ++ '"' :: rest) =
      run (.raw (k + 1 + more) none, depth) rest := by
    intro more
    induction more with
    | zero => exact fun k => rfl
    | succ more ih =>
      intro k
      have hcount : k + 1 + (more + 1) = k + 1 + 1 + more := by omega
      rw [List.replicate_succ, List.cons_append, run_cons, hcount]
      exact ih (k + 1)
  cases hashes with
  | zero => rfl
  | succ more =>
    have h := hmore more 0
    rw [Nat.zero_add, Nat.add_comm] at h
    exact h

/-- A raw text, after the letter that opens it. -/
theorem run_raw? {allowed : Char → Bool} {cs : List Char} {n : Nat} (h : raw? allowed cs = some n)
    (depth : Nat) : run (.code true, depth) (cs.take n) = some (.code false, depth) := by
  unfold raw? at h
  have hhashes : cs.takeWhile (· == '#') = List.replicate (cs.takeWhile (· == '#')).length '#' :=
    List.eq_replicate_iff.2 ⟨rfl, fun c hc =>
      beq_iff_eq.1 (List.mem_takeWhile_imp (p := (· == '#')) hc)⟩
  have hcs : List.replicate (cs.takeWhile (· == '#')).length '#' ++
      cs.drop (cs.takeWhile (· == '#')).length = cs := by
    have hprefix := List.prefix_iff_eq_take.1 (List.takeWhile_prefix (· == '#') (l := cs))
    rw [← hhashes]
    exact (congrArg (· ++ _) hprefix).trans (List.take_append_drop _ cs)
  dsimp only at h
  generalize (cs.takeWhile (· == '#')).length = hashes at h hcs
  generalize cs.drop hashes = after at h hcs
  subst hcs
  split at h
  · rename_i rest
    obtain ⟨-, h⟩ := Option.ite_none_left_eq_some.1 h
    obtain ⟨m, hm, rfl⟩ := Option.map_eq_some_iff.1 h
    -- What is taken is the opening hashes, the quote and the body.
    have htake : (List.replicate hashes '#' ++ '"' :: rest).take (m + (hashes + 1)) =
        List.replicate hashes '#' ++ '"' :: rest.take m := by
      have hlength : m + (hashes + 1) = (List.replicate hashes '#').length + (m + 1) := by
        rw [List.length_replicate]
        omega
      rw [hlength, List.take_length_add_append, List.take_succ_cons]
    rw [htake, run_opening_hashes]
    exact run_rawBody hm depth (unended_none _ _)
  · cases h

/-- An escape is one character, and others that stand for themselves. -/
theorem front_charEscape? {bytes : Bool} {cs : List Char} {n : Nat}
    (h : charEscape? bytes cs = some n) :
    ∃ c rest m, cs = c :: rest ∧ n = m + 1 ∧ Front IsPlain m rest := by
  unfold charEscape? at h
  -- The three escapes: two hexadecimal digits, digits in braces, and a single character.
  split at h
  · rename_i a b rest
    cases ha : hexDigit? a with
    | none =>
      rw [ha] at h
      cases h
    | some high =>
      cases hb : hexDigit? b with
      | none =>
        rw [ha, hb] at h
        cases h
      | some low =>
        rw [ha, hb] at h
        obtain ⟨-, hlength⟩ := Option.ite_none_right_eq_some.1 h
        cases Option.some.inj hlength
        have hfirst : IsPlain a := isPlain_of_hexDigit? (by rw [ha]; rfl)
        have hsecond : IsPlain b := isPlain_of_hexDigit? (by rw [hb]; rfl)
        exact ⟨_, _, 2, rfl, rfl, (front_zero.cons hsecond).cons hfirst⟩
  · rename_i rest
    obtain ⟨hvalid, hlength⟩ := Option.ite_none_right_eq_some.1 h
    cases Option.some.inj hlength
    have hbody : Front IsPlain (rest.takeWhile fun c => (hexDigit? c).isSome || c == '_').length
        rest := by
      refine front_takeWhile fun c hc => ?_
      rcases Bool.or_eq_true_iff.1 hc with hc | hc
      · exact isPlain_of_hexDigit? hc
      · exact isPlain_of_digit (by rw [hc, Bool.or_true])
    have hclosing := beq_iff_eq.1 (Bool.and_eq_true_iff.1 hvalid).2
    have hlast : Front IsPlain 1
        (rest.drop (rest.takeWhile fun c => (hexDigit? c).isSome || c == '_').length) := by
      obtain ⟨more, hmore⟩ := List.head?_eq_some_iff.1 hclosing
      rw [hmore]
      exact front_zero.cons (by decide)
    exact ⟨_, _, _, rfl, Nat.add_comm 3 _, (hbody.add hlast).cons (by decide)⟩
  · obtain ⟨-, hlength⟩ := Option.ite_none_right_eq_some.1 h
    cases Option.some.inj hlength
    exact ⟨_, _, 0, rfl, rfl, front_zero⟩
  · cases h

theorem run_charRest {cs : List Char} (h : ∀ c ∈ cs, IsPlain c) (depth : Nat) :
    run (.charRest, depth) cs = some (.charRest, depth) := by
  induction cs with
  | nil => rfl
  | cons c rest ih =>
    obtain ⟨hc, hrest⟩ := List.forall_mem_cons.1 h
    rw [run_cons, Bracketing.step, if_neg hc.2.2.2.1]
    exact ih hrest

/-- A character without its opening quote. -/
theorem run_charBody? {bytes : Bool} {cs : List Char} {n : Nat} (h : charBody? bytes cs = some n)
    (depth : Nat) : run (.mark, depth) (cs.take n) = some (.code false, depth) := by
  unfold charBody? at h
  split at h
  · rename_i rest
    -- An escape, and then the closing mark.
    obtain ⟨m, hm, h⟩ := Option.bind_eq_some_iff.1 h
    obtain ⟨hclosed, hlength⟩ := Option.ite_none_right_eq_some.1 h
    cases Option.some.inj hlength
    obtain ⟨c, more, k, rfl, rfl, hfront⟩ := front_charEscape? hm
    obtain ⟨after, hafter⟩ := List.head?_eq_some_iff.1 (beq_iff_eq.1 hclosed)
    rw [List.drop_succ_cons] at hafter
    have htake : more.take (k + 1) = more.take k ++ ['\''] := by
      rw [List.take_add, hafter, List.take_succ_cons, List.take_zero]
    rw [List.take_succ_cons, List.take_succ_cons, htake, run_cons]
    change run (.charRest, depth) (more.take k ++ ['\'']) = _
    rw [run_append_of (run_charRest hfront depth)]
    rfl
  · rename_i c rest hescape
    obtain ⟨-, hlength⟩ := Option.ite_none_left_eq_some.1 h
    cases Option.some.inj hlength
    -- One character that stands for itself.
    have hbackslash : c ≠ '\\' := by
      rintro rfl
      exact hescape rfl
    rw [List.take_succ_cons, List.take_succ_cons, List.take_zero, run_cons, Bracketing.step,
      markPlace, if_neg hbackslash]
    split <;> rfl
  · cases h

/-- A quoted literal ends outside of quotes. -/
theorem run_quoted? {cs : List Char} {n : Nat} (h : quoted? cs = some n) (depth : Nat) :
    run (.code false, depth) (cs.take n) = some (.code false, depth) := by
  unfold quoted? at h
  split at h
  all_goals first
    | cases h
    | obtain ⟨m, hm, rfl⟩ := Option.map_eq_some_iff.1 h
  · exact run_cooked hm depth
  · exact run_cooked hm depth
  · exact run_charBody? hm depth
  · exact run_raw? hm depth
  · exact run_cooked hm depth
  · exact run_raw? hm depth
  · exact run_raw? hm depth
  · exact run_charBody? hm depth

/-- The text of a literal closes all that it opens. -/
theorem closed_literal? {cs : List Char} {n : Nat} (h : literal? cs = some n) :
    Closed (cs.take n) := by
  rcases Option.or_eq_some_iff.1 h with h | ⟨-, h⟩
  · obtain ⟨m, hm, rfl⟩ := Option.map_eq_some_iff.1 h
    intro depth
    obtain ⟨afterR, hsuffix⟩ := run_plain (fun c hc => (front_suffix (cs.drop m) c hc).isPlain)
      false depth
    refine ⟨.code afterR, ?_, trivial⟩
    rw [withSuffix, List.take_add, run_append_of (run_quoted? hm depth)]
    exact hsuffix
  · exact closed_of_plain (front_number? h)

theorem rawLead : "r#".toList = ['r', '#'] := rfl

/-- The text of a name closes all that it opens. -/
theorem closed_name? {cs : List Char} {n : Nat} (h : name? cs = some n) : Closed (cs.take n) := by
  unfold name? at h
  split at h
  · rename_i hraw
    obtain ⟨m, hm, h⟩ := Option.bind_eq_some_iff.1 h
    obtain ⟨-, hlength⟩ := Option.ite_none_left_eq_some.1 h
    cases Option.some.inj hlength
    obtain ⟨rest, rfl⟩ := List.isPrefixOf_iff_prefix.1 hraw
    -- The hash of a raw name could open a raw text; the letter behind it says that it does not.
    rw [rawLead] at hm ⊢
    obtain ⟨hfront, hpos, hlength⟩ := front_plainName? hm
    obtain ⟨m, rfl⟩ : ∃ k, m = k + 1 := ⟨m - 1, by omega⟩
    cases rest with
    | nil => exact absurd hlength (Nat.lt_irrefl 0)
    | cons c rest =>
      obtain ⟨hc, hrest⟩ := List.forall_mem_cons.1 hfront
      intro depth
      obtain ⟨afterR, hrun⟩ := run_plain (fun d hd => (hrest d hd).isPlain) (c = 'r') depth
      have hstep : Bracketing.step (.hashes 1, depth) c = some (.code (c = 'r'), depth) := by
        obtain ⟨-, -, hquote, -, hhash⟩ := hc.isPlain
        rw [Bracketing.step, if_neg hhash, if_neg hquote, codeStep_plain hc.isPlain]
      refine ⟨.code afterR, ?_, trivial⟩
      change (Bracketing.step (.hashes 1, depth) c).bind (run · (rest.take m)) = _
      rw [hstep]
      exact hrun
  · exact closed_of_plain fun c hc => ((front_plainName? h).1 c hc).isPlain

end TypedPreferences.Source.Lexeme
