import Mathlib.Data.List.Basic
import TypedPreferences.Text.Replace

/-! Square brackets in the text of a program. An automaton follows them, and passes over those in
quotes. A text that it leaves as it entered it ends where the bracket around it is closed, so it is
known from any text that it begins in that bracket. -/

namespace TypedPreferences.Text

namespace Bracketing

/-- Where a reader stands: outside of quotes, possibly after the letter that may open a raw text;
among the hashes after it; in a raw text, possibly after a quote and some hashes; in a quoted text;
after a single quote; or in a character. -/
inductive Place where
  | code (afterR : Bool)
  | hashes (count : Nat)
  | raw (hashes : Nat) (seen : Option Nat)
  | quoted
  | escaped
  | mark
  -- After a single quote and a character that may begin a name.
  | word (afterR : Bool)
  -- After a single quote and another character, which only a second quote can follow.
  | lone
  | charEscape
  | charRest
deriving DecidableEq

/-- A place, and how many square brackets are open. -/
abbrev State := Place × Nat

/-- Characters that begin no name, among those that a character literal may hold. -/
def specials : List Char :=
  ['[', ']', '"', '\'', '#', ' ', '<', '>', ',', ':', '&']

def closeStep : Nat → Option State
  | 0 => none
  | outer + 1 => some (.code false, outer)

def codeStep (afterR : Bool) (depth : Nat) (c : Char) : Option State :=
  if c = '[' then some (.code false, depth + 1)
  else if c = ']' then closeStep depth
  else if c = '"' then some (if afterR then .raw 0 none else .quoted, depth)
  else if c = '\'' then some (.mark, depth)
  else if c = '#' then some (if afterR then .hashes 1 else .code false, depth)
  else some (.code (c = 'r'), depth)

def markPlace (c : Char) : Place :=
  if c = '\\' then .charEscape else if specials.contains c then .lone else .word (c = 'r')

def hashPlace (hashes : Nat) : Option Nat → Place
  | none => .raw hashes none
  | some k => if k + 1 = hashes then .code false else .raw hashes (some (k + 1))

def rawPlace (hashes : Nat) (seen : Option Nat) (c : Char) : Place :=
  if c = '"' then if hashes = 0 then .code false else .raw hashes (some 0)
  else if c = '#' then hashPlace hashes seen
  else .raw hashes none

/-- One character. A bracket that was not opened cannot be closed. -/
def step : State → Char → Option State
  | (.code afterR, depth), c => codeStep afterR depth c
  | (.hashes n, depth), c =>
    if c = '#' then some (.hashes (n + 1), depth)
    else if c = '"' then some (.raw n none, depth)
    else codeStep false depth c
  | (.raw n seen, depth), c => some (rawPlace n seen c, depth)
  | (.quoted, depth), c =>
    some (if c = '"' then .code false else if c = '\\' then .escaped else .quoted, depth)
  | (.escaped, depth), _ => some (.quoted, depth)
  | (.mark, depth), c => some (markPlace c, depth)
  | (.word afterR, depth), c =>
    if c = '\'' then some (.code false, depth) else codeStep afterR depth c
  | (.lone, depth), c => if c = '\'' then some (.code false, depth) else none
  | (.charEscape, depth), _ => some (.charRest, depth)
  | (.charRest, depth), c => some (if c = '\'' then .code false else .charRest, depth)

def run : State → List Char → Option State :=
  List.foldlM step

/-- The places at which a part of a program may end. -/
def Rests : Place → Prop
  | .code _ => True
  | .word _ => True
  | _ => False

/-- A text that closes all that it opens, and nothing else. -/
def Closed (cs : List Char) : Prop :=
  ∀ depth, ∃ place, run (.code false, depth) cs = some (place, depth) ∧ Rests place

/-- A character that stands for itself outside of quotes. -/
def IsPlain (c : Char) : Prop :=
  c ≠ '[' ∧ c ≠ ']' ∧ c ≠ '"' ∧ c ≠ '\'' ∧ c ≠ '#'

instance : DecidablePred IsPlain := fun _ => inferInstanceAs (Decidable (_ ∧ _))

@[simp] theorem run_nil (s : State) : run s [] = some s := rfl

theorem run_cons (s : State) (c : Char) (cs : List Char) :
    run s (c :: cs) = (step s c).bind (run · cs) := rfl

theorem run_append (s : State) (cs rest : List Char) :
    run s (cs ++ rest) = (run s cs).bind (run · rest) :=
  List.foldlM_append

theorem run_append_of {s t : State} {cs : List Char} (h : run s cs = some t) (rest : List Char) :
    run s (cs ++ rest) = run t rest := by
  rw [run_append, h, Option.bind_some]

theorem codeStep_plain {afterR : Bool} {depth : Nat} {c : Char} (h : IsPlain c) :
    codeStep afterR depth c = some (.code (c = 'r'), depth) := by
  obtain ⟨hopen, hclose, hquote, hmark, hhash⟩ := h
  rw [codeStep, if_neg hopen, if_neg hclose, if_neg hquote, if_neg hmark, if_neg hhash]

theorem run_plain {cs : List Char} (h : ∀ c ∈ cs, IsPlain c) (afterR : Bool) (depth : Nat) :
    ∃ afterR', run (.code afterR, depth) cs = some (.code afterR', depth) := by
  induction cs generalizing afterR with
  | nil => exact ⟨afterR, rfl⟩
  | cons c rest ih =>
    obtain ⟨hc, hrest⟩ := List.forall_mem_cons.1 h
    obtain ⟨afterR', hrun⟩ := ih hrest (c = 'r')
    refine ⟨afterR', ?_⟩
    rw [run_cons, step, codeStep_plain hc]
    exact hrun

/-- A property that is decided for each character of a list. -/
theorem forall_of_all {p : Char → Prop} [DecidablePred p] {cs : List Char}
    (h : (cs.all fun c => decide (p c)) = true) : ∀ c ∈ cs, p c :=
  fun c hc => of_decide_eq_true (List.all_eq_true.1 h c hc)

theorem closed_of_plain {cs : List Char} (h : ∀ c ∈ cs, IsPlain c) : Closed cs := by
  intro depth
  obtain ⟨afterR, hrun⟩ := run_plain h false depth
  exact ⟨.code afterR, hrun, trivial⟩

theorem closed_nil : Closed [] :=
  closed_of_plain fun _ h => absurd h List.not_mem_nil

/-- What comes after a part of a program does not depend on its end, unless it is a quote or a hash.
-/
theorem step_of_rests {place : Place} (h : Rests place) (depth : Nat) {c : Char}
    (hquote : c ≠ '"') (hmark : c ≠ '\'') (hhash : c ≠ '#') :
    step (place, depth) c = step (.code false, depth) c := by
  cases place with
  | code afterR =>
    rw [step, step, codeStep, codeStep]
    simp only [if_neg hquote, if_neg hhash]
  | word afterR =>
    rw [step, step, codeStep, codeStep]
    simp only [if_neg hquote, if_neg hhash, if_neg hmark]
  | _ => exact h.elim

theorem Closed.append_cons {cs rest : List Char} {c : Char} (h : Closed cs)
    (hrest : Closed (c :: rest)) (hquote : c ≠ '"') (hmark : c ≠ '\'') (hhash : c ≠ '#') :
    Closed (cs ++ c :: rest) := by
  intro depth
  obtain ⟨place, hrun, hrests⟩ := h depth
  rw [run_append_of hrun, run_cons, step_of_rests hrests depth hquote hmark hhash]
  exact hrest depth

/-- A closed text after a character that stands for itself. -/
theorem Closed.cons {cs : List Char} {c : Char} (h : Closed cs) (hc : IsPlain c) (hr : c ≠ 'r') :
    Closed (c :: cs) := by
  intro depth
  have hstep : step (.code false, depth) c = some (.code false, depth) := by
    rw [step, codeStep_plain hc, decide_eq_false hr]
  rw [run_cons, hstep]
  exact h depth

/-- Two closed texts with a character between them that stands for itself. -/
theorem Closed.join {cs rest : List Char} {c : Char} (h : Closed cs) (hrest : Closed rest)
    (hc : IsPlain c) (hr : c ≠ 'r') : Closed (cs ++ c :: rest) := by
  have hafter : Closed (c :: rest) := hrest.cons hc hr
  obtain ⟨-, -, hquote, hmark, hhash⟩ := hc
  exact h.append_cons hafter hquote hmark hhash

theorem Closed.brackets {cs : List Char} (h : Closed cs) : Closed ('[' :: cs ++ [']']) := by
  intro depth
  obtain ⟨place, hrun, hrests⟩ := h (depth + 1)
  have hopen : step (.code false, depth) '[' = some (.code false, depth + 1) := rfl
  have hclose : step (place, depth + 1) ']' = some (.code false, depth) := by
    rw [step_of_rests hrests (depth + 1) (by decide) (by decide) (by decide)]
    rfl
  refine ⟨.code false, ?_, trivial⟩
  rw [List.cons_append, run_cons, hopen]
  dsimp only [Option.bind_some]
  rw [run_append_of hrun, run_cons, hclose]
  rfl

theorem not_closed_of_bracket {cs : List Char} (h : Closed cs) (rest : List Char) :
    ¬ Closed (cs ++ ']' :: rest) := by
  intro hmore
  obtain ⟨place, hrun, hrests⟩ := h 0
  obtain ⟨place', hrun', -⟩ := hmore 0
  rw [run_append_of hrun, run_cons,
    step_of_rests hrests 0 (by decide) (by decide) (by decide)] at hrun'
  cases hrun'

/-- A closed text ends where the bracket around it is closed. -/
theorem eq_of_append_bracket {cs cs' rest rest' : List Char} (h : Closed cs) (h' : Closed cs')
    (heq : cs ++ ']' :: rest = cs' ++ ']' :: rest') : cs = cs' ∧ rest = rest' := by
  rcases List.append_eq_append_iff.1 heq with ⟨more, rfl, hmore⟩ | ⟨more, rfl, hmore⟩
  -- Were one of them longer, it would close the bracket around the other.
  · rcases List.cons_eq_append_iff.1 hmore with ⟨rfl, hrest⟩ | ⟨more, rfl, -⟩
    · rw [List.append_nil]
      exact ⟨rfl, (List.cons.inj hrest).2.symm⟩
    · exact (not_closed_of_bracket h more h').elim
  · rcases List.cons_eq_append_iff.1 hmore with ⟨rfl, hrest⟩ | ⟨more, rfl, -⟩
    · rw [List.append_nil]
      exact ⟨rfl, (List.cons.inj hrest).2⟩
    · exact (not_closed_of_bracket h' more h).elim

/-! Dropping blanks beside marks leaves every run as it is. -/

/-- A pattern and what replaces it have the same effect wherever the pattern may stand. -/
def SameEffect (pattern replacement : List Char) : Prop :=
  ∀ s t, run s pattern = some t → run s replacement = some t

theorem run_replaceAfter {pattern replacement : List Char} (hsame : SameEffect pattern replacement)
    (hne : pattern ≠ []) (skip : Nat) (cs : List Char) {s t : State}
    (h : run s (cs.drop skip) = some t) :
    run s (replaceAfter pattern replacement skip cs) = some t := by
  induction cs generalizing skip s with
  | nil =>
    rw [List.drop_nil] at h
    rw [replaceAfter]
    exact h
  | cons c cs ih =>
    cases skip with
    | succ skip =>
      rw [List.drop_succ_cons] at h
      rw [replaceAfter]
      exact ih skip h
    | zero =>
      rw [List.drop_zero] at h
      rw [replaceAfter]
      split
      · rename_i hprefix
        obtain ⟨rest, hrest⟩ := List.isPrefixOf_iff_prefix.1 hprefix
        rw [← hrest, run_append] at h
        obtain ⟨middle, hpattern, hafter⟩ := Option.bind_eq_some_iff.1 h
        rw [run_append_of (hsame s middle hpattern)]
        refine ih _ ?_
        -- What is skipped is the rest of the pattern.
        cases pattern with
        | nil => exact absurd rfl hne
        | cons p ps =>
          rw [List.cons_append] at hrest
          obtain ⟨-, rfl⟩ := List.cons.inj hrest
          rw [List.length_cons, Nat.add_sub_cancel, List.drop_left]
          exact hafter
      · rw [run_cons] at h ⊢
        obtain ⟨middle, hstep, hafter⟩ := Option.bind_eq_some_iff.1 h
        rw [hstep]
        exact ih 0 hafter

theorem Closed.replace {pattern replacement : String} {cs : List Char} (h : Closed cs)
    (hsame : SameEffect pattern.toList replacement.toList) (hne : pattern.toList ≠ []) :
    Closed (replace pattern replacement cs) := by
  intro depth
  obtain ⟨place, hrun, hrests⟩ := h depth
  exact ⟨place, run_replaceAfter hsame hne 0 cs hrun, hrests⟩

/-- The marks beside which blanks are dropped. -/
def tightMarks : List Char :=
  ['<', '>', ',', ':', '&']

/-- A blank before a mark has no effect. It may stand in a character literal, but not before a mark.
-/
theorem sameEffect_before {c : Char} (hc : c ∈ tightMarks) : SameEffect [' ', c] [c] := by
  rintro ⟨place, depth⟩ t h
  simp only [tightMarks, List.mem_cons, List.not_mem_nil, or_false] at hc
  rcases hc with rfl | rfl | rfl | rfl | rfl <;> cases place <;> first | exact h | cases h

theorem sameEffect_after {c : Char} (hc : c ∈ tightMarks) : SameEffect [c, ' '] [c] := by
  rintro ⟨place, depth⟩ t h
  simp only [tightMarks, List.mem_cons, List.not_mem_nil, or_false] at hc
  rcases hc with rfl | rfl | rfl | rfl | rfl <;> cases place <;> first | exact h | cases h

theorem SameEffect.trans {first second third : List Char} (h : SameEffect first second)
    (h' : SameEffect second third) : SameEffect first third :=
  fun s t hrun => h' s t (h s t hrun)

theorem SameEffect.append {first second first' second' : List Char} (h : SameEffect first second)
    (h' : SameEffect first' second') : SameEffect (first ++ first') (second ++ second') := by
  intro s t hrun
  rw [run_append] at hrun
  obtain ⟨middle, hfirst, hlast⟩ := Option.bind_eq_some_iff.1 hrun
  rw [run_append_of (h s middle hfirst)]
  exact h' middle t hlast

theorem SameEffect.refl (cs : List Char) : SameEffect cs cs :=
  fun _ _ h => h

theorem sameEffect_around {c : Char} (hc : c ∈ tightMarks) : SameEffect [' ', c, ' '] [c] :=
  ((sameEffect_before hc).append (SameEffect.refl [' '])).trans (sameEffect_after hc)

end Bracketing

end TypedPreferences.Text
