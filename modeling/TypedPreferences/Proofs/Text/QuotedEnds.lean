import TypedPreferences.Proofs.Text.Bracketing
import TypedPreferences.Text.Quoted

/-! The end of a quoted text: where a reader of quoted texts finds it, the brackets in the text are
passed over, whatever they are. -/

namespace TypedPreferences.Text.Bracketing

/-- Where the automaton stands in a quoted text. -/
def quotedPlace : Quoted.Place → Place
  | .escape => .escaped
  | _ => .quoted

/-- What a character does in a quoted text, it does to the automaton. -/
def Follows (place : Quoted.Place) (c : Char) : Quoted.Outcome → Prop
  | .close => quotedPlace place = .quoted ∧ c = '"'
  | .next place' _ => ∀ depth,
    step (quotedPlace place, depth) c = some (quotedPlace place', depth)
  | .refuse => True

theorem follows_ite {place : Quoted.Place} {c : Char} (condition : Bool)
    {first second : Quoted.Outcome} (h : condition = true → Follows place c first)
    (h' : condition = false → Follows place c second) :
    Follows place c (if condition = true then first else second) := by
  cases condition with
  | false => exact h' rfl
  | true => exact h rfl

/-- Characters other than quotes and backslashes have no effect in a quoted text. -/
theorem step_inside {c : Char} (hquote : c ≠ '"') (hescape : c ≠ '\\') (depth : Nat) :
    step (.quoted, depth) c = some (.quoted, depth) := by
  rw [step, if_neg hquote, if_neg hescape]

theorem follows_inside {place place' : Quoted.Place} {c d : Char} {meaning : Option Char}
    (hplace : quotedPlace place = .quoted) (hplace' : quotedPlace place' = .quoted)
    (hd : d ≠ '"' ∧ d ≠ '\\') (h : (c == d) = true) : Follows place c (.next place' meaning) := by
  intro depth
  rw [hplace, hplace', beq_iff_eq.1 h]
  exact step_inside hd.1 hd.2 depth

theorem follows_hexDigit? {place place' : Quoted.Place} {c : Char} {d : Nat} {meaning : Option Char}
    (hplace : quotedPlace place = .quoted) (hplace' : quotedPlace place' = .quoted)
    (h : hexDigit? c = some d) : Follows place c (.next place' meaning) := by
  intro depth
  rw [hplace, hplace']
  refine step_inside ?_ ?_ depth <;> rintro rfl <;> cases h

theorem follows_plainStep (f : Quoted.Flavour) {place : Quoted.Place}
    (hplace : quotedPlace place = .quoted) (c : Char) :
    Follows place c (Quoted.plainStep f c) := by
  refine follows_ite _ (fun h => ⟨hplace, beq_iff_eq.1 h⟩) fun hquote => ?_
  refine follows_ite _ (follows_inside hplace rfl (by decide)) fun _ => ?_
  refine follows_ite _ (fun h depth => ?_) fun hescape => ?_
  · rw [hplace, beq_iff_eq.1 h]
    rfl
  · refine follows_ite _ (fun _ => trivial) fun _ depth => ?_
    rw [hplace]
    exact step_inside (beq_eq_false_iff_ne.1 hquote) (beq_eq_false_iff_ne.1 hescape) depth

theorem follows_escapeStep (f : Quoted.Flavour) (c : Char) :
    Follows .escape c (Quoted.escapeStep f c) := by
  have hstep : ∀ place' meaning, quotedPlace place' = .quoted →
      Follows .escape c (.next place' meaning) := by
    intro place' meaning hplace' depth
    rw [hplace']
    rfl
  unfold Quoted.escapeStep
  split
  case h_8 => exact follows_ite _ (fun _ => trivial) fun _ => hstep _ _ rfl
  case h_9 => exact follows_ite _ (fun _ => trivial) fun _ => hstep _ _ rfl
  case h_12 => trivial
  all_goals exact hstep _ _ rfl

theorem follows_digitStep (f : Quoted.Flavour) (value count : Nat) (c : Char) :
    Follows (.digits value count) c (Quoted.digitStep f value count c) := by
  refine follows_ite _ (fun h => ?_) fun _ => follows_ite _ (fun h => ?_) fun _ => ?_
  · exact follows_inside rfl rfl (by decide) (Bool.and_eq_true_iff.1 h).1
  · cases charOfNat? value with
    | none => trivial
    | some d =>
      exact follows_ite _ (fun _ => trivial) fun _ =>
        follows_inside rfl rfl (by decide) (Bool.and_eq_true_iff.1 h).1
  · cases hdigit : hexDigit? c with
    | none => trivial
    | some d =>
      dsimp only
      split
      · exact follows_hexDigit? rfl rfl hdigit
      · trivial

theorem follows_step (f : Quoted.Flavour) (place : Quoted.Place) (c : Char) :
    Follows place c (Quoted.step f place c) := by
  -- By the place in the literal: each step leaves the text, or goes on or fails inside of it.
  cases place with
  | plain => exact follows_plainStep f rfl c
  | carriage => exact follows_ite _ (follows_inside rfl rfl (by decide)) fun _ => trivial
  | escape => exact follows_escapeStep f c
  | firstHex =>
    rw [Quoted.step]
    cases hdigit : hexDigit? c with
    | none => trivial
    | some d =>
      exact follows_ite _ (fun _ => trivial) fun _ => follows_hexDigit? rfl rfl hdigit
  | secondHex high =>
    rw [Quoted.step]
    cases hdigit : hexDigit? c with
    | none => trivial
    | some d =>
      exact follows_ite _ (fun _ => trivial) fun _ => follows_hexDigit? rfl rfl hdigit
  | openBrace => exact follows_ite _ (follows_inside rfl rfl (by decide)) fun _ => trivial
  | digits value count => exact follows_digitStep f value count c
  | skipping =>
    refine follows_ite _ (follows_inside rfl rfl (by decide)) fun _ => follows_ite _ (fun h => ?_)
      fun _ => follows_plainStep f rfl c
    rcases Bool.or_eq_true_iff.1 h with h | h
    · rcases Bool.or_eq_true_iff.1 h with h | h
      · exact follows_inside rfl rfl (by decide) h
      · exact follows_inside rfl rfl (by decide) h
    · exact follows_inside rfl rfl (by decide) h
  | skippingCarriage => exact follows_ite _ (follows_inside rfl rfl (by decide)) fun _ => trivial

theorem run_cooked {f : Quoted.Flavour} {place : Quoted.Place} {cs : List Char} {n : Nat}
    (h : Quoted.lengthFrom? f place cs = some n) (depth : Nat) :
    run (quotedPlace place, depth) (cs.take n) = some (.code false, depth) := by
  -- By induction on the text: the scan of brackets follows the lexer from place to place.
  induction cs generalizing place n with
  | nil => cases h
  | cons c rest ih =>
    rw [Quoted.lengthFrom?] at h
    have hfollows := follows_step f place c
    cases hstep : Quoted.step f place c with
    | refuse =>
      rw [hstep] at h
      cases h
    | close =>
      rw [hstep] at h hfollows
      cases h
      rw [hfollows.1, hfollows.2]
      rfl
    | next place' meaning =>
      rw [hstep] at h hfollows
      obtain ⟨m, hm, rfl⟩ := Option.map_eq_some_iff.1 h
      rw [List.take_succ_cons, run_cons, hfollows depth]
      exact ih hm

/-! A text as it is written between quotes. -/

theorem hexDigits_inside (n : Nat) : ∀ c ∈ hexDigits n, c ≠ '"' ∧ c ≠ '\\' := by
  have hdigit : ∀ d < 16, Nat.digitChar d ≠ '"' ∧ Nat.digitChar d ≠ '\\' := by decide
  unfold hexDigits
  induction n using Nat.strongRecOn with
  | ind n ih =>
    rw [Nat.toDigits_eq_if (by decide)]
    split
    · exact List.forall_mem_singleton.2 (hdigit n ‹_›)
    · intro c hc
      rcases List.mem_append.1 hc with hc | hc
      · exact ih _ (Nat.div_lt_self (by omega) (by decide)) c hc
      · exact List.mem_singleton.1 hc ▸ hdigit _ (Nat.mod_lt n (by decide))

theorem run_inside {cs : List Char} (h : ∀ c ∈ cs, c ≠ '"' ∧ c ≠ '\\') (depth : Nat) :
    run (.quoted, depth) cs = some (.quoted, depth) := by
  induction cs with
  | nil => rfl
  | cons c rest ih =>
    obtain ⟨hc, hrest⟩ := List.forall_mem_cons.1 h
    rw [run_cons, step_inside hc.1 hc.2]
    exact ih hrest

theorem run_encodeChar (c : Char) (next : Option Char) (depth : Nat) :
    run (.quoted, depth) (Quoted.encodeChar c next) = some (.quoted, depth) := by
  unfold Quoted.encodeChar
  split
  case h_6 hquote hescape _ _ _ =>
    split
    · split <;> rfl
    split
    · exact run_inside (List.forall_mem_singleton.2 ⟨hquote, hescape⟩) depth
    · have hopening : run (.quoted, depth) ['\\', 'u', '\x7b'] = some (.quoted, depth) := rfl
      have hdigits := run_inside (hexDigits_inside c.toNat) depth
      rw [List.append_assoc, run_append_of hopening, run_append_of hdigits]
      rfl
  all_goals rfl

theorem run_encodeBody (cs : List Char) (depth : Nat) :
    run (.quoted, depth) (Quoted.encodeBody cs) = some (.quoted, depth) := by
  induction cs with
  | nil => rfl
  | cons c rest ih => rw [Quoted.encodeBody, run_append_of (run_encodeChar c _ depth), ih]

theorem closed_encode (text : String) : Closed (Quoted.encode text).toList := by
  intro depth
  refine ⟨.code false, ?_, trivial⟩
  rw [Quoted.encode, String.toList_ofList, List.cons_append, run_cons]
  have hopen : step (.code false, depth) '"' = some (.quoted, depth) := rfl
  rw [hopen, Option.bind_some, run_append_of (run_encodeBody _ depth)]
  rfl

end TypedPreferences.Text.Bracketing
