import Mathlib.Data.List.Chain
import TypedPreferences.Proofs.Text.LowerCase
import TypedPreferences.Text.Snake

/-! Names in lower case with low lines have the characters of the name, upper-case ones in their
lower-case form, and a low line more wherever a word begins. An added low line stands between two
characters that are no low lines, and an ASCII name is in its final form after one step. -/

namespace TypedPreferences.Text

/-- A character as it stands in the lower-case name, where an upper-case one has become its
lower-case form. -/
def lowered (c : Char) : List Char :=
  if isUpper c then toLower c else [c]

/-- A character of a lower-case name: one that comes from the name, or a low line added to it. -/
inductive Piece where
  | own (c : Char)
  | added

def Piece.char : Piece → Char
  | own c => c
  | added => '_'

/-- All characters of a name in their lower-case forms, with a low line added before the marked ones.
-/
def pieces (marks : List Bool) (name : List Char) : List Piece :=
  (marks.zip name).flatMap fun (marked, c) =>
    (if marked then [.added] else []) ++ (lowered c).map .own

/-- Neighbours of which one is an added low line only if the other is no low line. -/
def Piece.Apart (x y : Piece) : Prop :=
  (x = .added → y.char ≠ '_') ∧ (y = .added → x.char ≠ '_')

/-- No added low line stands first, last or beside a low line. -/
structure SetApart (ps : List Piece) : Prop where
  not_first : ps.head? ≠ some .added
  not_last : ps.getLast? ≠ some .added
  neighbours : ps.IsChain Piece.Apart

/-- The places of a name where a word begins with an upper-case character: after a character that is
neither upper-case nor a low line, and at the end of a run of upper-case characters when a
lower-case one follows. -/
inductive WordBegins (name : List Char) : Nat → Prop where
  | afterOther {i : Nat} {b c : Char} (hb : name[i]? = some b) (hc : name[i + 1]? = some c)
    (upper : isUpper c = true) (other : isUpper b = false) (hne : b ≠ '_') :
    WordBegins name (i + 1)
  | endsRun {i : Nat} {b c n : Char} (hb : name[i]? = some b) (hc : name[i + 1]? = some c)
    (hn : name[i + 2]? = some n) (upper : isUpper c = true) (run : isUpper b = true)
    (lower : isLower n = true) : WordBegins name (i + 1)

/-- For each character of a name whether a low line is added before it. -/
def marksAfter (before : Option Char) : List Char → List Bool
  | [] => []
  | c :: cs => (isUpper c && beginsWord before cs.head?) :: marksAfter (some c) cs

/-! Lower-case forms of single characters. -/

theorem lowered_ne_nil (c : Char) : lowered c ≠ [] := by
  unfold lowered
  split
  · exact toLower_ne_nil c
  · exact List.cons_ne_nil c []

theorem eq_of_mem_lowered {c d : Char} (hd : d.toNat < 97) (h : d ∈ lowered c) : c = d := by
  unfold lowered at h
  split at h
  · exact eq_of_mem_toLower hd h
  · exact (List.mem_singleton.1 h).symm

theorem low_line_not_mem_lowered {c : Char} (h : isUpper c = true) : '_' ∉ lowered c := by
  intro hmem
  rw [eq_of_mem_lowered (by decide) hmem] at h
  exact absurd h (by decide)

theorem filter_lowered (c : Char) :
    (lowered c).filter (· != '_') = if c != '_' then lowered c else [] := by
  split
  · rename_i hc
    apply List.filter_eq_self.2
    intro d hd
    rw [bne_iff_ne]
    rintro rfl
    exact bne_iff_ne.1 hc (eq_of_mem_lowered (by decide) hd)
  · rename_i hc
    rw [bne_iff_ne, not_not] at hc
    subst hc
    decide

theorem isUpper_of_mem_lowered {c d : Char} (hc : c.val < 128) (h : d ∈ lowered c) :
    isUpper d = false := by
  unfold lowered at h
  split at h
  · rw [toLower, if_pos hc, List.mem_singleton] at h
    rw [h]
    exact isUpper_toLower hc
  · rename_i hlow
    rw [List.mem_singleton.1 h]
    exact Bool.not_eq_true _ ▸ hlow

/-! The steps over a name. -/

theorem snakeAfter_cons (before : Option Char) (c : Char) (cs : List Char) :
    snakeAfter before (c :: cs) =
      (if isUpper c && beginsWord before cs.head? then ['_'] else []) ++ lowered c ++
        snakeAfter (some c) cs := by
  rw [snakeAfter, lowered]
  cases isUpper c with
  | false => rfl
  | true => rfl

theorem filter_snakeAfter (before : Option Char) (cs : List Char) :
    (snakeAfter before cs).filter (· != '_') = (cs.filter (· != '_')).flatMap lowered := by
  induction cs generalizing before with
  | nil => rfl
  | cons c cs ih =>
    have hadded : (if isUpper c && beginsWord before cs.head? then ['_'] else []).filter
        (· != '_') = [] := by
      split
      · rfl
      · rfl
    rw [snakeAfter_cons, List.filter_append, List.filter_append, hadded, List.nil_append,
      filter_lowered, ih, List.filter_cons]
    split
    · rw [List.flatMap_cons]
    · rfl

theorem mem_snakeAfter {before : Option Char} {cs : List Char} {d : Char}
    (h : d ∈ snakeAfter before cs) : d = '_' ∨ ∃ c ∈ cs, d ∈ lowered c := by
  by_cases hd : d = '_'
  · exact .inl hd
  · have hkept : d ∈ (snakeAfter before cs).filter (· != '_') :=
      List.mem_filter.2 ⟨h, bne_iff_ne.2 hd⟩
    rw [filter_snakeAfter] at hkept
    obtain ⟨c, hc, hdc⟩ := List.mem_flatMap.1 hkept
    exact .inr ⟨c, List.mem_of_mem_filter hc, hdc⟩

theorem snakeAfter_of_no_upper {cs : List Char} (h : ∀ c ∈ cs, isUpper c = false)
    (before : Option Char) : snakeAfter before cs = cs := by
  induction cs generalizing before with
  | nil => rfl
  | cons c cs ih =>
    obtain ⟨hc, hcs⟩ := List.forall_mem_cons.1 h
    rw [snakeAfter, if_neg (Bool.not_eq_true _ ▸ hc), ih hcs]

/-! Where low lines are added. -/

theorem length_marksAfter (before : Option Char) (cs : List Char) :
    (marksAfter before cs).length = cs.length := by
  induction cs generalizing before with
  | nil => rfl
  | cons c cs ih => exact congrArg (· + 1) (ih (some c))

theorem wordBegins_cons {b : Char} {cs : List Char} {i : Nat} :
    WordBegins (b :: cs) (i + 2) ↔ WordBegins cs (i + 1) := by
  constructor
  · intro h
    cases h with
    | afterOther hb hc upper other hne => exact .afterOther hb hc upper other hne
    | endsRun hb hc hn upper run lower => exact .endsRun hb hc hn upper run lower
  · intro h
    cases h with
    | afterOther hb hc upper other hne => exact .afterOther hb hc upper other hne
    | endsRun hb hc hn upper run lower => exact .endsRun hb hc hn upper run lower

/-- At the second character of a name a word begins when the three first ones say so. -/
theorem wordBegins_one_iff {b c : Char} {cs : List Char} :
    WordBegins (b :: c :: cs) 1 ↔ (isUpper c && beginsWord (some b) cs.head?) = true := by
  rw [beginsWord, Bool.and_eq_true]
  constructor
  · intro h
    cases h with
    | afterOther hb hc upper other hne =>
      cases hb
      cases hc
      rw [other]
      exact ⟨upper, bne_iff_ne.2 hne⟩
    | endsRun hb hc hn upper run lower =>
      cases hb
      cases hc
      rw [run, if_pos rfl, List.head?_eq_getElem?]
      exact ⟨upper, (Option.any_eq_true _ _).2 ⟨_, hn, lower⟩⟩
  · rintro ⟨upper, hbegins⟩
    -- After a capital, a word begins only if a lower-case letter follows.
    cases hb : isUpper b with
    | false =>
      rw [hb] at hbegins
      exact .afterOther rfl rfl upper hb (bne_iff_ne.1 hbegins)
    | true =>
      rw [hb, if_pos rfl, List.head?_eq_getElem?] at hbegins
      obtain ⟨n, hn, lower⟩ := (Option.any_eq_true _ _).1 hbegins
      exact .endsRun rfl rfl hn upper hb lower

/-- The marks after a first character are the places where words begin. -/
theorem getElem?_marksAfter (b : Char) (cs : List Char) (i : Nat) :
    (marksAfter (some b) cs)[i]? = some true ↔ WordBegins (b :: cs) (i + 1) := by
  induction cs generalizing b i with
  | nil =>
    apply iff_of_false nofun
    intro h
    cases h with
    | afterOther _ hc => cases hc
    | endsRun _ hc => cases hc
  | cons c cs ih =>
    cases i with
    | zero =>
      rw [marksAfter, List.getElem?_cons_zero, Option.some_inj]
      exact wordBegins_one_iff.symm
    | succ i =>
      rw [marksAfter, List.getElem?_cons_succ, ih]
      exact wordBegins_cons.symm

theorem marked_iff_wordBegins (name : List Char) (i : Nat) :
    (marksAfter none name)[i]? = some true ↔ WordBegins name i := by
  cases name with
  | nil =>
    apply iff_of_false nofun
    intro h
    cases h with
    | afterOther hb => cases hb
    | endsRun hb => cases hb
  | cons c cs =>
    cases i with
    | zero =>
      -- Nothing comes before the first character, so no word begins after something.
      rw [marksAfter, List.getElem?_cons_zero, beginsWord, Bool.and_false]
      exact iff_of_false nofun nofun
    | succ i => exact getElem?_marksAfter c cs i

theorem pieces_cons (marked : Bool) (marks : List Bool) (c : Char) (cs : List Char) :
    pieces (marked :: marks) (c :: cs) =
      (if marked then [.added] else []) ++ (lowered c).map .own ++ pieces marks cs :=
  rfl

theorem char_pieces (before : Option Char) (cs : List Char) :
    (pieces (marksAfter before cs) cs).map Piece.char = snakeAfter before cs := by
  induction cs generalizing before with
  | nil => rfl
  | cons c cs ih =>
    have hown : ((lowered c).map Piece.own).map Piece.char = lowered c := by
      rw [List.map_map]
      exact List.map_id (lowered c)
    rw [marksAfter, pieces_cons, snakeAfter_cons, List.map_append, List.map_append, hown, ih]
    split
    · rfl
    · rfl

/-! Added low lines and their neighbours. -/

/-- No low line is added after a low line, so what comes before an added one is in order. -/
theorem ne_low_line_of_added_first {c : Char} {cs : List Char}
    (h : (pieces (marksAfter (some c) cs) cs).head? = some .added) : c ≠ '_' := by
  rintro rfl
  cases cs with
  | nil => cases h
  | cons d ds =>
    -- The second character is not marked, so its own form comes first.
    obtain ⟨e, es, hform⟩ := List.exists_cons_of_ne_nil (lowered_ne_nil d)
    have hmark : (isUpper d && beginsWord (some '_') ds.head?) = false := Bool.and_false _
    rw [marksAfter, pieces_cons, hmark, hform] at h
    cases h

theorem isChain_pieces (before : Option Char) (cs : List Char) :
    (pieces (marksAfter before cs) cs).IsChain Piece.Apart := by
  induction cs generalizing before with
  | nil => exact .nil
  | cons c cs ih =>
    -- The form of a character has no added low line, and joins what follows by its last one.
    have hown : ((lowered c).map Piece.own).IsChain Piece.Apart := by
      apply List.Pairwise.isChain
      exact List.pairwise_map.2 (List.pairwise_of_forall fun _ _ => ⟨nofun, nofun⟩)
    have hrest : ((lowered c).map Piece.own ++ pieces (marksAfter (some c) cs) cs).IsChain
        Piece.Apart := by
      refine hown.append (ih (some c)) fun x hx y hy => ?_
      obtain ⟨d, hd, rfl⟩ := List.mem_map.1 (List.mem_of_getLast? hx)
      refine ⟨nofun, ?_⟩
      rintro rfl rfl
      exact ne_low_line_of_added_first hy (eq_of_mem_lowered (by decide) hd)
    rw [marksAfter, pieces_cons, List.append_assoc]
    split
    · rename_i hmark
      have hupper : isUpper c = true := (Bool.and_eq_true_iff.1 hmark).1
      refine hrest.cons fun y hy => ?_
      obtain ⟨d, ds, hform⟩ := List.exists_cons_of_ne_nil (lowered_ne_nil c)
      rw [hform] at hy
      cases hy
      refine ⟨fun _ => ?_, nofun⟩
      rintro rfl
      exact low_line_not_mem_lowered hupper (hform ▸ List.mem_cons_self)
    · exact hrest

theorem getLast?_pieces (before : Option Char) (cs : List Char) :
    (pieces (marksAfter before cs) cs).getLast? ≠ some .added := by
  induction cs generalizing before with
  | nil => nofun
  | cons c cs ih =>
    rw [marksAfter, pieces_cons, List.getLast?_append]
    cases hlast : (pieces (marksAfter (some c) cs) cs).getLast? with
    | some x =>
      intro h
      cases h
      exact ih (some c) hlast
    | none =>
      -- The name ends here, so the form of its last character stands last.
      rw [Option.none_or, List.getLast?_append, List.getLast?_map,
        List.getLast?_eq_some_getLast (lowered_ne_nil c)]
      nofun

theorem setApart_pieces (name : List Char) : SetApart (pieces (marksAfter none name) name) where
  not_first := by
    cases name with
    | nil => nofun
    | cons c cs =>
      obtain ⟨d, ds, hform⟩ := List.exists_cons_of_ne_nil (lowered_ne_nil c)
      rw [marksAfter, pieces_cons, beginsWord, Bool.and_false, hform]
      nofun
  not_last := getLast?_pieces none name
  neighbours := isChain_pieces none name

/-- The lower-case form of a name has the characters of the name, low lines included, with
upper-case ones in their lower-case form. A low line is added where a word begins, never first, last
or beside a low line. An ASCII name has no upper-case character left and is in its final form. -/
theorem snake_lowers_and_separates (name : String) :
    (snake name).toList.filter (· != '_') = (name.toList.filter (· != '_')).flatMap lowered ∧
      (∃ marks : List Bool, marks.length = name.toList.length ∧
        (∀ i, marks[i]? = some true ↔ WordBegins name.toList i) ∧
        (pieces marks name.toList).map Piece.char = (snake name).toList ∧
        SetApart (pieces marks name.toList)) ∧
      ((∀ c ∈ name.toList, c.val < 128) →
        (∀ c ∈ (snake name).toList, isUpper c = false) ∧ snake (snake name) = snake name) := by
  have htext : (snake name).toList = snakeAfter none name.toList := String.toList_ofList
  rw [htext]
  refine ⟨filter_snakeAfter none name.toList, ?_, fun hascii => ?_⟩
  · exact ⟨marksAfter none name.toList, length_marksAfter none name.toList,
      marked_iff_wordBegins name.toList, char_pieces none name.toList,
      setApart_pieces name.toList⟩
  · -- Without capitals no word begins and nothing is lowered, so nothing is left to change.
    have hlow : ∀ c ∈ snakeAfter none name.toList, isUpper c = false := by
      intro d hd
      rcases mem_snakeAfter hd with rfl | ⟨c, hc, hdc⟩
      · decide
      · exact isUpper_of_mem_lowered (hascii c hc) hdc
    refine ⟨hlow, ?_⟩
    rw [snake, htext, snakeAfter_of_no_upper hlow none]
    rfl

/-- The end of a run of capitals begins a word, and a low line that stands there already is enough.
-/
theorem snake_lowers_and_separates_capitals :
    (∀ c ∈ "HTTPSettings_UiV2".toList, c.val < 128) ∧
      snake "HTTPSettings_UiV2" = "http_settings_ui_v2" ∧
      (∀ c ∈ (snake "HTTPSettings_UiV2").toList, isUpper c = false) ∧
      snake (snake "HTTPSettings_UiV2") = snake "HTTPSettings_UiV2" := by
  have hall : ("HTTPSettings_UiV2".toList.all fun c => c.val < 128) = true := by decide
  have hascii : ∀ c ∈ "HTTPSettings_UiV2".toList, c.val < 128 :=
    fun c hc => of_decide_eq_true (List.all_eq_true.1 hall c hc)
  obtain ⟨-, -, hfinal⟩ := snake_lowers_and_separates "HTTPSettings_UiV2"
  exact ⟨hascii, by decide, hfinal hascii⟩

end TypedPreferences.Text
