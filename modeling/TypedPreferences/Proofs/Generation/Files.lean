import TypedPreferences.Generation.FileTree
import TypedPreferences.Proofs.Text.Bytes

/-! What is read from files after they were written: a path leads to the same place as long as the
directories on its way stay, a write takes no directory away, and it changes one file only. -/

namespace TypedPreferences

namespace FileTree

variable {t t' : FileTree} {place q : List String}

/-- The place after one part of a path; there is none above the working directory. -/
def nextPlace? (place : List String) (part : String) : Option (List String) :=
  if part.isEmpty || part == "." then some place
  else if part == ".." then if place.isEmpty then none else some place.dropLast
  else some (place ++ [part])

/-- Every directory of the first is one of the second. -/
def KeepsDirectories (t t' : FileTree) : Prop :=
  ∀ place, t.find? place = some .directory → t'.find? place = some .directory

theorem requireDirectory_eq_ok : t.requireDirectory place = .ok () ↔
    t.find? place = some .directory := by
  unfold requireDirectory
  rcases t.find? place with _ | _ | content <;> simp

/-- A part of a path is taken in a directory, and then leads to the same place in every tree. -/
theorem walk_cons_eq_ok {part : String} {rest : List String} :
    t.walk place (part :: rest) = .ok q ↔ t.find? place = some .directory ∧
      ∃ next, nextPlace? place part = some next ∧ t.walk next rest = .ok q := by
  rw [walk, ← requireDirectory_eq_ok]
  cases t.requireDirectory place with
  | error fault => simp [bind, Except.bind]
  | ok done =>
    simp only [bind, Except.bind, true_and]
    unfold nextPlace?
    split
    · simp
    · split
      · split
        · simp [throw, throwThe, MonadExceptOf.throw]
        · simp
      · simp

/-- The way to a place needs its directories only. -/
theorem walk_of_keeps (hkeeps : t.KeepsDirectories t') {parts : List String}
    (h : t.walk place parts = .ok q) : t'.walk place parts = .ok q := by
  induction parts generalizing place with
  | nil => exact h
  | cons part rest ih =>
    obtain ⟨hplace, next, hnext, hrest⟩ := walk_cons_eq_ok.1 h
    exact walk_cons_eq_ok.2 ⟨hkeeps place hplace, next, hnext, ih hrest⟩

/-- The last part of a path, when it is a name, is the name of the place. -/
theorem walk_append_name {parts : List String} {name : String}
    (hname : ∀ place, nextPlace? place name = some (place ++ [name]))
    (h : t.walk place (parts ++ [name]) = .ok q) :
    ∃ directory, t.walk place parts = .ok directory ∧ q = directory ++ [name] := by
  induction parts generalizing place with
  | nil =>
    obtain ⟨-, next, hnext, hrest⟩ := walk_cons_eq_ok.1 h
    rw [hname] at hnext
    cases hnext
    cases hrest
    exact ⟨place, rfl, rfl⟩
  | cons part rest ih =>
    obtain ⟨hplace, next, hnext, hrest⟩ := walk_cons_eq_ok.1 h
    obtain ⟨directory, hdirectory, hq⟩ := ih hrest
    exact ⟨directory, walk_cons_eq_ok.2 ⟨hplace, next, hnext, hdirectory⟩, hq⟩

theorem locate_eq_ok {path : String} : t.locate path = .ok q ↔
    (path.isEmpty || isAbsolutePath path) = false ∧ t.walk [] (pathParts path) = .ok q := by
  unfold locate
  cases path.isEmpty || isAbsolutePath path <;> simp

theorem locate_of_keeps (hkeeps : t.KeepsDirectories t') {path : String}
    (h : t.locate path = .ok q) : t'.locate path = .ok q := by
  obtain ⟨hpath, hwalk⟩ := locate_eq_ok.1 h
  exact locate_eq_ok.2 ⟨hpath, walk_of_keeps hkeeps hwalk⟩

theorem lookup_filter_ne {entries : List (List String × Entry)} (h : q ≠ place) :
    (entries.filter (·.1 != place)).lookup q = entries.lookup q := by
  induction entries with
  | nil => rfl
  | cons entry rest ih =>
    obtain ⟨here, e⟩ := entry
    by_cases hhere : here = place
    · rw [List.filter_cons_of_neg (by simpa using hhere), ih, List.lookup_cons]
      have hne : (q == here) = false := beq_eq_false_iff_ne.2 (hhere ▸ h)
      rw [hne]
    · rw [List.filter_cons_of_pos (by simpa using hhere), List.lookup_cons, List.lookup_cons, ih]

theorem find?_put_self (hplace : place ≠ []) (entry : Entry) :
    (t.put place entry).find? place = some entry := by
  have hempty : place.isEmpty = false := by simpa using hplace
  rw [find?, hempty, if_neg Bool.false_ne_true, put, List.lookup_cons_self]

theorem find?_put_of_ne (h : q ≠ place) (entry : Entry) :
    (t.put place entry).find? q = t.find? q := by
  unfold find? put
  rw [List.lookup_cons, beq_eq_false_iff_ne.2 h]
  dsimp only
  rw [lookup_filter_ne h]

/-- Writing puts a file at the place of the path, where no directory was. -/
theorem writeText_eq_ok {path text : String} (h : t.writeText path text = .ok t') :
    ∃ place, t.locate path = .ok place ∧ t.find? place ≠ some .directory ∧
      t' = t.put place (.file text.toUTF8) := by
  unfold writeText writeBytes at h
  cases hplace : t.locate path with
  | error fault =>
    rw [hplace] at h
    cases h
  | ok place =>
    rw [hplace] at h
    cases hrequire : t.requireDirectory place.dropLast with
    | error fault =>
      simp only [bind, Except.bind, hrequire] at h
      cases h
    | ok done =>
      simp only [bind, Except.bind, hrequire] at h
      refine ⟨place, rfl, ?_⟩
      rcases hentry : t.find? place with _ | _ | content
      · rw [hentry] at h
        exact ⟨nofun, (Except.ok.inj h).symm⟩
      · rw [hentry] at h
        cases h
      · rw [hentry] at h
        exact ⟨nofun, (Except.ok.inj h).symm⟩

theorem keepsDirectories_put (hplace : t.find? place ≠ some .directory) (entry : Entry) :
    t.KeepsDirectories (t.put place entry) := by
  intro q hq
  have hne : q ≠ place := fun heq => hplace (heq ▸ hq)
  rw [find?_put_of_ne hne, hq]

/-- A text can be written to a path: it leads into a directory, and not to one. -/
def Writable (t : FileTree) (path : String) : Prop :=
  ∃ place, t.locate path = .ok place ∧ t.find? place.dropLast = some .directory ∧
    t.find? place ≠ some .directory

theorem Writable.writeText {path : String} (h : t.Writable path) (text : String) :
    ∃ t', t.writeText path text = .ok t' := by
  obtain ⟨place, hplace, hdirectory, hentry⟩ := h
  refine ⟨t.put place (.file text.toUTF8), ?_⟩
  unfold FileTree.writeText writeBytes
  simp only [hplace, requireDirectory_eq_ok.2 hdirectory, bind, Except.bind]
  rcases hfound : t.find? place with _ | _ | content
  · rfl
  · exact absurd hfound hentry
  · rfl

end FileTree

end TypedPreferences
