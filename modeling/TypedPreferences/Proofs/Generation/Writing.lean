import Mathlib.Data.List.Nodup
import TypedPreferences.Generation.Run
import TypedPreferences.Proofs.Emission.Members
import TypedPreferences.Proofs.Generation.Files
import TypedPreferences.Proofs.Generation.Generated
import TypedPreferences.Proofs.Generation.Paths
import TypedPreferences.Proofs.Generation.Reordered
import TypedPreferences.Proofs.Scan.Found

/-! What a run that succeeds has written: one file for each declaration that was found, in order. A
file is written over when a later declaration has the same file name. A run succeeds when nothing is
wrong and its paths can be written to. -/

namespace TypedPreferences

namespace Run

variable {α β : Type} {s : RunState}

/-- What a run yields whenever it succeeds, and the state it then leaves. -/
def Yields (w : Run α) (s : RunState) (post : α → RunState → Prop) : Prop :=
  ∀ a s', w.run.run s = (.ok a, s') → post a s'

theorem Yields.mono {w : Run α} {post post' : α → RunState → Prop} (h : w.Yields s post)
    (himp : ∀ a s', post a s' → post' a s') : w.Yields s post' :=
  fun a s' hrun => himp a s' (h a s' hrun)

theorem Yields.pure {post : α → RunState → Prop} {a : α} (h : post a s) :
    Yields (Pure.pure a) s post := by
  intro b s' hrun
  cases hrun
  exact h

theorem Yields.bind {w : Run α} {f : α → Run β} {mid : α → RunState → Prop}
    {post : β → RunState → Prop} (hw : w.Yields s mid)
    (hf : ∀ a s', mid a s' → (f a).Yields s' post) : Yields (w >>= f) s post := by
  intro b s' hrun
  rw [ExceptT.run_bind, StateT.run_bind] at hrun
  rcases hfirst : w.run.run s with ⟨_ | a, middle⟩
  · rw [hfirst] at hrun
    cases hrun
  · rw [hfirst] at hrun
    exact hf a middle (hw a middle hfirst) b s' hrun

theorem yields_get : Yields (get : Run RunState) s fun a s' => a = s ∧ s' = s := by
  intro a s' hrun
  cases hrun
  exact ⟨rfl, rfl⟩

theorem yields_change (f : RunState → RunState) : Yields (change f) s fun _ s' => s' = f s := by
  intro a s' hrun
  cases hrun
  rfl

theorem yields_atPath (path : String) (outcome : Except FileFault α) :
    Yields (atPath path outcome) s fun a s' => outcome = .ok a ∧ s' = s := by
  intro a s' hrun
  cases outcome with
  | error cause => cases hrun
  | ok b =>
    cases hrun
    exact ⟨rfl, rfl⟩

end Run

namespace GeneratedFile

theorem nextPlace?_name (g : GeneratedFile) (place : List String) :
    FileTree.nextPlace? place g.name = some (place ++ [g.name]) := by
  -- The ending alone is longer than any part of a path with a meaning of its own.
  have hlength : 2 < g.name.length := by
    rw [GeneratedFile.name, fileStem, String.length_append, String.length_append]
    have hending : ".rs".length = 3 := rfl
    omega
  have hempty : g.name.isEmpty = false := by
    rw [Bool.eq_false_iff]
    intro h
    rw [String.isEmpty_iff.1 h] at hlength
    exact absurd hlength (by decide)
  have hdot : (g.name == ".") = false := by
    apply beq_eq_false_iff_ne.2
    intro h
    rw [h] at hlength
    exact absurd hlength (by decide)
  have hback : (g.name == "..") = false := by
    apply beq_eq_false_iff_ne.2
    intro h
    rw [h] at hlength
    exact absurd hlength (by decide)
  rw [FileTree.nextPlace?, hempty, hdot, hback]
  rfl

/-- The place of a file is named like the file. -/
theorem getLast?_of_locate {g : GeneratedFile} {t : FileTree} {outDir : String}
    {place : List String} (hname : '/' ∉ g.name.toList)
    (h : t.locate (joinPath outDir g.name) = .ok place) : place.getLast? = some g.name := by
  obtain ⟨before, hbefore⟩ := pathParts_joinPath outDir
  obtain ⟨-, hwalk⟩ := FileTree.locate_eq_ok.1 h
  rw [hbefore g.name hname] at hwalk
  obtain ⟨directory, -, rfl⟩ := FileTree.walk_append_name (nextPlace?_name g) hwalk
  exact List.getLast?_concat

end GeneratedFile

namespace Run

/-- What has been written once some files are done: they are reported in order, and of those of one
name the last can be read. -/
structure Written (outDir : String) (done : List GeneratedFile) (report : RunReport)
    (s : RunState) : Prop where
  declarations : report.declarations = done.map (·.declaration)
  files : report.files = done.map fun g => joinPath outDir g.name
  last : ∀ before g later, done = before ++ g :: later → (∀ other ∈ later, other.name ≠ g.name) →
    (∀ other ∈ g :: later, '/' ∉ other.name.toList) →
    ∃ place, s.files.locate (joinPath outDir g.name) = .ok place ∧
      s.files.find? place = some (.file g.text.toUTF8)

theorem Written.writeFile {outDir : String} {done : List GeneratedFile} {report : RunReport}
    {s : RunState} (h : Written outDir done report s) (g : GeneratedFile) :
    (Run.writeFile outDir report g).Yields s (Written outDir (done ++ [g])) := by
  unfold Run.writeFile
  refine Yields.bind yields_get ?_
  rintro _ s' ⟨rfl, rfl⟩
  refine Yields.bind (yields_atPath _ _) ?_
  rintro files _ ⟨hwrite, rfl⟩
  refine Yields.bind (yields_change _) ?_
  rintro _ _ rfl
  refine Yields.pure ⟨?_, ?_, ?_⟩
  · rw [h.declarations, List.map_append, List.map_singleton]
  · rw [h.files, List.map_append, List.map_singleton]
  · obtain ⟨place, hplace, hentry, rfl⟩ := FileTree.writeText_eq_ok hwrite
    have hkeeps := FileTree.keepsDirectories_put hentry (.file g.text.toUTF8)
    have hnil : place ≠ [] := by
      rintro rfl
      exact hentry rfl
    intro before other later hdone hlater hslash
    rcases List.eq_nil_or_concat later with rfl | ⟨front, last, rfl⟩
    · -- The file that was just written.
      obtain ⟨-, hother⟩ := List.append_inj' hdone rfl
      cases hother
      exact ⟨place, FileTree.locate_of_keeps hkeeps hplace, FileTree.find?_put_self hnil _⟩
    · -- An earlier one, of another name than the one that was just written.
      rw [List.concat_eq_append, ← List.cons_append, ← List.append_assoc] at hdone
      obtain ⟨hbefore, hlast⟩ := List.append_inj' hdone rfl
      cases hlast
      rw [List.concat_eq_append] at hlater hslash
      obtain ⟨there, hthere, hfile⟩ := h.last before other front hbefore
        (fun x hx => hlater x (List.mem_append_left _ hx))
        (fun x hx => hslash x (List.mem_append_left [g] hx))
      have hname := GeneratedFile.getLast?_of_locate
        (hslash g (List.mem_append_right (other :: front) List.mem_cons_self)) hplace
      have hname' := GeneratedFile.getLast?_of_locate (hslash other List.mem_cons_self) hthere
      have hne : there ≠ place := by
        rintro rfl
        exact hlater g (List.mem_append_right _ List.mem_cons_self)
          (Option.some.inj (hname.symm.trans hname'))
      exact ⟨there, FileTree.locate_of_keeps hkeeps hthere, (FileTree.find?_put_of_ne hne _).trans
        hfile⟩

section Names

variable {outDir : String} {generated : List GeneratedFile} {report : RunReport}

end Names

end Run

namespace Run

theorem run_bind_ok {w : Run α} {f : α → Run β} {a : α} {middle : RunState}
    (h : w.run.run s = (.ok a, middle)) : (w >>= f).run.run s = (f a).run.run middle := by
  rw [ExceptT.run_bind, StateT.run_bind, h]
  rfl

section Themes

open Emission

end Themes

end Run

end TypedPreferences
