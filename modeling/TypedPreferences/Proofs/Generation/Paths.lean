import TypedPreferences.Declared.Declaration
import TypedPreferences.Generation.FilePath
import TypedPreferences.Proofs.Source.ProperTypes
import TypedPreferences.Proofs.Text.Parts
import TypedPreferences.Proofs.Text.SnakeCase

/-! Paths of files in a directory: when names have no slash, the way to the directory is the same
for all of them and the name comes last, so different names have different paths. -/

namespace TypedPreferences

theorem pathParts_eq (path : String) :
    pathParts path = (path.toList.splitOn '/').map String.ofList :=
  congrArg (List.map String.ofList) (Text.splitAfter_eq_splitOn '/' path.toList)

theorem splitOn_append_slash {name : List Char} (h : '/' ∉ name) (base : List Char) :
    (base ++ '/' :: name).splitOn '/' = base.splitOn '/' ++ [name] := by
  rw [List.splitOn_append_cons_self, List.splitOn_eq_singleton h]

theorem not_isAbsolutePath {name : String} (h : '/' ∉ name.toList) :
    isAbsolutePath name = false := by
  apply beq_eq_false_iff_ne.2
  intro hhead
  exact h (List.mem_of_head? hhead)

/-- The parts of a path in a directory: the same ones for every name, and the name. -/
theorem pathParts_joinPath (base : String) :
    ∃ before, ∀ name : String, '/' ∉ name.toList →
      pathParts (joinPath base name) = before ++ [name] := by
  unfold joinPath
  by_cases hempty : base.isEmpty = true
  · -- Without a directory, the path is the name.
    refine ⟨[], fun name hname => ?_⟩
    rw [hempty, Bool.or_true, if_pos rfl, pathParts_eq, List.splitOn_eq_singleton hname]
    simp
  · rw [Bool.not_eq_true] at hempty
    by_cases hslash : base.toList.getLast? = some '/'
    · -- The directory already ends with a slash, so none is put between the two.
      obtain ⟨front, hfront⟩ := List.getLast?_eq_some_iff.1 hslash
      refine ⟨(front.splitOn '/').map String.ofList, fun name hname => ?_⟩
      rw [not_isAbsolutePath hname, hempty, Bool.or_self, if_neg Bool.false_ne_true,
        if_pos (beq_iff_eq.2 hslash), pathParts_eq, String.toList_append, hfront, List.append_assoc,
        List.singleton_append, splitOn_append_slash hname, List.map_append]
      simp
    · refine ⟨pathParts base, fun name hname => ?_⟩
      have htext : (base ++ "/" ++ name).toList = base.toList ++ '/' :: name.toList := by
        simp
      rw [not_isAbsolutePath hname, hempty, Bool.or_self, if_neg Bool.false_ne_true,
        if_neg (by simpa using hslash), pathParts_eq, pathParts_eq, htext,
        splitOn_append_slash hname, List.map_append]
      simp

namespace Text

end Text

end TypedPreferences
