import Mathlib.Data.List.Nodup
import Mathlib.Data.List.Perm.Basic
import TypedPreferences.Emission.Accessor
import TypedPreferences.Proofs.Fields.AllFields

/-! The functions that generated source declares, as a compiler sees them: by the name after `fn`,
without the mark of raw names. Two functions of one block never have one name just when no two
fields differ by that mark alone and no field is named like the setter of one. -/

namespace TypedPreferences.Emission

open Source

/-- A name without the mark of raw names, which does not count when names are compared. -/
def bareName (name : String) : String :=
  let cs := name.toList
  String.ofList (if "r#".toList.isPrefixOf cs then cs.drop 2 else cs)

/-- The name of the function that tokens declare: what stands after the first `fn` outside of
groups. -/
def declaredFunction? : List Token → Option String
  | .ident word :: .ident name :: rest =>
    if word = "fn" then some name else declaredFunction? (.ident name :: rest)
  | _ :: rest => declaredFunction? rest
  | [] => none

def functionNames (members : List EmittedMember) : List String :=
  members.filterMap fun m => (declaredFunction? m.tokens).map bareName

/-- The members of each block that implements no trait. -/
def inherentBlocks (items : List EmittedItem) : List (List EmittedMember) :=
  items.filterMap fun
    | .record _ => none
    | .block head members => if head.any (·.isWord "for") then none else some members

/-- The names of the functions of each block that implements no trait. -/
def inherentFunctions (items : List EmittedItem) : List (List String) :=
  (inherentBlocks items).map functionNames

section Templates

variable (holes : Holes)

theorem fill_ofList (cs : List Char) :
    fill holes (String.ofList cs) = fillTokens holes ((tokensIn? cs).getD []) := by
  rw [fill, tokens?_ofList]

theorem fill_of_tokens? {cs : List Char} (ts : List Token) (h : tokensIn? cs = some ts) :
    fill holes (String.ofList cs) = fillTokens holes ts := by
  rw [fill_ofList, h]
  rfl

theorem fill_doc : ∃ body, fill holes "#[doc = $text]" =
    [.punct '#' false, .group .bracket body] :=
  ⟨_, fill_of_tokens? holes [.punct '#' false, .group .bracket
    [.ident "doc", .punct '=' false, .punct '$' false, .ident "text"]] rfl⟩

theorem fill_new : ∃ rest, fill holes "pub fn new(store: $arc<dyn $rt::KvStore>) -> Self" =
    .ident "pub" :: .ident "fn" :: .ident "new" :: rest :=
  ⟨_, fill_of_tokens? holes [.ident "pub", .ident "fn", .ident "new", .group .paren
    [.ident "store", .punct ':' false, .punct '$' false, .ident "arc", .punct '<' false,
      .ident "dyn", .punct '$' false, .ident "rt", .punct ':' true, .punct ':' false,
      .ident "KvStore", .punct '>' false], .punct '-' true, .punct '>' false, .ident "Self"] rfl⟩

theorem fill_open : ∃ rest, fill holes "pub fn open(engine: &dyn $rt::KvEngine) -> Self" =
    .ident "pub" :: .ident "fn" :: .ident "open" :: rest :=
  ⟨_, fill_of_tokens? holes [.ident "pub", .ident "fn", .ident "open", .group .paren
    [.ident "engine", .punct ':' false, .punct '&' false, .ident "dyn", .punct '$' false,
      .ident "rt", .punct ':' true, .punct ':' false, .ident "KvEngine"],
    .punct '-' true, .punct '>' false, .ident "Self"] rfl⟩

theorem fill_snapshot : ∃ body rest,
    fill holes
        "#[doc = r\" Caller holds `self.lock`.\"] fn snapshot_locked(&self) -> $arc<$snapshot>" =
      .punct '#' false :: .group .bracket body :: .ident "fn" :: .ident "snapshot_locked" :: rest :=
  ⟨_, _, fill_of_tokens? holes [.punct '#' false, .group .bracket
    [.ident "doc", .punct '=' false, .literal "r\" Caller holds `self.lock`.\""],
    .ident "fn", .ident "snapshot_locked", .group .paren [.punct '&' false, .ident "self"],
    .punct '-' true, .punct '>' false, .punct '$' false, .ident "arc", .punct '<' true,
    .punct '$' false, .ident "snapshot", .punct '>' false] rfl⟩

theorem fill_constant : fill holes "pub const ID: &'static str = $id;" =
    [.ident "pub", .ident "const", .ident "ID", .punct ':' false, .punct '&' false,
      .punct '\'' true, .ident "static", .ident "str", .punct '=' false] ++
      ((holes.lookup "id").getD [] ++ [.punct ';' false]) :=
  fill_of_tokens? holes [.ident "pub", .ident "const", .ident "ID", .punct ':' false,
    .punct '&' true, .punct '\'' true, .ident "static", .ident "str", .punct '=' false,
    .punct '$' false, .ident "id", .punct ';' false] rfl

theorem fill_decode : ∃ rest, fill holes "fn $decode(&self) -> $type" =
    .ident "fn" :: ((holes.lookup "decode").getD [] ++ rest) :=
  ⟨_, fill_of_tokens? holes [.ident "fn", .punct '$' false, .ident "decode", .group .paren
    [.punct '&' false, .ident "self"], .punct '-' true, .punct '>' false, .punct '$' false,
    .ident "type"] rfl⟩

theorem fill_encode : ∃ rest, fill holes "fn $encode(store: &dyn $rt::KvStore, value: &$type)" =
    .ident "fn" :: ((holes.lookup "encode").getD [] ++ rest) :=
  ⟨_, fill_of_tokens? holes [.ident "fn", .punct '$' false, .ident "encode", .group .paren
    [.ident "store", .punct ':' false, .punct '&' false, .ident "dyn", .punct '$' false,
      .ident "rt", .punct ':' true, .punct ':' false, .ident "KvStore", .punct ',' false,
      .ident "value", .punct ':' false, .punct '&' true, .punct '$' false, .ident "type"]] rfl⟩

theorem fill_getter : ∃ rest, fill holes "pub fn $field(&self) -> &$type" =
    .ident "pub" :: .ident "fn" :: ((holes.lookup "field").getD [] ++ rest) :=
  ⟨_, fill_of_tokens? holes [.ident "pub", .ident "fn", .punct '$' false, .ident "field",
    .group .paren [.punct '&' false, .ident "self"], .punct '-' true, .punct '>' false,
    .punct '&' true, .punct '$' false, .ident "type"] rfl⟩

theorem fill_setter : ∃ rest, fill holes "pub fn $set(&mut self, value: $type)" =
    .ident "pub" :: .ident "fn" :: ((holes.lookup "set").getD [] ++ rest) :=
  ⟨_, fill_of_tokens? holes [.ident "pub", .ident "fn", .punct '$' false, .ident "set",
    .group .paren [.punct '&' false, .ident "mut", .ident "self", .punct ',' false, .ident "value",
      .punct ':' false, .punct '$' false, .ident "type"]] rfl⟩

theorem any_for_accessorHead : (fill holes "#[allow(clippy::clone_on_copy)] impl $wrapper").any
    (·.isWord "for") = ((holes.lookup "wrapper").getD []).any (·.isWord "for") := by
  rw [fill_of_tokens? holes [.punct '#' false, .group .bracket [.ident "allow", .group .paren
    [.ident "clippy", .punct ':' true, .punct ':' false, .ident "clone_on_copy"]],
    .ident "impl", .punct '$' false, .ident "wrapper"] rfl]
  simp [fillTokens, fillToken, Token.isWord]

theorem any_for_preferencesHead :
    (fill holes "impl $rt::Preferences for $wrapper").any (·.isWord "for") = true := by
  rw [fill_of_tokens? holes [.ident "impl", .punct '$' false, .ident "rt", .punct ':' true,
    .punct ':' false, .ident "Preferences", .ident "for", .punct '$' false, .ident "wrapper"] rfl]
  simp [fillTokens, fillToken, Token.isWord, isPair]

theorem any_for_editorHead : (fill holes "impl $editor").any (·.isWord "for") =
    ((holes.lookup "editor").getD []).any (·.isWord "for") := by
  rw [fill_of_tokens? holes [.ident "impl", .punct '$' false, .ident "editor"] rfl]
  simp [fillTokens, fillToken, Token.isWord]

theorem any_for_freezeHead :
    (fill holes "impl $rt::PreferencesEditor for $editor").any (·.isWord "for") = true := by
  rw [fill_of_tokens? holes [.ident "impl", .punct '$' false, .ident "rt", .punct ':' true,
    .punct ':' false, .ident "PreferencesEditor", .ident "for", .punct '$' false,
    .ident "editor"] rfl]
  simp [fillTokens, fillToken, Token.isWord, isPair]

end Templates

theorem declaredFunction?_fn (name : String) (rest : List Token) :
    declaredFunction? (.ident "fn" :: .ident name :: rest) = some name := by
  simp [declaredFunction?]

theorem declaredFunction?_pub (name : String) (rest : List Token) :
    declaredFunction? (.ident "pub" :: .ident "fn" :: .ident name :: rest) = some name := by
  simp [declaredFunction?]

theorem declaredFunction?_attribute (body rest : List Token) :
    declaredFunction? (.punct '#' false :: .group .bracket body :: rest) =
      declaredFunction? rest := by
  simp [declaredFunction?]

theorem bareName_eq_self {name : String} (h : name.toList.head? ≠ some 'r') :
    bareName name = name := by
  have hnot : "r#".toList.isPrefixOf name.toList = false := by
    rw [Bool.eq_false_iff]
    intro hp
    obtain ⟨rest, hrest⟩ := List.isPrefixOf_iff_prefix.1 hp
    rw [← hrest] at h
    exact h rfl
  unfold bareName
  dsimp only
  rw [hnot, if_neg Bool.false_ne_true, String.ofList_toList]

theorem fieldFunction_eq (word field : String) :
    fieldFunction word field = word ++ "_" ++ bareName field :=
  rfl

theorem bareName_fieldFunction {word : String} (field : String)
    (h : (word ++ "_").toList.head? ≠ some 'r' ∧ (word ++ "_").toList ≠ []) :
    bareName (fieldFunction word field) = fieldFunction word field := by
  apply bareName_eq_self
  rw [fieldFunction_eq, String.toList_append, List.head?_append_of_ne_nil _ h.2]
  exact h.1

section Members

variable (runtime : List Token) (holes : Holes) (p : FieldPlan) (plans : List FieldPlan)

theorem declaredFunction?_new : declaredFunction? (newMember holes).tokens = some "new" := by
  obtain ⟨rest, hrest⟩ := fill_new holes
  unfold newMember
  dsimp only
  rw [hrest]
  exact declaredFunction?_pub _ _

theorem declaredFunction?_snapshot :
    declaredFunction? (snapshotMember holes plans).tokens = some "snapshot_locked" := by
  obtain ⟨body, rest, hrest⟩ := fill_snapshot holes
  unfold snapshotMember
  dsimp only
  rw [hrest]
  exact (declaredFunction?_attribute _ _).trans (declaredFunction?_fn _ _)

theorem declaredFunction?_decode : declaredFunction? (decodeMember runtime p).tokens =
    some (fieldFunction "decode" p.field.name) := by
  obtain ⟨rest, hrest⟩ := fill_decode (fieldHoles runtime p.field)
  unfold decodeMember
  dsimp only
  rw [hrest]
  exact declaredFunction?_fn _ _

theorem declaredFunction?_encode : declaredFunction? (encodeMember runtime p).tokens =
    some (fieldFunction "encode" p.field.name) := by
  obtain ⟨rest, hrest⟩ := fill_encode (fieldHoles runtime p.field)
  unfold encodeMember
  dsimp only
  rw [hrest]
  exact declaredFunction?_fn _ _

theorem functionNames_cons {m : EmittedMember} {name : String} (members : List EmittedMember)
    (h : declaredFunction? m.tokens = some name) :
    functionNames (m :: members) = bareName name :: functionNames members := by
  rw [functionNames, List.filterMap_cons, h]
  rfl

theorem functionNames_append (members others : List EmittedMember) :
    functionNames (members ++ others) = functionNames members ++ functionNames others :=
  List.filterMap_append

/-- A family of members, one for each field, declares one function for each field. -/
theorem functionNames_family {word : String} {member : FieldPlan → EmittedMember}
    (hword : (word ++ "_").toList.head? ≠ some 'r' ∧ (word ++ "_").toList ≠ [])
    (h : ∀ p, declaredFunction? (member p).tokens = some (fieldFunction word p.field.name)) :
    functionNames (plans.map member) = plans.map fun p => fieldFunction word p.field.name := by
  induction plans with
  | nil => rfl
  | cons p rest ih =>
    rw [List.map_cons, functionNames_cons _ (h p), ih, bareName_fieldFunction _ hword,
      List.map_cons]

/-- Of the members that do not depend on the fields, all but the constant are functions. -/
theorem functionNames_fixed (constant opening : EmittedMember)
    (hconstant : declaredFunction? constant.tokens = none)
    (hopening : declaredFunction? opening.tokens = some "open") :
    functionNames [constant, newMember holes, opening, snapshotMember holes plans] =
      ["new", "open", "snapshot_locked"] := by
  have hnone : functionNames [constant] = [] := by
    rw [functionNames, List.filterMap_cons, hconstant]
    rfl
  have hnew : bareName "new" = "new" := bareName_eq_self (by decide)
  have hopen : bareName "open" = "open" := bareName_eq_self (by decide)
  have hsnapshot : bareName "snapshot_locked" = "snapshot_locked" := bareName_eq_self (by decide)
  calc functionNames [constant, newMember holes, opening, snapshotMember holes plans]
      = functionNames [constant] ++
          functionNames [newMember holes, opening, snapshotMember holes plans] :=
        functionNames_append [constant] _
    _ = ["new", "open", "snapshot_locked"] := by
        rw [hnone, List.nil_append, functionNames_cons _ (declaredFunction?_new holes),
          functionNames_cons _ hopening,
          functionNames_cons _ (declaredFunction?_snapshot holes plans), hnew, hopen, hsnapshot,
          functionNames, List.filterMap_nil]

theorem functionNames_accessorMembers (d : Declaration) :
    functionNames (accessorMembers runtime (declarationHoles runtime d) plans) =
      ["new", "open", "snapshot_locked"] ++
        plans.map (fun p => fieldFunction "decode" p.field.name) ++
        plans.map (fun p => fieldFunction "encode" p.field.name) := by
  have hid : (declarationHoles runtime d).lookup "id" = some (textLiteral d.id) := rfl
  unfold accessorMembers
  rw [functionNames_append, functionNames_append,
    functionNames_family plans (by decide) (declaredFunction?_decode runtime),
    functionNames_family plans (by decide) (declaredFunction?_encode runtime),
    functionNames_fixed]
  · rw [fill_constant, hid]
    simp [declaredFunction?, textLiteral]
  · obtain ⟨rest, hrest⟩ := fill_open (declarationHoles runtime d)
    rw [hrest]
    exact declaredFunction?_pub _ _

theorem functionNames_editorMembers :
    functionNames (editorMembers holes p) =
      [bareName p.field.name, fieldFunction "set" p.field.name] := by
  have hfield : (fieldHoles [] p.field ++ holes).lookup "field" = some [.ident p.field.name] := rfl
  have hset : (fieldHoles [] p.field ++ holes).lookup "set" =
      some [.ident (fieldFunction "set" p.field.name)] := rfl
  -- A function is told by the tokens before its body, so the bodies are left open.
  have hgetter (body : List Token) :
      declaredFunction? (fill (fieldHoles [] p.field ++ holes) "pub fn $field(&self) -> &$type" ++
        body) = some p.field.name := by
    obtain ⟨rest, hrest⟩ := fill_getter (fieldHoles [] p.field ++ holes)
    rw [hrest, hfield]
    exact declaredFunction?_pub _ _
  have hsetter (body : List Token) :
      declaredFunction? (docAttribute (setterDoc p.field) ++
        fill (fieldHoles [] p.field ++ holes) "pub fn $set(&mut self, value: $type)" ++
        body) = some (fieldFunction "set" p.field.name) := by
    obtain ⟨doc, hdoc⟩ := fill_doc [("text", textLiteral (setterDoc p.field))]
    obtain ⟨rest, hrest⟩ := fill_setter (fieldHoles [] p.field ++ holes)
    rw [docAttribute, hdoc, hrest, hset]
    exact (declaredFunction?_attribute doc _).trans (declaredFunction?_pub _ _)
  unfold editorMembers
  dsimp only
  rw [functionNames_cons (m := ⟨_, _⟩) _ (hgetter _),
    functionNames_cons (m := ⟨_, _⟩) _ (hsetter _),
    bareName_fieldFunction p.field.name (by decide), functionNames, List.filterMap_nil]

theorem functionNames_editor :
    functionNames (plans.flatMap (editorMembers holes)) =
      plans.flatMap fun p => [bareName p.field.name, fieldFunction "set" p.field.name] := by
  induction plans with
  | nil => rfl
  | cons p rest ih =>
    rw [List.flatMap_cons, List.flatMap_cons, functionNames_append, functionNames_editorMembers, ih]

end Members

theorem ne_for_of_append {name suffix : String} (h : 3 < suffix.length) :
    (Token.ident (name ++ suffix)).isWord "for" = false := by
  apply beq_eq_false_iff_ne.2
  intro heq
  have hlength := congrArg String.length heq
  rw [String.length_append] at hlength
  have hfor : "for".length = 3 := rfl
  omega

theorem inherentBlocks_declarationItems (runtime : List Token) (d : Declaration)
    (plans : List FieldPlan) :
    inherentBlocks (declarationItems runtime d plans) =
      [accessorMembers runtime (declarationHoles runtime d) plans,
        plans.flatMap (editorMembers (declarationHoles runtime d))] := by
  have haccessor : (declarationHoles runtime d).lookup "wrapper" =
      some [.ident (accessorName d.name)] := rfl
  have heditor : (declarationHoles runtime d).lookup "editor" =
      some [.ident (editorName d.name)] := rfl
  have hone : (Token.ident (accessorName d.name)).isWord "for" = false :=
    ne_for_of_append (by decide)
  have htwo : (Token.ident (editorName d.name)).isWord "for" = false :=
    ne_for_of_append (by decide)
  simp only [inherentBlocks, declarationItems, List.filterMap_cons, List.filterMap_nil,
    any_for_accessorHead, any_for_preferencesHead, any_for_editorHead, any_for_freezeHead,
    haccessor, heditor, Option.getD_some, List.any_cons, List.any_nil, hone, htwo, Bool.or_false,
    Bool.false_eq_true, if_true, if_false]

section Names

variable (names : List String)

theorem nodup_map_append_left (word : String) :
    (names.map (word ++ ·)).Nodup ↔ names.Nodup :=
  List.nodup_map_iff fun a b h => by simpa using h

theorem head?_prefixed (word : String) (c : Char) (h : (word ++ "_").toList.head? = some c)
    (name : String) : (word ++ "_" ++ name).toList.head? = some c := by
  have hne : (word ++ "_").toList ≠ [] := by
    intro hnil
    rw [hnil] at h
    cases h
  rw [String.toList_append, List.head?_append_of_ne_nil _ hne, h]

theorem ne_of_head? {a b : String} (h : a.toList.head? ≠ b.toList.head?) : a ≠ b :=
  fun heq => h (congrArg (·.toList.head?) heq)

/-- The fixed names and the two families begin with letters of their own, so only the names inside
a family can meet. -/
theorem nodup_accessorNames :
    (["new", "open", "snapshot_locked"] ++ names.map ("decode" ++ "_" ++ ·) ++
      names.map ("encode" ++ "_" ++ ·)).Nodup ↔ names.Nodup := by
  have hdecode := head?_prefixed "decode" 'd' (by decide)
  have hencode := head?_prefixed "encode" 'e' (by decide)
  have hfixed : ∀ name ∈ ["new", "open", "snapshot_locked"],
      name.toList.head? ≠ some 'd' ∧ name.toList.head? ≠ some 'e' := by decide
  rw [List.nodup_append, List.nodup_append, nodup_map_append_left, nodup_map_append_left]
  constructor
  · rintro ⟨⟨-, hnodup, -⟩, -⟩
    exact hnodup
  · -- Names of different groups differ in their first letter.
    intro hnodup
    refine ⟨⟨by decide, hnodup, ?_⟩, hnodup, ?_⟩
    · intro fixed hmem prefixed hprefixed
      obtain ⟨name, -, rfl⟩ := List.mem_map.1 hprefixed
      apply ne_of_head?
      rw [hdecode]
      exact (hfixed fixed hmem).1
    · intro other hother prefixed hprefixed
      obtain ⟨name, -, rfl⟩ := List.mem_map.1 hprefixed
      apply ne_of_head?
      rw [hencode]
      rcases List.mem_append.1 hother with hmem | hmem
      · exact (hfixed other hmem).2
      · obtain ⟨decoded, -, rfl⟩ := List.mem_map.1 hmem
        rw [hdecode]
        decide

theorem nodup_editorNames :
    (names.flatMap fun n => [n, "set" ++ "_" ++ n]).Nodup ↔
      names.Nodup ∧ ∀ a ∈ names, ∀ b ∈ names, a ≠ "set" ++ "_" ++ b := by
  have hperm : (names ++ names.map ("set" ++ "_" ++ ·)).Perm
      (names.flatMap fun n => [n, "set" ++ "_" ++ n]) := by
    have h := List.map_append_flatMap_perm names id fun n => ["set" ++ "_" ++ n]
    rwa [List.map_id, ← List.map_eq_flatMap] at h
  rw [← hperm.nodup_iff, List.nodup_append, nodup_map_append_left]
  constructor
  · rintro ⟨hnodup, -, hdisjoint⟩
    exact ⟨hnodup, fun a ha b hb => hdisjoint a ha _ (List.mem_map_of_mem hb)⟩
  · rintro ⟨hnodup, hdisjoint⟩
    refine ⟨hnodup, hnodup, fun a ha prefixed hprefixed => ?_⟩
    obtain ⟨b, hb, rfl⟩ := List.mem_map.1 hprefixed
    exact hdisjoint a ha b hb

end Names

/-- Fields with names of their own have bare names of their own when no two names differ by the mark
of raw names alone. -/
theorem nodup_bareNames {fields : List Field} (h : (fields.map (·.name)).Nodup) :
    (fields.map fun f => bareName f.name).Nodup ↔
      ∀ f ∈ fields, ∀ g ∈ fields, bareName f.name = bareName g.name → f.name = g.name := by
  have hmap : (fields.map fun f => bareName f.name) = (fields.map (·.name)).map bareName := by
    rw [List.map_map]
    rfl
  rw [hmap]
  constructor
  · intro hnodup f hf g hg
    exact List.inj_on_of_nodup_map hnodup (List.mem_map_of_mem hf) (List.mem_map_of_mem hg)
  · intro hinj
    refine List.Nodup.map_on ?_ h
    intro a ha b hb
    obtain ⟨f, hf, rfl⟩ := List.mem_map.1 ha
    obtain ⟨g, hg, rfl⟩ := List.mem_map.1 hb
    exact hinj f hf g hg

end TypedPreferences.Emission

namespace TypedPreferences.Context

open Emission

variable {c : Context} {d : Declaration} {plans : List (FieldKind × FieldPlan)}

/-- The functions that are generated for a planned declaration: those of the accessor, then those of
the editor. -/
theorem inherentFunctions_of_planDeclaration (runtime : List Source.Token)
    (h : (c.planDeclaration d).perform.1 = .ok plans) :
    inherentFunctions (declarationItems runtime d (plans.map (·.2))) =
      let names := d.fields.map fun f => bareName f.name
      [["new", "open", "snapshot_locked"] ++ names.map ("decode" ++ "_" ++ ·) ++
          names.map ("encode" ++ "_" ++ ·),
        names.flatMap fun n => [n, "set" ++ "_" ++ n]] := by
  obtain ⟨hplans, -⟩ := planDeclaration_ok h
  have hfields : plans.map (·.2.field) = d.fields := Layout.fields_of_planOf hplans
  rw [inherentFunctions, inherentBlocks_declarationItems, List.map_cons, List.map_singleton,
    functionNames_accessorMembers, functionNames_editor]
  simp only [← hfields, List.map_map, List.flatMap_map]
  rfl

/-- The functions that are generated for a planned declaration have names of their own in each
block just when no two fields differ by the mark of raw names alone and no field is named like the
setter of a field. -/
theorem emitted_nodup_iff (runtime : List Source.Token)
    (h : (c.planDeclaration d).perform.1 = .ok plans) :
    (∀ names ∈ inherentFunctions (declarationItems runtime d (plans.map (·.2))), names.Nodup) ↔
      (∀ f ∈ d.fields, ∀ g ∈ d.fields, bareName f.name = bareName g.name → f.name = g.name) ∧
        ∀ f ∈ d.fields, ∀ g ∈ d.fields, bareName f.name ≠ fieldFunction "set" g.name := by
  obtain ⟨-, hnodup⟩ := planDeclaration_ok h
  have hnames := nodup_bareNames hnodup
  have hsetters : (∀ a ∈ d.fields.map fun f => bareName f.name,
      ∀ b ∈ d.fields.map fun f => bareName f.name, a ≠ "set" ++ "_" ++ b) ↔
        ∀ f ∈ d.fields, ∀ g ∈ d.fields, bareName f.name ≠ fieldFunction "set" g.name := by
    simp only [List.forall_mem_map]
    rfl
  rw [inherentFunctions_of_planDeclaration runtime h]
  dsimp only
  rw [List.forall_mem_cons, List.forall_mem_singleton, nodup_accessorNames, nodup_editorNames,
    hnames, hsetters, and_self_left]

section Panel

/-- A declaration of whole numbers with given names. -/
def panel (names : List String) : Declaration where
  name := "Panel"
  id := "Panel"
  module := []
  fields := names.map fun name =>
    ⟨name, .ofTy (.plain {} "i32"), some [.literal "0"], false⟩

/-- Planning with no types but the primitive ones. -/
def primitivesOnly : Context := ⟨[], [], ⟨.lenient, []⟩⟩

theorem emitted_nodup_raw : ∃ plans : List (FieldKind × FieldPlan),
    (primitivesOnly.planDeclaration (panel ["depth", "r#type"])).perform.1 = .ok plans ∧
      ∀ names ∈ inherentFunctions
          (declarationItems [.ident "kvprefs"] (panel ["depth", "r#type"]) (plans.map (·.2))),
        names.Nodup := by
  obtain ⟨plans, hplans⟩ : ∃ plans, (primitivesOnly.planDeclaration
      (panel ["depth", "r#type"])).perform.1 = .ok plans := ⟨_, rfl⟩
  exact ⟨plans, hplans, (emitted_nodup_iff [.ident "kvprefs"] hplans).2 (by decide)⟩

/-- A field that is named like the setter of another is planned, and the editor then has two
functions of one name. -/
theorem not_emitted_nodup_setter : ∃ plans : List (FieldKind × FieldPlan),
    (primitivesOnly.planDeclaration (panel ["depth", "set_depth"])).perform.1 = .ok plans ∧
      ∃ names ∈ inherentFunctions (declarationItems [.ident "kvprefs"]
          (panel ["depth", "set_depth"]) (plans.map (·.2))),
        names = ["depth", "set_depth", "set_depth", "set_set_depth"] ∧ ¬ names.Nodup := by
  obtain ⟨plans, hplans⟩ : ∃ plans, (primitivesOnly.planDeclaration
      (panel ["depth", "set_depth"])).perform.1 = .ok plans := ⟨_, rfl⟩
  refine ⟨plans, hplans, _, ?_, rfl, by decide⟩
  rw [inherentFunctions_of_planDeclaration _ hplans]
  decide

end Panel

end TypedPreferences.Context
