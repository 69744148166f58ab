import TypedPreferences.Emission.Steps

/-! The source that is generated for a declaration: the accessor, which holds a snapshot of the
store, and the editor, whose setters write through to the store. -/

namespace TypedPreferences.Emission

open Source

/-- A member of a block: the name it declares, and its tokens. -/
structure EmittedMember where
  name : String
  tokens : List Token

/-- A top-level item of generated source: a structure, or a block with members. -/
inductive EmittedItem where
  | record (tokens : List Token)
  | block (head : List Token) (members : List EmittedMember)

def EmittedItem.tokens : EmittedItem → List Token
  | record tokens => tokens
  | block head members => head ++ Token.braces (members.flatMap (·.tokens))

def accessorName (declaration : String) : String :=
  let cs := declaration.toList
  String.ofList (if "r#".toList.isPrefixOf cs then cs.drop 2 else cs) ++ "Preferences"

def editorName (declaration : String) : String :=
  let cs := declaration.toList
  String.ofList (if "r#".toList.isPrefixOf cs then cs.drop 2 else cs) ++ "Editor"

def declarationHoles (runtime : List Token) (d : Declaration) : Holes :=
  [("rt", runtime), ("snapshot", [.ident d.name]), ("wrapper", [.ident (accessorName d.name)]),
    ("editor", [.ident (editorName d.name)]), ("id", textLiteral d.id),
    ("arc", fill [("rt", runtime)] "$rt::__private::Arc"),
    ("some", fill [] "::core::option::Option::Some")]

def docAttribute (text : String) : List Token :=
  fill [("text", textLiteral text)] "#[doc = $text]"

def setterDoc (field : Field) : String :=
  " Writes through to storage immediately." ++
    if field.type.nullable then
      " Setting `None` clears the stored value: the editor and its snapshot keep `None`, " ++
        "but the next decode from storage reads the declared default" ++
        (if field.persistDefault then ", and that default is written back" else "") ++ "."
    else ""

def accessorRecord (holes : Holes) (d : Declaration) : List Token :=
  docAttribute ("Preferences backed by the `" ++ d.id ++ "` namespace, with snapshots of [`" ++
    d.name ++ "`].") ++
    fill holes "pub struct $wrapper" ++
    Token.braces (fill holes
      "store: $arc<dyn $rt::KvStore>, default: $snapshot, lock: $rt::__private::Mutex<()>,
       instance: $rt::Published<$snapshot>,
       state: $rt::Published<$rt::StateFlow<$arc<$snapshot>>>,")

def returnPublished (holes : Holes) : List Token :=
  fill holes "if let $some(instance) = self.instance.load()" ++
    Token.braces (fill holes "return instance;")

def newMember (holes : Holes) : EmittedMember :=
  ⟨"new", fill holes "pub fn new(store: $arc<dyn $rt::KvStore>) -> Self" ++
    Token.braces (fill holes "Self" ++ Token.braces (fill holes
      "store, default: <$snapshot as ::core::default::Default>::default(),
       lock: $rt::__private::Mutex::new(()),
       instance: $rt::Published::new(), state: $rt::Published::new(),"))⟩

def snapshotMember (holes : Holes) (plans : List FieldPlan) : EmittedMember :=
  let fields := plans.flatMap fun p => fill (fieldHoles [] p.field) "$field: self.$decode(),"
  ⟨"snapshot_locked", fill holes
      "#[doc = r\" Caller holds `self.lock`.\"] fn snapshot_locked(&self) -> $arc<$snapshot>" ++
    Token.braces (returnPublished holes ++
      fill (("new", fill holes "$snapshot" ++ Token.braces fields) :: holes)
        "let instance = $arc::new($new);" ++
      fill holes "self.instance.store($arc::clone(&instance)); instance")⟩

def decodeMember (runtime : List Token) (p : FieldPlan) : EmittedMember :=
  let holes := fieldHoles runtime p.field
  ⟨fieldFunction "decode" p.field.name, fill holes "fn $decode(&self) -> $type" ++
    Token.braces (fill holes "let store = self.store.as_ref();" ++
      p.decode.flatMap (decodeStatement holes))⟩

def encodeMember (runtime : List Token) (p : FieldPlan) : EmittedMember :=
  let holes := fieldHoles runtime p.field
  ⟨fieldFunction "encode" p.field.name,
    fill holes "fn $encode(store: &dyn $rt::KvStore, value: &$type)" ++
    Token.braces (encodeStatements holes true p.encode)⟩

def accessorMembers (runtime : List Token) (holes : Holes) (plans : List FieldPlan) :
    List EmittedMember :=
  [⟨"ID", fill holes "pub const ID: &'static str = $id;"⟩,
    newMember holes,
    ⟨"open", fill holes "pub fn open(engine: &dyn $rt::KvEngine) -> Self" ++
      Token.braces (fill holes "Self::new(engine.open(Self::ID))")⟩,
    snapshotMember holes plans] ++
    plans.map (decodeMember runtime) ++ plans.map (encodeMember runtime)

def returnFlow (holes : Holes) : List Token :=
  fill holes "if let $some(state) = self.state.load()" ++
    Token.braces (fill holes "return $rt::StateFlow::clone(&state);")

def preferencesMembers (holes : Holes) : List EmittedMember :=
  [⟨"Snapshot", fill holes "type Snapshot = $snapshot;"⟩,
    ⟨"Editor", fill holes "type Editor = $editor;"⟩,
    ⟨"id", fill holes "fn id(&self) -> &str" ++ Token.braces (fill holes "Self::ID")⟩,
    ⟨"get", fill holes "fn get(&self) -> $arc<$snapshot>" ++
      Token.braces (returnPublished holes ++
        fill holes "let _guard = self.lock.lock(); self.snapshot_locked()")⟩,
    ⟨"mutable", fill holes "fn mutable(&self) -> $editor" ++
      Token.braces (fill holes "let snapshot = $rt::Preferences::get(self); $editor" ++
        Token.braces
          (fill holes "store: $arc::clone(&self.store), values: $snapshot::clone(&snapshot),"))⟩,
    ⟨"update", fill holes "fn update(&self, editor: &$editor)" ++
      Token.braces (fill holes
        "let instance = $arc::new($rt::PreferencesEditor::to_immutable(editor));
         let _guard = self.lock.lock();
         self.instance.store($arc::clone(&instance)); if let $some(state) = self.state.load()" ++
        Token.braces (fill holes "state.set_value(instance);"))⟩,
    ⟨"as_state_flow", fill holes "fn as_state_flow(&self) -> $rt::StateFlow<$arc<$snapshot>>" ++
      Token.braces (returnFlow holes ++ fill holes "let _guard = self.lock.lock();" ++
        returnFlow holes ++
        fill holes
          "let state = $rt::StateFlow::new(self.snapshot_locked());
           self.state.store($arc::new(state.clone())); state")⟩]

def editorRecord (holes : Holes) (d : Declaration) : List Token :=
  docAttribute ("Write-through editor for [`" ++ accessorName d.name ++ "`].") ++
    fill holes "pub struct $editor" ++
    Token.braces (fill holes "store: $arc<dyn $rt::KvStore>, values: $snapshot,")

def editorMembers (holes : Holes) (p : FieldPlan) : List EmittedMember :=
  let holes := fieldHoles [] p.field ++ holes
  [⟨p.field.name, fill holes "pub fn $field(&self) -> &$type" ++
    Token.braces (fill holes "&self.values.$field")⟩,
    ⟨fieldFunction "set" p.field.name,
      docAttribute (setterDoc p.field) ++ fill holes "pub fn $set(&mut self, value: $type)" ++
      Token.braces (fill holes
        "$wrapper::$encode(self.store.as_ref(), &value); self.values.$field = value;")⟩]

def freezeMembers (holes : Holes) : List EmittedMember :=
  [⟨"Snapshot", fill holes "type Snapshot = $snapshot;"⟩,
    ⟨"to_immutable", fill holes "fn to_immutable(&self) -> $snapshot" ++
      Token.braces (fill holes "$snapshot::clone(&self.values)")⟩]

def declarationItems (runtime : List Token) (d : Declaration) (plans : List FieldPlan) :
    List EmittedItem :=
  let holes := declarationHoles runtime d
  [.record (accessorRecord holes d),
    .block (fill holes "#[allow(clippy::clone_on_copy)] impl $wrapper")
      (accessorMembers runtime holes plans),
    .block (fill holes "impl $rt::Preferences for $wrapper") (preferencesMembers holes),
    .record (editorRecord holes d),
    .block (fill holes "impl $editor") (plans.flatMap (editorMembers holes)),
    .block (fill holes "impl $rt::PreferencesEditor for $editor") (freezeMembers holes)]

def declarationTokens (runtime : List Token) (d : Declaration) (plans : List FieldPlan) :
    List Token :=
  (declarationItems runtime d plans).flatMap (·.tokens)

end TypedPreferences.Emission
