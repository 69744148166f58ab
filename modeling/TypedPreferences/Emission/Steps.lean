import TypedPreferences.Emission.Template
import TypedPreferences.Plan.Step

/-! The bodies of the functions that read a field from the store and write it. -/

namespace TypedPreferences.Emission

open Source

def textLiteral (text : String) : List Token :=
  [.literal (Text.Quoted.encode text)]

/-- The name of a function for a field: a word before the name, which is no longer raw. -/
def fieldFunction (word field : String) : String :=
  let cs := field.toList
  word ++ "_" ++ String.ofList (if "r#".toList.isPrefixOf cs then cs.drop 2 else cs)

/-- What the templates for a field name: the path to the library, the storage key, the field, its
types and its encode function. -/
def fieldHoles (runtime : List Token) (field : Field) : Holes :=
  [("rt", runtime), ("key", textLiteral field.name), ("field", [.ident field.name]),
    ("type", field.type.written.tokens),
    ("inner", field.type.inner.tokens), ("decode", [.ident (fieldFunction "decode" field.name)]),
    ("encode", [.ident (fieldFunction "encode" field.name)]),
    ("set", [.ident (fieldFunction "set" field.name)]),
    ("some", fill [] "::core::option::Option::Some"),
    ("texts", fill [("rt", runtime)] "$rt::__private::BTreeSet<::std::string::String>")]

def withMethod (holes : Holes) (word : String) (kind : Primitive) : Holes :=
  ("method", [.ident (word ++ "_" ++ kind.suffix)]) :: holes

def readExpr (holes : Holes) : Read → List Token
  | .scalar .boolean => fill holes "store.decode_bool($key, false)"
  | .scalar kind =>
    if kind.usesSentinel then
      fill (withMethod holes "decode" kind) "store.$method($key, $rt::sentinel::sentinel())"
    else fill (withMethod holes "decode" kind) "store.$method($key)"
  | .existence kind => fill (withMethod holes "decode" kind) "store.$method($key)"
  | .ordinal => fill holes "<$inner as $rt::PrefEnum>::from_ordinal(store.decode_int($key, -1))"
  | .marshal => fill holes "$rt::marshal::decode::<$inner>(store, $key)"
  | .nullableScalar .boolean =>
    fill holes "$rt::nullable::decode_bool(store.decode_int($key, $rt::nullable::NULL_BOOL))"
  | .nullableScalar .integer =>
    fill holes "$rt::nullable::decode_int(store.decode_long($key, $rt::nullable::NULL_INT))"
  | .nullableScalar kind =>
    if kind.isExistenceChecked then fill (withMethod holes "decode" kind) "store.$method($key)"
    else
      fill (withMethod holes "decode" kind)
        "$rt::nullable::$method(store.decode_bytes($key).as_deref())"

/-- A statement of the branch that is taken when the value is missing. -/
def absentStatement (holes : Holes) : AbsentStep → List Token
  | .persistDefault guard =>
    let write := fill holes "Self::$encode(store, &self.default.$field);"
    match guard with
    | .always => write
    | .defaultPresent => fill holes "if self.default.$field.is_some()" ++ Token.braces write
    | .defaultNotSentinel =>
      fill holes "if !$rt::sentinel::is_sentinel(self.default.$field)" ++ Token.braces write
  | .returnDefault => fill holes "return self.default.$field.clone();"

def productExpr (holes : Holes) : Product → List Token
  | .value => fill holes "value"
  | .collectSet => fill holes "value.into_iter().collect()"
  | .decoded call =>
    let arg := fill holes (if call.collectSet then "value.into_iter().collect()" else "value")
    let arg := if call.optional then fill (("arg", arg) :: holes) "$some($arg)" else arg
    let arg := if call.byRef then .punct '&' false :: arg else arg
    call.path.tokens ++ Token.parens arg

def decodeStatement (holes : Holes) : DecodeStep → List Token
  | .read raw => fill (("read", readExpr holes raw) :: holes) "let value = $read;"
  | .onAbsent check branch =>
    let branch := Token.braces (branch.flatMap (absentStatement holes))
    match check with
    | .sentinel => fill holes "if $rt::sentinel::is_sentinel(value)" ++ branch
    | .keyMissing => fill holes "if !store.contains_key($key)" ++ branch
    | .noneValue => fill holes "let $some(value) = value else" ++ branch ++ fill [] ";"
  | .produce product wrap =>
    let value := productExpr holes product
    if wrap then fill (("value", value) :: holes) "$some($value)" else value

def existenceArg (holes : Holes) (kind : Primitive) (nullable : Bool) : List Token :=
  match kind, nullable with
  | .textSet, false => fill holes "$some(&value.iter().cloned().collect::<$texts>())"
  | .textSet, true =>
    fill holes "value.as_ref().map(|set| set.iter().cloned().collect::<$texts>()).as_ref()"
  | .byteSequence, false => fill holes "$some(value.as_slice())"
  | _, false => fill holes "$some(value.as_str())"
  | _, true => fill holes "value.as_deref()"

def writeStatement (holes : Holes) (borrowed : Bool) : Write → List Token
  | .scalar kind =>
    fill (withMethod holes "encode" kind)
      (if borrowed then "store.$method($key, *value);" else "store.$method($key, value);")
  | .existence kind nullable =>
    fill (("value", existenceArg holes kind nullable) :: withMethod holes "encode" kind)
      "store.$method($key, $value);"
  | .ordinal false => fill holes "store.encode_int($key, $rt::PrefEnum::ordinal(value));"
  | .ordinal true =>
    fill holes "store.encode_int($key, value.as_ref().map_or(-1, $rt::PrefEnum::ordinal));"
  | .marshal false => fill holes "$rt::marshal::encode(store, $key, $some(value));"
  | .marshal true => fill holes "$rt::marshal::encode(store, $key, value.as_ref());"
  | .nullableScalar .boolean =>
    fill holes "store.encode_int($key, $rt::nullable::encode_bool(*value));"
  | .nullableScalar .integer =>
    fill holes "store.encode_long($key, $rt::nullable::encode_int(*value));"
  | .nullableScalar kind =>
    fill (withMethod holes "encode" kind)
      "store.encode_bytes($key, $rt::nullable::$method(*value).as_deref());"

def convertStatement (holes : Holes) (call : EncodeCall) : List Token :=
  let arg :=
    match call.byRef, call.wrapSome with
    | true, false => "value"
    | false, false => "value.clone()"
    | true, true => "&$some(value.clone())"
    | false, true => "$some(value.clone())"
  fill [("path", call.path.tokens), ("arg", fill holes arg)] "let value = $path($arg);"

/-- The statements of an encode function. The value is borrowed until an encoder makes a new one. -/
def encodeStatements (holes : Holes) (borrowed : Bool) : List EncodeStep → List Token
  | [] => []
  | .convert call :: rest => convertStatement holes call ++ encodeStatements holes false rest
  | .write raw :: rest => writeStatement holes borrowed raw ++ encodeStatements holes borrowed rest

end TypedPreferences.Emission
