/-! Why a generation fails, and how it is told. Every fault about a field names its declaration and
the field. -/

namespace TypedPreferences

/-- What is wrong with a declaration as a whole. -/
inductive Defect where
  | generic
  | unnamedFields
deriving DecidableEq, Repr

def Defect.message : Defect → String
  | generic => "Generic preferences declarations are not supported"
  | unnamedFields => "Preferences declarations require named fields"

/-- Why a source is not read: it has no proper form, or an option of an attribute is unknown. -/
inductive SourceFault where
  | malformed
  | unknownOption (group : String)
deriving DecidableEq, Repr

inductive FileFault where
  | notFound
  | notDirectory
  | isDirectory
  | alreadyThere
  | notText
deriving DecidableEq, Repr

def FileFault.message : FileFault → String
  | notFound => "No such file or directory (os error 2)"
  | notDirectory => "Not a directory (os error 20)"
  | isDirectory => "Is a directory (os error 21)"
  | alreadyThere => "File exists (os error 17)"
  | notText => "stream did not contain valid UTF-8"

inductive ConfigFault where
  | outputUnset
  | runtimePath (text : String)
deriving DecidableEq, Repr

inductive Fault where
  | vararg (declaration field : String)
  | missingDefault (declaration field : String)
  | unresolvedType (declaration field type : String)
  | unsupportedType (declaration field type : String)
  | borrowedField (declaration field type : String)
  | unsupportedConverterType (declaration field converter type : String)
  | nullableConverterType (declaration field converter type : String)
  | duplicateField (declaration field : String)
  | invalidDeclaration (declaration : String) (defect : Defect)
  | parse (path : String) (cause : SourceFault)
  | format (declaration : String)
  | file (path : String) (cause : FileFault)
  | config (cause : ConfigFault)
deriving DecidableEq, Repr

def ConfigFault.message : ConfigFault → String
  | outputUnset => "OUT_DIR is not set"
  | runtimePath text => "runtime crate path '" ++ text ++ "'"

def SourceFault.message? : SourceFault → Option String
  | malformed => none
  | unknownOption name => some ("Unsupported #[" ++ name ++ "(...)] option")

namespace Fault

def about (declaration text : String) : String :=
  "[" ++ declaration ++ "] " ++ text

/-- The wording of a fault. The causes that other programs word are left out, and so is the kind of
a configuration fault. -/
def message? : Fault → Option String
  | vararg d f =>
    about d ("Vararg is not supported for property '" ++ f ++
      "', consider replacing it with a supported one.")
  | missingDefault d f =>
    about d ("Property '" ++ f ++
      "' must have a default value, consider adding #[pref(default = ...)] to it.")
  | unresolvedType d f t =>
    about d ("Cannot find actual declaration of the type '" ++ t ++ "' for property '" ++ f ++
      "', this may be due to the type is not supported, " ++
      "consider replacing it with a supported one.")
  | unsupportedType d f t =>
    about d ("Unsupported type '" ++ t ++ "' for property '" ++ f ++
      "', consider replacing it with a supported one or creating a type converter.")
  | borrowedField d f t =>
    about d ("Property '" ++ f ++ "' is a borrowed type '" ++ t ++
      "', consider replacing it with an owned one.")
  | unsupportedConverterType d f c t =>
    about d ("Unsupported type '" ++ t ++ "' for type converter '" ++ c ++
      "' used by property '" ++ f ++
      "', consider replacing it with a supported one.")
  | nullableConverterType d f c t =>
    about d ("The return type '" ++ t ++ "' of the type converter '" ++ c ++
      "' used by property '" ++ f ++
      "' must not be nullable, only bytes, text and text sets may be; " ++
      "consider replacing it with a supported one.")
  | duplicateField d f => about d ("Property '" ++ f ++ "' is declared more than once")
  | invalidDeclaration d defect => about d defect.message
  | parse path cause => cause.message?.map fun text => "Failed to parse " ++ path ++ ": " ++ text
  | format _ => none
  | file path cause => "I/O error on " ++ path ++ ": " ++ cause.message
  | config cause => cause.message

end Fault

end TypedPreferences
