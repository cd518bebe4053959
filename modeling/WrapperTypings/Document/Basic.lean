import WrapperTypings.Catalog.Declarations
import WrapperTypings.Document.Signature
import WrapperTypings.Variant

set_option autoImplicit false

/-! The declaration document of a catalog, as a list of lines: three comment lines, the module's
opening, the aliases, enumerations and records, the constants, the functions, and the closing
brace. Its text is the lines with newlines between them. -/

namespace WrapperTypings.Document

structure Options where
  moduleBase : String := "libsodium-wrappers"
  projectUrl : String := "https://github.com/jedisct1/libsodium.js"
  definitionsBy : String := "Florian Keller <https://github.com/ffflorian>"
  deriving DecidableEq, Repr, Inhabited

structure Fault where
  name : String
  deriving DecidableEq, Repr

def headerLines (version : String) (variant : Variant) (options : Options) : List String :=
  let moduleName := variant.moduleName options.moduleBase
  ["// Type definitions for " ++ moduleName ++ " " ++ version,
    "// Project: " ++ options.projectUrl,
    "// Definitions by: " ++ options.definitionsBy,
    "",
    "declare module '" ++ moduleName ++ "' \x7b"]

def memberText (name : String) : Json → Except Fault String
  | .string member => .ok member
  | _ => .error ⟨name⟩

/-- An alias is the union of its members, which must be text. -/
def aliasLine (entry : String × List Json) : Except Fault String := do
  let members ← entry.2.mapM (memberText entry.1)
  .ok ("  type " ++ entry.1 ++ " = " ++ Text.join " | " members ++ ";")

def enumerationLines (entry : String × List Json) : List String :=
  ("  enum " ++ entry.1 ++ " \x7b") ::
    entry.2.map (fun member => "    " ++ member.display ++ ",") ++ ["  \x7d", ""]

def recordLines (entry : String × List RecordField) : List String :=
  ("  interface " ++ entry.1 ++ " \x7b") ::
    entry.2.map (fun field => "    " ++ field.name ++ ": " ++ field.type ++ ";") ++
    ["  \x7d", ""]

def constantLine (constant : Constant) : String :=
  "  const " ++ constant.name ++ ": " ++ TypeToken.typeExpression constant.token ++ ";"

def declarationLines (declarations : Declarations) : Except Fault (List String) := do
  let aliases ← declarations.aliases.mapM aliasLine
  .ok (aliases ++ [""] ++ declarations.enumerations.flatMap enumerationLines ++
    declarations.records.flatMap recordLines)

def constantLines (catalog : Catalog) (excluded : List String) (variant : Variant) :
    List String :=
  (variant.select Constant.name excluded catalog.constants).map constantLine

def functionLines (catalog : Catalog) (excluded : List String) (variant : Variant) :
    List String :=
  (variant.select Symbol.name excluded catalog.symbols).flatMap Symbol.signatures

def lines (catalog : Catalog) (declarations : Declarations) (variant : Variant)
    (excluded : List String) (options : Options) : Except Fault (List String) := do
  let declared ← declarationLines declarations
  .ok (headerLines catalog.version variant options ++ declared ++
    constantLines catalog excluded variant ++ [""] ++
    functionLines catalog excluded variant ++ ["\x7d"])

def render (catalog : Catalog) (declarations : Declarations) (variant : Variant)
    (excluded : List String) (options : Options) : Except Fault String :=
  (lines catalog declarations variant excluded options).map (Text.join "\n")

end WrapperTypings.Document
