import WrapperTypings.Catalog.Basic
import WrapperTypings.Catalog.TypeToken

set_option autoImplicit false

namespace WrapperTypings

def Parameter.render (parameter : Parameter) : String :=
  parameter.name ++ ": " ++ TypeToken.typeExpression parameter.token ++
    (if TypeToken.isOptional parameter.token then " | null" else "")

/-- The parameters in order. If a selector follows, a trailing separator is kept for it. -/
def Parameter.renderAll (parameters : List Parameter) (beforeSelector : Bool) : String :=
  let rendered := Text.join ", " (parameters.map Parameter.render)
  if beforeSelector && !parameters.isEmpty then rendered ++ ", " else rendered

namespace Signature

def binarySelector : String := "outputFormat?: Uint8ArrayOutputFormat | null"

def stringSelector : String := "outputFormat: StringOutputFormat"

def anySelector : String := "outputFormat?: Uint8ArrayOutputFormat | StringOutputFormat | null"

def line (name parameters selector returnType : String) : String :=
  "  function " ++ name ++ "(" ++ parameters ++ selector ++ "): " ++ returnType ++ ";"

end Signature

def Symbol.signatures (symbol : Symbol) : List String :=
  let selectable := ReturnShape.hasSelector symbol.returnExpression symbol.shape
  let parameters := Parameter.renderAll symbol.inputs selectable
  match symbol.shape with
  | .paired binary string =>
      [Signature.line symbol.name parameters Signature.binarySelector binary,
        Signature.line symbol.name parameters Signature.stringSelector string]
  | shape => shape.typeName?.toList.map
      (Signature.line symbol.name parameters (if selectable then Signature.anySelector else ""))

end WrapperTypings
