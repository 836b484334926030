import Lockstep.Register.State

namespace Lockstep

namespace Field

/-- Reads one field. A well-formed field of a name that is no register gives nothing, and its
value is not looked at. -/
def parse (text : List Char) : Except FieldError (Option (Register × Word)) :=
  let field := Text.trim text
  let malformed := FieldError.malformed (String.ofList field)
  match field.dropWhile (· != ':') with
  | [] => .error malformed
  | _ :: behind =>
    let name := Text.trim (field.takeWhile (· != ':'))
    let value := Text.trim behind
    if name.isEmpty || value.isEmpty || value.contains ':' then .error malformed
    else match Register.ofName? name with
      | none => .ok none
      | some register => (Word.parse value).map fun word ↦ some (register, word)

end Field

namespace Update

def addField (update : Update) (text : List Char) : Except FieldError Update :=
  (Field.parse text).map fun
    | some (register, value) => update.write register value
    | none => update

def ofFields (fields : List (List Char)) : Except FieldError Update :=
  fields.foldlM addField empty

end Update

namespace Registers

def mergeFields (fields : List (List Char)) : Attempt FieldError Registers Unit :=
  merge (Update.ofFields fields)

/-- Reads fields that white space separates; registers without a field are zero. -/
def parse (text : String) : Except FieldError Registers :=
  let (result, registers) := mergeFields (Text.words text.toList) zero
  result.map fun _ ↦ registers

end Registers

end Lockstep
