import FlashSale.Json.Value
import FlashSale.Timestamp.Text
import FlashSale.Uuid
import FlashSale.Word

/-!
# Records in JSON

A record has named fields in a fixed order. It is written as an object without
blanks. It may be given as an object, in any order and with members that are none
of its fields, or as an array of its fields in order. A field that is given twice
is an error; a field that is not given is left to the reader of the record, who
knows whether it has a default.
-/

namespace FlashSale.Json

/-- The members of an object, each already written. -/
def members : List (String × List Char) → List Char
  | [] => []
  | [(key, value)] => quote key ++ ':' :: value
  | (key, value) :: rest => quote key ++ ':' :: (value ++ ',' :: members rest)

/-- A record, its field values already written. -/
def record (fields : List (String × List Char)) : String :=
  String.ofList ('{' :: (members fields ++ ['}']))

/-- A truth value. -/
def truth (b : Bool) : List Char := (if b then "true" else "false").toList

/-- The values of the named fields, `none` for one that is not given. -/
def Value.fields? (names : List String) : Value → Option (List (Option Value))
  | .array items =>
    if items.length ≤ names.length then
      some (items.map some ++ List.replicate (names.length - items.length) none)
    else none
  | .object members => do
    let members ← members.mapM fun (key, value) => key.map fun key => (key, value)
    if names.all fun name => (members.filter fun m => m.1 = name).length ≤ 1 then
      some (names.map fun name => members.lookup name)
    else none
  | _ => none

def Value.string? : Value → Option String
  | .string content => content
  | _ => none

def Value.bool? : Value → Option Bool
  | .bool b => some b
  | _ => none

def Value.int? : Value → Option Int
  | .number n => n
  | _ => none

def Value.word32? (v : Value) : Option Int32 := v.int?.bind FlashSale.word32?

def Value.size64? (v : Value) : Option UInt64 := v.int?.bind FlashSale.size64?

def Value.uuid? (v : Value) : Option Uuid := v.string?.bind Uuid.ofString?

def Value.timestamp? (v : Value) : Option Timestamp := v.string?.bind Timestamp.ofString?

/-- A field that must be given. -/
def required {α : Type} (read : Value → Option α) (field : Option Value) : Option α :=
  field.bind read

/-- A field with a default. -/
def optional {α : Type} (default : α) (read : Value → Option α) : Option Value → Option α
  | none => some default
  | some v => read v

/-- A value that may be `null`. -/
def nullable {α : Type} (read : Value → Option α) : Value → Option (Option α)
  | .null => some none
  | v => (read v).map some

end FlashSale.Json
