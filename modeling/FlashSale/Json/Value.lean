import FlashSale.Json.Token

/-!
# Values of JSON

A value is put together from tokens one at a time. What is open at any moment is a
stack of arrays and objects, so values may nest to any depth. A text denotes a
value if nothing is open at its end and nothing follows the value.

Members of an object keep their order, and a key may occur any number of times.
-/

namespace FlashSale.Json

inductive Value where
  | null
  | bool (b : Bool)
  /-- A number, with its value if it is a whole one. -/
  | number (value : Option Int)
  /-- A string, with the text it denotes, if any. -/
  | string (content : Option String)
  | array (items : List Value)
  | object (members : List (Option String × Value))

/-- An array or object of which a part has been read; the last part comes first. -/
inductive Frame where
  | array (items : List Value)
  | object (members : List (Option String × Value)) (key : Option String)

/-- What may come next. -/
inductive Need where
  | value
  /-- The first item of an array, or its end. -/
  | firstItem
  /-- The first key of an object, or its end. -/
  | firstKey
  | key
  | colon
  /-- Another item or member, or the end of what is open. -/
  | more

/-- What has been read of a value. -/
inductive Builder where
  | reading (stack : List Frame) (need : Need)
  | complete (v : Value)

namespace Builder

/-- A value is complete: it goes into what is open, or it is the whole. -/
def give (stack : List Frame) (v : Value) : Builder :=
  match stack with
  | [] => complete v
  | .array items :: stack => reading (.array (v :: items) :: stack) .more
  | .object members key :: stack => reading (.object ((key, v) :: members) none :: stack) .more

/-- The token begins a value. -/
def beginValue (stack : List Frame) : Token → Option Builder
  | .null => some (give stack .null)
  | .bool b => some (give stack (.bool b))
  | .number n => some (give stack (.number n))
  | .string s => some (give stack (.string s))
  | .openArray => some (reading (.array [] :: stack) .firstItem)
  | .openObject => some (reading (.object [] none :: stack) .firstKey)
  | _ => none

/-- The token is the key of a member. -/
def beginMember (stack : List Frame) : Token → Option Builder
  | .string key =>
    match stack with
    | .object members _ :: stack => some (reading (.object members key :: stack) .colon)
    | _ => none
  | _ => none

/-- The token ends what is open. -/
def close (stack : List Frame) : Token → Option Builder
  | .closeArray =>
    match stack with
    | .array items :: stack => some (give stack (.array items.reverse))
    | _ => none
  | .closeObject =>
    match stack with
    | .object members _ :: stack => some (give stack (.object members.reverse))
    | _ => none
  | _ => none

/-- The token goes on with what is open, or ends it. -/
def goOn (stack : List Frame) (t : Token) : Option Builder :=
  match t, stack with
  | .comma, .array _ :: _ => some (reading stack .value)
  | .comma, .object _ _ :: _ => some (reading stack .key)
  | _, _ => close stack t

def read (b : Builder) (t : Token) : Option Builder :=
  match b with
  | complete _ => none
  | reading stack need =>
    match need with
    | .value => beginValue stack t
    | .firstItem => if t = .closeArray then close stack t else beginValue stack t
    | .firstKey => if t = .closeObject then close stack t else beginMember stack t
    | .key => beginMember stack t
    | .colon => if t = .colon then some (reading stack .value) else none
    | .more => goOn stack t

end Builder

/-- The value that the tokens denote. -/
def Value.ofTokens? (ts : List Token) : Option Value :=
  match ts.foldlM Builder.read (.reading [] .value) with
  | some (.complete v) => some v
  | _ => none

/-- The value that a text denotes, with blanks around it at most. -/
def Value.ofText? (text : Text) : Option Value := (tokens? text).bind ofTokens?

def Value.ofString? (s : String) : Option Value := ofText? (s.toList.map some)

end FlashSale.Json
