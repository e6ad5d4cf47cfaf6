import FlashSale.Text.Escape
import FlashSale.Text.Number
import FlashSale.Word

/-!
# Replies of a key-value server

A reply is a status, an error, an integer, a string, or an array of replies. An
error has a code and may have a detail; the codes that are known have a name.

A reply may be wanted as an integer: an integer is one, and so is a string of
digits. An integer of 64 bits is cut down to its low 32 bits if fewer are wanted,
while a string that needs more is none.
-/

namespace FlashSale.KeyValue

/-- An error that the server replied with. -/
structure ServerError where
  code : String
  detail : Option String
deriving DecidableEq, Repr

inductive Reply where
  | nothing
  | integer (n : Int64)
  /-- The status of a command that was carried out. -/
  | done
  | status (line : String)
  | string (content : String)
  | array (items : List Reply)
  | error (e : ServerError)
deriving Repr

namespace ServerError

/-- The names of the codes that are known. -/
def names : List (String × String) :=
  [("ERR", "ResponseError"), ("EXECABORT", "ExecAbortError"), ("LOADING", "BusyLoadingError"),
    ("NOSCRIPT", "NoScriptError"), ("MOVED", "Moved"), ("ASK", "Ask"), ("TRYAGAIN", "TryAgain"),
    ("CLUSTERDOWN", "ClusterDown"), ("CROSSSLOT", "CrossSlot"), ("MASTERDOWN", "MasterDown"),
    ("READONLY", "ReadOnly"), ("NOTBUSY", "NotBusy")]

def message (e : ServerError) : String :=
  match names.lookup e.code, e.detail with
  | some name, some detail => "An error was signalled by the server - " ++ name ++ ": " ++ detail
  | some name, none => "An error was signalled by the server- " ++ name
  | none, some detail => e.code ++ ": " ++ detail
  | none, none => e.code ++ ": Unknown extension error encountered"

/-- Whether the server does not have the script that was to be run. -/
def scriptMissing (e : ServerError) : Bool := e.code = "NOSCRIPT"

end ServerError

/-- What a reply was wanted as, and is not. -/
inductive Wanted where
  /-- A number; the reply is no string either. -/
  | number
  /-- A number; the reply is a string of something else. -/
  | digits
  | text
deriving DecidableEq, Repr

def Wanted.phrase : Wanted → String
  | number => "Response type not convertible to numeric."
  | digits => "Could not convert from string."
  | text => "Response type not string compatible."

namespace Reply

mutual

/-- The first error in a reply. -/
def error? : Reply → Option ServerError
  | error e => some e
  | array items => errorIn? items
  | _ => none

def errorIn? : List Reply → Option ServerError
  | [] => none
  | r :: rest => r.error?.or (errorIn? rest)

end

mutual

/-- A reply as messages show it. -/
def description : Reply → String
  | nothing => "nil"
  | integer n => "int(" ++ toString n ++ ")"
  | done => "ok"
  | status line => "simple-string(" ++ escaped line ++ ")"
  | string content => "bulk-string('" ++ escaped content ++ "')"
  | array items => "array([" ++ String.intercalate ", " (descriptions items) ++ "])"
  | error e => e.message

def descriptions : List Reply → List String
  | [] => []
  | r :: rest => r.description :: descriptions rest

end

end Reply

/-- Why a call failed. -/
inductive Error where
  | server (e : ServerError)
  | mismatch (wanted : Wanted) (reply : Reply)

def Error.message : Error → String
  | server e => e.message
  | mismatch wanted reply =>
    "Response was of incompatible type - TypeError: \"" ++ wanted.phrase ++ "\" (response was " ++
      reply.description ++ ")"

namespace Reply

/-- The string in a reply, if it is one. -/
def string? : Reply → Option String
  | status line => some line
  | string content => some content
  | _ => none

/-- A reply as an integer: `cut` makes one of an integer and `fit` one of a string. -/
def toWord {α : Type} (cut : Int64 → α) (fit : Int → Option α) (r : Reply) : Except Error α :=
  match r with
  | integer n => .ok (cut n)
  | _ =>
    match r.string? with
    | none => .error (.mismatch .number r)
    | some s =>
      match (Number.integer s).toOption.bind fit with
      | some w => .ok w
      | none => .error (.mismatch .digits r)

def toWord64 (r : Reply) : Except Error Int64 := r.toWord id word64?

def toWord32 (r : Reply) : Except Error Int32 := r.toWord Int64.toInt32 word32?

/-- Whether the reply is anything, given that it is nothing or stands for a text. -/
def isGiven : Reply → Except Error Bool
  | nothing => .ok false
  | array items => .error (.mismatch .text (.array items))
  | _ => .ok true

end Reply

end FlashSale.KeyValue
