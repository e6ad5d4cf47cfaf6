import FlashSale.Error
import FlashSale.KeyValue.Url
import FlashSale.Text.Number

/-!
# The address of a key-value server

An address is a URL. Its scheme says whether the server is found by a host and a
port or by the path of a socket; the number of a database and the version of the
protocol may be added. Of several faults the first in the order below is reported.
-/

namespace FlashSale.KeyValue

inductive Endpoint where
  | host (name : String) (port : UInt16)
  | socket (path : String)
deriving DecidableEq, Repr

inductive Protocol where
  | second
  | third
deriving DecidableEq, Repr

structure Address where
  endpoint : Endpoint
  database : Int
  protocol : Protocol
deriving DecidableEq, Repr

namespace Address

/-- Why a text is not the address of a server that can be used. -/
inductive Fault where
  /-- The text is no URL, or its scheme is of another service. -/
  | unreadable
  | hostMissing
  | pathMissing
  /-- The scheme asks for encryption. -/
  | encryption
  | databaseInvalid
  | protocolUnknown (name : String)
deriving DecidableEq, Repr

def Fault.message : Fault → String
  | unreadable => "Redis URL did not parse- InvalidClientConfig"
  | hostMissing => "Missing hostname- InvalidClientConfig"
  | pathMissing => "Missing path- InvalidClientConfig"
  | encryption => "can't connect with TLS, the feature is not enabled- InvalidClientConfig"
  | databaseInvalid => "Invalid database number- InvalidClientConfig"
  | protocolUnknown name => "Invalid protocol version - InvalidClientConfig: " ++ name

def protocolOf (u : Url) : Except Fault Protocol :=
  match u.queryValue? "protocol" with
  | none => .ok .second
  | some name =>
    if name = "2" ∨ name = "resp2" then .ok .second
    else if name = "3" ∨ name = "resp3" then .ok .third
    else .error (.protocolUnknown name)

/-- The number of a database; none is number zero. -/
def databaseOf (text : String) : Except Fault Int :=
  if text = "" then .ok 0 else (Number.integer text).mapError fun _ => .databaseInvalid

/-- A text without slashes around it. -/
def trimSlashes (cs : List Char) : List Char :=
  ((cs.dropWhile (· == '/')).reverse.dropWhile (· == '/')).reverse

/-- A server found by its host; the path is the number of a database. -/
def ofHostUrl (u : Url) (encrypted : Bool) : Except Fault Address := do
  if u.host = [] then .error .hostMissing
  else if encrypted then .error .encryption
  else
    let database ← databaseOf (String.ofList (trimSlashes u.path))
    let protocol ← protocolOf u
    return { endpoint := .host (String.ofList u.host) (u.port.getD 6379), database, protocol }

/-- A server found by a socket on this machine; the query may name a database. -/
def ofSocketUrl (u : Url) : Except Fault Address := do
  if u.path.head? ≠ some '/' ∨ (u.host ≠ [] ∧ u.host ≠ "localhost".toList) then .error .pathMissing
  else
    let database ←
      match u.queryValue? "db" with
      | none => .ok 0
      | some text => (Number.integer text).mapError fun _ => Fault.databaseInvalid
    let protocol ← protocolOf u
    return { endpoint := .socket (String.ofList u.path), database, protocol }

def ofString (s : String) : Except Fault Address :=
  match Url.ofString? s with
  | none => .error .unreadable
  | some u =>
    match String.ofList u.scheme with
    | "redis" => ofHostUrl u false
    | "rediss" => ofHostUrl u true
    | "unix" => ofSocketUrl u
    | "redis+unix" => ofSocketUrl u
    | _ => .error .unreadable

/-- The address to connect to; without one the store cannot be reached. -/
def resolve (s : String) : Except StoreError Address :=
  (ofString s).mapError fun fault => .unavailable ("open redis client: " ++ fault.message)

example : (ofString "redis://127.0.0.1:6379/2").toOption =
    some ⟨.host "127.0.0.1" 6379, 2, .second⟩ := by decide +kernel

example : (ofString "redis://h:99999").toOption = none := by decide +kernel

end Address

end FlashSale.KeyValue
