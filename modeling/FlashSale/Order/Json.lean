import FlashSale.Json.Record
import FlashSale.Order.Basic

/-!
# Orders and inventory in JSON

The JSON records of an order and of an inventory have the fields of the types
they stand for, in the same order, and none of them has a default. A status is its
name; an object with the name as its only key and no value is read as well.
-/

namespace FlashSale

open Json

namespace OrderStatus

def toJson (s : OrderStatus) : List Char := quote s.name

/-- The status of a name, `none` for any other text. -/
def ofName (name : String) : Option OrderStatus := (ofName? name).toOption

def ofValue? : Value → Option OrderStatus
  | .string content => content.bind ofName
  | .object [(key, .null)] => key.bind ofName
  | _ => none

def ofJson? (text : String) : Option OrderStatus := (Value.ofString? text).bind ofValue?

end OrderStatus

/-- A moment as a quoted text. -/
def Timestamp.toJson (t : Timestamp) : List Char := quote t.toString

def Uuid.toJson (u : Uuid) : List Char := quote u.toString

namespace Order

def fieldNames : List String :=
  ["id", "user_id", "item_id", "quantity", "status", "created_at", "updated_at"]

def toJson (o : Order) : String :=
  record <| fieldNames.zip
    [o.id.toJson, quote o.userId, quote o.itemId, Digits.ofInt o.quantity.toInt, o.status.toJson,
      o.createdAt.toJson, o.updatedAt.toJson]

/-- An order from the values of its fields. -/
def ofFields? : List (Option Value) → Option Order
  | [id, userId, itemId, quantity, status, createdAt, updatedAt] => do
    some
      { id := ← required Value.uuid? id
        userId := ← required Value.string? userId
        itemId := ← required Value.string? itemId
        quantity := ← required Value.word32? quantity
        status := ← required OrderStatus.ofValue? status
        createdAt := ← required Value.timestamp? createdAt
        updatedAt := ← required Value.timestamp? updatedAt }
  | _ => none

def ofValue? (v : Value) : Option Order := (v.fields? fieldNames).bind ofFields?

def ofJson? (text : String) : Option Order := (Value.ofString? text).bind ofValue?

end Order

namespace Inventory

def fieldNames : List String := ["item_id", "quantity", "version", "created_at", "updated_at"]

def toJson (i : Inventory) : String :=
  record <| fieldNames.zip
    [quote i.itemId, Digits.ofInt i.quantity.toInt, Digits.ofInt i.version.toInt,
      i.createdAt.toJson, i.updatedAt.toJson]

/-- An inventory from the values of its fields. -/
def ofFields? : List (Option Value) → Option Inventory
  | [itemId, quantity, version, createdAt, updatedAt] => do
    some
      { itemId := ← required Value.string? itemId
        quantity := ← required Value.word32? quantity
        version := ← required Value.word32? version
        createdAt := ← required Value.timestamp? createdAt
        updatedAt := ← required Value.timestamp? updatedAt }
  | _ => none

def ofValue? (v : Value) : Option Inventory := (v.fields? fieldNames).bind ofFields?

def ofJson? (text : String) : Option Inventory := (Value.ofString? text).bind ofValue?

end Inventory

end FlashSale
