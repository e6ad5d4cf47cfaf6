/-!
# Order status

Every order has one of three states. The name of a state is the text stored in
rows and exchanged with clients; the spelling is exact, in lower case.
-/

namespace FlashSale

inductive OrderStatus where
  | pending
  | confirmed
  | cancelled
deriving DecidableEq, Repr

/-- The name of no order status. -/
structure UnknownStatus where
  name : String
deriving DecidableEq, Repr

def UnknownStatus.message (e : UnknownStatus) : String := "unknown order status: " ++ e.name

namespace OrderStatus

def name : OrderStatus → String
  | pending => "pending"
  | confirmed => "confirmed"
  | cancelled => "cancelled"

instance : ToString OrderStatus := ⟨name⟩

/-- The capitalised form, for diagnostics. -/
def title : OrderStatus → String
  | pending => "Pending"
  | confirmed => "Confirmed"
  | cancelled => "Cancelled"

def ofName? (text : String) : Except UnknownStatus OrderStatus :=
  if text = "pending" then .ok pending
  else if text = "confirmed" then .ok confirmed
  else if text = "cancelled" then .ok cancelled
  else .error ⟨text⟩

@[simp] theorem ofName?_name (s : OrderStatus) : ofName? s.name = .ok s := by
  cases s <;> simp [ofName?, name]

end OrderStatus

end FlashSale
