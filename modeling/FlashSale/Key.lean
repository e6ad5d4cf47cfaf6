/-!
# Keys of the reservation store

Stock counters and request markers share one key space. The two prefixes keep
them apart, because no text begins with both.
-/

namespace FlashSale

def stockKeyPrefix : String := "stock:"

def idempotencyKeyPrefix : String := "idempotency:"

/-- The key of the stock counter of an item. -/
def stockKey (itemId : String) : String := stockKeyPrefix ++ itemId

/-- The key of the marker of a request. -/
def idempotencyKey (requestId : String) : String := idempotencyKeyPrefix ++ requestId

end FlashSale
