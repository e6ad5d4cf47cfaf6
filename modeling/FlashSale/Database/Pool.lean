/-!
# Connections to a database

Connections are kept open in a pool. A pool has room for at least one.
-/

namespace FlashSale.Database

structure Pool where
  size : Nat
  size_pos : 0 < size

def Pool.ofSize? (size : Nat) : Option Pool :=
  if h : 0 < size then some ⟨size, h⟩ else none

end FlashSale.Database
