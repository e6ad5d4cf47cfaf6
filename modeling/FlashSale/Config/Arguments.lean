import FlashSale.Config.Setting

/-!
# A configuration as arguments

The command line that gives each setting of a configuration its value, all in the
form `--name=value`, so that a value may begin with a hyphen. A setting that is unset
is left out.
-/

namespace FlashSale.Config

def naturalText (n : Nat) : String := String.ofList (Digits.ofNat 10 n)

def integerText (n : Int) : String := String.ofList (Digits.ofInt n)

/-- The text of the value that a setting has, if it has one. -/
def valueText? (c : Config) : Setting → Option String
  | .databaseUrl => some c.databaseUrl
  | .redisUrl => some c.redisUrl
  | .port => some (naturalText c.port.toNat)
  | .workerCount => some (naturalText c.workerCount.toNat)
  | .queueCapacity => some (naturalText c.queueCapacity.toNat)
  | .commitTimeoutMs => some (naturalText c.commitTimeoutMs.toNat)
  | .idempotencyTtlSecs => some (naturalText c.idempotencyTtlSecs.toNat)
  | .dbPoolSize => some (naturalText c.dbPoolSize.toNat)
  | .seedItem => c.seedItem
  | .seedStock => c.seedStock.map fun stock => integerText stock.toInt

/-- The argument that gives a setting a value. -/
def argument (s : Setting) (value : String) : String := "--" ++ s.name ++ "=" ++ value

def arguments (c : Config) : List String :=
  Setting.all.filterMap fun s => (c.valueText? s).map (argument s)

end FlashSale.Config
