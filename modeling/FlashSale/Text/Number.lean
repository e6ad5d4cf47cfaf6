import FlashSale.Text.Digits

/-!
# Reading numbers

A number is digits with an optional plus sign; a signed one may have a minus sign
instead. Digits are read from the left and reading stops at the first fault: a
character that is no digit, or a digit with which the number leaves its range.
-/

namespace FlashSale

/-- Why a text is not a number in a range. -/
inductive NumberError where
  | empty
  | invalidDigit
  | tooLarge
  | tooSmall
  | outside (value least greatest : Int)
deriving DecidableEq, Repr

def NumberError.message : NumberError → String
  | empty => "cannot parse integer from empty string"
  | invalidDigit => "invalid digit found in string"
  | tooLarge => "number too large to fit in target type"
  | tooSmall => "number too small to fit in target type"
  | outside value least greatest => s!"{value} is not in {least}..={greatest}"

namespace Number

/-- Reads digits on from a number that must not exceed `limit`. -/
def digits (limit : Nat) (excess : NumberError) : Nat → List Char → Except NumberError Nat
  | n, [] => .ok n
  | n, c :: cs =>
    match Digits.digit? 10 c with
    | none => .error .invalidDigit
    | some d => if limit < n * 10 + d then .error excess else digits limit excess (n * 10 + d) cs

/-- Reads the digits after a sign. -/
def afterSign (limit : Nat) (excess : NumberError) : List Char → Except NumberError Nat
  | [] => .error .invalidDigit
  | cs => digits limit excess 0 cs

/-- Reads a natural number up to `limit`. -/
def natural (limit : Nat) (s : String) : Except NumberError Nat :=
  match s.toList with
  | [] => .error .empty
  | '+' :: cs => afterSign limit .tooLarge cs
  | cs => digits limit .tooLarge 0 cs

/-- Reads an integer of 64 bits. -/
def integer (s : String) : Except NumberError Int :=
  match s.toList with
  | [] => .error .empty
  | '+' :: cs => (afterSign 9223372036854775807 .tooLarge cs).map fun n => (n : Int)
  | '-' :: cs => (afterSign 9223372036854775808 .tooSmall cs).map fun n => -(n : Int)
  | cs => (digits 9223372036854775807 .tooLarge 0 cs).map fun n => (n : Int)

/-- Reads an integer of 64 bits that lies between two bounds. -/
def between (least greatest : Int) (s : String) : Except NumberError Int := do
  let n ← integer s
  if least ≤ n ∧ n ≤ greatest then .ok n else .error (.outside n least greatest)

end Number

end FlashSale
