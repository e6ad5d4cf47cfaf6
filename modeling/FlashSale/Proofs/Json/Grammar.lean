import FlashSale.Json.Quoted

/-!
# The grammar of JSON

What a well-formed text is, said without a reader: numbers, strings, arrays and objects by
the characters that they are made of, with blanks between the parts. Values nest to any depth.

A string is well-formed by its characters and escapes alone. Whether it denotes a text is a
second question, for a surrogate denotes nothing without its partner. `ObjectText` is an object
with blanks around it, each member with the key that its string denotes, if there is one.
-/

namespace FlashSale.Json

/-- Blanks between the parts of a text, of the four kinds there are. -/
def IsBlanks (t : List Char) : Prop := ∀ c ∈ t, c ∈ [' ', '\t', '\n', '\r']

theorem isBlanks_nil : IsBlanks [] := nofun

/-- Digits, one at least. -/
def IsDigits (t : List Char) : Prop := t ≠ [] ∧ ∀ c ∈ t, c.isDigit = true

/-- A whole number without its sign; only zero begins with a zero. -/
inductive IsWhole : List Char → Prop where
  | zero : IsWhole ['0']
  | counting {t : List Char} (digits : IsDigits t) (first : t.head? ≠ some '0') : IsWhole t

/-- The fraction of a number, if there is one, with its point. -/
inductive IsFractionPart : List Char → Prop where
  | absent : IsFractionPart []
  | present {t : List Char} (digits : IsDigits t) : IsFractionPart ('.' :: t)

/-- The exponent of a number, if there is one, with its mark and perhaps a sign. -/
inductive IsExponentPart : List Char → Prop where
  | absent : IsExponentPart []
  | present {e : Char} {sign t : List Char} (mark : e = 'e' ∨ e = 'E')
      (signed : sign ∈ [[], ['+'], ['-']]) (digits : IsDigits t) : IsExponentPart (e :: (sign ++ t))

/-- A number: a minus sign perhaps, a whole number, a fraction and an exponent. -/
inductive IsNumber : List Char → Prop where
  | mk {sign whole fraction exponent : List Char} (signed : sign ∈ [[], ['-']])
      (isWhole : IsWhole whole) (isFraction : IsFractionPart fraction)
      (isExponent : IsExponentPart exponent) : IsNumber (sign ++ (whole ++ (fraction ++ exponent)))

/-- The characters that may follow a backslash, and what each of them stands for. -/
def shortEscapes : List (Char × Char) :=
  [('"', '"'), ('\\', '\\'), ('/', '/'), ('b', Char.ofNat 8), ('f', Char.ofNat 12), ('n', '\n'),
    ('r', '\r'), ('t', '\t')]

/-- The digits of a unit, in either case, and what each of them stands for. -/
def hexDigits : List (Char × Nat) :=
  [('0', 0), ('1', 1), ('2', 2), ('3', 3), ('4', 4), ('5', 5), ('6', 6), ('7', 7), ('8', 8),
    ('9', 9), ('a', 10), ('b', 11), ('c', 12), ('d', 13), ('e', 14), ('f', 15), ('A', 10),
    ('B', 11), ('C', 12), ('D', 13), ('E', 14), ('F', 15)]

/-- What stands in a string for one character or one unit. A control character, a quote
and a backslash must be escaped. -/
inductive IsPiece : List Char → Piece → Prop where
  | plain {c : Char} (visible : 32 ≤ c.toNat) (quote : c ≠ '"') (backslash : c ≠ '\\') :
      IsPiece [c] (.char c)
  | short {mark c : Char} (listed : (mark, c) ∈ shortEscapes) : IsPiece ['\\', mark] (.char c)
  | unit {a b c d : Char} {i j k l : Nat} (first : (a, i) ∈ hexDigits) (second : (b, j) ∈ hexDigits)
      (third : (c, k) ∈ hexDigits) (fourth : (d, l) ∈ hexDigits) :
      IsPiece ['\\', 'u', a, b, c, d] (.unit (((i * 16 + j) * 16 + k) * 16 + l))

/-- The inside of a string. -/
inductive IsInside : List Char → List Piece → Prop where
  | nil : IsInside [] []
  | cons {s t : List Char} {p : Piece} {ps : List Piece} (first : IsPiece s p)
      (rest : IsInside t ps) : IsInside (s ++ t) (p :: ps)

/-- The text that pieces denote. Two surrogates in a row are one character, and one alone is
none. -/
inductive Denotes : List Piece → List Char → Prop where
  | nil : Denotes [] []
  | char {c : Char} {ps : List Piece} {cs : List Char} (rest : Denotes ps cs) :
      Denotes (.char c :: ps) (c :: cs)
  | unit {n : Nat} {ps : List Piece} {cs : List Char} (plain : n < 0xd800 ∨ 0xdfff < n)
      (rest : Denotes ps cs) : Denotes (.unit n :: ps) (Char.ofNat n :: cs)
  | pair {n m : Nat} {ps : List Piece} {cs : List Char} (high : 0xd800 ≤ n ∧ n ≤ 0xdbff)
      (low : 0xdc00 ≤ m ∧ m ≤ 0xdfff) (rest : Denotes ps cs) :
      Denotes (.unit n :: .unit m :: ps)
        (Char.ofNat ((n - 0xd800) * 1024 + (m - 0xdc00) + 0x10000) :: cs)

/-- A string, with the quotes around its inside. -/
def quoted (inside : List Char) : List Char := '"' :: (inside ++ ['"'])

/-- An item of an array, with the blanks around it. -/
structure Item where
  before : List Char := []
  value : List Char
  after : List Char := []
  blank : IsBlanks before ∧ IsBlanks after

/-- A member of an object, with the blanks around its key and its value. -/
structure Member where
  beforeKey : List Char := []
  inside : List Char
  afterKey : List Char := []
  beforeValue : List Char := []
  value : List Char
  afterValue : List Char := []
  blank : IsBlanks beforeKey ∧ IsBlanks afterKey ∧ IsBlanks beforeValue ∧ IsBlanks afterValue
  pieces : List Piece
  spelled : IsInside inside pieces
  /-- The key, unless the string denotes no text. -/
  key : Option String
  named : ∀ k : String, key = some k ↔ Denotes pieces k.toList

def Item.text (i : Item) : List Char := i.before ++ (i.value ++ i.after)

def Member.text (m : Member) : List Char :=
  m.beforeKey ++ (quoted m.inside ++ (m.afterKey ++ ':' :: (m.beforeValue ++
    (m.value ++ m.afterValue))))

/-- Texts with commas between them. -/
def commas : List (List Char) → List Char
  | [] => []
  | [t] => t
  | t :: rest => t ++ ',' :: commas rest

inductive IsValue : List Char → Prop where
  | null : IsValue ['n', 'u', 'l', 'l']
  | true : IsValue ['t', 'r', 'u', 'e']
  | false : IsValue ['f', 'a', 'l', 's', 'e']
  | number {t : List Char} (formed : IsNumber t) : IsValue t
  | string {inside : List Char} {ps : List Piece} (spelled : IsInside inside ps) :
      IsValue (quoted inside)
  | emptyArray {blanks : List Char} (blank : IsBlanks blanks) : IsValue ('[' :: (blanks ++ [']']))
  | array {items : List Item} (given : items ≠ []) (formed : ∀ i ∈ items, IsValue i.value) :
      IsValue ('[' :: (commas (items.map Item.text) ++ [']']))
  | emptyObject {blanks : List Char} (blank : IsBlanks blanks) :
      IsValue ('{' :: (blanks ++ ['}']))
  | object {members : List Member} (given : members ≠ [])
      (formed : ∀ m ∈ members, IsValue m.value) :
      IsValue ('{' :: (commas (members.map Member.text) ++ ['}']))

/-- The text of an object, with blanks around it. -/
structure ObjectText where
  before : List Char := []
  members : List Member
  /-- What stands between the brackets of an object without members. -/
  inner : List Char := []
  after : List Char := []
  blank : IsBlanks before ∧ IsBlanks inner ∧ IsBlanks after
  formed : ∀ m ∈ members, IsValue m.value

namespace ObjectText

def core (o : ObjectText) : List Char :=
  match o.members with
  | [] => '{' :: (o.inner ++ ['}'])
  | members => '{' :: (commas (members.map Member.text) ++ ['}'])

def text (o : ObjectText) : String := String.ofList (o.before ++ (o.core ++ o.after))

/-- How often a key occurs. -/
def count (o : ObjectText) (name : String) : Nat := (o.members.map Member.key).count (some name)

/-- The text of the first value that is given under a key. -/
def value? (o : ObjectText) (name : String) : Option (List Char) :=
  (o.members.find? fun m => m.key = some name).map Member.value

end ObjectText

/-- The array of values whose texts are given. -/
def arrayText (values : List (List Char)) : String :=
  String.ofList ('[' :: (commas values ++ [']']))

end FlashSale.Json
