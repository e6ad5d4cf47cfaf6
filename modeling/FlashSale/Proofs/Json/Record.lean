import FlashSale.Json.Record
import FlashSale.Proofs.Json.Quoted
import FlashSale.Proofs.Text.Digits
import Mathlib.Data.List.Nodup
import Mathlib.Data.List.TakeWhile

/-!
# Reading records

A record that was written is read as an object with its fields, in their order. What it is
written with follows the fields one by one, and so does the reader: a quoted key, a colon,
one token for the value, and a comma before the next key.

A number and a word end where the mark after them begins; the mark is read for itself then.
-/

namespace FlashSale.Json

/-- The characters are read as the token, if a mark of an object comes after them. A
number has no end of its own, which is why the mark matters. -/
def Spells (text : List Char) (t : Token) : Prop :=
  ∀ tokens mark, mark ∈ [',', ':', '}'] →
    ((text ++ [mark]).map some).foldlM Lexer.read { tokens } =
      ({ tokens := t :: tokens } : Lexer).start mark

/-- A value that is written as one token. It carries the proof that it is read back, so
that a record of atoms needs none for its members. -/
structure Atom where
  text : List Char
  token : Token
  value : Value
  spells : Spells text token
  begins : ∀ stack, Builder.beginValue stack token = some (Builder.give stack value)

theorem spells_quote (s : String) : Spells (quote s) (.string (some s)) := by
  intro tokens mark _
  simp only [List.map_append, List.map_cons, List.map_nil, List.foldlM_append,
    Lexer.read_quote, Option.bind_eq_bind, Option.bind_some, List.foldlM_cons, List.foldlM_nil]
  exact Option.bind_fun_some _

theorem spells_truth (b : Bool) : Spells (truth b) (.bool b) := by
  intro tokens mark marks
  simp only [List.mem_cons, List.not_mem_nil, or_false] at marks
  cases b <;> rcases marks with rfl | rfl | rfl <;> rfl

namespace Lexer

variable {tokens : List Token}

/-- The character may begin a number, and go on with it. It is none of the marks, no
space and no part of a word. -/
structure InNumber (c : Char) : Prop where
  goesOn : isNumberChar c = true
  begins : (c.isDigit || c == '-') = true
  space : isSpace c = false
  word : isWordChar c = false
  noMark : c ∉ ['"', '[', ']', '{', '}', ',', ':']

theorem InNumber.start {c : Char} (inside : InNumber c) :
    Lexer.start { tokens } c = some { tokens, pending := .number [c] } := by
  have differ := inside.noMark
  simp only [List.mem_cons, List.not_mem_nil, or_false, not_or] at differ
  simp [Lexer.start, inside.space, inside.word, inside.begins, differ]

theorem read_number {chars : List Char} (cs : List Char)
    (inside : ∀ c ∈ cs, isNumberChar c = true) :
    (cs.map some).foldlM read { tokens, pending := .number chars } =
      some { tokens, pending := .number (cs.reverse ++ chars) } := by
  induction cs generalizing chars with
  | nil => rfl
  | cons c cs ih =>
      obtain ⟨first, later⟩ := List.forall_mem_cons.mp inside
      have step : read { tokens, pending := .number chars } (some c) =
          some { tokens, pending := .number (c :: chars) } := by
        simp [read, readChar, first]
      simp only [List.map_cons, List.foldlM_cons, step, Option.bind_eq_bind, Option.bind_some,
        ih later, List.reverse_cons, List.append_assoc, List.singleton_append]

end Lexer

theorem inNumber_digit : ∀ m < 10, Lexer.InNumber (Digits.digit m) := by
  have table : ∀ m < 10, Lexer.isNumberChar (Digits.digit m) = true ∧
      ((Digits.digit m).isDigit || Digits.digit m == '-') = true ∧
      Lexer.isSpace (Digits.digit m) = false ∧ Lexer.isWordChar (Digits.digit m) = false ∧
      Digits.digit m ∉ ['"', '[', ']', '{', '}', ',', ':'] := by decide
  intro m small
  obtain ⟨goesOn, begins, space, word, noMark⟩ := table m small
  exact ⟨goesOn, begins, space, word, noMark⟩

theorem inNumber_ofInt (n : Int) : ∀ c ∈ Digits.ofInt n, Lexer.InNumber c := by
  unfold Digits.ofInt
  split
  · exact List.forall_mem_cons.mpr
      ⟨⟨rfl, rfl, rfl, rfl, by decide⟩, Digits.forall_ofNat inNumber_digit⟩
  · exact Digits.forall_ofNat inNumber_digit

/-- Digits that were written are read as their number, with the sign that stood before
them. There is no negative zero. -/
theorem ofUnsigned?_ofNat (negative : Bool) {n : Nat} (sound : negative = true → n ≠ 0) :
    Token.ofUnsigned? negative (Digits.ofNat 10 n) =
      some (.number (some (if negative then -n else n))) := by
  have whole : (Digits.ofNat 10 n).takeWhile Char.isDigit = Digits.ofNat 10 n :=
    List.takeWhile_eq_self_iff.mpr Digits.isDigit_ofNat
  have rest : (Digits.ofNat 10 n).dropWhile Char.isDigit = [] :=
    List.dropWhile_eq_nil_iff.mpr Digits.isDigit_ofNat
  have value : Digits.value? 10 (Digits.ofNat 10 n) = some n :=
    Digits.value?_ofNat (by decide) (by decide) n
  have plain : ¬ ((Digits.ofNat 10 n).head? = some '0' ∧ Digits.ofNat 10 n ≠ ['0']) := by
    rintro ⟨zero, other⟩
    rw [Digits.eq_zero_of_head? zero, Digits.ofNat] at other
    exact other rfl
  have signed : (negative && n == 0) = false := by
    cases negative with
    | false => rfl
    | true => simpa using sound rfl
  simp only [Token.ofUnsigned?, whole, rest, if_neg plain, value]
  simp [isFraction, isExponent, signed]

/-- An integer that was written is read as itself. That the number fits where it is used
is another question, for the reader of the field. -/
theorem ofNumber?_ofInt (n : Int) : Token.ofNumber? (Digits.ofInt n) = some (.number (some n)) := by
  unfold Digits.ofInt
  split
  · rename_i negative
    have written := ofUnsigned?_ofNat true (n := n.natAbs) (fun _ => by omega)
    have value : (-n.natAbs : Int) = n := by omega
    simpa only [Token.ofNumber?, if_true, value] using written
  · rename_i natural
    have written := ofUnsigned?_ofNat false (n := n.natAbs) nofun
    have value : (n.natAbs : Int) = n := by omega
    have unsigned : Token.ofNumber? (Digits.ofNat 10 n.natAbs) =
        Token.ofUnsigned? false (Digits.ofNat 10 n.natAbs) := by
      unfold Token.ofNumber?
      split
      · rename_i cs shape
        have digit : '-'.isDigit = true := Digits.isDigit_ofNat '-' (shape ▸ List.mem_cons_self)
        cases digit
      · rfl
    rw [unsigned, written]
    simp only [Bool.false_eq_true, if_false, value]

theorem spells_int (n : Int) : Spells (Digits.ofInt n) (.number (some n)) := by
  intro tokens mark marks
  have inside := inNumber_ofInt n
  have token := ofNumber?_ofInt n
  cases shape : Digits.ofInt n with
  | nil =>
      rw [shape] at token
      cases token
  | cons c cs =>
      rw [shape] at inside token
      obtain ⟨first, later⟩ := List.forall_mem_cons.mp inside
      have ends : Lexer.isNumberChar mark = false := by
        simp only [List.mem_cons, List.not_mem_nil, or_false] at marks
        rcases marks with rfl | rfl | rfl <;> rfl
      have begun : Lexer.read { tokens } (some c) = some { tokens, pending := .number [c] } :=
        first.start
      simp only [List.cons_append, List.map_cons, List.map_append, List.map_nil, List.foldlM_cons,
        List.foldlM_append, List.foldlM_nil, begun,
        Lexer.read_number cs fun c member => (later c member).goesOn, Option.bind_eq_bind,
        Option.bind_some]
      simp [Lexer.read, Lexer.readChar, ends, Lexer.flush, token, Lexer.accept]

/-- A string as a value of a member. -/
def Atom.quoted (s : String) : Atom where
  text := quote s
  token := .string (some s)
  value := .string (some s)
  spells := spells_quote s
  begins _ := rfl

/-- A truth value as a value of a member. -/
def Atom.truth (b : Bool) : Atom where
  text := Json.truth b
  token := .bool b
  value := .bool b
  spells := spells_truth b
  begins _ := rfl

/-- An integer as a value of a member. -/
def Atom.int (n : Int) : Atom where
  text := Digits.ofInt n
  token := .number (some n)
  value := .number (some n)
  spells := spells_int n
  begins _ := rfl

/-- What the members of an object are written with: the key, a colon and one token each,
and commas between them. -/
def memberTokens : List (String × Atom) → List Token
  | [] => []
  | [(key, atom)] => [.string (some key), .colon, atom.token]
  | (key, atom) :: rest =>
    .string (some key) :: .colon :: atom.token :: .comma :: memberTokens rest

/-- The fields as they are written, each by the text of its value. -/
def texts (fields : List (String × Atom)) : List (String × List Char) :=
  fields.map fun field => (field.1, field.2.text)

variable {fields : List (String × Atom)}

/-- A member is read as three tokens. The mark after it, a comma or the closing brace,
is read for itself. -/
theorem read_member (tokens : List Token) (key : String) (atom : Atom) {mark : Char}
    (marks : mark ∈ [',', ':', '}']) :
    ((quote key ++ ':' :: (atom.text ++ [mark])).map some).foldlM Lexer.read { tokens } =
      ({ tokens := atom.token :: .colon :: .string (some key) :: tokens } : Lexer).start mark := by
  have colon : ((quote key ++ [':']).map some).foldlM Lexer.read { tokens } =
      some { tokens := .colon :: .string (some key) :: tokens } :=
    spells_quote key tokens ':' (by decide)
  have split : quote key ++ ':' :: (atom.text ++ [mark]) =
      (quote key ++ [':']) ++ (atom.text ++ [mark]) := by simp
  rw [split, List.map_append, List.foldlM_append, colon]
  exact atom.spells _ mark marks

/-- The members and the closing brace are read as their tokens, by induction on the
fields. -/
theorem read_members (tokens : List Token) (given : fields ≠ []) :
    ((members (texts fields) ++ ['}']).map some).foldlM Lexer.read { tokens } =
      some { tokens := .closeObject :: ((memberTokens fields).reverse ++ tokens) } := by
  induction fields generalizing tokens with
  | nil => exact absurd rfl given
  | cons field rest ih =>
      obtain ⟨key, atom⟩ := field
      cases rest with
      | nil =>
          have read := read_member tokens key atom (by decide : '}' ∈ [',', ':', '}'])
          simpa [texts, members, memberTokens, Lexer.start, Lexer.accept, Lexer.isSpace] using read
      | cons next rest =>
          have read := read_member tokens key atom (by decide : ',' ∈ [',', ':', '}'])
          have comma (l : Lexer) : l.start ',' = some (l.accept .comma) := rfl
          have split : members (texts ((key, atom) :: next :: rest)) ++ ['}'] =
              (quote key ++ ':' :: (atom.text ++ [','])) ++
                (members (texts (next :: rest)) ++ ['}']) := by
            simp [texts, members]
          rw [split, List.map_append, List.foldlM_append, read, comma]
          refine (ih _ (List.cons_ne_nil _ _)).trans ?_
          simp [memberTokens]

theorem tokens?_record (given : fields ≠ []) :
    tokens? ((record (texts fields)).toList.map some) =
      some (.openObject :: (memberTokens fields ++ [.closeObject])) := by
  have opened : Lexer.read {} (some '{') = some { tokens := [.openObject] } := rfl
  simp only [tokens?, record, String.toList_ofList, List.map_cons, List.foldlM_cons, opened,
    read_members _ given, Option.bind_eq_bind, Option.bind_some]
  simp [Lexer.flush]

/-- The tokens of the members are put together to an object, member by member, until the
brace that closes it. What was being read outside of it waits. -/
theorem build_members (stack : List Frame) (before : List (Option String × Value))
    (given : fields ≠ []) {need : Need} (ready : need = .firstKey ∨ need = .key) :
    (memberTokens fields).foldlM Builder.read (.reading (.object before none :: stack) need) =
      some (.reading (.object ((fields.map fun field =>
        (some field.1, field.2.value)).reverse ++ before) none :: stack) .more) := by
  induction fields generalizing before need with
  | nil => exact absurd rfl given
  | cons field rest ih =>
      obtain ⟨key, atom⟩ := field
      have named : Builder.read (.reading (.object before none :: stack) need)
            (.string (some key)) =
          some (.reading (.object before (some key) :: stack) .colon) := by
        rcases ready with rfl | rfl <;> rfl
      have colon : Builder.read (.reading (.object before (some key) :: stack) .colon) .colon =
          some (.reading (.object before (some key) :: stack) .value) := rfl
      have valued : Builder.read (.reading (.object before (some key) :: stack) .value) atom.token =
          some (.reading (.object ((some key, atom.value) :: before) none :: stack) .more) :=
        atom.begins _
      cases rest with
      | nil =>
          simp only [memberTokens, List.foldlM_cons, List.foldlM_nil, named, colon, valued,
            Option.bind_eq_bind, Option.bind_some]
          rfl
      | cons next rest =>
          have comma (members : List (Option String × Value)) :
              Builder.read (.reading (.object members none :: stack) .more) .comma =
                some (.reading (.object members none :: stack) .key) := rfl
          simp only [memberTokens, List.foldlM_cons, named, colon, valued, comma,
            Option.bind_eq_bind, Option.bind_some]
          rw [ih _ (List.cons_ne_nil _ _) (.inr rfl)]
          simp

/-- A record that was written is read as an object with its fields. They come in the
order in which they were written. -/
theorem ofString?_record (given : fields ≠ []) :
    Value.ofString? (record (texts fields)) =
      some (.object (fields.map fun field => (some field.1, field.2.value))) := by
  have opened : Builder.read (.reading [] .value) .openObject =
      some (.reading [.object [] none] .firstKey) := rfl
  have closed (members : List (Option String × Value)) :
      Builder.read (.reading [.object members none] .more) .closeObject =
        some (.complete (.object members.reverse)) := rfl
  simp only [Value.ofString?, Value.ofText?, tokens?_record given, Option.bind_some,
    Value.ofTokens?, List.foldlM_cons, List.foldlM_append, List.foldlM_nil, opened,
    build_members [] [] given (.inl rfl), closed, Option.bind_eq_bind]
  simp

theorem lookup_value (fields : List (String × Atom)) (name : String) :
    (fields.map fun field => (field.1, field.2.value)).lookup name =
      (fields.lookup name).map Atom.value := by
  induction fields with
  | nil => rfl
  | cons field rest ih =>
      obtain ⟨key, atom⟩ := field
      cases same : name == key <;> simp [List.lookup_cons, same, ih]

/-- A key that is not given twice is found at most once, which the reader of a record
insists on. -/
theorem given_once (apart : (fields.map Prod.fst).Nodup) (name : String) :
    ((fields.map fun field => (field.1, field.2.value)).filter
      fun m => m.1 = name).length ≤ 1 := by
  have keys : (fields.map fun field => (field.1, field.2.value)).map Prod.fst =
      fields.map Prod.fst := by simp
  have once := List.nodup_iff_count_le_one.mp (keys ▸ apart) name
  rw [List.count, List.countP_map, List.countP_eq_length_filter] at once
  exact once

/-- The values of named fields of an object in which no key is given twice. A field that
is not there has none; whether that is an error is for the record to say. -/
theorem fields?_object (names : List String) (apart : (fields.map Prod.fst).Nodup) :
    Value.fields? names (.object (fields.map fun field => (some field.1, field.2.value))) =
      some (names.map fun name => (fields.lookup name).map Atom.value) := by
  have once : (names.all fun name => (List.filter (fun m => m.1 = name)
      (fields.map fun field => (field.1, field.2.value))).length ≤ 1) = true := by
    simpa using fun name _ => given_once apart name
  have keyed : fields.mapM (fun field => some (field.1, field.2.value)) =
      some (fields.map fun field => (field.1, field.2.value)) := List.mapM_pure
  simp only [Value.fields?, List.mapM_map, Function.comp_def, Option.map_some, keyed,
    Option.bind_eq_bind, Option.bind_some, once, if_true, lookup_value]

end FlashSale.Json
