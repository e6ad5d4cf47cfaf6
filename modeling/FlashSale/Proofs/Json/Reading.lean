import FlashSale.Proofs.Json.Record
import FlashSale.Proofs.Timestamp

/-!
# Every well-formed text is read

A text of the grammar is read as one value, whatever blanks it has and however its strings are
spelled.

A number and a word end only where a mark begins. `Yields` therefore leaves the last token of a
text pending; it is accepted when the text ends there or a mark follows, and that is the one
condition under which two texts may be put together. `Reads` leaves nothing pending.
-/

namespace FlashSale.Json

variable {s t : List Char} {ts us : List Token} {c : Char} {p : Piece} {ps : List Piece}

/-- Neither a word nor a number goes on with the character. So the token that is pending
ends in front of it. -/
structure Ends (c : Char) : Prop where
  word : Lexer.isWordChar c = false
  number : Lexer.isNumberChar c = false

/-- The text is read as the tokens, and the lexer is ready for a new token afterwards.
-/
def Reads (t : List Char) (ts : List Token) : Prop :=
  ∀ tokens, (t.map some).foldlM Lexer.read { tokens } = some { tokens := ts.reverse ++ tokens }

/-- The text is read as the tokens, the last of which may be pending still. Numbers and
words are read so, since only what follows tells where they end. -/
def Yields (t : List Char) (ts : List Token) : Prop :=
  ∀ tokens, ∃ l, (t.map some).foldlM Lexer.read { tokens } = some l ∧
    l.flush = some { tokens := ts.reverse ++ tokens }

theorem Reads.yields (reads : Reads t ts) : Yields t ts := fun tokens => ⟨_, reads tokens, rfl⟩

theorem Reads.nil : Reads [] [] := fun _ => rfl

/-- After a text that leaves nothing pending any other text may follow. -/
theorem Reads.append_yields (first : Reads s ts) (second : Yields t us) :
    Yields (s ++ t) (ts ++ us) := by
  intro tokens
  obtain ⟨l, reads, flushed⟩ := second (ts.reverse ++ tokens)
  refine ⟨l, ?_, ?_⟩
  · rw [List.map_append, List.foldlM_append, first tokens]
    exact reads
  · rw [List.reverse_append, List.append_assoc]
    exact flushed

/-- A character that ends the pending token is read as if the token had been ended
before. -/
theorem read_of_flush {l : Lexer} {tokens : List Token} (flushed : l.flush = some { tokens })
    (ends : Ends c) : l.read (some c) = ({ tokens } : Lexer).read (some c) := by
  obtain ⟨before, pending⟩ := l
  cases pending with
  | nothing =>
      cases flushed
      rfl
  | word letters => simp [Lexer.read, Lexer.readChar, ends.word, flushed]
  | number chars => simp [Lexer.read, Lexer.readChar, ends.number, flushed]
  | quoted inside escaped => cases flushed

/-- After a text that leaves a token pending another one may follow if its first
character ends the token. -/
theorem Yields.append (first : Yields s ts) (second : Yields t us) (ends : ∀ c ∈ t.head?, Ends c) :
    Yields (s ++ t) (ts ++ us) := by
  intro tokens
  obtain ⟨l, reads, flushed⟩ := first tokens
  obtain ⟨l', reads', flushed'⟩ := second (ts.reverse ++ tokens)
  rw [List.map_append, List.foldlM_append, reads, Option.bind_eq_bind, Option.bind_some,
    List.reverse_append, List.append_assoc]
  cases t with
  | nil =>
      obtain rfl := Option.some.inj reads'
      exact ⟨l, rfl, flushed.trans flushed'⟩
  | cons c t =>
      refine ⟨l', ?_, flushed'⟩
      rw [List.map_cons, List.foldlM_cons, read_of_flush flushed (ends c rfl)]
      exact reads'

/-- The character is a token by itself. It ends what is pending and leaves nothing
pending. -/
structure IsMark (c : Char) (t : Token) : Prop where
  reads : Reads [c] [t]
  ends : Ends c

theorem isMark_openArray : IsMark '[' .openArray := ⟨fun _ => rfl, rfl, rfl⟩

theorem isMark_closeArray : IsMark ']' .closeArray := ⟨fun _ => rfl, rfl, rfl⟩

theorem isMark_openObject : IsMark '{' .openObject := ⟨fun _ => rfl, rfl, rfl⟩

theorem isMark_closeObject : IsMark '}' .closeObject := ⟨fun _ => rfl, rfl, rfl⟩

theorem isMark_comma : IsMark ',' .comma := ⟨fun _ => rfl, rfl, rfl⟩

theorem isMark_colon : IsMark ':' .colon := ⟨fun _ => rfl, rfl, rfl⟩

theorem IsMark.cons {mark : Token} (isMark : IsMark c mark) (rest : Yields t ts) :
    Yields (c :: t) (mark :: ts) := isMark.reads.append_yields rest

/-- A mark ends what is pending, so that the texts on its two sides are read on their
own. -/
theorem IsMark.split {mark : Token} (isMark : IsMark c mark) (first : Yields s ts)
    (rest : Yields t us) : Yields (s ++ c :: t) (ts ++ mark :: us) :=
  first.append (isMark.cons rest) fun c' at? => by
    obtain rfl := Option.some.inj at?
    exact isMark.ends

theorem ends_of_blank (blank : c ∈ [' ', '\t', '\n', '\r']) :
    Ends c ∧ Reads [c] [] := by
  simp only [List.mem_cons, List.not_mem_nil, or_false] at blank
  obtain rfl | rfl | rfl | rfl := blank <;> exact ⟨⟨rfl, rfl⟩, fun _ => rfl⟩

theorem reads_blanks (blank : IsBlanks t) : Reads t [] := by
  intro tokens
  induction t with
  | nil => rfl
  | cons c t ih =>
      obtain ⟨first, rest⟩ := List.forall_mem_cons.mp blank
      have read : ({ tokens } : Lexer).read (some c) = some { tokens } := by
        simpa using (ends_of_blank first).2 tokens
      rw [List.map_cons, List.foldlM_cons, read]
      exact ih rest

theorem Yields.before_blanks (yields : Yields s ts) (blank : IsBlanks t) : Yields (s ++ t) ts := by
  have both := yields.append (reads_blanks blank).yields fun c at? =>
    (ends_of_blank (blank c (List.mem_of_mem_head? at?))).1
  rwa [List.append_nil] at both

theorem Yields.after_blanks (blank : IsBlanks s) (yields : Yields t ts) : Yields (s ++ t) ts :=
  (reads_blanks blank).append_yields yields

/-- A string between its quotation marks is one token: the text that its pieces denote
together, or none if they denote none. -/
theorem reads_quoted (spelled : IsInside t ps) :
    Reads (quoted t) [.string ((joinPieces? ps).map String.ofList)] :=
  Lexer.read_quoted spelled

/-- The key of a member is the text that its string is read as, or none if its pieces
denote none. -/
theorem Member.key_eq (m : Member) : (joinPieces? m.pieces).map String.ofList = m.key := by
  refine Option.ext fun k => ?_
  rw [m.named, Option.map_eq_some_iff]
  constructor
  · rintro ⟨cs, joins, rfl⟩
    rw [String.toList_ofList]
    exact denotes_of_joinPieces? joins
  · intro denotes
    exact ⟨_, joinPieces?_of_denotes denotes, String.ofList_toList⟩

theorem goesOn_digit {c : Char} (digit : c.isDigit = true) : Lexer.isNumberChar c = true := by
  simp [Lexer.isNumberChar, digit]

theorem IsDigits.value (digits : IsDigits t) : ∃ n, Digits.value? 10 t = some n := by
  obtain ⟨given, each⟩ := digits
  obtain ⟨ds, small, rfl⟩ := Digits.exists_digits each
  have read := Digits.valueFrom?_digits 0 small
  cases ds with
  | nil => exact absurd rfl given
  | cons d ds => exact ⟨_, read⟩

theorem IsWhole.digits (whole : IsWhole t) : IsDigits t := by
  cases whole with
  | zero => exact ⟨List.cons_ne_nil _ _, List.forall_mem_singleton.mpr rfl⟩
  | counting digits => exact digits

theorem IsExponentPart.read (formed : IsExponentPart t) : isExponent t = true := by
  cases formed with
  | absent => rfl
  | @present e sign t mark signed digits =>
      obtain ⟨given, each⟩ := digits
      have marked : (e == 'e' || e == 'E') = true := by simpa using mark
      simp only [List.mem_cons, List.not_mem_nil, or_false] at signed
      obtain rfl | rfl | rfl := signed
      · cases t with
        | nil => exact absurd rfl given
        | cons c t =>
            have digit := each c List.mem_cons_self
            have plus : c ≠ '+' := by
              rintro rfl
              cases digit
            have minus : c ≠ '-' := by
              rintro rfl
              cases digit
            simpa [isExponent, marked, plus, minus] using each
      · simpa [isExponent, marked, given] using each
      · simpa [isExponent, marked, given] using each

open Timestamp (NoDigit noDigit_nil noDigit_cons takeWhile_isDigit) in
/-- A number stops being whole where its fraction or its exponent begins, since neither
of them begins with a digit. -/
theorem IsExponentPart.noDigit (formed : IsExponentPart t) : NoDigit t := by
  cases formed with
  | absent => exact noDigit_nil
  | present mark => obtain rfl | rfl := mark <;> exact noDigit_cons rfl

theorem dropWhile_isDigit (each : ∀ c ∈ s, c.isDigit = true) (stops : Timestamp.NoDigit t) :
    (s ++ t).dropWhile Char.isDigit = t := by
  have whole := List.takeWhile_append_dropWhile (p := Char.isDigit) (l := s ++ t)
  rw [Timestamp.takeWhile_isDigit each stops] at whole
  exact List.append_cancel_left whole

theorem IsFractionPart.noDigit (formed : IsFractionPart s) (rest : IsExponentPart t) :
    Timestamp.NoDigit (s ++ t) := by
  cases formed with
  | absent => exact rest.noDigit
  | present => exact Timestamp.noDigit_cons rfl

theorem IsFractionPart.read (formed : IsFractionPart s) (rest : IsExponentPart t) :
    isFraction (s ++ t) = true := by
  cases formed with
  | absent =>
      have exponent := rest.read
      cases rest with
      | absent => rfl
      | present mark => obtain rfl | rfl := mark <;> exact exponent
  | @present s digits =>
      obtain ⟨given, each⟩ := digits
      have taken := Timestamp.takeWhile_isDigit each rest.noDigit
      have left := dropWhile_isDigit each rest.noDigit
      simp [isFraction, taken, left, rest.read, given]

/-- A number without its sign is a token, and so it is with one. Which number it is
depends on the fraction and the exponent being there, but that it is one does not. -/
theorem IsWhole.ofUnsigned? {fraction exponent : List Char} (negative : Bool) (whole : IsWhole t)
    (isFraction : IsFractionPart fraction) (isExponent : IsExponentPart exponent) :
    ∃ v, Token.ofUnsigned? negative (t ++ (fraction ++ exponent)) = some (.number v) := by
  have stops := isFraction.noDigit isExponent
  have taken := Timestamp.takeWhile_isDigit whole.digits.2 stops
  have left := dropWhile_isDigit whole.digits.2 stops
  have plain : ¬ (t.head? = some '0' ∧ t ≠ ['0']) := by
    rintro ⟨zero, other⟩
    cases whole with
    | zero => exact other rfl
    | counting digits first => exact first zero
  obtain ⟨n, value⟩ := whole.digits.value
  simp only [Token.ofUnsigned?, taken, left, if_neg plain, value, isFraction.read isExponent,
    Bool.not_true, Bool.false_eq_true, if_false]
  split <;> exact ⟨_, rfl⟩

/-- What the grammar has as a number is taken for one, whatever its parts are. -/
theorem IsNumber.token (formed : IsNumber t) : ∃ v, Token.ofNumber? t = some (.number v) := by
  cases formed with
  | @mk sign whole fraction exponent signed isWhole isFraction isExponent =>
      simp only [List.mem_cons, List.not_mem_nil, or_false] at signed
      obtain rfl | rfl := signed
      · obtain ⟨v, read⟩ := isWhole.ofUnsigned? false isFraction isExponent
        refine ⟨v, Eq.trans ?_ read⟩
        obtain ⟨given, each⟩ := isWhole.digits
        cases whole with
        | nil => exact absurd rfl given
        | cons c whole =>
            unfold Token.ofNumber?
            split
            · rename_i cs shape
              obtain rfl := (List.cons.inj shape).1
              cases each '-' List.mem_cons_self
            · rfl
      · exact isWhole.ofUnsigned? true isFraction isExponent

theorem IsDigits.chars (digits : IsDigits t) : ∀ c ∈ t, Lexer.isNumberChar c = true :=
  fun c member => goesOn_digit (digits.2 c member)

theorem IsFractionPart.chars (formed : IsFractionPart t) :
    ∀ c ∈ t, Lexer.isNumberChar c = true := by
  cases formed with
  | absent => exact nofun
  | present digits => exact List.forall_mem_cons.mpr ⟨rfl, digits.chars⟩

theorem IsExponentPart.chars (formed : IsExponentPart t) :
    ∀ c ∈ t, Lexer.isNumberChar c = true := by
  cases formed with
  | absent => exact nofun
  | @present e sign t mark signed digits =>
      have begins : Lexer.isNumberChar e = true := by obtain rfl | rfl := mark <;> rfl
      have signs : ∀ c ∈ sign, Lexer.isNumberChar c = true := by
        simp only [List.mem_cons, List.not_mem_nil, or_false] at signed
        obtain rfl | rfl | rfl := signed
        · exact fun _ => nofun
        · exact List.forall_mem_singleton.mpr rfl
        · exact List.forall_mem_singleton.mpr rfl
      exact List.forall_mem_cons.mpr ⟨begins, List.forall_mem_append.mpr ⟨signs, digits.chars⟩⟩

theorem inNumber_isDigit {c : Char} (digit : c.isDigit = true) : Lexer.InNumber c := by
  obtain ⟨m, small, rfl⟩ := Digits.exists_digit digit
  exact inNumber_digit m small

/-- A number begins with a digit or a minus sign and goes on to its end with characters
that a number may have. -/
theorem IsNumber.chars (formed : IsNumber t) :
    ∃ c cs, t = c :: cs ∧ Lexer.InNumber c ∧ ∀ c ∈ cs, Lexer.isNumberChar c = true := by
  cases formed with
  | @mk sign whole fraction exponent signed isWhole isFraction isExponent =>
      have rest : ∀ c ∈ fraction ++ exponent, Lexer.isNumberChar c = true :=
        List.forall_mem_append.mpr ⟨isFraction.chars, isExponent.chars⟩
      simp only [List.mem_cons, List.not_mem_nil, or_false] at signed
      obtain rfl | rfl := signed
      · obtain ⟨given, each⟩ := isWhole.digits
        cases whole with
        | nil => exact absurd rfl given
        | cons c cs =>
            obtain ⟨first, later⟩ := List.forall_mem_cons.mp each
            exact ⟨c, _, rfl, inNumber_isDigit first, List.forall_mem_append.mpr
              ⟨fun c member => goesOn_digit (later c member), rest⟩⟩
      · exact ⟨'-', whole ++ (fraction ++ exponent), rfl, ⟨rfl, rfl, rfl, rfl, by decide⟩,
          List.forall_mem_append.mpr ⟨isWhole.digits.chars, rest⟩⟩

/-- A number is read as one token, which is pending at its end. What comes next ends it
or makes it a text that is not read. -/
theorem yields_number (formed : IsNumber t) : ∃ v, Yields t [.number v] := by
  obtain ⟨v, token⟩ := formed.token
  obtain ⟨c, cs, rfl, first, later⟩ := formed.chars
  refine ⟨v, fun tokens => ⟨{ tokens, pending := .number (cs.reverse ++ [c]) }, ?_, ?_⟩⟩
  · have begun : Lexer.read { tokens } (some c) = some { tokens, pending := .number [c] } :=
      first.start
    rw [List.map_cons, List.foldlM_cons, begun]
    exact Lexer.read_number cs later
  · simp [Lexer.flush, token, Lexer.accept]

/-- The tokens begin something other than the end of an array. Behind an opening bracket
this is how a first item is told from none. -/
def Opens (ts : List Token) : Prop := ∃ first rest, ts = first :: rest ∧ first ≠ .closeArray

theorem Opens.append (opens : Opens ts) (us : List Token) : Opens (ts ++ us) := by
  obtain ⟨first, rest, rfl, other⟩ := opens
  exact ⟨first, rest ++ us, rfl, other⟩

/-- Where an array has begun its first item may follow as any other does. -/
theorem Opens.firstItem (opens : Opens ts) (stack : List Frame) :
    ts.foldlM Builder.read (.reading stack .firstItem) =
      ts.foldlM Builder.read (.reading stack .value) := by
  obtain ⟨first, rest, rfl, other⟩ := opens
  simp [Builder.read, other]

/-- The tokens are put together to the value, whatever is open around it. What is open
gets the value as its next part. -/
structure Builds (ts : List Token) (v : Value) : Prop where
  opens : Opens ts
  gives : ∀ stack, ts.foldlM Builder.read (.reading stack .value) = some (Builder.give stack v)

/-- The text is read as the value, wherever a value may stand: some tokens are read from
it, and these are put together to the value. -/
def Means (t : List Char) (v : Value) : Prop := ∃ ts, Yields t ts ∧ Builds ts v

/-- A text that is read as a value is one document, with blanks before and after it. -/
theorem Means.ofText? {v : Value} {before after : List Char} (means : Means t v)
    (blankBefore : IsBlanks before) (blankAfter : IsBlanks after) :
    Value.ofText? ((before ++ (t ++ after)).map some) = some v := by
  obtain ⟨ts, yields, builds⟩ := means
  obtain ⟨l, reads, flushed⟩ := (yields.before_blanks blankAfter).after_blanks blankBefore []
  have tokens : tokens? ((before ++ (t ++ after)).map some) = some ts := by
    rw [tokens?, reads]
    simp [flushed]
  rw [Value.ofText?, tokens, Option.bind_some, Value.ofTokens?, builds.gives]
  rfl

theorem Means.ofText?_bare {v : Value} (means : Means t v) :
    Value.ofText? (t.map some) = some v := by
  have read := means.ofText? isBlanks_nil isBlanks_nil
  rwa [List.nil_append, List.append_nil] at read

/-- The value that a text is read as. It is of interest for texts of the grammar only,
which are all read as one. -/
def valueOf (t : List Char) : Value := (Value.ofText? (t.map some)).getD .null

theorem Means.eq_valueOf {v : Value} (means : Means t v) : v = valueOf t := by
  rw [valueOf, means.ofText?_bare, Option.getD_some]

/-- A token that is a value by itself: a word, a number or a string. -/
theorem means_of_yields (mark : Token) {v : Value} (yields : Yields t [mark])
    (other : mark ≠ .closeArray) (begins : ∀ stack, Builder.beginValue stack mark =
      some (Builder.give stack v)) : Means t v := by
  refine ⟨[mark], yields, ⟨mark, [], rfl, other⟩, fun stack => ?_⟩
  simp [Builder.read, begins]

theorem Yields.item {i : Item} (yields : Yields i.value ts) : Yields i.text ts :=
  (yields.before_blanks i.blank.2).after_blanks i.blank.1

/-- The items of an array are put into it one after another, each as the value that its
text is read as. -/
theorem means_items {items : List Item} (given : items ≠ [])
    (each : ∀ i ∈ items, Means i.value (valueOf i.value)) :
    ∃ ts, Yields (commas (items.map Item.text)) ts ∧ Opens ts ∧ ∀ stack before,
      ts.foldlM Builder.read (.reading (.array before :: stack) .value) = some (.reading
        (.array ((items.map fun i => valueOf i.value).reverse ++ before) :: stack) .more) := by
  induction items with
  | nil => exact absurd rfl given
  | cons i rest ih =>
      obtain ⟨first, later⟩ := List.forall_mem_cons.mp each
      obtain ⟨ts, yields, builds⟩ := first
      cases rest with
      | nil => exact ⟨ts, yields.item, builds.opens, fun stack before => builds.gives _⟩
      | cons next rest =>
          obtain ⟨us, yields', -, fills⟩ := ih (List.cons_ne_nil _ _) later
          refine ⟨ts ++ .comma :: us, isMark_comma.split yields.item yields',
            builds.opens.append _, fun stack before => ?_⟩
          have goesOn : Builder.read (Builder.give (.array before :: stack) (valueOf i.value))
              .comma = some (.reading (.array (valueOf i.value :: before) :: stack) .value) := rfl
          rw [List.foldlM_append, builds.gives, Option.bind_eq_bind, Option.bind_some,
            List.foldlM_cons, goesOn, Option.bind_eq_bind, Option.bind_some, fills]
          simp

theorem means_emptyArray (blank : IsBlanks t) : Means ('[' :: (t ++ [']'])) (.array []) :=
  ⟨[.openArray, .closeArray],
    isMark_openArray.cons (isMark_closeArray.reads.yields.after_blanks blank),
    ⟨.openArray, _, rfl, nofun⟩, fun _ => rfl⟩

/-- An array is read as the array of what its items are read as. The induction is on the
items, and what was being read outside waits. -/
theorem means_array {items : List Item} (given : items ≠ [])
    (each : ∀ i ∈ items, Means i.value (valueOf i.value)) :
    Means ('[' :: (commas (items.map Item.text) ++ [']']))
      (.array (items.map fun i => valueOf i.value)) := by
  obtain ⟨ts, yields, opens, fills⟩ := means_items given each
  refine ⟨.openArray :: (ts ++ [.closeArray]),
    isMark_openArray.cons (isMark_closeArray.split yields Reads.nil.yields),
    ⟨.openArray, _, rfl, nofun⟩, fun stack => ?_⟩
  have begins : Builder.read (.reading stack .value) .openArray =
      some (.reading (.array [] :: stack) .firstItem) := rfl
  rw [List.foldlM_cons, begins, Option.bind_eq_bind, Option.bind_some, List.foldlM_append,
    opens.firstItem, fills, List.append_nil, Option.bind_eq_bind, Option.bind_some]
  simp [Builder.read, Builder.goOn, Builder.close]

/-- The member as it is read. -/
def Member.entry (m : Member) : Option String × Value := (m.key, valueOf m.value)

theorem Member.yields {m : Member} (yields : Yields m.value ts) :
    Yields m.text (.string m.key :: .colon :: ts) := by
  obtain ⟨blankKey, blankAfterKey, blankValue, blankAfterValue⟩ := m.blank
  have value := (yields.before_blanks blankAfterValue).after_blanks blankValue
  have key := ((reads_quoted m.spelled).yields.before_blanks blankAfterKey)
  have both := (isMark_colon.split key value).after_blanks blankKey
  rw [m.key_eq, List.append_assoc] at both
  exact both

/-- The members of an object are put into it one after another, each as its key and the
value that its text is read as. A key may come again; this is for the record to refuse.
-/
theorem means_members {members : List Member} (given : members ≠ [])
    (each : ∀ m ∈ members, Means m.value (valueOf m.value)) :
    ∃ ts, Yields (commas (members.map Member.text)) ts ∧
      ∀ stack before key need, need = .firstKey ∨ need = .key →
        ts.foldlM Builder.read (.reading (.object before key :: stack) need) = some (.reading
          (.object ((members.map Member.entry).reverse ++ before) none :: stack) .more) := by
  induction members with
  | nil => exact absurd rfl given
  | cons m rest ih =>
      obtain ⟨first, later⟩ := List.forall_mem_cons.mp each
      obtain ⟨ts, yields, builds⟩ := first
      have fills : ∀ stack before key need, need = .firstKey ∨ need = .key →
          (.string m.key :: .colon :: ts).foldlM Builder.read
            (.reading (.object before key :: stack) need) =
              some (.reading (.object (m.entry :: before) none :: stack) .more) := by
        intro stack before key need expected
        have named : Builder.read (.reading (.object before key :: stack) need) (.string m.key) =
            some (.reading (.object before m.key :: stack) .colon) := by
          obtain rfl | rfl := expected <;> rfl
        have parted : Builder.read (.reading (.object before m.key :: stack) .colon) .colon =
            some (.reading (.object before m.key :: stack) .value) := rfl
        rw [List.foldlM_cons, named, Option.bind_eq_bind, Option.bind_some, List.foldlM_cons,
          parted, Option.bind_eq_bind, Option.bind_some, builds.gives]
        rfl
      cases rest with
      | nil => exact ⟨_, m.yields yields, fills⟩
      | cons next rest =>
          obtain ⟨us, yields', fills'⟩ := ih (List.cons_ne_nil _ _) later
          refine ⟨_, isMark_comma.split (m.yields yields) yields', ?_⟩
          intro stack before key need expected
          have goesOn : Builder.read (.reading (.object (m.entry :: before) none :: stack) .more)
              .comma = some (.reading (.object (m.entry :: before) none :: stack) .key) := rfl
          rw [List.foldlM_append, fills stack before key need expected, Option.bind_eq_bind,
            Option.bind_some, List.foldlM_cons, goesOn, Option.bind_eq_bind, Option.bind_some,
            fills' _ _ _ _ (Or.inr rfl)]
          simp

theorem means_emptyObject (blank : IsBlanks t) : Means ('{' :: (t ++ ['}'])) (.object []) :=
  ⟨[.openObject, .closeObject],
    isMark_openObject.cons (isMark_closeObject.reads.yields.after_blanks blank),
    ⟨.openObject, _, rfl, nofun⟩, fun _ => rfl⟩

theorem means_object {members : List Member} (given : members ≠ [])
    (each : ∀ m ∈ members, Means m.value (valueOf m.value)) :
    Means ('{' :: (commas (members.map Member.text) ++ ['}']))
      (.object (members.map Member.entry)) := by
  obtain ⟨ts, yields, fills⟩ := means_members given each
  refine ⟨.openObject :: (ts ++ [.closeObject]),
    isMark_openObject.cons (isMark_closeObject.split yields Reads.nil.yields),
    ⟨.openObject, _, rfl, nofun⟩, fun stack => ?_⟩
  have begins : Builder.read (.reading stack .value) .openObject =
      some (.reading (.object [] none :: stack) .firstKey) := rfl
  rw [List.foldlM_cons, begins, Option.bind_eq_bind, Option.bind_some, List.foldlM_append,
    fills _ _ _ _ (Or.inl rfl), List.append_nil, Option.bind_eq_bind, Option.bind_some]
  simp [Builder.read, Builder.goOn, Builder.close]

/-- Every well-formed text is read, as one value. The proof goes along the grammar: by
then each part of an array or object is known to be read as its own value. -/
theorem IsValue.means (formed : IsValue t) : Means t (valueOf t) := by
  have ⟨v, means⟩ : ∃ v, Means t v := by
    induction formed with
    | null =>
        exact ⟨_, means_of_yields .null (fun _ => ⟨_, rfl, rfl⟩) nofun fun _ => rfl⟩
    | true =>
        exact ⟨_, means_of_yields (.bool Bool.true) (fun _ => ⟨_, rfl, rfl⟩) nofun fun _ => rfl⟩
    | false =>
        exact ⟨_, means_of_yields (.bool Bool.false) (fun _ => ⟨_, rfl, rfl⟩) nofun fun _ => rfl⟩
    | number formed =>
        obtain ⟨v, yields⟩ := yields_number formed
        exact ⟨.number v, means_of_yields _ yields nofun fun _ => rfl⟩
    | string spelled =>
        exact ⟨_, means_of_yields _ (reads_quoted spelled).yields nofun fun _ => rfl⟩
    | emptyArray blank => exact ⟨_, means_emptyArray blank⟩
    | array given formed ih =>
        refine ⟨_, means_array given fun i member => ?_⟩
        obtain ⟨v, means⟩ := ih i member
        exact means.eq_valueOf ▸ means
    | emptyObject blank => exact ⟨_, means_emptyObject blank⟩
    | object given formed ih =>
        refine ⟨_, means_object given fun m member => ?_⟩
        obtain ⟨v, means⟩ := ih m member
        exact means.eq_valueOf ▸ means
  exact means.eq_valueOf ▸ means

end FlashSale.Json
