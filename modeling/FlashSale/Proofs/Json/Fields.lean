import FlashSale.Http.Body
import FlashSale.Order.Json
import FlashSale.Proofs.Json.Reading

/-!
# Records by their fields

An object is read by its known fields alone. Their order, the blanks, the spelling of the keys
and whatever else the object holds have no influence: it is read as the array of the fields'
values in their order would be. That array has the default in place of a field that is not given.

Both readings meet in the values of the fields. `fields?_members` says what they are for an
object and `fields?_array` for an array; what a record makes of a field that is not given is
`Fills`, one lemma for each record.
-/

namespace FlashSale.Json

/-- A field of a record, with the text of the value that stands for it where it is not given. -/
structure Field where
  name : String
  default : Option (List Char)
  formed : ∀ t ∈ default, IsValue t

/-- A field that has to be given. -/
def Field.needed (name : String) : Field where
  name := name
  default := none
  formed := nofun

/-- A field that need not be given. -/
def Field.defaulted (name : String) (t : List Char) (formed : IsValue t) : Field where
  name := name
  default := some t
  formed _ same := Option.some.inj same ▸ formed

/-- The text of the value that a field has in an object. -/
def ObjectText.field? (o : ObjectText) (f : Field) : Option (List Char) :=
  (o.value? f.name).or f.default

/-- Every key of the object denotes a text. -/
def ObjectText.Readable (o : ObjectText) : Prop := ∀ m ∈ o.members, m.key ≠ none

/-- Objects are read by their known fields alone. Where they are given once at most, the
object is read as the array of their values; an object that gives one twice, or leaves
out one that is needed, is refused. -/
structure ByFields {α : Type} (parse : String → Option α) (fields : List Field) : Prop where
  agrees : ∀ (o : ObjectText) (values : List (List Char)), o.Readable →
    (∀ f ∈ fields, o.count f.name ≤ 1) → fields.map o.field? = values.map some →
      parse o.text = parse (arrayText values)
  repeated : ∀ o : ObjectText, ∀ f ∈ fields, 1 < o.count f.name → parse o.text = none
  missing : ∀ o : ObjectText, ∀ f ∈ fields, o.field? f = none → parse o.text = none
  unreadable : ∀ o : ObjectText, ¬ o.Readable → parse o.text = none

/-- An object of the grammar is read as the object of its members, in their order and
with all that it has besides the known fields. -/
theorem ofString?_object (o : ObjectText) :
    Value.ofString? o.text = some (.object (o.members.map Member.entry)) := by
  have means : Means o.core (.object (o.members.map Member.entry)) := by
    have each : ∀ m ∈ o.members, Means m.value (valueOf m.value) := fun m member =>
      (o.formed m member).means
    unfold ObjectText.core
    split
    · rename_i empty
      rw [empty]
      exact means_emptyObject o.blank.2.1
    · rename_i given
      exact means_object given each
  rw [ObjectText.text, Value.ofString?, String.toList_ofList]
  exact means.ofText? o.blank.1 o.blank.2.2

/-- A text as an item without blanks. -/
def Item.bare (t : List Char) : Item := { value := t, blank := ⟨isBlanks_nil, isBlanks_nil⟩ }

theorem ofString?_array {values : List (List Char)} (formed : ∀ t ∈ values, IsValue t) :
    Value.ofString? (arrayText values) = some (.array (values.map valueOf)) := by
  have means : Means ('[' :: (commas values ++ [']'])) (.array (values.map valueOf)) := by
    by_cases empty : values = []
    · rw [empty]
      exact means_emptyArray isBlanks_nil
    · have texts : (values.map Item.bare).map Item.text = values := by
        simp [Item.text, Item.bare, Function.comp_def]
      have each : ∀ i ∈ values.map Item.bare, Means i.value (valueOf i.value) :=
        List.forall_mem_map.mpr fun t member => (formed t member).means
      have built := means_array (mt List.map_eq_nil_iff.mp empty) each
      rwa [texts, List.map_map] at built
  rw [arrayText, Value.ofString?, String.toList_ofList, means.ofText?_bare]

section Object

variable {members : List Member} {name : String}

/-- The keys and the values of members whose keys denote a text. -/
def entries (members : List Member) : List (String × Value) :=
  members.map fun m => (m.key.getD "", valueOf m.value)

theorem mapM_entry (readable : ∀ m ∈ members, m.key ≠ none) :
    (members.map Member.entry).mapM (fun (key, value) => key.map fun key => (key, value)) =
      some (entries members) := by
  induction members with
  | nil => rfl
  | cons m rest ih =>
      obtain ⟨first, later⟩ := List.forall_mem_cons.mp readable
      obtain ⟨key, named⟩ := Option.ne_none_iff_exists'.mp first
      simp [Member.entry, entries, named, ih later]

/-- One key that denotes no text spoils the whole object. It does not matter whether
anybody asks for the field. -/
theorem mapM_unreadable (unreadable : ∃ m ∈ members, m.key = none) :
    (members.map Member.entry).mapM (fun (key, value) => key.map fun key => (key, value)) =
      (none : Option (List (String × Value))) := by
  induction members with
  | nil => simp at unreadable
  | cons m rest ih =>
      rw [List.map_cons, List.mapM_cons]
      cases named : m.key with
      | none => simp [Member.entry, named]
      | some key =>
          have later : ∃ m ∈ rest, m.key = none := by simpa [named] using unreadable
          simp [Member.entry, named, ih later]

theorem length_filter_entries (readable : ∀ m ∈ members, m.key ≠ none) :
    ((entries members).filter fun m => m.1 = name).length =
      (members.map Member.key).count (some name) := by
  induction members with
  | nil => rfl
  | cons m rest ih =>
      obtain ⟨first, later⟩ := List.forall_mem_cons.mp readable
      obtain ⟨key, named⟩ := Option.ne_none_iff_exists'.mp first
      have rest' := ih later
      rw [entries] at rest'
      by_cases same : key = name <;> simp [entries, named, same, rest']

/-- The value under a name is that of the first member with this key, however the key is
spelled. -/
theorem lookup_entries (readable : ∀ m ∈ members, m.key ≠ none) :
    (entries members).lookup name =
      ((members.find? fun m => m.key = some name).map Member.value).map valueOf := by
  induction members with
  | nil => rfl
  | cons m rest ih =>
      obtain ⟨first, later⟩ := List.forall_mem_cons.mp readable
      obtain ⟨key, named⟩ := Option.ne_none_iff_exists'.mp first
      have rest' := ih later
      rw [entries] at rest'
      by_cases same : key = name
      · simp [entries, named, same]
      · have other : (name == key) = false := by simpa using Ne.symm same
        simp [entries, named, same, List.lookup_cons, other, rest']

end Object

section Fields

variable {o : ObjectText} {names : List String}

/-- The check for repeated fields is one of how often each name is among the keys. -/
theorem once_iff (readable : o.Readable) :
    (names.all fun name => ((entries o.members).filter fun m => m.1 = name).length ≤ 1) = true ↔
      ∀ name ∈ names, o.count name ≤ 1 := by
  simp only [List.all_eq_true, decide_eq_true_eq, length_filter_entries readable, ObjectText.count]

/-- The values of named fields of an object in which none of them is given twice. Other
members make no difference. -/
theorem fields?_members (readable : o.Readable) (once : ∀ name ∈ names, o.count name ≤ 1) :
    Value.fields? names (.object (o.members.map Member.entry)) =
      some (names.map fun name => (o.value? name).map valueOf) := by
  simp only [Value.fields?, mapM_entry readable, Option.bind_eq_bind, Option.bind_some,
    (once_iff readable).mpr once, if_true, lookup_entries readable, ObjectText.value?]

/-- An object with a key that denotes no text, or with a known field given twice, has no
fields. -/
theorem fields?_refused (fault : ¬ (o.Readable ∧ ∀ name ∈ names, o.count name ≤ 1)) :
    Value.fields? names (.object (o.members.map Member.entry)) = none := by
  by_cases readable : o.Readable
  · have twice := mt (once_iff readable).mp fun once => fault ⟨readable, once⟩
    simp only [Value.fields?, mapM_entry readable, Option.bind_eq_bind, Option.bind_some,
      if_neg twice]
  · have unreadable : ∃ m ∈ o.members, m.key = none := by
      simpa only [ObjectText.Readable, not_forall, not_not, exists_prop] using readable
    simp only [Value.fields?, mapM_unreadable unreadable, Option.bind_eq_bind, Option.bind_none]

end Fields

/-- An array has the fields in their order, if it has just as many values. -/
theorem fields?_array {names : List String} {values : List Value}
    (whole : values.length = names.length) :
    Value.fields? names (.array values) = some (values.map some) := by
  simp [Value.fields?, whole]

/-- A record is read with the default in place of a field that is not given, and not at
all if there is none. -/
structure Fills {α : Type} (read : List (Option Value) → Option α) (fields : List Field) :
    Prop where
  filled : ∀ given : String → Option Value, read (fields.map fun f => given f.name) =
    read (fields.map fun f => (given f.name).or (f.default.map valueOf))
  missing : ∀ given : String → Option Value, ∀ f ∈ fields, f.default = none →
    given f.name = none → read (fields.map fun f => given f.name) = none

theorem optional_getD {α : Type} {default : α} {read : Value → Option α} {v : Value}
    (same : read v = some default) (field : Option Value) :
    optional default read (some (field.getD v)) = optional default read field := by
  cases field with
  | none => exact same
  | some w => rfl

@[simp] theorem required_none {α : Type} (read : Value → Option α) : required read none = none :=
  rfl

section Parse

variable {α : Type} {read : List (Option Value) → Option α} {fields : List Field}
variable {o : ObjectText}

/-- The reader of a record, by the reader of the values of its fields. -/
def parse (read : List (Option Value) → Option α) (fields : List Field) (text : String) :
    Option α :=
  (Value.ofString? text).bind fun v => (v.fields? (fields.map Field.name)).bind read

/-- An object is read from the values of its known fields. Fields that are not known are
passed over, and their order is not seen. -/
theorem parse_object (readable : o.Readable) (once : ∀ f ∈ fields, o.count f.name ≤ 1) :
    parse read fields o.text = read (fields.map fun f => (o.value? f.name).map valueOf) := by
  have single : ∀ name ∈ fields.map Field.name, o.count name ≤ 1 := List.forall_mem_map.mpr once
  rw [parse, ofString?_object, Option.bind_some, fields?_members readable single, Option.bind_some,
    List.map_map]
  rfl

theorem parse_refused (fault : ¬ (o.Readable ∧ ∀ f ∈ fields, o.count f.name ≤ 1)) :
    parse read fields o.text = none := by
  have refused : ¬ (o.Readable ∧ ∀ name ∈ fields.map Field.name, o.count name ≤ 1) := by
    rwa [List.forall_mem_map]
  rw [parse, ofString?_object, Option.bind_some, fields?_refused refused, Option.bind_none]

/-- The array of the values is read from them directly, without keys. -/
theorem parse_array {values : List (List Char)} (formed : ∀ t ∈ values, IsValue t)
    (whole : values.length = fields.length) :
    parse read fields (arrayText values) = read (values.map fun t => some (valueOf t)) := by
  have length : (values.map valueOf).length = (fields.map Field.name).length := by
    simpa only [List.length_map] using whole
  rw [parse, ofString?_array formed, Option.bind_some, fields?_array length, Option.bind_some,
    List.map_map]
  rfl

/-- The value of a field is well-formed, be it given or a default. -/
theorem field?_formed {f : Field} {t : List Char} (has : o.field? f = some t) : IsValue t := by
  obtain given | ⟨-, default⟩ := Option.or_eq_some_iff.mp has
  · obtain ⟨m, found, rfl⟩ := Option.map_eq_some_iff.mp given
    exact o.formed m (List.mem_of_find?_eq_some found)
  · exact f.formed t default

/-- A record that fills in its defaults is read by its fields. Both readings are told
from the values of the fields, and these are the same. -/
theorem Fills.byFields (fills : Fills read fields) : ByFields (parse read fields) fields where
  agrees o values readable once given := by
    have formed : ∀ t ∈ values, IsValue t := by
      intro t member
      have listed : some t ∈ fields.map o.field? := given ▸ List.mem_map_of_mem member
      obtain ⟨f, -, has⟩ := List.mem_map.mp listed
      exact field?_formed has
    have whole : values.length = fields.length := by
      simpa using (congrArg List.length given).symm
    have same : fields.map (fun f => ((o.value? f.name).map valueOf).or (f.default.map valueOf)) =
        values.map fun t => some (valueOf t) := by
      have valued := congrArg (List.map (Option.map valueOf)) given
      simpa [Function.comp_def, ObjectText.field?, Option.map_or] using valued
    rw [parse_object readable once, fills.filled fun name => (o.value? name).map valueOf, same,
      parse_array formed whole]
  repeated o f member twice := parse_refused fun sound =>
    absurd (sound.2 f member) (Nat.not_le.mpr twice)
  missing o f member absent := by
    obtain ⟨notGiven, noDefault⟩ := Option.or_eq_none_iff.mp absent
    by_cases sound : o.Readable ∧ ∀ f ∈ fields, o.count f.name ≤ 1
    · rw [parse_object sound.1 sound.2]
      exact fills.missing (fun name => (o.value? name).map valueOf) f member noDefault
        (by rw [notGiven, Option.map_none])
    · exact parse_refused sound
  unreadable o unreadable := parse_refused fun sound => unreadable sound.1

end Parse

theorem isValue_emptyString : IsValue ['"', '"'] := .string .nil

theorem isValue_zero : IsValue ['0'] :=
  .number (.mk (List.mem_cons_self : [] ∈ [[], ['-']]) .zero .absent .absent)

@[simp] theorem optional_emptyString (field : Option Value) :
    optional "" Value.string? (some (field.getD (valueOf ['"', '"']))) =
      optional "" Value.string? field :=
  have same : Value.string? (valueOf ['"', '"']) = some "" := rfl
  optional_getD same field

@[simp] theorem optional_zero (field : Option Value) :
    optional 0 Value.word32? (some (field.getD (valueOf ['0']))) =
      optional 0 Value.word32? field :=
  have same : Value.word32? (valueOf ['0']) = some 0 := rfl
  optional_getD same field

@[simp] theorem optional_null {α : Type} (read : Value → Option α) (field : Option Value) :
    optional none (nullable read) (some (field.getD (valueOf ['n', 'u', 'l', 'l']))) =
      optional none (nullable read) field :=
  have same : nullable read (valueOf ['n', 'u', 'l', 'l']) = some none := rfl
  optional_getD same field

end Json

open Json

namespace PurchaseRequest

/-- Nothing has to be given in a request. -/
def fields : List Field :=
  [.defaulted "request_id" ['"', '"'] isValue_emptyString,
    .defaulted "user_id" ['"', '"'] isValue_emptyString,
    .defaulted "item_id" ['"', '"'] isValue_emptyString, .defaulted "quantity" ['0'] isValue_zero]

theorem fills : Fills ofFields? fields where
  filled given := by simp [fields, Field.defaulted, ofFields?]
  missing given f member noDefault absent := by
    simp only [fields, Field.defaulted, List.mem_cons, List.not_mem_nil, or_false] at member
    obtain rfl | rfl | rfl | rfl := member <;> cases noDefault

end PurchaseRequest

namespace PurchaseResponse

def fields : List Field :=
  [.needed "success", .needed "message", .defaulted "order_id" ['n', 'u', 'l', 'l'] .null]

theorem fills : Fills ofFields? fields where
  filled given := by simp [fields, Field.needed, Field.defaulted, ofFields?]
  missing given f member noDefault absent := by
    simp only [fields, List.mem_cons, List.not_mem_nil, or_false] at member
    obtain rfl | rfl | rfl := member
    · simp [fields, Field.defaulted, ofFields?, absent]
    · simp [fields, Field.defaulted, ofFields?, absent]
    · cases noDefault

end PurchaseResponse

namespace HealthResponse

def fields : List Field := fieldNames.map .needed

theorem fills : Fills ofFields? fields where
  filled given := by simp [fields, Field.needed, Function.comp_def]
  missing given f member _ absent := by
    simp only [fields, fieldNames, List.map_cons, List.map_nil, List.mem_cons, List.not_mem_nil,
      or_false] at member
    obtain rfl | rfl | rfl := member <;> simp [fields, fieldNames, ofFields?, absent]

end HealthResponse

namespace Order

def fields : List Field := fieldNames.map .needed

theorem fills : Fills ofFields? fields where
  filled given := by simp [fields, Field.needed, Function.comp_def]
  missing given f member _ absent := by
    simp only [fields, fieldNames, List.map_cons, List.map_nil, List.mem_cons, List.not_mem_nil,
      or_false] at member
    obtain rfl | rfl | rfl | rfl | rfl | rfl | rfl := member <;>
      simp [fields, fieldNames, ofFields?, absent]

end Order

namespace Inventory

def fields : List Field := fieldNames.map .needed

theorem fills : Fills ofFields? fields where
  filled given := by simp [fields, Field.needed, Function.comp_def]
  missing given f member _ absent := by
    simp only [fields, fieldNames, List.map_cons, List.map_nil, List.mem_cons, List.not_mem_nil,
      or_false] at member
    obtain rfl | rfl | rfl | rfl | rfl := member <;>
      simp [fields, fieldNames, ofFields?, absent]

end Inventory

/-- Objects with the fields of a record, with others and in any order, are read by its
fields. Each record only has to fill in its own defaults. -/
theorem json_byFields :
    ByFields PurchaseRequest.ofJson? PurchaseRequest.fields ∧
      ByFields PurchaseResponse.ofJson? PurchaseResponse.fields ∧
      ByFields HealthResponse.ofJson? HealthResponse.fields ∧
      ByFields Order.ofJson? Order.fields ∧ ByFields Inventory.ofJson? Inventory.fields :=
  ⟨PurchaseRequest.fills.byFields, PurchaseResponse.fills.byFields, HealthResponse.fills.byFields,
    Order.fills.byFields, Inventory.fills.byFields⟩

example : PurchaseRequest.ofJson? "\x7b \"x\": [[]], \"qu\\u0061ntity\" : 3, \"x\":-1e2 \x7d" =
    PurchaseRequest.ofJson? "[\"\",\"\",\"\",3]" := by decide +kernel

end FlashSale
