import FlashSale.Proofs.Config.CommandLine
import FlashSale.Proofs.Text.Number
import Mathlib.Data.List.Nodup

/-!
# Which text wins

The text of a setting on the command line wins over its variable in the environment, and that
over the default. A configuration has exactly the values of the winning texts, and there is one
exactly if all of them are valid and the stock to begin with is given as a whole or not at all.
So neither the order of the arguments matters nor any text that does not win.

What a setting's text denotes is `Setting.Denotes`; the functions that read texts agree with it,
which is `Decodes`. Everything else is said of all settings at once.
-/

namespace FlashSale

/-- The value of a field of a configuration. -/
inductive Datum where
  | text (t : String)
  | number (n : Int)

/-- What a setting takes: any text, or a number in a range. The ranges are those of the
words that hold the numbers later. -/
inductive Kind where
  | text
  | natural (greatest : Nat)
  | integer (least greatest : Int)

def Setting.kind : Setting → Kind
  | databaseUrl => .text
  | redisUrl => .text
  | port => .integer 0 65535
  | workerCount => .natural 18446744073709551615
  | queueCapacity => .natural 18446744073709551615
  | commitTimeoutMs => .natural 18446744073709551615
  | idempotencyTtlSecs => .natural 18446744073709551615
  | dbPoolSize => .integer 0 4294967295
  | seedItem => .text
  | seedStock => .integer (-2147483648) 2147483647

/-- The text denotes the value, which is in the range. It says what is meant and not how
texts are read. -/
inductive Kind.Denotes : Kind → String → Datum → Prop where
  | text (t : String) : Denotes .text t (.text t)
  | natural {t : String} {n greatest : Nat} (isNatural : IsNatural t n) (upper : n ≤ greatest) :
      Denotes (.natural greatest) t (.number n)
  | integer {t : String} {i least greatest : Int} (isInteger : IsInteger t i) (lower : least ≤ i)
      (upper : i ≤ greatest) : Denotes (.integer least greatest) t (.number i)

/-- The text denotes the value for the setting. -/
def Setting.Denotes (s : Setting) (t : String) (v : Datum) : Prop := s.kind.Denotes t v

/-- The text is valid for the setting. -/
def Setting.Valid (s : Setting) (t : String) : Prop := ∃ v, s.Denotes t v

namespace Config

/-- The value that a configuration has for a setting, unless it is unset. -/
def datum? (c : Config) : Setting → Option Datum
  | .databaseUrl => some (.text c.databaseUrl)
  | .redisUrl => some (.text c.redisUrl)
  | .port => some (.number c.port.toNat)
  | .workerCount => some (.number c.workerCount.toNat)
  | .queueCapacity => some (.number c.queueCapacity.toNat)
  | .commitTimeoutMs => some (.number c.commitTimeoutMs.toNat)
  | .idempotencyTtlSecs => some (.number c.idempotencyTtlSecs.toNat)
  | .dbPoolSize => some (.number c.dbPoolSize.toNat)
  | .seedItem => c.seedItem.map .text
  | .seedStock => c.seedStock.map fun stock => .number stock.toInt

section Winning

variable (options : List (Setting × String)) (env : String → Option String)

/-- The text wins for the setting: it is given on the command line; or it is in the
environment, and none is given; or it is the default, and there is no other. -/
inductive Wins (s : Setting) : String → Prop where
  | commandLine {t : String} (given : (s, t) ∈ options) : Wins s t
  | environment {t : String} (notGiven : ∀ t, (s, t) ∉ options)
      (set : env s.variableName = some t) : Wins s t
  | default {t : String} (notGiven : ∀ t, (s, t) ∉ options) (unset : env s.variableName = none)
      (isDefault : s.default? = some t) : Wins s t

/-- The setting is given, on the command line or in the environment. -/
def Supplied (s : Setting) : Prop := (∃ t, (s, t) ∈ options) ∨ env s.variableName ≠ none

end Winning

/-- The function reads the texts of a setting as what they denote, and no two of its
results stand for the same value. Each reader of the configuration is such a function.
-/
structure Decodes {α : Type} (s : Setting) (read : String → Except NumberError α)
    (datum : α → Datum) : Prop where
  denotes : ∀ t v, s.Denotes t v ↔ ∃ a, read t = .ok a ∧ v = datum a
  injective : ∀ a b, datum a = datum b → a = b

theorem decodes_text {s : Setting} (kind : s.kind = .text) : Decodes s .ok .text where
  denotes t v := by
    rw [Setting.Denotes, kind]
    constructor
    · rintro ⟨⟩
      exact ⟨t, rfl, rfl⟩
    · rintro ⟨a, ⟨⟩, rfl⟩
      exact .text t
  injective a b same := by cases same; rfl

theorem decodes_size {s : Setting} (kind : s.kind = .natural 18446744073709551615) :
    Decodes s readSize fun n => .number n.toNat where
  denotes t v := by
    have back : ∀ n ≤ 18446744073709551615, (UInt64.ofNat n).toNat = n := fun n upper =>
      UInt64.toNat_ofNat_of_lt' (Nat.lt_succ_of_le upper)
    rw [Setting.Denotes, kind]
    constructor
    · intro denotes
      cases denotes with
      | @natural _ n _ isNatural upper =>
          refine ⟨.ofNat n, map_eq_ok.mpr ⟨n, Number.natural_eq_ok.mpr ⟨isNatural, upper⟩, rfl⟩, ?_⟩
          rw [back n upper]
    · rintro ⟨a, read, rfl⟩
      obtain ⟨n, natural, rfl⟩ := map_eq_ok.mp read
      obtain ⟨isNatural, upper⟩ := Number.natural_eq_ok.mp natural
      rw [back n upper]
      exact .natural isNatural upper
  injective a b same := UInt64.toNat_inj.mp (Int.ofNat.inj (Datum.number.inj same))

section Between

variable {α : Type} {s : Setting} {least greatest : Int}

/-- The integers of a range are read into a type that has them all. The two settings
with a port or a size, and the stock, are cases of it. -/
theorem decodes_between {word : Int → α} {value : α → Int}
    (kind : s.kind = .integer least greatest) (lower : -9223372036854775808 ≤ least)
    (upper : greatest ≤ 9223372036854775807)
    (back : ∀ i, least ≤ i → i ≤ greatest → value (word i) = i)
    (injective : ∀ a b, value a = value b → a = b) :
    Decodes s (fun t => (Number.between least greatest t).map word) fun a => .number (value a) where
  denotes t v := by
    rw [Setting.Denotes, kind]
    constructor
    · intro denotes
      cases denotes with
      | @integer _ i _ _ isInteger atLeast atMost =>
          refine ⟨word i, map_eq_ok.mpr ⟨i, ?_, rfl⟩, ?_⟩
          · exact (Number.between_eq_ok lower upper).mpr ⟨isInteger, atLeast, atMost⟩
          · rw [back i atLeast atMost]
    · rintro ⟨a, read, rfl⟩
      obtain ⟨i, between, rfl⟩ := map_eq_ok.mp read
      obtain ⟨isInteger, atLeast, atMost⟩ := (Number.between_eq_ok lower upper).mp between
      rw [back i atLeast atMost]
      exact .integer isInteger atLeast atMost
  injective a b same := injective a b (Datum.number.inj same)

end Between

theorem decodes_port : Decodes .port readPort fun n => .number n.toNat :=
  decodes_between rfl (by decide) (by decide)
    (fun i lower upper => by
      have small : i.toNat < UInt16.size := by
        change i.toNat < 65536
        omega
      rw [UInt16.toNat_ofNat_of_lt' small, Int.toNat_of_nonneg lower])
    fun _ _ same => UInt16.toNat_inj.mp (Int.ofNat.inj same)

theorem decodes_poolSize : Decodes .dbPoolSize readPoolSize fun n => .number n.toNat :=
  decodes_between rfl (by decide) (by decide)
    (fun i lower upper => by
      have small : i.toNat < UInt32.size := by
        change i.toNat < 4294967296
        omega
      rw [UInt32.toNat_ofNat_of_lt' small, Int.toNat_of_nonneg lower])
    fun _ _ same => UInt32.toNat_inj.mp (Int.ofNat.inj same)

theorem decodes_stock : Decodes .seedStock readStock fun n => .number n.toInt :=
  decodes_between rfl (by decide) (by decide)
    (fun _ lower upper => Int32.toInt_ofInt_of_le (by omega) (by omega))
    fun _ _ => Int32.toInt_inj.mp

section Decoding

variable {α : Type} {s : Setting} {read : String → Except NumberError α} {datum : α → Datum}
variable {winner : Setting → Option String}

/-- A text is valid if and only if it is read without an error. -/
theorem Decodes.valid (decodes : Decodes s read datum) {t : String} :
    s.Valid t ↔ ∃ a, read t = .ok a := by
  constructor
  · rintro ⟨v, denotes⟩
    obtain ⟨a, read, -⟩ := (decodes.denotes t v).mp denotes
    exact ⟨a, read⟩
  · rintro ⟨a, read⟩
    exact ⟨datum a, (decodes.denotes t _).mpr ⟨a, read, rfl⟩⟩

theorem Decodes.unique (decodes : Decodes s read datum) {t : String} {v v' : Datum}
    (denotes : s.Denotes t v) (denotes' : s.Denotes t v') : v = v' := by
  obtain ⟨a, reads, rfl⟩ := (decodes.denotes t v).mp denotes
  obtain ⟨b, reads', rfl⟩ := (decodes.denotes t v').mp denotes'
  rw [Except.ok.inj (reads.symm.trans reads')]

/-- A text that is read as a value denotes it, and the other way round. So what follows
speaks of what texts denote, and of no reader. -/
theorem Decodes.read_eq_ok (decodes : Decodes s read datum) {t : String} {a : α} :
    valueOf s t read = .ok a ↔ s.Denotes t (datum a) := by
  have plain : valueOf s t read = .ok a ↔ read t = .ok a := by
    unfold valueOf
    cases read t <;> simp [Except.mapError]
  rw [plain, decodes.denotes]
  constructor
  · exact fun read => ⟨a, read, rfl⟩
  · rintro ⟨b, read, same⟩
    exact decodes.injective a b same ▸ read

/-- A setting that must be there has the value that its winning text denotes. -/
theorem Decodes.required_eq_ok (decodes : Decodes s read datum) {a : α} :
    required winner s read = .ok a ↔ Option.Rel s.Denotes (winner s) (some (datum a)) := by
  unfold required
  cases winner s with
  | none => exact ⟨nofun, nofun⟩
  | some t => exact decodes.read_eq_ok.trans ⟨.some, fun | .some denotes => denotes⟩

/-- A setting that may be unset has the value that its winning text denotes, if there is
one. -/
theorem Decodes.optional_eq_ok (decodes : Decodes s read datum) {a : Option α} :
    optional winner s read = .ok a ↔ Option.Rel s.Denotes (winner s) (a.map datum) := by
  unfold optional
  cases winner s with
  | none =>
      constructor
      · rintro ⟨⟩
        exact .none
      · intro unset
        cases a with
        | none => rfl
        | some a => cases unset
  | some t =>
      simp only [map_eq_ok, decodes.read_eq_ok]
      constructor
      · rintro ⟨b, denotes, rfl⟩
        exact .some denotes
      · intro set
        cases a with
        | none => cases set
        | some a =>
            cases set with
            | some denotes => exact ⟨a, denotes, rfl⟩

end Decoding

/-- The check of a text on the command line is passed by the valid texts. -/
theorem fault?_eq_none {s : Setting} {t : String} : fault? s t = none ↔ s.Valid t := by
  have reads {α : Type} {x : Except NumberError α} {fault : Option NumberError}
      (ok : ∀ a, x = .ok a → fault = none) (error : ∀ e, x = .error e → fault = some e) :
      fault = none ↔ ∃ a, x = .ok a := by
    cases x with
    | ok a => exact iff_of_true (ok a rfl) ⟨a, rfl⟩
    | error e => exact iff_of_false (by simp [error e rfl]) (by simp)
  cases s with
  | databaseUrl => exact ⟨fun _ => ⟨_, .text t⟩, fun _ => rfl⟩
  | redisUrl => exact ⟨fun _ => ⟨_, .text t⟩, fun _ => rfl⟩
  | seedItem => exact ⟨fun _ => ⟨_, .text t⟩, fun _ => rfl⟩
  | port =>
      refine (reads ?_ ?_).trans decodes_port.valid.symm <;> simp +contextual [fault?]
  | dbPoolSize =>
      refine (reads ?_ ?_).trans decodes_poolSize.valid.symm <;> simp +contextual [fault?]
  | seedStock =>
      refine (reads ?_ ?_).trans decodes_stock.valid.symm <;> simp +contextual [fault?]
  | _ =>
      refine (reads ?_ ?_).trans (decodes_size rfl).valid.symm <;> simp +contextual [fault?]

/-- A text denotes one value at most, since for every setting there is a reader of its
texts. -/
theorem denotes_unique {s : Setting} {t : String} {v v' : Datum} (denotes : s.Denotes t v)
    (denotes' : s.Denotes t v') : v = v' := by
  cases s with
  | databaseUrl => exact (decodes_text rfl).unique denotes denotes'
  | redisUrl => exact (decodes_text rfl).unique denotes denotes'
  | port => exact decodes_port.unique denotes denotes'
  | workerCount => exact (decodes_size rfl).unique denotes denotes'
  | queueCapacity => exact (decodes_size rfl).unique denotes denotes'
  | commitTimeoutMs => exact (decodes_size rfl).unique denotes denotes'
  | idempotencyTtlSecs => exact (decodes_size rfl).unique denotes denotes'
  | dbPoolSize => exact decodes_poolSize.unique denotes denotes'
  | seedItem => exact (decodes_text rfl).unique denotes denotes'
  | seedStock => exact decodes_stock.unique denotes denotes'

/-- A configuration is accepted if the stock to begin with is given as a whole, with its
item and its quantity, or not at all. -/
theorem checkSeed_eq_ok {c c' : Config} :
    checkSeed c = .ok c' ↔ c = c' ∧ (c.seedItem.isSome = c.seedStock.isSome) := by
  unfold checkSeed
  cases c.seedItem <;> cases c.seedStock <;> simp

section Winners

variable {winner : Setting → Option String} {c : Config}

/-- The values of the winning texts, and the stock to begin with as a whole. This is the
whole meaning of a configuration, with nothing about the order in which settings are
read. -/
theorem ofWinners_eq_ok : ofWinners winner = .ok c ↔
    (∀ s, Option.Rel s.Denotes (winner s) (c.datum? s)) ∧
      c.seedItem.isSome = c.seedStock.isSome := by
  constructor
  · intro read
    simp only [ofWinners, bind_eq_ok, checkSeed_eq_ok] at read
    obtain ⟨databaseUrl, url, redisUrl, redis, port, listens, workers, count, capacity, size,
      limit, ms, ttl, secs, pool, connections, item, seeds, stock, amount, rfl, both⟩ := read
    refine ⟨fun s => ?_, both⟩
    cases s with
    | databaseUrl => exact (decodes_text rfl).required_eq_ok.mp url
    | redisUrl => exact (decodes_text rfl).required_eq_ok.mp redis
    | port => exact decodes_port.required_eq_ok.mp listens
    | workerCount => exact (decodes_size rfl).required_eq_ok.mp count
    | queueCapacity => exact (decodes_size rfl).required_eq_ok.mp size
    | commitTimeoutMs => exact (decodes_size rfl).required_eq_ok.mp ms
    | idempotencyTtlSecs => exact (decodes_size rfl).required_eq_ok.mp secs
    | dbPoolSize => exact decodes_poolSize.required_eq_ok.mp connections
    | seedItem => exact (decodes_text rfl).optional_eq_ok.mp seeds
    | seedStock => exact decodes_stock.optional_eq_ok.mp amount
  · rintro ⟨values, both⟩
    simp only [ofWinners, bind_eq_ok, checkSeed_eq_ok]
    exact ⟨_, (decodes_text rfl).required_eq_ok.mpr (values .databaseUrl),
      _, (decodes_text rfl).required_eq_ok.mpr (values .redisUrl),
      _, decodes_port.required_eq_ok.mpr (values .port),
      _, (decodes_size rfl).required_eq_ok.mpr (values .workerCount),
      _, (decodes_size rfl).required_eq_ok.mpr (values .queueCapacity),
      _, (decodes_size rfl).required_eq_ok.mpr (values .commitTimeoutMs),
      _, (decodes_size rfl).required_eq_ok.mpr (values .idempotencyTtlSecs),
      _, decodes_poolSize.required_eq_ok.mpr (values .dbPoolSize),
      _, (decodes_text rfl).optional_eq_ok.mpr (values .seedItem),
      _, decodes_stock.optional_eq_ok.mpr (values .seedStock), rfl, both⟩

/-- Where all winning texts are valid there is a value for each setting that has one. -/
theorem Decodes.exists_required {α : Type} {s : Setting} {read : String → Except NumberError α}
    {datum : α → Datum} (decodes : Decodes s read datum) (has : winner s ≠ none)
    (valid : ∀ t, winner s = some t → s.Valid t) :
    ∃ a, Option.Rel s.Denotes (winner s) (some (datum a)) := by
  obtain ⟨t, wins⟩ := Option.ne_none_iff_exists'.mp has
  obtain ⟨v, denotes⟩ := valid t wins
  obtain ⟨a, -, rfl⟩ := (decodes.denotes t v).mp denotes
  exact ⟨a, wins ▸ .some denotes⟩

theorem Decodes.exists_optional {α : Type} {s : Setting} {read : String → Except NumberError α}
    {datum : α → Datum} (decodes : Decodes s read datum)
    (valid : ∀ t, winner s = some t → s.Valid t) :
    ∃ a : Option α, Option.Rel s.Denotes (winner s) (a.map datum) := by
  by_cases unset : winner s = none
  · exact ⟨none, unset ▸ .none⟩
  · obtain ⟨a, read⟩ := decodes.exists_required unset valid
    exact ⟨some a, read⟩

theorem isSome_eq_of_rel {α β : Type} {r : α → β → Prop} {a : Option α} {b : Option β}
    (rel : Option.Rel r a b) : a.isSome = b.isSome := by
  cases rel <;> rfl

theorem valid_of_rel {s : Setting} {t : String} {v : Option Datum}
    (rel : Option.Rel s.Denotes (some t) v) : s.Valid t := by
  cases rel with
  | some denotes => exact ⟨_, denotes⟩

/-- Only a setting without a default may be unset. -/
theorem datum?_ne_none {s : Setting} (hasDefault : s.default? ≠ none) : c.datum? s ≠ none := by
  cases s with
  | seedItem => exact absurd rfl hasDefault
  | seedStock => exact absurd rfl hasDefault
  | _ => exact nofun

/-- There is a configuration for the winning texts if and only if all of them are valid,
every setting that has to be there has one, and the stock to begin with is there as a
whole or not at all. -/
theorem exists_ofWinners : (∃ c, ofWinners winner = .ok c) ↔
    (∀ s, s.default? ≠ none → winner s ≠ none) ∧ (∀ s t, winner s = some t → s.Valid t) ∧
      (winner .seedItem).isSome = (winner .seedStock).isSome := by
  constructor
  · rintro ⟨c, read⟩
    obtain ⟨values, both⟩ := ofWinners_eq_ok.mp read
    refine ⟨fun s hasDefault unset => ?_, fun s t wins => ?_, ?_⟩
    · have same := isSome_eq_of_rel (values s)
      rw [unset] at same
      have noValue : c.datum? s = none := by simpa using same.symm
      exact datum?_ne_none hasDefault noValue
    · have value := values s
      rw [wins] at value
      exact valid_of_rel value
    · have item := isSome_eq_of_rel (values .seedItem)
      have stock := isSome_eq_of_rel (values .seedStock)
      simp only [datum?, Option.isSome_map] at item stock
      rw [item, stock, both]
  · rintro ⟨has, valid, both⟩
    obtain ⟨url, isUrl⟩ := (decodes_text rfl).exists_required (has .databaseUrl nofun) (valid _)
    obtain ⟨redis, isRedis⟩ := (decodes_text rfl).exists_required (has .redisUrl nofun) (valid _)
    obtain ⟨port, isPort⟩ := decodes_port.exists_required (has _ nofun) (valid _)
    obtain ⟨count, isCount⟩ := (decodes_size rfl).exists_required (has .workerCount nofun) (valid _)
    obtain ⟨size, isSize⟩ := (decodes_size rfl).exists_required (has .queueCapacity nofun) (valid _)
    obtain ⟨ms, isMs⟩ := (decodes_size rfl).exists_required (has .commitTimeoutMs nofun) (valid _)
    obtain ⟨ttl, isTtl⟩ :=
      (decodes_size rfl).exists_required (has .idempotencyTtlSecs nofun) (valid _)
    obtain ⟨pool, isPool⟩ := decodes_poolSize.exists_required (has _ nofun) (valid _)
    obtain ⟨item, isItem⟩ := (decodes_text rfl).exists_optional (valid .seedItem)
    obtain ⟨stock, isStock⟩ := decodes_stock.exists_optional (valid _)
    refine ⟨⟨url, redis, port, count, size, ms, ttl, pool, item, stock⟩,
      ofWinners_eq_ok.mpr ⟨fun s => ?_, ?_⟩⟩
    · cases s <;> assumption
    · have sameItem := isSome_eq_of_rel isItem
      have sameStock := isSome_eq_of_rel isStock
      simp only [Option.isSome_map] at sameItem sameStock
      rw [← sameItem, ← sameStock, both]

end Winners

section Options

variable {options : List (Setting × String)} {env : String → Option String} {s : Setting}
variable {t : String}

theorem lookup_eq_some (distinct : (options.map Prod.fst).Nodup) :
    options.lookup s = some t ↔ (s, t) ∈ options := by
  rw [List.lookup_eq_some_iff]
  constructor
  · rintro ⟨front, back, rfl, -⟩
    exact List.mem_append_right _ List.mem_cons_self
  · intro member
    obtain ⟨front, back, rfl⟩ := List.append_of_mem member
    refine ⟨front, back, rfl, ?_⟩
    rintro ⟨other, u⟩ before
    rw [bne_iff_ne]
    rintro rfl
    have listed : s ∈ front.map Prod.fst := List.mem_map_of_mem before
    exact fresh_of_distinct distinct listed

theorem lookup_eq_none : options.lookup s = none ↔ ∀ t, (s, t) ∉ options := by
  rw [List.lookup_eq_none_iff]
  constructor
  · exact fun other t member => bne_iff_ne.mp (other _ member) rfl
  · rintro absent ⟨s', t⟩ member
    exact bne_iff_ne.mpr fun same => absent t (same ▸ member)

/-- The text that is looked up first on the command line, then in the environment and
then among the defaults is the one that wins. -/
theorem winner?_eq_some (distinct : (options.map Prod.fst).Nodup) :
    winner? options env s = some t ↔ Wins options env s t := by
  unfold winner?
  constructor
  · intro wins
    obtain listed | ⟨absent, wins⟩ := Option.or_eq_some_iff.mp wins
    · exact .commandLine ((lookup_eq_some distinct).mp listed)
    · obtain set | ⟨unset, isDefault⟩ := Option.or_eq_some_iff.mp wins
      · exact .environment (lookup_eq_none.mp absent) set
      · exact .default (lookup_eq_none.mp absent) unset isDefault
  · rintro (listed | ⟨absent, set⟩ | ⟨absent, unset, isDefault⟩)
    · rw [(lookup_eq_some distinct).mpr listed, Option.some_or]
    · rw [lookup_eq_none.mpr absent, set, Option.none_or, Option.some_or]
    · rw [lookup_eq_none.mpr absent, unset, isDefault, Option.none_or, Option.none_or]

theorem winner?_ne_none (hasDefault : s.default? ≠ none) : winner? options env s ≠ none := by
  simp [winner?, hasDefault]

theorem winner?_isSome (noDefault : s.default? = none) :
    (winner? options env s).isSome = true ↔ Supplied options env s := by
  have listed : (options.lookup s).isSome = true ↔ ∃ t, (s, t) ∈ options := by
    rw [← Option.ne_none_iff_isSome, ne_eq, lookup_eq_none, Classical.not_forall_not]
  rw [winner?, noDefault, Option.or_none, Option.isSome_or, Bool.or_eq_true, listed, Supplied,
    Option.ne_none_iff_isSome]

/-- Which text wins does not depend on the order of the arguments. All that matters of
an argument is that it is there. -/
theorem Wins.of_perm {options' : List (Setting × String)} (perm : options'.Perm options)
    (wins : Wins options' env s t) : Wins options env s t := by
  cases wins with
  | commandLine given => exact .commandLine (perm.mem_iff.mp given)
  | environment notGiven set => exact .environment (fun t => mt perm.mem_iff.mpr (notGiven t)) set
  | default notGiven unset isDefault =>
      exact .default (fun t => mt perm.mem_iff.mpr (notGiven t)) unset isDefault

/-- Two sources of texts for which the same texts win have the same winners. So nothing
depends on the texts that do not win. -/
theorem winner?_congr {options' : List (Setting × String)} {env' : String → Option String}
    (distinct : (options.map Prod.fst).Nodup) (distinct' : (options'.map Prod.fst).Nodup)
    (same : ∀ s t, Wins options' env' s t ↔ Wins options env s t) :
    winner? options' env' = winner? options env :=
  funext fun s => Option.ext fun t =>
    (winner?_eq_some distinct').trans ((same s t).trans (winner?_eq_some distinct).symm)

/-- Where the texts on the command line are valid, the configuration is made of the
winners. -/
theorem parse_valid (distinct : (options.map Prod.fst).Nodup)
    (valid : ∀ o ∈ options, fault? o.1 o.2 = none) :
    parse (given options) env = ofWinners (winner? options env) := by
  rw [parse, scan_valid distinct valid]
  rfl

/-- An invalid text on the command line is an error, whatever the environment says.
Arguments are looked at before anything else. -/
theorem parse_invalid (distinct : (options.map Prod.fst).Nodup)
    (invalid : ¬ ∀ o ∈ options, fault? o.1 o.2 = none) :
    ∃ r, ∀ env, parse (given options) env = .error r := by
  have found : ∃ o ∈ options, fault? o.1 o.2 ≠ none := by
    simpa using invalid
  obtain ⟨r, refused⟩ := scan_invalid distinct found
  refine ⟨r, fun env => ?_⟩
  rw [parse, refused]
  rfl

/-- A text on the command line wins, so the winning texts are all that has to be valid.
-/
theorem parse_eq_ok (distinct : (options.map Prod.fst).Nodup) {c : Config} :
    parse (given options) env = .ok c ↔ ofWinners (winner? options env) = .ok c := by
  by_cases valid : ∀ o ∈ options, fault? o.1 o.2 = none
  · rw [parse_valid distinct valid]
  · obtain ⟨r, refused⟩ := parse_invalid distinct valid
    rw [refused]
    refine ⟨nofun, fun read => (valid ?_).elim⟩
    rintro ⟨s, t⟩ listed
    have wins : winner? options env s = some t :=
      (winner?_eq_some distinct).mpr (.commandLine listed)
    exact fault?_eq_none.mpr ((exists_ofWinners.mp ⟨c, read⟩).2.1 s t wins)

end Options

/-- The configuration is what the winning texts say. There is one if they are all valid
and the stock is given as a whole, and each of its fields is what the winning text of
its setting denotes. -/
structure Governed (options : List (Setting × String)) (env : String → Option String) : Prop where
  accepted : (∃ c, parse (given options) env = .ok c) ↔
    (∀ s t, Wins options env s t → s.Valid t) ∧
      (Supplied options env .seedItem ↔ Supplied options env .seedStock)
  values : ∀ c, parse (given options) env = .ok c → ∀ s v,
    c.datum? s = some v ↔ ∃ t, Wins options env s t ∧ s.Denotes t v
  limit : ∀ c, parse (given options) env = .ok c → ∀ t n, Wins options env .commitTimeoutMs t →
    Setting.commitTimeoutMs.Denotes t (.number n) → c.commitTimeout.nanos = n * 1000000
  seed : ∀ c, parse (given options) env = .ok c → ∀ item stock, c.seed = some (item, stock) ↔
    c.datum? .seedItem = some (.text item) ∧ c.datum? .seedStock = some (.number stock.toInt)
  seeded : ∀ c, parse (given options) env = .ok c →
    (c.seed ≠ none ↔ Supplied options env .seedItem ∨ Supplied options env .seedStock)
  order : ∀ options' : List (Setting × String), options'.Perm options →
    (parse (given options') env).toOption = (parse (given options) env).toOption
  losing : ∀ env' : String → Option String,
    (∀ s t, Wins options env' s t ↔ Wins options env s t) →
      parse (given options) env' = parse (given options) env

theorem toOption_eq_some {ε α : Type} {x : Except ε α} {a : α} :
    x.toOption = some a ↔ x = .ok a := by
  cases x <;> simp [Except.toOption]

section Governed

variable {options : List (Setting × String)} {env : String → Option String} {c : Config}

/-- Each field of the configuration is what the winning text of its setting denotes, and
it is unset if no text wins. -/
theorem values_of_parse (distinct : (options.map Prod.fst).Nodup)
    (parsed : parse (given options) env = .ok c) (s : Setting) (v : Datum) :
    c.datum? s = some v ↔ ∃ t, Wins options env s t ∧ s.Denotes t v := by
  have rel := (ofWinners_eq_ok.mp ((parse_eq_ok distinct).mp parsed)).1 s
  simp only [← winner?_eq_some distinct]
  generalize winner? options env s = winner at rel ⊢
  generalize c.datum? s = value at rel ⊢
  cases rel with
  | none => simp
  | @some t w denotes =>
      constructor
      · rintro ⟨⟩
        exact ⟨t, rfl, denotes⟩
      · rintro ⟨_, ⟨⟩, other⟩
        rw [denotes_unique denotes other]

theorem governed (distinct : (options.map Prod.fst).Nodup) : Governed options env where
  accepted := by
    simp only [parse_eq_ok distinct, exists_ofWinners, winner?_eq_some distinct]
    rw [Bool.eq_iff_iff, winner?_isSome rfl, winner?_isSome rfl]
    exact and_iff_right fun s hasDefault => winner?_ne_none hasDefault
  values c parsed := values_of_parse distinct parsed
  limit c parsed t n wins denotes := by
    have value := (values_of_parse distinct parsed .commitTimeoutMs _).mpr ⟨t, wins, denotes⟩
    obtain rfl := Datum.number.inj (Option.some.inj value)
    rfl
  seed c parsed item stock := by
    rw [Config.seed, datum?, datum?]
    cases c.seedItem <;> cases c.seedStock <;> simp [Int32.toInt_inj]
  seeded c parsed := by
    obtain ⟨values, both⟩ := ofWinners_eq_ok.mp ((parse_eq_ok distinct).mp parsed)
    have item := isSome_eq_of_rel (values .seedItem)
    have stock := isSome_eq_of_rel (values .seedStock)
    rw [← winner?_isSome rfl, ← winner?_isSome rfl, item, stock, Config.seed, datum?, datum?]
    revert both
    cases c.seedItem <;> cases c.seedStock <;> simp
  order options' perm := by
    have distinct' : (options'.map Prod.fst).Nodup := ((perm.map _).nodup_iff).mpr distinct
    have winners : winner? options' env = winner? options env :=
      winner?_congr distinct distinct' fun s t => ⟨Wins.of_perm perm, Wins.of_perm perm.symm⟩
    have same (c : Config) : parse (given options') env = .ok c ↔
        parse (given options) env = .ok c := by
      rw [parse_eq_ok distinct', parse_eq_ok distinct, winners]
    exact Option.ext fun c => by rw [toOption_eq_some, toOption_eq_some, same]
  losing env' same := by
    have winners := winner?_congr distinct distinct same
    by_cases valid : ∀ o ∈ options, fault? o.1 o.2 = none
    · rw [parse_valid distinct valid, parse_valid distinct valid, winners]
    · obtain ⟨r, refused⟩ := parse_invalid distinct valid
      rw [refused, refused]

end Governed

section Arguments

variable {c : Config} {env : String → Option String} {s : Setting} {t : String}

/-- The texts of the settings that a configuration has, as they are written on a command
line. -/
def options (c : Config) : List (Setting × String) :=
  Setting.all.filterMap fun s => (c.valueText? s).map fun t => (s, t)

theorem arguments_eq_given (c : Config) : c.arguments = given c.options := by
  simp [arguments, given, options, List.map_filterMap, Function.comp_def]

theorem mem_options : (s, t) ∈ c.options ↔ c.valueText? s = some t := by
  have listed : s ∈ Setting.all := by cases s <;> decide
  simp [options, listed]

theorem options_distinct (c : Config) : (c.options.map Prod.fst).Nodup := by
  have keys : c.options.map Prod.fst =
      Setting.all.filterMap fun s => (c.valueText? s).map fun _ => s := by
    simp [options, List.map_filterMap, Function.comp_def]
  have all : Setting.all.Nodup := by decide
  rw [keys]
  refine List.Nodup.filterMap (fun s s' k first second => ?_) all
  obtain ⟨_, -, rfl⟩ := Option.map_eq_some_iff.mp first
  obtain ⟨_, -, rfl⟩ := Option.map_eq_some_iff.mp second
  rfl

theorem denotes_natural {n : Nat} {least greatest : Int} (lower : least ≤ n)
    (upper : n ≤ greatest) : Kind.Denotes (.integer least greatest) (naturalText n) (.number n) :=
  .integer (.natural (.plain (writes_ofNat n))) lower upper

theorem denotes_size (n : UInt64) :
    Kind.Denotes (.natural 18446744073709551615) (naturalText n.toNat) (.number n.toNat) :=
  .natural (.plain (writes_ofNat n.toNat)) (Nat.le_of_lt_succ n.toNat_lt)

/-- The text that is written for a setting denotes the value that it has, and a setting
that is unset is not written. -/
theorem valueText?_denotes (c : Config) (s : Setting) :
    Option.Rel s.Denotes (c.valueText? s) (c.datum? s) := by
  cases s with
  | databaseUrl => exact .some (.text _)
  | redisUrl => exact .some (.text _)
  | port =>
      have upper : c.port.toNat < 65536 := c.port.toNat_lt
      exact .some (denotes_natural (by omega) (by omega))
  | workerCount => exact .some (denotes_size _)
  | queueCapacity => exact .some (denotes_size _)
  | commitTimeoutMs => exact .some (denotes_size _)
  | idempotencyTtlSecs => exact .some (denotes_size _)
  | dbPoolSize =>
      have upper : c.dbPoolSize.toNat < 4294967296 := c.dbPoolSize.toNat_lt
      exact .some (denotes_natural (by omega) (by omega))
  | seedItem =>
      rw [valueText?, datum?]
      cases c.seedItem with
      | none => exact .none
      | some item => exact .some (.text _)
  | seedStock =>
      rw [valueText?, datum?]
      cases c.seedStock with
      | none => exact .none
      | some stock =>
          have lower := stock.le_toInt
          have upper := stock.toInt_lt
          exact .some (.integer (isInteger_ofInt _) (by omega) (by omega))

/-- With the variables of what is unset unset as well, the written texts win. -/
theorem winner?_options (unset : c.valueText? s = none → env s.variableName = none ∧
    s.default? = none) : winner? c.options env s = c.valueText? s := by
  cases has : c.valueText? s with
  | some t => exact (winner?_eq_some c.options_distinct).mpr (.commandLine (mem_options.mpr has))
  | none =>
      obtain ⟨noVariable, noDefault⟩ := unset has
      have absent : ∀ t, (s, t) ∉ c.options := fun t listed => by
        rw [mem_options, has] at listed
        cases listed
      rw [winner?, lookup_eq_none.mpr absent, noVariable, noDefault]
      rfl

/-- A configuration is read back from the arguments that it is written as, if the
environment does not set what it leaves unset. -/
theorem parse_arguments (both : c.seedItem.isSome = c.seedStock.isSome)
    (unset : c.seedItem = none → env Setting.seedItem.variableName = none ∧
      env Setting.seedStock.variableName = none) : parse c.arguments env = .ok c := by
  rw [arguments_eq_given, parse_eq_ok c.options_distinct, ofWinners_eq_ok]
  refine ⟨fun s => ?_, both⟩
  rw [winner?_options]
  · exact valueText?_denotes c s
  · intro noText
    cases s with
    | seedItem => exact ⟨(unset noText).1, rfl⟩
    | seedStock =>
        have noStock : c.seedStock = none := Option.map_eq_none_iff.mp noText
        have noItem : c.seedItem = none := by simpa [noStock] using both
        exact ⟨(unset noItem).2, rfl⟩
    | _ => cases noText

end Arguments

/-- A configuration is what the winning texts say, and the arguments that it is written
as say what it is. -/
theorem parse_governed {options : List (Setting × String)}
    (distinct : (options.map Prod.fst).Nodup) (env : String → Option String) :
    Governed options env ∧ ∀ c : Config, c.seedItem.isSome = c.seedStock.isSome →
      (c.seedItem = none → env Setting.seedItem.variableName = none ∧
        env Setting.seedStock.variableName = none) → parse c.arguments env = .ok c :=
  ⟨governed distinct, fun _ => parse_arguments⟩

theorem parse_governed_unordered :
    let options := [(.seedStock, "+5"), (.databaseUrl, "--a=b"), (.seedItem, "")]
    let c : Config := ⟨"", "-", 65535, 0, 1, 2, 3, 4, some "tea", some (-5)⟩
    (options.map Prod.fst).Nodup ∧
      Governed options (fun name => if name = "PORT" then some "-0" else none) ∧
      c.seedItem.isSome = c.seedStock.isSome ∧ c.seedItem ≠ none ∧
      parse c.arguments (fun name => if name = "PORT" then some "-0" else none) = .ok c := by
  have distinct : ([(Setting.seedStock, "+5"), (.databaseUrl, "--a=b"), (.seedItem, "")].map
      Prod.fst).Nodup := by decide
  exact ⟨distinct, (parse_governed distinct _).1, rfl, nofun,
    (parse_governed distinct _).2 _ rfl nofun⟩

end Config

end FlashSale
