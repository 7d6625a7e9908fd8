import Benchplane.Library.JsonParse
import Benchplane.Library.SortedMap
import Mathlib.Data.String.Basic

/-!
# Decoding JSON values

What derived decoders do with a value that has been read: numbers with a bound, lists
and maps, objects with known fields and defaults, enumerations by name and variants
with a tag among their fields.  A decoder answers with nothing when it refuses.
-/

namespace Benchplane
namespace Library

def JsonItems.toList : JsonItems → List Json
  | .nil => []
  | .cons head tail => head :: tail.toList

def JsonFields.toList : JsonFields → List (String × Json)
  | .nil => []
  | .cons key value tail => (key, value) :: tail.toList

@[simp] theorem JsonItems.toList_ofList (items : List Json) :
    (JsonItems.ofList items).toList = items := by
  induction items with
  | nil => rfl
  | cons item rest ih => rw [JsonItems.ofList, JsonItems.toList, ih]

@[simp] theorem JsonFields.toList_ofList (fields : List (String × Json)) :
    (JsonFields.ofList fields).toList = fields := by
  induction fields with
  | nil => rfl
  | cons field rest ih => rw [JsonFields.ofList, JsonFields.toList, ih]

namespace Json

/-! ## Scalars -/

def decodeString : Json → Option String
  | .string text => some text
  | _ => none

def decodeBool : Json → Option Bool
  | .bool value => some value
  | _ => none

@[simp] theorem decodeString_string (text : String) : decodeString (.string text) = some text := rfl

@[simp] theorem decodeBool_bool (value : Bool) : decodeBool (.bool value) = some value := rfl

/-- An unsigned integer below a bound.  Signs, fractions and exponents are refused. -/
def decodeNat (bound : Nat) : Json → Option Nat
  | .number text =>
      let digits := text.toList
      if digits.all Char.isDigit && !digits.isEmpty &&
          decide (Nat.ofDigitChars 10 digits 0 < bound) then
        some (Nat.ofDigitChars 10 digits 0)
      else none
  | _ => none

def decodeU32 (value : Json) : Option UInt32 := (decodeNat UInt32.size value).map UInt32.ofNat

def decodeU64 (value : Json) : Option UInt64 := (decodeNat UInt64.size value).map UInt64.ofNat

theorem decodeNat_nat {bound n : Nat} (h : n < bound) : decodeNat bound (nat n) = some n := by
  have hdigits : n.repr.toList.all Char.isDigit = true := by
    rw [Nat.toList_repr, List.all_eq_true]
    intro c hc
    exact Nat.isDigit_of_mem_toDigits (by decide) (by decide) hc
  have hsome : n.repr.toList.isEmpty = false := by
    rw [Nat.toList_repr, List.isEmpty_eq_false_iff]
    exact Nat.toDigits_ne_nil
  have hvalue : Nat.ofDigitChars 10 n.repr.toList 0 = n := by
    rw [Nat.toList_repr, Nat.ofDigitChars_ten_toDigits]
  simp only [nat, decodeNat, hdigits, hsome, hvalue, h, Bool.not_false, Bool.and_self,
    decide_true, if_true]

@[simp] theorem decodeU32_u32 (n : UInt32) : decodeU32 (u32 n) = some n := by
  rw [decodeU32, u32, decodeNat_nat n.toNat_lt_size, Option.map_some, UInt32.ofNat_toNat]

@[simp] theorem decodeU64_u64 (n : UInt64) : decodeU64 (u64 n) = some n := by
  rw [decodeU64, u64, decodeNat_nat n.toNat_lt_size, Option.map_some, UInt64.ofNat_toNat]

/-! ## Collections -/

def decodeList {α : Type} (decode : Json → Option α) : Json → Option (List α)
  | .array items => items.toList.mapM decode
  | _ => none

/-- Items that are read back one by one are read back as a list. -/
theorem decodeList_list {α : Type} {encode : α → Json} {decode : Json → Option α}
    (h : ∀ item, decode (encode item) = some item) (items : List α) :
    decodeList decode (.list (items.map encode)) = some items := by
  rw [list, decodeList, JsonItems.toList_ofList]
  induction items with
  | nil => rfl
  | cons item rest ih => simp [h, ih]

/-- A map; of two fields with one key the last one is kept. -/
def decodeMap {ν : Type} (decode : Json → Option ν) : Json → Option (SortedMap String ν)
  | .object fields =>
      fields.toList.foldlM
        (fun map field => (decode field.2).map fun value => map.insert field.1 value)
        SortedMap.empty
  | _ => none

end Json

/-- The entries of a map are read back in their order. -/
theorem Json.decodeMap_record {ν : Type} {encode : ν → Json} {decode : Json → Option ν}
    (h : ∀ value, decode (encode value) = some value) (map : SortedMap String ν) :
    Json.decodeMap decode (.record (map.entries.map fun entry => (entry.1, encode entry.2))) =
      some map := by
  suffices hrun : ∀ (rest : List (String × ν)) (acc : SortedMap String ν),
      map.entries = acc.entries ++ rest →
      (rest.map fun entry => (entry.1, encode entry.2)).foldlM
        (fun map field => (decode field.2).map fun value => map.insert field.1 value) acc =
        some map by
    rw [Json.record, Json.decodeMap, JsonFields.toList_ofList]
    exact hrun map.entries .empty rfl
  intro rest
  induction rest with
  | nil =>
      intro acc hacc
      rw [List.append_nil] at hacc
      cases map
      cases acc
      simp_all
  | cons entry rest ih =>
      intro acc hacc
      have hsorted := map.sorted
      rw [hacc, List.pairwise_append] at hsorted
      -- the entries before this one have smaller keys
      have hlast : ∀ other ∈ acc.entries, other.1 < entry.1 := fun other hother =>
        hsorted.2.2 other hother entry List.mem_cons_self
      have hnext : map.entries = (acc.insert entry.1 entry.2).entries ++ rest := by
        show map.entries = SortedMap.insertEntry entry.1 entry.2 acc.entries ++ rest
        rw [SortedMap.insertEntry_last hlast, hacc, List.append_assoc]
        rfl
      rw [List.map_cons, List.foldlM_cons, h]
      exact ih (acc.insert entry.1 entry.2) hnext

namespace Json

/-! ## Records -/

/-- The fields of a record: those of an object, in which every key is known and none comes
twice, or the items of an array in the order of the fields.  An array may end early where the
fields that are left have a default. -/
def recordFieldsOr (defaults names : List String) : Json → Option (List (String × Json))
  | .object fields =>
      let keys := fields.toList.map Prod.fst
      if keys.all names.contains && decide keys.Nodup then some fields.toList else none
  | .array items =>
      let given := items.toList
      if given.length ≤ names.length && (names.drop given.length).all defaults.contains then
        some (names.zip given)
      else none
  | _ => none

/-- The fields of a record in which none has a default. -/
def recordFields (names : List String) : Json → Option (List (String × Json)) :=
  recordFieldsOr [] names

/-- A field that must be there. -/
def required {α : Type} (fields : List (String × Json)) (name : String)
    (decode : Json → Option α) : Option α :=
  (fields.lookup name).bind decode

/-- A field with a default. -/
def defaulted {α : Type} (fields : List (String × Json)) (name : String)
    (decode : Json → Option α) (value : α) : Option α :=
  match fields.lookup name with
  | none => some value
  | some field => decode field

/-- A field that may be absent or `null`. -/
def nullable {α : Type} (fields : List (String × Json)) (name : String)
    (decode : Json → Option α) : Option (Option α) :=
  match fields.lookup name with
  | none => some none
  | some .null => some none
  | some field => (decode field).map some

theorem recordFieldsOr_record {defaults names : List String} {fields : List (String × Json)}
    (hknown : ∀ key ∈ fields.map Prod.fst, key ∈ names)
    (hdistinct : (fields.map Prod.fst).Nodup) :
    recordFieldsOr defaults names (.record fields) = some fields := by
  have hall : (fields.map Prod.fst).all names.contains = true := by
    simpa [List.all_eq_true] using hknown
  rw [record, recordFieldsOr, JsonFields.toList_ofList, hall, decide_eq_true hdistinct]
  rfl

theorem recordFields_record {names : List String} {fields : List (String × Json)}
    (hknown : ∀ key ∈ fields.map Prod.fst, key ∈ names)
    (hdistinct : (fields.map Prod.fst).Nodup) :
    recordFields names (.record fields) = some fields :=
  recordFieldsOr_record hknown hdistinct

section

variable {α : Type} {decode : Json → Option α} {fields : List (String × Json)} {value : Json}
  {name key : String}

@[simp] theorem required_cons_self :
    required ((name, value) :: fields) name decode = decode value := by
  rw [required, List.lookup_cons_self, Option.bind_some]

@[simp] theorem required_cons_of_ne (h : name ≠ key) :
    required ((key, value) :: fields) name decode = required fields name decode := by
  rw [required, List.lookup_cons, beq_eq_false_iff_ne.mpr h]
  rfl

@[simp] theorem defaulted_nil (other : α) : defaulted [] name decode other = some other := rfl

@[simp] theorem defaulted_cons_self (other : α) :
    defaulted ((name, value) :: fields) name decode other = decode value := by
  rw [defaulted, List.lookup_cons_self]

@[simp] theorem defaulted_cons_of_ne (h : name ≠ key) (other : α) :
    defaulted ((key, value) :: fields) name decode other =
      defaulted fields name decode other := by
  rw [defaulted, List.lookup_cons, beq_eq_false_iff_ne.mpr h]
  rfl

end

section

variable {α : Type} {encode : α → Json} {decode : Json → Option α}
  {fields : List (String × Json)} {value : Json} {name key : String}

@[simp] theorem nullable_nil : nullable [] name decode = some none := rfl

@[simp] theorem nullable_cons_of_ne (h : name ≠ key) :
    nullable ((key, value) :: fields) name decode = nullable fields name decode := by
  rw [nullable, List.lookup_cons, beq_eq_false_iff_ne.mpr h]
  rfl

/-- An optional value is read back from its field, whose encoding is never `null`. -/
theorem nullable_cons_option (h : ∀ a, decode (encode a) = some a)
    (hnull : ∀ a, encode a ≠ .null) (one : Option α) :
    nullable ((name, option encode one) :: fields) name decode = some one := by
  rw [nullable, List.lookup_cons_self]
  cases one with
  | none => rfl
  | some a =>
      rw [option]
      split
      · contradiction
      · rename_i hsome
        exact absurd (Option.some.inj hsome) (hnull a)
      · rename_i field _ hsome
        rw [← Option.some.inj hsome, h, Option.map_some]

@[simp] theorem nullable_cons_string (one : Option String) :
    nullable ((name, option .string one) :: fields) name decodeString = some one :=
  nullable_cons_option decodeString_string (fun _ => by simp) one

@[simp] theorem nullable_cons_u32 (one : Option UInt32) :
    nullable ((name, option .u32 one) :: fields) name decodeU32 = some one :=
  nullable_cons_option decodeU32_u32 (fun _ => by simp [u32, nat]) one

@[simp] theorem nullable_cons_u64 (one : Option UInt64) :
    nullable ((name, option .u64 one) :: fields) name decodeU64 = some one :=
  nullable_cons_option decodeU64_u64 (fun _ => by simp [u64, nat]) one

end

/-! ## Variants -/

/-- The name of a variant without content. -/
def variantName : Json → Option String
  | .string name => some name
  | .object (.cons name .null .nil) => some name
  | _ => none

/-- A variant with its tag among the fields: the tag, and the content without it. -/
def taggedContent (tag : String) : Json → Option (String × Json)
  | .object fields =>
      match fields.toList.filter fun field => field.1 = tag with
      | [(_, .string name)] =>
          some (name, .record (fields.toList.filter fun field => ¬ field.1 = tag))
      | _ => none
  | .array (.cons (.string name) rest) => some (name, .array rest)
  | _ => none

/-- A tag written in front of the other fields. -/
theorem taggedContent_record {tag name : String} {fields : List (String × Json)}
    (h : tag ∉ fields.map Prod.fst) :
    taggedContent tag (.record ((tag, .string name) :: fields)) = some (name, .record fields) := by
  have hother : ∀ field ∈ fields, ¬ field.1 = tag := by
    intro field hfield heq
    exact h (heq ▸ List.mem_map_of_mem hfield)
  have hnone : fields.filter (fun field => decide (field.1 = tag)) = [] := by
    rw [List.filter_eq_nil_iff]
    intro field hfield
    simpa using hother field hfield
  have hall : fields.filter (fun field => decide (¬ field.1 = tag)) = fields := by
    rw [List.filter_eq_self]
    intro field hfield
    simpa using hother field hfield
  simp only [record, taggedContent, JsonFields.toList_ofList, List.filter_cons, decide_true,
    if_true, hnone, not_true_eq_false, decide_false, Bool.false_eq_true, if_false, hall]

end Json

/-! ## Nesting and numbers -/

mutual

/-- The value nests at most `depth` arrays and objects, and its numbers are as given. -/
def Json.Fits (IsNumber : String → Prop) (depth : Nat) : Json → Prop
  | .number text => IsNumber text
  | .array items => 0 < depth ∧ items.Fits IsNumber (depth - 1)
  | .object fields => 0 < depth ∧ fields.Fits IsNumber (depth - 1)
  | .null | .bool _ | .string _ => True

def JsonItems.Fits (IsNumber : String → Prop) (depth : Nat) : JsonItems → Prop
  | .nil => True
  | .cons head tail => head.Fits IsNumber depth ∧ tail.Fits IsNumber depth

def JsonFields.Fits (IsNumber : String → Prop) (depth : Nat) : JsonFields → Prop
  | .nil => True
  | .cons _ value tail => value.Fits IsNumber depth ∧ tail.Fits IsNumber depth

end

section

variable {IsNumber : String → Prop} {depth : Nat}

theorem JsonItems.fits_ofList {items : List Json} :
    (JsonItems.ofList items).Fits IsNumber depth ↔ ∀ item ∈ items, item.Fits IsNumber depth := by
  induction items with
  | nil => simp [JsonItems.ofList, JsonItems.Fits]
  | cons item rest ih => simp [JsonItems.ofList, JsonItems.Fits, ih]

theorem JsonFields.fits_ofList {fields : List (String × Json)} :
    (JsonFields.ofList fields).Fits IsNumber depth ↔
      ∀ field ∈ fields, field.2.Fits IsNumber depth := by
  induction fields with
  | nil => simp [JsonFields.ofList, JsonFields.Fits]
  | cons field rest ih => simp [JsonFields.ofList, JsonFields.Fits, ih]

namespace Json

theorem fits_record {fields : List (String × Json)} :
    (record fields).Fits IsNumber (depth + 1) ↔ ∀ field ∈ fields, field.2.Fits IsNumber depth := by
  simp [record, Fits, JsonFields.fits_ofList]

theorem fits_list {items : List Json} :
    (list items).Fits IsNumber (depth + 1) ↔ ∀ item ∈ items, item.Fits IsNumber depth := by
  simp [list, Fits, JsonItems.fits_ofList]

@[simp] theorem fits_string (text : String) : (string text).Fits IsNumber depth := trivial

@[simp] theorem fits_bool (value : Bool) : (bool value).Fits IsNumber depth := trivial

@[simp] theorem fits_null : null.Fits IsNumber depth := trivial

theorem fits_option {α : Type} {encode : α → Json} {value : Option α}
    (h : ∀ value, (encode value).Fits IsNumber depth) :
    (option encode value).Fits IsNumber depth := by
  cases value with
  | none => trivial
  | some value => exact h value

/-- The decimal text of a natural number is one of a JSON number. -/
theorem isNumberText_repr (n : Nat) : isNumberText n.repr.toList = true := by
  have hdigits : ∀ c ∈ n.repr.toList, c.isDigit = true := by
    rw [Nat.toList_repr]
    intro c hc
    exact Nat.isDigit_of_mem_toDigits (by decide) (by decide) hc
  have hsome : n.repr.toList ≠ [] := by
    rw [Nat.toList_repr]
    exact Nat.toDigits_ne_nil
  cases htext : n.repr.toList with
  | nil => exact absurd htext hsome
  | cons c rest =>
      rw [htext] at hdigits
      simp only [isNumberText, Bool.and_eq_true, Bool.or_eq_true, List.all_eq_true]
      refine ⟨Or.inl (hdigits c List.mem_cons_self), ?_⟩
      intro other hother
      simp [isNumberChar, hdigits other (List.mem_cons_of_mem _ hother)]

end Json

end

section

variable {IsNumber : String → Prop}

mutual

theorem Json.hasNumbers_of_fits
    (hnumber : ∀ text, IsNumber text → Json.isNumberText text.toList = true) :
    ∀ {depth : Nat} (value : Json), value.Fits IsNumber depth → value.HasNumbers
  | _, .number _, h => hnumber _ h
  | _, .array items, h => items.hasNumbers_of_fits hnumber h.2
  | _, .object fields, h => fields.hasNumbers_of_fits hnumber h.2
  | _, .null, _ | _, .bool _, _ | _, .string _, _ => trivial

theorem JsonItems.hasNumbers_of_fits
    (hnumber : ∀ text, IsNumber text → Json.isNumberText text.toList = true) :
    ∀ {depth : Nat} (items : JsonItems), items.Fits IsNumber depth → items.HasNumbers
  | _, .nil, _ => trivial
  | _, .cons head tail, h =>
      ⟨head.hasNumbers_of_fits hnumber h.1, tail.hasNumbers_of_fits hnumber h.2⟩

theorem JsonFields.hasNumbers_of_fits
    (hnumber : ∀ text, IsNumber text → Json.isNumberText text.toList = true) :
    ∀ {depth : Nat} (fields : JsonFields), fields.Fits IsNumber depth → fields.HasNumbers
  | _, .nil, _ => trivial
  | _, .cons _ value tail, h =>
      ⟨value.hasNumbers_of_fits hnumber h.1, tail.hasNumbers_of_fits hnumber h.2⟩

end

end

end Library
end Benchplane
