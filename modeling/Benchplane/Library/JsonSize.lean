import Benchplane.Library.Json
import Benchplane.Library.Sha256

/-!
# The size of JSON output

A bound on the bytes of the compact text of a value and the exact number for the
pretty text, by recursion on the value, and that the compact text stays on one line.
-/

namespace Benchplane
namespace Library

mutual

/-- The bytes of the compact text, where `quoted` bounds those of a string. -/
def Json.sizeWith (quoted : String → Nat) : Json → Nat
  | .null => 4
  | .bool true => 4
  | .bool false => 5
  | .number text => text.utf8ByteSize
  | .string text => quoted text
  | .array items => 2 + items.sizeWith quoted
  | .object fields => 2 + fields.sizeWith quoted

def JsonItems.sizeWith (quoted : String → Nat) : JsonItems → Nat
  | .nil => 0
  | .cons head tail =>
      head.sizeWith quoted + if tail.isNil then 0 else 1 + tail.sizeWith quoted

def JsonFields.sizeWith (quoted : String → Nat) : JsonFields → Nat
  | .nil => 0
  | .cons key value tail =>
      quoted key + 1 + value.sizeWith quoted +
        if tail.isNil then 0 else 1 + tail.sizeWith quoted

end

namespace Json

/-- The bytes of a character inside a string. -/
def escapeSize (c : Char) : Nat := ((escapeChar c).map Char.utf8Size).sum

/-- The bytes of a string in quotes. -/
def quoteSize (text : String) : Nat := 2 + (text.toList.map escapeSize).sum

/-- A bound on it without a look at the characters. -/
def quoteBound (text : String) : Nat := 2 + 6 * text.utf8ByteSize

/-- A function that bounds the bytes of every string in quotes. -/
def BoundsQuotes (quoted : String → Nat) : Prop :=
  ∀ text, (quote text).utf8ByteSize ≤ quoted text

end Json

theorem utf8ByteSize_ofList (chars : List Char) :
    (String.ofList chars).utf8ByteSize = (chars.map Char.utf8Size).sum := by
  rw [← length_utf8, utf8_ofList, List.length_flatMap]
  congr 1
  simp

theorem utf8ByteSize_quote (text : String) :
    (Json.quote text).utf8ByteSize = Json.quoteSize text := by
  have hescaped : ((text.toList.flatMap Json.escapeChar).map Char.utf8Size).sum =
      (text.toList.map Json.escapeSize).sum := by
    induction text.toList with
    | nil => rfl
    | cons c rest ih => simp [List.flatMap_cons, ih, Json.escapeSize]
  have hquote : ("\x22" : String).utf8ByteSize = 1 := by decide
  simp only [Json.quote, String.utf8ByteSize_append, utf8ByteSize_ofList, hescaped, hquote,
    Json.quoteSize]
  omega

theorem Json.boundsQuotes_quoteSize : BoundsQuotes quoteSize := fun text =>
  le_of_eq (utf8ByteSize_quote text)

/-- No escape sequence takes more than six bytes. -/
theorem Json.escapeSize_le (c : Char) : escapeSize c ≤ 6 := by
  have hhex : ∀ value < 16, (hexDigit value).utf8Size = 1 := by decide
  unfold escapeSize escapeChar
  split_ifs with hquote hbackslash hbackspace htab hnewline hfeed hreturn hcontrol
  all_goals try decide
  · have hhigh := hhex (c.toNat / 16) (by omega)
    have hlow := hhex (c.toNat % 16) (by omega)
    simp only [List.map_cons, List.map_nil, List.sum_cons, List.sum_nil, hhigh, hlow]
    decide
  · have hfour := c.utf8Size_le_four
    simp only [List.map_cons, List.map_nil, List.sum_cons, List.sum_nil]
    omega

theorem Json.boundsQuotes_quoteBound : BoundsQuotes quoteBound := by
  intro text
  have hsum : ∀ chars : List Char,
      (chars.map escapeSize).sum ≤ 6 * (chars.map Char.utf8Size).sum := by
    intro chars
    induction chars with
    | nil => exact Nat.le_refl 0
    | cons c rest ih =>
        have hescape := escapeSize_le c
        have hpos := c.utf8Size_pos
        simp only [List.map_cons, List.sum_cons]
        omega
  have hchars := hsum text.toList
  rw [utf8ByteSize_quote, quoteSize, quoteBound]
  have htext := utf8ByteSize_ofList text.toList
  rw [String.ofList_toList] at htext
  omega

mutual

/-- The compact text takes no more bytes than computed. -/
theorem Json.utf8ByteSize_compact_le {quoted : String → Nat}
    (hquoted : Json.BoundsQuotes quoted) (value : Json) :
    value.compact.utf8ByteSize ≤ value.sizeWith quoted := by
  cases value with
  | null =>
      show ("null" : String).utf8ByteSize ≤ 4
      decide
  | bool value =>
      cases value with
      | true =>
          show ("true" : String).utf8ByteSize ≤ 4
          decide
      | false =>
          show ("false" : String).utf8ByteSize ≤ 5
          decide
  | number text => exact le_of_eq rfl
  | string text => exact hquoted text
  | array items =>
      have hopen : ("[" : String).utf8ByteSize = 1 := by decide
      have hclose : ("]" : String).utf8ByteSize = 1 := by decide
      have hitems := items.utf8ByteSize_compact_le hquoted
      simp only [Json.compact, Json.sizeWith, String.utf8ByteSize_append, hopen, hclose]
      omega
  | object fields =>
      have hopen : ("\x7b" : String).utf8ByteSize = 1 := by decide
      have hclose : ("\x7d" : String).utf8ByteSize = 1 := by decide
      have hfields := fields.utf8ByteSize_compact_le hquoted
      simp only [Json.compact, Json.sizeWith, String.utf8ByteSize_append, hopen, hclose]
      omega

theorem JsonItems.utf8ByteSize_compact_le {quoted : String → Nat}
    (hquoted : Json.BoundsQuotes quoted) (items : JsonItems) :
    items.compact.utf8ByteSize ≤ items.sizeWith quoted := by
  cases items with
  | nil => exact Nat.le_refl 0
  | cons head tail =>
      have hcomma : ("," : String).utf8ByteSize = 1 := by decide
      have hhead := head.utf8ByteSize_compact_le hquoted
      have htail := tail.utf8ByteSize_compact_le hquoted
      simp only [JsonItems.compact, JsonItems.sizeWith, String.utf8ByteSize_append]
      split
      · simpa using hhead
      · rw [String.utf8ByteSize_append, hcomma]
        omega

theorem JsonFields.utf8ByteSize_compact_le {quoted : String → Nat}
    (hquoted : Json.BoundsQuotes quoted) (fields : JsonFields) :
    fields.compact.utf8ByteSize ≤ fields.sizeWith quoted := by
  cases fields with
  | nil => exact Nat.le_refl 0
  | cons key value tail =>
      have hcolon : (":" : String).utf8ByteSize = 1 := by decide
      have hcomma : ("," : String).utf8ByteSize = 1 := by decide
      have hkey := hquoted key
      have hvalue := value.utf8ByteSize_compact_le hquoted
      have htail := tail.utf8ByteSize_compact_le hquoted
      simp only [JsonFields.compact, JsonFields.sizeWith, String.utf8ByteSize_append, hcolon]
      split
      · simp only [String.utf8ByteSize_empty]
        omega
      · rw [String.utf8ByteSize_append, hcomma]
        omega

end

/-! ## Pretty text -/

mutual

/-- The bytes of the pretty text at a depth. -/
def Json.prettySize (depth : Nat) : Json → Nat
  | .null => 4
  | .bool true => 4
  | .bool false => 5
  | .number text => text.utf8ByteSize
  | .string text => Json.quoteSize text
  | .array items =>
      if items.isNil then 2 else 4 + 2 * depth + items.prettySize (depth + 1)
  | .object fields =>
      if fields.isNil then 2 else 4 + 2 * depth + fields.prettySize (depth + 1)

def JsonItems.prettySize (depth : Nat) : JsonItems → Nat
  | .nil => 0
  | .cons head tail =>
      2 * depth + head.prettySize depth + if tail.isNil then 0 else 2 + tail.prettySize depth

def JsonFields.prettySize (depth : Nat) : JsonFields → Nat
  | .nil => 0
  | .cons key value tail =>
      2 * depth + Json.quoteSize key + 2 + value.prettySize depth +
        if tail.isNil then 0 else 2 + tail.prettySize depth

end

theorem utf8ByteSize_indentation (depth : Nat) : (indentation depth).utf8ByteSize = 2 * depth := by
  have hspace : (' ' : Char).utf8Size = 1 := by decide
  rw [indentation, utf8ByteSize_ofList, List.map_replicate, List.sum_replicate_nat, hspace, mul_one]

mutual

/-- The pretty text takes as many bytes as computed. -/
theorem Json.utf8ByteSize_pretty (depth : Nat) (value : Json) :
    (value.pretty depth).utf8ByteSize = value.prettySize depth := by
  cases value with
  | null =>
      show ("null" : String).utf8ByteSize = 4
      decide
  | bool value =>
      cases value with
      | true =>
          show ("true" : String).utf8ByteSize = 4
          decide
      | false =>
          show ("false" : String).utf8ByteSize = 5
          decide
  | number text => rfl
  | string text => exact utf8ByteSize_quote text
  | array items =>
      have hopen : ("[\n" : String).utf8ByteSize = 2 := by decide
      have hclose : ("]" : String).utf8ByteSize = 1 := by decide
      have hnewline : ("\n" : String).utf8ByteSize = 1 := by decide
      have hempty : ("[]" : String).utf8ByteSize = 2 := by decide
      have hitems := items.utf8ByteSize_pretty (depth + 1)
      rw [Json.pretty, Json.prettySize]
      split
      · exact hempty
      · simp only [String.utf8ByteSize_append, utf8ByteSize_indentation, hopen, hclose, hnewline]
        omega
  | object fields =>
      have hopen : ("\x7b\n" : String).utf8ByteSize = 2 := by decide
      have hclose : ("\x7d" : String).utf8ByteSize = 1 := by decide
      have hnewline : ("\n" : String).utf8ByteSize = 1 := by decide
      have hempty : ("\x7b\x7d" : String).utf8ByteSize = 2 := by decide
      have hfields := fields.utf8ByteSize_pretty (depth + 1)
      rw [Json.pretty, Json.prettySize]
      split
      · exact hempty
      · simp only [String.utf8ByteSize_append, utf8ByteSize_indentation, hopen, hclose, hnewline]
        omega

theorem JsonItems.utf8ByteSize_pretty (depth : Nat) (items : JsonItems) :
    (items.pretty depth).utf8ByteSize = items.prettySize depth := by
  cases items with
  | nil => rfl
  | cons head tail =>
      have hcomma : (",\n" : String).utf8ByteSize = 2 := by decide
      have hhead := head.utf8ByteSize_pretty depth
      have htail := tail.utf8ByteSize_pretty depth
      rw [JsonItems.pretty, JsonItems.prettySize, String.utf8ByteSize_append,
        String.utf8ByteSize_append, utf8ByteSize_indentation, hhead]
      split
      · rfl
      · rw [String.utf8ByteSize_append, hcomma, htail]

theorem JsonFields.utf8ByteSize_pretty (depth : Nat) (fields : JsonFields) :
    (fields.pretty depth).utf8ByteSize = fields.prettySize depth := by
  cases fields with
  | nil => rfl
  | cons key value tail =>
      have hcolon : (": " : String).utf8ByteSize = 2 := by decide
      have hcomma : (",\n" : String).utf8ByteSize = 2 := by decide
      have hvalue := value.utf8ByteSize_pretty depth
      have htail := tail.utf8ByteSize_pretty depth
      simp only [JsonFields.pretty, JsonFields.prettySize, String.utf8ByteSize_append,
        utf8ByteSize_indentation, utf8ByteSize_quote, hcolon, hvalue]
      split
      · simp
      · rw [String.utf8ByteSize_append, hcomma, htail]

end

/-- A text takes at most six bytes for each character, and its quotes. -/
theorem Json.quoteSize_le (text : String) : quoteSize text ≤ 2 + 6 * text.toList.length := by
  have hchars : ∀ chars : List Char, (chars.map escapeSize).sum ≤ 6 * chars.length := by
    intro chars
    induction chars with
    | nil => exact Nat.le_refl 0
    | cons c rest ih =>
        have hescape := escapeSize_le c
        simp only [List.map_cons, List.sum_cons, List.length_cons]
        omega
  exact Nat.add_le_add_left (hchars text.toList) 2

theorem Json.prettySize_string (text : String) (depth : Nat) :
    (Json.string text).prettySize depth = quoteSize text := rfl

/-- An object whose keys are bounded. -/
theorem Json.prettySize_record_le {fields : List (String × Json)} {depth key : Nat}
    (hkeys : ∀ name ∈ fields.map Prod.fst, quoteSize name ≤ key) :
    (Json.record fields).prettySize depth ≤ 4 + 2 * depth + fields.length * (2 * depth + 6 + key) +
      (fields.map fun field => field.2.prettySize (depth + 1)).sum := by
  have hfields : (JsonFields.ofList fields).prettySize (depth + 1) ≤
      fields.length * (2 * depth + 6 + key) +
        (fields.map fun field => field.2.prettySize (depth + 1)).sum := by
    induction fields with
    | nil => exact Nat.zero_le _
    | cons field rest ih =>
        have hkey := hkeys field.1 List.mem_cons_self
        have hrest := ih fun name hname => hkeys name (List.mem_cons_of_mem _ hname)
        simp only [JsonFields.ofList, JsonFields.prettySize, List.length_cons, Nat.add_mul,
          List.map_cons, List.sum_cons]
        split <;> omega
  show (if (JsonFields.ofList fields).isNil then 2 else
    4 + 2 * depth + (JsonFields.ofList fields).prettySize (depth + 1)) ≤ _
  split <;> omega

/-- An array whose items are bounded. -/
theorem Json.prettySize_list_le {items : List Json} {depth bound : Nat}
    (h : ∀ item ∈ items, item.prettySize (depth + 1) ≤ bound) :
    (Json.list items).prettySize depth ≤
      4 + 2 * depth + items.length * (2 * depth + 4 + bound) := by
  have hitems : (JsonItems.ofList items).prettySize (depth + 1) ≤
      items.length * (2 * depth + 4 + bound) := by
    induction items with
    | nil => exact Nat.zero_le _
    | cons item rest ih =>
        have hhead := h item List.mem_cons_self
        have hrest := ih fun other hother => h other (List.mem_cons_of_mem _ hother)
        simp only [JsonItems.ofList, JsonItems.prettySize, List.length_cons, Nat.add_mul]
        split <;> omega
  show (if (JsonItems.ofList items).isNil then 2 else
    4 + 2 * depth + (JsonItems.ofList items).prettySize (depth + 1)) ≤ _
  split <;> omega

/-! ## Numbers and digests -/

theorem utf8Size_of_isDigit {c : Char} (h : c.isDigit = true) : c.utf8Size = 1 := by
  simp only [Char.isDigit, Bool.and_eq_true, decide_eq_true_eq, UInt32.le_iff_toNat_le] at h
  simp only [Char.utf8Size, UInt32.le_iff_toNat_le]
  rw [if_pos (le_trans h.2 (by decide))]

theorem utf8ByteSize_repr (n : Nat) : n.repr.utf8ByteSize = n.repr.length := by
  have hdigits : n.repr.toList.map Char.utf8Size = n.repr.toList.map fun _ => 1 := by
    refine List.map_congr_left fun c hc => ?_
    rw [Nat.toList_repr] at hc
    exact utf8Size_of_isDigit (Nat.isDigit_of_mem_toDigits (by decide) (by decide) hc)
  have hsize := utf8ByteSize_ofList n.repr.toList
  rw [String.ofList_toList, hdigits] at hsize
  rw [hsize, List.map_const', List.sum_replicate_nat, mul_one, String.length_toList]

theorem Json.sizeWith_nat_le {quoted : String → Nat} {n digits : Nat} (hpos : 0 < digits)
    (h : n < 10 ^ digits) : (Json.nat n).sizeWith quoted ≤ digits := by
  show n.repr.utf8ByteSize ≤ digits
  rw [utf8ByteSize_repr]
  exact (Nat.length_repr_le_iff hpos).mpr h

theorem Json.sizeWith_u32_le (quoted : String → Nat) (n : UInt32) :
    (Json.u32 n).sizeWith quoted ≤ 10 := by
  have hlt := n.toNat_lt
  exact sizeWith_nat_le (by decide) (by omega)

theorem Json.sizeWith_u64_le (quoted : String → Nat) (n : UInt64) :
    (Json.u64 n).sizeWith quoted ≤ 20 := by
  have hlt := n.toNat_lt
  exact sizeWith_nat_le (by decide) (by omega)

/-- The fields of an object and the separators behind them. -/
theorem Json.sizeWith_record_le (quoted : String → Nat) (fields : List (String × Json)) :
    (Json.record fields).sizeWith quoted ≤
      2 + (fields.map fun field => quoted field.1 + field.2.sizeWith quoted + 2).sum := by
  have hfields : (JsonFields.ofList fields).sizeWith quoted ≤
      (fields.map fun field => quoted field.1 + field.2.sizeWith quoted + 2).sum := by
    induction fields with
    | nil => exact Nat.le_refl 0
    | cons field rest ih =>
        simp only [JsonFields.ofList, JsonFields.sizeWith, List.map_cons, List.sum_cons]
        split <;> omega
  exact Nat.add_le_add_left hfields 2

/-- The items of an array and the separators behind them. -/
theorem Json.sizeWith_list_le (quoted : String → Nat) {items : List Json} {bound : Nat}
    (h : ∀ item ∈ items, item.sizeWith quoted ≤ bound) :
    (Json.list items).sizeWith quoted ≤ 2 + items.length * (bound + 1) := by
  have hitems : (JsonItems.ofList items).sizeWith quoted ≤ items.length * (bound + 1) := by
    induction items with
    | nil => exact Nat.zero_le _
    | cons item rest ih =>
        have hhead := h item List.mem_cons_self
        have htail := ih fun other hother => h other (List.mem_cons_of_mem _ hother)
        simp only [JsonItems.ofList, JsonItems.sizeWith, List.length_cons, Nat.add_mul]
        split <;> omega
  exact Nat.add_le_add_left hitems 2

/-- A digest with a tag before it takes a fixed number of bytes. -/
theorem Json.quoteBound_digest (digest : Digest) : quoteBound ("sha256:" ++ digest.hex) = 428 := by
  have htag : ("sha256:" : String).utf8ByteSize = 7 := by decide
  have hhex : digest.hex.utf8ByteSize = 64 := digest.length_hex
  simp only [quoteBound, String.utf8ByteSize_append, htag, hhex]

theorem Json.escapeSize_hexDigit {value : Nat} (h : value < 16) :
    escapeSize (hexDigit value) = 1 := by
  interval_cases value <;> decide

theorem Json.sum_escapeSize_hexText (bytes : Bytes) :
    ((hexText bytes).toList.map escapeSize).sum = 2 * bytes.length := by
  rw [hexText, String.toList_ofList]
  induction bytes with
  | nil => rfl
  | cons b rest ih =>
      have hlt := b.toNat_lt
      have hhigh : b.toNat / 16 < 16 := by omega
      have hlow : b.toNat % 16 < 16 := by omega
      simp only [List.flatMap_cons, List.map_append, List.sum_append, ih, hexDigits, List.map_cons,
        List.map_nil, List.sum_cons, List.sum_nil, escapeSize_hexDigit hhigh,
        escapeSize_hexDigit hlow, List.length_cons]
      omega

theorem Json.quoteSize_digest (digest : Digest) : quoteSize ("sha256:" ++ digest.hex) = 73 := by
  have htag : ("sha256:".toList.map escapeSize).sum = 7 := by decide
  simp only [quoteSize, String.toList_append, List.map_append, List.sum_append, htag, Digest.hex,
    sum_escapeSize_hexText, digest.length_eq]

/-! ## One line -/

mutual

/-- No number of the value is written with a newline. -/
def Json.PlainNumbers : Json → Prop
  | .number text => '\n' ∉ text.toList
  | .array items => items.PlainNumbers
  | .object fields => fields.PlainNumbers
  | .null | .bool _ | .string _ => True

def JsonItems.PlainNumbers : JsonItems → Prop
  | .nil => True
  | .cons head tail => head.PlainNumbers ∧ tail.PlainNumbers

def JsonFields.PlainNumbers : JsonFields → Prop
  | .nil => True
  | .cons _ value tail => value.PlainNumbers ∧ tail.PlainNumbers

end

theorem JsonItems.plainNumbers_ofList {items : List Json} :
    (JsonItems.ofList items).PlainNumbers ↔ ∀ item ∈ items, item.PlainNumbers := by
  induction items with
  | nil => simp [JsonItems.ofList, JsonItems.PlainNumbers]
  | cons item rest ih => simp [JsonItems.ofList, JsonItems.PlainNumbers, ih]

theorem JsonFields.plainNumbers_ofList {fields : List (String × Json)} :
    (JsonFields.ofList fields).PlainNumbers ↔ ∀ field ∈ fields, field.2.PlainNumbers := by
  induction fields with
  | nil => simp [JsonFields.ofList, JsonFields.PlainNumbers]
  | cons field rest ih => simp [JsonFields.ofList, JsonFields.PlainNumbers, ih]

/-- An object has plain numbers when its fields have. -/
theorem Json.plainNumbers_record {fields : List (String × Json)} :
    (Json.record fields).PlainNumbers ↔ ∀ field ∈ fields, field.2.PlainNumbers :=
  JsonFields.plainNumbers_ofList

theorem Json.plainNumbers_list {items : List Json} :
    (Json.list items).PlainNumbers ↔ ∀ item ∈ items, item.PlainNumbers :=
  JsonItems.plainNumbers_ofList

@[simp] theorem Json.plainNumbers_string (text : String) : (Json.string text).PlainNumbers :=
  trivial

@[simp] theorem Json.plainNumbers_null : Json.null.PlainNumbers := trivial

@[simp] theorem Json.plainNumbers_bool (value : Bool) : (Json.bool value).PlainNumbers := trivial

@[simp] theorem Json.plainNumbers_nat (n : Nat) : (Json.nat n).PlainNumbers := by
  show '\n' ∉ n.repr.toList
  rw [Nat.toList_repr]
  intro hmem
  have hdigit := Nat.isDigit_of_mem_toDigits (by decide) (by decide) hmem
  exact absurd hdigit (by decide)

@[simp] theorem Json.plainNumbers_u32 (n : UInt32) : (Json.u32 n).PlainNumbers :=
  plainNumbers_nat _

@[simp] theorem Json.plainNumbers_u64 (n : UInt64) : (Json.u64 n).PlainNumbers :=
  plainNumbers_nat _

theorem Json.plainNumbers_option {α : Type} {encode : α → Json} {value : Option α}
    (h : ∀ a, (encode a).PlainNumbers) : (Json.option encode value).PlainNumbers := by
  cases value with
  | none => exact plainNumbers_null
  | some a => exact h a

theorem newline_notMem_escapeChar (c : Char) : '\n' ∉ Json.escapeChar c := by
  have hhigh : c.toNat < 32 → c.toNat / 16 < 2 := by omega
  unfold Json.escapeChar
  split_ifs with h1 h2 h3 h4 h5 h6 h7 hcontrol
  all_goals try decide
  · have hdigits : ∀ value < 32, '\n' ≠ hexDigit (value / 16) ∧ '\n' ≠ hexDigit (value % 16) := by
      decide
    have hboth := hdigits c.toNat hcontrol
    simp [hboth]
  · simpa using Ne.symm h5

theorem newline_notMem_quote (text : String) : '\n' ∉ (Json.quote text).toList := by
  simp [Json.quote, newline_notMem_escapeChar]

mutual

/-- The compact text is one line. -/
theorem Json.newline_notMem_compact (value : Json) (h : value.PlainNumbers) :
    '\n' ∉ value.compact.toList := by
  cases value with
  | null => decide
  | bool value => cases value <;> decide
  | number text => exact h
  | string text => exact newline_notMem_quote text
  | array items =>
      simp [Json.compact, items.newline_notMem_compact h]
  | object fields =>
      simp [Json.compact, fields.newline_notMem_compact h]

theorem JsonItems.newline_notMem_compact (items : JsonItems) (h : items.PlainNumbers) :
    '\n' ∉ items.compact.toList := by
  cases items with
  | nil => decide
  | cons head tail =>
      obtain ⟨hhead, htail⟩ := h
      rw [JsonItems.compact]
      split
      · simp [head.newline_notMem_compact hhead]
      · simp [head.newline_notMem_compact hhead, tail.newline_notMem_compact htail]

theorem JsonFields.newline_notMem_compact (fields : JsonFields) (h : fields.PlainNumbers) :
    '\n' ∉ fields.compact.toList := by
  cases fields with
  | nil => decide
  | cons key value tail =>
      obtain ⟨hvalue, htail⟩ := h
      rw [JsonFields.compact]
      split
      · simp [newline_notMem_quote, value.newline_notMem_compact hvalue]
      · simp [newline_notMem_quote, value.newline_notMem_compact hvalue,
          tail.newline_notMem_compact htail]

end

end Library
end Benchplane
