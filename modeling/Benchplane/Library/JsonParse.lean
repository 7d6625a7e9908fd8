import Benchplane.Library.Json
import Mathlib.Tactic.IntervalCases

/-!
# Reading JSON

A reader of JSON texts that takes white space between tokens.  It reads back the
compact and the pretty text of every value whose numbers are written as numbers, so
each of the two texts determines its value.  An escaped surrogate is not read.
-/

namespace Benchplane
namespace Library
namespace Json

/-! ## Tokens -/

/-- White space between tokens. -/
def isSpace (c : Char) : Bool := c = ' ' || c = '\n' || c = '\t' || c = '\r'

def skipSpace (chars : List Char) : List Char := chars.dropWhile isSpace

/-- The characters of a number. -/
def isNumberChar (c : Char) : Bool :=
  c.isDigit || c = '-' || c = '+' || c = '.' || c = 'e' || c = 'E'

/-- A text that is read as one number. -/
def isNumberText (text : List Char) : Bool :=
  match text with
  | [] => false
  | c :: rest => (c.isDigit || c = '-') && rest.all isNumberChar

/-- The value of a hexadecimal digit. -/
def hexValue (c : Char) : Option Nat :=
  if c.isDigit then some (c.toNat - 48)
  else if 97 ≤ c.toNat ∧ c.toNat ≤ 102 then some (c.toNat - 87)
  else if 65 ≤ c.toNat ∧ c.toNat ≤ 70 then some (c.toNat - 55)
  else none

/-- The character of four hexadecimal digits. -/
def unescapeCode (a b c d : Char) : Option Char := do
  let code := (((← hexValue a) * 16 + (← hexValue b)) * 16 + (← hexValue c)) * 16 + (← hexValue d)
  if 0xd800 ≤ code ∧ code ≤ 0xdfff then none else some (Char.ofNat code)

/-- The character of a short escape sequence. -/
def unescapeShort (c : Char) : Option Char :=
  if c = '\x22' then some '\x22'
  else if c = '\x5c' then some '\x5c'
  else if c = '/' then some '/'
  else if c = 'b' then some '\x08'
  else if c = 't' then some '\t'
  else if c = 'n' then some '\n'
  else if c = 'f' then some '\x0c'
  else if c = 'r' then some '\r'
  else none

/-- Put a character in front of the text that has been read. -/
def prependChar (c : Char) (read : Option (List Char × List Char)) :
    Option (List Char × List Char) :=
  read.map fun (text, rest) => (c :: text, rest)

/-- A string behind its opening quote, and what lies behind the closing one. -/
def readQuoted : List Char → Option (List Char × List Char)
  | [] => none
  | c :: rest =>
      if c = '\x22' then some ([], rest)
      else if c = '\x5c' then
        match rest with
        | [] => none
        | kind :: rest =>
            if kind = 'u' then
              match rest with
              | a :: b :: c :: d :: rest =>
                  (unescapeCode a b c d).bind fun char => prependChar char (readQuoted rest)
              | _ => none
            else (unescapeShort kind).bind fun char => prependChar char (readQuoted rest)
      else if c.toNat < 0x20 then none
      else prependChar c (readQuoted rest)

/-! ## Values -/

mutual

/-- A value, and what lies behind it. -/
def readValue : Nat → List Char → Option (Json × List Char)
  | 0, _ => none
  | fuel + 1, chars =>
      match skipSpace chars with
      | 'n' :: 'u' :: 'l' :: 'l' :: rest => some (.null, rest)
      | 't' :: 'r' :: 'u' :: 'e' :: rest => some (.bool true, rest)
      | 'f' :: 'a' :: 'l' :: 's' :: 'e' :: rest => some (.bool false, rest)
      | '\x22' :: rest =>
          (readQuoted rest).map fun (text, rest) => (.string (String.ofList text), rest)
      | '[' :: rest =>
          match skipSpace rest with
          | ']' :: rest => some (.array .nil, rest)
          | _ => (readItems fuel rest).map fun (items, rest) => (.array items, rest)
      | '\x7b' :: rest =>
          match skipSpace rest with
          | '\x7d' :: rest => some (.object .nil, rest)
          | _ => (readFields fuel rest).map fun (fields, rest) => (.object fields, rest)
      | chars =>
          let text := chars.takeWhile isNumberChar
          if isNumberText text then
            some (.number (String.ofList text), chars.dropWhile isNumberChar)
          else none

/-- The items of an array that has some, with the closing bracket. -/
def readItems : Nat → List Char → Option (JsonItems × List Char)
  | 0, _ => none
  | fuel + 1, chars =>
      (readValue fuel chars).bind fun (head, rest) =>
        match skipSpace rest with
        | ',' :: rest => (readItems fuel rest).map fun (tail, rest) => (.cons head tail, rest)
        | ']' :: rest => some (.cons head .nil, rest)
        | _ => none

/-- The fields of an object that has some, with the closing brace. -/
def readFields : Nat → List Char → Option (JsonFields × List Char)
  | 0, _ => none
  | fuel + 1, chars =>
      match skipSpace chars with
      | '\x22' :: rest =>
          (readQuoted rest).bind fun (key, rest) =>
            match skipSpace rest with
            | ':' :: rest =>
                (readValue fuel rest).bind fun (value, rest) =>
                  match skipSpace rest with
                  | ',' :: rest =>
                      (readFields fuel rest).map fun (tail, rest) =>
                        (.cons (String.ofList key) value tail, rest)
                  | '\x7d' :: rest => some (.cons (String.ofList key) value .nil, rest)
                  | _ => none
            | _ => none
      | _ => none

end

/-- A text that is one value. -/
def parse (chars : List Char) : Option Json :=
  match readValue chars.length chars with
  | some (value, rest) => if skipSpace rest = [] then some value else none
  | none => none

/-! ## Tokens are read back -/

theorem skipSpace_append {front : List Char} (h : ∀ c ∈ front, isSpace c = true)
    (rest : List Char) : skipSpace (front ++ rest) = skipSpace rest := by
  rw [skipSpace, List.dropWhile_append_of_pos h, skipSpace]

theorem skipSpace_cons {c : Char} (h : isSpace c = false) (rest : List Char) :
    skipSpace (c :: rest) = c :: rest :=
  List.dropWhile_cons_of_neg (by simp [h])

theorem hexValue_hexDigit {value : Nat} (h : value < 16) : hexValue (hexDigit value) = some value := by
  interval_cases value <;> decide

/-- A control character is read back from its two digits. -/
theorem unescapeCode_control {c : Char} (h : c.toNat < 0x20) :
    unescapeCode '0' '0' (hexDigit (c.toNat / 16)) (hexDigit (c.toNat % 16)) = some c := by
  have hzero : hexValue '0' = some 0 := by decide
  have hcode : ¬ (0xd800 ≤ ((0 * 16 + 0) * 16 + c.toNat / 16) * 16 + c.toNat % 16 ∧
      ((0 * 16 + 0) * 16 + c.toNat / 16) * 16 + c.toNat % 16 ≤ 0xdfff) := by omega
  have hvalue : ((0 * 16 + 0) * 16 + c.toNat / 16) * 16 + c.toNat % 16 = c.toNat := by omega
  simp only [unescapeCode, hzero, hexValue_hexDigit (show c.toNat / 16 < 16 by omega),
    hexValue_hexDigit (show c.toNat % 16 < 16 by omega), Option.bind_eq_bind, Option.bind_some]
  rw [if_neg hcode, hvalue, Char.ofNat_toNat]

theorem readQuoted_short {kind c : Char} (hkind : kind ≠ 'u')
    (h : unescapeShort kind = some c) (rest : List Char) :
    readQuoted ('\x5c' :: kind :: rest) = prependChar c (readQuoted rest) := by
  rw [readQuoted.eq_def]
  dsimp only
  rw [if_neg (by decide), if_pos rfl, if_neg hkind, h, Option.bind_some]

theorem readQuoted_code {a b c d char : Char} (h : unescapeCode a b c d = some char)
    (rest : List Char) :
    readQuoted ('\x5c' :: 'u' :: a :: b :: c :: d :: rest) =
      prependChar char (readQuoted rest) := by
  rw [readQuoted.eq_def]
  dsimp only
  rw [if_neg (by decide), if_pos rfl, if_pos rfl, h, Option.bind_some]

/-- The escape sequence of a character is read as the character. -/
theorem readQuoted_escapeChar (c : Char) (rest : List Char) :
    readQuoted (escapeChar c ++ rest) = prependChar c (readQuoted rest) := by
  unfold escapeChar
  split_ifs with hquote hbackslash hbackspace htab hnewline hfeed hreturn hcontrol
  · rw [hquote]; exact readQuoted_short (by decide) (by decide) rest
  · rw [hbackslash]; exact readQuoted_short (by decide) (by decide) rest
  · rw [hbackspace]; exact readQuoted_short (by decide) (by decide) rest
  · rw [htab]; exact readQuoted_short (by decide) (by decide) rest
  · rw [hnewline]; exact readQuoted_short (by decide) (by decide) rest
  · rw [hfeed]; exact readQuoted_short (by decide) (by decide) rest
  · rw [hreturn]; exact readQuoted_short (by decide) (by decide) rest
  · exact readQuoted_code (unescapeCode_control hcontrol) rest
  · rw [List.singleton_append, readQuoted.eq_def]
    dsimp only
    rw [if_neg hquote, if_neg hbackslash, if_neg hcontrol]

/-- A quoted string is read back up to its closing quote. -/
theorem readQuoted_quoted (text rest : List Char) :
    readQuoted (text.flatMap escapeChar ++ '\x22' :: rest) = some (text, rest) := by
  induction text with
  | nil =>
      rw [List.flatMap_nil, List.nil_append, readQuoted.eq_def]
      rfl
  | cons c text ih =>
      rw [List.flatMap_cons, List.append_assoc, readQuoted_escapeChar, ih]
      rfl

end Json

/-! ## Layouts -/

/-- The white space of a printer: in front of an item or a closing bracket at a depth, and
behind a colon. -/
structure JsonLayout where
  gap : Nat → List Char
  colon : List Char
  gap_isSpace : ∀ depth, ∀ c ∈ gap depth, Json.isSpace c = true
  colon_isSpace : ∀ c ∈ colon, Json.isSpace c = true

mutual

/-- The text of a value in a layout. -/
def Json.spell (layout : JsonLayout) (depth : Nat) : Json → List Char
  | .null => ['n', 'u', 'l', 'l']
  | .bool true => ['t', 'r', 'u', 'e']
  | .bool false => ['f', 'a', 'l', 's', 'e']
  | .number text => text.toList
  | .string text => '\x22' :: (text.toList.flatMap Json.escapeChar ++ ['\x22'])
  | .array items =>
      if items.isNil then ['[', ']']
      else '[' :: (items.spell layout (depth + 1) ++ (layout.gap depth ++ [']']))
  | .object fields =>
      if fields.isNil then ['\x7b', '\x7d']
      else '\x7b' :: (fields.spell layout (depth + 1) ++ (layout.gap depth ++ ['\x7d']))

def JsonItems.spell (layout : JsonLayout) (depth : Nat) : JsonItems → List Char
  | .nil => []
  | .cons head tail =>
      layout.gap depth ++ (head.spell layout depth ++
        if tail.isNil then [] else ',' :: tail.spell layout depth)

def JsonFields.spell (layout : JsonLayout) (depth : Nat) : JsonFields → List Char
  | .nil => []
  | .cons key value tail =>
      layout.gap depth ++ ('\x22' :: (key.toList.flatMap Json.escapeChar ++
        '\x22' :: ':' :: (layout.colon ++ (value.spell layout depth ++
          if tail.isNil then [] else ',' :: tail.spell layout depth))))

end

/-- No white space at all. -/
def JsonLayout.compact : JsonLayout where
  gap _ := []
  colon := []
  gap_isSpace := by simp
  colon_isSpace := by simp

/-- A line for every item, indented by two spaces a level. -/
def JsonLayout.pretty : JsonLayout where
  gap depth := '\n' :: List.replicate (2 * depth) ' '
  colon := [' ']
  gap_isSpace := by
    intro depth c hc
    rcases List.mem_cons.mp hc with rfl | hspace
    · decide
    · rw [List.eq_of_mem_replicate hspace]
      decide
  colon_isSpace := by
    intro c hc
    rw [List.mem_singleton.mp hc]
    decide

@[simp] theorem JsonLayout.compact_gap (depth : Nat) : JsonLayout.compact.gap depth = [] := rfl

@[simp] theorem JsonLayout.compact_colon : JsonLayout.compact.colon = [] := rfl

@[simp] theorem JsonLayout.pretty_gap (depth : Nat) :
    JsonLayout.pretty.gap depth = '\n' :: List.replicate (2 * depth) ' ' := rfl

@[simp] theorem JsonLayout.pretty_colon : JsonLayout.pretty.colon = [' '] := rfl

mutual

theorem Json.toList_compact (depth : Nat) (value : Json) :
    value.compact.toList = value.spell .compact depth := by
  cases value with
  | null => rfl
  | bool value => cases value <;> rfl
  | number text => rfl
  | string text => simp [Json.compact, Json.quote, Json.spell]
  | array items =>
      cases items with
      | nil => rfl
      | cons head tail =>
          simp [Json.compact, Json.spell, JsonItems.isNil, JsonItems.toList_compact (depth + 1)]
  | object fields =>
      cases fields with
      | nil => rfl
      | cons key value tail =>
          simp [Json.compact, Json.spell, JsonFields.isNil, JsonFields.toList_compact (depth + 1)]

theorem JsonItems.toList_compact (depth : Nat) (items : JsonItems) :
    items.compact.toList = items.spell .compact depth := by
  cases items with
  | nil => rfl
  | cons head tail =>
      rw [JsonItems.compact, JsonItems.spell, String.toList_append, head.toList_compact depth]
      split
      · rfl
      · rw [String.toList_append, tail.toList_compact depth]
        rfl

theorem JsonFields.toList_compact (depth : Nat) (fields : JsonFields) :
    fields.compact.toList = fields.spell .compact depth := by
  cases fields with
  | nil => rfl
  | cons key value tail =>
      simp only [JsonFields.compact, JsonFields.spell, String.toList_append, Json.quote,
        value.toList_compact depth]
      split
      · simp
      · simp [tail.toList_compact depth]

end

mutual

theorem Json.toList_pretty (depth : Nat) (value : Json) :
    (value.pretty depth).toList = value.spell .pretty depth := by
  cases value with
  | null => simp [Json.pretty, Json.spell]
  | bool value => cases value <;> simp [Json.pretty, Json.spell]
  | number text => simp [Json.pretty, Json.spell]
  | string text => simp [Json.pretty, Json.quote, Json.spell]
  | array items =>
      cases items with
      | nil => simp [Json.pretty, Json.spell, JsonItems.isNil]
      | cons head tail =>
          have hitems := JsonItems.toList_pretty (depth + 1) (.cons head tail) rfl
          simp [Json.pretty, Json.spell, JsonItems.isNil, ← hitems, indentation]
  | object fields =>
      cases fields with
      | nil => simp [Json.pretty, Json.spell, JsonFields.isNil]
      | cons key value tail =>
          have hfields := JsonFields.toList_pretty (depth + 1) (.cons key value tail) rfl
          simp [Json.pretty, Json.spell, JsonFields.isNil, ← hfields, indentation]

/-- The line break in front of the items is written by the array. -/
theorem JsonItems.toList_pretty (depth : Nat) (items : JsonItems) (h : items.isNil = false) :
    '\n' :: (items.pretty depth).toList = items.spell .pretty depth := by
  cases items with
  | nil => contradiction
  | cons head tail =>
      simp only [JsonItems.pretty, JsonItems.spell, String.toList_append,
        head.toList_pretty depth]
      cases htail : tail.isNil with
      | true => simp [indentation]
      | false =>
          simp [indentation, ← tail.toList_pretty depth htail]

theorem JsonFields.toList_pretty (depth : Nat) (fields : JsonFields) (h : fields.isNil = false) :
    '\n' :: (fields.pretty depth).toList = fields.spell .pretty depth := by
  cases fields with
  | nil => contradiction
  | cons key value tail =>
      simp only [JsonFields.pretty, JsonFields.spell, String.toList_append, Json.quote,
        value.toList_pretty depth]
      cases htail : tail.isNil with
      | true => simp [indentation]
      | false =>
          simp [indentation, ← tail.toList_pretty depth htail]

end

/-! ## Values are read back -/

mutual

/-- Every number of the value is written as a number. -/
def Json.HasNumbers : Json → Prop
  | .number text => Json.isNumberText text.toList = true
  | .array items => items.HasNumbers
  | .object fields => fields.HasNumbers
  | .null | .bool _ | .string _ => True

def JsonItems.HasNumbers : JsonItems → Prop
  | .nil => True
  | .cons head tail => head.HasNumbers ∧ tail.HasNumbers

def JsonFields.HasNumbers : JsonFields → Prop
  | .nil => True
  | .cons _ value tail => value.HasNumbers ∧ tail.HasNumbers

end

mutual

/-- The nesting of calls that reads the value. -/
def Json.readDepth : Json → Nat
  | .array items => 1 + items.readDepth
  | .object fields => 1 + fields.readDepth
  | .null | .bool _ | .number _ | .string _ => 1

def JsonItems.readDepth : JsonItems → Nat
  | .nil => 0
  | .cons head tail => 1 + max head.readDepth tail.readDepth

def JsonFields.readDepth : JsonFields → Nat
  | .nil => 0
  | .cons _ value tail => 1 + max value.readDepth tail.readDepth

end

/-- What may stand behind a number. -/
def EndsNumber (rest : List Char) : Prop := ∀ c, rest.head? = some c → Json.isNumberChar c = false

theorem endsNumber_cons {c : Char} (h : Json.isNumberChar c = false) (rest : List Char) :
    EndsNumber (c :: rest) := by
  intro other hother
  rw [← Option.some.inj hother]
  exact h

theorem Json.not_isNumberChar_of_isSpace {c : Char} (h : isSpace c = true) :
    isNumberChar c = false := by
  simp only [isSpace, Bool.or_eq_true, decide_eq_true_eq] at h
  rcases h with ((rfl | rfl) | rfl) | rfl <;> decide

/-- White space ends a number, and so does what follows when there is none. -/
theorem endsNumber_append {front rest : List Char} (hfront : ∀ c ∈ front, Json.isSpace c = true)
    (hrest : EndsNumber rest) : EndsNumber (front ++ rest) := by
  cases front with
  | nil => exact hrest
  | cons c front =>
      exact endsNumber_cons (Json.not_isNumberChar_of_isSpace (hfront c List.mem_cons_self)) _

namespace Json

/-- A number is read up to its end. -/
theorem readValue_number {text rest : List Char} (h : isNumberText text = true)
    (hrest : EndsNumber rest) (fuel : Nat) :
    readValue (fuel + 1) (text ++ rest) = some (.number (String.ofList text), rest) := by
  have hall : ∀ c ∈ text, isNumberChar c = true := by
    intro c hc
    cases text with
    | nil => contradiction
    | cons first more =>
        simp only [isNumberText, Bool.and_eq_true, Bool.or_eq_true, List.all_eq_true] at h
        rcases List.mem_cons.mp hc with rfl | hmore
        · rcases h.1 with hdigit | hminus
          · simp [isNumberChar, hdigit]
          · simp only [decide_eq_true_eq] at hminus
            rw [hminus]
            decide
        · exact h.2 c hmore
  have hnone : rest.takeWhile isNumberChar = [] ∧ rest.dropWhile isNumberChar = rest := by
    cases rest with
    | nil => exact ⟨rfl, rfl⟩
    | cons c rest =>
        have hc := hrest c rfl
        simp [hc]
  have htake : (text ++ rest).takeWhile isNumberChar = text := by
    rw [List.takeWhile_append_of_pos hall, hnone.1, List.append_nil]
  have hdrop : (text ++ rest).dropWhile isNumberChar = rest := by
    rw [List.dropWhile_append_of_pos hall, hnone.2]
  cases text with
  | nil => contradiction
  | cons first more =>
      have hfirst : (first.isDigit || first = '-') = true := by
        simp only [isNumberText, Bool.and_eq_true] at h
        exact h.1
      have hspace : isSpace first = false := by
        cases hspace : isSpace first with
        | false => rfl
        | true =>
            have hnumber := hall first List.mem_cons_self
            rw [not_isNumberChar_of_isSpace hspace] at hnumber
            contradiction
      rw [readValue, List.cons_append, skipSpace_cons hspace]
      -- a digit or a sign is none of the characters that begin the other values
      split
      all_goals first
        | (rename_i heq
           obtain ⟨rfl, -⟩ := List.cons.inj heq
           exact absurd hfirst (by decide))
        | skip
      rw [← List.cons_append, htake, hdrop]
      simp only [h, if_true]

/-- The text of a value begins with a character of its own. -/
theorem exists_spell_eq_cons {value : Json} (h : value.HasNumbers) (layout : JsonLayout)
    (depth : Nat) :
    ∃ c rest, value.spell layout depth = c :: rest ∧ isSpace c = false ∧ c ≠ ']' := by
  cases value with
  | null => exact ⟨'n', _, by rw [spell], by decide, by decide⟩
  | bool value =>
      cases value with
      | true => exact ⟨'t', _, by rw [spell], by decide, by decide⟩
      | false => exact ⟨'f', _, by rw [spell], by decide, by decide⟩
  | number text =>
      have hnumber : isNumberText text.toList = true := h
      cases htext : text.toList with
      | nil => rw [htext] at hnumber; contradiction
      | cons c rest =>
          rw [htext] at hnumber
          simp only [isNumberText, Bool.and_eq_true, Bool.or_eq_true, decide_eq_true_eq] at hnumber
          refine ⟨c, rest, by rw [spell, htext], ?_, ?_⟩
          · cases hspace : isSpace c with
            | false => rfl
            | true =>
                simp only [isSpace, Bool.or_eq_true, decide_eq_true_eq] at hspace
                rcases hspace with ((rfl | rfl) | rfl) | rfl <;> exact absurd hnumber.1 (by decide)
          · rintro rfl
            exact absurd hnumber.1 (by decide)
  | string text => exact ⟨'\x22', _, by rw [spell], by decide, by decide⟩
  | array items =>
      cases items with
      | nil => exact ⟨'[', [']'], rfl, by decide, by decide⟩
      | cons head tail =>
          exact ⟨'[', _, by rw [spell, if_neg (by simp [JsonItems.isNil])], by decide, by decide⟩
  | object fields =>
      cases fields with
      | nil => exact ⟨'\x7b', ['\x7d'], rfl, by decide, by decide⟩
      | cons key value tail =>
          exact ⟨'\x7b', _, by rw [spell, if_neg (by simp [JsonFields.isNil])], by decide,
            by decide⟩

end Json

/-- Items do not begin with a closing bracket. -/
theorem JsonItems.skipSpace_spell {items : JsonItems} (h : items.HasNumbers)
    (hsome : items.isNil = false) (layout : JsonLayout) (depth : Nat) (more rest : List Char) :
    Json.skipSpace (items.spell layout depth ++ more) ≠ ']' :: rest := by
  cases items with
  | nil => contradiction
  | cons head tail =>
      obtain ⟨c, text, htext, hspace, hbracket⟩ := Json.exists_spell_eq_cons h.1 layout depth
      rw [JsonItems.spell, List.append_assoc, Json.skipSpace_append (layout.gap_isSpace depth),
        htext, List.cons_append, List.cons_append, Json.skipSpace_cons hspace]
      intro heq
      exact hbracket (List.cons.inj heq).1

/-- Fields begin with the quote of a key. -/
theorem JsonFields.skipSpace_spell {fields : JsonFields} (hsome : fields.isNil = false)
    (layout : JsonLayout) (depth : Nat) (more rest : List Char) :
    Json.skipSpace (fields.spell layout depth ++ more) ≠ '\x7d' :: rest := by
  cases fields with
  | nil => contradiction
  | cons key value tail =>
      rw [JsonFields.spell, List.append_assoc, Json.skipSpace_append (layout.gap_isSpace depth),
        List.cons_append, Json.skipSpace_cons (by decide)]
      intro heq
      exact absurd (List.cons.inj heq).1 (by decide)

mutual

/-- A value is read back behind white space and in front of what ends it. -/
theorem Json.readValue_spell (layout : JsonLayout) (depth : Nat) (value : Json)
    (h : value.HasNumbers) {fuel : Nat} (hfuel : value.readDepth ≤ fuel) {front rest : List Char}
    (hfront : ∀ c ∈ front, Json.isSpace c = true) (hrest : EndsNumber rest) :
    Json.readValue fuel (front ++ (value.spell layout depth ++ rest)) = some (value, rest) := by
  cases fuel with
  | zero => cases value <;> simp [Json.readDepth] at hfuel
  | succ fuel =>
      -- the space in front of a value is skipped
      have hskip : ∀ chars, Json.readValue (fuel + 1) (front ++ chars) =
          Json.readValue (fuel + 1) chars := by
        intro chars
        rw [Json.readValue, Json.readValue, Json.skipSpace_append hfront]
      rw [hskip]
      cases value with
      | null =>
          rw [Json.readValue, Json.spell, List.cons_append, Json.skipSpace_cons (by decide)]
          rfl
      | bool value =>
          cases value with
          | true =>
              rw [Json.readValue, Json.spell, List.cons_append, Json.skipSpace_cons (by decide)]
              rfl
          | false =>
              rw [Json.readValue, Json.spell, List.cons_append, Json.skipSpace_cons (by decide)]
              rfl
      | number text =>
          rw [Json.spell, Json.readValue_number h hrest, String.ofList_toList]
      | string text =>
          rw [Json.readValue, Json.spell, List.cons_append, Json.skipSpace_cons (by decide)]
          simp only [List.append_assoc, List.singleton_append, Json.readQuoted_quoted,
            Option.map_some, String.ofList_toList]
      | array items =>
          cases hitems : items.isNil with
          | true =>
              rw [Json.readValue, Json.spell, if_pos hitems, List.cons_append,
                Json.skipSpace_cons (by decide)]
              cases items with
              | nil => rfl
              | cons head tail => contradiction
          | false =>
              simp only [Json.readDepth] at hfuel
              have hread := JsonItems.readItems_spell layout (depth + 1) items h hitems
                (show items.readDepth ≤ fuel by omega) (layout.gap_isSpace depth) rest
              have hbracket := items.skipSpace_spell h hitems layout (depth + 1)
                (layout.gap depth ++ ']' :: rest)
              rw [Json.readValue, Json.spell, if_neg (by simp [hitems]), List.cons_append,
                Json.skipSpace_cons (by decide)]
              simp only [List.append_assoc, List.singleton_append]
              rw [hread, Option.map_some]
      | object fields =>
          cases hfields : fields.isNil with
          | true =>
              rw [Json.readValue, Json.spell, if_pos hfields, List.cons_append,
                Json.skipSpace_cons (by decide)]
              cases fields with
              | nil => rfl
              | cons key value tail => contradiction
          | false =>
              simp only [Json.readDepth] at hfuel
              have hread := JsonFields.readFields_spell layout (depth + 1) fields h hfields
                (show fields.readDepth ≤ fuel by omega) (layout.gap_isSpace depth) rest
              have hbrace := fields.skipSpace_spell hfields layout (depth + 1)
                (layout.gap depth ++ '\x7d' :: rest)
              rw [Json.readValue, Json.spell, if_neg (by simp [hfields]), List.cons_append,
                Json.skipSpace_cons (by decide)]
              simp only [List.append_assoc, List.singleton_append]
              rw [hread, Option.map_some]

/-- The items of an array are read back with their closing bracket. -/
theorem JsonItems.readItems_spell (layout : JsonLayout) (depth : Nat) (items : JsonItems)
    (h : items.HasNumbers) (hsome : items.isNil = false) {fuel : Nat}
    (hfuel : items.readDepth ≤ fuel) {front : List Char}
    (hfront : ∀ c ∈ front, Json.isSpace c = true) (rest : List Char) :
    Json.readItems fuel (items.spell layout depth ++ (front ++ ']' :: rest)) =
      some (items, rest) := by
  cases items with
  | nil => contradiction
  | cons head tail =>
      obtain ⟨hhead, htail⟩ := h
      cases fuel with
      | zero => simp [JsonItems.readDepth] at hfuel
      | succ fuel =>
          simp only [JsonItems.readDepth] at hfuel
          have hheadFuel : head.readDepth ≤ fuel := by omega
          have htailFuel : tail.readDepth ≤ fuel := by omega
          rw [Json.readItems, JsonItems.spell, List.append_assoc, List.append_assoc]
          -- behind the last item stands the bracket, behind any other a comma
          cases hnil : tail.isNil with
          | true =>
              obtain rfl : tail = .nil := by
                cases tail with
                | nil => rfl
                | cons _ _ => contradiction
              have hends : EndsNumber (front ++ ']' :: rest) :=
                endsNumber_append hfront (endsNumber_cons (by decide) rest)
              rw [if_pos rfl, List.nil_append,
                Json.readValue_spell layout depth head hhead hheadFuel (layout.gap_isSpace depth)
                  hends, Option.bind_some]
              dsimp only
              rw [Json.skipSpace_append hfront, Json.skipSpace_cons (by decide)]
              rfl
          | false =>
              have htailRead := JsonItems.readItems_spell layout depth tail htail hnil htailFuel
                hfront rest
              rw [if_neg (by simp), List.cons_append,
                Json.readValue_spell layout depth head hhead hheadFuel (layout.gap_isSpace depth)
                  (endsNumber_cons (by decide) _), Option.bind_some]
              dsimp only
              rw [Json.skipSpace_cons (by decide)]
              simp only [htailRead, Option.map_some]

/-- The fields of an object are read back with their closing brace. -/
theorem JsonFields.readFields_spell (layout : JsonLayout) (depth : Nat) (fields : JsonFields)
    (h : fields.HasNumbers) (hsome : fields.isNil = false) {fuel : Nat}
    (hfuel : fields.readDepth ≤ fuel) {front : List Char}
    (hfront : ∀ c ∈ front, Json.isSpace c = true) (rest : List Char) :
    Json.readFields fuel (fields.spell layout depth ++ (front ++ '\x7d' :: rest)) =
      some (fields, rest) := by
  cases fields with
  | nil => contradiction
  | cons key value tail =>
      obtain ⟨hvalue, htail⟩ := h
      cases fuel with
      | zero => simp [JsonFields.readDepth] at hfuel
      | succ fuel =>
          simp only [JsonFields.readDepth] at hfuel
          have hvalueFuel : value.readDepth ≤ fuel := by omega
          have htailFuel : tail.readDepth ≤ fuel := by omega
          rw [Json.readFields, JsonFields.spell, List.append_assoc,
            Json.skipSpace_append (layout.gap_isSpace depth), List.cons_append,
            Json.skipSpace_cons (by decide)]
          simp only [List.append_assoc, List.cons_append, Json.readQuoted_quoted,
            Option.bind_some]
          rw [Json.skipSpace_cons (by decide)]
          -- behind the last field stands the brace, behind any other a comma
          cases hnil : tail.isNil with
          | true =>
              obtain rfl : tail = .nil := by
                cases tail with
                | nil => rfl
                | cons _ _ _ => contradiction
              have hends : EndsNumber (front ++ '\x7d' :: rest) :=
                endsNumber_append hfront (endsNumber_cons (by decide) rest)
              simp only [if_true, List.nil_append]
              rw [Json.readValue_spell layout depth value hvalue hvalueFuel layout.colon_isSpace
                  hends, Option.bind_some]
              dsimp only
              rw [Json.skipSpace_append hfront, Json.skipSpace_cons (by decide),
                String.ofList_toList]
              rfl
          | false =>
              have htailRead := JsonFields.readFields_spell layout depth tail htail hnil htailFuel
                hfront rest
              simp only [Bool.false_eq_true, if_false, List.cons_append]
              rw [Json.readValue_spell layout depth value hvalue hvalueFuel layout.colon_isSpace
                  (endsNumber_cons (by decide) _), Option.bind_some]
              dsimp only
              rw [Json.skipSpace_cons (by decide)]
              simp only [htailRead, Option.map_some, String.ofList_toList]

end

mutual

/-- The text of a value is long enough to count the calls. -/
theorem Json.readDepth_le (layout : JsonLayout) (depth : Nat) (value : Json)
    (h : value.HasNumbers) : value.readDepth ≤ (value.spell layout depth).length := by
  obtain ⟨c, rest, hspell, -⟩ := Json.exists_spell_eq_cons h layout depth
  cases value with
  | null | bool _ | number _ | string _ =>
      rw [hspell, List.length_cons]
      exact Nat.le_add_left 1 _
  | array items =>
      have hitems := JsonItems.readDepth_le layout (depth + 1) items h
      rw [Json.readDepth, Json.spell]
      split
      · rename_i hnil
        cases items with
        | nil => exact Nat.le_succ 1
        | cons head tail => contradiction
      · simp only [List.length_cons, List.length_append]
        omega
  | object fields =>
      have hfields := JsonFields.readDepth_le layout (depth + 1) fields h
      rw [Json.readDepth, Json.spell]
      split
      · rename_i hnil
        cases fields with
        | nil => exact Nat.le_succ 1
        | cons key value tail => contradiction
      · simp only [List.length_cons, List.length_append]
        omega

theorem JsonItems.readDepth_le (layout : JsonLayout) (depth : Nat) (items : JsonItems)
    (h : items.HasNumbers) : items.readDepth ≤ (items.spell layout depth).length + 1 := by
  cases items with
  | nil => exact Nat.zero_le _
  | cons head tail =>
      have hhead := Json.readDepth_le layout depth head h.1
      have htail := JsonItems.readDepth_le layout depth tail h.2
      rw [JsonItems.readDepth, JsonItems.spell]
      split
      · rename_i hnil
        cases tail with
        | nil =>
            simp only [JsonItems.readDepth, List.length_append, List.length_nil]
            omega
        | cons _ _ => contradiction
      · simp only [List.length_append, List.length_cons]
        omega

theorem JsonFields.readDepth_le (layout : JsonLayout) (depth : Nat) (fields : JsonFields)
    (h : fields.HasNumbers) : fields.readDepth ≤ (fields.spell layout depth).length + 1 := by
  cases fields with
  | nil => exact Nat.zero_le _
  | cons key value tail =>
      have hvalue := Json.readDepth_le layout depth value h.1
      have htail := JsonFields.readDepth_le layout depth tail h.2
      rw [JsonFields.readDepth, JsonFields.spell]
      split
      · rename_i hnil
        cases tail with
        | nil =>
            simp only [JsonFields.readDepth, List.length_append, List.length_cons, List.length_nil]
            omega
        | cons _ _ _ => contradiction
      · simp only [List.length_append, List.length_cons]
        omega

end

namespace Json

/-- A text in any layout is read back, with white space behind it. -/
theorem parse_spell {value : Json} (h : value.HasNumbers) (layout : JsonLayout)
    {back : List Char} (hback : ∀ c ∈ back, isSpace c = true) :
    parse (value.spell layout 0 ++ back) = some value := by
  have hends : EndsNumber back := by
    rw [← List.append_nil back]
    exact endsNumber_append hback fun c hc => by contradiction
  have hfuel : value.readDepth ≤ (value.spell layout 0 ++ back).length := by
    have hle := value.readDepth_le layout 0 h
    rw [List.length_append]
    omega
  have hread : readValue (value.spell layout 0 ++ back).length
      ([] ++ (value.spell layout 0 ++ back)) = some (value, back) :=
    value.readValue_spell layout 0 h hfuel (by simp) hends
  have hskip : skipSpace back = [] := by
    have happend := skipSpace_append hback []
    rwa [List.append_nil] at happend
  rw [parse]
  rw [List.nil_append] at hread
  simp only [hread, hskip, if_true]

theorem parse_compact {value : Json} (h : value.HasNumbers) :
    parse value.compact.toList = some value := by
  rw [toList_compact 0, ← List.append_nil (value.spell .compact 0)]
  exact parse_spell h .compact (by simp)

/-- The pretty text is read back with the newline behind it. -/
theorem parse_pretty {value : Json} (h : value.HasNumbers) :
    parse (value.pretty 0 ++ "\n").toList = some value := by
  rw [String.toList_append, toList_pretty 0]
  apply parse_spell h .pretty
  intro c hc
  rw [show "\n".toList = ['\n'] from rfl] at hc
  rw [List.mem_singleton.mp hc]
  decide

/-- A value is determined by its compact text. -/
theorem compact_injective {a b : Json} (ha : a.HasNumbers) (hb : b.HasNumbers)
    (h : a.compact = b.compact) : a = b := by
  have hparse := parse_compact ha
  rw [h, parse_compact hb] at hparse
  exact (Option.some.inj hparse).symm

/-- A value is determined by its pretty text. -/
theorem pretty_injective {a b : Json} (ha : a.HasNumbers) (hb : b.HasNumbers)
    (h : a.pretty 0 = b.pretty 0) : a = b := by
  have hparse := parse_pretty ha
  rw [h, parse_pretty hb] at hparse
  exact (Option.some.inj hparse).symm

end Json

end Library
end Benchplane
