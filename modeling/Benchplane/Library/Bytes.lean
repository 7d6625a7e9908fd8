import Mathlib.Data.List.DropRight
import Mathlib.Tactic.IntervalCases

/-!
# Byte strings

A file's content, a path and a line of text are lists of bytes.  Text is the
image of `utf8`; `decodeUtf8` reads it back and refuses every other byte string.
The module also holds the cuts a line-oriented reader makes: `splitInclusive`
hands out one line at a time with its terminator, `splitOnce` cuts at the first
occurrence of a separator.
-/

namespace Benchplane
namespace Library

/-- A byte string. -/
abbrev Bytes := List UInt8

/-- The UTF-8 encoding of a text. -/
def utf8 (text : String) : Bytes :=
  text.toByteArray.data.toList

/-- Read a byte string as UTF-8; `none` when it is not valid. -/
def decodeUtf8 (bytes : Bytes) : Option String :=
  String.fromUTF8? ⟨bytes.toArray⟩

@[simp] theorem decodeUtf8_utf8 (text : String) :
    decodeUtf8 (utf8 text) = some text := by
  have hvalid : text.toByteArray.IsValidUTF8 := text.isValidUTF8
  simp [decodeUtf8, utf8, String.fromUTF8?, hvalid, String.fromUTF8]

theorem utf8_of_decodeUtf8 {bytes : Bytes} {text : String}
    (h : decodeUtf8 bytes = some text) : utf8 text = bytes := by
  unfold decodeUtf8 String.fromUTF8? at h
  split at h
  · obtain rfl := Option.some.inj h
    rfl
  · contradiction

theorem utf8_injective : Function.Injective utf8 := by
  intro s t h
  have hdecode := congrArg decodeUtf8 h
  simpa using hdecode

theorem utf8_append (s t : String) : utf8 (s ++ t) = utf8 s ++ utf8 t := by
  simp [utf8, String.toByteArray_append, ByteArray.data_append]

/-- The encoding goes character by character. -/
theorem utf8_ofList (chars : List Char) :
    utf8 (String.ofList chars) = chars.flatMap String.utf8EncodeChar := by
  simp [utf8, String.toByteArray_ofList, List.utf8Encode]

theorem utf8_eq_flatMap (text : String) :
    utf8 text = text.toList.flatMap String.utf8EncodeChar := by
  rw [← utf8_ofList, String.ofList_toList]

/-- An ASCII byte occurs only in the encoding of its own character. -/
theorem ofNat_mem_utf8EncodeChar {a : Nat} (ha : a < 128) {c : Char} :
    UInt8.ofNat a ∈ String.utf8EncodeChar c ↔ c.toNat = a := by
  have hofNat : ∀ v : Nat, UInt8.ofNat a = UInt8.ofNat v ↔ a = v % 256 := by
    intro v
    rw [← UInt8.toNat_inj, UInt8.toNat_ofNat', UInt8.toNat_ofNat']
    omega
  have hv : c.val.toNat = c.toNat := rfl
  unfold String.utf8EncodeChar
  simp only [hv]
  -- every byte of a longer encoding is at least 128
  split
  · simp only [List.mem_cons, List.not_mem_nil, or_false, hofNat]
    omega
  · split
    · simp only [List.mem_cons, List.not_mem_nil, or_false, hofNat]
      omega
    · split
      · simp only [List.mem_cons, List.not_mem_nil, or_false, hofNat]
        omega
      · simp only [List.mem_cons, List.not_mem_nil, or_false, hofNat]
        omega

/-- An ASCII character is one byte. -/
theorem utf8EncodeChar_of_lt {c : Char} (h : c.toNat < 128) :
    String.utf8EncodeChar c = [UInt8.ofNat c.toNat] := by
  have hval : c.val.toNat ≤ 0x7f := by
    show c.toNat ≤ 127
    omega
  unfold String.utf8EncodeChar
  simp only [if_pos hval]
  rfl

/-- A newline byte in a text is a newline character. -/
theorem newline_mem_utf8 {text : String} : 10 ∈ utf8 text ↔ '\n' ∈ text.toList := by
  have hten : (10 : UInt8) = UInt8.ofNat 10 := rfl
  rw [utf8_eq_flatMap, List.mem_flatMap, hten]
  constructor
  · rintro ⟨c, hc, hmem⟩
    have hcode := (ofNat_mem_utf8EncodeChar (by omega)).mp hmem
    obtain rfl : c = '\n' := Char.toNat_inj.mp (hcode.trans rfl)
    exact hc
  · exact fun h => ⟨'\n', h, (ofNat_mem_utf8EncodeChar (by omega)).mpr rfl⟩

theorem length_utf8 (text : String) : (utf8 text).length = text.utf8ByteSize := rfl

/-! ## Lines -/

/-- Cut a byte string after every occurrence of `stop`.  Each piece keeps its
terminator; only the last piece may lack one. -/
def splitInclusive (stop : UInt8) : Bytes → List Bytes
  | [] => []
  | b :: rest =>
      if b = stop then
        [b] :: splitInclusive stop rest
      else
        match splitInclusive stop rest with
        | [] => [[b]]
        | line :: lines => (b :: line) :: lines

@[simp] theorem splitInclusive_nil (stop : UInt8) : splitInclusive stop [] = [] := rfl

theorem flatten_splitInclusive (stop : UInt8) (bytes : Bytes) :
    (splitInclusive stop bytes).flatten = bytes := by
  induction bytes with
  | nil => rfl
  | cons b rest ih =>
      simp only [splitInclusive]
      split
      · simp [ih]
      · cases hrest : splitInclusive stop rest with
        | nil =>
            obtain rfl : rest = [] := by simpa [hrest] using ih.symm
            rfl
        | cons line lines => simpa [hrest] using ih

theorem ne_nil_of_mem_splitInclusive {stop : UInt8} {bytes line : Bytes}
    (h : line ∈ splitInclusive stop bytes) : line ≠ [] := by
  induction bytes generalizing line with
  | nil => simp at h
  | cons b rest ih =>
      simp only [splitInclusive] at h
      split at h
      · rcases List.mem_cons.mp h with rfl | hmem
        · simp
        · exact ih hmem
      · cases hrest : splitInclusive stop rest with
        | nil => simp_all
        | cons first lines =>
            rw [hrest] at h
            rcases List.mem_cons.mp h with rfl | hmem
            · simp
            · exact ih (by rw [hrest]; exact List.mem_cons_of_mem _ hmem)

/-- A piece is free of the terminator before its last byte. -/
theorem not_mem_dropLast_of_mem_splitInclusive {stop : UInt8} {bytes line : Bytes}
    (h : line ∈ splitInclusive stop bytes) : stop ∉ line.dropLast := by
  induction bytes generalizing line with
  | nil => simp at h
  | cons b rest ih =>
      simp only [splitInclusive] at h
      split at h
      · rcases List.mem_cons.mp h with rfl | hmem
        · simp
        · exact ih hmem
      · rename_i hb
        cases hrest : splitInclusive stop rest with
        | nil => simp_all
        | cons first lines =>
            rw [hrest] at h
            rcases List.mem_cons.mp h with rfl | hmem
            · have hfirst : first ∈ splitInclusive stop rest := by simp [hrest]
              rw [List.dropLast_cons_of_ne_nil (ne_nil_of_mem_splitInclusive hfirst)]
              simpa [Ne.symm hb] using ih hfirst
            · exact ih (by rw [hrest]; exact List.mem_cons_of_mem _ hmem)

/-- A terminated line is handed out first. -/
theorem splitInclusive_line {stop : UInt8} {line : Bytes} (h : stop ∉ line)
    (rest : Bytes) :
    splitInclusive stop (line ++ stop :: rest) =
      (line ++ [stop]) :: splitInclusive stop rest := by
  induction line with
  | nil => simp [splitInclusive]
  | cons b line ih =>
      have hb : b ≠ stop := fun hb => h (by simp [hb])
      have hline : stop ∉ line := fun hmem => h (List.mem_cons_of_mem _ hmem)
      simp [splitInclusive, hb, ih hline]

/-- Behind a terminated part the cutting starts afresh. -/
theorem splitInclusive_append {stop : UInt8} {front : Bytes}
    (h : front = [] ∨ front.getLast? = some stop) (back : Bytes) :
    splitInclusive stop (front ++ back) =
      splitInclusive stop front ++ splitInclusive stop back := by
  induction front with
  | nil => rfl
  | cons b rest ih =>
      have hlast : (b :: rest).getLast? = some stop := by simpa using h
      by_cases hrest : rest = []
      · subst hrest
        obtain rfl : b = stop := by simpa using hlast
        simp [splitInclusive]
      · have hlast' : rest.getLast? = some stop := by
          rwa [List.getLast?_cons_of_ne_nil hrest] at hlast
        have htail := ih (.inr hlast')
        by_cases hb : b = stop
        · simp [splitInclusive, hb, htail]
        · cases hpieces : splitInclusive stop rest with
          | nil =>
              have hflatten := flatten_splitInclusive stop rest
              rw [hpieces] at hflatten
              exact absurd hflatten.symm hrest
          | cons line lines => simp [splitInclusive, hb, htail, hpieces]

/-- A sequence of terminated lines is cut exactly where it was put together. -/
theorem splitInclusive_flatMap {α : Type} {stop : UInt8} (line : α → Bytes)
    (items : List α) (h : ∀ item ∈ items, stop ∉ line item) :
    splitInclusive stop (items.flatMap fun item => line item ++ [stop]) =
      items.map fun item => line item ++ [stop] := by
  induction items with
  | nil => rfl
  | cons item items ih =>
      have hhead := h item (by simp)
      have htail := ih fun other hother => h other (List.mem_cons_of_mem _ hother)
      simp only [List.flatMap_cons, List.append_assoc, List.singleton_append,
        List.map_cons]
      rw [splitInclusive_line hhead, htail]

/-- A byte string without a terminator is one piece. -/
theorem splitInclusive_of_notMem {stop : UInt8} {line : Bytes} (h : stop ∉ line) (hne : line ≠ []) :
    splitInclusive stop line = [line] := by
  induction line with
  | nil => exact absurd rfl hne
  | cons b rest ih =>
      have hb : b ≠ stop := fun hb => h (by simp [hb])
      cases rest with
      | nil => simp [splitInclusive, hb]
      | cons c rest =>
          have htail := ih (fun hmem => h (List.mem_cons_of_mem _ hmem)) (by simp)
          rw [splitInclusive, if_neg hb, htail]

/-- All pieces but the last one are terminated. -/
theorem getLast?_of_mem_dropLast_splitInclusive {stop : UInt8} {bytes line : Bytes}
    (h : line ∈ (splitInclusive stop bytes).dropLast) : line.getLast? = some stop := by
  induction bytes generalizing line with
  | nil => simp at h
  | cons b rest ih =>
      simp only [splitInclusive] at h
      split at h
      · rename_i hb
        cases hrest : splitInclusive stop rest with
        | nil => simp [hrest] at h
        | cons first lines =>
            rw [hrest, List.dropLast_cons_of_ne_nil (by simp), List.mem_cons] at h
            rcases h with rfl | hmem
            · simp [hb]
            · exact ih (by rw [hrest]; exact hmem)
      · cases hrest : splitInclusive stop rest with
        | nil => simp [hrest] at h
        | cons first lines =>
            have hfirstMem : first ∈ splitInclusive stop rest := by simp [hrest]
            have hfirst := ne_nil_of_mem_splitInclusive hfirstMem
            cases lines with
            | nil => simp [hrest] at h
            | cons second lines =>
                rw [hrest] at h
                simp only [List.dropLast_cons_of_ne_nil (List.cons_ne_nil second lines),
                  List.mem_cons] at h
                -- the byte joins the first piece, which ends as before
                have hothers : ∀ other, other = first ∨ other ∈ (second :: lines).dropLast →
                    other.getLast? = some stop := by
                  intro other hother
                  apply ih
                  rw [hrest, List.dropLast_cons_of_ne_nil (by simp), List.mem_cons]
                  exact hother
                rcases h with rfl | hmem
                · rw [List.getLast?_cons_of_ne_nil hfirst]
                  exact hothers first (Or.inl rfl)
                · exact hothers line (Or.inr hmem)

/-- Pieces of the form that the cutting gives are cut where they were put together. -/
theorem splitInclusive_flatten_pieces {stop : UInt8} {lines : List Bytes}
    (hne : ∀ line ∈ lines, line ≠ []) (hfront : ∀ line ∈ lines, stop ∉ line.dropLast)
    (hends : ∀ line ∈ lines.dropLast, line.getLast? = some stop) :
    splitInclusive stop lines.flatten = lines := by
  induction lines with
  | nil => rfl
  | cons line rest ih =>
      have hline := hfront line (by simp)
      by_cases hlast : line.getLast? = some stop
      · have htail := ih (fun other hother => hne other (List.mem_cons_of_mem _ hother))
          (fun other hother => hfront other (List.mem_cons_of_mem _ hother)) (by
            intro other hother
            apply hends
            cases rest with
            | nil => simp at hother
            | cons second rest => simpa using Or.inr hother)
        rw [← List.dropLast_append_getLast? stop hlast, List.flatten_cons, List.append_assoc,
          List.singleton_append, splitInclusive_line hline, htail]
      · -- only the last piece lacks its terminator
        have hrest : rest = [] := by
          by_contra hsome
          exact hlast (hends line (by simp [List.dropLast_cons_of_ne_nil hsome]))
        have hfree : stop ∉ line := by
          intro hmem
          rw [← List.dropLast_append_getLast (hne line (by simp)), List.mem_append,
            List.mem_singleton] at hmem
          rcases hmem with hmem | hmem
          · exact hline hmem
          · exact hlast (by rw [List.getLast?_eq_some_getLast (hne line (by simp)), hmem])
        rw [hrest, List.flatten_singleton,
          splitInclusive_of_notMem hfree (hne line (by simp))]

/-- The lines of a byte string without their terminators.  What lies behind the last
terminator is a line when it is not empty. -/
def linesBy (stop : UInt8) (bytes : Bytes) : List Bytes :=
  (splitInclusive stop bytes).map fun piece =>
    if piece.getLast? = some stop then piece.dropLast else piece

@[simp] theorem linesBy_nil (stop : UInt8) : linesBy stop [] = [] := rfl

/-- A terminated line comes first. -/
theorem linesBy_cons {stop : UInt8} {line : Bytes} (h : stop ∉ line) (rest : Bytes) :
    linesBy stop (line ++ stop :: rest) = line :: linesBy stop rest := by
  simp [linesBy, splitInclusive_line h]

/-- A byte string without a terminator is one line. -/
theorem linesBy_of_notMem {stop : UInt8} {line : Bytes} (h : stop ∉ line) (hne : line ≠ []) :
    linesBy stop line = [line] := by
  have hpieces := splitInclusive_of_notMem h hne
  have hlast : line.getLast? ≠ some stop := fun hlast => h (List.mem_of_getLast? hlast)
  simp [linesBy, hpieces, hlast]

/-- What has no terminator lies within one line. -/
theorem exists_line_of_notMem {stop : UInt8} {front : Bytes} (h : stop ∉ front)
    (hne : front ≠ []) (rest : Bytes) :
    ∃ line ∈ linesBy stop (front ++ rest), front.length ≤ line.length := by
  by_cases hrest : stop ∈ rest
  · -- the line ends at the first terminator behind the front
    obtain ⟨more, after, rfl, hmore⟩ := List.eq_append_cons_of_mem hrest
    have hline : stop ∉ front ++ more := by simp [h, hmore]
    refine ⟨front ++ more, ?_, by simp⟩
    rw [← List.append_assoc, linesBy_cons hline]
    exact List.mem_cons_self
  · have hline : stop ∉ front ++ rest := by simp [h, hrest]
    exact ⟨front ++ rest, by simp [linesBy_of_notMem hline, hne], by simp⟩

/-! ## Separators -/

/-- Cut a list at the first occurrence of `separator`, which is dropped. -/
def splitOnce {α : Type} [DecidableEq α] (separator : List α) :
    List α → Option (List α × List α)
  | [] => if separator = [] then some ([], []) else none
  | x :: xs =>
      if separator <+: x :: xs then
        some ([], (x :: xs).drop separator.length)
      else
        (splitOnce separator xs).map fun cut => (x :: cut.1, cut.2)

theorem append_of_splitOnce {α : Type} [DecidableEq α] {separator text left right : List α}
    (h : splitOnce separator text = some (left, right)) :
    text = left ++ separator ++ right := by
  induction text generalizing left with
  | nil =>
      simp only [splitOnce] at h
      split at h
      · simp_all
      · contradiction
  | cons x xs ih =>
      simp only [splitOnce] at h
      split at h
      · rename_i hprefix
        obtain ⟨rfl, rfl⟩ := Prod.mk.inj (Option.some.inj h)
        obtain ⟨suffix, hsuffix⟩ := hprefix
        simp [← hsuffix]
      · obtain ⟨⟨l, r⟩, hcut, hpair⟩ := Option.map_eq_some_iff.mp h
        obtain ⟨rfl, rfl⟩ := Prod.mk.inj hpair
        simp [ih hcut]

/-- The cut is at the first separator when the part before it holds no
occurrence of the separator's first element. -/
theorem splitOnce_append {α : Type} [DecidableEq α] {first : α}
    (separator : List α) {left : List α} (h : first ∉ left) (right : List α) :
    splitOnce (first :: separator) (left ++ first :: separator ++ right) =
      some (left, right) := by
  induction left with
  | nil => simp [splitOnce]
  | cons x left ih =>
      have hx : first ≠ x := fun hx => h (by simp [hx])
      have hleft : first ∉ left := fun hmem => h (List.mem_cons_of_mem _ hmem)
      have hrest := ih hleft
      simp only [List.append_assoc, List.cons_append] at hrest
      simp [splitOnce, hx, hrest]

/-! ## Hexadecimal -/

/-- The lowercase hexadecimal digit of a value below sixteen. -/
def hexDigit (value : Nat) : Char :=
  if value < 10 then Char.ofNat (48 + value) else Char.ofNat (87 + value)

/-- The two digits of a byte. -/
def hexDigits (b : UInt8) : List Char :=
  [hexDigit (b.toNat / 16), hexDigit (b.toNat % 16)]

/-- Two lowercase hexadecimal digits for every byte. -/
def hexText (bytes : Bytes) : String :=
  String.ofList (bytes.flatMap hexDigits)

/-- The bytes of `0`–`9` and `a`–`f`. -/
def isLowerHex (b : UInt8) : Bool :=
  (48 ≤ b && b ≤ 57) || (97 ≤ b && b ≤ 102)

/-- A hexadecimal digit is one byte of UTF-8, and a hexadecimal one. -/
theorem utf8EncodeChar_hexDigit {value : Nat} (h : value < 16) :
    ∃ b, String.utf8EncodeChar (hexDigit value) = [b] ∧ isLowerHex b = true := by
  interval_cases value <;> exact ⟨_, rfl, by decide⟩

private theorem hexDigit_ne_space {value : Nat} (h : value < 16) : hexDigit value ≠ ' ' := by
  interval_cases value <;> decide

private theorem utf8_hexDigits (b : UInt8) :
    ∃ high low, (hexDigits b).flatMap String.utf8EncodeChar = [high, low] ∧
      isLowerHex high = true ∧ isLowerHex low = true := by
  have hlt : b.toNat < 256 := b.toNat_lt
  have hhighLt : b.toNat / 16 < 16 := by omega
  have hlowLt : b.toNat % 16 < 16 := by omega
  obtain ⟨high, hhigh, hhighHex⟩ := utf8EncodeChar_hexDigit hhighLt
  obtain ⟨low, hlow, hlowHex⟩ := utf8EncodeChar_hexDigit hlowLt
  exact ⟨high, low, by simp [hexDigits, hhigh, hlow], hhighHex, hlowHex⟩

@[simp] theorem length_utf8_hexText (bytes : Bytes) :
    (utf8 (hexText bytes)).length = 2 * bytes.length := by
  rw [hexText, utf8_ofList]
  induction bytes with
  | nil => rfl
  | cons b bytes ih =>
      obtain ⟨high, low, hpair, -, -⟩ := utf8_hexDigits b
      rw [List.flatMap_cons, List.flatMap_append, hpair, List.length_append, ih]
      simp only [List.length_cons, List.length_nil]
      omega

theorem isLowerHex_of_mem_hexText {bytes : Bytes} {b : UInt8}
    (h : b ∈ utf8 (hexText bytes)) : isLowerHex b = true := by
  rw [hexText, utf8_ofList] at h
  induction bytes with
  | nil => simp at h
  | cons first bytes ih =>
      obtain ⟨high, low, hpair, hhigh, hlow⟩ := utf8_hexDigits first
      rw [List.flatMap_cons, List.flatMap_append, hpair] at h
      rcases List.mem_append.mp h with hmem | hmem
      · simp only [List.mem_cons, List.not_mem_nil, or_false] at hmem
        rcases hmem with rfl | rfl
        · exact hhigh
        · exact hlow
      · exact ih hmem

private theorem hexDigit_injective {a b : Nat} (ha : a < 16) (hb : b < 16)
    (h : hexDigit a = hexDigit b) : a = b := by
  interval_cases a <;> interval_cases b <;> first | rfl | (exfalso; revert h; decide)

private theorem hexDigits_injective {a b : UInt8} (h : hexDigits a = hexDigits b) : a = b := by
  have ha : a.toNat < 256 := a.toNat_lt
  have hb : b.toNat < 256 := b.toNat_lt
  simp only [hexDigits, List.cons.injEq, and_true] at h
  have hhigh := hexDigit_injective (by omega) (by omega) h.1
  have hlow := hexDigit_injective (by omega) (by omega) h.2
  exact UInt8.toNat_inj.mp (by omega)

/-- Byte strings with the same digits are equal. -/
theorem hexText_injective {a b : Bytes} (h : hexText a = hexText b) : a = b := by
  have hdigits : a.flatMap hexDigits = b.flatMap hexDigits := by
    simpa [hexText] using congrArg String.toList h
  clear h
  induction a generalizing b with
  | nil =>
      cases b with
      | nil => rfl
      | cons y b => simp [hexDigits] at hdigits
  | cons x a ih =>
      cases b with
      | nil => simp [hexDigits] at hdigits
      | cons y b =>
          rw [List.flatMap_cons, List.flatMap_cons] at hdigits
          obtain ⟨hxy, hrest⟩ := List.append_inj hdigits (by simp [hexDigits])
          rw [hexDigits_injective hxy, ih hrest]

/-- No digit is a space. -/
theorem space_notMem_hexText (bytes : Bytes) : ' ' ∉ (hexText bytes).toList := by
  intro h
  simp only [hexText, String.toList_ofList, List.mem_flatMap] at h
  obtain ⟨b, -, hb⟩ := h
  have hlt : b.toNat < 256 := b.toNat_lt
  simp only [hexDigits, List.mem_cons, List.not_mem_nil, or_false] at hb
  rcases hb with hb | hb
  · exact hexDigit_ne_space (by omega) hb.symm
  · exact hexDigit_ne_space (by omega) hb.symm

end Library
end Benchplane
