import Benchplane.Library.Bytes

/-!
# Text operations

The string operations of the standard library that the program relies on,
on Unicode scalar values: trimming, prefixes, cuts and lines.
-/

namespace Benchplane
namespace Library

/-- The characters with the Unicode property `White_Space`. -/
def isWhitespace (c : Char) : Bool :=
  (9 ≤ c.toNat && c.toNat ≤ 13) || c.toNat == 0x20 || c.toNat == 0x85 ||
    c.toNat == 0xA0 || c.toNat == 0x1680 || (0x2000 ≤ c.toNat && c.toNat ≤ 0x200A) ||
    c.toNat == 0x2028 || c.toNat == 0x2029 || c.toNat == 0x202F ||
    c.toNat == 0x205F || c.toNat == 0x3000

/-- The characters of the Unicode category `Cc`. -/
def isControl (c : Char) : Bool :=
  c.toNat ≤ 0x1F || (0x7F ≤ c.toNat && c.toNat ≤ 0x9F)

/-- Remove white space at both ends. -/
def trimChars (text : List Char) : List Char :=
  (text.dropWhile isWhitespace).rdropWhile isWhitespace

/-- `str::trim`. -/
def trim (text : String) : String :=
  String.ofList (trimChars text.toList)

/-- `text.trim().is_empty()`. -/
def isBlank (text : String) : Bool :=
  text.toList.all isWhitespace

/-- `str::strip_prefix`. -/
def stripPrefix (head text : String) : Option String :=
  if head.toList <+: text.toList then
    some (String.ofList (text.toList.drop head.toList.length))
  else
    none

/-- Whether a byte continues a UTF-8 sequence. -/
def isContinuation (b : UInt8) : Bool := 0x80 ≤ b && b ≤ 0xBF

/-- The second bytes that the first byte of a longer sequence allows. -/
def allowsSecond (first second : UInt8) : Bool :=
  if first = 0xE0 then 0xA0 ≤ second && second ≤ 0xBF
  else if first = 0xED then 0x80 ≤ second && second ≤ 0x9F
  else if first = 0xF0 then 0x90 ≤ second && second ≤ 0xBF
  else if first = 0xF4 then 0x80 ≤ second && second ≤ 0x8F
  else isContinuation second

/-- `String::from_utf8_lossy`: a replacement character for every longest prefix of
a sequence that is cut short, and for every byte that starts none. -/
def utf8Lossy : Bytes → List Char
  | [] => []
  | a :: rest =>
      if a < 0x80 then Char.ofNat a.toNat :: utf8Lossy rest
      else if a < 0xC2 || 0xF4 < a then '\uFFFD' :: utf8Lossy rest
      else
        match rest with
        | [] => ['\uFFFD']
        | b :: rest =>
            if !allowsSecond a b then '\uFFFD' :: utf8Lossy (b :: rest)
            else if a < 0xE0 then
              Char.ofNat ((a.toNat - 0xC0) * 64 + (b.toNat - 0x80)) :: utf8Lossy rest
            else
              match rest with
              | [] => ['\uFFFD']
              | c :: rest =>
                  if !isContinuation c then '\uFFFD' :: utf8Lossy (c :: rest)
                  else if a < 0xF0 then
                    Char.ofNat ((a.toNat - 0xE0) * 4096 + (b.toNat - 0x80) * 64 +
                      (c.toNat - 0x80)) :: utf8Lossy rest
                  else
                    match rest with
                    | [] => ['\uFFFD']
                    | d :: rest =>
                        if !isContinuation d then '\uFFFD' :: utf8Lossy (d :: rest)
                        else
                          Char.ofNat ((a.toNat - 0xF0) * 262144 + (b.toNat - 0x80) * 4096 +
                            (c.toNat - 0x80) * 64 + (d.toNat - 0x80)) :: utf8Lossy rest

example : utf8Lossy [0x61, 0xE2, 0x82, 0x62, 0xC3, 0xA9, 0xFF] =
    ['a', '\uFFFD', 'b', 'é', '\uFFFD'] := by decide

/-- `str::trim_end_matches` with a set of characters. -/
def trimEndMatches (chars : List Char) (text : String) : String :=
  String.ofList (text.toList.rdropWhile (· ∈ chars))

/-- Trimming keeps what ends with another character. -/
theorem trimEndMatches_append {chars front tail : List Char}
    (hfront : ∀ h : front ≠ [], front.getLast h ∉ chars) (htail : ∀ c ∈ tail, c ∈ chars) :
    trimEndMatches chars (String.ofList (front ++ tail)) = String.ofList front := by
  have hdrop : (front ++ tail).rdropWhile (· ∈ chars) = front := by
    induction tail using List.reverseRecOn with
    | nil =>
        rw [List.append_nil, List.rdropWhile_eq_self_iff]
        intro hnil
        simpa using hfront hnil
    | append_singleton tail c ih =>
        have hlast : c ∈ chars := htail c (by simp)
        rw [← List.append_assoc, List.rdropWhile_concat_pos _ _ _ (by simpa using hlast)]
        exact ih fun other hother => htail other (by simp [hother])
  rw [trimEndMatches, String.toList_ofList, hdrop]

/-- What has been trimmed stands behind what was kept. -/
theorem exists_append_trimEndMatches (chars : List Char) (text : String) :
    ∃ tail : List Char, (∀ c ∈ tail, c ∈ chars) ∧
      text.toList = (trimEndMatches chars text).toList ++ tail ∧
      ∀ h : (trimEndMatches chars text).toList ≠ [],
        (trimEndMatches chars text).toList.getLast h ∉ chars := by
  obtain ⟨tail, htail⟩ := List.rdropWhile_prefix (· ∈ chars) text.toList
  have hkept : (trimEndMatches chars text).toList = text.toList.rdropWhile (· ∈ chars) := by
    rw [trimEndMatches, String.toList_ofList]
  refine ⟨tail, ?_, by rw [hkept, htail], ?_⟩
  · -- the trimmed characters are those that the search from the end went over
    have hwhole : text.toList.reverse = text.toList.reverse.takeWhile (· ∈ chars) ++
        text.toList.reverse.dropWhile (· ∈ chars) := List.takeWhile_append_dropWhile.symm
    have hreverse := congrArg List.reverse hwhole
    rw [List.reverse_reverse, List.reverse_append] at hreverse
    have htailEq : tail = (text.toList.reverse.takeWhile (· ∈ chars)).reverse :=
      List.append_cancel_left (htail.trans hreverse)
    intro c hc
    rw [htailEq, List.mem_reverse] at hc
    simpa using List.mem_takeWhile_imp hc
  · intro hne
    have hlast := List.rdropWhile_last_not (· ∈ chars) text.toList (by rw [← hkept]; exact hne)
    simp only [hkept]
    simpa using hlast

/-- `str::split_once` at a text. -/
def splitOnceText (separator text : String) : Option (String × String) :=
  (splitOnce separator.toList text.toList).map fun cut =>
    (String.ofList cut.1, String.ofList cut.2)

/-- `str::split_once` at a character. -/
def splitOnceAt (separator : Char) (text : String) : Option (String × String) :=
  (splitOnce [separator] text.toList).map fun cut =>
    (String.ofList cut.1, String.ofList cut.2)

/-- `str::split` at a character; never empty. -/
def splitAt (separator : Char) (text : String) : List String :=
  (text.toList.splitOn separator).map String.ofList

/-- `text.chars().take(count).collect()`. -/
def takeChars (count : Nat) (text : String) : String :=
  String.ofList (text.toList.take count)

/-- `str::lines`: the text between newlines, without a carriage return before a
newline and without a last empty line. -/
def lines (text : String) : List String :=
  let pieces := text.toList.splitOn '\n'
  let terminated := pieces.dropLast.map fun piece =>
    if piece.getLast? = some '\r' then piece.dropLast else piece
  let last := pieces.getLastD []
  (terminated ++ if last = [] then [] else [last]).map String.ofList

/-- The pieces of a cut do not contain the character it is made at. -/
theorem notMem_of_mem_splitOn {separator : Char} {text piece : List Char}
    (h : piece ∈ text.splitOn separator) : separator ∉ piece := by
  induction text generalizing piece with
  | nil =>
      rw [List.splitOn_nil, List.mem_singleton] at h
      simp [h]
  | cons c rest ih =>
      rw [List.splitOn_cons_eq_if_modifyHead] at h
      split at h
      · rcases List.mem_cons.mp h with rfl | h
        · simp
        · exact ih h
      · rename_i hc
        obtain ⟨first, others, hsplit⟩ :=
          List.exists_cons_of_ne_nil (List.splitOn_ne_nil separator rest)
        rw [hsplit, List.modifyHead_cons] at h
        rcases List.mem_cons.mp h with rfl | h
        · have hfirst : separator ∉ first := ih (by rw [hsplit]; exact List.mem_cons_self)
          have hne : separator ≠ c := fun heq => hc (by simp [heq])
          simp [hne, hfirst]
        · exact ih (by rw [hsplit]; exact List.mem_cons_of_mem _ h)

theorem stripPrefix_append (head rest : String) : stripPrefix head (head ++ rest) = some rest := by
  simp [stripPrefix]

/-- Trimming twice trims no more than trimming once. -/
theorem trim_trim (text : String) : trim (trim text) = trim text := by
  have hfront : (trimChars text.toList).dropWhile isWhitespace = trimChars text.toList := by
    rw [List.dropWhile_eq_self_iff]
    intro hlength
    -- the first character left is the first one that is not white space
    obtain ⟨back, hback⟩ := List.rdropWhile_prefix isWhitespace (text.toList.dropWhile isWhitespace)
    have hfirst : (text.toList.dropWhile isWhitespace).head? =
        some ((trimChars text.toList)[0]) := by
      rw [← hback, List.head?_append]
      show ((trimChars text.toList).head?.or _) = _
      rw [List.head?_eq_getElem?, List.getElem?_eq_getElem hlength]
      rfl
    have hblack := List.head?_dropWhile_not isWhitespace text.toList
    rw [hfirst] at hblack
    simpa using hblack
  have hback : (trimChars text.toList).rdropWhile isWhitespace = trimChars text.toList :=
    List.rdropWhile_idempotent isWhitespace _
  rw [trim, trim, String.toList_ofList, trimChars, hfront, hback]

/-- A text without white space is its own trimming. -/
theorem trim_of_noWhitespace {text : String} (h : ∀ c ∈ text.toList, isWhitespace c = false) :
    trim text = text := by
  have hfront : text.toList.dropWhile isWhitespace = text.toList := by
    rw [List.dropWhile_eq_self_iff]
    intro hlength
    have hhead := h _ (List.getElem_mem hlength)
    simpa using hhead
  have hback : text.toList.rdropWhile isWhitespace = text.toList := by
    rw [List.rdropWhile_eq_self_iff]
    intro hne
    have hlast := h _ (List.getLast_mem hne)
    simpa using hlast
  rw [trim, trimChars, hfront, hback, String.ofList_toList]

private theorem not_isWhitespace_hexDigit {value : Nat} (h : value < 16) :
    isWhitespace (hexDigit value) = false := by
  interval_cases value <;> decide

theorem not_isWhitespace_of_mem_hexText {bytes : Bytes} {c : Char}
    (h : c ∈ (hexText bytes).toList) : isWhitespace c = false := by
  simp only [hexText, String.toList_ofList, List.mem_flatMap] at h
  obtain ⟨b, -, hb⟩ := h
  have hlt : b.toNat < 256 := b.toNat_lt
  simp only [hexDigits, List.mem_cons, List.not_mem_nil, or_false] at hb
  rcases hb with rfl | rfl
  · exact not_isWhitespace_hexDigit (by omega)
  · exact not_isWhitespace_hexDigit (by omega)

theorem length_takeChars_le (count : Nat) (text : String) :
    (takeChars count text).toList.length ≤ count := by
  simp [takeChars]

/-- The pieces of a split text and the separators between them. -/
theorem length_splitOn (separator : Char) (chars : List Char) :
    chars.length + 1 = ((chars.splitOn separator).map fun piece => piece.length + 1).sum := by
  have hjoined : ∀ pieces : List (List Char), pieces ≠ [] →
      ([separator].intercalate pieces).length + 1 =
        (pieces.map fun piece => piece.length + 1).sum := by
    intro pieces
    induction pieces with
    | nil => exact fun hne => absurd rfl hne
    | cons piece rest ih =>
        intro _
        cases rest with
        | nil => simp
        | cons other rest =>
            have hrest := ih (List.cons_ne_nil _ _)
            rw [List.intercalate_cons_cons, List.map_cons, List.sum_cons, ← hrest]
            simp only [List.length_append, List.length_cons, List.length_nil]
            omega
  have hsum := hjoined (chars.splitOn separator) (List.splitOn_ne_nil separator chars)
  rwa [List.intercalate_splitOn] at hsum

/-- Joined texts are no longer than the texts with a separator behind each. -/
theorem utf8ByteSize_intercalate_le (separator : String) (texts : List String) :
    (separator.intercalate texts).utf8ByteSize ≤
      (texts.map fun text => text.utf8ByteSize + separator.utf8ByteSize).sum := by
  induction texts with
  | nil => simp
  | cons text rest ih =>
      cases rest with
      | nil => simp
      | cons other rest =>
          rw [String.intercalate_cons_cons, String.utf8ByteSize_append,
            String.utf8ByteSize_append, List.map_cons, List.sum_cons]
          omega

end Library
end Benchplane
