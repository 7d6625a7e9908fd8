import Benchplane.Library.Decimal
import Benchplane.Provenance
import Mathlib.Data.Prod.Lex

/-!
# NVIDIA driver versions

The gate on the driver is written twice.  The parent splits the version at its
dots and parses the components, the helper goes over the bytes with an overflow
test of its own.  The helper's gate admits exactly the supported versions; the
parent's also admits a component with a plus sign before it.
-/

namespace Benchplane

open Library

/-! ## Supported versions -/

/-- A text that writes a version: two or three numerals of 32 bits with a dot
between them, where a missing patch is zero. -/
inductive WritesVersion : List Char → Nat → Nat → Nat → Prop where
  | two {a b : List Char} {major minor : Nat} (hmajor : IsNumeral (2 ^ 32) a major)
      (hminor : IsNumeral (2 ^ 32) b minor) : WritesVersion (a ++ '.' :: b) major minor 0
  | three {a b c : List Char} {major minor patch : Nat} (hmajor : IsNumeral (2 ^ 32) a major)
      (hminor : IsNumeral (2 ^ 32) b minor) (hpatch : IsNumeral (2 ^ 32) c patch) :
      WritesVersion (a ++ '.' :: (b ++ '.' :: c)) major minor patch

/-- A version that is at least 575.57.8, component by component. -/
def SupportedVersion (value : String) : Prop :=
  ∃ major minor patch, WritesVersion value.toList major minor patch ∧
    toLex (575, toLex (57, 8)) ≤ toLex (major, toLex (minor, patch))

theorem atLeastMinimumDriver_iff {major minor patch : Nat} :
    atLeastMinimumDriver major minor patch = true ↔
      toLex (575, toLex (57, 8)) ≤ toLex (major, toLex (minor, patch)) := by
  simp only [atLeastMinimumDriver, Bool.or_eq_true, Bool.and_eq_true, decide_eq_true_eq,
    Prod.Lex.toLex_le_toLex]
  omega

/-! ## The helper's gate -/

namespace LlamaCppHelper

/-- The loop of `parse_driver_version_component`.  The position is given by the
bytes that are left. -/
def scanComponent (component : UInt32) : Bytes → Option (UInt32 × Bytes)
  | [] => some (component, [])
  | b :: rest =>
      if isDigitByte b then
        let digit := (b - 48).toUInt32
        if component > (4294967295 - digit) / 10 then none
        else scanComponent (component * 10 + digit) rest
      else some (component, b :: rest)

/-- `parse_driver_version_component`. -/
def parseDriverVersionComponent (value : Bytes) : Option (UInt32 × Bytes) :=
  match value with
  | [] => none
  | b :: _ => if isDigitByte b then scanComponent 0 value else none

/-- The dot before a component. -/
def skipDot : Bytes → Option Bytes
  | [] => none
  | b :: rest => if b = 46 then some rest else none

/-- The comparison at the end of `nvidia_driver_version_supported`. -/
def meetsMinimum (major minor patch : UInt32) : Bool :=
  575 < major || (major = 575 && 57 < minor) || (major = 575 && minor = 57 && 8 ≤ patch)

/-- `nvidia_driver_version_supported` of the helper. -/
def nvidiaDriverVersionSupported (value : Bytes) : Bool :=
  match parseDriverVersionComponent value with
  | none => false
  | some (major, rest) =>
      match (skipDot rest).bind parseDriverVersionComponent with
      | none => false
      | some (minor, []) => meetsMinimum major minor 0
      | some (minor, rest) =>
          match (skipDot rest).bind parseDriverVersionComponent with
          | none => false
          | some (patch, rest) => rest = [] && meetsMinimum major minor patch

/-- One digit fits behind a component exactly when the number stays below 2^32. -/
theorem toNat_nextComponent {component : UInt32} {b : UInt8} (h : isDigitByte b = true) :
    (¬ component > (4294967295 - (b - 48).toUInt32) / 10 ↔
        component.toNat * 10 + (b.toNat - 48) < 2 ^ 32) ∧
      (component.toNat * 10 + (b.toNat - 48) < 2 ^ 32 →
        (component * 10 + (b - 48).toUInt32).toNat = component.toNat * 10 + (b.toNat - 48)) := by
  obtain ⟨hlow, hhigh⟩ := isDigitByte_iff.mp h
  have hdigit : (b - 48).toUInt32.toNat = b.toNat - 48 := by
    rw [UInt8.toNat_toUInt32, UInt8.toNat_sub_of_le _ _ (by
      rw [UInt8.le_iff_toNat_le]
      exact hlow)]
    rfl
  have hroom : (4294967295 - (b - 48).toUInt32 : UInt32).toNat = 4294967295 - (b.toNat - 48) := by
    rw [UInt32.toNat_sub_of_le _ _ (by
      rw [UInt32.le_iff_toNat_le, hdigit]
      show b.toNat - 48 ≤ 4294967295
      omega), hdigit]
    rfl
  have hten : (10 : UInt32).toNat = 10 := rfl
  constructor
  · rw [gt_iff_lt, UInt32.lt_iff_toNat_lt, UInt32.toNat_div, hroom, hten]
    omega
  · intro hfits
    rw [UInt32.toNat_add, UInt32.toNat_mul, hdigit, hten]
    omega

/-- The loop reads the digits up to the first other byte, unless they write a
number of more than 32 bits. -/
theorem scanComponent_eq (component : UInt32) (value : Bytes) :
    scanComponent component value =
      if decimalBytesFrom component.toNat (value.takeWhile isDigitByte) < 2 ^ 32 then
        some (UInt32.ofNat (decimalBytesFrom component.toNat (value.takeWhile isDigitByte)),
          value.dropWhile isDigitByte)
      else none := by
  -- on the bytes: a digit goes into the number, anything else ends it
  induction value generalizing component with
  | nil =>
      have hlt : decimalBytesFrom component.toNat [] < 2 ^ 32 := component.toNat_lt
      rw [List.takeWhile_nil, if_pos hlt]
      show some (component, []) = some (UInt32.ofNat component.toNat, [])
      rw [UInt32.ofNat_toNat]
  | cons b rest ih =>
      cases hb : isDigitByte b with
      | false =>
          have hlt : decimalBytesFrom component.toNat [] < 2 ^ 32 := component.toNat_lt
          simp only [scanComponent, hb, List.takeWhile_cons, List.dropWhile_cons,
            Bool.false_eq_true, if_false]
          rw [if_pos hlt]
          show some (component, b :: rest) = some (UInt32.ofNat component.toNat, b :: rest)
          rw [UInt32.ofNat_toNat]
      | true =>
          obtain ⟨hguard, hnext⟩ := @toNat_nextComponent component b hb
          have htake : decimalBytesFrom component.toNat ((b :: rest).takeWhile isDigitByte) =
              decimalBytesFrom (component.toNat * 10 + (b.toNat - 48))
                (rest.takeWhile isDigitByte) := by
            rw [List.takeWhile_cons, if_pos hb]
            rfl
          rw [htake, List.dropWhile_cons, if_pos hb]
          simp only [scanComponent, hb, if_true]
          by_cases hfits : component.toNat * 10 + (b.toNat - 48) < 2 ^ 32
          · rw [if_neg (hguard.mpr hfits), ih, hnext hfits]
          · -- the digits behind it only make the number larger
            have hle := le_decimalBytesFrom (component.toNat * 10 + (b.toNat - 48))
              (rest.takeWhile isDigitByte)
            rw [if_pos (not_not.mp fun hno => hfits (hguard.mp hno)), if_neg (by omega)]

/-- A component is a numeral of 32 bits, and the rest does not go on with a digit. -/
theorem parseDriverVersionComponent_eq_some {value rest : Bytes} {component : UInt32} :
    parseDriverVersionComponent value = some (component, rest) ↔
      ∃ digits, IsNumeral (2 ^ 32) digits component.toNat ∧
        value = utf8 (String.ofList digits) ++ rest ∧
        ∀ b ∈ rest.head?, isDigitByte b = false := by
  constructor
  · intro h
    unfold parseDriverVersionComponent at h
    cases value with
    | nil => contradiction
    | cons b tail =>
        simp only at h
        split at h
        · rename_i hb
          rw [scanComponent_eq] at h
          split at h
          · rename_i hlt
            obtain ⟨rfl, rfl⟩ := Prod.mk.inj (Option.some.inj h)
            obtain ⟨digits, hdigits, hall⟩ := @exists_digits ((b :: tail).takeWhile isDigitByte)
              fun d hd => List.mem_takeWhile_imp hd
            have hvalue := (utf8_ofDigits hall 0).2
            rw [hdigits] at hvalue
            have hzero : (0 : UInt32).toNat = 0 := rfl
            rw [hzero] at hlt ⊢
            refine ⟨digits, ⟨?_, hall, ?_, ?_⟩, ?_, ?_⟩
            · intro hnil
              subst hnil
              rw [List.takeWhile_cons, if_pos hb] at hdigits
              contradiction
            · rw [UInt32.toNat_ofNat_of_lt' hlt, hvalue]
            · rw [UInt32.toNat_ofNat_of_lt' hlt]
              exact hlt
            · rw [hdigits, List.takeWhile_append_dropWhile]
            · intro d hd
              have hstop := List.head?_dropWhile_not isDigitByte (b :: tail)
              rw [Option.mem_def.mp hd] at hstop
              simpa using hstop
          · contradiction
        · contradiction
  · rintro ⟨digits, ⟨hne, hall, hwrites, hbelow⟩, rfl, hrest⟩
    obtain ⟨hbytes, hvalue⟩ := utf8_ofDigits hall 0
    -- the scan stops where the digits do
    obtain ⟨htake, hdrop⟩ := takeWhile_isDigitByte hbytes hrest
    have hscan := scanComponent_eq 0 (utf8 (String.ofList digits) ++ rest)
    have hzero : (0 : UInt32).toNat = 0 := rfl
    rw [htake, hdrop, hzero, hvalue, hwrites, if_pos hbelow, UInt32.ofNat_toNat] at hscan
    unfold parseDriverVersionComponent
    cases hbytesCase : utf8 (String.ofList digits) with
    | nil =>
        rw [utf8_ofList] at hbytesCase
        obtain ⟨c, tail, rfl⟩ := List.exists_cons_of_ne_nil hne
        simp at hbytesCase
    | cons b tail =>
        have hb : isDigitByte b = true := hbytes b (by rw [hbytesCase]; exact List.mem_cons_self)
        rw [hbytesCase] at hscan
        simpa [hb] using hscan

theorem skipDot_eq_some {value rest : Bytes} : skipDot value = some rest ↔ value = 46 :: rest := by
  cases value with
  | nil => simp [skipDot]
  | cons b tail =>
      by_cases hb : b = 46
      · simp [skipDot, hb]
      · simp [skipDot, hb]

theorem meetsMinimum_iff {major minor patch : UInt32} :
    meetsMinimum major minor patch = true ↔
      toLex (575, toLex (57, 8)) ≤ toLex (major.toNat, toLex (minor.toNat, patch.toNat)) := by
  rw [← atLeastMinimumDriver_iff]
  simp only [meetsMinimum, atLeastMinimumDriver, Bool.or_eq_true, Bool.and_eq_true,
    decide_eq_true_eq, UInt32.lt_iff_toNat_lt, UInt32.le_iff_toNat_le, ← UInt32.toNat_inj,
    UInt32.reduceToNat]
  omega

/-- A dot and another component behind a component. -/
theorem nextComponent_eq_some {value rest : Bytes} {component : UInt32} :
    (skipDot value).bind parseDriverVersionComponent = some (component, rest) ↔
      ∃ digits, IsNumeral (2 ^ 32) digits component.toNat ∧
        value = 46 :: (utf8 (String.ofList digits) ++ rest) ∧
        ∀ b ∈ rest.head?, isDigitByte b = false := by
  rw [Option.bind_eq_some_iff]
  constructor
  · rintro ⟨tail, htail, hcomponent⟩
    obtain ⟨digits, hnumeral, rfl, hrest⟩ := parseDriverVersionComponent_eq_some.mp hcomponent
    exact ⟨digits, hnumeral, skipDot_eq_some.mp htail, hrest⟩
  · rintro ⟨digits, hnumeral, rfl, hrest⟩
    exact ⟨_, skipDot_eq_some.mpr rfl,
      parseDriverVersionComponent_eq_some.mpr ⟨digits, hnumeral, rfl, hrest⟩⟩

theorem utf8_components (a : List Char) (rest : List Char) :
    utf8 (String.ofList (a ++ '.' :: rest)) =
      utf8 (String.ofList a) ++ 46 :: utf8 (String.ofList rest) := by
  rw [utf8_ofList, List.flatMap_append, List.flatMap_cons, ← utf8_ofList, ← utf8_ofList]
  rfl

theorem nvidiaDriverVersionSupported_of_writes {chars : List Char} {major minor patch : Nat}
    (hwrites : WritesVersion chars major minor patch)
    (hmeets : toLex (575, toLex (57, 8)) ≤ toLex (major, toLex (minor, patch))) :
    nvidiaDriverVersionSupported (utf8 (String.ofList chars)) = true := by
  have htoNat : ∀ {digits : List Char} {n : Nat}, IsNumeral (2 ^ 32) digits n →
      (UInt32.ofNat n).toNat = n := fun hnumeral => UInt32.toNat_ofNat_of_lt' hnumeral.below
  have hstop : ∀ {rest : Bytes}, ∀ b ∈ (46 :: rest).head?, isDigitByte b = false := by
    intro rest b hb
    obtain rfl : 46 = b := Option.some.inj hb
    rfl
  -- each component is read up to the dot behind it, the last one up to the end
  cases hwrites with
  | @two a b major minor ha hb =>
      have hmajor := parseDriverVersionComponent_eq_some.mpr
        ⟨a, (htoNat ha).symm ▸ ha, rfl, @hstop (utf8 (String.ofList b))⟩
      have hminor := nextComponent_eq_some.mpr
        ⟨b, (htoNat hb).symm ▸ hb, rfl, show ∀ d ∈ ([] : Bytes).head?, _ by simp⟩
      rw [List.append_nil] at hminor
      rw [utf8_components]
      simp only [nvidiaDriverVersionSupported, hmajor, hminor]
      rw [meetsMinimum_iff, htoNat ha, htoNat hb]
      exact hmeets
  | @three a b c major minor patch ha hb hc =>
      have hmajor := parseDriverVersionComponent_eq_some.mpr
        ⟨a, (htoNat ha).symm ▸ ha, rfl,
          @hstop (utf8 (String.ofList b) ++ 46 :: utf8 (String.ofList c))⟩
      have hminor := nextComponent_eq_some.mpr
        ⟨b, (htoNat hb).symm ▸ hb, rfl, @hstop (utf8 (String.ofList c))⟩
      have hpatch := nextComponent_eq_some.mpr
        ⟨c, (htoNat hc).symm ▸ hc, rfl, show ∀ d ∈ ([] : Bytes).head?, _ by simp⟩
      rw [List.append_nil] at hpatch
      rw [utf8_components, utf8_components]
      simp only [nvidiaDriverVersionSupported, hmajor, hminor, hpatch, decide_true, Bool.true_and]
      rw [meetsMinimum_iff, htoNat ha, htoNat hb, htoNat hc]
      exact hmeets

/-- The helper's gate admits the byte strings that write a supported version. -/
theorem nvidiaDriverVersionSupported_iff {value : Bytes} :
    nvidiaDriverVersionSupported value = true ↔
      ∃ text, utf8 text = value ∧ SupportedVersion text := by
  constructor
  · intro h
    unfold nvidiaDriverVersionSupported at h
    cases hmajor : parseDriverVersionComponent value with
    | none => simp [hmajor] at h
    | some first =>
        obtain ⟨major, rest⟩ := first
        obtain ⟨a, ha, rfl, -⟩ := parseDriverVersionComponent_eq_some.mp hmajor
        simp only [hmajor] at h
        cases hminor : (skipDot rest).bind parseDriverVersionComponent with
        | none => simp [hminor] at h
        | some second =>
            obtain ⟨minor, rest'⟩ := second
            obtain ⟨b, hb, rfl, -⟩ := nextComponent_eq_some.mp hminor
            simp only [hminor] at h
            -- two components, or a third one behind another dot
            cases rest' with
            | nil =>
                refine ⟨String.ofList (a ++ '.' :: b), ?_, major.toNat, minor.toNat, 0, ?_, ?_⟩
                · rw [utf8_components, List.append_nil]
                · rw [String.toList_ofList]
                  exact .two ha hb
                · exact meetsMinimum_iff.mp h
            | cons d tail =>
                simp only at h
                cases hpatch : (skipDot (d :: tail)).bind parseDriverVersionComponent with
                | none => simp [hpatch] at h
                | some third =>
                    obtain ⟨patch, rest''⟩ := third
                    obtain ⟨c, hc, htail, -⟩ := nextComponent_eq_some.mp hpatch
                    simp only [hpatch, Bool.and_eq_true, decide_eq_true_eq] at h
                    obtain ⟨rfl, hmeets⟩ := h
                    refine ⟨String.ofList (a ++ '.' :: (b ++ '.' :: c)), ?_, major.toNat,
                      minor.toNat, patch.toNat, ?_, ?_⟩
                    · rw [htail, utf8_components, utf8_components, List.append_nil]
                    · rw [String.toList_ofList]
                      exact .three ha hb hc
                    · exact meetsMinimum_iff.mp hmeets
  · rintro ⟨text, rfl, major, minor, patch, hwrites, hmeets⟩
    have hsupported := nvidiaDriverVersionSupported_of_writes hwrites hmeets
    rwa [String.ofList_toList] at hsupported

end LlamaCppHelper

/-! ## The parent's gate -/

/-- A component without a plus sign before it. -/
def dropSign : List Char → List Char
  | '+' :: rest => rest
  | chars => chars

/-- The components of a version. -/
def versionComponents (value : String) : List (List Char) := value.toList.splitOn '.'

/-- Whether a component has a plus sign before it. -/
def hasSign (value : String) : Bool :=
  (versionComponents value).any fun component => component.head? = some '+'

/-- A version whose components have lost one plus sign each. -/
def withoutSigns (value : String) : String :=
  String.ofList (['.'].intercalate ((versionComponents value).map dropSign))

theorem parseU32_eq_some {text : String} {n : Nat} :
    parseU32 text = some n ↔ IsNumeral (2 ^ 32) (dropSign text.toList) n := by
  show (if dropSign text.toList ≠ [] ∧ (dropSign text.toList).all Char.isDigit = true then
    (if decimalFrom 0 (dropSign text.toList) < 2 ^ 32 then
      some (decimalFrom 0 (dropSign text.toList)) else none) else none) = some n ↔ _
  constructor
  · intro h
    simp only [List.all_eq_true] at h
    split at h
    · rename_i hrun
      split at h
      · rename_i hlt
        obtain rfl := Option.some.inj h
        exact ⟨hrun.1, hrun.2, rfl, hlt⟩
      · contradiction
    · contradiction
  · rintro ⟨hne, hall, rfl, hlt⟩
    rw [if_pos ⟨hne, by simpa using hall⟩]
    exact if_pos hlt

theorem dot_notMem_of_isNumeral {bound n : Nat} {digits : List Char}
    (h : IsNumeral bound digits n) : '.' ∉ digits := fun hmem =>
  absurd (h.isDigit '.' hmem) (by decide)

theorem intercalate_two (a b : List Char) : ['.'].intercalate [a, b] = a ++ '.' :: b := by
  simp [List.intercalate]

theorem intercalate_three (a b c : List Char) :
    ['.'].intercalate [a, b, c] = a ++ '.' :: (b ++ '.' :: c) := by
  simp [List.intercalate]

/-- A version is written by two or three components that are numerals. -/
theorem writesVersion_iff {chars : List Char} {major minor patch : Nat} :
    WritesVersion chars major minor patch ↔
      (∃ a b, chars.splitOn '.' = [a, b] ∧ IsNumeral (2 ^ 32) a major ∧
        IsNumeral (2 ^ 32) b minor ∧ patch = 0) ∨
      ∃ a b c, chars.splitOn '.' = [a, b, c] ∧ IsNumeral (2 ^ 32) a major ∧
        IsNumeral (2 ^ 32) b minor ∧ IsNumeral (2 ^ 32) c patch := by
  constructor
  · intro h
    cases h with
    | @two a b major minor ha hb =>
        refine Or.inl ⟨a, b, ?_, ha, hb, rfl⟩
        rw [← intercalate_two]
        refine List.splitOn_intercalate '.' ?_ (by simp)
        intro component hcomponent
        simp only [List.mem_cons, List.not_mem_nil, or_false] at hcomponent
        rcases hcomponent with rfl | rfl
        · exact dot_notMem_of_isNumeral ha
        · exact dot_notMem_of_isNumeral hb
    | @three a b c major minor patch ha hb hc =>
        refine Or.inr ⟨a, b, c, ?_, ha, hb, hc⟩
        rw [← intercalate_three]
        refine List.splitOn_intercalate '.' ?_ (by simp)
        intro component hcomponent
        simp only [List.mem_cons, List.not_mem_nil, or_false] at hcomponent
        rcases hcomponent with rfl | rfl | rfl
        · exact dot_notMem_of_isNumeral ha
        · exact dot_notMem_of_isNumeral hb
        · exact dot_notMem_of_isNumeral hc
  · have hjoin : ['.'].intercalate (chars.splitOn '.') = chars := List.intercalate_splitOn '.'
    rintro (⟨a, b, hsplit, ha, hb, rfl⟩ | ⟨a, b, c, hsplit, ha, hb, hc⟩)
    · rw [hsplit, intercalate_two] at hjoin
      rw [← hjoin]
      exact .two ha hb
    · rw [hsplit, intercalate_three] at hjoin
      rw [← hjoin]
      exact .three ha hb hc

theorem supportedVersion_iff {value : String} :
    SupportedVersion value ↔
      (∃ a b major minor, versionComponents value = [a, b] ∧ IsNumeral (2 ^ 32) a major ∧
        IsNumeral (2 ^ 32) b minor ∧ atLeastMinimumDriver major minor 0 = true) ∨
      ∃ a b c major minor patch, versionComponents value = [a, b, c] ∧
        IsNumeral (2 ^ 32) a major ∧ IsNumeral (2 ^ 32) b minor ∧ IsNumeral (2 ^ 32) c patch ∧
        atLeastMinimumDriver major minor patch = true := by
  unfold SupportedVersion versionComponents
  constructor
  · rintro ⟨major, minor, patch, hwrites, hmeets⟩
    rw [← atLeastMinimumDriver_iff] at hmeets
    rcases writesVersion_iff.mp hwrites with ⟨a, b, hsplit, ha, hb, rfl⟩ | ⟨a, b, c, hsplit, ha, hb, hc⟩
    · exact Or.inl ⟨a, b, major, minor, hsplit, ha, hb, hmeets⟩
    · exact Or.inr ⟨a, b, c, major, minor, patch, hsplit, ha, hb, hc, hmeets⟩
  · rintro (⟨a, b, major, minor, hsplit, ha, hb, hmeets⟩ |
      ⟨a, b, c, major, minor, patch, hsplit, ha, hb, hc, hmeets⟩)
    · exact ⟨major, minor, 0, writesVersion_iff.mpr (Or.inl ⟨a, b, hsplit, ha, hb, rfl⟩),
        atLeastMinimumDriver_iff.mp hmeets⟩
    · exact ⟨major, minor, patch, writesVersion_iff.mpr (Or.inr ⟨a, b, c, hsplit, ha, hb, hc⟩),
        atLeastMinimumDriver_iff.mp hmeets⟩

theorem dot_notMem_dropSign {component : List Char} (h : '.' ∉ component) :
    '.' ∉ dropSign component := by
  unfold dropSign
  split
  · exact fun hmem => h (List.mem_cons_of_mem _ hmem)
  · exact h

theorem versionComponents_withoutSigns (value : String) :
    versionComponents (withoutSigns value) = (versionComponents value).map dropSign := by
  unfold withoutSigns
  rw [versionComponents, String.toList_ofList]
  refine List.splitOn_intercalate '.' ?_ ?_
  · intro component hcomponent
    obtain ⟨signed, hsigned, rfl⟩ := List.mem_map.mp hcomponent
    exact dot_notMem_dropSign (notMem_of_mem_splitOn hsigned)
  · simp [versionComponents]

/-- The parent's gate looks at the components behind their signs. -/
theorem nvidiaDriverVersionSupported_iff {value : String} :
    nvidiaDriverVersionSupported value = true ↔ SupportedVersion (withoutSigns value) := by
  have hparse : ∀ (component : List Char) (n : Nat),
      parseU32 (String.ofList component) = some n ↔ IsNumeral (2 ^ 32) (dropSign component) n := by
    intro component n
    rw [parseU32_eq_some, String.toList_ofList]
  rw [supportedVersion_iff, versionComponents_withoutSigns]
  have hcomponents : value.toList.splitOn '.' = versionComponents value := rfl
  rw [nvidiaDriverVersionSupported, splitAt, hcomponents]
  generalize versionComponents value = components
  constructor
  · intro h
    split at h
    · rename_i major minor hparsed
      obtain ⟨a, rest, rfl, ha, hrest⟩ := List.map_eq_cons_iff.mp (List.map_map ▸ hparsed)
      obtain ⟨b, rest', rfl, hb, hnil⟩ := List.map_eq_cons_iff.mp hrest
      obtain rfl := List.map_eq_nil_iff.mp hnil
      exact Or.inl ⟨dropSign a, dropSign b, major, minor, rfl, (hparse a major).mp ha,
        (hparse b minor).mp hb, h⟩
    · rename_i major minor patch hparsed
      obtain ⟨a, rest, rfl, ha, hrest⟩ := List.map_eq_cons_iff.mp (List.map_map ▸ hparsed)
      obtain ⟨b, rest', rfl, hb, hrest'⟩ := List.map_eq_cons_iff.mp hrest
      obtain ⟨c, rest'', rfl, hc, hnil⟩ := List.map_eq_cons_iff.mp hrest'
      obtain rfl := List.map_eq_nil_iff.mp hnil
      exact Or.inr ⟨dropSign a, dropSign b, dropSign c, major, minor, patch, rfl,
        (hparse a major).mp ha, (hparse b minor).mp hb, (hparse c patch).mp hc, h⟩
    · contradiction
  · rintro (⟨a, b, major, minor, hsplit, ha, hb, hmeets⟩ |
      ⟨a, b, c, major, minor, patch, hsplit, ha, hb, hc, hmeets⟩)
    · obtain ⟨signedA, rest, rfl, rfl, hrest⟩ := List.map_eq_cons_iff.mp hsplit
      obtain ⟨signedB, rest', rfl, rfl, hnil⟩ := List.map_eq_cons_iff.mp hrest
      obtain rfl := List.map_eq_nil_iff.mp hnil
      simp only [List.map_cons, List.map_nil, (hparse _ _).mpr ha, (hparse _ _).mpr hb]
      exact hmeets
    · obtain ⟨signedA, rest, rfl, rfl, hrest⟩ := List.map_eq_cons_iff.mp hsplit
      obtain ⟨signedB, rest', rfl, rfl, hrest'⟩ := List.map_eq_cons_iff.mp hrest
      obtain ⟨signedC, rest'', rfl, rfl, hnil⟩ := List.map_eq_cons_iff.mp hrest'
      obtain rfl := List.map_eq_nil_iff.mp hnil
      simp only [List.map_cons, List.map_nil, (hparse _ _).mpr ha, (hparse _ _).mpr hb,
        (hparse _ _).mpr hc]
      exact hmeets

/-! ## Agreement -/

theorem dropSign_of_head {component : List Char} (h : component.head? ≠ some '+') :
    dropSign component = component := by
  unfold dropSign
  split
  · exact absurd rfl h
  · rfl

/-- A version without signs stays as it is. -/
theorem withoutSigns_of_unsigned {value : String} (h : hasSign value = false) :
    withoutSigns value = value := by
  have hmap : (versionComponents value).map dropSign = versionComponents value := by
    have hid : ∀ component ∈ versionComponents value, dropSign component = component := by
      intro component hcomponent
      have hhead := List.any_eq_false.mp h component hcomponent
      exact dropSign_of_head (by simpa using hhead)
    simpa using List.map_congr_left hid
  rw [withoutSigns, hmap, versionComponents, List.intercalate_splitOn, String.ofList_toList]

theorem head_of_isNumeral {bound n : Nat} {digits : List Char} (h : IsNumeral bound digits n) :
    digits.head? ≠ some '+' := by
  intro hhead
  have hmem : '+' ∈ digits := List.mem_of_mem_head? hhead
  exact absurd (h.isDigit '+' hmem) (by decide)

/-- A supported version has no sign. -/
theorem hasSign_of_supported {value : String} (h : SupportedVersion value) :
    hasSign value = false := by
  unfold hasSign
  rcases supportedVersion_iff.mp h with ⟨a, b, major, minor, hsplit, ha, hb, -⟩ |
    ⟨a, b, c, major, minor, patch, hsplit, ha, hb, hc, -⟩
  · simp [hsplit, head_of_isNumeral ha, head_of_isNumeral hb]
  · simp [hsplit, head_of_isNumeral ha, head_of_isNumeral hb, head_of_isNumeral hc]

/-- The helper's gate on a text. -/
theorem LlamaCppHelper.nvidiaDriverVersionSupported_utf8 {value : String} :
    LlamaCppHelper.nvidiaDriverVersionSupported (utf8 value) = true ↔ SupportedVersion value := by
  rw [LlamaCppHelper.nvidiaDriverVersionSupported_iff]
  constructor
  · rintro ⟨text, htext, hsupported⟩
    exact utf8_injective htext ▸ hsupported
  · exact fun hsupported => ⟨value, rfl, hsupported⟩

/-- Both gates admit the supported versions and no others, unless taking the signs
off a version with signs leaves a supported one. -/
theorem driverGates_agree_iff (value : String) :
    (nvidiaDriverVersionSupported value =
        LlamaCppHelper.nvidiaDriverVersionSupported (utf8 value) ∧
      (nvidiaDriverVersionSupported value = true ↔ SupportedVersion value)) ↔
    ¬ (hasSign value = true ∧ SupportedVersion (withoutSigns value)) := by
  have hhelper := @LlamaCppHelper.nvidiaDriverVersionSupported_utf8 value
  rw [Bool.eq_iff_iff, hhelper, nvidiaDriverVersionSupported_iff, and_self_iff]
  constructor
  · rintro hiff ⟨hsign, hsupported⟩
    rw [hasSign_of_supported (hiff.mp hsupported)] at hsign
    contradiction
  · intro hno
    cases hsign : hasSign value with
    | false => rw [withoutSigns_of_unsigned hsign]
    | true =>
        constructor
        · exact fun hsupported => absurd ⟨hsign, hsupported⟩ hno
        · intro hsupported
          rw [hasSign_of_supported hsupported] at hsign
          contradiction

/-- The parent takes the sign before a version for part of it. -/
theorem driverGates_disagree :
    ¬ (nvidiaDriverVersionSupported "+575.57.8" =
        LlamaCppHelper.nvidiaDriverVersionSupported (utf8 "+575.57.8") ∧
      (nvidiaDriverVersionSupported "+575.57.8" = true ↔ SupportedVersion "+575.57.8")) := by
  intro h
  have hparent : nvidiaDriverVersionSupported "+575.57.8" = true := by decide
  have hhelper : LlamaCppHelper.nvidiaDriverVersionSupported (utf8 "+575.57.8") = false := by decide
  rw [hparent, hhelper] at h
  exact absurd h.1 (by decide)

end Benchplane
