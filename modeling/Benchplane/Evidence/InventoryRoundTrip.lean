import Benchplane.Evidence.InventoryWriter

/-!
# Reading back a written inventory

The reader bounds what the writer does not: lines, their total, one more entry,
and line ends inside names.  A tree the writer has gone through is accepted by
the reader exactly when it keeps these bounds and does not already hold an entry
under the name of the temporary file.
-/

namespace Benchplane

open Library

/-! ## Lines -/

/-- A name that a line can hold: no newline in it and no carriage return at its
end. -/
def FitsLine (name : String) : Prop :=
  '\n' ∉ name.toList ∧ name.toList.getLast? ≠ some '\r'

/-- The text of a line without its line end. -/
def lineText (digest name : String) : String := digest ++ "  " ++ name

theorem toList_lineText (digest name : String) :
    (lineText digest name).toList = digest.toList ++ ' ' :: [' '] ++ name.toList := by
  simp [lineText]

theorem trimEndMatches_checksumLine {digest name : String} (hne : name ≠ "")
    (h : FitsLine name) :
    trimEndMatches ['\r', '\n'] (checksumLine digest name) = lineText digest name := by
  have hline : (checksumLine digest name).toList = (lineText digest name).toList ++ ['\n'] := by
    simp [checksumLine, lineText]
  have hnil : name.toList ≠ [] := by simpa using hne
  -- behind the newline the trimming meets the last character of the name
  have hkeeps : (lineText digest name).toList.rdropWhile (· ∈ ['\r', '\n']) =
      (lineText digest name).toList := by
    rw [List.rdropWhile_eq_self_iff]
    intro hlist
    have hlast : (lineText digest name).toList.getLast hlist = name.toList.getLast hnil := by
      simp only [toList_lineText]
      exact List.getLast_append_of_ne_nil _ hnil
    have hnewline : name.toList.getLast hnil ≠ '\n' := fun heq =>
      h.1 (heq ▸ List.getLast_mem hnil)
    have hreturn : name.toList.getLast hnil ≠ '\r' := fun heq =>
      h.2 (by rw [List.getLast?_eq_some_getLast hnil, heq])
    rw [hlast]
    simp [hnewline, hreturn]
  unfold trimEndMatches
  rw [hline, List.rdropWhile_concat_pos _ _ _ (by simp), hkeeps, String.ofList_toList]

theorem splitOnceText_lineText (digest : Digest) (name : String) :
    splitOnceText "  " (lineText digest.hex name) = some (digest.hex, name) := by
  have hspace : ' ' ∉ digest.hex.toList := space_notMem_hexText digest.bytes
  unfold splitOnceText
  rw [toList_lineText, show "  ".toList = ' ' :: [' '] from rfl,
    splitOnce_append [' '] hspace name.toList]
  simp

theorem isBlank_lineText (digest : Digest) (name : String) :
    isBlank (lineText digest.hex name) = false := by
  have hhex : digest.hex.toList ≠ [] := by
    intro hnil
    have hlength := digest.length_hex
    rw [String.toList_eq_nil_iff.mp hnil] at hlength
    exact absurd hlength (by decide)
  obtain ⟨c, rest, hcons⟩ := List.exists_cons_of_ne_nil hhex
  have hmem : c ∈ (hexText digest.bytes).toList := by
    rw [show (hexText digest.bytes).toList = c :: rest from hcons]
    exact List.mem_cons_self
  have hblack : isWhitespace c = false := not_isWhitespace_of_mem_hexText hmem
  unfold isBlank
  rw [toList_lineText, hcons]
  simp [hblack]

theorem declaration_inventoryLine {entry : (String × Bytes) × Digest} (hne : entry.1.1 ≠ "")
    (h : FitsLine entry.1.1) :
    declaration (inventoryLine entry) = some (entry.2.hex, entry.1.1) := by
  simp [declaration, inventoryLine, trimEndMatches_checksumLine hne h, isBlank_lineText,
    splitOnceText_lineText]

/-- A newline before the end of a piece would have cut it. -/
private theorem newline_notMem_front {front back : List Char} (hback : back ≠ [])
    (h : 10 ∉ (utf8 (String.ofList (front ++ back))).dropLast) : '\n' ∉ front := by
  intro hmem
  have hnil : utf8 (String.ofList back) ≠ [] := by
    obtain ⟨c, rest, rfl⟩ := List.exists_cons_of_ne_nil hback
    rw [utf8_ofList, List.flatMap_cons]
    exact List.append_ne_nil_of_left_ne_nil (String.utf8EncodeChar_ne_nil) _
  rw [String.ofList_append, utf8_append, List.dropLast_append_of_ne_nil hnil] at h
  exact h (List.mem_append_left _ (newline_mem_utf8.mpr (by simpa using hmem)))

/-- What a line declares fits a line. -/
theorem fitsLine_of_declaration {content line : Bytes} {digest name : String}
    (hline : line ∈ splitInclusive 10 content)
    (h : declaration line = some (digest, name)) (hne : name ≠ "") : FitsLine name := by
  simp only [declaration, Option.bind_eq_some_iff] at h
  obtain ⟨text, htext, h⟩ := h
  split at h
  · contradiction
  · have hcut := not_mem_dropLast_of_mem_splitInclusive hline
    rw [← utf8_of_decodeUtf8 htext] at hcut
    obtain ⟨⟨left, right⟩, hsplit, hpair⟩ := Option.map_eq_some_iff.mp h
    obtain ⟨rfl, rfl⟩ := Prod.mk.inj hpair
    have hright : right ≠ [] := by simpa using hne
    -- the trimmed text ends with the name
    generalize htrimmed : text.toList.rdropWhile (· ∈ ['\r', '\n']) = trimmed at hsplit
    have happend : trimmed = left ++ "  ".toList ++ right := by
      have happend := append_of_splitOnce hsplit
      rwa [trimEndMatches, String.toList_ofList, htrimmed] at happend
    have htrimmedNil : trimmed ≠ [] := by simp [happend]
    have hlast : trimmed.getLast htrimmedNil = right.getLast hright := by
      simp only [happend]
      exact List.getLast_append_of_ne_nil _ hright
    have hend : right.getLast hright ∉ ['\r', '\n'] := by
      have hstop := List.rdropWhile_last_not (· ∈ ['\r', '\n']) text.toList
        (by rw [htrimmed]; exact htrimmedNil)
      simp only [htrimmed, hlast] at hstop
      simpa using hstop
    have hnewline : '\n' ∉ trimmed := by
      obtain ⟨tail, htail⟩ : trimmed <+: text.toList := htrimmed ▸ List.rdropWhile_prefix _ _
      have htextEq : text = String.ofList (trimmed ++ tail) := by rw [htail]; simp
      rw [htextEq] at hcut
      by_cases hnil : tail = []
      · rw [hnil, List.append_nil, ← List.dropLast_append_getLast htrimmedNil] at hcut
        rw [← List.dropLast_append_getLast htrimmedNil]
        have hfront := newline_notMem_front (by simp) hcut
        have hnot : trimmed.getLast htrimmedNil ≠ '\n' := by
          rw [hlast]
          exact fun heq => hend (by simp [heq])
        simp [hfront, Ne.symm hnot]
      · exact newline_notMem_front hnil hcut
    refine ⟨fun hmem => hnewline ?_, fun hreturn => hend ?_⟩
    · rw [happend]
      exact List.mem_append_right _ (by simpa using hmem)
    · rw [String.toList_ofList, List.getLast?_eq_some_getLast hright] at hreturn
      simp [Option.some.inj hreturn]

/-! ## The walk over the written tree -/

/-- The walk visits one entry after the other. -/
theorem gatherDirectory_entry (parent : List FileName) (name : FileName) (node : Node)
    (rest : Directory) (walk : Walk) :
    gatherDirectory parent (.entry name node rest) walk =
      gatherDirectory parent (.entry name node .empty) walk >>= gatherDirectory parent rest := by
  cases node <;>
    simp only [gatherDirectory, bind_assoc] <;>
    refine bind_congr fun visited => ?_ <;>
    obtain ⟨counted, _ | display⟩ := visited <;>
    simp <;> rfl

/-- The entry of `SHA256SUMS` is counted and skipped. -/
theorem gatherDirectory_sums {node : Node} {walk : Walk}
    (h : walk.entriesSeen + 1 ≤ maxChecksumEntries) :
    gatherDirectory [] (.entry checksumFileName node .empty) walk =
      .ok { walk with entriesSeen := walk.entriesSeen + 1 } := by
  have hname : normalizedRelativePath (relativePath [checksumFileName]) =
      .ok "SHA256SUMS" := rfl
  have hvisit : visitEntry [] checksumFileName walk =
      .ok ({ walk with entriesSeen := walk.entriesSeen + 1 }, none) := by
    simp [visitEntry, rejectIf, not_lt.mpr h, hname, bind, Except.bind, pure, Except.pure]
  cases node <;> simp [gatherDirectory, hvisit, bind, Except.bind, pure, Except.pure]

/-- Putting `SHA256SUMS` into the tree costs the walk at most one more entry. -/
theorem gatherDirectory_put_sums {d : Directory} {walk walk' : Walk}
    (h : gatherDirectory [] d walk = .ok walk')
    (hcount : walk.entriesSeen + (d.erase checksumFileName).entryCount + 1 ≤ maxChecksumEntries)
    (hd : d.Distinct) (sums : Bytes) :
    ∃ walk'', gatherDirectory [] (d.put checksumFileName (.file sums)) walk = .ok walk'' ∧
      walk''.payloads = walk'.payloads := by
  -- on the entries: the inventory is put where it was, or behind the last one
  induction d using Directory.entryInduction generalizing walk with
  | empty =>
      obtain rfl : walk = walk' := by simpa [gatherDirectory] using h
      simp only [Directory.erase, Directory.entryCount] at hcount
      exact ⟨_, gatherDirectory_sums (by omega), rfl⟩
  | entry name node rest ih =>
      obtain ⟨hfresh, -, hrest⟩ := Directory.distinct_entry.mp hd
      rw [gatherDirectory_entry, bind_eq_ok_iff] at h
      obtain ⟨walk1, hentry, hafter⟩ := h
      by_cases hname : name = checksumFileName
      · subst hname
        have hbound : walk.entriesSeen + 1 ≤ maxChecksumEntries := by omega
        rw [gatherDirectory_sums hbound] at hentry
        rw [Directory.put, if_pos rfl, gatherDirectory_entry, gatherDirectory_sums hbound]
        exact ⟨walk', by rw [← hafter, ← Except.ok.inj hentry]; rfl, rfl⟩
      · have hskip : ¬ IsSkipped [] name := fun hskip => hname hskip.2
        rw [Directory.erase, if_neg hname, Directory.entryCount_entry] at hcount
        -- the count so far leaves room for the entries that are left
        have hcounts := (gatherDirectory_counts hentry).count
        rw [walked_entry_of_not_isSkipped hskip, walked_empty,
          skippedCount_entry_of_not_isSkipped hskip] at hcounts
        simp only [skippedCount, Directory.names, List.filter_nil, List.length_nil] at hcounts
        rw [Directory.put, if_neg hname, gatherDirectory_entry, hentry]
        exact ih hafter (by omega) hrest

/-! ## What the written lines cover -/

/-- The regular files an inventory lists. -/
def payloadFiles (d : Directory) : List (List FileName × Bytes) :=
  (d.erase checksumFileName).files

/-- The length of a payload's line: the digest, two spaces, the path, a newline. -/
def inventoryLineLength (names : List FileName) : Nat :=
  67 + (relativePath names).length

/-- The trees whose written inventory the reader accepts. -/
structure ReaderLimits (d : Directory) : Prop where
  entryCount : (d.erase checksumFileName).entryCount + 1 ≤ maxChecksumEntries
  temporary : checksumTemporaryName ∉ d.names
  names : ∀ file ∈ payloadFiles d, ∀ name, utf8 name = relativePath file.1 → FitsLine name
  lineBytes : ∀ file ∈ payloadFiles d, inventoryLineLength file.1 ≤ maxChecksumLineBytes
  totalBytes : ((payloadFiles d).map fun file => inventoryLineLength file.1).sum ≤
    maxChecksumFileBytes
  recordBytes : ∀ file ∈ payloadFiles d, ∀ name, utf8 name = relativePath file.1 →
    isAbove (retainedLimit name) file.2.length = false

/-- The entries of a written inventory name the payloads of the tree. -/
structure Covers (d : Directory) (entries : List ((String × Bytes) × Digest)) : Prop where
  nodup : (entries.map fun entry => entry.1.1).Nodup
  keyed : ∀ entry ∈ entries, entry.1.2 = utf8 entry.1.1
  normalized : ∀ entry ∈ entries, normalizedRelativePath (utf8 entry.1.1) = .ok entry.1.1
  paths : (entries.map fun entry => utf8 entry.1.1).Perm
    ((payloadFiles d).map fun file => relativePath file.1)

section

variable {hash : Bytes → Digest} {d : Directory} {entries : List ((String × Bytes) × Digest)}

theorem length_inventoryLine (entry : (String × Bytes) × Digest) :
    (inventoryLine entry).length = 67 + (utf8 entry.1.1).length := by
  simp only [inventoryLine, checksumLine, utf8_append, List.length_append, Digest.length_hex]
  have hspaces : (utf8 "  ").length = 2 := by decide
  have hnewline : (utf8 "\n").length = 1 := by decide
  omega

theorem Covers.exists_file (h : Covers d entries) {entry : (String × Bytes) × Digest}
    (hentry : entry ∈ entries) :
    ∃ file ∈ payloadFiles d, relativePath file.1 = utf8 entry.1.1 := by
  have hmem : utf8 entry.1.1 ∈ entries.map fun entry => utf8 entry.1.1 :=
    List.mem_map.mpr ⟨entry, hentry, rfl⟩
  exact List.mem_map.mp (h.paths.mem_iff.mp hmem)

theorem Covers.exists_entry (h : Covers d entries) {file : List FileName × Bytes}
    (hfile : file ∈ payloadFiles d) :
    ∃ entry ∈ entries, utf8 entry.1.1 = relativePath file.1 := by
  have hmem : relativePath file.1 ∈ (payloadFiles d).map fun file => relativePath file.1 :=
    List.mem_map.mpr ⟨file, hfile, rfl⟩
  exact List.mem_map.mp (h.paths.mem_iff.mpr hmem)

theorem Covers.name_ne_empty (h : Covers d entries) {entry : (String × Bytes) × Digest}
    (hentry : entry ∈ entries) : entry.1.1 ≠ "" := by
  intro hempty
  have hnormalized := h.normalized entry hentry
  rw [hempty] at hnormalized
  simp [normalizedRelativePath, show utf8 "" = [] from rfl] at hnormalized

/-- The lines are as long as the paths make them. -/
theorem Covers.length_flatMap (h : Covers d entries) :
    (entries.flatMap inventoryLine).length =
      ((payloadFiles d).map fun file => inventoryLineLength file.1).sum := by
  have hlines : (entries.map fun entry => (inventoryLine entry).length) =
      (entries.map fun entry => utf8 entry.1.1).map fun path => 67 + path.length := by
    rw [List.map_map]
    exact List.map_congr_left fun entry _ => length_inventoryLine entry
  have hfiles : ((payloadFiles d).map fun file => inventoryLineLength file.1) =
      ((payloadFiles d).map fun file => relativePath file.1).map fun path => 67 + path.length := by
    rw [List.map_map]
    rfl
  rw [List.length_flatMap, hlines, hfiles]
  exact (h.paths.map _).sum_nat

/-- Names that fit a line are cut apart again. -/
theorem Covers.splitInclusive_lines
    (hfits : ∀ entry ∈ entries, FitsLine entry.1.1) :
    splitInclusive 10 (entries.flatMap inventoryLine) = entries.map inventoryLine := by
  have hline : inventoryLine = fun entry : (String × Bytes) × Digest =>
      utf8 (lineText entry.2.hex entry.1.1) ++ [10] := by
    funext entry
    rw [inventoryLine, checksumLine, utf8_append]
    rfl
  rw [hline]
  refine splitInclusive_flatMap (fun entry : (String × Bytes) × Digest =>
    utf8 (lineText entry.2.hex entry.1.1)) entries fun entry hentry => ?_
  rw [newline_mem_utf8, toList_lineText]
  have hhex : '\n' ∉ entry.2.hex.toList := by
    intro hmem
    have hwhite : isWhitespace '\n' = false := not_isWhitespace_of_mem_hexText hmem
    exact absurd hwhite (by decide)
  simp [hhex, (hfits entry hentry).1]

/-- Lists of lines end with a newline. -/
theorem getLast?_flatMap_inventoryLine (entries : List ((String × Bytes) × Digest)) :
    entries.flatMap inventoryLine = [] ∨ (entries.flatMap inventoryLine).getLast? = some 10 := by
  rcases List.eq_nil_or_concat entries with rfl | ⟨front, entry, rfl⟩
  · exact Or.inl rfl
  · right
    have hline : inventoryLine entry = utf8 (lineText entry.2.hex entry.1.1) ++ [10] := by
      rw [inventoryLine, checksumLine, utf8_append]
      rfl
    simp [hline]

/-- The line of a listed payload is read back, whatever the other names do to their lines. -/
theorem Lists.declared {payloads : List (String × Bytes)} {bytes : Bytes}
    (h : Lists hash d payloads bytes) {payload : String × Bytes} (hmem : payload ∈ payloads)
    {names : List FileName} (hnames : entryNames payload.2 = some names)
    (hhead : names.head? ≠ some checksumTemporaryName) {content : Bytes}
    (hcontent : d.lookup names = some (.file content)) (hne : payload.1 ≠ "")
    (hfits : FitsLine payload.1) :
    ((hash content).hex, payload.1) ∈ declarations bytes := by
  obtain ⟨entries, rfl, hdigested, rfl⟩ := h
  obtain ⟨entry, hentry, rfl⟩ := List.mem_map.mp hmem
  obtain ⟨found, hfound, hdigest⟩ := hdigested entry hentry names hnames hhead
  have hsame : found = content := by
    have hboth := hfound.symm.trans hcontent
    simpa using hboth
  obtain ⟨front, back, rfl⟩ := List.append_of_mem hentry
  -- the line of the entry is one of the lines of the whole
  have hline : inventoryLine entry ∈
      splitInclusive 10 ((front ++ entry :: back).flatMap inventoryLine) := by
    have hsplit : (front ++ entry :: back).flatMap inventoryLine =
        front.flatMap inventoryLine ++ ([entry].flatMap inventoryLine ++
          back.flatMap inventoryLine) := by simp
    have hone : splitInclusive 10 ([entry].flatMap inventoryLine) = [inventoryLine entry] :=
      Covers.splitInclusive_lines fun other hother =>
        List.mem_singleton.mp hother ▸ hfits
    rw [hsplit, splitInclusive_append (getLast?_flatMap_inventoryLine front),
      splitInclusive_append (getLast?_flatMap_inventoryLine [entry]), hone]
    simp
  refine List.mem_filterMap.mpr ⟨_, hline, ?_⟩
  rw [declaration_inventoryLine hne hfits, hdigest, hsame]

/-- The walk that the writer has gone through covers the tree. -/
theorem covers_of_gatherDirectory {walk : Walk} (hd : d.Distinct)
    (hwalk : gatherDirectory [] d ⟨.empty, 0⟩ = .ok walk)
    (hentries : entries.map Prod.fst = walk.payloads.entries) : Covers d entries := by
  obtain ⟨-, hkeys, hnamed, hkeyed⟩ := gatherDirectory_finds hwalk
  have hfiles : (walked [] d).files = payloadFiles d := by rw [walked, if_pos rfl]; rfl
  rw [hfiles] at hnamed
  simp only [hfiles, List.nil_append, SortedMap.keys, SortedMap.empty, List.map_nil,
    List.not_mem_nil, false_or] at hkeys hnamed
  have hkeysOf : (entries.map fun entry => entry.1.1) = walk.payloads.keys := by
    rw [SortedMap.keys, ← hentries, List.map_map]
    rfl
  have hnodup : (entries.map fun entry => entry.1.1).Nodup :=
    hkeysOf ▸ walk.payloads.nodup_keys
  have hmemKey : ∀ entry ∈ entries, ∃ file ∈ payloadFiles d,
      utf8 entry.1.1 = relativePath file.1 := by
    intro entry hentry
    refine (hkeys entry.1.1).mp ?_
    rw [← hentries]
    exact List.mem_map.mpr ⟨entry.1, List.mem_map.mpr ⟨entry, hentry, rfl⟩, rfl⟩
  refine ⟨hnodup, fun entry hentry => ?_, fun entry hentry => ?_, ?_⟩
  · refine hkeyed (by simp [SortedMap.empty]) entry.1 ?_
    rw [← hentries]
    exact List.mem_map.mpr ⟨entry, hentry, rfl⟩
  · obtain ⟨file, hfile, hpath⟩ := hmemKey entry hentry
    obtain ⟨key, hkey⟩ := hnamed file hfile
    have hutf8 := utf8_of_normalizedRelativePath (Directory.ne_nil_of_mem_files hfile) hkey
    obtain rfl : key = entry.1.1 := utf8_injective (hutf8.trans hpath.symm)
    rw [hpath]
    exact hkey
  -- both lists are without repetition, so it is enough that they have the same members
  · refine (List.perm_ext_iff_of_nodup ?_ ?_).mpr fun path => ?_
    · have hmap : (entries.map fun entry => utf8 entry.1.1) =
          (entries.map fun entry => entry.1.1).map utf8 := by rw [List.map_map]; rfl
      rw [hmap]
      exact hnodup.map utf8_injective
    · have hmap : ((payloadFiles d).map fun file => relativePath file.1) =
          ((payloadFiles d).map Prod.fst).map relativePath := by rw [List.map_map]; rfl
      rw [hmap]
      refine (Directory.nodup_files (hd.erase _)).map_on fun names hnames names' hnames' heq => ?_
      obtain ⟨file, hfile, rfl⟩ := List.mem_map.mp hnames
      obtain ⟨file', hfile', rfl⟩ := List.mem_map.mp hnames'
      exact relativePath_injective (Directory.ne_nil_of_mem_files hfile)
        (Directory.ne_nil_of_mem_files hfile') heq
    · constructor
      · intro hmem
        obtain ⟨entry, hentry, rfl⟩ := List.mem_map.mp hmem
        obtain ⟨file, hfile, hpath⟩ := hmemKey entry hentry
        exact List.mem_map.mpr ⟨file, hfile, hpath.symm⟩
      · intro hmem
        obtain ⟨file, hfile, rfl⟩ := List.mem_map.mp hmem
        obtain ⟨key, hkey⟩ := hnamed file hfile
        have hutf8 := utf8_of_normalizedRelativePath (Directory.ne_nil_of_mem_files hfile) hkey
        obtain ⟨payload, hpayload, rfl⟩ := List.mem_map.mp ((hkeys key).mpr ⟨file, hfile, hutf8⟩)
        rw [← hentries] at hpayload
        obtain ⟨entry, hentry, rfl⟩ := List.mem_map.mp hpayload
        exact List.mem_map.mpr ⟨entry, hentry, hutf8⟩

/-! ## The reader accepts -/

theorem validateRelativePath_of_normalized {name : String}
    (hname : normalizedRelativePath (utf8 name) = .ok name) (hne : name ≠ "SHA256SUMS") :
    validateRelativePath name = .ok (utf8 name) := by
  unfold validateRelativePath
  refine if_neg ?_
  rintro (rfl | hsums | habsolute | hcomponents)
  · simp [normalizedRelativePath, show utf8 "" = [] from rfl] at hname
  · exact hne hsums
  · simp [normalizedRelativePath, habsolute] at hname
  · unfold normalizedRelativePath at hname
    split at hname
    · contradiction
    · simp [hcomponents] at hname

theorem parseEntry_lineText {name : String} (digest : Digest)
    (hname : normalizedRelativePath (utf8 name) = .ok name) (hne : name ≠ "SHA256SUMS") :
    parseEntry (lineText digest.hex name) = .ok (digest.hex, name, utf8 name) := by
  have hhex : ¬ ((utf8 digest.hex).length ≠ 64 ∨ ¬ (utf8 digest.hex).all isLowerHex) := by
    simp only [Digest.length_hex, ne_eq, not_true_eq_false, false_or, not_not, List.all_eq_true]
    exact fun b hb => Digest.isLowerHex_of_mem_hex hb
  simp only [parseEntry, bind_eq_ok_iff, orReject_eq_ok, rejectIf_eq_ok, pure_eq_ok_iff,
    splitOnceText_lineText, Option.some.injEq, Prod.mk.injEq, Prod.exists]
  exact ⟨digest.hex, name, ⟨rfl, rfl⟩, (), hhex, utf8 name,
    validateRelativePath_of_normalized hname hne, name, hname, (), not_not_intro rfl, rfl, rfl, rfl⟩

/-- What the loop needs to know about one entry. -/
structure Acceptable (hash : Bytes → Digest) (root : BundleRoot)
    (payloads : SortedMap String Bytes) (entry : (String × Bytes) × Digest) : Prop where
  normalized : normalizedRelativePath (utf8 entry.1.1) = .ok entry.1.1
  named : entry.1.1 ≠ "" ∧ entry.1.1 ≠ "SHA256SUMS"
  fits : FitsLine entry.1.1
  length : (inventoryLine entry).length ≤ maxChecksumLineBytes
  listed : entry.1.1 ∈ payloads.keys
  hashed : ∃ names content, names ≠ [] ∧ utf8 entry.1.1 = relativePath names ∧
    root.tree.lookup names = some (.file content) ∧
    isAbove (retainedLimit entry.1.1) content.length = false ∧ entry.2 = hash content

/-- The loop after the lines of the entries behind. -/
structure HasRead (done : List ((String × Bytes) × Digest)) (progress : Progress) : Prop where
  totalBytes : progress.totalBytes = (done.flatMap inventoryLine).length
  names : progress.names = (done.map fun entry => entry.1.1).reverse
  targets : ∀ target ∈ progress.targets, ∃ entry ∈ done, utf8 entry.1.1 = relativePath target

/-- The step of the loop on a written line. -/
theorem checkLine_inventoryLine {root : BundleRoot} {payloads : SortedMap String Bytes}
    {done : List ((String × Bytes) × Digest)} {entry : (String × Bytes) × Digest}
    {progress : Progress} (hread : HasRead done progress)
    (hentry : Acceptable hash root payloads entry)
    (hfresh : entry.1.1 ∉ done.map fun other => other.1.1)
    (hcount : done.length < maxChecksumEntries)
    (htotal : (done.flatMap inventoryLine).length + (inventoryLine entry).length ≤
      maxChecksumFileBytes) :
    ∃ progress', checkLine hash root payloads progress (inventoryLine entry) = .ok progress' ∧
      HasRead (done ++ [entry]) progress' := by
  obtain ⟨hnormalized, ⟨hempty, hsums⟩, hfits, hlength, hlisted, names, content, hnil, hpath,
    hlookup, habove, hdigest⟩ := hentry
  have hnames : progress.names.length < maxChecksumEntries := by
    rw [hread.names]
    simpa using hcount
  have hnameFresh : entry.1.1 ∉ progress.names := by
    rw [hread.names, List.mem_reverse]
    exact hfresh
  -- another name cannot have led to the same file
  have htarget : names ∉ progress.targets := by
    intro hmem
    obtain ⟨other, hother, hsame⟩ := hread.targets names hmem
    exact hfresh (List.mem_map.mpr ⟨other, hother, utf8_injective (hsame.trans hpath.symm)⟩)
  have hhash : hashRegularFile hash root (utf8 entry.1.1) entry.1.1 (retainedLimit entry.1.1) =
      .ok (names, entry.2.hex, (retainedLimit entry.1.1).map fun _ => content) := by
    refine hashRegularFile_eq_ok.mpr ⟨?_, content, hlookup, habove, by rw [hdigest], rfl⟩
    rw [hpath]
    exact entryNames_relativePath hnil
  have htext : decodeUtf8 (inventoryLine entry) =
      some (checksumLine entry.2.hex entry.1.1) := decodeUtf8_utf8 _
  -- every check of the entry passes
  have hchecked : ∃ progress', checkEntry hash root payloads
      { progress with totalBytes := progress.totalBytes + (inventoryLine entry).length }
      (lineText entry.2.hex entry.1.1) = .ok progress' ∧
      progress'.totalBytes = progress.totalBytes + (inventoryLine entry).length ∧
      progress'.names = entry.1.1 :: progress.names ∧
      progress'.targets = names :: progress.targets := by
    simp only [checkEntry, bind_eq_ok_iff, rejectIf_eq_ok, pure_eq_ok_iff, Prod.exists]
    exact ⟨_, ⟨(), not_le.mpr hnames, _, _, _, parseEntry_lineText entry.2 hnormalized hsums, (),
      hnameFresh, (), not_not_intro (SortedMap.contains_iff.mpr hlisted), _, _, _, hhash, (),
      htarget, (), not_not_intro rfl, rfl⟩, rfl, rfl, rfl⟩
  obtain ⟨progress', hchecked, htotalBytes, hnames', htargets'⟩ := hchecked
  refine ⟨progress', ?_, ?_⟩
  · simp only [checkLine, bind_eq_ok_iff, orReject_eq_ok, rejectIf_eq_ok]
    refine ⟨_, htext, (), ?_, (), not_lt.mpr hlength, ?_⟩
    · rw [hread.totalBytes]
      exact not_lt.mpr htotal
    · rw [trimEndMatches_checksumLine hempty hfits, isBlank_lineText, if_neg (by simp)]
      exact hchecked
  · constructor
    · rw [htotalBytes, hread.totalBytes]
      simp
    · rw [hnames', hread.names]
      simp
    · intro target hmem
      rw [htargets'] at hmem
      rcases List.mem_cons.mp hmem with rfl | hmem
      · exact ⟨entry, by simp, hpath⟩
      · obtain ⟨other, hother, hsame⟩ := hread.targets target hmem
        exact ⟨other, List.mem_append_left _ hother, hsame⟩

/-- The reader accepts a list of acceptable entries without repetition. -/
theorem foldlM_checkLine_inventoryLines {root : BundleRoot} {payloads : SortedMap String Bytes}
    (hentries : ∀ entry ∈ entries, Acceptable hash root payloads entry)
    (hnodup : (entries.map fun entry => entry.1.1).Nodup)
    (hcount : entries.length ≤ maxChecksumEntries)
    (htotal : (entries.flatMap inventoryLine).length ≤ maxChecksumFileBytes) :
    ∃ progress, (entries.map inventoryLine).foldlM (checkLine hash root payloads)
      Progress.start = .ok progress ∧ HasRead entries progress := by
  rw [List.foldlM_map]
  refine exists_foldlM (fun done entry rest progress hitems hread => ?_) ?_
  · subst hitems
    rw [List.map_append, List.map_cons] at hnodup
    have hfresh : entry.1.1 ∉ done.map fun other => other.1.1 := fun hmem =>
      (List.disjoint_of_nodup_append hnodup) hmem List.mem_cons_self
    simp only [List.length_append, List.length_cons, List.flatMap_append,
      List.flatMap_cons] at hcount htotal
    exact checkLine_inventoryLine hread (hentries entry (by simp)) hfresh (by omega) (by omega)
  · exact ⟨rfl, rfl, by simp [Progress.start]⟩

/-! ## The written tree -/

theorem mem_payloadFiles (hd : d.Distinct) {names : List FileName} {content : Bytes} :
    (names, content) ∈ payloadFiles d ↔
      names.head? ≠ some checksumFileName ∧ d.lookup names = some (.file content) := by
  rw [payloadFiles, Directory.mem_files_iff (hd.erase _)]
  cases names with
  | nil => simp
  | cons name rest =>
      by_cases hname : name = checksumFileName
      · simp [hname, Directory.lookup_erase_self]
      · simp [hname, Directory.lookup_erase_ne hname]

/-- The payloads of the written tree are those the writer has walked over, without
the temporary file. -/
theorem hasPayload_writtenTree {root : BundleRoot} {sums : Bytes} (hd : d.Distinct)
    (htree : root.tree = writtenTree d sums) {names : List FileName} {content : Bytes} :
    root.HasPayload names content ↔
      (names, content) ∈ payloadFiles d ∧ names.head? ≠ some checksumTemporaryName := by
  rw [mem_payloadFiles hd, BundleRoot.HasPayload, htree, writtenTree]
  cases names with
  | nil => simp
  | cons name rest =>
      by_cases htemporary : name = checksumTemporaryName
      · simp [htemporary, Directory.lookup_erase_self]
      rw [Directory.lookup_erase_ne htemporary]
      by_cases hsums : name = checksumFileName
      · subst hsums
        cases rest with
        | nil => simp
        | cons next rest => simp [Directory.lookup_cons, Node.lookup]
      · rw [Directory.lookup_put_ne hsums, Directory.lookup_put_ne htemporary]
        simp [hsums, htemporary]

theorem lookup_sums_writtenTree (d : Directory) (sums : Bytes) :
    (writtenTree d sums).lookup [checksumFileName] = some (.file sums) := by
  have hne : checksumFileName ≠ checksumTemporaryName := by decide
  rw [writtenTree, Directory.lookup_erase_ne hne, Directory.lookup_singleton,
    Directory.find?_put_self]

/-- Within the limits the reader accepts the written tree. -/
theorem inventoryPhase_of_limits {root : BundleRoot} {walk : Walk} (hd : d.Distinct)
    (hwalk : gatherDirectory [] d ⟨.empty, 0⟩ = .ok walk)
    (hentries : entries.map Prod.fst = walk.payloads.entries)
    (hdigested : ∀ entry ∈ entries, Digested hash d entry)
    (htree : root.tree = writtenTree d (entries.flatMap inventoryLine))
    (hlimits : ReaderLimits d) : (inventoryPhase hash root).isOk = true := by
  have hcovers := covers_of_gatherDirectory hd hwalk hentries
  have hput : root.tree = d.put checksumFileName (.file (entries.flatMap inventoryLine)) := by
    rw [htree, writtenTree, Directory.erase_put_put (by decide) hlimits.temporary]
  -- the verifier's walk finds what the writer's walk has found
  obtain ⟨walk', hwalk', hpayloads⟩ := gatherDirectory_put_sums hwalk
    (by simpa [Nat.add_comm] using hlimits.entryCount) hd (entries.flatMap inventoryLine)
  rw [← hput] at hwalk'
  have hkeys : walk'.payloads.keys = entries.map fun entry => entry.1.1 := by
    rw [hpayloads, SortedMap.keys, ← hentries, List.map_map]
    rfl
  have hacceptable : ∀ entry ∈ entries, Acceptable hash root walk'.payloads entry := by
    intro entry hentry
    obtain ⟨⟨names, content⟩, hfile, hpath⟩ := hcovers.exists_file hentry
    obtain ⟨hhead, hlookup⟩ := (mem_payloadFiles hd).mp hfile
    have hnil : names ≠ [] := Directory.ne_nil_of_mem_files hfile
    have htemporary : names.head? ≠ some checksumTemporaryName := by
      intro hsome
      obtain ⟨rest, rfl⟩ := List.head?_eq_some_iff.mp hsome
      exact hlimits.temporary (Directory.mem_names_of_mem_erase
        (Directory.mem_names_of_mem_files hfile))
    have hpayload := (hasPayload_writtenTree hd htree).mpr ⟨hfile, htemporary⟩
    refine ⟨hcovers.normalized entry hentry, ⟨hcovers.name_ne_empty hentry, ?_⟩,
      hlimits.names _ hfile _ hpath.symm, ?_, ?_, names, content, hnil, hpath.symm, hpayload.2,
      hlimits.recordBytes _ hfile _ hpath.symm, ?_⟩
    · intro hsums
      -- the inventory does not list itself
      have hsame : names = [checksumFileName] := by
        refine relativePath_injective hnil (by simp) (hpath.trans ?_)
        rw [hsums]
        simp [relativePath, joinComponents, checksumFileName]
      exact hhead (by rw [hsame]; rfl)
    · rw [length_inventoryLine, ← hpath]
      exact hlimits.lineBytes _ hfile
    · rw [hkeys]
      exact List.mem_map.mpr ⟨entry, hentry, rfl⟩
    · have hnames : entryNames entry.1.2 = some names := by
        rw [hcovers.keyed entry hentry, ← hpath]
        exact entryNames_relativePath hnil
      obtain ⟨content', hcontent', hdigest⟩ := hdigested entry hentry names hnames htemporary
      have hsame : content' = content := by
        have hboth := hcontent'.symm.trans hlookup
        simpa using hboth
      rw [hdigest, hsame]
  have hcount : entries.length ≤ maxChecksumEntries := by
    have hlength := hcovers.paths.length_eq
    rw [List.length_map, List.length_map] at hlength
    have hfiles := Directory.length_files_le_entryCount (d.erase checksumFileName)
    have hentryCount := hlimits.entryCount
    rw [hlength]
    exact le_trans hfiles (by omega)
  have htotal : (entries.flatMap inventoryLine).length ≤ maxChecksumFileBytes := by
    rw [hcovers.length_flatMap]
    exact hlimits.totalBytes
  have hfits : ∀ entry ∈ entries, FitsLine entry.1.1 := fun entry hentry =>
    (hacceptable entry hentry).fits
  obtain ⟨progress, hloop, hread⟩ :=
    foldlM_checkLine_inventoryLines hacceptable hcovers.nodup hcount htotal
  rw [← Covers.splitInclusive_lines hfits] at hloop
  -- all lines are checked and nothing is missing
  have hphase : inventoryPhase hash root = .ok (walk'.payloads, progress) := by
    refine inventoryPhase_eq_ok.mpr ⟨readInventory_eq_ok.mpr
      ⟨walk', _, hwalk', rfl, htree ▸ lookup_sums_writtenTree _ _, htotal, hloop⟩, ?_⟩
    intro key hkey
    rw [hread.names, List.mem_reverse, ← hkeys]
    exact hkey
  rw [hphase]
  rfl

/-! ## The reader refuses the rest -/

theorem length_le_of_foldlM_checkLine {root : BundleRoot} {payloads : SortedMap String Bytes}
    {lines : List Bytes} {progress : Progress}
    (h : lines.foldlM (checkLine hash root payloads) Progress.start = .ok progress) :
    ∀ line ∈ lines, line.length ≤ maxChecksumLineBytes := by
  have hstep : ∀ (done : List Bytes) line progress progress',
      (∀ other ∈ done, other.length ≤ maxChecksumLineBytes) →
      checkLine hash root payloads progress line = .ok progress' →
      ∀ other ∈ done ++ [line], other.length ≤ maxChecksumLineBytes := by
    intro done line progress progress' hdone hline other hother
    simp only [checkLine, bind_eq_ok_iff, orReject_eq_ok, rejectIf_eq_ok] at hline
    obtain ⟨-, -, -, -, -, hlength, -⟩ := hline
    rcases List.mem_append.mp hother with hmem | hmem
    · exact hdone other hmem
    · rw [List.mem_singleton.mp hmem]
      exact not_lt.mp hlength
  exact foldlM_invariant hstep (by simp) h

/-- A payload's retained bytes are within its limit. -/
theorem isAbove_of_loopAccepts {root : BundleRoot} {payloads : SortedMap String Bytes}
    {lines : List Bytes} {progress : Progress}
    (h : LoopAccepts hash root payloads lines progress) {name : String} {names : List FileName}
    {content : Bytes} (hname : name ∈ progress.names) (hpath : utf8 name = relativePath names)
    (hpayload : root.HasPayload names content) :
    isAbove (retainedLimit name) content.length = false := by
  cases hlimit : retainedLimit name with
  | none => rfl
  | some limit =>
      obtain ⟨bytes, hkept⟩ := h.kept name hname limit hlimit
      obtain ⟨-, names', hpayload', hpath', limit', hlimit', hlength⟩ := h.retained _ hkept
      obtain rfl : limit = limit' := Option.some.inj (hlimit.symm.trans hlimit')
      obtain rfl : names = names' := relativePath_injective hpayload.ne_nil hpayload'.ne_nil
        (hpath.symm.trans hpath')
      obtain rfl : content = bytes := by
        have hboth := hpayload.2.symm.trans hpayload'.2
        simpa using hboth
      simpa [isAbove] using hlength

/-- The names of a tree whose written inventory the reader accepts. -/
theorem Covers.fitsLine {root : BundleRoot} {payloads : SortedMap String Bytes}
    {progress : Progress} {sums : Bytes} (hcovers : Covers d entries) (hd : d.Distinct)
    (hfresh : ∀ sub, d.find? checksumTemporaryName ≠ some (.directory sub))
    (htree : root.tree = writtenTree d sums)
    (hphase : inventoryPhase hash root = .ok (payloads, progress)) :
    ∀ entry ∈ entries, FitsLine entry.1.1 := by
  intro entry hentry
  obtain ⟨⟨names, content⟩, hfile, hpath⟩ := hcovers.exists_file hentry
  by_cases htemporary : names.head? = some checksumTemporaryName
  · -- the temporary file itself, whose name fits
    obtain ⟨rest, rfl⟩ := List.head?_eq_some_iff.mp htemporary
    obtain ⟨-, hlookup⟩ := (mem_payloadFiles hd).mp hfile
    have hrest : rest = [] := by
      by_contra hrest
      obtain ⟨next, rest, rfl⟩ := List.exists_cons_of_ne_nil hrest
      rw [Directory.lookup_cons] at hlookup
      cases hfind : d.find? checksumTemporaryName with
      | none => simp [hfind] at hlookup
      | some node =>
          cases node with
          | directory sub => exact hfresh sub hfind
          | file content => simp [hfind, Node.lookup] at hlookup
          | symlink resolves => simp [hfind, Node.lookup] at hlookup
          | special => simp [hfind, Node.lookup] at hlookup
    subst hrest
    have hname : entry.1.1 = "SHA256SUMS.tmp" := by
      refine utf8_injective (hpath.symm.trans ?_)
      simp [relativePath, joinComponents, checksumTemporaryName]
    rw [hname]
    exact ⟨by decide, by decide⟩
  -- any other payload is declared by a line, which has been read
  · obtain ⟨sums', hsums', hdescribes⟩ := inventoryPhase_describes hphase
    have hpayload := (hasPayload_writtenTree hd htree).mpr ⟨hfile, htemporary⟩
    have hdeclared := (hdescribes.exact (relativePath names)).mpr ⟨names, content, hpayload, rfl⟩
    obtain ⟨declared, hdeclared, hsame⟩ := List.mem_map.mp hdeclared
    obtain ⟨line, hline, hdeclaration⟩ := List.mem_filterMap.mp hdeclared
    have hname : declared.2 = entry.1.1 := utf8_injective (hsame.trans hpath)
    rw [← hname]
    exact fitsLine_of_declaration hline hdeclaration (hname ▸ hcovers.name_ne_empty hentry)

/-- A tree whose written inventory the reader accepts is within the limits. -/
theorem limits_of_inventoryPhase {root : BundleRoot} {walk : Walk}
    {payloads : SortedMap String Bytes} {progress : Progress} (hd : d.Distinct) (hplain : d.Plain)
    (hwalk : gatherDirectory [] d ⟨.empty, 0⟩ = .ok walk)
    (hentries : entries.map Prod.fst = walk.payloads.entries)
    (hfresh : ∀ sub, d.find? checksumTemporaryName ≠ some (.directory sub))
    (htree : root.tree = writtenTree d (entries.flatMap inventoryLine))
    (hphase : inventoryPhase hash root = .ok (payloads, progress)) : ReaderLimits d := by
  have hcovers := covers_of_gatherDirectory hd hwalk hentries
  have hfits := hcovers.fitsLine hd hfresh htree hphase
  have hsums := lookup_sums_writtenTree d (entries.flatMap inventoryLine)
  rw [← htree] at hsums
  obtain ⟨hread, hmissing⟩ := inventoryPhase_eq_ok.mp hphase
  obtain ⟨walk', sums, hwalk', -, hlookup, htotal, hloop⟩ := readInventory_eq_ok.mp hread
  obtain rfl : sums = entries.flatMap inventoryLine := by
    have hboth := hlookup.symm.trans hsums
    simpa using hboth
  -- the entry of the temporary file is declared, and the rename has taken it away
  have htemporary : checksumTemporaryName ∉ d.names := by
    intro hmem
    obtain ⟨node, hnode⟩ := Directory.exists_find?_of_mem_names hmem
    have hnodePlain := hplain.find? hnode
    cases node with
    | directory sub => exact hfresh sub hnode
    | symlink resolves => exact hnodePlain
    | special => exact hnodePlain
    | file content =>
        have hfile : ([checksumTemporaryName], content) ∈ payloadFiles d :=
          (mem_payloadFiles hd).mpr ⟨by decide, by simpa using hnode⟩
        obtain ⟨entry, hentry, hpath⟩ := hcovers.exists_entry hfile
        have hline : inventoryLine entry ∈ splitInclusive 10 (entries.flatMap inventoryLine) := by
          rw [Covers.splitInclusive_lines hfits]
          exact List.mem_map.mpr ⟨entry, hentry, rfl⟩
        have hdeclared : (entry.2.hex, entry.1.1) ∈
            declarations (entries.flatMap inventoryLine) :=
          List.mem_filterMap.mpr ⟨_, hline,
            declaration_inventoryLine (hcovers.name_ne_empty hentry) (hfits entry hentry)⟩
        obtain ⟨sums', hsums', hdescribes⟩ := inventoryPhase_describes hphase
        obtain rfl : sums' = entries.flatMap inventoryLine := by
          have hboth := hsums'.symm.trans hsums
          simpa using hboth
        obtain ⟨names, content', hpayload, hsame, -⟩ := hdescribes.digests _ hdeclared
        obtain rfl : names = [checksumTemporaryName] :=
          relativePath_injective hpayload.ne_nil (by simp) (hsame.symm.trans hpath)
        exact ((hasPayload_writtenTree hd htree).mp hpayload).2 rfl
  have hput : root.tree = d.put checksumFileName (.file (entries.flatMap inventoryLine)) := by
    rw [htree, writtenTree, Directory.erase_put_put (by decide) htemporary]
  have hpayloadOf : ∀ file ∈ payloadFiles d, root.HasPayload file.1 file.2 := by
    rintro ⟨names, content⟩ hfile
    refine (hasPayload_writtenTree hd htree).mpr ⟨hfile, fun hsome => ?_⟩
    obtain ⟨rest, rfl⟩ := List.head?_eq_some_iff.mp hsome
    exact htemporary (Directory.mem_names_of_mem_erase (Directory.mem_names_of_mem_files hfile))
  refine ⟨?_, htemporary, ?_, ?_, ?_, ?_⟩
  · obtain ⟨hcount, hbound⟩ := gatherDirectory_counts hwalk'
    rw [hput, walked, if_pos rfl, Directory.erase_put_self] at hcount
    have hskipped : 0 < skippedCount []
        (d.put checksumFileName (.file (entries.flatMap inventoryLine))) := by
      refine List.length_pos_of_mem (a := checksumFileName) (List.mem_filter.mpr ⟨?_, ?_⟩)
      · exact Directory.mem_names_put.mpr (.inl rfl)
      · simp [IsSkipped]
    have hseen := hbound (Nat.zero_le _)
    dsimp only at hcount
    omega
  · intro file hfile name hname
    obtain ⟨entry, hentry, hpath⟩ := hcovers.exists_entry hfile
    exact utf8_injective (hpath.trans hname.symm) ▸ hfits entry hentry
  · intro file hfile
    obtain ⟨entry, hentry, hpath⟩ := hcovers.exists_entry hfile
    have hlength := length_le_of_foldlM_checkLine hloop (inventoryLine entry) (by
      rw [Covers.splitInclusive_lines hfits]
      exact List.mem_map.mpr ⟨entry, hentry, rfl⟩)
    rw [length_inventoryLine, hpath] at hlength
    exact hlength
  · rw [← hcovers.length_flatMap]
    exact htotal
  · intro file hfile name hname
    obtain ⟨sums', hreads⟩ := readInventory_reads hread
    have hkey : name ∈ payloads.keys :=
      (hreads.keys name).mpr ⟨file.1, file.2, hpayloadOf file hfile, hname⟩
    exact isAbove_of_loopAccepts hreads.loop (hmissing name hkey) hname (hpayloadOf file hfile)

end

/-! ## The round trip -/

theorem exists_canonicalBundleRoot {path : List FileName} {disk : FileTree} {d : Directory}
    (h : disk.lookup path = some (.directory d)) :
    ∃ root, canonicalBundleRoot path disk = .ok root ∧ root.tree = d := by
  unfold canonicalBundleRoot
  split
  · rename_i hnone
    simp [hnone] at h
  · rename_i tree htree
    exact ⟨_, rfl, by simpa using htree.symm.trans h⟩
  · rename_i hlink
    simp [hlink] at h
  · rename_i hfile
    simp [hfile] at h
  · rename_i hspecial
    simp [hspecial] at h

theorem canonicalBundleRoot_of_lookup {disk : FileTree} {root : BundleRoot}
    (h : disk.lookup root.path = some (.directory root.tree)) :
    canonicalBundleRoot root.path disk = .ok root := by
  obtain ⟨found, hfound, htree⟩ := exists_canonicalBundleRoot h
  obtain ⟨hpath, -⟩ := canonicalBundleRoot_eq_ok hfound
  have hsame : found = root := by
    cases found
    cases root
    simp only at hpath htree
    subst hpath htree
    rfl
  rw [hfound, hsame]

/-- What the writer leaves is accepted within the limits and only there. -/
theorem WrittenInventory.accepted_iff {hash : Bytes → Digest} {path : List FileName}
    {d : Directory} {pending : PendingEvidenceDigest} {disk : FileTree}
    (h : WrittenInventory hash path d pending disk) (hd : d.Distinct) (hplain : d.Plain) :
    ∃ root, canonicalBundleRoot path disk = .ok root ∧
      ((inventoryPhase hash root).isOk = true ↔ ReaderLimits d) := by
  obtain ⟨⟨walk, hwalk, entries, hentries, hdigested, habsorbed⟩, hfresh, hplaced, -⟩ := h
  obtain ⟨root, hroot, htree⟩ := exists_canonicalBundleRoot hplaced
  rw [habsorbed] at htree
  refine ⟨root, hroot, fun hok => ?_, inventoryPhase_of_limits hd hwalk hentries hdigested htree⟩
  obtain ⟨⟨payloads, progress⟩, hphase⟩ := exists_of_isOk hok
  exact limits_of_inventoryPhase hd hplain hwalk hentries hfresh htree hphase

theorem writtenInventory_of_ok {ρ : Type} {hash : Bytes → Digest} {faults : Faults}
    {path : List FileName} {d : Directory} {w : DiskWorld} {v : ρ}
    {pending : PendingEvidenceDigest} (htree : w.store.lookup path = some (.directory d))
    (hok : (writeChecksumFile hash path faults w v).outcome = .ok pending) :
    WrittenInventory hash path d pending (writeChecksumFile hash path faults w v).world.store := by
  have hend : (writeChecksumFile hash path faults w v).Meets
      (fun pending w' _ => WrittenInventory hash path d pending w'.store) (fun _ _ _ => True) :=
    triple_writeChecksumFile w v htree
  unfold Ended.Meets at hend
  simpa only [hok] using hend

/-- On a tree of regular files and directories that the writer has gone through,
the reader's inventory phase accepts exactly within the reader's limits. -/
theorem writeChecksumFile_roundTrip {ρ : Type} (hash : Bytes → Digest) (faults : Faults)
    (path : List FileName) (d : Directory) (w : DiskWorld) (v : ρ)
    (pending : PendingEvidenceDigest) (hplain : d.Plain)
    (htree : w.store.lookup path = some (.directory d))
    (hok : (writeChecksumFile hash path faults w v).outcome = .ok pending) :
    ∃ root, canonicalBundleRoot path (writeChecksumFile hash path faults w v).world.store =
        .ok root ∧
      ((inventoryPhase hash root).isOk = true ↔ ReaderLimits d) :=
  (writtenInventory_of_ok htree hok).accepted_iff (w.store.distinct.lookup htree) hplain

/-- A disk that holds one empty file. -/
def oneFileDisk (name : FileName) : FileTree where
  root := .entry name (.file []) .empty
  distinct := by simp [Directory.Distinct, Directory.names]

/-- A file, and another one in a directory. -/
def twoFiles : Directory :=
  .entry (.ofString "notes" (by decide))
    (.directory (.entry (.ofString "second.txt" (by decide)) (.file (utf8 "ready\n")) .empty))
    (.entry (.ofString "first.txt" (by decide)) (.file (utf8 "set\n")) .empty)

def twoFilesDisk : FileTree where
  root := twoFiles
  distinct := ⟨by decide, ⟨by decide, trivial⟩, ⟨by decide, trivial⟩⟩

theorem writeChecksumFile_roundTrip_twoFiles :
    ∃ root, canonicalBundleRoot [] (writeChecksumFile sha256 [] (fun _ => none)
        ⟨twoFilesDisk, 0, []⟩ ()).world.store = .ok root ∧
      ((inventoryPhase sha256 root).isOk = true ↔ ReaderLimits twoFiles) := by
  have hok : (writeChecksumFile sha256 [] (fun _ => none)
      ⟨twoFilesDisk, 0, []⟩ ()).outcome.isOk = true := by
    decide +kernel
  obtain ⟨pending, hpending⟩ := Outcome.exists_of_isOk hok
  exact writeChecksumFile_roundTrip sha256 (fun _ => none) [] twoFiles ⟨twoFilesDisk, 0, []⟩ ()
    pending ⟨trivial, trivial⟩ rfl hpending

/-- The file name that a line cannot hold. -/
def twoLineName : FileName := .ofString "a\nb" (by decide)

theorem writeChecksumFile_refused_twoLineName :
    ¬ ∀ (hash : Bytes → Digest) (faults : Faults) (path : List FileName) (d : Directory)
      (w : DiskWorld) (pending : PendingEvidenceDigest), d.Plain →
      (∀ file ∈ payloadFiles d, ∀ name, utf8 name = relativePath file.1 →
        retainedLimit name = none) →
      w.store.lookup path = some (.directory d) →
      (writeChecksumFile hash path faults w ()).outcome = .ok pending →
      ∃ root, canonicalBundleRoot path (writeChecksumFile hash path faults w ()).world.store =
          .ok root ∧
        (inventoryPhase hash root).isOk = true := by
  intro hclaim
  have hok : (writeChecksumFile sha256 [] (fun _ => none)
      ⟨oneFileDisk twoLineName, 0, []⟩ ()).outcome.isOk = true := by
    decide +kernel
  obtain ⟨pending, hpending⟩ := Outcome.exists_of_isOk hok
  have htree : (oneFileDisk twoLineName).lookup [] =
      some (.directory (.entry twoLineName (.file []) .empty)) := rfl
  have hfiles : payloadFiles (.entry twoLineName (.file []) .empty) = [([twoLineName], [])] := by
    decide
  have hname : ∀ name, utf8 name = relativePath [twoLineName] → name = "a\nb" := fun name h =>
    utf8_injective (h.trans (by decide))
  obtain ⟨root, hroot, haccepted⟩ := hclaim sha256 (fun _ => none) [] _
    ⟨oneFileDisk twoLineName, 0, []⟩ pending (by trivial) (by
      rw [hfiles]
      intro file hfile name hpath
      rw [List.mem_singleton.mp hfile] at hpath
      rw [hname name hpath]
      decide) htree hpending
  obtain ⟨root', hroot', hiff⟩ := (writtenInventory_of_ok htree hpending).accepted_iff
    ((oneFileDisk twoLineName).distinct.lookup htree) (by trivial)
  obtain rfl : root' = root := Except.ok.inj (hroot'.symm.trans hroot)
  have hfits := (hiff.mp haccepted).names ([twoLineName], []) (by rw [hfiles]; simp) "a\nb"
    (by decide)
  exact hfits.1 (by decide)

end Benchplane
