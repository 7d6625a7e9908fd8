import Benchplane.Evidence.Acceptance
import Benchplane.Library.FileContents

/-!
# Replacing a payload

A bundle in which one payload has other bytes, and `SHA256SUMS` their digest, everything
else unchanged.  The reader of the inventory goes through it as it went through the
original, as long as it sets no limit to the payload.
-/

namespace Benchplane

open Library

/-! ## The replaced bundle -/

/-- A line of `SHA256SUMS`, with another digest where it declares the name. -/
def redigestLine (name digest : String) (line : Bytes) : Bytes :=
  if (declaration line).any (·.2 = name) then utf8 digest ++ line.drop 64 else line

/-- `SHA256SUMS` with another digest for a name. -/
def redigestSums (name digest : String) (sums : Bytes) : Bytes :=
  ((splitInclusive 10 sums).map (redigestLine name digest)).flatten

/-- The content of each file after a payload is replaced. -/
def replacedContent (hash : Bytes → Digest) (file : StagedFile) (content : Bytes)
    (names : List FileName) (old : Bytes) : Bytes :=
  if names = file.path then content
  else if names = [checksumFileName] then redigestSums file.display (hash content).hex old
  else old

/-- The bundle with another content of a payload and its checksum recomputed. -/
def BundleRoot.withPayload (hash : Bytes → Digest) (root : BundleRoot) (file : StagedFile)
    (content : Bytes) : BundleRoot where
  path := root.path
  tree := root.tree.mapFiles (replacedContent hash file content) []
  distinct := root.distinct.mapFiles []

/-- What the loop has established, with another digest for a name. -/
def Progress.redigest (name digest : String) (progress : Progress) : Progress :=
  { progress with
    digests := progress.digests.map fun entry => if entry.1 = name then (name, digest) else entry }

section

variable {hash : Bytes → Digest} {root : BundleRoot} {file : StagedFile} {content : Bytes}

theorem lookup_withPayload_self (h : ∃ old, root.tree.lookup file.path = some (.file old)) :
    (root.withPayload hash file content).tree.lookup file.path = some (.file content) := by
  obtain ⟨old, hold⟩ := h
  exact Directory.lookup_mapFiles.mpr ⟨old, hold, by simp [replacedContent]⟩

theorem lookup_withPayload_sums {sums : Bytes}
    (h : root.tree.lookup [checksumFileName] = some (.file sums)) :
    (root.withPayload hash file content).tree.lookup [checksumFileName] =
      some (.file (redigestSums file.display (hash content).hex sums)) := by
  apply Directory.lookup_mapFiles.mpr
  exact ⟨sums, h, by simp [replacedContent, file.path_ne.1.symm]⟩

theorem lookup_withPayload_ne {names : List FileName} (hfile : names ≠ file.path)
    (hsums : names ≠ [checksumFileName]) {bytes : Bytes} :
    (root.withPayload hash file content).tree.lookup names = some (.file bytes) ↔
      root.tree.lookup names = some (.file bytes) := by
  rw [BundleRoot.withPayload, Directory.lookup_mapFiles]
  simp [replacedContent, hfile, hsums]

/-- The other payloads are what they were. -/
theorem fileAt_withPayload_ne {other : StagedFile} (hne : other ≠ file) :
    (root.withPayload hash file content).fileAt other.display = root.fileAt other.display := by
  have hpath : other.path ≠ file.path := fun h => hne (StagedFile.path_injective h)
  apply Option.ext
  intro bytes
  rw [BundleRoot.fileAt_display, BundleRoot.fileAt_display,
    lookup_withPayload_ne hpath other.path_ne.1]

theorem fileAt_withPayload_self {old : Bytes} (h : root.fileAt file.display = some old) :
    (root.withPayload hash file content).fileAt file.display = some content :=
  (BundleRoot.fileAt_display _ file).mpr
    (lookup_withPayload_self ⟨old, (root.fileAt_display file).mp h⟩)

/-- The walk does not read files. -/
theorem gatherDirectory_mapFiles {change : List FileName → Bytes → Bytes} (d : Directory)
    (parent place : List FileName) (walk : Walk) :
    gatherDirectory parent (d.mapFiles change place) walk = gatherDirectory parent d walk := by
  induction d using Directory.treeInduction generalizing parent place walk with
  | empty => rfl
  | file name content rest ih => simp only [Directory.mapFiles, gatherDirectory, ih]
  | directory name children rest ihChildren ihRest =>
      simp only [Directory.mapFiles, gatherDirectory, ihChildren, ihRest]
  | symlink name resolves rest ih => simp only [Directory.mapFiles, gatherDirectory, ih]
  | special name rest ih => simp only [Directory.mapFiles, gatherDirectory, ih]

end

/-! ## Lines -/

/-- What a declaring line looks like. -/
theorem exists_tail_of_declaration {line : Bytes} {digest name : String}
    (h : declaration line = some (digest, name)) :
    ∃ tail : List Char, (∀ c ∈ tail, c ∈ ['\r', '\n']) ∧
      line = utf8 (String.ofList ((lineText digest name).toList ++ tail)) := by
  simp only [declaration, Option.bind_eq_some_iff] at h
  obtain ⟨text, htext, h⟩ := h
  split at h
  · contradiction
  · obtain ⟨tail, htail, happend, -⟩ := exists_append_trimEndMatches ['\r', '\n'] text
    refine ⟨tail, htail, ?_⟩
    obtain ⟨⟨left, right⟩, hsplit, hpair⟩ := Option.map_eq_some_iff.mp h
    obtain ⟨rfl, rfl⟩ := Prod.mk.inj hpair
    have htrimmed := append_of_splitOnce hsplit
    have hline : (lineText (String.ofList left) (String.ofList right)).toList =
        (trimEndMatches ['\r', '\n'] text).toList := by
      rw [htrimmed]
      simp [lineText]
    rw [hline, ← happend, String.ofList_toList]
    exact (utf8_of_decodeUtf8 htext).symm

theorem display_ends (file : StagedFile) :
    ∃ h : file.display.toList ≠ [], file.display.toList.getLast h ∉ ['\r', '\n'] := by
  cases file <;> exact ⟨by decide, by decide⟩

/-- The text of a line that declares a payload is trimmed to the declaration. -/
theorem trimEndMatches_lineText (file : StagedFile) (digest : String) {tail : List Char}
    (h : ∀ c ∈ tail, c ∈ ['\r', '\n']) :
    trimEndMatches ['\r', '\n']
        (String.ofList ((lineText digest file.display).toList ++ tail)) =
      lineText digest file.display := by
  obtain ⟨hne, hlast⟩ := display_ends file
  rw [trimEndMatches_append _ h, String.ofList_toList]
  intro hnil
  have hends : (lineText digest file.display).toList.getLast hnil =
      file.display.toList.getLast hne := by
    simp only [toList_lineText]
    exact List.getLast_append_of_ne_nil _ hne
  rw [hends]
  exact hlast

theorem normalizedRelativePath_display (file : StagedFile) :
    normalizedRelativePath (utf8 file.display) = .ok file.display := by
  cases file <;> rfl

theorem redigestLine_of_ne {name digest : String} {line : Bytes}
    (h : ∀ declared, declaration line ≠ some (declared, name)) :
    redigestLine name digest line = line := by
  rw [redigestLine, if_neg]
  intro hany
  cases hdeclared : declaration line with
  | none => simp [hdeclared] at hany
  | some entry =>
      simp only [hdeclared, Option.any_some, decide_eq_true_eq] at hany
      exact h entry.1 (by rw [hdeclared, ← hany])

/-- A line that replaces another one, of the same length and cut at the same places. -/
structure KeepsShape (line replaced : Bytes) : Prop where
  length : replaced.length = line.length
  last : replaced.getLast? = line.getLast?
  front : 10 ∉ line.dropLast → 10 ∉ replaced.dropLast

/-- The new digest stands in the place of the old one. -/
theorem redigestLine_lineText {name declared digest : String} {tail : List Char}
    (hlength : (utf8 declared).length = 64)
    (h : declaration (utf8 (String.ofList ((lineText declared name).toList ++ tail))) =
      some (declared, name)) :
    redigestLine name digest (utf8 (String.ofList ((lineText declared name).toList ++ tail))) =
      utf8 (String.ofList ((lineText digest name).toList ++ tail)) := by
  have hfront : ∀ front : String, utf8 (String.ofList ((lineText front name).toList ++ tail)) =
      utf8 front ++ utf8 (String.ofList (' ' :: ' ' :: name.toList ++ tail)) := by
    intro front
    rw [← utf8_append]
    congr 1
    apply String.toList_inj.mp
    simp [toList_lineText]
  rw [redigestLine, h]
  simp only [Option.any_some, decide_true, if_true]
  rw [hfront declared, hfront digest, List.drop_left' hlength]

theorem keepsShape_redigestLine {name : String} {digest : Digest} {line : Bytes}
    (h : ∀ declared, declaration line = some (declared, name) → (utf8 declared).length = 64) :
    KeepsShape line (redigestLine name digest.hex line) := by
  by_cases hname : ∃ declared, declaration line = some (declared, name)
  · obtain ⟨declared, hdeclared⟩ := hname
    have hlength := h declared hdeclared
    obtain ⟨tail, -, rfl⟩ := exists_tail_of_declaration hdeclared
    rw [redigestLine_lineText hlength hdeclared]
    -- both lines end with the name and what follows it
    obtain ⟨rest, hrest, hlines⟩ : ∃ rest : Bytes, rest ≠ [] ∧ ∀ front : String,
        utf8 (String.ofList ((lineText front name).toList ++ tail)) = utf8 front ++ rest := by
      refine ⟨utf8 "  " ++ utf8 (String.ofList (name.toList ++ tail)), ?_, ?_⟩
      · exact List.append_ne_nil_of_left_ne_nil (by decide) _
      · intro front
        rw [← utf8_append, ← utf8_append]
        congr 1
        apply String.toList_inj.mp
        simp [lineText]
    have hhex : 10 ∉ utf8 digest.hex := by
      intro hmem
      exact absurd (Digest.isLowerHex_of_mem_hex hmem) (by decide)
    simp only [hlines]
    constructor
    case length => simp only [List.length_append, hlength, Digest.length_hex]
    case last => simp only [List.getLast?_append_of_ne_nil _ hrest]
    case front =>
      simp only [List.dropLast_append_of_ne_nil hrest, List.mem_append, not_or]
      intro hfront
      exact ⟨hhex, hfront.2⟩
  · rw [redigestLine_of_ne fun declared hdeclared => hname ⟨declared, hdeclared⟩]
    exact ⟨rfl, rfl, id⟩

/-! ## The loop -/

section

variable {hash : Bytes → Digest} {root : BundleRoot} {payloads : SortedMap String Bytes}
  {file : StagedFile} {content : Bytes}

/-- The step of the loop on a line of the original inventory, and on the line that
replaces it. -/
theorem checkLine_redigest (hunlimited : retainedLimit file.display = none)
    (hkeys : ∀ key ∈ payloads.keys, ∃ names bytes,
      root.HasPayload names bytes ∧ utf8 key = relativePath names)
    {progress progress' : Progress} {line : Bytes}
    (h : checkLine hash root payloads progress line = .ok progress') :
    checkLine hash (root.withPayload hash file content) payloads
        (progress.redigest file.display (hash content).hex)
        (redigestLine file.display (hash content).hex line) =
      .ok (progress'.redigest file.display (hash content).hex) ∧
    KeepsShape line (redigestLine file.display (hash content).hex line) := by
  simp only [checkLine, bind_eq_ok_iff, orReject_eq_ok, rejectIf_eq_ok] at h
  obtain ⟨text, htext, -, htotal, -, hbounded, hentry⟩ := h
  split at hentry
  · rename_i hblank
    rw [pure_eq_ok_iff] at hentry
    have hnone : declaration line = none := by simp [declaration, htext, hblank]
    -- a blank line declares nothing and stays as it is
    rw [redigestLine_of_ne (by simp [hnone])]
    refine ⟨?_, rfl, rfl, id⟩
    simp only [checkLine, bind_eq_ok_iff, orReject_eq_ok, rejectIf_eq_ok]
    refine ⟨text, htext, (), htotal, (), hbounded, ?_⟩
    rw [if_pos hblank, pure_eq_ok_iff, ← hentry]
    rfl
  · rename_i hblank
    simp only [checkEntry, bind_eq_ok_iff, rejectIf_eq_ok, pure_eq_ok_iff, Prod.exists,
      Decidable.not_not] at hentry
    obtain ⟨-, hcount, expected, relative, path, hparse, -, hfresh, -, hlisted, target, actual,
      bytes, hhash, -, htarget, -, hactual, rfl⟩ := hentry
    obtain ⟨hsplit, rfl⟩ := parseEntry_eq_ok hparse
    obtain ⟨hnames, found, hfound, habove, rfl, rfl⟩ := hashRegularFile_eq_ok.mp hhash
    obtain ⟨names, payload, hpayload, hutf8⟩ := hkeys relative (SortedMap.contains_iff.mp hlisted)
    obtain rfl : names = target := by
      rw [hutf8, entryNames_relativePath hpayload.ne_nil] at hnames
      exact Option.some.inj hnames
    have hdeclared : declaration line = some (expected, relative) := by
      simp [declaration, htext, hblank, hsplit]
    by_cases hname : relative = file.display
    · -- the line of the replaced payload
      subst hname
      obtain rfl : names = file.path := by
        rw [file.entryNames_display] at hnames
        exact (Option.some.inj hnames).symm
      have hlength : (utf8 expected).length = 64 := by
        rw [← hactual, Digest.length_hex]
      have hshape : KeepsShape line (redigestLine file.display (hash content).hex line) := by
        apply keepsShape_redigestLine
        intro declared hsame
        rw [hdeclared] at hsame
        rw [← (Prod.mk.inj (Option.some.inj hsame)).1, hlength]
      refine ⟨?_, hshape⟩
      have hsize := hshape.length
      obtain ⟨tail, htail, rfl⟩ := exists_tail_of_declaration hdeclared
      rw [redigestLine_lineText hlength hdeclared] at hsize ⊢
      have hhash' : hashRegularFile hash (root.withPayload hash file content)
          (utf8 file.display) file.display (retainedLimit file.display) =
          .ok (file.path, (hash content).hex, none) := by
        rw [hunlimited]
        exact hashRegularFile_eq_ok.mpr ⟨file.entryNames_display, content,
          lookup_withPayload_self ⟨_, hfound⟩, rfl, rfl, rfl⟩
      have hparse' := parseEntry_lineText (hash content)
        (normalizedRelativePath_display file) (by cases file <;> decide)
      simp only [checkLine, bind_eq_ok_iff, orReject_eq_ok, rejectIf_eq_ok]
      refine ⟨_, decodeUtf8_utf8 _, (), by rw [hsize]; exact htotal, (), by rw [hsize]; exact hbounded,
        ?_⟩
      rw [trimEndMatches_lineText file _ htail, isBlank_lineText, if_neg (by simp)]
      simp only [checkEntry, bind_eq_ok_iff, rejectIf_eq_ok, pure_eq_ok_iff, Prod.exists,
        Decidable.not_not]
      refine ⟨(), hcount, _, _, _, hparse', (), hfresh, (), hlisted, _, _, _, hhash', (), htarget,
        (), rfl, ?_⟩
      rw [hsize]
      simp [Progress.redigest, hunlimited]
    · -- another payload, which has not changed
      rw [redigestLine_of_ne (by simp [hdeclared, hname])]
      refine ⟨?_, rfl, rfl, id⟩
      have hpath : names ≠ file.path := by
        intro hsame
        rw [hsame, ← file.utf8_display] at hutf8
        exact hname (utf8_injective hutf8)
      have hhash' : hashRegularFile hash (root.withPayload hash file content) (utf8 relative)
          relative (retainedLimit relative) =
          .ok (names, (hash found).hex, (retainedLimit relative).map fun _ => found) :=
        hashRegularFile_eq_ok.mpr ⟨hnames, found,
          (lookup_withPayload_ne hpath hpayload.1).mpr hfound, habove, rfl, rfl⟩
      simp only [checkLine, bind_eq_ok_iff, orReject_eq_ok, rejectIf_eq_ok]
      refine ⟨text, htext, (), htotal, (), hbounded, ?_⟩
      rw [if_neg hblank]
      simp only [checkEntry, bind_eq_ok_iff, rejectIf_eq_ok, pure_eq_ok_iff, Prod.exists,
        Decidable.not_not]
      refine ⟨(), hcount, _, _, _, hparse, (), hfresh, (), hlisted, _, _, _, hhash', (), htarget,
        (), hactual, ?_⟩
      simp [Progress.redigest, hname]

/-- The whole loop, on the replaced lines. -/
theorem foldlM_checkLine_redigest (hunlimited : retainedLimit file.display = none)
    (hkeys : ∀ key ∈ payloads.keys, ∃ names bytes,
      root.HasPayload names bytes ∧ utf8 key = relativePath names)
    {lines : List Bytes} {progress progress' : Progress}
    (h : lines.foldlM (checkLine hash root payloads) progress = .ok progress') :
    (lines.map (redigestLine file.display (hash content).hex)).foldlM
        (checkLine hash (root.withPayload hash file content) payloads)
        (progress.redigest file.display (hash content).hex) =
      .ok (progress'.redigest file.display (hash content).hex) ∧
    ∀ line ∈ lines, KeepsShape line (redigestLine file.display (hash content).hex line) := by
  induction lines generalizing progress with
  | nil =>
      simp only [List.foldlM_nil, pure_eq_ok_iff] at h
      subst h
      simp
  | cons line rest ih =>
      simp only [List.foldlM_cons, bind_eq_ok_iff] at h
      obtain ⟨next, hnext, hrest⟩ := h
      obtain ⟨hstep, hshape⟩ :=
        @checkLine_redigest hash root payloads file content hunlimited hkeys _ _ _ hnext
      obtain ⟨hloop, hshapes⟩ := ih hrest
      constructor
      · simp only [List.map_cons, List.foldlM_cons, bind_eq_ok_iff]
        exact ⟨_, hstep, hloop⟩
      · exact List.forall_mem_cons.mpr ⟨hshape, hshapes⟩

/-- The replaced inventory has the lines that replace those of the original. -/
theorem splitInclusive_redigestSums {name digest : String} {sums : Bytes}
    (h : ∀ line ∈ splitInclusive 10 sums, KeepsShape line (redigestLine name digest line)) :
    splitInclusive 10 (redigestSums name digest sums) =
        (splitInclusive 10 sums).map (redigestLine name digest) ∧
      (redigestSums name digest sums).length = sums.length := by
  constructor
  -- a line of the same length that ends in the same way is still one line
  · apply splitInclusive_flatten_pieces
    · intro line hline
      obtain ⟨old, hold, rfl⟩ := List.mem_map.mp hline
      intro hnil
      have hlength := (h old hold).length
      rw [hnil, List.length_nil] at hlength
      exact ne_nil_of_mem_splitInclusive hold (List.length_eq_zero_iff.mp hlength.symm)
    · intro line hline
      obtain ⟨old, hold, rfl⟩ := List.mem_map.mp hline
      exact (h old hold).front (not_mem_dropLast_of_mem_splitInclusive hold)
    · intro line hline
      rw [← List.map_dropLast] at hline
      obtain ⟨old, hold, rfl⟩ := List.mem_map.mp hline
      rw [(h old (List.mem_of_mem_dropLast hold)).last]
      exact getLast?_of_mem_dropLast_splitInclusive hold
  · have hlengths : ((splitInclusive 10 sums).map (redigestLine name digest)).map List.length =
        (splitInclusive 10 sums).map List.length := by
      rw [List.map_map]
      exact List.map_congr_left fun line hline => (h line hline).length
    rw [redigestSums, List.length_flatten, hlengths, ← List.length_flatten,
      flatten_splitInclusive]

/-- The reader goes through the inventory of the replaced bundle. -/
theorem readInventory_withPayload (hunlimited : retainedLimit file.display = none)
    {progress : Progress} (h : readInventory hash root = .ok (payloads, progress)) :
    readInventory hash (root.withPayload hash file content) =
      .ok (payloads, progress.redigest file.display (hash content).hex) := by
  obtain ⟨_, hreads⟩ := readInventory_reads h
  obtain ⟨walk, sums, hwalk, hpayloads, hsums, hlength, hloop⟩ := readInventory_eq_ok.mp h
  obtain ⟨hloop', hshapes⟩ := @foldlM_checkLine_redigest hash root payloads file content
    hunlimited (fun key hkey => (hreads.keys key).mp hkey) _ _ _ hloop
  obtain ⟨hsplit, hsize⟩ := splitInclusive_redigestSums hshapes
  refine readInventory_eq_ok.mpr ⟨walk, _, ?_, hpayloads, lookup_withPayload_sums hsums, ?_, ?_⟩
  · rw [BundleRoot.withPayload, gatherDirectory_mapFiles]
    exact hwalk
  · rw [hsize]
    exact hlength
  · rw [hsplit]
    exact hloop'

/-- The digests of the replaced bundle. -/
theorem lookup_digests_redigest {name digest : String} {progress : Progress} {declared : String}
    (h : progress.digests.lookup name = some declared) :
    (progress.redigest name digest).digests.lookup name = some digest := by
  obtain ⟨before, after, hsplit, hbefore⟩ := List.lookup_eq_some_iff.mp h
  refine List.lookup_eq_some_iff.mpr ⟨before.map fun entry =>
    if entry.1 = name then (name, digest) else entry, after.map fun entry =>
    if entry.1 = name then (name, digest) else entry, ?_, ?_⟩
  · simp [Progress.redigest, hsplit]
  · intro entry hentry
    obtain ⟨old, hold, rfl⟩ := List.mem_map.mp hentry
    have hne : old.1 ≠ name := by
      intro hsame
      have hdiffers := hbefore old hold
      simp [hsame] at hdiffers
    simpa [hne] using hbefore old hold

end

end Benchplane
