import Benchplane.Evidence.Inventory

/-!
# What an accepted inventory says about the tree

The walk finds exactly the regular files outside the root's `SHA256SUMS` and
meets nothing but files and directories.  The loop accepts a line only for a
payload of the walk whose bytes have the declared digest, and never the same
name twice.  Together with the check for missing payloads the declarations of
the file are the payloads of the tree.
-/

namespace Benchplane

open Library

/-! ## Names of the walk -/

theorem utf8_of_normalizedRelativePath {names : List FileName} (h : names ≠ []) {text : String}
    (hok : normalizedRelativePath (relativePath names) = .ok text) :
    utf8 text = relativePath names := by
  have hcomponents : normalComponents (components (relativePath names)) =
      some (names.map FileName.bytes) := by
    rw [components_relativePath h, normalComponents_map_normal]
  unfold normalizedRelativePath at hok
  rw [hcomponents] at hok
  split at hok
  · contradiction
  · cases htexts : (names.map FileName.bytes).mapM decodeUtf8 with
    | none => simp [htexts] at hok
    | some texts =>
        simp only [htexts, Except.ok.injEq] at hok
        rw [← hok, utf8_intercalate, map_utf8_of_mapM_decodeUtf8 htexts]
        rfl

/-- The entries the walk does not look at: the root's `SHA256SUMS`. -/
def IsSkipped (parent : List FileName) (name : FileName) : Prop :=
  parent = [] ∧ name = checksumFileName

instance (parent : List FileName) (name : FileName) : Decidable (IsSkipped parent name) := by
  unfold IsSkipped
  infer_instance

theorem isSkipped_iff {parent : List FileName} {name : FileName} {text : String}
    (h : utf8 text = relativePath (parent ++ [name])) :
    text = "SHA256SUMS" ↔ IsSkipped parent name := by
  have hname : utf8 "SHA256SUMS" = relativePath [checksumFileName] := by
    simp [relativePath, joinComponents, checksumFileName]
  constructor
  · rintro rfl
    have hpath : parent ++ [name] = [] ++ [checksumFileName] :=
      relativePath_injective (by simp) (by simp) (h.symm.trans hname)
    obtain ⟨hparent, hlast⟩ := List.append_inj' hpath rfl
    exact ⟨hparent, (List.cons.inj hlast).1⟩
  · rintro ⟨rfl, rfl⟩
    exact utf8_injective (h.trans hname.symm)

/-- What one visited entry costs and how it is named. -/
theorem visitEntry_eq_ok {parent : List FileName} {name : FileName} {walk walk' : Walk}
    {display : Option String} (h : visitEntry parent name walk = .ok (walk', display)) :
    walk' = { walk with entriesSeen := walk.entriesSeen + 1 } ∧
      walk'.entriesSeen ≤ maxChecksumEntries ∧
      ∃ text, normalizedRelativePath (relativePath (parent ++ [name])) = .ok text ∧
        utf8 text = relativePath (parent ++ [name]) ∧
        display = if IsSkipped parent name then none else some text := by
  simp only [visitEntry, bind_eq_ok_iff, rejectIf_eq_ok, pure_eq_ok_iff, Prod.mk.injEq] at h
  obtain ⟨-, hcount, text, htext, hwalk, hdisplay⟩ := h
  have hutf8 := utf8_of_normalizedRelativePath (by simp) htext
  refine ⟨hwalk.symm, ?_, text, htext, hutf8, ?_⟩
  · rw [← hwalk]
    exact not_lt.mp hcount
  · rw [← hdisplay]
    exact if_congr (isSkipped_iff hutf8) rfl rfl

/-- The part of a directory the walk looks at. -/
def walked (parent : List FileName) (d : Directory) : Directory :=
  if parent = [] then d.erase checksumFileName else d

@[simp] theorem walked_empty (parent : List FileName) : walked parent .empty = .empty := by
  simp [walked, Directory.erase]

theorem walked_entry_of_isSkipped {parent : List FileName} {name : FileName}
    (h : IsSkipped parent name) (node : Node) (rest : Directory) :
    walked parent (.entry name node rest) = walked parent rest := by
  simp [walked, h.1, Directory.erase, h.2]

theorem walked_entry_of_not_isSkipped {parent : List FileName} {name : FileName}
    (h : ¬ IsSkipped parent name) (node : Node) (rest : Directory) :
    walked parent (.entry name node rest) = .entry name node (walked parent rest) := by
  by_cases hparent : parent = []
  · have hname : name ≠ checksumFileName := fun hname => h ⟨hparent, hname⟩
    simp [walked, hparent, Directory.erase, hname]
  · simp [walked, hparent]

@[simp] theorem walked_append_singleton (parent : List FileName) (name : FileName)
    (d : Directory) : walked (parent ++ [name]) d = d := by
  simp [walked]

/-- What a finished walk has found. -/
structure WalkFinds (parent : List FileName) (d : Directory) (walk walk' : Walk) : Prop where
  plain : (walked parent d).Plain
  keys : ∀ key, key ∈ walk'.payloads.keys ↔
    key ∈ walk.payloads.keys ∨
      ∃ file ∈ (walked parent d).files, utf8 key = relativePath (parent ++ file.1)
  named : ∀ file ∈ (walked parent d).files, ∃ key,
    normalizedRelativePath (relativePath (parent ++ file.1)) = .ok key
  keyed : (∀ entry ∈ walk.payloads.entries, entry.2 = utf8 entry.1) →
    ∀ entry ∈ walk'.payloads.entries, entry.2 = utf8 entry.1

theorem WalkFinds.skip {parent : List FileName} {name : FileName} {node : Node}
    {rest : Directory} {walk counted walk' : Walk} (hskip : IsSkipped parent name)
    (hcounted : counted.payloads = walk.payloads) (h : WalkFinds parent rest counted walk') :
    WalkFinds parent (.entry name node rest) walk walk' := by
  have hwalked := walked_entry_of_isSkipped hskip node rest
  exact ⟨hwalked ▸ h.plain, by rw [hwalked, ← hcounted]; exact h.keys, hwalked ▸ h.named,
    hcounted ▸ h.keyed⟩

/-- The walk finds the regular files and meets only files and directories. -/
theorem gatherDirectory_finds {parent : List FileName} {d : Directory} {walk walk' : Walk}
    (h : gatherDirectory parent d walk = .ok walk') : WalkFinds parent d walk walk' := by
  -- on the entries of the tree; every case looks at the entry first, which may be the
  -- inventory itself and is skipped then
  induction d using Directory.treeInduction generalizing parent walk walk' with
  | empty =>
      obtain rfl : walk = walk' := by simpa [gatherDirectory] using h
      constructor <;> simp [Directory.Plain, Directory.files]
  | file name content rest ih =>
      simp only [gatherDirectory, bind_eq_ok_iff] at h
      obtain ⟨⟨counted, display⟩, hvisit, hrest⟩ := h
      obtain ⟨hcounted, -, text, hnormalized, htext, rfl⟩ := visitEntry_eq_ok hvisit
      by_cases hskip : IsSkipped parent name
      · simp only [if_pos hskip] at hrest
        exact (ih hrest).skip hskip (by rw [hcounted])
      · simp only [if_neg hskip] at hrest
        obtain ⟨hplain, hkeys, hnamed, hkeyed⟩ := ih hrest
        have hwalked := walked_entry_of_not_isSkipped hskip (.file content) rest
        refine ⟨by rw [hwalked]; exact hplain, fun key => ?_, ?_, fun hold => hkeyed ?_⟩
        · rw [hkeys, SortedMap.mem_keys_insert, hwalked, Directory.files, hcounted]
          have hkey : key = text ↔ utf8 key = relativePath (parent ++ [name]) :=
            ⟨fun heq => heq ▸ htext, fun heq => utf8_injective (heq.trans htext.symm)⟩
          simp only [List.mem_cons, exists_eq_or_imp, hkey]
          tauto
        · rw [hwalked, Directory.files]
          intro file hfile
          rcases List.mem_cons.mp hfile with rfl | hmem
          · exact ⟨text, hnormalized⟩
          · exact hnamed file hmem
        · intro entry hentry
          rcases SortedMap.mem_entries_insert.mp hentry with rfl | ⟨-, hmem⟩
          · exact htext.symm
          · rw [hcounted] at hmem
            exact hold entry hmem
  | directory name children rest ihChildren ihRest =>
      simp only [gatherDirectory, bind_eq_ok_iff] at h
      obtain ⟨⟨counted, display⟩, hvisit, hrest⟩ := h
      obtain ⟨hcounted, -, text, hnormalized, htext, rfl⟩ := visitEntry_eq_ok hvisit
      by_cases hskip : IsSkipped parent name
      · simp only [if_pos hskip] at hrest
        exact (ihRest hrest).skip hskip (by rw [hcounted])
      · simp only [if_neg hskip, bind_eq_ok_iff] at hrest
        obtain ⟨inner, hinner, hrest⟩ := hrest
        obtain ⟨hplainChildren, hkeysChildren, hnamedChildren, hkeyedChildren⟩ :=
          ihChildren hinner
        obtain ⟨hplain, hkeys, hnamed, hkeyed⟩ := ihRest hrest
        rw [walked_append_singleton] at hplainChildren hkeysChildren hnamedChildren
        have hwalked := walked_entry_of_not_isSkipped hskip (.directory children) rest
        -- the children are found below the name of their directory
        have hpath : ∀ names : List FileName,
            (parent ++ [name]) ++ names = parent ++ (name :: names) := by simp
        refine ⟨by rw [hwalked]; exact ⟨hplainChildren, hplain⟩, fun key => ?_, ?_,
          fun hold => hkeyed (hkeyedChildren (by rw [hcounted]; exact hold))⟩
        · rw [hkeys, hkeysChildren, hwalked, Directory.files, hcounted]
          simp only [List.mem_append, List.mem_map, or_and_right, exists_or,
            exists_exists_and_eq_and, hpath, or_assoc]
        · rw [hwalked, Directory.files]
          intro file hfile
          rcases List.mem_append.mp hfile with hmem | hmem
          · obtain ⟨child, hchild, rfl⟩ := List.mem_map.mp hmem
            obtain ⟨key, hkey⟩ := hnamedChildren child hchild
            exact ⟨key, by rw [← hpath]; exact hkey⟩
          · exact hnamed file hmem
  | symlink name resolves rest ih =>
      simp only [gatherDirectory, bind_eq_ok_iff] at h
      obtain ⟨⟨counted, display⟩, hvisit, hrest⟩ := h
      obtain ⟨hcounted, -, text, hnormalized, htext, rfl⟩ := visitEntry_eq_ok hvisit
      by_cases hskip : IsSkipped parent name
      · simp only [if_pos hskip] at hrest
        exact (ih hrest).skip hskip (by rw [hcounted])
      -- the walk refuses a symbolic link
      · simp [if_neg hskip] at hrest
  | special name rest ih =>
      simp only [gatherDirectory, bind_eq_ok_iff] at h
      obtain ⟨⟨counted, display⟩, hvisit, hrest⟩ := h
      obtain ⟨hcounted, -, text, hnormalized, htext, rfl⟩ := visitEntry_eq_ok hvisit
      by_cases hskip : IsSkipped parent name
      · simp only [if_pos hskip] at hrest
        exact (ih hrest).skip hskip (by rw [hcounted])
      -- and a special file
      · simp [if_neg hskip] at hrest

/-- The entries the walk counts without looking at them. -/
def skippedCount (parent : List FileName) (d : Directory) : Nat :=
  (d.names.filter fun name => IsSkipped parent name).length

/-- How far a finished walk has counted: to one for each entry it met, and never
above the limit. -/
structure WalkCounts (parent : List FileName) (d : Directory) (walk walk' : Walk) : Prop where
  count : walk'.entriesSeen =
    walk.entriesSeen + (walked parent d).entryCount + skippedCount parent d
  bound : walk.entriesSeen ≤ maxChecksumEntries → walk'.entriesSeen ≤ maxChecksumEntries

theorem WalkCounts.skip {parent : List FileName} {name : FileName} {node : Node}
    {rest : Directory} {walk counted walk' : Walk} (hskip : IsSkipped parent name)
    (hcounted : counted = { walk with entriesSeen := walk.entriesSeen + 1 })
    (hbound : counted.entriesSeen ≤ maxChecksumEntries)
    (h : WalkCounts parent rest counted walk') :
    WalkCounts parent (.entry name node rest) walk walk' := by
  have hcount := h.count
  refine ⟨?_, fun _ => h.bound hbound⟩
  rw [walked_entry_of_isSkipped hskip]
  simp only [skippedCount, Directory.names, hskip, decide_true, List.filter_cons_of_pos,
    List.length_cons] at hcount ⊢
  rw [hcounted] at hcount
  dsimp only at hcount
  omega

theorem skippedCount_entry_of_not_isSkipped {parent : List FileName} {name : FileName}
    (h : ¬ IsSkipped parent name) (node : Node) (rest : Directory) :
    skippedCount parent (.entry name node rest) = skippedCount parent rest := by
  simp [skippedCount, Directory.names, h]

theorem skippedCount_append_singleton (parent : List FileName) (name : FileName)
    (d : Directory) : skippedCount (parent ++ [name]) d = 0 := by
  simp [skippedCount, IsSkipped]

theorem gatherDirectory_counts {parent : List FileName} {d : Directory} {walk walk' : Walk}
    (h : gatherDirectory parent d walk = .ok walk') : WalkCounts parent d walk walk' := by
  -- an entry is counted before it is skipped or refused
  induction d using Directory.treeInduction generalizing parent walk walk' with
  | empty =>
      obtain rfl : walk = walk' := by simpa [gatherDirectory] using h
      exact ⟨by simp [skippedCount, Directory.names, Directory.entryCount], fun h => h⟩
  | file name content rest ih =>
      simp only [gatherDirectory, bind_eq_ok_iff] at h
      obtain ⟨⟨counted, display⟩, hvisit, hrest⟩ := h
      obtain ⟨hcounted, hbound, text, -, htext, rfl⟩ := visitEntry_eq_ok hvisit
      by_cases hskip : IsSkipped parent name
      · simp only [if_pos hskip] at hrest
        exact (ih hrest).skip hskip hcounted hbound
      · simp only [if_neg hskip] at hrest
        obtain ⟨hcount, hrestBound⟩ := ih hrest
        refine ⟨?_, fun _ => hrestBound hbound⟩
        rw [walked_entry_of_not_isSkipped hskip, skippedCount_entry_of_not_isSkipped hskip,
          Directory.entryCount, hcount, hcounted]
        dsimp only
        omega
  | directory name children rest ihChildren ihRest =>
      simp only [gatherDirectory, bind_eq_ok_iff] at h
      obtain ⟨⟨counted, display⟩, hvisit, hrest⟩ := h
      obtain ⟨hcounted, hbound, text, -, htext, rfl⟩ := visitEntry_eq_ok hvisit
      by_cases hskip : IsSkipped parent name
      · simp only [if_pos hskip] at hrest
        exact (ihRest hrest).skip hskip hcounted hbound
      · simp only [if_neg hskip, bind_eq_ok_iff] at hrest
        obtain ⟨inner, hinner, hrest⟩ := hrest
        obtain ⟨hinnerCount, hinnerBound⟩ := ihChildren hinner
        obtain ⟨hcount, hrestBound⟩ := ihRest hrest
        rw [walked_append_singleton, skippedCount_append_singleton] at hinnerCount
        refine ⟨?_, fun _ => hrestBound (hinnerBound hbound)⟩
        rw [walked_entry_of_not_isSkipped hskip, skippedCount_entry_of_not_isSkipped hskip,
          Directory.entryCount, hcount, hinnerCount, hcounted]
        dsimp only
        omega
  | symlink name resolves rest ih =>
      simp only [gatherDirectory, bind_eq_ok_iff] at h
      obtain ⟨⟨counted, display⟩, hvisit, hrest⟩ := h
      obtain ⟨hcounted, hbound, text, -, htext, rfl⟩ := visitEntry_eq_ok hvisit
      by_cases hskip : IsSkipped parent name
      · simp only [if_pos hskip] at hrest
        exact (ih hrest).skip hskip hcounted hbound
      · simp [if_neg hskip] at hrest
  | special name rest ih =>
      simp only [gatherDirectory, bind_eq_ok_iff] at h
      obtain ⟨⟨counted, display⟩, hvisit, hrest⟩ := h
      obtain ⟨hcounted, hbound, text, -, htext, rfl⟩ := visitEntry_eq_ok hvisit
      by_cases hskip : IsSkipped parent name
      · simp only [if_pos hskip] at hrest
        exact (ih hrest).skip hskip hcounted hbound
      · simp [if_neg hskip] at hrest

/-- The payloads of a root: the paths of its regular files but `SHA256SUMS`. -/
def BundleRoot.HasPayload (root : BundleRoot) (names : List FileName) (content : Bytes) : Prop :=
  names ≠ [checksumFileName] ∧ root.tree.lookup names = some (.file content)

theorem BundleRoot.HasPayload.ne_nil {root : BundleRoot} {names : List FileName}
    {content : Bytes} (h : root.HasPayload names content) : names ≠ [] := by
  rintro rfl
  simp [HasPayload] at h

/-- The walked files of a root are its payloads, `SHA256SUMS` being a file. -/
theorem mem_files_walked {root : BundleRoot} {sums : Bytes}
    (hsums : root.tree.lookup [checksumFileName] = some (.file sums))
    {names : List FileName} {content : Bytes} :
    (names, content) ∈ (walked [] root.tree).files ↔ root.HasPayload names content := by
  simp only [walked, if_pos]
  rw [Directory.mem_files_iff (root.distinct.erase _)]
  unfold BundleRoot.HasPayload
  cases names with
  | nil => simp
  | cons name rest =>
      by_cases hname : name = checksumFileName
      · subst hname
        rw [Directory.lookup_erase_self]
        have hbelow : rest ≠ [] → root.tree.lookup (checksumFileName :: rest) = none := by
          intro hrest
          obtain ⟨next, rest, rfl⟩ := List.exists_cons_of_ne_nil hrest
          rw [Directory.lookup_singleton] at hsums
          rw [Directory.lookup_cons, hsums]
          rfl
        by_cases hrest : rest = []
        · simp [hrest]
        · simp [hbelow hrest]
      · rw [Directory.lookup_erase_ne hname]
        simp [hname]

/-! ## The loop -/

theorem checkedRegularPath_eq_ok {root : BundleRoot} {relative : Bytes} {display : String}
    {names : List FileName} :
    checkedRegularPath root relative display = .ok names ↔
      entryNames relative = some names ∧
        ∃ content, root.tree.lookup names = some (.file content) := by
  unfold checkedRegularPath
  constructor
  · intro h
    split at h
    · contradiction
    · rename_i found hfound
      split at h
      · contradiction
      · rename_i content hcontent
        obtain rfl := Except.ok.inj h
        exact ⟨hfound, content, hcontent⟩
      · contradiction
  · rintro ⟨hnames, content, hcontent⟩
    simp [hnames, hcontent]

theorem readFile_eq_ok {root : BundleRoot} {names : List FileName} {content : Bytes} :
    readFile root names = .ok content ↔ root.tree.lookup names = some (.file content) := by
  unfold readFile
  split
  · rename_i found hfound
    simp [hfound]
  · rename_i hne
    simp only [reduceCtorEq, false_iff]
    exact fun h => hne content h

section

variable {hash : Bytes → Digest} {root : BundleRoot} {payloads : SortedMap String Bytes}

theorem hashRegularFile_eq_ok {relative : Bytes} {display : String} {limit : Option Nat}
    {names : List FileName} {digest : String} {bytes : Option Bytes} :
    hashRegularFile hash root relative display limit = .ok (names, digest, bytes) ↔
      entryNames relative = some names ∧ ∃ content,
        root.tree.lookup names = some (.file content) ∧
        isAbove limit content.length = false ∧
        digest = (hash content).hex ∧ bytes = limit.map fun _ => content := by
  simp only [hashRegularFile, bind_eq_ok_iff, checkedRegularPath_eq_ok, readFile_eq_ok,
    rejectIf_eq_ok, pure_eq_ok_iff, Prod.mk.injEq, Bool.not_eq_true]
  constructor
  · rintro ⟨found, ⟨hentry, -⟩, content, hcontent, -, habove, rfl, rfl, rfl⟩
    exact ⟨hentry, content, hcontent, habove, rfl, rfl⟩
  · rintro ⟨hentry, content, hcontent, habove, rfl, rfl⟩
    exact ⟨names, ⟨hentry, content, hcontent⟩, content, hcontent, (), habove, rfl, rfl, rfl⟩

/-- The digest and the name a line declares; a blank line declares nothing. -/
def declaration (line : Bytes) : Option (String × String) :=
  (decodeUtf8 line).bind fun text =>
    let text := trimEndMatches ['\r', '\n'] text
    if isBlank text then none else splitOnceText "  " text

/-- The declarations of a `SHA256SUMS`. -/
def declarations (content : Bytes) : List (String × String) :=
  (splitInclusive 10 content).filterMap declaration

/-- What the accepted lines have established. -/
structure LoopAccepts (hash : Bytes → Digest) (root : BundleRoot)
    (payloads : SortedMap String Bytes) (lines : List Bytes) (progress : Progress) : Prop where
  declared : lines.filterMap declaration = (progress.digests.map Prod.swap).reverse
  names : progress.names = progress.digests.map Prod.fst
  nodup : progress.names.Nodup
  listed : ∀ name ∈ progress.names, name ∈ payloads.keys
  hashed : ∀ entry ∈ progress.digests, ∃ names content, root.HasPayload names content ∧
    utf8 entry.1 = relativePath names ∧ entry.2 = (hash content).hex
  kept : ∀ name ∈ progress.names, ∀ limit, retainedLimit name = some limit →
    ∃ bytes, (name, bytes) ∈ progress.retained
  retained : ∀ entry ∈ progress.retained, entry.1 ∈ progress.names ∧
    ∃ names, root.HasPayload names entry.2 ∧ utf8 entry.1 = relativePath names ∧
      ∃ limit, retainedLimit entry.1 = some limit ∧ entry.2.length ≤ limit

theorem LoopAccepts.start : LoopAccepts hash root payloads [] Progress.start := by
  constructor <;> simp [Progress.start]

/-- A line that declares nothing. -/
theorem LoopAccepts.blank {lines : List Bytes} {line : Bytes} {progress : Progress} (total : Nat)
    (h : LoopAccepts hash root payloads lines progress) (hline : declaration line = none) :
    LoopAccepts hash root payloads (lines ++ [line]) { progress with totalBytes := total } := by
  refine ⟨?_, h.names, h.nodup, h.listed, h.hashed, h.kept, h.retained⟩
  simpa [hline] using h.declared

theorem parseEntry_eq_ok {line expected relative : String} {path : Bytes}
    (h : parseEntry line = .ok (expected, relative, path)) :
    splitOnceText "  " line = some (expected, relative) ∧ path = utf8 relative := by
  simp only [parseEntry, bind_eq_ok_iff, orReject_eq_ok, rejectIf_eq_ok, pure_eq_ok_iff,
    Prod.mk.injEq, Prod.exists] at h
  obtain ⟨expected', relative', hsplit, -, -, path', hpath, -, -, -, -, rfl, rfl, rfl⟩ := h
  refine ⟨hsplit, ?_⟩
  unfold validateRelativePath at hpath
  split at hpath
  · contradiction
  · exact (Except.ok.inj hpath).symm

/-- The step of the loop. -/
theorem checkLine_accepts
    (hpayloads : ∀ key ∈ payloads.keys, ∃ names content,
      root.HasPayload names content ∧ utf8 key = relativePath names)
    {lines : List Bytes} {line : Bytes} {progress progress' : Progress}
    (h : LoopAccepts hash root payloads lines progress)
    (hline : checkLine hash root payloads progress line = .ok progress') :
    LoopAccepts hash root payloads (lines ++ [line]) progress' := by
  simp only [checkLine, bind_eq_ok_iff, orReject_eq_ok, rejectIf_eq_ok] at hline
  obtain ⟨text, htext, -, -, -, -, hentry⟩ := hline
  split at hentry
  · rename_i hblank
    rw [pure_eq_ok_iff] at hentry
    have hnone : declaration line = none := by simp [declaration, htext, hblank]
    exact hentry ▸ h.blank _ hnone
  · rename_i hblank
    simp only [checkEntry, bind_eq_ok_iff, rejectIf_eq_ok, pure_eq_ok_iff, Prod.exists,
      Decidable.not_not, SortedMap.contains_iff] at hentry
    obtain ⟨-, -, expected, relative, path, hparse, -, hfresh, -, hlisted, target, actual, bytes,
      hhash, -, -, -, hactual, rfl⟩ := hentry
    obtain ⟨hsplit, rfl⟩ := parseEntry_eq_ok hparse
    obtain ⟨hentryNames, content, hcontent, habove, rfl, rfl⟩ := hashRegularFile_eq_ok.mp hhash
    -- the file that was hashed is the payload that the walk has found
    obtain ⟨names, found, hpayload, hutf8⟩ := hpayloads relative hlisted
    rw [hutf8, entryNames_relativePath hpayload.ne_nil] at hentryNames
    obtain rfl : names = target := Option.some.inj hentryNames
    obtain rfl : found = content := by
      have hfound := hpayload.2
      rw [hcontent] at hfound
      simpa using hfound.symm
    have hdeclared : declaration line = some (expected, relative) := by
      simp [declaration, htext, hblank, hsplit]
    constructor
    · simp [hdeclared, h.declared, hactual]
    · simp [h.names]
    · exact List.nodup_cons.mpr ⟨hfresh, h.nodup⟩
    · intro name hname
      rcases List.mem_cons.mp hname with rfl | hmem
      · exact hlisted
      · exact h.listed name hmem
    · intro entry hmem
      rcases List.mem_cons.mp hmem with rfl | hmem
      · exact ⟨names, found, hpayload, hutf8, rfl⟩
      · exact h.hashed entry hmem
    · intro name hname limit hlimit
      rcases List.mem_cons.mp hname with rfl | hmem
      · exact ⟨found, by simp [hlimit]⟩
      · obtain ⟨bytes, hbytes⟩ := h.kept name hmem limit hlimit
        refine ⟨bytes, ?_⟩
        cases hrelative : retainedLimit relative <;> simp [hbytes]
    · intro entry hmem
      have hcase : entry ∈ progress.retained ∨
          ∃ limit, retainedLimit relative = some limit ∧ entry = (relative, found) := by
        cases hrelative : retainedLimit relative with
        | none => simpa [hrelative] using hmem
        | some limit => simpa [hrelative, or_comm] using hmem
      -- the content is kept for the files that have a limit
      rcases hcase with hold | ⟨limit, hlimit, rfl⟩
      · obtain ⟨hname, hrest⟩ := h.retained entry hold
        exact ⟨List.mem_cons_of_mem _ hname, hrest⟩
      · refine ⟨List.mem_cons_self, names, hpayload, hutf8, limit, hlimit, ?_⟩
        simpa [isAbove, hlimit] using habove

/-- The whole loop. -/
theorem foldlM_checkLine_accepts
    (hpayloads : ∀ key ∈ payloads.keys, ∃ names content,
      root.HasPayload names content ∧ utf8 key = relativePath names)
    {lines : List Bytes} {progress : Progress}
    (h : lines.foldlM (checkLine hash root payloads) Progress.start = .ok progress) :
    LoopAccepts hash root payloads lines progress :=
  foldlM_invariant (fun _ _ _ _ hdone hstep => checkLine_accepts hpayloads hdone hstep)
    LoopAccepts.start h

/-- What the walk and the loop have established when both went through. -/
structure ReadsInventory (hash : Bytes → Digest) (root : BundleRoot)
    (payloads : SortedMap String Bytes) (progress : Progress) (sums : Bytes) : Prop where
  file : root.tree.lookup [checksumFileName] = some (.file sums)
  plain : root.tree.Plain
  keys : ∀ key, key ∈ payloads.keys ↔
    ∃ names content, root.HasPayload names content ∧ utf8 key = relativePath names
  named : ∀ names content, root.HasPayload names content → ∃ key,
    normalizedRelativePath (relativePath names) = .ok key
  loop : LoopAccepts hash root payloads (splitInclusive 10 sums) progress

/-- The walk and the loop, with the `SHA256SUMS` they have read. -/
theorem readInventory_eq_ok {progress : Progress} :
    readInventory hash root = .ok (payloads, progress) ↔
      ∃ walk sums, gatherDirectory [] root.tree ⟨.empty, 0⟩ = .ok walk ∧
        walk.payloads = payloads ∧ root.tree.lookup [checksumFileName] = some (.file sums) ∧
        sums.length ≤ maxChecksumFileBytes ∧
        (splitInclusive 10 sums).foldlM (checkLine hash root payloads) Progress.start =
          .ok progress := by
  have hsumsName : entryNames (utf8 "SHA256SUMS") = some [checksumFileName] := by
    have hpath : relativePath [checksumFileName] = utf8 "SHA256SUMS" := by
      simp [relativePath, joinComponents, checksumFileName]
    rw [← hpath]
    exact entryNames_relativePath (by simp)
  simp only [readInventory, gatherPayloadPaths, bind_eq_ok_iff, pure_eq_ok_iff,
    checkedRegularPath_eq_ok, readFile_eq_ok, rejectIf_eq_ok, Prod.mk.injEq, hsumsName,
    Option.some.injEq, not_lt]
  constructor
  · rintro ⟨_, ⟨walk, hwalk, rfl⟩, _, ⟨rfl, -⟩, sums, hsums, -, hlength, _, hloop, rfl, rfl⟩
    exact ⟨walk, sums, hwalk, rfl, hsums, hlength, hloop⟩
  · rintro ⟨walk, sums, hwalk, rfl, hsums, hlength, hloop⟩
    exact ⟨_, ⟨walk, hwalk, rfl⟩, _, ⟨rfl, sums, hsums⟩, sums, hsums, (), hlength, progress,
      hloop, rfl, rfl⟩

theorem readInventory_reads {progress : Progress}
    (h : readInventory hash root = .ok (payloads, progress)) :
    ∃ sums, ReadsInventory hash root payloads progress sums := by
  obtain ⟨walk, sums, hwalk, rfl, hsums, -, hloop⟩ := readInventory_eq_ok.mp h
  obtain ⟨hplain, hkeys, hnamed, -⟩ := gatherDirectory_finds hwalk
  have hkeys' : ∀ key, key ∈ walk.payloads.keys ↔
      ∃ names content, root.HasPayload names content ∧ utf8 key = relativePath names := by
    intro key
    rw [hkeys key]
    simp [SortedMap.keys, SortedMap.empty, ← mem_files_walked hsums]
  refine ⟨sums, hsums, ?_, hkeys', ?_, ?_⟩
  · rw [walked, if_pos rfl] at hplain
    rw [Directory.lookup_singleton] at hsums
    exact Directory.plain_of_plain_erase root.distinct hsums trivial hplain
  · intro names content hpayload
    exact hnamed (names, content) ((mem_files_walked hsums).mpr hpayload)
  · exact foldlM_checkLine_accepts (fun key hkey => (hkeys' key).mp hkey) hloop

/-- A list of declarations describes a tree: every payload is declared once, with
the digest of its bytes, and nothing else is. -/
structure Describes (hash : Bytes → Digest) (declared : List (String × String))
    (root : BundleRoot) : Prop where
  distinct : (declared.map Prod.snd).Nodup
  exact : ∀ path, path ∈ declared.map (utf8 ·.2) ↔
    ∃ names content, root.HasPayload names content ∧ path = relativePath names
  plain : root.tree.Plain
  digests : ∀ entry ∈ declared, ∃ names content, root.HasPayload names content ∧
    utf8 entry.2 = relativePath names ∧ entry.1 = (hash content).hex

theorem inventoryPhase_eq_ok {progress : Progress} :
    inventoryPhase hash root = .ok (payloads, progress) ↔
      readInventory hash root = .ok (payloads, progress) ∧
        ∀ key ∈ payloads.keys, key ∈ progress.names := by
  simp only [inventoryPhase, bind_eq_ok_iff, pure_eq_ok_iff, checkMissing, checkAll_eq_ok,
    rejectIf_eq_ok, Prod.exists, Prod.mk.injEq, Decidable.not_not]
  constructor
  · rintro ⟨_, _, hread, -, hmissing, rfl, rfl⟩
    exact ⟨hread, hmissing⟩
  · rintro ⟨hread, hmissing⟩
    exact ⟨payloads, progress, hread, (), hmissing, rfl, rfl⟩

theorem inventoryPhase_describes {progress : Progress}
    (h : inventoryPhase hash root = .ok (payloads, progress)) :
    ∃ sums, root.tree.lookup [checksumFileName] = some (.file sums) ∧
      Describes hash (declarations sums) root := by
  obtain ⟨hread, hmissing⟩ := inventoryPhase_eq_ok.mp h
  obtain ⟨sums, hsums, hplain, hkeys, hnamed, hloop⟩ := readInventory_reads hread
  have hdeclared : declarations sums = (progress.digests.map Prod.swap).reverse := hloop.declared
  have hnames : (declarations sums).map Prod.snd = progress.names.reverse := by
    rw [hdeclared, hloop.names, List.map_reverse, List.map_map]
    rfl
  refine ⟨sums, hsums, ?_, ?_, hplain, ?_⟩
  · rw [hnames]
    exact List.nodup_reverse.mpr hloop.nodup
  · intro path
    have hpath : path ∈ (declarations sums).map (utf8 ·.2) ↔
        ∃ key ∈ progress.names, utf8 key = path := by
      have hmap : (declarations sums).map (utf8 ·.2) = progress.names.reverse.map utf8 := by
        rw [← hnames, List.map_map]
        rfl
      rw [hmap]
      simp
    rw [hpath]
    constructor
    · rintro ⟨key, hkey, rfl⟩
      exact (hkeys key).mp (hloop.listed key hkey)
    -- a payload that is not declared would be missing
    · rintro ⟨names, content, hpayload, rfl⟩
      obtain ⟨key, hnormalized⟩ := hnamed names content hpayload
      have hkey := utf8_of_normalizedRelativePath hpayload.ne_nil hnormalized
      have hlisted : key ∈ payloads.keys := (hkeys key).mpr ⟨names, content, hpayload, hkey⟩
      exact ⟨key, hmissing key hlisted, hkey⟩
  · intro entry hentry
    rw [hdeclared] at hentry
    obtain ⟨found, hfound, rfl⟩ := List.mem_map.mp (List.mem_reverse.mp hentry)
    exact hloop.hashed found hfound

/-- Two trees with the same payload paths and payloads of equal digests. -/
structure SamePayloads (hash : Bytes → Digest) (root root' : BundleRoot) : Prop where
  paths : ∀ names, (∃ content, root.HasPayload names content) ↔
    ∃ content, root'.HasPayload names content
  digests : ∀ names content content', root.HasPayload names content →
    root'.HasPayload names content' → hash content = hash content'

theorem Describes.hex_of_payload {declared : List (String × String)}
    (h : Describes hash declared root) {names : List FileName} {content : Bytes}
    (hpayload : root.HasPayload names content) {entry : String × String} (hentry : entry ∈ declared)
    (hpath : utf8 entry.2 = relativePath names) : entry.1 = (hash content).hex := by
  obtain ⟨names', content', hpayload', hpath', hhex⟩ := h.digests entry hentry
  obtain rfl : names' = names := relativePath_injective hpayload'.ne_nil hpayload.ne_nil
    (hpath'.symm.trans hpath)
  have hcontent : content' = content := by
    have hboth := hpayload'.2.symm.trans hpayload.2
    simpa using hboth
  rw [hhex, hcontent]

theorem Describes.paths_subset {declared : List (String × String)} {root' : BundleRoot}
    (h : Describes hash declared root) (h' : Describes hash declared root')
    {names : List FileName} {content : Bytes} (hpayload : root.HasPayload names content) :
    ∃ content', root'.HasPayload names content' := by
  have hdeclared := (h.exact (relativePath names)).mpr ⟨names, content, hpayload, rfl⟩
  obtain ⟨names', content', hpayload', hpath⟩ := (h'.exact _).mp hdeclared
  obtain rfl := relativePath_injective hpayload.ne_nil hpayload'.ne_nil hpath
  exact ⟨content', hpayload'⟩

/-- One list of declarations pins the payloads up to collisions of the hash. -/
theorem Describes.samePayloads {declared : List (String × String)} {root' : BundleRoot}
    (h : Describes hash declared root) (h' : Describes hash declared root') :
    SamePayloads hash root root' := by
  constructor
  · intro names
    exact ⟨fun ⟨_, hpayload⟩ => h.paths_subset h' hpayload,
      fun ⟨_, hpayload⟩ => h'.paths_subset h hpayload⟩
  · intro names content content' hpayload hpayload'
    have hdeclared := (h.exact (relativePath names)).mpr ⟨names, content, hpayload, rfl⟩
    obtain ⟨entry, hentry, hpath⟩ := List.mem_map.mp hdeclared
    exact Digest.hex_injective
      ((h.hex_of_payload hpayload hentry hpath).symm.trans
        (h'.hex_of_payload hpayload' hentry hpath))

end

/-- An inventory phase that goes through shows that the declarations of
`SHA256SUMS` describe the tree, and no other tree with the same `SHA256SUMS`
gets through it unless its payloads have the same paths and digests. -/
theorem inventoryPhase_sound (hash : Bytes → Digest) (root : BundleRoot)
    (payloads : SortedMap String Bytes) (progress : Progress)
    (h : inventoryPhase hash root = .ok (payloads, progress)) :
    ∃ sums, root.tree.lookup [checksumFileName] = some (.file sums) ∧
      Describes hash (declarations sums) root ∧
      ∀ root' payloads' progress', inventoryPhase hash root' = .ok (payloads', progress') →
        root'.tree.lookup [checksumFileName] = some (.file sums) →
        SamePayloads hash root root' := by
  obtain ⟨sums, hsums, hdescribes⟩ := inventoryPhase_describes h
  refine ⟨sums, hsums, hdescribes, fun root' payloads' progress' h' hsums' => ?_⟩
  obtain ⟨sums', hlookup, hdescribes'⟩ := inventoryPhase_describes h'
  obtain rfl : sums = sums' := by
    have hboth := hsums'.symm.trans hlookup
    simpa using hboth
  exact hdescribes.samePayloads hdescribes'

/-- A bundle root with one empty payload. -/
def onePayloadRoot : BundleRoot where
  path := []
  tree :=
    .entry (.ofString "a" (by decide)) (.file [])
      (.entry checksumFileName (.file (utf8 (checksumLine (sha256 []).hex "a"))) .empty)
  distinct := by
    simp only [Directory.Distinct, Directory.names, List.mem_singleton, List.not_mem_nil,
      not_false_eq_true, and_self, and_true]
    decide

theorem inventoryPhase_sound_onePayload :
    ∃ sums, onePayloadRoot.tree.lookup [checksumFileName] = some (.file sums) ∧
      Describes sha256 (declarations sums) onePayloadRoot ∧
      ∀ root' payloads' progress', inventoryPhase sha256 root' = .ok (payloads', progress') →
        root'.tree.lookup [checksumFileName] = some (.file sums) →
        SamePayloads sha256 onePayloadRoot root' := by
  have haccepted : (inventoryPhase sha256 onePayloadRoot).isOk = true := by decide +kernel
  obtain ⟨⟨payloads, progress⟩, h⟩ := exists_of_isOk haccepted
  exact inventoryPhase_sound sha256 onePayloadRoot payloads progress h

end Benchplane
