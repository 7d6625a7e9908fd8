import Benchplane.Evidence.Inventory
import Benchplane.Library.Text

/-!
# Names in the inventory

Which names the inventory loop accepts.  The reading of a path drops repeated and
trailing separators and inner dots; the comparison with the components joined again
refuses every name that has any, so an accepted name is the list of its components.
-/

namespace Benchplane

open Library

/-! ## Texts as paths -/

/-- A text is its pieces, joined again. -/
theorem intercalate_splitAt (text : String) : String.intercalate "/" (splitAt '/' text) = text := by
  apply String.toList_inj.mp
  have hpieces : (splitAt '/' text).map String.toList = text.toList.splitOn '/' := by
    rw [splitAt, List.map_map]
    simp
  rw [String.toList_intercalate, hpieces]
  exact List.intercalate_splitOn '/'

/-- No piece of a text contains the separator. -/
theorem slash_notMem_utf8_piece {text piece : String} (h : piece ∈ splitAt '/' text) :
    slash ∉ utf8 piece := by
  obtain ⟨chars, hchars, rfl⟩ := List.mem_map.mp h
  intro hslash
  rw [utf8_ofList, List.mem_flatMap] at hslash
  obtain ⟨c, hc, hbyte⟩ := hslash
  have hcode : c.toNat = 47 := (ofNat_mem_utf8EncodeChar (by omega)).mp hbyte
  obtain rfl : c = '/' := Char.toNat_inj.mp hcode
  exact notMem_of_mem_splitOn hchars hc

/-- The bytes of a text are cut where the text is. -/
theorem splitOn_utf8 (text : String) :
    (utf8 text).splitOn slash = (splitAt '/' text).map utf8 := by
  have hjoined : utf8 text = joinComponents ((splitAt '/' text).map utf8) := by
    rw [← utf8_intercalate, intercalate_splitAt]
  rw [hjoined]
  apply List.splitOn_intercalate
  · intro bytes hbytes
    obtain ⟨piece, hpiece, rfl⟩ := List.mem_map.mp hbytes
    exact slash_notMem_utf8_piece hpiece
  · simp [splitAt]

/-! ## Plain pieces -/

/-- A piece that is a component of its own. -/
def IsPlain (piece : Bytes) : Prop :=
  piece ≠ [] ∧ piece ≠ utf8 "." ∧ piece ≠ utf8 ".."

theorem pieceComponent_eq_normal {piece bytes : Bytes} :
    pieceComponent piece = some (.normal bytes) ↔ IsPlain piece ∧ piece = bytes := by
  unfold pieceComponent IsPlain
  split
  · rename_i hdropped
    constructor
    · intro h
      contradiction
    · rintro ⟨⟨hne, hdot, -⟩, -⟩
      exact absurd hdropped (not_or.mpr ⟨hne, hdot⟩)
  · rename_i hkept
    split
    · rename_i hparent
      constructor
      · intro h
        cases Option.some.inj h
      · rintro ⟨⟨-, -, hdotdot⟩, -⟩
        exact absurd hparent hdotdot
    · rename_i hnormal
      rw [Option.some.injEq, Component.normal.injEq]
      exact ⟨fun heq => ⟨⟨(not_or.mp hkept).1, (not_or.mp hkept).2, hnormal⟩, heq⟩, fun h => h.2⟩

theorem normalComponents_eq_some {list : List Component} {pieces : List Bytes} :
    normalComponents list = some pieces ↔ list = pieces.map .normal := by
  induction list generalizing pieces with
  | nil =>
      cases pieces with
      | nil => simp [normalComponents]
      | cons piece pieces => simp [normalComponents]
  | cons component rest ih =>
      cases component with
      | normal bytes =>
          cases pieces with
          | nil => simp [normalComponents]
          | cons piece pieces => simp [normalComponents, ih, and_comm]
      | rootDir | curDir | parentDir =>
          cases pieces with
          | nil => simp [normalComponents]
          | cons piece pieces => simp [normalComponents]

/-- Plain pieces are all the components there are. -/
theorem components_of_plain {path : Bytes} (h : ∀ piece ∈ path.splitOn slash, IsPlain piece) :
    isAbsolute path = false ∧ components path = (path.splitOn slash).map .normal := by
  have habsolute : isAbsolute path = false := by
    cases path with
    | nil => rfl
    | cons b rest =>
        by_contra hslash
        obtain rfl : b = slash := by simpa [isAbsolute] using hslash
        have hfirst := h [] (by rw [List.splitOn_cons_eq_if_modifyHead]; simp)
        exact hfirst.1 rfl
  have hdot : ¬ (path.splitOn slash).head? = some (utf8 ".") := by
    intro hhead
    exact (h _ (List.mem_of_mem_head? hhead)).2.1 rfl
  have hpieces : (path.splitOn slash).filterMap pieceComponent =
      (path.splitOn slash).map .normal := by
    rw [← List.filterMap_eq_map]
    apply List.filterMap_congr
    intro piece hpiece
    exact pieceComponent_eq_normal.mpr ⟨h piece hpiece, rfl⟩
  refine ⟨habsolute, ?_⟩
  simp only [components, habsolute, Bool.false_eq_true, if_false, if_neg hdot, List.nil_append,
    hpieces]

/-- A path of normal components only has plain pieces among its pieces. -/
theorem plain_of_normalComponents {path : Bytes} {pieces : List Bytes}
    (h : normalComponents (components path) = some pieces) :
    ∀ piece ∈ pieces, IsPlain piece ∧ piece ∈ path.splitOn slash := by
  intro piece hpiece
  have hcomponents := normalComponents_eq_some.mp h
  have hmem : Component.normal piece ∈ components path := by
    rw [hcomponents]
    exact List.mem_map_of_mem hpiece
  unfold components at hmem
  rcases List.mem_append.mp hmem with hfront | hrest
  · split at hfront
    · cases List.mem_singleton.mp hfront
    · split at hfront
      · cases List.mem_singleton.mp hfront
      · cases hfront
  · obtain ⟨found, hfound, hnormal⟩ := List.mem_filterMap.mp hrest
    obtain ⟨hplain, rfl⟩ := pieceComponent_eq_normal.mp hnormal
    exact ⟨hplain, hfound⟩

/-! ## Accepted names -/

/-- The checks that the inventory loop makes on a declared name. -/
def checkName (relative : String) : Except EvidenceError Bytes := do
  let path ← validateRelativePath relative
  let normalized ← normalizedRelativePath path
  rejectIf (normalized ≠ relative) (.unsafePath (utf8 relative))
  pure path

/-- The loop makes these checks on the name behind a digest. -/
theorem parseEntry_eq_checkName (line : String) :
    parseEntry line = (do
      let (expected, relative) ← orReject (.invalidChecksumLine line) (splitOnceText "  " line)
      rejectIf ((utf8 expected).length ≠ 64 ∨ ¬ (utf8 expected).all isLowerHex)
        (.invalidChecksum relative)
      let path ← checkName relative
      pure (expected, relative, path)) := by
  simp only [parseEntry, checkName, bind_assoc, pure_bind]

/-- A relative name without a component that is empty, `.` or `..`. -/
def IsSafeName (name : String) : Prop :=
  name ≠ "SHA256SUMS" ∧ ∀ piece ∈ splitAt '/' name, piece ≠ "" ∧ piece ≠ "." ∧ piece ≠ ".."

theorem isPlain_utf8 {piece : String} :
    IsPlain (utf8 piece) ↔ piece ≠ "" ∧ piece ≠ "." ∧ piece ≠ ".." := by
  have hsame : ∀ text : String, utf8 piece = utf8 text ↔ piece = text := fun text =>
    utf8_injective.eq_iff
  have hempty : utf8 piece = [] ↔ piece = "" := hsame ""
  simp only [IsPlain, ne_eq, hempty, hsame]

/-- A safe name is its own path, and its components are its pieces. -/
theorem IsSafeName.components_utf8 {name : String} (h : IsSafeName name) :
    isAbsolute (utf8 name) = false ∧
      components (utf8 name) = (splitAt '/' name).map fun piece => .normal (utf8 piece) := by
  have hplain : ∀ piece ∈ (utf8 name).splitOn slash, IsPlain piece := by
    intro bytes hbytes
    rw [splitOn_utf8] at hbytes
    obtain ⟨piece, hpiece, rfl⟩ := List.mem_map.mp hbytes
    exact isPlain_utf8.mpr (h.2 piece hpiece)
  obtain ⟨habsolute, hcomponents⟩ := components_of_plain hplain
  refine ⟨habsolute, ?_⟩
  rw [hcomponents, splitOn_utf8, List.map_map]
  rfl

theorem checkName_of_isSafeName {name : String} (h : IsSafeName name) :
    checkName name = .ok (utf8 name) := by
  obtain ⟨habsolute, hcomponents⟩ := h.components_utf8
  have hne : name ≠ "" := by
    rintro rfl
    exact (h.2 "" (by simp [splitAt])).1 rfl
  have hbytes : utf8 name ≠ [] := fun hnil => hne (utf8_injective (hnil.trans rfl))
  have hnormal : normalComponents (components (utf8 name)) =
      some ((splitAt '/' name).map utf8) := by
    apply normalComponents_eq_some.mpr
    rw [hcomponents, List.map_map]
    rfl
  have hvalid : validateRelativePath name = .ok (utf8 name) := by
    unfold validateRelativePath
    rw [if_neg]
    simp [hne, h.1, habsolute, hnormal]
  have hnormalized : normalizedRelativePath (utf8 name) = .ok name := by
    unfold normalizedRelativePath
    rw [if_neg (by simp [hbytes, habsolute]), hnormal]
    simp only [mapM_decodeUtf8_map_utf8, intercalate_splitAt]
  simp only [checkName, bind_eq_ok_iff, rejectIf_eq_ok, pure_eq_ok_iff]
  exact ⟨utf8 name, hvalid, name, hnormalized, (), not_not_intro rfl, rfl⟩

theorem isSafeName_of_checkName {name : String} {path : Bytes} (h : checkName name = .ok path) :
    IsSafeName name ∧ path = utf8 name := by
  simp only [checkName, bind_eq_ok_iff, rejectIf_eq_ok, pure_eq_ok_iff, Decidable.not_not] at h
  obtain ⟨found, hvalid, normalized, hnormalized, -, rfl, rfl⟩ := h
  unfold validateRelativePath at hvalid
  split at hvalid
  · contradiction
  · rename_i haccepted
    obtain rfl := Except.ok.inj hvalid
    simp only [not_or] at haccepted
    obtain ⟨hne, hsums, -, -⟩ := haccepted
    unfold normalizedRelativePath at hnormalized
    split at hnormalized
    · contradiction
    · split at hnormalized
      · contradiction
      · rename_i pieces hpieces
        split at hnormalized
        · contradiction
        · rename_i texts htexts
          have hjoined := Except.ok.inj hnormalized
          -- The components joined again are the name, so its pieces are the components.
          have hbytes := map_utf8_of_mapM_decodeUtf8 htexts
          have hplain := plain_of_normalComponents hpieces
          have hnonempty : pieces ≠ [] := by
            rintro rfl
            obtain rfl := List.map_eq_nil_iff.mp hbytes
            exact hne hjoined.symm
          have hsplit : (splitAt '/' normalized).map utf8 = pieces := by
            rw [← splitOn_utf8]
            have hjoinedBytes : utf8 normalized = joinComponents pieces := by
              rw [← hjoined, utf8_intercalate, hbytes]
            have hslash : ∀ bytes ∈ pieces, slash ∉ bytes := by
              intro bytes hmem
              have hcut := (hplain bytes hmem).2
              rw [splitOn_utf8] at hcut
              obtain ⟨piece, hpiece, rfl⟩ := List.mem_map.mp hcut
              exact slash_notMem_utf8_piece hpiece
            rw [hjoinedBytes]
            exact List.splitOn_intercalate slash hslash hnonempty
          refine ⟨⟨hsums, ?_⟩, rfl⟩
          intro piece hpiece
          apply isPlain_utf8.mp
          refine (hplain (utf8 piece) ?_).1
          rw [← hsplit]
          exact List.mem_map_of_mem hpiece

/-- An accepted name goes on from the root. -/
theorem IsSafeName.components_joinPath {name : String} (h : IsSafeName name) (root : Bytes) :
    components (joinPath root (utf8 name)) =
      components root ++ (splitAt '/' name).map fun piece => .normal (utf8 piece) := by
  obtain ⟨habsolute, hcomponents⟩ := h.components_utf8
  have hdot : ((utf8 name).splitOn slash).head? ≠ some (utf8 ".") := by
    rw [splitOn_utf8, List.head?_map]
    intro hhead
    obtain ⟨piece, hpiece, hsame⟩ := Option.map_eq_some_iff.mp hhead
    exact (h.2 piece (List.mem_of_mem_head? hpiece)).2.1 (utf8_injective hsame)
  rw [Library.components_joinPath habsolute hdot, hcomponents]

/-- The names that the inventory loop accepts are the safe relative paths; joined to a
root they add their own components to those of the root, and different names lead to
different paths. -/
theorem checkName_safe :
    (∀ name, (∃ path, checkName name = .ok path) ↔ IsSafeName name) ∧
    (∀ root name path, checkName name = .ok path →
      components (joinPath root path) =
        components root ++ (splitAt '/' name).map fun piece => .normal (utf8 piece)) ∧
    ∀ root name name' path path', checkName name = .ok path → checkName name' = .ok path' →
      components (joinPath root path) = components (joinPath root path') → name = name' := by
  refine ⟨?_, ?_, ?_⟩
  · intro name
    constructor
    · rintro ⟨path, h⟩
      exact (isSafeName_of_checkName h).1
    · intro h
      exact ⟨utf8 name, checkName_of_isSafeName h⟩
  · intro root name path h
    obtain ⟨hsafe, rfl⟩ := isSafeName_of_checkName h
    exact hsafe.components_joinPath root
  · intro root name name' path path' h h' heq
    obtain ⟨hsafe, rfl⟩ := isSafeName_of_checkName h
    obtain ⟨hsafe', rfl⟩ := isSafeName_of_checkName h'
    rw [hsafe.components_joinPath, hsafe'.components_joinPath] at heq
    -- a name is made up of its pieces again
    have hpieces : splitAt '/' name = splitAt '/' name' := by
      have hinjective : Function.Injective fun piece : String => Component.normal (utf8 piece) := by
        intro piece piece' hsame
        exact utf8_injective (Component.normal.inj hsame)
      exact List.map_injective_iff.mpr hinjective (List.append_cancel_left heq)
    rw [← intercalate_splitAt name, hpieces, intercalate_splitAt]

end Benchplane
