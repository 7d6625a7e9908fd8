import Benchplane.Library.Bytes

/-!
# Unix paths

A path is a byte string; `components` reads it as `std::path` does.  Repeated and
trailing separators and inner `.` components disappear in that reading, so
distinct byte strings can have the same components.  A `FileName` is a byte
string the kernel accepts as the name of a directory entry.
-/

namespace Benchplane
namespace Library

/-- The byte `/`. -/
def slash : UInt8 := 47

/-- The byte strings that can name a directory entry. -/
def IsFileName (bytes : Bytes) : Prop :=
  bytes ≠ [] ∧ slash ∉ bytes ∧ 0 ∉ bytes ∧ bytes ≠ utf8 "." ∧ bytes ≠ utf8 ".."

instance (bytes : Bytes) : Decidable (IsFileName bytes) := by
  unfold IsFileName
  infer_instance

/-- The name of a directory entry. -/
structure FileName where
  bytes : Bytes
  valid : IsFileName bytes
  deriving DecidableEq

namespace FileName

/-- The entry name of a text known to be one. -/
def ofString (text : String) (valid : IsFileName (utf8 text)) : FileName :=
  ⟨utf8 text, valid⟩

/-- `OsStr::to_str`. -/
def toStr (name : FileName) : Option String :=
  decodeUtf8 name.bytes

/-- The entry name with these bytes. -/
def ofBytes? (bytes : Bytes) : Option FileName :=
  if valid : IsFileName bytes then some ⟨bytes, valid⟩ else none

@[simp] theorem ofBytes?_bytes (name : FileName) : ofBytes? name.bytes = some name := by
  simp [ofBytes?, name.valid]

@[simp] theorem bytes_ofString (text : String) (valid : IsFileName (utf8 text)) :
    (ofString text valid).bytes = utf8 text := rfl

@[simp] theorem toStr_ofString (text : String) (valid : IsFileName (utf8 text)) :
    (ofString text valid).toStr = some text := by
  simp [toStr]

theorem bytes_injective {a b : FileName} (h : a.bytes = b.bytes) : a = b := by
  cases a
  cases b
  simpa using h

end FileName

/-- A component of a path. -/
inductive Component where
  | rootDir
  | curDir
  | parentDir
  | normal (bytes : Bytes)
  deriving DecidableEq

/-- `Path::is_absolute`. -/
def isAbsolute (path : Bytes) : Bool :=
  path.head? = some slash

/-- The component of one piece between separators. -/
def pieceComponent (piece : Bytes) : Option Component :=
  if piece = [] ∨ piece = utf8 "." then none
  else if piece = utf8 ".." then some .parentDir
  else some (.normal piece)

/-- `Path::components`. -/
def components (path : Bytes) : List Component :=
  let pieces := path.splitOn slash
  let front :=
    if isAbsolute path then [.rootDir]
    else if pieces.head? = some (utf8 ".") then [.curDir]
    else []
  front ++ pieces.filterMap pieceComponent

/-- The normal components of a path, when it has no other. -/
def normalComponents : List Component → Option (List Bytes)
  | [] => some []
  | .normal bytes :: rest => (normalComponents rest).map (bytes :: ·)
  | _ :: _ => none

/-- Join byte strings with the separator. -/
def joinComponents (pieces : List Bytes) : Bytes :=
  [slash].intercalate pieces

/-- The relative path text of a list of entry names. -/
def relativePath (names : List FileName) : Bytes :=
  joinComponents (names.map FileName.bytes)

theorem pieceComponent_fileName (name : FileName) :
    pieceComponent name.bytes = some (.normal name.bytes) := by
  obtain ⟨hne, -, -, hdot, hdotdot⟩ := name.valid
  simp [pieceComponent, hne, hdot, hdotdot]

theorem splitOn_relativePath {names : List FileName} (h : names ≠ []) :
    (relativePath names).splitOn slash = names.map FileName.bytes := by
  unfold relativePath joinComponents
  apply List.splitOn_intercalate
  · intro piece hpiece
    obtain ⟨name, -, rfl⟩ := List.mem_map.mp hpiece
    exact name.valid.2.1
  · simpa using h

/-- A list of entry names is determined by its relative path text. -/
theorem relativePath_injective {a b : List FileName} (ha : a ≠ []) (hb : b ≠ [])
    (h : relativePath a = relativePath b) : a = b := by
  have hsplit : a.map FileName.bytes = b.map FileName.bytes := by
    rw [← splitOn_relativePath ha, ← splitOn_relativePath hb, h]
  exact List.map_injective_iff.mpr (fun _ _ => FileName.bytes_injective) hsplit

theorem head_relativePath_ne_slash {names : List FileName} (h : names ≠ []) :
    isAbsolute (relativePath names) = false := by
  cases names with
  | nil => contradiction
  | cons name names =>
      have hjoin : ∃ rest, relativePath (name :: names) = name.bytes ++ rest := by
        cases names with
        | nil => exact ⟨[], by simp [relativePath, joinComponents]⟩
        | cons next names =>
            exact ⟨_, by
              simp only [relativePath, joinComponents, List.map_cons,
                List.intercalate_cons_cons, List.append_assoc]; rfl⟩
      obtain ⟨rest, hrest⟩ := hjoin
      obtain ⟨hne, hslash, -⟩ := name.valid
      rw [hrest]
      cases hbytes : name.bytes with
      | nil => contradiction
      | cons b bytes =>
          have hb : b ≠ slash := fun hb => hslash (by simp [hbytes, hb])
          simp [isAbsolute, hb]

/-- A relative path text made of entry names has exactly these components. -/
theorem components_relativePath {names : List FileName} (h : names ≠ []) :
    components (relativePath names) = names.map fun name => .normal name.bytes := by
  have hfilter : (names.map FileName.bytes).filterMap pieceComponent =
      names.map fun name => .normal name.bytes := by
    clear h
    induction names with
    | nil => rfl
    | cons name names ih =>
        rw [List.map_cons, List.filterMap_cons, pieceComponent_fileName]
        simp [ih]
  have hdot : (names.map FileName.bytes).head? ≠ some (utf8 ".") := by
    cases names with
    | nil => simp
    | cons name names => simpa using name.valid.2.2.2.1
  simp only [components, splitOn_relativePath h, head_relativePath_ne_slash h, hfilter,
    Bool.false_eq_true, if_false, if_neg hdot, List.nil_append]

theorem normalComponents_map_normal (names : List FileName) :
    normalComponents (names.map fun name => .normal name.bytes) =
      some (names.map FileName.bytes) := by
  induction names with
  | nil => rfl
  | cons name names ih => simp [normalComponents, ih]

/-- The entry names a path walks through, when it has normal components only. -/
def entryNames (path : Bytes) : Option (List FileName) :=
  (normalComponents (components path)).bind (·.mapM FileName.ofBytes?)

theorem entryNames_relativePath {names : List FileName} (h : names ≠ []) :
    entryNames (relativePath names) = some names := by
  rw [entryNames, components_relativePath h, normalComponents_map_normal, Option.bind_some]
  clear h
  induction names with
  | nil => rfl
  | cons name names ih => simp [List.mapM_cons, ih]

/-! ## Joining paths -/

/-- `Path::join`. -/
def joinPath (root relative : Bytes) : Bytes :=
  if isAbsolute relative then relative
  else if root = [] ∨ root.getLast? = some slash then root ++ relative
  else root ++ slash :: relative

/-- The pieces behind a separator come after those before it. -/
theorem components_append_slash {root : Bytes} (hne : root ≠ []) (relative : Bytes) :
    components (root ++ slash :: relative) =
      components root ++ (relative.splitOn slash).filterMap pieceComponent := by
  have habsolute : isAbsolute (root ++ slash :: relative) = isAbsolute root := by
    unfold isAbsolute
    rw [List.head?_append_of_ne_nil _ hne]
  have hhead : (root.splitOn slash ++ relative.splitOn slash).head? = (root.splitOn slash).head? :=
    List.head?_append_of_ne_nil _ (List.splitOn_ne_nil _ _)
  simp only [components, List.splitOn_append_cons_self, habsolute, hhead, List.filterMap_append,
    List.append_assoc]

/-- A relative path adds its components to those of what it is joined to. -/
theorem components_joinPath {root relative : Bytes} (habsolute : isAbsolute relative = false)
    (hdot : (relative.splitOn slash).head? ≠ some (utf8 ".")) :
    components (joinPath root relative) = components root ++ components relative := by
  have hrelative : components relative = (relative.splitOn slash).filterMap pieceComponent := by
    simp only [components, habsolute, Bool.false_eq_true, if_false, if_neg hdot, List.nil_append]
  unfold joinPath
  rw [if_neg (by rw [habsolute]; exact Bool.false_ne_true), hrelative]
  split
  · rename_i hroot
    rcases hroot with rfl | hlast
    · rw [List.nil_append, hrelative]
      rfl
    · -- The separator at the end of the root is the one between the two.
      obtain ⟨front, rfl⟩ := List.getLast?_eq_some_iff.mp hlast
      cases front with
      | nil =>
          have hpieces : ([slash] : Bytes) ++ relative = [] ++ slash :: relative := rfl
          have hlone : components [slash] = [.rootDir] := by decide
          rw [List.nil_append, hpieces, hlone]
          simp only [components, List.splitOn_append_cons_self, List.splitOn_nil]
          simp [isAbsolute, pieceComponent]
      | cons b front =>
          have hempty : ([] : Bytes).splitOn slash = [[]] := List.splitOn_nil _
          rw [List.append_assoc, List.singleton_append,
            components_append_slash (List.cons_ne_nil b front) relative,
            components_append_slash (List.cons_ne_nil b front) [], hempty]
          simp [pieceComponent]
  · rename_i hroot
    exact components_append_slash (fun hnil => hroot (Or.inl hnil)) relative

/-! ## Paths as text -/

theorem utf8_slash : utf8 "/" = [slash] := by decide

theorem utf8_intercalate (texts : List String) :
    utf8 (String.intercalate "/" texts) = joinComponents (texts.map utf8) := by
  induction texts with
  | nil => rfl
  | cons text texts ih =>
      cases texts with
      | nil => simp [joinComponents]
      | cons next texts =>
          rw [String.intercalate_cons_cons, utf8_append, utf8_append, ih, utf8_slash]
          simp [joinComponents, List.intercalate_cons_cons]

theorem map_utf8_of_mapM_decodeUtf8 {pieces : List Bytes} {texts : List String}
    (h : pieces.mapM decodeUtf8 = some texts) : texts.map utf8 = pieces := by
  induction pieces generalizing texts with
  | nil =>
      obtain rfl : [] = texts := by simpa using h
      rfl
  | cons piece pieces ih =>
      rw [List.mapM_cons] at h
      simp only [Option.bind_eq_bind, Option.bind_eq_some_iff, Option.pure_def,
        Option.some.injEq] at h
      obtain ⟨text, htext, rest, hrest, rfl⟩ := h
      rw [List.map_cons, utf8_of_decodeUtf8 htext, ih hrest]

theorem mapM_decodeUtf8_map_utf8 (texts : List String) :
    (texts.map utf8).mapM decodeUtf8 = some texts := by
  induction texts with
  | nil => rfl
  | cons text texts ih => simp [List.mapM_cons, ih]

end Library
end Benchplane
