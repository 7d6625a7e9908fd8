import Benchplane.Library.FileTree

/-!
# Rewriting the contents of files

A tree with the same entries, in which every file has been given a content that depends
on its path and on the old one.  Whatever does not read a file sees no difference.
-/

namespace Benchplane
namespace Library

namespace Directory

/-- Rewrite every file below a directory that is reached by `parent`. -/
def mapFiles (change : List FileName → Bytes → Bytes) (parent : List FileName) :
    Directory → Directory
  | .empty => .empty
  | .entry name (.file content) rest =>
      .entry name (.file (change (parent ++ [name]) content)) (rest.mapFiles change parent)
  | .entry name (.directory children) rest =>
      .entry name (.directory (children.mapFiles change (parent ++ [name])))
        (rest.mapFiles change parent)
  | .entry name (.symlink resolves) rest =>
      .entry name (.symlink resolves) (rest.mapFiles change parent)
  | .entry name .special rest => .entry name .special (rest.mapFiles change parent)
termination_by structural directory => directory

end Directory

/-- Rewrite a file, or every file below a directory. -/
def Node.mapFiles (change : List FileName → Bytes → Bytes) (path : List FileName) : Node → Node
  | .file content => .file (change path content)
  | .directory children => .directory (children.mapFiles change path)
  | .symlink resolves => .symlink resolves
  | .special => .special

namespace Directory

variable {change : List FileName → Bytes → Bytes}

theorem mapFiles_entry (parent : List FileName) (name : FileName) (node : Node)
    (rest : Directory) : (entry name node rest).mapFiles change parent =
      entry name (node.mapFiles change (parent ++ [name])) (rest.mapFiles change parent) := by
  cases node <;> rfl

@[simp] theorem names_mapFiles (parent : List FileName) (d : Directory) :
    (d.mapFiles change parent).names = d.names := by
  induction d using entryInduction with
  | empty => rfl
  | entry name node rest ih => simp [mapFiles_entry, names, ih]

theorem find?_mapFiles (parent : List FileName) (d : Directory) (name : FileName) :
    (d.mapFiles change parent).find? name =
      (d.find? name).map (Node.mapFiles change (parent ++ [name])) := by
  induction d using entryInduction with
  | empty => rfl
  | entry other node rest ih =>
      by_cases hname : other = name
      · simp [mapFiles_entry, find?, hname]
      · simp [mapFiles_entry, find?, hname, ih]

theorem Distinct.mapFiles {d : Directory} (h : d.Distinct) (parent : List FileName) :
    (d.mapFiles change parent).Distinct := by
  induction d using treeInduction generalizing parent with
  | empty => exact h
  | file name content rest ih => exact ⟨by simpa using h.1, ih h.2 parent⟩
  | directory name children rest ihChildren ihRest =>
      exact ⟨by simpa using h.1, ihChildren h.2.1 _, ihRest h.2.2 parent⟩
  | symlink name resolves rest ih => exact ⟨by simpa using h.1, ih h.2 parent⟩
  | special name rest ih => exact ⟨by simpa using h.1, ih h.2 parent⟩

end Directory

theorem Node.lookup_mapFiles {change : List FileName → Bytes → Bytes} (path : List FileName)
    (parent : List FileName) (node : Node) :
    (node.mapFiles change parent).lookup path =
      (node.lookup path).map (Node.mapFiles change (parent ++ path)) := by
  induction path generalizing parent node with
  | nil => simp [Node.lookup]
  | cons name path ih =>
      cases node with
      | file content => rfl
      | symlink resolves => rfl
      | special => rfl
      | directory children =>
          simp only [Node.mapFiles, Node.lookup, Directory.find?_mapFiles]
          cases hfind : children.find? name with
          | none => rfl
          | some child =>
              have hpath : parent ++ [name] ++ path = parent ++ name :: path := by simp
              simp only [Option.map_some, Option.bind_some, ih, hpath]

/-- A file is found where there was one, with its rewritten content. -/
theorem Directory.lookup_mapFiles {change : List FileName → Bytes → Bytes} {d : Directory}
    {path : List FileName} {content : Bytes} :
    (d.mapFiles change []).lookup path = some (.file content) ↔
      ∃ old, d.lookup path = some (.file old) ∧ change path old = content := by
  have hlookup : (d.mapFiles change []).lookup path =
      (d.lookup path).map (Node.mapFiles change path) :=
    Node.lookup_mapFiles path [] (.directory d)
  rw [hlookup]
  constructor
  · intro h
    obtain ⟨node, hnode, hfile⟩ := Option.map_eq_some_iff.mp h
    cases node with
    | file old => exact ⟨old, hnode, Node.file.inj hfile⟩
    | directory children => simp [Node.mapFiles] at hfile
    | symlink resolves => simp [Node.mapFiles] at hfile
    | special => simp [Node.mapFiles] at hfile
  · intro h
    obtain ⟨old, hold, hchange⟩ := h
    simp [hold, Node.mapFiles, hchange]

end Library
end Benchplane
