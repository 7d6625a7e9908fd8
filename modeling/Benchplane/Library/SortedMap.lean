import Mathlib.Data.List.Sort
import Mathlib.Order.Defs.LinearOrder

/-!
# Sorted maps

A finite map as its list of entries in strictly increasing order of the keys.
The order is part of the type, so two maps with the same entries are equal and a
walk over one visits the keys in order.
-/

namespace Benchplane
namespace Library

/-- A finite map, sorted by key. -/
structure SortedMap (κ ν : Type) [LinearOrder κ] where
  entries : List (κ × ν)
  sorted : entries.Pairwise fun a b => a.1 < b.1

namespace SortedMap

variable {κ ν : Type} [LinearOrder κ]

instance [DecidableEq ν] : DecidableEq (SortedMap κ ν) := fun a b =>
  decidable_of_iff (a.entries = b.entries) (by
    cases a
    cases b
    simp)

/-- Insert into a sorted list of entries, replacing an entry with the same key. -/
def insertEntry (key : κ) (value : ν) : List (κ × ν) → List (κ × ν)
  | [] => [(key, value)]
  | entry :: rest =>
      if key < entry.1 then (key, value) :: entry :: rest
      else if key = entry.1 then (key, value) :: rest
      else entry :: insertEntry key value rest

theorem mem_insertEntry {key : κ} {value : ν} {entries : List (κ × ν)}
    (hsorted : entries.Pairwise fun a b => a.1 < b.1) {entry : κ × ν} :
    entry ∈ insertEntry key value entries ↔
      entry = (key, value) ∨ entry.1 ≠ key ∧ entry ∈ entries := by
  induction entries with
  | nil => simp [insertEntry]
  | cons first rest ih =>
      obtain ⟨hfirst, hrest⟩ := List.pairwise_cons.mp hsorted
      unfold insertEntry
      split
      -- the key goes in front: all others are larger
      · rename_i hlt
        have hne : ∀ other ∈ first :: rest, other.1 ≠ key := by
          intro other hother
          rcases List.mem_cons.mp hother with rfl | hmem
          · exact ne_of_gt hlt
          · exact ne_of_gt (hlt.trans (hfirst other hmem))
        constructor
        · intro h
          rcases List.mem_cons.mp h with rfl | hmem
          · exact .inl rfl
          · exact .inr ⟨hne entry hmem, hmem⟩
        · rintro (rfl | ⟨-, hmem⟩)
          · exact List.mem_cons_self
          · exact List.mem_cons_of_mem _ hmem
      · split
        -- the key is there: its entry is replaced
        · rename_i heq
          have hne : ∀ other ∈ rest, other.1 ≠ key := fun other hmem =>
            heq ▸ ne_of_gt (hfirst other hmem)
          constructor
          · intro h
            rcases List.mem_cons.mp h with rfl | hmem
            · exact .inl rfl
            · exact .inr ⟨hne entry hmem, List.mem_cons_of_mem _ hmem⟩
          · rintro (rfl | ⟨hkey, hmem⟩)
            · exact List.mem_cons_self
            · rcases List.mem_cons.mp hmem with rfl | hmem
              · exact absurd heq.symm hkey
              · exact List.mem_cons_of_mem _ hmem
        -- the key comes later: the first entry stays
        · rename_i hlt heq
          rw [List.mem_cons, ih hrest, List.mem_cons]
          constructor
          · rintro (rfl | rfl | ⟨hkey, hmem⟩)
            · exact .inr ⟨Ne.symm heq, .inl rfl⟩
            · exact .inl rfl
            · exact .inr ⟨hkey, .inr hmem⟩
          · rintro (rfl | ⟨hkey, rfl | hmem⟩)
            · exact .inr (.inl rfl)
            · exact .inl rfl
            · exact .inr (.inr ⟨hkey, hmem⟩)

theorem sorted_insertEntry {key : κ} {value : ν} {entries : List (κ × ν)}
    (hsorted : entries.Pairwise fun a b => a.1 < b.1) :
    (insertEntry key value entries).Pairwise fun a b => a.1 < b.1 := by
  induction entries with
  | nil => simp [insertEntry]
  | cons first rest ih =>
      obtain ⟨hfirst, hrest⟩ := List.pairwise_cons.mp hsorted
      unfold insertEntry
      split
      · rename_i hlt
        refine List.pairwise_cons.mpr ⟨fun other hother => ?_, hsorted⟩
        rcases List.mem_cons.mp hother with rfl | hmem
        · exact hlt
        · exact hlt.trans (hfirst other hmem)
      · split
        · rename_i heq
          exact List.pairwise_cons.mpr ⟨fun other hmem => heq ▸ hfirst other hmem, hrest⟩
        · rename_i hlt heq
          refine List.pairwise_cons.mpr ⟨fun other hmem => ?_, ih hrest⟩
          rcases (mem_insertEntry hrest).mp hmem with rfl | ⟨-, hmem⟩
          · exact lt_of_le_of_ne (not_lt.mp hlt) (Ne.symm heq)
          · exact hfirst other hmem

/-- A key above all others is put at the end. -/
theorem insertEntry_last {key : κ} {value : ν}
    {entries : List (κ × ν)} (h : ∀ entry ∈ entries, entry.1 < key) :
    insertEntry key value entries = entries ++ [(key, value)] := by
  induction entries with
  | nil => rfl
  | cons first rest ih =>
      have hfirst := h first List.mem_cons_self
      have hrest := ih fun entry hentry => h entry (List.mem_cons_of_mem _ hentry)
      rw [insertEntry, if_neg (not_lt_of_gt hfirst), if_neg (ne_of_gt hfirst), hrest]
      rfl

/-- The map without entries. -/
def empty : SortedMap κ ν := ⟨[], List.Pairwise.nil⟩

/-- Bind a key to a value. -/
def insert (key : κ) (value : ν) (m : SortedMap κ ν) : SortedMap κ ν :=
  ⟨insertEntry key value m.entries, sorted_insertEntry m.sorted⟩

/-- The keys in order. -/
def keys (m : SortedMap κ ν) : List κ := m.entries.map Prod.fst

/-- Whether a key is bound. -/
def contains (key : κ) (m : SortedMap κ ν) : Bool := key ∈ m.keys

@[simp] theorem mem_entries_insert {key : κ} {value : ν} {m : SortedMap κ ν} {entry : κ × ν} :
    entry ∈ (m.insert key value).entries ↔
      entry = (key, value) ∨ entry.1 ≠ key ∧ entry ∈ m.entries :=
  mem_insertEntry m.sorted

@[simp] theorem mem_keys_insert {key other : κ} {value : ν} {m : SortedMap κ ν} :
    other ∈ (m.insert key value).keys ↔ other = key ∨ other ∈ m.keys := by
  simp only [keys, List.mem_map, mem_entries_insert]
  constructor
  · rintro ⟨entry, rfl | ⟨-, hmem⟩, rfl⟩
    · exact .inl rfl
    · exact .inr ⟨entry, hmem, rfl⟩
  · rintro (rfl | ⟨entry, hmem, rfl⟩)
    · exact ⟨_, .inl rfl, rfl⟩
    · by_cases hkey : entry.1 = key
      · exact ⟨_, .inl rfl, hkey.symm⟩
      · exact ⟨entry, .inr ⟨hkey, hmem⟩, rfl⟩

@[simp] theorem contains_iff {key : κ} {m : SortedMap κ ν} :
    m.contains key = true ↔ key ∈ m.keys := by
  simp [contains]

theorem sorted_keys (m : SortedMap κ ν) : m.keys.Pairwise (· < ·) :=
  List.pairwise_map.mpr m.sorted

theorem nodup_keys (m : SortedMap κ ν) : m.keys.Nodup :=
  m.sorted_keys.imp ne_of_lt

end SortedMap

end Library
end Benchplane
