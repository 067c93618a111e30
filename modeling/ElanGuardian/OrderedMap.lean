/-
# Maps with compared keys

Support library: a map is the list of its entries, in strictly ascending order of their keys,
for a comparison of keys that need not tell equal keys from each other.  Inserting at a key
that compares as equal replaces the value and keeps the key.

`ofEntries_entries`: a map is what the insertion of its entries makes.
-/
import Mathlib.Data.List.Pairwise

open Std

/-- Values are compared as their images. -/
theorem transCmp_comap {α β : Type} {cmp : β → β → Ordering} [TransCmp cmp] (f : α → β) :
    TransCmp fun a b => cmp (f a) (f b) where
  eq_swap := ‹TransCmp cmp›.toOrientedCmp.eq_swap
  isLE_trans h h' := ‹TransCmp cmp›.isLE_trans h h'

/-- A map, with its entries in ascending order of the keys. -/
@[ext] structure OrderedMap {α : Type} (cmp : α → α → Ordering) (β : Type) where
  entries : List (α × β)
  sorted : entries.Pairwise fun a b => cmp a.1 b.1 = .lt

namespace OrderedMap

variable {α β : Type} {cmp : α → α → Ordering}

def empty : OrderedMap cmp β := ⟨[], List.Pairwise.nil⟩

/-! ## Insertion -/

/-- Set the value of a key in a list of entries. -/
def insertEntry (cmp : α → α → Ordering) (key : α) (value : β) : List (α × β) → List (α × β)
  | [] => [(key, value)]
  | entry :: rest =>
    match cmp key entry.1 with
    | .lt => (key, value) :: entry :: rest
    | .eq => (entry.1, value) :: rest
    | .gt => entry :: insertEntry cmp key value rest

/-- What holds of the key of every entry, and of the new key, holds after the insertion. -/
theorem forall_insertEntry {p : α → Prop} {key : α} (hkey : p key) (value : β)
    {entries : List (α × β)} (h : ∀ entry ∈ entries, p entry.1) :
    ∀ entry ∈ insertEntry cmp key value entries, p entry.1 := by
  induction entries with
  | nil =>
    rintro entry hentry
    rw [insertEntry, List.mem_singleton] at hentry
    rw [hentry]
    exact hkey
  | cons first rest ih =>
    obtain ⟨hfirst, hrest⟩ := List.forall_mem_cons.mp h
    unfold insertEntry
    cases cmp key first.1 with
    | lt => exact List.forall_mem_cons.mpr ⟨hkey, h⟩
    | eq => exact List.forall_mem_cons.mpr ⟨hfirst, hrest⟩
    | gt => exact List.forall_mem_cons.mpr ⟨hfirst, ih hrest⟩

/-- Inserting an entry leaves the keys in order. -/
theorem insertEntry_sorted [TransCmp cmp] (key : α) (value : β) {entries : List (α × β)}
    (h : entries.Pairwise fun a b => cmp a.1 b.1 = .lt) :
    (insertEntry cmp key value entries).Pairwise fun a b => cmp a.1 b.1 = .lt := by
  induction entries with
  | nil => exact List.pairwise_singleton _ _
  | cons first rest ih =>
    obtain ⟨hfirst, hrest⟩ := List.pairwise_cons.mp h
    unfold insertEntry
    cases hcmp : cmp key first.1 with
    | lt =>
      refine List.pairwise_cons.mpr ⟨fun entry hentry => ?_, h⟩
      rcases List.mem_cons.mp hentry with rfl | hentry
      · exact hcmp
      · exact TransCmp.lt_trans hcmp (hfirst entry hentry)
    | eq => exact List.pairwise_cons.mpr ⟨hfirst, hrest⟩
    | gt =>
      refine List.pairwise_cons.mpr ⟨?_, ih hrest⟩
      exact forall_insertEntry (p := fun key => cmp first.1 key = .lt)
        (OrientedCmp.lt_of_gt hcmp) value hfirst

def insert [TransCmp cmp] (key : α) (value : β) (map : OrderedMap cmp β) : OrderedMap cmp β :=
  ⟨insertEntry cmp key value map.entries, insertEntry_sorted key value map.sorted⟩

/-- The map of some entries, inserted one after the other. -/
def ofEntries [TransCmp cmp] (entries : List (α × β)) : OrderedMap cmp β :=
  entries.foldl (fun map entry => map.insert entry.1 entry.2) empty

/-! ## The map of the entries of a map -/

/-- A key behind all others is appended. -/
theorem insertEntry_last [OrientedCmp cmp] {key : α} (value : β) {entries : List (α × β)}
    (h : ∀ entry ∈ entries, cmp entry.1 key = .lt) :
    insertEntry cmp key value entries = entries ++ [(key, value)] := by
  induction entries with
  | nil => rfl
  | cons first rest ih =>
    obtain ⟨hfirst, hrest⟩ := List.forall_mem_cons.mp h
    rw [insertEntry, OrientedCmp.gt_of_lt hfirst]
    exact congrArg (first :: ·) (ih hrest)

/-- Entries behind those of a map are appended. -/
theorem foldl_insert [TransCmp cmp] {entries : List (α × β)} {map : OrderedMap cmp β}
    (h : (map.entries ++ entries).Pairwise fun a b => cmp a.1 b.1 = .lt) :
    (entries.foldl (fun map entry => map.insert entry.1 entry.2) map).entries =
      map.entries ++ entries := by
  induction entries generalizing map with
  | nil => exact (List.append_nil _).symm
  | cons entry rest ih =>
    have hlast : ∀ e ∈ map.entries, cmp e.1 entry.1 = .lt := fun e he =>
      (List.pairwise_append.mp h).2.2 e he entry List.mem_cons_self
    have hinsert : (map.insert entry.1 entry.2).entries = map.entries ++ [entry] :=
      insertEntry_last entry.2 hlast
    rw [List.foldl_cons, ih (by rwa [hinsert, List.append_assoc, List.singleton_append]),
      hinsert, List.append_assoc, List.singleton_append]

/-- Entries in ascending order are the entries of their map. -/
theorem entries_ofEntries [TransCmp cmp] {entries : List (α × β)}
    (h : entries.Pairwise fun a b => cmp a.1 b.1 = .lt) :
    (ofEntries entries : OrderedMap cmp β).entries = entries :=
  foldl_insert (by rwa [empty, List.nil_append])

/-- **A map is what the insertion of its entries makes.** -/
theorem ofEntries_entries [TransCmp cmp] (map : OrderedMap cmp β) :
    ofEntries map.entries = map :=
  OrderedMap.ext (entries_ofEntries map.sorted)

end OrderedMap
