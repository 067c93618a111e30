/-
# Sorted association lists

Support library: a map with ordered keys as the list of its entries, in the order of their
keys.  `insertKey` replaces the value of a key that is there, and `ofEntries` inserts entries
one by one, so that of several with one key the last is kept.

* `ofEntries_perm`: entries with distinct keys are all kept.
* `Related.ofEntries`: the shape of a map depends on the keys alone; what relates the values
  of two lists of entries, key by key, relates those of their maps.
-/
import Mathlib.Data.List.Nodup
import Mathlib.Data.List.Perm.Basic

namespace SortedMap

/-! ## Related entries -/

section Related

variable {α β γ : Type} {R : β → γ → Prop} {map : List (α × β)} {map' : List (α × γ)}

/-- The entries have the same keys, and related values. -/
def Related (R : β → γ → Prop) : List (α × β) → List (α × γ) → Prop :=
  List.Forall₂ fun a b => a.1 = b.1 ∧ R a.2 b.2

/-- Every map is related to itself. -/
theorem Related.refl {R : β → β → Prop} (hR : ∀ b, R b b) (map : List (α × β)) :
    Related R map map := by
  induction map with
  | nil => exact .nil
  | cons entry rest ih => exact .cons ⟨rfl, hR entry.2⟩ ih

/-- And relations of maps compose. -/
theorem Related.trans {R : β → β → Prop} (hR : ∀ a b c, R a b → R b c → R a c)
    {map₁ map₂ map₃ : List (α × β)} (h : Related R map₁ map₂) (h' : Related R map₂ map₃) :
    Related R map₁ map₃ := by
  induction h generalizing map₃ with
  | nil => exact h'
  | cons hentry _ ih =>
    cases h' with
    | cons hentry' hrest' =>
      exact .cons ⟨hentry.1.trans hentry'.1, hR _ _ _ hentry.2 hentry'.2⟩ (ih hrest')

/-- Related maps have the same keys. -/
theorem Related.keys (h : Related R map map') : map.map Prod.fst = map'.map Prod.fst := by
  induction h with
  | nil => rfl
  | cons hentry _ ih => rw [List.map_cons, List.map_cons, hentry.1, ih]

end Related

/-! ## Insertion -/

variable {α β γ : Type} [LT α] [DecidableLT α] [DecidableEq α]

/-- Set the value of a key. -/
def insertKey (key : α) (value : β) : List (α × β) → List (α × β)
  | [] => [(key, value)]
  | entry :: rest =>
    if key < entry.1 then (key, value) :: entry :: rest
    else if key = entry.1 then (key, value) :: rest
    else entry :: insertKey key value rest

/-- Insert some entries, one after the other. -/
def insertAll (map entries : List (α × β)) : List (α × β) :=
  entries.foldl (fun map entry => insertKey entry.1 entry.2 map) map

/-- The map of some entries. -/
def ofEntries (entries : List (α × β)) : List (α × β) := insertAll [] entries

section Distinct

variable {key : α} {map entries : List (α × β)}

/-- A new key adds an entry. -/
theorem insertKey_perm (h : key ∉ map.map Prod.fst) (value : β) :
    (insertKey key value map).Perm ((key, value) :: map) := by
  induction map with
  | nil => exact List.Perm.refl _
  | cons entry rest ih =>
    rw [List.map_cons, List.mem_cons, not_or] at h
    unfold insertKey
    split_ifs with hlt heq
    · exact List.Perm.refl _
    · -- it would replace the value of this entry
      exact absurd heq h.1
    · exact ((ih h.2).cons entry).trans (List.Perm.swap _ _ rest)

/-- New and distinct keys add their entries. -/
theorem insertAll_perm (h : (entries.map Prod.fst ++ map.map Prod.fst).Nodup) :
    (insertAll map entries).Perm (entries ++ map) := by
  induction entries generalizing map with
  | nil => exact List.Perm.refl _
  | cons entry rest ih =>
    rw [List.map_cons, List.cons_append, List.nodup_cons, List.mem_append, not_or] at h
    obtain ⟨⟨hrest, hmap⟩, hnodup⟩ := h
    have hinsert := insertKey_perm hmap entry.2
    have hkeys : (rest.map Prod.fst ++ (insertKey entry.1 entry.2 map).map Prod.fst).Nodup := by
      rw [(((hinsert.map Prod.fst).append_left _).trans List.perm_middle).nodup_iff]
      refine List.nodup_cons.mpr ⟨?_, hnodup⟩
      rw [List.mem_append, not_or]
      exact ⟨hrest, hmap⟩
    exact (ih hkeys).trans ((hinsert.append_left rest).trans List.perm_middle)

/-- **Entries with distinct keys are the entries of their map.** -/
theorem ofEntries_perm (h : (entries.map Prod.fst).Nodup) : (ofEntries entries).Perm entries := by
  have hperm : (insertAll [] entries).Perm (entries ++ []) :=
    insertAll_perm (by rwa [List.map_nil, List.append_nil])
  rwa [List.append_nil] at hperm

end Distinct

section Shape

variable {R : β → γ → Prop} {map entries : List (α × β)} {map' entries' : List (α × γ)}

/-- Inserting related values under a key. -/
theorem Related.insertKey (h : Related R map map') (key : α) {b : β} {c : γ} (hvalue : R b c) :
    Related R (insertKey key b map) (SortedMap.insertKey key c map') := by
  induction h with
  | nil => exact .cons ⟨rfl, hvalue⟩ .nil
  | @cons entry entry' rest rest' hentry hrest ih =>
    -- both insertions compare with the same keys
    unfold SortedMap.insertKey
    rw [← hentry.1]
    split_ifs
    · exact .cons ⟨rfl, hvalue⟩ (.cons hentry hrest)
    · exact .cons ⟨rfl, hvalue⟩ hrest
    · exact .cons hentry ih

/-- And under several keys. -/
theorem Related.insertAll (h : Related R entries entries') (hmap : Related R map map') :
    Related R (insertAll map entries) (SortedMap.insertAll map' entries') := by
  induction h generalizing map map' with
  | nil => exact hmap
  | @cons entry entry' rest rest' hentry hrest ih =>
    show Related R (SortedMap.insertAll (SortedMap.insertKey entry.1 entry.2 map) rest)
      (SortedMap.insertAll (SortedMap.insertKey entry'.1 entry'.2 map') rest')
    apply ih
    rw [hentry.1]
    exact hmap.insertKey entry'.1 hentry.2

/-- **The shape of a map depends on the keys alone.** -/
theorem Related.ofEntries (h : Related R entries entries') :
    Related R (ofEntries entries) (SortedMap.ofEntries entries') :=
  h.insertAll .nil

end Shape

end SortedMap
