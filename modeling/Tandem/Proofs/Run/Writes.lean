import Tandem.Proofs.Run.Bench

/-!
# What is written to a disk

All that a run does to a disk is to store entries one after the other (`Disk.puts`). Where nothing
was written stands what stood there (`get?_puts_of_notMem`), elsewhere what was written last,
whatever the disk held (`get?_puts_of_mem`). To write the same once more changes nothing, not even
the order in which things are stored (`puts_puts`).

For a second run it matters how far two disks agree: which places are directories (`Disk.SameDirs`),
whether one only adds to the other (`Disk.Extends`), and which places hold already what is about to
be written (`Disk.Halfway`).
-/

namespace Tandem

namespace Disk

/-! ### Storing one entry -/

/-- The keys under which something is stored. -/
def keys (d : Disk) : List Key := d.entries.map Prod.fst

section PutIn

variable {k k' : Key} {entry entry' : Entry} {entries : List (Key × Entry)}

private theorem keys_putIn (k : Key) (entry : Entry) (entries : List (Key × Entry)) :
    (putIn k entry entries).map Prod.fst =
      if k ∈ entries.map Prod.fst then entries.map Prod.fst else entries.map Prod.fst ++ [k] := by
  induction entries with
  | nil => rfl
  | cons first rest ih =>
    by_cases h : first.1 = k
    · simp [putIn, h]
    · simp only [putIn, if_neg h, List.map_cons, ih, List.mem_cons, or_iff_right (Ne.symm h)]
      split <;> rfl

private theorem putIn_self (h : entries.lookup k = some entry) :
    putIn k entry entries = entries := by
  induction entries with
  | nil => cases h
  | cons first rest ih =>
    obtain ⟨k₁, e⟩ := first
    rw [List.lookup_cons] at h
    by_cases hk : k₁ = k
    · subst hk
      obtain rfl : e = entry := by simpa using h
      rw [putIn, if_pos rfl]
    · rw [beq_eq_false_iff_ne.mpr (Ne.symm hk)] at h
      rw [putIn, if_neg hk, ih h]

private theorem putIn_comm (hne : k ≠ k') (h : k ∈ entries.map Prod.fst) :
    putIn k' entry' (putIn k entry entries) = putIn k entry (putIn k' entry' entries) := by
  induction entries with
  | nil => cases h
  | cons first rest ih =>
    obtain ⟨k₁, e⟩ := first
    by_cases hk : k₁ = k
    · simp [putIn, hk, hne]
    · have hrest : k ∈ rest.map Prod.fst := List.mem_of_ne_of_mem (Ne.symm hk) h
      by_cases hk' : k₁ = k'
      · simp [putIn, hk', hne.symm]
      · simp [putIn, hk, hk', ih hrest]

end PutIn

variable {d d' : Disk} {k k' : Key} {entry entry' : Entry}

theorem keys_put (d : Disk) (k : Key) (entry : Entry) :
    (d.put k entry).keys = if k ∈ d.keys then d.keys else d.keys ++ [k] :=
  keys_putIn k entry d.entries

theorem mem_keys_put_self : k ∈ (d.put k entry).keys := by
  rw [keys_put]
  split <;> simp [*]

/-- What is stored already may be stored again. -/
theorem put_self (h : k ∈ d.keys) (hget : d.get? k = some entry) : d.put k entry = d := by
  have hlookup : d.entries.lookup k = some entry := by
    rcases hlookup : d.entries.lookup k with _ | e
    · obtain ⟨⟨k₁, e⟩, hmem, rfl⟩ := List.mem_map.mp h
      exact absurd (List.lookup_eq_none_iff.mp hlookup _ hmem) (by simp)
    · rw [get?, hlookup] at hget
      exact hget
  rw [put, putIn_self hlookup]

theorem put_comm (hne : k ≠ k') (h : k ∈ d.keys) :
    (d.put k entry).put k' entry' = (d.put k' entry').put k entry := by
  rw [put, put, put, put, putIn_comm hne h]

/-! ### Storing several entries -/

/-- The disk after entries have been stored one after the other. -/
def puts (d : Disk) : List (Key × Entry) → Disk
  | [] => d
  | (k, entry) :: w => (d.put k entry).puts w

@[simp] theorem puts_nil : d.puts [] = d := rfl

@[simp] theorem puts_cons (w : List (Key × Entry)) :
    d.puts ((k, entry) :: w) = (d.put k entry).puts w := rfl

@[simp] theorem puts_append (d : Disk) (w w' : List (Key × Entry)) :
    d.puts (w ++ w') = (d.puts w).puts w' := by
  induction w generalizing d with
  | nil => rfl
  | cons first w ih => exact ih _

variable {w : List (Key × Entry)}

theorem get?_puts_of_notMem (h : k ∉ w.map Prod.fst) : (d.puts w).get? k = d.get? k := by
  induction w generalizing d with
  | nil => rfl
  | cons first w ih =>
    rw [List.map_cons, List.mem_cons, not_or] at h
    rw [puts_cons, ih h.2, get?_put_of_ne _ _ _ h.1]

/-- **What was written is there**, whatever the disk held before. -/
theorem get?_puts_of_mem (h : k ∈ w.map Prod.fst) : (d.puts w).get? k = (d'.puts w).get? k := by
  induction w generalizing d d' with
  | nil => cases h
  | cons first w ih =>
    by_cases hw : k ∈ w.map Prod.fst
    · exact ih hw
    · obtain rfl : k = first.1 := (List.mem_cons.mp h).resolve_right hw
      rw [puts_cons, puts_cons, get?_puts_of_notMem hw, get?_puts_of_notMem hw, get?_put_self,
        get?_put_self]

/-- Before it is written anew, it does not matter what stands somewhere. -/
theorem puts_put_of_mem (h : k ∈ d.keys) (hw : k ∈ w.map Prod.fst) :
    (d.put k entry).puts w = d.puts w := by
  induction w generalizing d with
  | nil => cases hw
  | cons first w ih =>
    obtain ⟨k₁, e⟩ := first
    rw [puts_cons, puts_cons]
    by_cases hk : k = k₁
    · rw [hk, put_put]
    · have hkeys : k ∈ (d.put k₁ e).keys := by
        rw [keys_put]
        split
        · exact h
        · exact List.mem_append_left _ h
      rw [put_comm hk h, ih hkeys (List.mem_of_ne_of_mem hk hw)]

/-! ### Agreement of two disks -/

/-- The second disk stores what the first one does, and new keys after that. -/
def Grows (d d' : Disk) : Prop :=
  ∃ fresh, d'.keys = d.keys ++ fresh ∧ ∀ k ∈ fresh, k ∉ d.keys

/-- The same places are directories. -/
def SameDirs (d d' : Disk) : Prop :=
  ∀ k, d'.get? k = some .dir ↔ d.get? k = some .dir

theorem Grows.refl (d : Disk) : Grows d d := ⟨[], by simp⟩

theorem Grows.trans {d'' : Disk} (h : Grows d d') (h' : Grows d' d'') : Grows d d'' := by
  obtain ⟨fresh, hkeys, hfresh⟩ := h
  obtain ⟨fresh', hkeys', hfresh'⟩ := h'
  refine ⟨fresh ++ fresh', by rw [hkeys', hkeys, List.append_assoc], fun k hk hmem => ?_⟩
  rcases List.mem_append.mp hk with hk | hk
  · exact hfresh k hk hmem
  · exact hfresh' k hk (by rw [hkeys]; exact List.mem_append_left _ hmem)

theorem grows_put (d : Disk) (k : Key) (entry : Entry) : Grows d (d.put k entry) := by
  rw [Grows, keys_put]
  split
  · exact ⟨[], by simp⟩
  · exact ⟨[k], rfl, by simpa⟩

theorem grows_puts (d : Disk) (w : List (Key × Entry)) : Grows d (d.puts w) := by
  induction w generalizing d with
  | nil => exact Grows.refl d
  | cons first w ih => exact (grows_put d first.1 first.2).trans (ih _)

theorem Grows.mem_keys (h : Grows d d') (hk : k ∈ d.keys) : k ∈ d'.keys := by
  obtain ⟨fresh, hkeys, -⟩ := h
  rw [hkeys]
  exact List.mem_append_left _ hk

/-- **To write the same once more changes nothing.** -/
theorem puts_puts (d : Disk) (w : List (Key × Entry)) : (d.puts w).puts w = d.puts w := by
  induction w generalizing d with
  | nil => rfl
  | cons first w ih =>
    obtain ⟨k, entry⟩ := first
    have hkeys : k ∈ ((d.put k entry).puts w).keys := (grows_puts _ w).mem_keys mem_keys_put_self
    rw [puts_cons, puts_cons]
    by_cases hw : k ∈ w.map Prod.fst
    · rw [puts_put_of_mem hkeys hw, ih]
    · -- nothing has been written over the first entry
      have hget : ((d.put k entry).puts w).get? k = some entry := by
        rw [get?_puts_of_notMem hw, get?_put_self]
      rw [put_self hkeys hget, ih]

/-- The name that a key has as an entry of a directory. -/
private def nameIn? (dir k : Key) : Option Name :=
  match k.getLast? with
  | some (.entry n) => if k.dropLast = dir ∧ n.Plain then some n else none
  | _ => none

private theorem names_eq (d : Disk) (dir : Key) :
    d.names dir = (d.keys.filterMap (nameIn? dir)).dedup := by
  rw [names, keys, List.filterMap_map]
  rfl

/-- A directory lists what it did, if no new key is one of its entries. -/
theorem Grows.names_eq {dir : Key} (h : Grows d d')
    (hnew : ∀ k ∈ d'.keys, k ∉ d.keys → k.dropLast ≠ dir) : d'.names dir = d.names dir := by
  obtain ⟨fresh, hkeys, hfresh⟩ := h
  have hnone : fresh.filterMap (nameIn? dir) = [] := by
    refine List.filterMap_eq_nil_iff.mpr fun k hk => ?_
    have hne : k.dropLast ≠ dir :=
      hnew k (by rw [hkeys]; exact List.mem_append_right _ hk) (hfresh k hk)
    unfold nameIn?
    split
    · exact if_neg fun h => hne h.1
    · rfl
  rw [Disk.names_eq, Disk.names_eq, hkeys, List.filterMap_append, hnone, List.append_nil]

/-- The second disk adds to the first one, and takes no directory away. -/
structure Extends (d d' : Disk) : Prop where
  grows : Grows d d'
  dir : ∀ {k}, d.get? k = some .dir → d'.get? k = some .dir

theorem Extends.trans {d'' : Disk} (h : Extends d d') (h' : Extends d' d'') : Extends d d'' :=
  ⟨h.grows.trans h'.grows, fun hget => h'.dir (h.dir hget)⟩

theorem SameDirs.refl (d : Disk) : SameDirs d d := fun _ => Iff.rfl

theorem SameDirs.trans {d'' : Disk} (h : SameDirs d d') (h' : SameDirs d' d'') : SameDirs d d'' :=
  fun k => (h' k).trans (h k)

/-- Disks to which the same is written keep the same directories. -/
theorem SameDirs.puts (h : SameDirs d d') (w : List (Key × Entry)) :
    SameDirs (d.puts w) (d'.puts w) := by
  intro k
  by_cases hw : k ∈ w.map Prod.fst
  · rw [get?_puts_of_mem hw]
  · rw [get?_puts_of_notMem hw, get?_puts_of_notMem hw, h k]

theorem SameDirs.extends_puts (h : SameDirs d (d.puts w)) : Extends d (d.puts w) :=
  ⟨grows_puts d w, fun {k} => (h k).mpr⟩

/-- A file takes the place of no directory. -/
theorem sameDirs_put_file {data : Bytes} (h : d.get? k ≠ some .dir) :
    SameDirs d (d.put k (.file data)) := by
  intro k'
  by_cases hk : k' = k
  · subst hk
    rw [get?_put_self]
    exact iff_of_false (by simp) h
  · rw [get?_put_of_ne _ _ _ hk]

/-- The second disk is the first one with some of what is written after it in place: everywhere
stands what stood there, or what will stand there. -/
def Halfway (w : List (Key × Entry)) (d d' : Disk) : Prop :=
  ∀ k, d'.get? k = d.get? k ∨ d'.get? k = (d.puts w).get? k

theorem Halfway.refl (w : List (Key × Entry)) (d : Disk) : Halfway w d d := fun _ => .inl rfl

theorem halfway_puts (w : List (Key × Entry)) (d : Disk) : Halfway w d (d.puts w) :=
  fun _ => .inr rfl

theorem Halfway.get?_of_notMem (h : Halfway w d d') (hk : k ∉ w.map Prod.fst) :
    d'.get? k = d.get? k := by
  rcases h k with hget | hget
  · exact hget
  · rw [hget, get?_puts_of_notMem hk]

theorem Halfway.sameDirs (h : Halfway w d d') (hdirs : SameDirs d (d.puts w)) : SameDirs d d' := by
  intro k
  rcases h k with hget | hget
  · rw [hget]
  · rw [hget, hdirs k]

/-- Half way, some of what is to be written is written to both disks. -/
theorem Halfway.puts {w' : List (Key × Entry)} (h : Halfway (w ++ w') d d') :
    Halfway w' (d.puts w) (d'.puts w) := by
  intro k
  by_cases hk : k ∈ w.map Prod.fst
  · exact .inl (get?_puts_of_mem hk)
  · have hget := h k
    rw [puts_append] at hget
    rwa [get?_puts_of_notMem hk, get?_puts_of_notMem hk]

end Disk

end Tandem
