/-
The keys of dictionaries: a key is one under which there is a value, and
inserting and erasing do to the keys what they do to the look-ups.
-/
import PageTemplate.Dictionary
import Mathlib.Data.List.Flatten
import Mathlib.Data.List.Nodup

namespace PageTemplate.Dictionary

variable {α : Type}

theorem get?_eq_none_iff {d : Dictionary α} {k : String} : d.get? k = none ↔ k ∉ d.keys := by
  induction d with
  | nil => simp [get?, keys]
  | cons entry d ih =>
    obtain ⟨a, b⟩ := entry
    by_cases h : a = k
    · subst h; simp [get?, keys]
    · have hne : ¬ k = a := fun e => h e.symm
      simpa [get?, keys, h, hne] using ih

theorem get?_isSome_iff {d : Dictionary α} {k : String} : (d.get? k).isSome ↔ k ∈ d.keys := by
  rw [Option.isSome_iff_ne_none, ne_eq, get?_eq_none_iff, not_not]

theorem contains_iff {d : Dictionary α} {k : String} : d.contains k = true ↔ k ∈ d.keys :=
  get?_isSome_iff

theorem get?_append (d d' : Dictionary α) (k : String) : get? (d ++ d') k = (d.get? k).or (d'.get? k) := by
  induction d with
  | nil => rfl
  | cons entry d ih =>
    obtain ⟨a, b⟩ := entry
    by_cases h : a = k <;> simp [get?, h, ih]

theorem get?_append_cons_other {k k' : String} (h : k' ≠ k) (before : Dictionary α) (v : α)
    (after : Dictionary α) : get? (before ++ (k, v) :: after) k' = get? (before ++ after) k' := by
  rw [get?_append, get?_append, get?, if_neg h.symm]

theorem get?_append_cons_self {k : String} {before : Dictionary α} (h : k ∉ before.keys) (v : α)
    (after : Dictionary α) : get? (before ++ (k, v) :: after) k = some v := by
  rw [get?_append, get?_eq_none_iff.2 h, Option.none_or, get?, if_pos rfl]

theorem mem_of_get? {d : Dictionary α} {k : String} {v : α} (h : d.get? k = some v) : (k, v) ∈ d := by
  induction d with
  | nil => simp [get?] at h
  | cons entry d ih =>
    obtain ⟨a, b⟩ := entry
    simp only [get?] at h
    split at h
    · rename_i heq; cases h; simp [heq]
    · exact List.mem_cons_of_mem _ (ih h)

theorem mem_keys_of_mem {d : Dictionary α} {k : String} {v : α} (h : (k, v) ∈ d) : k ∈ d.keys :=
  List.mem_map_of_mem h

theorem get?_of_mem {d : Dictionary α} (hd : d.Distinct) {k : String} {v : α} (h : (k, v) ∈ d) :
    d.get? k = some v := by
  induction d with
  | nil => cases h
  | cons entry d ih =>
    obtain ⟨a, b⟩ := entry
    simp only [Distinct, keys, List.map_cons, List.nodup_cons] at hd
    rcases List.mem_cons.1 h with heq | hmem
    · cases heq; simp [get?]
    · have hne : a ≠ k := fun e => hd.1 (e ▸ List.mem_map_of_mem hmem)
      simpa [get?, hne] using ih hd.2 hmem

theorem distinct_cons_iff {k : String} {v : α} {d : Dictionary α} :
    Distinct ((k, v) :: d) ↔ k ∉ d.keys ∧ d.Distinct := by
  rw [Distinct, keys, List.map_cons, List.nodup_cons]
  rfl

theorem distinct_append_cons_iff {before after : Dictionary α} {k : String} {v : α} :
    Distinct (before ++ (k, v) :: after) ↔ k ∉ keys (before ++ after) ∧ Distinct (before ++ after) := by
  simp only [Distinct, keys, List.map_append, List.map_cons, List.nodup_middle, List.nodup_cons]

/-- Of two entries with one key both have the same value. -/
def Consistent (d : Dictionary α) : Prop := ∀ k v w, (k, v) ∈ d → (k, w) ∈ d → v = w

theorem Distinct.consistent {d : Dictionary α} (hd : d.Distinct) : d.Consistent := fun _ _ _ hv hw =>
  Option.some.inj ((get?_of_mem hd hv).symm.trans (get?_of_mem hd hw))

theorem Consistent.tail {entry : String × α} {d : Dictionary α} (h : Consistent (entry :: d)) :
    d.Consistent := fun k v w hv hw =>
  h k v w (List.mem_cons_of_mem _ hv) (List.mem_cons_of_mem _ hw)

theorem Consistent.get?_of_mem {d : Dictionary α} (h : d.Consistent) {k : String} {v : α} (hmem : (k, v) ∈ d) :
    d.get? k = some v := by
  obtain ⟨w, hw⟩ := Option.isSome_iff_exists.1 (get?_isSome_iff.2 (mem_keys_of_mem hmem))
  rw [hw, h k v w hmem (mem_of_get? hw)]

/-- What is found does not depend on the order of entries that agree, nor on whether some come twice. -/
theorem get?_congr {d d' : Dictionary α} (hd : d.Consistent) (h : ∀ entry, entry ∈ d' ↔ entry ∈ d)
    (k : String) : d'.get? k = d.get? k := by
  cases hget : d'.get? k with
  | none =>
    rw [get?_eq_none_iff] at hget
    refine (get?_eq_none_iff.2 fun hmem => hget ?_).symm
    obtain ⟨entry, hentry, rfl⟩ := List.mem_map.1 hmem
    exact List.mem_map_of_mem ((h entry).2 hentry)
  | some v => exact (hd.get?_of_mem ((h _).1 (mem_of_get? hget))).symm

theorem mem_keys_insert {d : Dictionary α} {k k' : String} {v : α} :
    k' ∈ (d.insert k v).keys ↔ k' = k ∨ k' ∈ d.keys := by
  rw [← get?_isSome_iff, ← get?_isSome_iff]
  by_cases h : k' = k
  · subst h; simp [get?_insert_self]
  · simp [get?_insert_other d v h, h]

theorem insert_of_not_mem {d : Dictionary α} {k : String} (h : k ∉ d.keys) (v : α) :
    d.insert k v = d ++ [(k, v)] := by
  induction d with
  | nil => rfl
  | cons entry d ih =>
    rw [keys, List.map_cons, List.mem_cons, not_or] at h
    rw [Dictionary.insert, if_neg fun he => h.1 he.symm, ih h.2, List.cons_append]

/-- A new key comes last, and a known one stays where it is. -/
theorem keys_insert (d : Dictionary α) (k : String) (v : α) :
    (d.insert k v).keys = if k ∈ d.keys then d.keys else d.keys ++ [k] := by
  split
  · rename_i hmem
    induction d with
    | nil => cases hmem
    | cons entry d ih =>
      obtain ⟨a, b⟩ := entry
      by_cases hk : a = k
      · simp [Dictionary.insert, keys, hk]
      · have hkeys := ih ((List.mem_cons.1 hmem).resolve_left (Ne.symm hk))
        simp only [keys] at hkeys
        simp [Dictionary.insert, keys, hk, hkeys]
  · rename_i hnot
    rw [insert_of_not_mem hnot]
    simp [keys]

/-- What is found once one value stands under several keys. -/
theorem get?_foldl_insert (ks : List String) (v : α) (d : Dictionary α) (k : String) :
    get? (ks.foldl (fun d k => d.insert k v) d) k = if k ∈ ks then some v else d.get? k := by
  induction ks generalizing d with
  | nil => rw [List.foldl_nil, if_neg List.not_mem_nil]
  | cons first ks ih =>
    rw [List.foldl_cons, ih]
    by_cases hfirst : k = first
    · subst hfirst
      simp [get?_insert_self]
    · simp [get?_insert_other d v hfirst, hfirst]

theorem Distinct.insert {d : Dictionary α} (hd : d.Distinct) (k : String) (v : α) :
    (d.insert k v).Distinct := by
  induction d with
  | nil => simp [Dictionary.insert, Distinct, keys]
  | cons entry d ih =>
    obtain ⟨a, b⟩ := entry
    simp only [Distinct, keys, List.map_cons, List.nodup_cons] at hd
    by_cases h : a = k
    · subst h
      simpa [Dictionary.insert, Distinct, keys] using hd
    · have hnot : a ∉ (Dictionary.insert d k v).keys := fun hmem => by
        rcases mem_keys_insert.1 hmem with he | hm
        · exact h he
        · exact hd.1 hm
      simp only [Dictionary.insert, h, if_false, Distinct, keys, List.map_cons, List.nodup_cons]
      exact ⟨hnot, ih hd.2⟩

theorem mem_insert {d : Dictionary α} (hd : d.Distinct) {k : String} {v : α} {entry : String × α} :
    entry ∈ d.insert k v ↔ entry = (k, v) ∨ (entry ∈ d ∧ entry.1 ≠ k) := by
  obtain ⟨k', v'⟩ := entry
  have hiff : ∀ {d : Dictionary α}, d.Distinct → ((k', v') ∈ d ↔ d.get? k' = some v') := fun hd =>
    ⟨get?_of_mem hd, mem_of_get?⟩
  rw [hiff (hd.insert k v), hiff hd]
  by_cases h : k' = k
  · subst h
    simp [get?_insert_self, eq_comm]
  · simp [get?_insert_other d v h, h]

/-- Inserting entries that agree with each other and with what is there loses none of them. -/
theorem mem_update {d : Dictionary α} (hd : d.Distinct) {other : Dictionary α}
    (h : Consistent (d ++ other)) {entry : String × α} :
    entry ∈ d.update other ↔ entry ∈ d ∨ entry ∈ other := by
  induction other generalizing d with
  | nil => simp [update]
  | cons first other ih =>
    have hinsert : ∀ entry, entry ∈ d.insert first.1 first.2 ↔ entry ∈ d ∨ entry = first :=
        fun entry => by
      rw [mem_insert hd]
      constructor
      · rintro (rfl | ⟨hmem, -⟩)
        · exact .inr rfl
        · exact .inl hmem
      · rintro (hmem | rfl)
        · by_cases hkey : entry.1 = first.1
          · have hvalue := h entry.1 entry.2 first.2 (List.mem_append_left _ hmem)
              (List.mem_append_right _ (by rw [hkey]; exact List.mem_cons_self))
            exact .inl (Prod.ext hkey hvalue)
          · exact .inr ⟨hmem, hkey⟩
        · exact .inl rfl
    have hkept : ∀ {entry}, entry ∈ d.insert first.1 first.2 ++ other → entry ∈ d ++ first :: other :=
      fun hmem => by
        simpa [hinsert, or_assoc] using hmem
    have hupdate : d.update (first :: other) = (d.insert first.1 first.2).update other := rfl
    rw [hupdate, ih (hd.insert _ _) fun k v w hv hw => h k v w (hkept hv) (hkept hw), hinsert,
      List.mem_cons, or_assoc]

/-- The entries of a dictionary that is made of entries which agree. -/
theorem mem_ofEntries {entries : Dictionary α} (h : entries.Consistent) {entry : String × α} :
    entry ∈ ofEntries entries ↔ entry ∈ entries := by
  have hnil : Distinct ([] : Dictionary α) := List.nodup_nil
  rw [ofEntries, mem_update hnil (by simpa using h)]
  simp

theorem insert_insert (d : Dictionary α) (k : String) (v w : α) : (d.insert k v).insert k w = d.insert k w := by
  induction d with
  | nil => simp [Dictionary.insert]
  | cons entry d ih =>
    obtain ⟨a, b⟩ := entry
    by_cases h : a = k <;> simp [Dictionary.insert, h, ih]

/-- Replacing the value of a key and inserting another key go in either order. -/
theorem insert_comm {d : Dictionary α} {k k' : String} (hmem : k ∈ d.keys) (hne : k' ≠ k) (v v' : α) :
    (d.insert k' v').insert k v = (d.insert k v).insert k' v' := by
  induction d with
  | nil => cases hmem
  | cons entry d ih =>
    obtain ⟨a, b⟩ := entry
    by_cases hk : a = k
    · subst hk
      simp [Dictionary.insert, hne.symm]
    · have hmem : k ∈ keys d := (List.mem_cons.1 hmem).resolve_left fun he => hk he.symm
      by_cases hk' : a = k' <;> simp [Dictionary.insert, hk, hk', hne, ih hmem]

/-- The value of a key can be replaced before other keys are updated. -/
theorem update_insert_comm {d other : Dictionary α} {k : String} (hmem : k ∈ d.keys) (hnot : k ∉ other.keys)
    (v : α) : (d.update other).insert k v = (d.insert k v).update other := by
  induction other generalizing d with
  | nil => rfl
  | cons entry other ih =>
    rw [keys, List.map_cons, List.mem_cons, not_or] at hnot
    have hlater := ih (d := d.insert entry.1 entry.2) (mem_keys_insert.2 (.inr hmem)) hnot.2
    rw [insert_comm hmem (Ne.symm hnot.1)] at hlater
    exact hlater

/-- Updating by a dictionary with one more entry is updating by it and then inserting the entry. -/
theorem update_insert (d : Dictionary α) {other : Dictionary α} (h : other.Distinct) (k : String) (v : α) :
    d.update (other.insert k v) = (d.update other).insert k v := by
  induction other generalizing d with
  | nil => rfl
  | cons entry other ih =>
    obtain ⟨a, b⟩ := entry
    obtain ⟨hnot, hdistinct⟩ := distinct_cons_iff.1 h
    by_cases hk : a = k
    · subst hk
      have hmem : a ∈ (d.insert a b).keys := mem_keys_insert.2 (.inl rfl)
      have hearly := update_insert_comm hmem hnot v
      rw [insert_insert] at hearly
      rw [Dictionary.insert, if_pos rfl]
      exact hearly.symm
    · rw [Dictionary.insert, if_neg hk]
      exact ih (d.insert a b) hdistinct

theorem Distinct.sublist {d d' : Dictionary α} (hd : d.Distinct) (h : d'.Sublist d) : d'.Distinct :=
  List.Nodup.sublist (h.map _) hd

theorem erase_sublist (d : Dictionary α) (k : String) : (d.erase k).Sublist d := List.filter_sublist

theorem erase_of_not_mem {d : Dictionary α} {k : String} (h : k ∉ d.keys) : d.erase k = d := by
  refine List.filter_eq_self.2 fun entry hmem => ?_
  have hne : entry.1 ≠ k := fun e => h (e ▸ List.mem_map_of_mem hmem)
  simpa using hne

end PageTemplate.Dictionary
