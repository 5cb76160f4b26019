/-
Slots as they grow and shrink.

Reading fields adds waiting properties one after the other (`addAll`): under
each variable they stand in the order of reading (`getD_get?_addAll`), and
none is lost or doubled (`properties_addAll_perm`). Supplying values serves
some variables, each with all its properties (`served`), and takes exactly the
supplied names away (`supply_eq`).
-/
import PageTemplate.Field.Slots
import PageTemplate.Proofs.Dictionary

namespace PageTemplate.SlotMap

/-- The properties that wait for some variable. -/
def properties (slots : SlotMap) : List String := slots.flatMap (·.2)

/-- Lets properties wait, each for its variable, one after the other. -/
def addAll (slots : SlotMap) (waiting : List (String × String)) : SlotMap :=
  waiting.foldl (fun slots (awaited, property) => slots.add awaited property) slots

/-- A variable is in the slots only if something waits for it. -/
def Occupied (slots : SlotMap) : Prop := ∀ entry ∈ slots, entry.2 ≠ []

/-! ## Growing -/

theorem getD_get?_add (slots : SlotMap) (awaited property v : String) :
    ((slots.add awaited property).get? v).getD [] =
      (slots.get? v).getD [] ++ if awaited = v then [property] else [] := by
  unfold add
  by_cases h : awaited = v
  · subst h; simp [Dictionary.get?_insert_self]
  · simp [Dictionary.get?_insert_other _ _ (Ne.symm h), h]

theorem addAll_cons (slots : SlotMap) (awaited property : String) (waiting : List (String × String)) :
    slots.addAll ((awaited, property) :: waiting) = (slots.add awaited property).addAll waiting := rfl

theorem addAll_append (slots : SlotMap) (waiting others : List (String × String)) :
    slots.addAll (waiting ++ others) = (slots.addAll waiting).addAll others := List.foldl_append

/-- Under a variable the properties stand in the order in which they were added. -/
theorem getD_get?_addAll (slots : SlotMap) (waiting : List (String × String)) (v : String) :
    ((slots.addAll waiting).get? v).getD [] =
      (slots.get? v).getD [] ++ (waiting.filter (·.1 = v)).map (·.2) := by
  induction waiting generalizing slots with
  | nil => simp [addAll]
  | cons entry waiting ih =>
    obtain ⟨awaited, property⟩ := entry
    rw [addAll_cons, ih, getD_get?_add, List.append_assoc]
    by_cases h : awaited = v <;> simp [h]

theorem add_cons (k : String) (names : List String) (slots : SlotMap) (awaited property : String) :
    add ((k, names) :: slots) awaited property =
      if k = awaited then (k, names ++ [property]) :: slots
      else (k, names) :: slots.add awaited property := by
  by_cases h : k = awaited <;> simp [add, Dictionary.insert, Dictionary.get?, h]

theorem properties_add_perm (slots : SlotMap) (awaited property : String) :
    (slots.add awaited property).properties.Perm (slots.properties ++ [property]) := by
  induction slots with
  | nil => simp [add, properties, Dictionary.insert, Dictionary.get?]
  | cons entry slots ih =>
    obtain ⟨k, names⟩ := entry
    rw [add_cons]
    by_cases h : k = awaited
    · rw [if_pos h]
      simp only [properties, List.flatMap_cons, List.append_assoc]
      exact List.perm_append_comm.append_left names
    · rw [if_neg h]
      simp only [properties, List.flatMap_cons, List.append_assoc]
      exact ih.append_left names

theorem properties_addAll_perm (slots : SlotMap) (waiting : List (String × String)) :
    (slots.addAll waiting).properties.Perm (slots.properties ++ waiting.map (·.2)) := by
  induction waiting generalizing slots with
  | nil => simp [addAll]
  | cons entry waiting ih =>
    obtain ⟨awaited, property⟩ := entry
    rw [addAll_cons]
    refine (ih _).trans ?_
    simpa using (properties_add_perm slots awaited property).append_right (waiting.map (·.2))

theorem Occupied.add {slots : SlotMap} (h : slots.Occupied) (awaited property : String) :
    (slots.add awaited property).Occupied := by
  induction slots with
  | nil => simp [Occupied, SlotMap.add, Dictionary.insert]
  | cons entry slots ih =>
    obtain ⟨k, names⟩ := entry
    obtain ⟨hfirst, hrest⟩ := List.forall_mem_cons.1 h
    rw [add_cons]
    split
    · exact List.forall_mem_cons.2 ⟨by simp, hrest⟩
    · exact List.forall_mem_cons.2 ⟨hfirst, ih hrest⟩

/-- Growing keeps what each single addition keeps. -/
theorem addAll_induct {P : SlotMap → Prop} {slots : SlotMap} {waiting : List (String × String)}
    (h : P slots)
    (add : ∀ slots awaited property, (awaited, property) ∈ waiting → P slots →
      P (slots.add awaited property)) :
    P (slots.addAll waiting) := by
  induction waiting generalizing slots with
  | nil => exact h
  | cons entry waiting ih =>
    exact ih (add slots entry.1 entry.2 List.mem_cons_self h) fun slots awaited property hmem =>
      add slots awaited property (List.mem_cons_of_mem _ hmem)

/-! ## Shrinking -/

variable {α σ : Type}

theorem Occupied.erase {slots : SlotMap} (h : slots.Occupied) (k : String) : Occupied (slots.erase k) :=
  fun entry hmem => h entry (List.mem_of_mem_filter hmem)

theorem without_sublist (slots : SlotMap) (values : Dictionary α) : (slots.without values).Sublist slots :=
  List.filter_sublist

theorem without_nil (slots : SlotMap) : slots.without ([] : Dictionary α) = slots :=
  List.filter_eq_self.2 fun entry _ => by simp [Dictionary.contains, Dictionary.get?]

theorem without_cons (slots : SlotMap) (name : String) (value : α) (values : Dictionary α) :
    slots.without ((name, value) :: values) = without (slots.erase name) values := by
  unfold without Dictionary.erase
  rw [List.filter_filter]
  refine List.filter_congr fun entry _ => ?_
  by_cases h : name = entry.1
  · subst h; simp [Dictionary.contains, Dictionary.get?]
  · simp [Dictionary.contains, Dictionary.get?, h, Ne.symm h]

/-- The variables that get a value, in order, each with the properties that wait for it. -/
def served (slots : SlotMap) : (values : Dictionary α) → List (String × List String × α)
  | [] => []
  | (name, value) :: values =>
    match slots.get? name with
    | some (property :: properties) =>
      (name, property :: properties, value) :: served (slots.erase name) values
    | _ => served slots values

/-- What is served are entries of the slots, each with the value of its variable. -/
theorem mem_of_mem_served {values : Dictionary α} {slots : SlotMap}
    {entry : String × List String × α} (h : entry ∈ slots.served values) :
    (entry.1, entry.2.1) ∈ slots ∧ (entry.1, entry.2.2) ∈ values := by
  induction values generalizing slots with
  | nil => cases h
  | cons first values ih =>
    obtain ⟨name, value⟩ := first
    rw [served] at h
    split at h
    · rename_i property properties hget
      rcases List.mem_cons.1 h with rfl | h
      · exact ⟨Dictionary.mem_of_get? hget, List.mem_cons_self⟩
      · obtain ⟨hslots, hvalues⟩ := ih h
        exact ⟨List.mem_of_mem_filter hslots, List.mem_cons_of_mem _ hvalues⟩
    · obtain ⟨hslots, hvalues⟩ := ih h
      exact ⟨hslots, List.mem_cons_of_mem _ hvalues⟩

/-- Serves one variable: its properties get the value. -/
def serve {m : Type → Type} [Monad m] (assign : σ → String → α → m σ)
    (resolved : String → List String → m Unit) (state : σ) (entry : String × List String × α) : m σ := do
  let state ← assignAll assign entry.2.2 state entry.2.1
  resolved entry.1 entry.2.1
  return state

theorem assignAll_eq {m : Type → Type} [Monad m] [LawfulMonad m] (assign : σ → String → α → m σ)
    (value : α) (state : σ) (names : List String) :
    assignAll assign value state names =
      names.foldlM (fun state name => assign state name value) state := by
  induction names generalizing state with
  | nil => rfl
  | cons name names ih =>
    rw [assignAll, List.foldlM_cons]
    exact bind_congr fun state => ih state

/-- Supplying values serves the variables that something waits for and takes all supplied names out of
the slots. -/
theorem supply_eq {m : Type → Type} [Monad m] [LawfulMonad m] (assign : σ → String → α → m σ)
    (resolved : String → List String → m Unit) (values : Dictionary α) (state : σ) {slots : SlotMap}
    (h : slots.Occupied) :
    supply assign resolved values state slots = do
      let state ← (slots.served values).foldlM (serve assign resolved) state
      return (state, slots.without values) := by
  induction values generalizing state slots with
  | nil => simp [supply, served, without_nil]
  | cons entry values ih =>
    obtain ⟨name, value⟩ := entry
    rw [supply, served, without_cons]
    cases hget : slots.get? name with
    | none =>
      have hnot : Dictionary.erase slots name = slots :=
        Dictionary.erase_of_not_mem (Dictionary.get?_eq_none_iff.1 hget)
      rw [hnot]
      exact ih state h
    | some names =>
      cases names with
      | nil => exact absurd rfl (h _ (Dictionary.mem_of_get? hget))
      | cons property properties =>
        simp only [List.foldlM_cons, serve, bind_assoc, pure_bind]
        refine bind_congr fun state => bind_congr fun _ => ?_
        exact ih state (h.erase name)

/-! ## What is handed over -/

theorem without_append (slots : SlotMap) (values others : Dictionary α) :
    slots.without (values ++ others) = (slots.without values).without others := by
  induction values generalizing slots with
  | nil => rw [List.nil_append, without_nil]
  | cons entry values ih =>
    obtain ⟨name, value⟩ := entry
    rw [List.cons_append, without_cons, without_cons, ih]

/-- The properties that get a value, each with its value, in order. -/
def handed (slots : SlotMap) (values : Dictionary α) : List (String × α) :=
  (slots.served values).flatMap fun (_, names, value) => names.map fun name => (name, value)

theorem mem_handed_imp {slots : SlotMap} {values : Dictionary α} {name : String} {value : α}
    (h : (name, value) ∈ slots.handed values) :
    ∃ v names, (v, names) ∈ slots ∧ name ∈ names ∧ (v, value) ∈ values := by
  obtain ⟨⟨v, names, value'⟩, hserved, hmem⟩ := List.mem_flatMap.1 h
  obtain ⟨hslots, hvalues⟩ := mem_of_mem_served hserved
  obtain ⟨name', hname, heq⟩ := List.mem_map.1 hmem
  cases heq
  exact ⟨v, names, hslots, hname, hvalues⟩

theorem handed_of_none {slots : SlotMap} {k : String} (h : slots.get? k = none) (x : α)
    (values : Dictionary α) : slots.handed ((k, x) :: values) = slots.handed values := by
  rw [handed, served, h]
  rfl

theorem handed_of_some {slots : SlotMap} (hslots : slots.Occupied) {k : String} {names : List String}
    (h : slots.get? k = some names) (x : α) (values : Dictionary α) :
    slots.handed ((k, x) :: values) =
      names.map (fun name => (name, x)) ++ handed (slots.erase k) values := by
  cases names with
  | nil => exact absurd rfl (hslots _ (Dictionary.mem_of_get? h))
  | cons property properties =>
    rw [handed, served, h, List.flatMap_cons]
    rfl

/-- Each waiting property gets the first value of its variable. -/
theorem mem_handed_of_get? {slots : SlotMap} (hdistinct : slots.Distinct) (hslots : slots.Occupied)
    {values : Dictionary α} {v name : String} {names : List String} {value : α} (hentry : (v, names) ∈ slots)
    (hname : name ∈ names) (hvalue : values.get? v = some value) : (name, value) ∈ slots.handed values := by
  induction values generalizing slots with
  | nil => cases hvalue
  | cons first values ih =>
    obtain ⟨k, x⟩ := first
    rw [Dictionary.get?] at hvalue
    by_cases hk : k = v
    · -- The variable is served here, and no later value of it counts.
      subst hk
      rw [if_pos rfl] at hvalue
      cases hvalue
      rw [handed_of_some hslots (Dictionary.get?_of_mem hdistinct hentry)]
      exact List.mem_append_left _ (List.mem_map_of_mem hname)
    · rw [if_neg hk] at hvalue
      cases hget : slots.get? k with
      | none =>
        rw [handed_of_none hget]
        exact ih hdistinct hslots hentry hvalue
      | some others =>
        have hkept : (v, names) ∈ slots.erase k := List.mem_filter.2 ⟨hentry, by simpa using Ne.symm hk⟩
        rw [handed_of_some hslots hget]
        refine List.mem_append_right _ (ih ?_ (hslots.erase k) hkept hvalue)
        exact hdistinct.sublist (Dictionary.erase_sublist slots k)

/-- If values agree on every variable, each waiting property gets the value of its variable. -/
theorem mem_handed {slots : SlotMap} (hdistinct : slots.Distinct) (hslots : slots.Occupied)
    {values : Dictionary α} (hvalues : values.Consistent) {name : String} {value : α} :
    (name, value) ∈ slots.handed values ↔
      ∃ v names, (v, names) ∈ slots ∧ name ∈ names ∧ (v, value) ∈ values := by
  refine ⟨mem_handed_imp, ?_⟩
  rintro ⟨v, names, hentry, hname, hvalue⟩
  exact mem_handed_of_get? hdistinct hslots hentry hname (hvalues.get?_of_mem hvalue)

theorem properties_erase_perm {slots : SlotMap} (hslots : slots.Distinct) {k : String} {names : List String}
    (h : (k, names) ∈ slots) : slots.properties.Perm (names ++ properties (slots.erase k)) := by
  induction slots with
  | nil => cases h
  | cons entry slots ih =>
    obtain ⟨a, b⟩ := entry
    simp only [Dictionary.Distinct, Dictionary.keys, List.map_cons, List.nodup_cons] at hslots
    by_cases ha : a = k
    · subst ha
      have hrest : Dictionary.erase slots a = slots := Dictionary.erase_of_not_mem hslots.1
      have hhead : Dictionary.erase ((a, b) :: slots) a = slots := by
        rw [← hrest]; simp [Dictionary.erase]
      rcases List.mem_cons.1 h with heq | hmem
      · cases heq
        rw [hhead]
        exact .refl _
      · exact absurd (Dictionary.mem_keys_of_mem hmem) hslots.1
    · have hmem : (k, names) ∈ slots := (List.mem_cons.1 h).resolve_left fun heq => ha (by cases heq; rfl)
      have hhead : Dictionary.erase ((a, b) :: slots) k = (a, b) :: Dictionary.erase slots k := by
        simp [Dictionary.erase, ha]
      rw [hhead]
      simp only [properties, List.flatMap_cons] at ih ⊢
      refine ((ih hslots.2 hmem).append_left b).trans ?_
      rw [← List.append_assoc, ← List.append_assoc]
      exact List.perm_append_comm.append_right _

/-- What is handed over and what still waits is together what waited. -/
theorem handed_perm {slots : SlotMap} (hdistinct : slots.Distinct) (hslots : slots.Occupied)
    (values : Dictionary α) :
    ((slots.handed values).map (·.1) ++ (slots.without values).properties).Perm slots.properties := by
  induction values generalizing slots with
  | nil => rw [without_nil]; exact .refl _
  | cons entry values ih =>
    obtain ⟨k, x⟩ := entry
    rw [without_cons]
    cases hget : slots.get? k with
    | none =>
      rw [handed_of_none hget, Dictionary.erase_of_not_mem (Dictionary.get?_eq_none_iff.1 hget)]
      exact ih hdistinct hslots
    | some names =>
      have hrest := ih (hdistinct.sublist (Dictionary.erase_sublist slots k)) (hslots.erase k)
      have hnames : (names.map fun name => (name, x)).map (·.1) = names := by
        rw [List.map_map]
        exact List.map_id names
      rw [handed_of_some hslots hget, List.map_append, hnames, List.append_assoc]
      have herased := properties_erase_perm hdistinct (Dictionary.mem_of_get? hget)
      exact (hrest.append_left names).trans herased.symm

theorem nodup_handed {slots : SlotMap} (hdistinct : slots.Distinct) (hslots : slots.Occupied)
    (hproperties : slots.properties.Nodup) (values : Dictionary α) :
    ((slots.handed values).map (·.1)).Nodup :=
  (List.nodup_append.1 ((handed_perm hdistinct hslots values).nodup_iff.2 hproperties)).1

/-- The order of the values, and whether some of them come twice, makes no difference but for the order
in which they are handed over. -/
theorem handed_congr {slots : SlotMap} (hdistinct : slots.Distinct) (hslots : slots.Occupied)
    (hproperties : slots.properties.Nodup) {values others : Dictionary α} (hvalues : values.Consistent)
    (h : ∀ entry, entry ∈ others ↔ entry ∈ values) : (slots.handed others).Perm (slots.handed values) := by
  have hothers : others.Consistent := fun k v w hv hw => hvalues k v w ((h _).1 hv) ((h _).1 hw)
  rw [List.perm_ext_iff_of_nodup (nodup_handed hdistinct hslots hproperties others).of_map
    (nodup_handed hdistinct hslots hproperties values).of_map]
  rintro ⟨name, value⟩
  rw [mem_handed hdistinct hslots hothers, mem_handed hdistinct hslots hvalues]
  simp only [h]

theorem without_congr (slots : SlotMap) {values others : Dictionary α}
    (h : ∀ entry, entry ∈ others ↔ entry ∈ values) : slots.without others = slots.without values := by
  have hcontains : ∀ name, others.contains name = values.contains name := fun name => by
    rw [Bool.eq_iff_iff, Dictionary.contains_iff, Dictionary.contains_iff]
    simp only [Dictionary.keys, List.mem_map, h]
  simp only [without, hcontains]

/-- Handing over goes on where it was left. -/
theorem handed_append {slots : SlotMap} (hslots : slots.Occupied) (values others : Dictionary α) :
    slots.handed (values ++ others) = slots.handed values ++ (slots.without values).handed others := by
  induction values generalizing slots with
  | nil => rw [List.nil_append, without_nil]; rfl
  | cons entry values ih =>
    obtain ⟨k, x⟩ := entry
    rw [List.cons_append, without_cons]
    cases hget : slots.get? k with
    | none =>
      rw [handed_of_none hget, handed_of_none hget,
        Dictionary.erase_of_not_mem (Dictionary.get?_eq_none_iff.1 hget)]
      exact ih hslots
    | some names =>
      rw [handed_of_some hslots hget, handed_of_some hslots hget, ih (hslots.erase k), List.append_assoc]

end PageTemplate.SlotMap
