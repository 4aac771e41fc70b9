import Placard.Extension

/-! Tables by name. A binding is found under its own name and leaves every other name as it was,
in whatever order the table stands; where the names ascend, it keeps them so. -/
namespace Placard

theorem lookup_cons_if (name key : String) (value : α) (rest : List (String × α)) :
    ((name,value) :: rest).lookup key = if key = name then some value else rest.lookup key := by
  by_cases same : key = name
  · simp [same]
  · have apart : (key == name) = false := beq_false_of_ne same
    simp [List.lookup_cons,apart,same]

theorem Json.lookup_insertField (name key : String) (value : α) (fields : List (String × α)) :
    (insertField name value fields).lookup key =
      if key = name then some value else fields.lookup key := by
  induction fields with
  | nil => simp [insertField,lookup_cons_if]
  | cons field rest ih =>
    obtain ⟨n,v⟩ := field
    unfold insertField
    split
    next same =>
      subst same
      by_cases h : key = name <;> simp [lookup_cons_if,h]
    next apart =>
      split
      · simp only [lookup_cons_if]
      · simp only [lookup_cons_if,ih]
        by_cases h : key = n
        · subst h
          simp [Ne.symm apart]
        · simp [h]

theorem Json.insertField_same (name : String) (value value' : α) (fields : List (String × α)) :
    insertField name value (insertField name value' fields) = insertField name value fields := by
  induction fields with
  | nil => simp [insertField]
  | cons field rest ih =>
    obtain ⟨n,v⟩ := field
    by_cases same : name = n
    · simp [insertField,same]
    · by_cases before : name < n <;> simp [insertField,same,before,ih]

theorem Json.insertField_comm {name name' : String} (apart : name ≠ name') (value value' : α)
    (fields : List (String × α)) :
    insertField name value (insertField name' value' fields) =
      insertField name' value' (insertField name value fields) := by
  have asymm : ∀ {a b : String}, a < b → ¬ b < a := fun less more =>
    String.lt_irrefl _ (String.lt_trans less more)
  have total : ∀ {a b : String}, a ≠ b → ¬ a < b → b < a := fun other no =>
    Decidable.byContradiction fun no' =>
      other (String.le_antisymm (String.not_lt.mp no') (String.not_lt.mp no))
  induction fields with
  | nil =>
    by_cases before : name < name'
    · simp [insertField,apart,apart.symm,before,asymm before]
    · simp [insertField,apart,apart.symm,before,total apart before]
  | cons field rest ih =>
    obtain ⟨n,v⟩ := field
    grind [insertField, String.lt_trans]

theorem lookup_bind (name key : String) (f : α) (table : List (String × α)) :
    (bind name f table).lookup key = if key = name then some f else table.lookup key :=
  Json.lookup_insertField name key f table

theorem lookup_isSome_iff_mem {key : String} {table : List (String × α)} :
    (table.lookup key).isSome ↔ key ∈ table.map (·.1) := by
  simp [List.lookup_isSome_iff,@eq_comm _ key]

theorem mem_of_lookup {key : String} {value : α} {table : List (String × α)}
    (found : table.lookup key = some value) : (key,value) ∈ table := by
  obtain ⟨front,back,rfl,-⟩ := List.lookup_eq_some_iff.mp found
  simp

def Ascending (table : List (String × α)) : Prop := (table.map (·.1)).Pairwise (· < ·)

@[simp] theorem ascending_nil : Ascending ([] : List (String × α)) := List.Pairwise.nil

theorem ascending_cons {field : String × α} {rest : List (String × α)} :
    Ascending (field :: rest) ↔ (∀ key ∈ rest.map (·.1), field.1 < key) ∧ Ascending rest := by
  simp [Ascending]

theorem mem_insertField {name : String} {value : α} {field : String × α}
    {fields : List (String × α)} (member : field ∈ Json.insertField name value fields) :
    field = (name,value) ∨ field ∈ fields := by
  induction fields with
  | nil => exact .inl (List.mem_singleton.mp member)
  | cons first rest ih =>
    obtain ⟨n,v⟩ := first
    unfold Json.insertField at member
    split at member
    · rcases List.mem_cons.mp member with rfl | later
      · exact .inl rfl
      · exact .inr (List.mem_cons_of_mem _ later)
    · split at member
      · exact List.mem_cons.mp member
      · rcases List.mem_cons.mp member with rfl | later
        · exact .inr List.mem_cons_self
        · exact (ih later).imp_right (List.mem_cons_of_mem _)

theorem mem_names_insertField {name key : String} {value : α} {fields : List (String × α)} :
    key ∈ (Json.insertField name value fields).map (·.1) ↔
      key = name ∨ key ∈ fields.map (·.1) := by
  rw [← lookup_isSome_iff_mem,Json.lookup_insertField,← lookup_isSome_iff_mem]
  by_cases h : key = name <;> simp [h]

theorem ascending_insertField {fields : List (String × α)} (sorted : Ascending fields)
    (name : String) (value : α) : Ascending (Json.insertField name value fields) := by
  induction fields with
  | nil => simp [Json.insertField,Ascending]
  | cons field rest ih =>
    obtain ⟨n,v⟩ := field
    obtain ⟨below,later⟩ := ascending_cons.mp sorted
    unfold Json.insertField
    split
    next same =>
      subst same
      exact ascending_cons.mpr ⟨below,later⟩
    next apart =>
      split
      next before =>
        refine ascending_cons.mpr ⟨?_,sorted⟩
        intro key member
        rcases List.mem_cons.mp member with rfl | member
        · exact before
        · exact String.lt_trans before (below key member)
      next after =>
        refine ascending_cons.mpr ⟨fun key member => ?_,ih later⟩
        have above : n < name := Decidable.byContradiction fun no =>
          apart (String.le_antisymm (String.not_lt.mp no) (String.not_lt.mp after))
        rcases mem_names_insertField.mp member with rfl | member
        · exact above
        · exact below key member

theorem lookup_below {key : String} {table : List (String × α)}
    (below : ∀ name ∈ table.map (·.1), key < name) : table.lookup key = none := by
  rw [← Option.not_isSome_iff_eq_none,lookup_isSome_iff_mem]
  exact fun member => String.lt_irrefl key (below key member)

/-- A name that is there is replaced; a new one is added. -/
theorem length_insertField {fields : List (String × α)} (sorted : Ascending fields)
    (name : String) (value : α) :
    (Json.insertField name value fields).length + (fields.lookup name).isSome.toNat =
      fields.length + 1 := by
  induction fields with
  | nil => rfl
  | cons field rest ih =>
    obtain ⟨n,v⟩ := field
    obtain ⟨below,later⟩ := ascending_cons.mp sorted
    unfold Json.insertField
    split
    next same =>
      subst same
      simp
    next apart =>
      split
      next before =>
        have missing : rest.lookup name = none := lookup_below fun key member =>
          String.lt_trans before (below key member)
        simp [lookup_cons_if,apart,missing]
      next =>
        have later := ih later
        simp only [lookup_cons_if,if_neg apart,List.length_cons]
        omega

theorem ascending_nodup {table : List (String × α)} (sorted : Ascending table) :
    (table.map (·.1)).Nodup :=
  List.Pairwise.imp (fun below => String.ne_of_lt below) sorted

/-- Tables in order that bind the same under every name are the same. -/
theorem ascending_ext {table other : List (String × α)} (sorted : Ascending table)
    (sorted' : Ascending other) (same : ∀ key, table.lookup key = other.lookup key) :
    table = other := by
  induction table generalizing other with
  | nil =>
    cases other with
    | nil => rfl
    | cons field rest =>
      obtain ⟨n,v⟩ := field
      simpa using same n
  | cons field rest ih =>
    obtain ⟨n,v⟩ := field
    cases other with
    | nil => simpa using same n
    | cons field' rest' =>
      obtain ⟨m,w⟩ := field'
      obtain ⟨below,later⟩ := ascending_cons.mp sorted
      obtain ⟨below',later'⟩ := ascending_cons.mp sorted'
      -- The first name of either table is bound in the other one, so neither is below the other.
      have first (a b : String) (v : α) (rest rest' : List (String × α)) (w : α)
          (same : ((a,v) :: rest).lookup a = ((b,w) :: rest').lookup a)
          (below' : ∀ key ∈ rest'.map (·.1), b < key) : ¬ a < b := by
        intro before
        have missing : ((b,w) :: rest').lookup a = none := lookup_below <| by
          refine List.forall_mem_cons.mpr ⟨before,fun key member => ?_⟩
          exact String.lt_trans before (below' key member)
        simp [missing] at same
      have names : n = m := String.le_antisymm
        (String.not_lt.mp (first m n w rest' rest v (same m).symm below))
        (String.not_lt.mp (first n m v rest rest' w (same n) below'))
      subst names
      have values : v = w := by simpa using same n
      subst values
      refine congrArg ((n,v) :: ·) (ih later later' fun key => ?_)
      by_cases here : key = n
      · rw [here,lookup_below below,lookup_below below']
      · simpa [lookup_cons_if,here] using same key

/-- A new name is added somewhere. -/
theorem Json.perm_insertField {name : String} {fields : List (String × α)}
    (new : name ∉ fields.map (·.1)) (value : α) :
    (insertField name value fields).Perm ((name,value) :: fields) := by
  induction fields with
  | nil => exact .refl _
  | cons field rest ih =>
    obtain ⟨n,v⟩ := field
    obtain ⟨apart,later⟩ := not_or.mp (mt List.mem_cons.mpr new)
    unfold insertField
    rw [if_neg apart]
    split
    · exact .refl _
    · exact ((ih later).cons _).trans (.swap _ _ _)

/-- Fields of different names are put in order, and none is lost. -/
theorem Json.perm_fieldsOf {pairs : List (String × α)} (distinct : (pairs.map (·.1)).Nodup) :
    (fieldsOf pairs).Perm pairs := by
  have all (fields pairs : List (String × α)) (distinct : ((fields ++ pairs).map (·.1)).Nodup) :
      (pairs.foldl (fun fields p => insertField p.1 p.2 fields) fields).Perm (fields ++ pairs) := by
    induction pairs generalizing fields with
    | nil => simp
    | cons p rest ih =>
      have new : p.1 ∉ fields.map (·.1) := by
        rw [List.map_append,List.map_cons,List.nodup_append] at distinct
        exact fun member => distinct.2.2 _ member _ List.mem_cons_self rfl
      have next : (insertField p.1 p.2 fields ++ rest).Perm (fields ++ p :: rest) :=
        ((perm_insertField new p.2).append_right rest).trans List.perm_middle.symm
      rw [List.foldl_cons]
      exact (ih _ ((next.map _).nodup_iff.mpr distinct)).trans next
  exact all [] pairs distinct

/-- What is bound to a name above all others goes to the end. -/
theorem insertField_above {name : String} {fields : List (String × α)}
    (above : ∀ key ∈ fields.map (·.1), key < name) (value : α) :
    Json.insertField name value fields = fields ++ [(name,value)] := by
  induction fields with
  | nil => rfl
  | cons field rest ih =>
    obtain ⟨n,v⟩ := field
    have below : n < name := above n (by simp)
    have later := ih fun key member => above key (List.mem_cons_of_mem _ member)
    have apart : name ≠ n := (String.ne_of_lt below).symm
    have after : ¬ name < n := fun before => String.lt_irrefl n (String.lt_trans below before)
    simp only [Json.insertField,if_neg apart,if_neg after,later,List.cons_append]

/-- The next field of an ascending row goes to the end of those before it. -/
theorem insertField_next {name : String} {value : α} {before after : List (String × α)}
    (sorted : Ascending (before ++ (name,value) :: after)) :
    Json.insertField name value before = before ++ [(name,value)] := by
  refine insertField_above (fun key member => ?_) value
  rw [Ascending,List.map_append,List.map_cons,List.pairwise_append] at sorted
  exact sorted.2.2 key member name List.mem_cons_self

end Placard
