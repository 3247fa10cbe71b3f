import AccessAgent.Semantics.Raising

/-! Insertion-ordered dictionaries: an update keeps the place of a key that is
present and appends one that is not. -/

namespace AccessAgent.Semantics

abbrev Dictionary (κ α : Type) := List (κ × α)

namespace Dictionary
variable {κ α : Type} [DecidableEq κ]

def find (key : κ) : Dictionary κ α → Option α
  | [] => none
  | (name,value)::rest => if name = key then some value else find key rest

def set (key : κ) (value : α) : Dictionary κ α → Dictionary κ α
  | [] => [(key,value)]
  | (name,old)::rest => if name = key then (name,value)::rest else (name,old)::set key value rest

def keys (dictionary : Dictionary κ α) : List κ := dictionary.map Prod.fst

def values (dictionary : Dictionary κ α) : List α := dictionary.map Prod.snd

@[simp] theorem find_nil (key : κ) : find key ([] : Dictionary κ α) = none := rfl

theorem find_set (key other : κ) (value : α) (dictionary : Dictionary κ α) :
    find other (set key value dictionary) = if key = other then some value else find other dictionary := by
  induction dictionary with
  | nil => rfl
  | cons entry rest ih =>
    obtain ⟨name,old⟩ := entry
    by_cases same : name = key
    · subst same
      by_cases asked : name = other <;> simp [set,find,asked]
    · by_cases asked : name = other
      · subst asked
        simp [set,find,same,Ne.symm same]
      · simp [set,find,same,asked,ih]

theorem mem_keys (key : κ) (dictionary : Dictionary κ α) :
    key ∈ dictionary.keys ↔ (find key dictionary).isSome := by
  induction dictionary with
  | nil => simp [keys]
  | cons entry rest ih =>
    obtain ⟨name,old⟩ := entry
    by_cases same : name = key
    · simp [keys,find,same]
    · simpa [keys,find,same,Ne.symm same] using ih

theorem contains_keys [BEq κ] [LawfulBEq κ] (key : κ) (dictionary : Dictionary κ α) :
    dictionary.keys.contains key = (find key dictionary).isSome := by
  rw [Bool.eq_iff_iff,List.contains_iff_mem,mem_keys]

theorem mem_keys_set (key other : κ) (value : α) (dictionary : Dictionary κ α) :
    other ∈ keys (set key value dictionary) ↔ other = key ∨ other ∈ dictionary.keys := by
  rw [mem_keys,mem_keys,find_set]
  by_cases same : key = other
  · simp [same]
  · simp [same,Ne.symm same]

theorem mem_values_set {key : κ} {value candidate : α} {dictionary : Dictionary κ α}
    (member : candidate ∈ values (set key value dictionary)) :
    candidate = value ∨ candidate ∈ dictionary.values := by
  induction dictionary with
  | nil => simpa [set,values] using member
  | cons entry rest ih =>
    obtain ⟨name,old⟩ := entry
    rw [set] at member
    split at member
    next same =>
      simp only [values,List.map_cons,List.mem_cons] at member ⊢
      tauto
    next different =>
      simp only [values,List.map_cons,List.mem_cons] at member ih ⊢
      rcases member with rfl | later
      · simp
      · rcases ih later with rfl | inside
        · simp
        · simp [inside]

theorem mem_of_find {key : κ} {value : α} {dictionary : Dictionary κ α} (found : find key dictionary = some value) :
    (key,value) ∈ dictionary := by
  induction dictionary with
  | nil => simp at found
  | cons entry rest ih =>
    obtain ⟨name,old⟩ := entry
    by_cases same : name = key
    · have equal : old = value := by simpa [find,same] using found
      simp [same,equal]
    · exact List.mem_cons_of_mem _ (ih (by simpa [find,same] using found))

theorem find_value_mem (key : κ) (value : α) (dictionary : Dictionary κ α)
    (found : find key dictionary = some value) : value ∈ dictionary.values :=
  List.mem_map_of_mem (mem_of_find found)

omit [DecidableEq κ] in
/-- The keys of a fold whose steps each add the keys of their element. -/
theorem mem_keys_foldlM {ε ι : Type} (step : Dictionary κ α → ι → Except ε (Dictionary κ α))
    (adds : ι → κ → Prop)
    (each : ∀ before item after, step before item = .ok after →
      ∀ key, key ∈ after.keys ↔ key ∈ before.keys ∨ adds item key)
    {items : List ι} {initial result : Dictionary κ α} (ok : items.foldlM step initial = .ok result)
    (key : κ) : key ∈ result.keys ↔ key ∈ initial.keys ∨ ∃ item ∈ items, adds item key := by
  refine Raising.foldlM_success step
    (fun done dictionary => key ∈ dictionary.keys ↔ key ∈ initial.keys ∨ ∃ item ∈ done, adds item key)
    ?_ items initial result (by simp) ok
  intro done item before after known stepped
  rw [each before item after stepped,known]
  simp [or_assoc]

theorem keys_set_of_mem {key : κ} {value : α} {dictionary : Dictionary κ α} (present : key ∈ dictionary.keys) :
    keys (set key value dictionary) = dictionary.keys := by
  induction dictionary with
  | nil => simp [keys] at present
  | cons entry rest ih =>
    obtain ⟨name,old⟩ := entry
    by_cases same : name = key
    · simp [set,keys,same]
    · have later : key ∈ keys rest := by simpa [keys,Ne.symm same] using present
      have tail := ih later
      simp only [keys,set,if_neg same,List.map_cons] at tail ⊢
      rw [tail]

theorem set_of_not_mem {key : κ} {value : α} {dictionary : Dictionary κ α} (absent : key ∉ dictionary.keys) :
    set key value dictionary = dictionary ++ [(key,value)] := by
  induction dictionary with
  | nil => rfl
  | cons entry rest ih =>
    obtain ⟨name,old⟩ := entry
    obtain ⟨same,later⟩ : ¬key = name ∧ key ∉ keys rest := by simpa [keys] using absent
    rw [set,if_neg (Ne.symm same),ih later,List.cons_append]

theorem keys_set_of_not_mem {key : κ} {value : α} {dictionary : Dictionary κ α} (absent : key ∉ dictionary.keys) :
    keys (set key value dictionary) = dictionary.keys ++ [key] := by
  rw [set_of_not_mem absent,keys,List.map_append]
  rfl

theorem keys_set_nodup {key : κ} {value : α} {dictionary : Dictionary κ α} (distinct : dictionary.keys.Nodup) :
    (keys (set key value dictionary)).Nodup := by
  by_cases present : key ∈ dictionary.keys
  · rw [keys_set_of_mem present]
    exact distinct
  · rw [keys_set_of_not_mem present,List.nodup_append]
    refine ⟨distinct,by simp,?_⟩
    intro name old other new same
    rw [same,List.mem_singleton.mp new] at old
    exact present old

/-- `dict(pairs)`: of the pairs with one key, the value of the last. -/
def ofPairs (pairs : List (κ × α)) : Dictionary κ α := pairs.foldl (fun dictionary pair => dictionary.set pair.1 pair.2) []

theorem keys_ofPairs_nodup (pairs : List (κ × α)) : (keys (ofPairs pairs)).Nodup := by
  have rule : ∀ initial : Dictionary κ α, initial.keys.Nodup →
      (keys (pairs.foldl (fun dictionary pair => dictionary.set pair.1 pair.2) initial)).Nodup := by
    induction pairs with
    | nil => exact fun _ distinct => distinct
    | cons pair rest ih => exact fun initial distinct => ih _ (keys_set_nodup distinct)
  exact rule [] List.nodup_nil

private theorem find_ofPairs_from {pairs : List (κ × α)} (distinct : (pairs.map Prod.fst).Nodup) (initial : Dictionary κ α)
    (fresh : ∀ pair ∈ pairs, pair.1 ∉ initial.keys) (key : κ) (value : α) :
    find key (pairs.foldl (fun dictionary pair => dictionary.set pair.1 pair.2) initial) = some value ↔
      find key initial = some value ∨ (key,value) ∈ pairs := by
  induction pairs generalizing initial with
  | nil => simp
  | cons pair rest ih =>
    obtain ⟨name,content⟩ := pair
    obtain ⟨new,later⟩ := List.nodup_cons.mp distinct
    have unseen : ∀ other ∈ rest, other.1 ∉ keys (set name content initial) := by
      intro other member known
      rcases (mem_keys_set _ _ _ _).mp known with repeated | old
      · exact new (List.mem_map.mpr ⟨other,member,repeated⟩)
      · exact fresh other (by simp [member]) old
    rw [List.foldl_cons,ih later _ unseen,find_set,List.mem_cons]
    by_cases same : name = key
    · subst same
      have absent : find name initial = none := by
        rw [← Option.not_isSome_iff_eq_none,← mem_keys]
        exact fresh (name,content) (by simp)
      have once : (name,value) ∉ rest := fun member => new (List.mem_map.mpr ⟨_,member,rfl⟩)
      simp [absent,once,eq_comm]
    · simp [same,Ne.symm same]

/-- Nothing is lost of pairs with distinct keys. -/
theorem find_ofPairs {pairs : List (κ × α)} (distinct : (pairs.map Prod.fst).Nodup) (key : κ) (value : α) :
    find key (ofPairs pairs) = some value ↔ (key,value) ∈ pairs := by
  rw [ofPairs,find_ofPairs_from distinct [] (by simp [keys])]
  simp

def fill (value : κ → α) (names : List κ) : Dictionary κ α :=
  names.foldl (fun dictionary name => dictionary.set name (value name)) []

private theorem find_fill_from (value : κ → α) (names : List κ) (initial : Dictionary κ α) (key : κ) :
    find key (names.foldl (fun dictionary name => dictionary.set name (value name)) initial) =
      if key ∈ names then some (value key) else find key initial := by
  induction names generalizing initial with
  | nil => simp
  | cons name rest ih =>
    rw [List.foldl_cons,ih,find_set]
    by_cases same : name = key
    · simp [same]
    · simp [same,Ne.symm same]

theorem find_fill (value : κ → α) (names : List κ) (key : κ) :
    find key (fill value names) = if key ∈ names then some (value key) else none :=
  find_fill_from value names [] key

theorem mem_values_fill {value : κ → α} {names : List κ} {candidate : α} :
    candidate ∈ values (fill value names) ↔ ∃ name ∈ names, candidate = value name := by
  constructor
  · intro member
    have rule : ∀ initial : Dictionary κ α, candidate ∈ values (names.foldl
        (fun dictionary name => dictionary.set name (value name)) initial) →
        candidate ∈ initial.values ∨ ∃ name ∈ names, candidate = value name := by
      clear member
      induction names with
      | nil => exact fun initial member => Or.inl member
      | cons name rest ih =>
        intro initial member
        rcases ih _ member with early | ⟨later,inside,same⟩
        · rcases mem_values_set early with same | old
          · exact Or.inr ⟨name,by simp,same⟩
          · exact Or.inl old
        · exact Or.inr ⟨later,by simp [inside],same⟩
    rcases rule [] member with impossible | found
    · simp [values] at impossible
    · exact found
  · rintro ⟨name,member,rfl⟩
    exact find_value_mem name _ _ (by rw [find_fill,if_pos member])

end Dictionary

end AccessAgent.Semantics
