import Mathlib.Data.List.Induction
import Mathlib.Data.List.Nodup
import StreamLinks.Dictionary

/-!
# Dictionaries built from pairs

A dictionary built from pairs has its keys in the order in which they come first,
each of them once, and under each key the value that comes last.  These properties
determine it.  Building it from two lists of pairs one after the other is the same as
having the second dictionary overwrite the first one.
-/

namespace StreamLinks.Dictionary

variable {α : Type} {pairs : List (String × α)} {key : String} {value : α}

theorem map_fst_replaceOrAppend (key : String) (value : α) (entries : List (String × α)) :
    (replaceOrAppend key value entries).map Prod.fst =
      if key ∈ entries.map Prod.fst then entries.map Prod.fst
      else entries.map Prod.fst ++ [key] := by
  induction entries with
  | nil => simp [replaceOrAppend]
  | cons entry rest ih =>
      obtain ⟨other, old⟩ := entry
      by_cases heq : key = other
      · simp [replaceOrAppend, heq]
      · rw [replaceOrAppend, if_neg heq, List.map_cons, ih, List.map_cons]
        by_cases hmem : key ∈ rest.map Prod.fst
        · rw [if_pos hmem, if_pos (List.mem_cons_of_mem other hmem)]
        · have hnotMem : key ∉ other :: rest.map Prod.fst := by
            simpa [heq] using hmem
          rw [if_neg hmem, if_neg hnotMem, List.cons_append]

/-- Putting what a key already has changes nothing. -/
theorem put_of_get? {dictionary : Dictionary α} (hget : dictionary.get? key = some value) :
    dictionary.put key value = dictionary := by
  obtain ⟨entries⟩ := dictionary
  simp only [put, get?, mk.injEq] at hget ⊢
  induction entries with
  | nil => cases hget
  | cons entry rest ih =>
      obtain ⟨other, old⟩ := entry
      by_cases heq : key = other
      · rw [find?, if_pos heq, Option.some.injEq] at hget
        rw [replaceOrAppend, if_pos heq, hget]
      · rw [find?, if_neg heq] at hget
        rw [replaceOrAppend, if_neg heq, ih hget]

/-- Of two values put for one key the second one counts. -/
theorem put_put (dictionary : Dictionary α) (key : String) (first second : α) :
    (dictionary.put key first).put key second = dictionary.put key second := by
  obtain ⟨entries⟩ := dictionary
  simp only [put, mk.injEq]
  induction entries with
  | nil => simp [replaceOrAppend]
  | cons entry rest ih =>
      obtain ⟨other, old⟩ := entry
      by_cases heq : key = other
      · simp [replaceOrAppend, heq]
      · simp [replaceOrAppend, heq, ih]

theorem keys_put (dictionary : Dictionary α) (key : String) (value : α) :
    (dictionary.put key value).keys =
      if key ∈ dictionary.keys then dictionary.keys else dictionary.keys ++ [key] :=
  map_fst_replaceOrAppend key value dictionary.entries

theorem ofPairs_concat (pairs : List (String × α)) (key : String) (value : α) :
    ofPairs (pairs ++ [(key, value)]) = (ofPairs pairs).put key value := by
  simp [ofPairs, putAll]

theorem eraseDups_concat (keys : List String) (key : String) :
    (keys ++ [key]).eraseDups =
      if key ∈ keys then keys.eraseDups else keys.eraseDups ++ [key] := by
  rw [List.eraseDups_append]
  by_cases hmem : key ∈ keys
  · simp [List.removeAll, hmem]
  · simp [List.removeAll, hmem, List.eraseDups_cons]

theorem keys_ofPairs (pairs : List (String × α)) :
    (ofPairs pairs).keys = (pairs.map Prod.fst).eraseDups := by
  induction pairs using List.reverseRecOn with
  | nil => rfl
  | append_singleton pairs pair ih =>
      rw [ofPairs_concat, keys_put, ih, List.map_append, List.map_singleton, eraseDups_concat]
      simp only [List.mem_eraseDups]

theorem nodup_keys_ofPairs (pairs : List (String × α)) : (ofPairs pairs).keys.Nodup := by
  induction pairs using List.reverseRecOn with
  | nil => exact List.nodup_nil
  | append_singleton pairs pair ih =>
      rw [ofPairs_concat, keys_put]
      by_cases hmem : pair.1 ∈ (ofPairs pairs).keys
      · rwa [if_pos hmem]
      · rw [if_neg hmem]
        rw [← List.concat_eq_append]
        exact ih.concat hmem

theorem get?_ofPairs (pairs : List (String × α)) (key : String) :
    (ofPairs pairs).get? key =
      (pairs.reverse.find? fun pair => pair.1 == key).map Prod.snd := by
  induction pairs using List.reverseRecOn with
  | nil => rfl
  | append_singleton pairs pair ih =>
      rw [ofPairs_concat, get?_put, List.reverse_append, List.reverse_singleton,
        List.singleton_append, List.find?_cons]
      by_cases heq : key = pair.1
      · simp [heq]
      · rw [if_neg heq, beq_eq_false_iff_ne.mpr (Ne.symm heq), ih]

theorem get?_of_mem {dictionary : Dictionary α} (hnodup : dictionary.keys.Nodup)
    (hmem : (key, value) ∈ dictionary.entries) : dictionary.get? key = some value := by
  obtain ⟨entries⟩ := dictionary
  simp only [keys, get?] at hnodup hmem ⊢
  induction entries with
  | nil => contradiction
  | cons entry rest ih =>
      obtain ⟨other, old⟩ := entry
      rw [List.map_cons, List.nodup_cons] at hnodup
      rcases List.mem_cons.mp hmem with hhead | htail
      · cases hhead
        simp [find?]
      · have hne : key ≠ other := by
          rintro rfl
          exact hnodup.1 (List.mem_map.mpr ⟨(key, value), htail, rfl⟩)
        rw [find?, if_neg hne]
        exact ih hnodup.2 htail

theorem mem_of_find? {entries : List (String × α)} (hfind : find? key entries = some value) :
    (key, value) ∈ entries := by
  induction entries with
  | nil => contradiction
  | cons entry rest ih =>
      obtain ⟨other, old⟩ := entry
      by_cases heq : key = other
      · rw [find?, if_pos heq, Option.some.injEq] at hfind
        rw [heq, hfind]
        exact List.mem_cons_self
      · rw [find?, if_neg heq] at hfind
        exact List.mem_cons_of_mem _ (ih hfind)

theorem find?_append (first second : List (String × α)) :
    find? key (first ++ second) = (find? key first).or (find? key second) := by
  induction first with
  | nil => rfl
  | cons entry rest ih =>
      obtain ⟨other, old⟩ := entry
      by_cases heq : key = other
      · simp [find?, heq]
      · simp [find?, heq, ih]

theorem find?_eq_none {entries : List (String × α)} :
    find? key entries = none ↔ key ∉ entries.map Prod.fst := by
  induction entries with
  | nil => simp [find?]
  | cons entry rest ih =>
      obtain ⟨other, old⟩ := entry
      by_cases heq : key = other
      · simp [find?, heq]
      · simp [find?, heq, ih]

theorem find?_map_values (f : String → α → α) (entries : List (String × α)) :
    find? key (entries.map fun (key, value) => (key, f key value)) =
      (find? key entries).map (f key) := by
  induction entries with
  | nil => rfl
  | cons entry rest ih =>
      obtain ⟨other, old⟩ := entry
      by_cases heq : key = other
      · simp [find?, heq]
      · simp [find?, heq, ih]

theorem find?_filter_keys (p : String → Bool) (entries : List (String × α)) :
    find? key (entries.filter fun entry => p entry.1) =
      if p key then find? key entries else none := by
  induction entries with
  | nil => simp [find?]
  | cons entry rest ih =>
      obtain ⟨other, old⟩ := entry
      by_cases heq : key = other
      · subst heq
        cases hp : p key <;> simp [find?, hp, ih]
      · cases hp : p other <;> simp [find?, hp, heq, ih]

theorem mem_entries_iff {dictionary : Dictionary α} (hnodup : dictionary.keys.Nodup) :
    (key, value) ∈ dictionary.entries ↔ dictionary.get? key = some value :=
  ⟨get?_of_mem hnodup, mem_of_find?⟩

/-- Dictionaries agree when they have the same keys in the same order, and the same values. -/
theorem ext_get? {first second : Dictionary α} (hnodup : first.keys.Nodup)
    (hkeys : first.keys = second.keys) (hget : ∀ key, first.get? key = second.get? key) :
    first = second := by
  obtain ⟨entries⟩ := first
  obtain ⟨entries'⟩ := second
  simp only [keys, get?, mk.injEq] at hnodup hkeys hget ⊢
  induction entries generalizing entries' with
  | nil => exact (List.map_eq_nil_iff.mp hkeys.symm).symm
  | cons entry rest ih =>
      cases entries' with
      | nil => cases hkeys
      | cons entry' rest' =>
          obtain ⟨key, value⟩ := entry
          obtain ⟨key', value'⟩ := entry'
          obtain ⟨rfl, hrest⟩ := List.cons.inj hkeys
          obtain ⟨hfresh, hnodup⟩ := List.nodup_cons.mp hnodup
          have hvalue : some value = some value' := by simpa [find?] using hget key
          have hothers : ∀ other, find? other rest = find? other rest' := by
            intro other
            by_cases heq : other = key
            · rw [heq, find?_eq_none.mpr hfresh, find?_eq_none.mpr (hrest ▸ hfresh)]
            · simpa [find?, heq] using hget other
          rw [Option.some.inj hvalue, ih hnodup rest' hrest hothers]

/-! ## Pairs with distinct keys -/

theorem replaceOrAppend_of_not_mem {entries : List (String × α)}
    (hkey : key ∉ entries.map Prod.fst) :
    replaceOrAppend key value entries = entries ++ [(key, value)] := by
  induction entries with
  | nil => rfl
  | cons entry rest ih =>
      obtain ⟨other, old⟩ := entry
      rw [List.map_cons, List.mem_cons, not_or] at hkey
      rw [replaceOrAppend, if_neg hkey.1, ih hkey.2, List.cons_append]

/-- Pairs with distinct keys are the entries of their dictionary. -/
theorem ofPairs_of_nodup (hnodup : (pairs.map Prod.fst).Nodup) : ofPairs pairs = ⟨pairs⟩ := by
  induction pairs using List.reverseRecOn with
  | nil => rfl
  | append_singleton pairs pair ih =>
      rw [List.map_append, List.map_singleton, List.nodup_append] at hnodup
      obtain ⟨hpairs, -, hdisjoint⟩ := hnodup
      have hkey : pair.1 ∉ pairs.map Prod.fst := by
        intro hmem
        exact hdisjoint _ hmem _ (List.mem_singleton_self _) rfl
      rw [ofPairs_concat, ih hpairs, put, replaceOrAppend_of_not_mem hkey]

theorem get?_ofPairs_eq_some (hnodup : (pairs.map Prod.fst).Nodup) :
    (ofPairs pairs).get? key = some value ↔ (key, value) ∈ pairs := by
  rw [ofPairs_of_nodup hnodup]
  constructor
  · exact mem_of_find?
  · exact get?_of_mem hnodup

/-- The order of pairs with distinct keys does not show in a lookup. -/
theorem get?_ofPairs_of_perm {others : List (String × α)} (hperm : pairs.Perm others)
    (hnodup : (others.map Prod.fst).Nodup) (key : String) :
    (ofPairs pairs).get? key = find? key others := by
  have hpairs : (pairs.map Prod.fst).Nodup := (hperm.map Prod.fst).nodup_iff.mpr hnodup
  have hothers : (ofPairs others).get? key = find? key others := by
    rw [ofPairs_of_nodup hnodup, get?]
  rw [← hothers]
  ext value
  rw [get?_ofPairs_eq_some hpairs, get?_ofPairs_eq_some hnodup, hperm.mem_iff]

/-! ## Pairs one after the other -/

/-- The dictionary is what pairs give one after the other: its keys are those of the pairs
in the order in which they come first, and a key has the value that comes last with it. -/
structure IsLastWins (pairs : List (String × α)) (found : Dictionary α) : Prop where
  nodup_keys : found.keys.Nodup
  keys_eq : found.keys = (pairs.map Prod.fst).eraseDups
  mem_iff : ∀ key value, (key, value) ∈ found.entries ↔
    ∃ earlier later, pairs = earlier ++ (key, value) :: later ∧ key ∉ later.map Prod.fst

theorem mem_ofPairs_iff :
    (key, value) ∈ (ofPairs pairs).entries ↔
      ∃ earlier later, pairs = earlier ++ (key, value) :: later ∧ key ∉ later.map Prod.fst := by
  have hlast : ∀ {later : List (String × α)},
      (∀ pair ∈ later.reverse, (!pair.1 == key) = true) ↔ key ∉ later.map Prod.fst := by
    intro later
    simp only [List.mem_reverse, Bool.not_eq_true', beq_eq_false_iff_ne, List.mem_map, not_exists,
      not_and]
  rw [mem_entries_iff (nodup_keys_ofPairs pairs), get?_ofPairs, Option.map_eq_some_iff]
  constructor
  · rintro ⟨⟨other, found⟩, hfind, rfl⟩
    obtain ⟨hkey, later, earlier, hreverse, hlater⟩ := List.find?_eq_some_iff_append.mp hfind
    obtain rfl : other = key := by simpa using hkey
    have hpairs : pairs = earlier.reverse ++ (other, found) :: later.reverse := by
      rw [← List.reverse_reverse pairs, hreverse]
      simp
    rw [← List.reverse_reverse later] at hlater
    exact ⟨_, _, hpairs, hlast.mp hlater⟩
  · rintro ⟨earlier, later, rfl, hlater⟩
    refine ⟨(key, value), List.find?_eq_some_iff_append.mpr ?_, rfl⟩
    exact ⟨beq_self_eq_true key, later.reverse, earlier.reverse, by simp, hlast.mpr hlater⟩

theorem isLastWins_iff {found : Dictionary α} : IsLastWins pairs found ↔ found = ofPairs pairs := by
  constructor
  · rintro ⟨hnodup, hkeys, hmem⟩
    refine ext_get? hnodup (hkeys.trans (keys_ofPairs pairs).symm) ?_
    intro key
    ext value
    rw [← mem_entries_iff hnodup, ← mem_entries_iff (nodup_keys_ofPairs pairs), hmem,
      mem_ofPairs_iff]
  · rintro rfl
    exact ⟨nodup_keys_ofPairs pairs, keys_ofPairs pairs, fun _ _ => mem_ofPairs_iff⟩

/-- The dictionary with what another one has: a key of both keeps its place and takes the
value of the other, and the keys that only the other has come behind. -/
def overwrittenBy (first second : Dictionary α) : Dictionary α :=
  ⟨first.entries.map (fun (key, value) => (key, (second.get? key).getD value)) ++
    second.entries.filter fun entry => entry.1 ∉ first.keys⟩

theorem keys_overwrittenBy (first second : Dictionary α) :
    (first.overwrittenBy second).keys =
      first.keys ++ second.keys.filter fun key => key ∉ first.keys := by
  simp [overwrittenBy, keys, List.filter_map, Function.comp_def]

theorem get?_overwrittenBy (first second : Dictionary α) (key : String) :
    (first.overwrittenBy second).get? key = (second.get? key).or (first.get? key) := by
  rw [get?, overwrittenBy, find?_append,
    find?_map_values (fun key value => (second.get? key).getD value),
    find?_filter_keys (fun key => key ∉ first.keys)]
  cases hfirst : find? key first.entries with
  | none =>
      have hkey : key ∉ first.keys := find?_eq_none.mp hfirst
      simp [hkey, get?, hfirst]
  | some old => cases second.get? key <;> simp [get?, hfirst]

theorem eraseDups_append_eq (keys others : List String) :
    (keys ++ others).eraseDups =
      keys.eraseDups ++ others.eraseDups.filter fun key => key ∉ keys := by
  induction others using List.reverseRecOn with
  | nil => simp
  | append_singleton others key ih =>
      rw [← List.append_assoc, eraseDups_concat, eraseDups_concat, ih]
      by_cases hkey : key ∈ keys
      · by_cases hother : key ∈ others <;> simp [hkey, hother]
      · by_cases hother : key ∈ others <;> simp [hkey, hother]

/-- Pairs that come behind others overwrite what these have given. -/
theorem ofPairs_append (pairs others : List (String × α)) :
    ofPairs (pairs ++ others) = (ofPairs pairs).overwrittenBy (ofPairs others) := by
  refine ext_get? (nodup_keys_ofPairs _) ?_ ?_
  · simp only [keys_overwrittenBy, keys_ofPairs, List.map_append, eraseDups_append_eq,
      List.mem_eraseDups]
  · intro key
    rw [get?_overwrittenBy, get?_ofPairs, get?_ofPairs, get?_ofPairs, List.reverse_append,
      List.find?_append, Option.map_or]

end StreamLinks.Dictionary
