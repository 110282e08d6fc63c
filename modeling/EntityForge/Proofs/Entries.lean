import EntityForge.Entries
import Mathlib.Data.List.Basic
import Mathlib.Data.List.Induction

/-! # What entries hold

Writing pairs to entries one after the other leaves under each name the value of the last pair that
has it; names that no pair has keep what they had.  Pairs whose names are new and all different are
simply put behind what is there.
-/

namespace EntityForge.Entries

universe u v

variable {α : Type u}

/-- The value of the last pair of that name. -/
def last? (pairs : List (Text × α)) (key : Text) : Option α :=
  (pairs.reverse.find? fun pair => pair.1 = key).map Prod.snd

theorem last?_cons (pair : Text × α) (rest : List (Text × α)) (key : Text) :
    last? (pair :: rest) key =
      (last? rest key).or (if pair.1 = key then some pair.2 else none) := by
  have hHead : ([pair].find? fun pair => pair.1 = key).map Prod.snd =
      if pair.1 = key then some pair.2 else none := by
    by_cases h : pair.1 = key <;> simp [h]
  rw [last?, List.reverse_cons, List.find?_append, Option.map_or, hHead, last?]

theorem lookup?_put (entries : Entries α) (name key : Text) (value : α) :
    (entries.put name value).lookup? key =
      if name = key then some value else entries.lookup? key := by
  by_cases h : name = key
  · rw [if_pos h, ← h, lookup?_put_self]
  · rw [if_neg h, lookup?_put_of_ne entries value (Ne.symm h)]

theorem lookup?_putAll (entries : Entries α) (pairs : List (Text × α)) (key : Text) :
    (entries.putAll pairs).lookup? key = (last? pairs key).or (entries.lookup? key) := by
  induction pairs generalizing entries with
  | nil => rfl
  | cons pair rest ih =>
      have hStep : entries.putAll (pair :: rest) = (entries.put pair.1 pair.2).putAll rest := rfl
      rw [hStep, ih, last?_cons, lookup?_put, Option.or_assoc]
      by_cases h : pair.1 = key <;> simp [h]

/-- The entries of a list of pairs hold the last value of each name. -/
theorem lookup?_ofPairs (pairs : List (Text × α)) (key : Text) :
    (ofPairs pairs).lookup? key = last? pairs key := by
  rw [ofPairs, lookup?_putAll, lookup?_nil, Option.or_none]

theorem last?_append (front back : List (Text × α)) (key : Text) :
    last? (front ++ back) key = (last? back key).or (last? front key) := by
  rw [last?, List.reverse_append, List.find?_append, Option.map_or]
  rfl

theorem last?_map {β : Type v} (pairs : List (Text × α)) (image : α → β)
    (key : Text) :
    last? (pairs.map fun pair => (pair.1, image pair.2)) key = (last? pairs key).map image := by
  rw [last?, last?, ← List.map_reverse, List.find?_map, Option.map_map, Option.map_map]
  rfl

/-- Pairs that all have the same value. -/
theorem last?_const (keys : List Text) (value : α) (key : Text) :
    last? (keys.map fun name => (name, value)) key = if key ∈ keys then some value else none := by
  induction keys with
  | nil => rfl
  | cons name rest ih =>
      rw [List.map_cons, last?_cons, ih]
      by_cases hName : name = key
      · by_cases hRest : key ∈ rest <;> simp [hName, hRest]
      · by_cases hRest : key ∈ rest <;> simp [hName, Ne.symm hName, hRest]

/-- The last pair whose name is chosen holds the last value of its name. -/
theorem find?_reverse_eq (pairs : List (Text × α)) (chosen : Text → Bool) :
    (pairs.reverse.find? fun pair => chosen pair.1).map Prod.snd =
      ((names pairs).reverse.find? chosen).bind (last? pairs) := by
  have hNames : (names pairs).reverse.find? chosen =
      (pairs.reverse.find? fun pair => chosen pair.1).map Prod.fst := by
    rw [names, ← List.map_reverse, List.find?_map]
    rfl
  rw [hNames]
  cases hFound : pairs.reverse.find? fun pair => chosen pair.1 with
  | none => rfl
  | some pair =>
      obtain ⟨hChosen, behind, before, hSplit, hBehind⟩ := List.find?_eq_some_iff_append.mp hFound
      have hLast : pairs.reverse.find? (fun other => other.1 = pair.1) = some pair := by
        refine List.find?_eq_some_iff_append.mpr ⟨by simp, behind, before, hSplit, ?_⟩
        intro other hOther
        have hNot := hBehind other hOther
        by_cases hSame : other.1 = pair.1
        · rw [hSame, hChosen] at hNot
          cases hNot
        · simpa using hSame
      rw [Option.map_some, Option.map_some, Option.bind_some, last?, hLast]
      rfl

theorem putAll_append (entries : Entries α) (front back : List (Text × α)) :
    entries.putAll (front ++ back) = (entries.putAll front).putAll back :=
  List.foldl_append

/-! ### Which names there are -/

theorem isSome_lookup?_iff (entries : Entries α) (key : Text) :
    (entries.lookup? key).isSome = true ↔ key ∈ entries.names := by
  induction entries with
  | nil => simp [names]
  | cons entry rest ih =>
      obtain ⟨name, value⟩ := entry
      rw [lookup?, names, List.map_cons, List.mem_cons]
      by_cases h : name = key
      · simp [h]
      · rw [if_neg h, ih, names]
        simp [Ne.symm h]

theorem lookup?_eq_none_iff (entries : Entries α) (key : Text) :
    entries.lookup? key = none ↔ key ∉ entries.names := by
  rw [← isSome_lookup?_iff, Option.not_isSome_iff_eq_none]

theorem exists_lookup? {entries : Entries α} {key : Text} (h : key ∈ entries.names) :
    ∃ value, entries.lookup? key = some value :=
  Option.isSome_iff_exists.mp ((isSome_lookup?_iff entries key).mpr h)

theorem mem_of_lookup? {entries : Entries α} {key : Text} {value : α}
    (h : entries.lookup? key = some value) : (key, value) ∈ entries := by
  induction entries with
  | nil => cases h
  | cons entry rest ih =>
      obtain ⟨name, first⟩ := entry
      rw [lookup?] at h
      by_cases hName : name = key
      · rw [if_pos hName, Option.some.injEq] at h
        rw [hName, h]
        exact List.mem_cons_self
      · rw [if_neg hName] at h
        exact List.mem_cons_of_mem _ (ih h)

theorem isSome_last?_iff (pairs : List (Text × α)) (key : Text) :
    (last? pairs key).isSome = true ↔ key ∈ names pairs := by
  induction pairs with
  | nil => simp [last?, names]
  | cons pair rest ih =>
      rw [last?_cons, names, List.map_cons, List.mem_cons, Option.isSome_or, Bool.or_eq_true, ih,
        names]
      by_cases h : pair.1 = key
      · simp [h]
      · simp [h, Ne.symm h]

theorem last?_eq_none_iff (pairs : List (Text × α)) (key : Text) :
    last? pairs key = none ↔ key ∉ names pairs := by
  rw [← isSome_last?_iff, Option.not_isSome_iff_eq_none]

theorem mem_names_putAll_iff (entries : Entries α) (pairs : List (Text × α)) (key : Text) :
    key ∈ (entries.putAll pairs).names ↔ key ∈ names pairs ∨ key ∈ entries.names := by
  rw [← isSome_lookup?_iff, lookup?_putAll, Option.isSome_or, Bool.or_eq_true, isSome_last?_iff,
    isSome_lookup?_iff]

theorem mem_of_mem_put {entries : Entries α} {name key : Text} {value written : α}
    (h : (name, value) ∈ entries.put key written) :
    (name, value) ∈ entries ∨ name = key ∧ value = written := by
  induction entries with
  | nil =>
      rw [put, List.mem_singleton, Prod.mk.injEq] at h
      exact .inr h
  | cons entry rest ih =>
      obtain ⟨first, old⟩ := entry
      rw [put] at h
      by_cases hFirst : first = key
      · rw [if_pos hFirst] at h
        rcases List.mem_cons.mp h with hHead | hRest
        · rw [Prod.mk.injEq] at hHead
          exact .inr ⟨hHead.1.trans hFirst, hHead.2⟩
        · exact .inl (List.mem_cons_of_mem _ hRest)
      · rw [if_neg hFirst] at h
        rcases List.mem_cons.mp h with hHead | hRest
        · rw [hHead]
          exact .inl List.mem_cons_self
        · exact (ih hRest).imp_left (List.mem_cons_of_mem _)

theorem nodup_names_putAll {entries : Entries α} (h : entries.names.Nodup)
    (pairs : List (Text × α)) : (entries.putAll pairs).names.Nodup := by
  induction pairs generalizing entries with
  | nil => exact h
  | cons pair rest ih => exact ih (nodup_names_put h pair.1 pair.2)

theorem names_ofPairs (pairs : List (Text × α)) :
    names (ofPairs pairs) = (names pairs).eraseDups := by
  induction pairs using List.reverseRecOn with
  | nil => rfl
  | append_singleton front pair ih =>
      have hPut : ofPairs (front ++ [pair]) = (ofPairs front).put pair.1 pair.2 :=
        putAll_append [] front [pair]
      have hNames : names (front ++ [pair]) = names front ++ [pair.1] := List.map_append
      rw [hPut, names_put, ih, hNames, List.eraseDups_append]
      by_cases hOld : pair.1 ∈ names front
      · have hNone : [pair.1].removeAll (names front) = [] := by simp [List.removeAll, hOld]
        rw [if_pos (List.mem_eraseDups.mpr hOld), hNone, List.eraseDups_nil, List.append_nil]
      · have hNew : [pair.1].removeAll (names front) = [pair.1] := by
          simp [List.removeAll, hOld]
        rw [if_neg (fun h => hOld (List.mem_eraseDups.mp h)), hNew]
        rfl

/-- Among entries with different names the last of a name is the only one. -/
theorem last?_eq_lookup?_of_nodup {entries : Entries α} (h : entries.names.Nodup) (key : Text) :
    last? entries key = entries.lookup? key := by
  induction entries with
  | nil => rfl
  | cons entry rest ih =>
      obtain ⟨name, value⟩ := entry
      obtain ⟨hNew, hRest⟩ := List.nodup_cons.mp h
      rw [last?_cons, ih hRest, lookup?]
      by_cases hName : name = key
      · subst hName
        rw [(lookup?_eq_none_iff rest name).mpr hNew]
        rfl
      · simp [hName]

/-- Entries chosen by their names. -/
theorem lookup?_filter (entries : Entries α) (chosen : Text → Bool) (key : Text) :
    lookup? (entries.filter fun entry => chosen entry.1) key =
      if chosen key then entries.lookup? key else none := by
  induction entries with
  | nil => simp
  | cons entry rest ih =>
      obtain ⟨name, value⟩ := entry
      rw [List.filter_cons]
      by_cases hName : name = key
      · subst hName
        by_cases hChosen : chosen name
        · simp [hChosen, lookup?]
        · simp [hChosen, ih]
      · by_cases hChosen : chosen name
        · simp [hChosen, lookup?, hName, ih]
        · simp [hChosen, lookup?, hName, ih]

/-- An entry among entries with different names is the one that is found. -/
theorem lookup?_of_mem {entries : Entries α} (h : entries.names.Nodup) {name : Text} {value : α}
    (hMem : (name, value) ∈ entries) : entries.lookup? name = some value := by
  induction entries with
  | nil => cases hMem
  | cons entry rest ih =>
      obtain ⟨first, old⟩ := entry
      obtain ⟨hNew, hRest⟩ := List.nodup_cons.mp h
      rw [lookup?]
      rcases List.mem_cons.mp hMem with hHead | hTail
      · obtain ⟨rfl, rfl⟩ := Prod.mk.inj hHead
        exact if_pos rfl
      · have hOther : first ≠ name := by
          rintro rfl
          exact hNew (List.mem_map.mpr ⟨_, hTail, rfl⟩)
        rw [if_neg hOther, ih hRest hTail]

theorem nodup_names_filter {entries : Entries α} (h : entries.names.Nodup)
    (chosen : Text × α → Bool) : (names (entries.filter chosen)).Nodup :=
  h.sublist (List.filter_sublist.map Prod.fst)

/-! ### New names -/

theorem put_of_notMem {entries : Entries α} {name : Text} (hNew : name ∉ entries.names)
    (value : α) : entries.put name value = entries ++ [(name, value)] := by
  induction entries with
  | nil => rfl
  | cons entry rest ih =>
      obtain ⟨hHead, hRest⟩ := List.ne_and_not_mem_of_not_mem_cons hNew
      rw [put, if_neg (Ne.symm hHead), ih hRest, List.cons_append]

/-- Pairs with new names, all different, are appended. -/
theorem putAll_of_nodup {entries : Entries α} {pairs : List (Text × α)}
    (hNodup : (names (entries ++ pairs)).Nodup) : entries.putAll pairs = entries ++ pairs := by
  induction pairs generalizing entries with
  | nil => rw [List.append_nil]; rfl
  | cons pair rest ih =>
      have hSplit : entries ++ pair :: rest = entries ++ [pair] ++ rest := by simp
      have hNew : pair.1 ∉ entries.names := by
        rw [names, List.map_append, List.map_cons] at hNodup
        intro hOld
        exact (List.nodup_append.mp hNodup).2.2 _ hOld _ List.mem_cons_self rfl
      have hStep : entries.putAll (pair :: rest) = (entries.put pair.1 pair.2).putAll rest := rfl
      rw [hSplit] at hNodup ⊢
      rw [hStep, put_of_notMem hNew]
      exact ih hNodup

theorem ofPairs_of_nodup {pairs : List (Text × α)} (hNodup : (names pairs).Nodup) :
    ofPairs pairs = pairs :=
  putAll_of_nodup hNodup

end EntityForge.Entries
