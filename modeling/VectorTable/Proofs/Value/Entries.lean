import VectorTable.Store.Match

/-!
# Looking up and putting entries

Entries with distinct names are found exactly by their names, and putting entries with new names
one after the other only appends them. Putting an entry with any name changes what is found by that
name and nothing else.
-/

namespace VectorTable

variable {α : Type}

theorem lookupName_eq_some_iff {entries : List (String × α)} (h : (entries.map Prod.fst).Nodup)
    {name : String} {value : α} :
    lookupName entries name = some value ↔ (name, value) ∈ entries := by
  induction entries with
  | nil => simp [lookupName]
  | cons entry entries ih =>
    obtain ⟨key, first⟩ := entry
    obtain ⟨hkey, hrest⟩ := List.nodup_cons.mp h
    by_cases heq : key = name
    · subst heq
      have hnot : (key, value) ∉ entries := fun hmem => hkey (List.mem_map.mpr ⟨_, hmem, rfl⟩)
      simp [lookupName, hnot, eq_comm]
    · have hskip : lookupName ((key, first) :: entries) name = lookupName entries name := by
        simp [lookupName, heq]
      rw [hskip, ih hrest, List.mem_cons, Prod.mk.injEq]
      exact ⟨.inr, fun h => h.resolve_left fun h => heq h.1.symm⟩

theorem isSome_lookupName_iff {entries : List (String × α)} {name : String} :
    (lookupName entries name).isSome = true ↔ name ∈ entries.map Prod.fst := by
  rw [lookupName, Option.isSome_map, List.find?_isSome, List.mem_map]
  simp only [beq_iff_eq]

theorem lookupName_eq_none {entries : List (String × α)} {name : String}
    (h : name ∉ entries.map Prod.fst) : lookupName entries name = none := by
  rw [lookupName, Option.map_eq_none_iff, List.find?_eq_none]
  intro entry hentry heq
  exact h (List.mem_map.mpr ⟨entry, hentry, beq_iff_eq.mp heq⟩)

theorem foldl_putEntry_named (more : List (String × α)) {entries : List (String × α)}
    (h : ((entries ++ more).map Prod.fst).Nodup) :
    more.foldl (fun done entry => putEntry (· == ·) done entry.1 entry.2) entries =
      entries ++ more := by
  induction more generalizing entries with
  | nil => simp
  | cons entry more ih =>
    have hnew : (entries.any fun other => other.1 == entry.1) = false := by
      rw [List.any_eq_false]
      intro other hother heq
      rw [List.map_append, List.nodup_append] at h
      exact h.2.2 other.1 (List.mem_map_of_mem hother) entry.1 (by simp) (beq_iff_eq.mp heq)
    rw [List.append_cons] at h ⊢
    rw [List.foldl_cons, putEntry, if_neg (by rw [hnew]; decide), ih h]

/-- Distinct names stay as they are. -/
theorem namedEntries_of_nodup {entries : List (String × α)} (h : (entries.map Prod.fst).Nodup) :
    namedEntries entries = entries := foldl_putEntry_named entries h

namespace Value

def textEntries (entries : List (String × Value)) : List (Value × Value) :=
  entries.map fun (name, value) => (text name, value)

theorem same_text (s t : String) : (text s).same (text t) = (s == t) := by
  rw [same]

theorem eq_text_of_same {v : Value} {s : String} (h : v.same (text s) = true) : v = text s := by
  cases v with
  | text t =>
    rw [same_text, beq_iff_eq] at h
    rw [h]
  | _ => simp [same, magnitude?] at h

theorem eq_record_of_same {v : Value} {name s : String}
    (h : v.same (record [(name, text s)]) = true) : v = record [(name, text s)] := by
  cases v with
  | dictionary entries =>
    rw [record, same, Bool.and_eq_true, beq_iff_eq] at h
    obtain ⟨hlength, hentries⟩ := h
    obtain ⟨⟨key, value⟩, rfl⟩ := List.length_eq_one_iff.mp hlength
    simp only [sameEntries, List.map_cons, List.map_nil, List.any_cons, List.any_nil, Bool.or_false,
      Bool.and_true, Bool.and_eq_true] at hentries
    rw [eq_text_of_same hentries.1, eq_text_of_same hentries.2]
    rfl
  | _ => simp [same, magnitude?, record] at h

theorem field?_textEntries (entries : List (String × Value)) (name : String) :
    field? (textEntries entries) name = lookupName entries name := by
  induction entries with
  | nil => rfl
  | cons entry entries ih =>
    simp only [field?, lookupName, textEntries, List.map_cons, List.find?_cons, same_text] at ih ⊢
    cases entry.1 == name with
    | true => rfl
    | false => exact ih

theorem column_record (entries : List (String × Value)) (name : String) :
    (record entries).column name = .ok ((lookupName entries name).getD null) := by
  rw [← field?_textEntries]
  rfl

theorem requiredColumn_record {entries : List (String × Value)} {name : String} {value : Value}
    (h : lookupName entries name = some value) :
    (record entries).requiredColumn name = .ok value := by
  rw [← field?_textEntries] at h
  have hfield : field? (entries.map fun (name, value) => (text name, value)) name = some value := h
  rw [record, requiredColumn, hfield]

theorem putEntry_textEntries {entries : List (String × Value)} {name : String}
    (h : name ∉ entries.map Prod.fst) (value : Value) :
    putEntry same (textEntries entries) (text name) value =
      textEntries (entries ++ [(name, value)]) := by
  have hnew : ((textEntries entries).any fun entry => entry.1.same (text name)) = false := by
    rw [List.any_eq_false]
    intro entry hentry hsame
    obtain ⟨named, hnamed, rfl⟩ := List.mem_map.mp hentry
    rw [same_text] at hsame
    exact h (List.mem_map.mpr ⟨named, hnamed, beq_iff_eq.mp hsame⟩)
  rw [putEntry, if_neg (by rw [hnew]; decide)]
  simp [textEntries]

theorem field?_cons (key value : Value) (entries : List (Value × Value)) (name : String) :
    field? ((key, value) :: entries) name =
      if key.same (text name) then some value else field? entries name := by
  rw [field?, List.find?_cons]
  cases key.same (text name) <;> rfl

theorem field?_append (entries more : List (Value × Value)) (name : String) :
    field? (entries ++ more) name = (field? entries name).or (field? more name) := by
  rw [field?, List.find?_append, Option.map_or]
  rfl

theorem field?_map_same (entries : List (Value × Value)) (name : String) (value : Value)
    (key : String) :
    field? (entries.map fun entry => if entry.1.same (text name) then (entry.1, value) else entry)
        key =
      if key = name then (field? entries name).map fun _ => value else field? entries key := by
  induction entries with
  | nil => simp [field?]
  | cons entry entries ih =>
    obtain ⟨k, v⟩ := entry
    rw [List.map_cons]
    by_cases hk : k.same (text name) = true
    · obtain rfl := eq_text_of_same hk
      rw [if_pos hk, field?_cons, ih, field?_cons, field?_cons, if_pos hk, same_text]
      by_cases hkey : key = name
      · simp [hkey]
      · simp [hkey, Ne.symm hkey]
    · rw [if_neg hk, field?_cons, ih, field?_cons, field?_cons, if_neg hk]
      by_cases hkey : key = name
      · rw [if_pos hkey, if_pos hkey, hkey, if_neg hk]
      · rw [if_neg hkey, if_neg hkey]

theorem field?_putEntry (entries : List (Value × Value)) (name : String) (value : Value)
    (key : String) :
    field? (putEntry same entries (text name) value) key =
      if key = name then some value else field? entries key := by
  rw [putEntry]
  split
  case isTrue hknown =>
    have hfound : (field? entries name).isSome = true := by
      rw [field?, Option.isSome_map, List.find?_isSome]
      exact List.any_eq_true.mp hknown
    obtain ⟨old, hold⟩ := Option.isSome_iff_exists.mp hfound
    rw [field?_map_same, hold, Option.map_some]
  case isFalse hnew =>
    have hnone : field? entries name = none := by
      rw [field?, Option.map_eq_none_iff, List.find?_eq_none]
      exact fun entry hentry hsame => hnew (List.any_eq_true.mpr ⟨entry, hentry, hsame⟩)
    have hlast : field? [(text name, value)] key = if key = name then some value else none := by
      rw [field?_cons, same_text]
      simp only [beq_iff_eq, eq_comm (a := name)]
      rfl
    rw [field?_append, hlast]
    by_cases hkey : key = name
    · rw [if_pos hkey, if_pos hkey, hkey, hnone, Option.none_or]
    · rw [if_neg hkey, if_neg hkey, Option.or_none]

theorem foldl_putEntry_textEntries (more : List (String × Value)) {entries : List (String × Value)}
    (h : ((entries ++ more).map Prod.fst).Nodup) :
    (textEntries more).foldl (fun done entry => putEntry same done entry.1 entry.2)
      (textEntries entries) = textEntries (entries ++ more) := by
  induction more generalizing entries with
  | nil => simp [textEntries]
  | cons entry more ih =>
    have happend : entries ++ entry :: more = (entries ++ [entry]) ++ more := by simp
    have hnew : entry.1 ∉ entries.map Prod.fst := by
      intro hmem
      rw [List.map_append, List.map_cons, List.nodup_append] at h
      exact h.2.2 entry.1 hmem entry.1 List.mem_cons_self rfl
    have hput := putEntry_textEntries hnew entry.2
    rw [happend] at h ⊢
    rw [← ih h, ← hput]
    rfl

end Value

end VectorTable
