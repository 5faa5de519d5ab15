import GraphqlClient.Http.Header
import Mathlib.Tactic.Lemma
import Mathlib.Data.List.TakeWhile

/-!
# Header fields by name

What each operation on header fields does to the values under a name.
-/

namespace GraphqlClient.Headers

/-- Looking a name up in the fields after a first one. -/
lemma values_cons (field : HeaderField) (headers : Headers) (name : String) :
    values (field :: headers) name =
      if field.name = name then field.value :: headers.values name else headers.values name := by
  unfold values
  by_cases h : field.name = name <;> simp [h]

/-- The values in two runs of fields are those of the first and then those of the second. -/
lemma values_concat (headers headers' : Headers) (name : String) :
    values (headers ++ headers') name = headers.values name ++ headers'.values name := by
  simp [values]

/-- A name has a field exactly when it has a value. -/
lemma has_iff_values_ne_nil {headers : Headers} {name : String} :
    headers.has name = true ↔ headers.values name ≠ [] := by
  simp [has, values, List.filter_eq_nil_iff]

/-- Leaving fields out by name takes away the values of these names and no others. -/
lemma values_filter_name (keep : String → Bool) (headers : Headers) (name : String) :
    values (headers.filter fun field => keep field.name) name =
      if keep name then headers.values name else [] := by
  induction headers with
  | nil => simp [values]
  | cons field headers ih =>
    by_cases hname : field.name = name
    · subst hname
      by_cases hkeep : keep field.name = true <;> simp_all [values_cons]
    · by_cases hkeep : keep field.name = true <;> simp_all [values_cons]

/-- A removed name has no value, and the others keep theirs. -/
lemma values_remove (headers : Headers) (name other : String) :
    (headers.remove name).values other = if other = name then [] else headers.values other := by
  have h := values_filter_name (fun n => decide (n ≠ name)) headers other
  rw [show headers.remove name = headers.filter fun field => decide (field.name ≠ name) from rfl, h]
  by_cases hname : other = name <;> simp [hname]

/-- Fields that all have other names hold no value of a name. -/
lemma values_eq_nil {headers : Headers} {name : String} (h : ∀ field ∈ headers, field.name ≠ name) :
    headers.values name = [] := by
  unfold values
  rw [List.filter_eq_nil_iff.mpr fun field hfield => by simpa using h field hfield, List.map_nil]

/-- An inserted field stands before the fields that are left from the first with its name on. -/
lemma insert_eq (headers : Headers) (name : String) (value : Bytes) :
    ∃ before after : Headers, headers = before ++ after ∧ (∀ field ∈ before, field.name ≠ name) ∧
      headers.insert name value = before ++ { name, value } :: after.remove name := by
  refine ⟨headers.takeWhile (·.name ≠ name),
    headers.drop (headers.takeWhile (·.name ≠ name)).length,
    (List.prefix_iff_eq_append.mp (List.takeWhile_prefix _)).symm, ?_, rfl⟩
  intro field hfield
  simpa using List.mem_takeWhile_imp hfield

/-- An inserted name has its new value alone, and the others keep theirs. -/
lemma values_insert (headers : Headers) (name : String) (value : Bytes) (other : String) :
    (headers.insert name value).values other =
      if other = name then [value] else headers.values other := by
  obtain ⟨before, after, hsplit, hbefore, hinsert⟩ := insert_eq headers name value
  rw [hinsert, values_concat, values_cons, values_remove]
  by_cases hother : other = name
  · subst hother
    simp [values_eq_nil hbefore]
  · rw [if_neg (Ne.symm hother), if_neg hother, if_neg hother, ← values_concat, ← hsplit]

/-- An appended field stands behind the last field with its name. -/
lemma append_eq (headers : Headers) (name : String) (value : Bytes) :
    ∃ before after : Headers, headers = before ++ after ∧ (∀ field ∈ after, field.name ≠ name) ∧
      headers.append name value = before ++ { name, value } :: after := by
  unfold append
  dsimp only
  split
  · have hsuffix : (headers.reverse.takeWhile (·.name ≠ name)).reverse <:+ headers := by
      rw [← List.reverse_prefix, List.reverse_reverse]
      exact List.takeWhile_prefix _
    refine ⟨_, _, (List.suffix_iff_eq_append.mp hsuffix).symm, ?_, ?_⟩
    · intro field hfield
      simpa using List.mem_takeWhile_imp (List.mem_reverse.mp hfield)
    · rw [List.length_reverse]
  · exact ⟨headers, [], (List.append_nil _).symm, by simp, rfl⟩

/-- An appended name has one more value, the last, and the others keep theirs. -/
lemma values_append (headers : Headers) (name : String) (value : Bytes) (other : String) :
    (headers.append name value).values other =
      if other = name then headers.values name ++ [value] else headers.values other := by
  obtain ⟨before, after, hsplit, hafter, happend⟩ := append_eq headers name value
  rw [happend, hsplit, values_concat, values_cons]
  by_cases hother : other = name
  · subst hother
    simp [values_concat, values_eq_nil hafter]
  · rw [if_neg (Ne.symm hother), if_neg hother, values_concat]

/-! ### Merging

One message is merged into another value by value.  What a turn of the loop does depends on the name
that was said last; seen from outside, the values of each group come in place of what stood under
its name. -/

/-- Values without a name of their own are added to those under the name that was said last. -/
lemma values_foldl_take_unnamed (m : Merging) {last : String} (hlast : m.name? = some last)
    (more : List Bytes) (name : String) :
    ((more.map (none, ·)).foldl Merging.take m).merged.values name =
      if name = last then m.merged.values last ++ more else m.merged.values name := by
  induction more generalizing m with
  | nil =>
    split
    · next h => rw [h, List.append_nil]; rfl
    · rfl
  | cons value more ih =>
    have hturn : m.take (none, value) = ⟨m.merged.append last value, some last⟩ := by
      simp [Merging.take, hlast]
    rw [List.map_cons, List.foldl_cons, hturn, ih _ rfl]
    dsimp only
    rw [values_append, values_append, if_pos rfl]
    split
    · rw [List.append_assoc, List.singleton_append]
    · rfl

/-- The values of a group come in place of what stood under its name, and other names keep their
values. -/
lemma values_foldl_take_group (m : Merging) (group : String) {values : List Bytes}
    (hvalues : values ≠ []) (name : String) :
    ((drainedGroup group values).foldl Merging.take m).merged.values name =
      if name = group then values else m.merged.values name := by
  obtain ⟨value, more, rfl⟩ := List.exists_cons_of_ne_nil hvalues
  have hturn : m.take (some group, value) =
      { merged := (m.merged.remove group).append group value, name? := some group } := rfl
  have hcleared : ((m.merged.remove group).append group value).values group = [value] := by
    rw [values_append, if_pos rfl, values_remove, if_pos rfl, List.nil_append]
  rw [drainedGroup, List.foldl_cons, hturn, values_foldl_take_unnamed _ rfl]
  dsimp only
  rw [hcleared, List.singleton_append]
  split
  · rfl
  · next hname => rw [values_append, if_neg hname, values_remove, if_neg hname]

/-- After all groups, each name has the values of its own group, or else what it had before. -/
lemma values_foldl_take_groups (m : Merging) {groups : List (String × List Bytes)}
    (hnames : (groups.map (·.1)).Nodup) (hvalues : ∀ group ∈ groups, group.2 ≠ []) (name : String) :
    ((groups.flatMap fun (name, values) => drainedGroup name values).foldl
      Merging.take m).merged.values name =
      (groups.lookup name).getD (m.merged.values name) := by
  induction groups generalizing m with
  | nil => rfl
  | cons group groups ih =>
    obtain ⟨first, values⟩ := group
    obtain ⟨hfresh, hrest⟩ := List.nodup_cons.mp hnames
    obtain ⟨hfirst, hothers⟩ := List.forall_mem_cons.mp hvalues
    rw [List.flatMap_cons, List.foldl_append, ih _ hrest hothers]
    dsimp only
    rw [values_foldl_take_group m first hfirst, List.lookup_cons]
    by_cases hname : name = first
    -- No later group has the name, so that nothing replaces these values.
    · have hnone : groups.lookup name = none := by
        rw [List.lookup_eq_none_iff]
        intro group hgroup
        refine bne_iff_ne.mpr fun heq => hfresh ?_
        rw [← hname, heq]
        exact List.mem_map.mpr ⟨group, hgroup, rfl⟩
      rw [hnone, beq_iff_eq.mpr hname, if_pos hname]
      rfl
    · rw [beq_false_of_ne hname, if_neg hname]

/-- Without duplicates, each name comes once. -/
lemma nodup_eraseDups {names : List String} : names.eraseDups.Nodup := by
  induction hlength : names.length using Nat.strong_induction_on generalizing names with
  | _ n ih =>
    cases names with
    | nil => exact List.nodup_nil
    | cons name names =>
      rw [List.eraseDups_cons]
      refine List.nodup_cons.mpr ⟨?_, ih _ ?_ rfl⟩
      · rw [List.mem_eraseDups, List.mem_filter]
        simp
      · have hfilter := List.length_filter_le (fun other => !other == name) names
        rw [← hlength, List.length_cons]
        omega

/-- Each name that has a field has a group, with all its values. -/
lemma lookup_grouped (headers : Headers) (name : String) :
    headers.grouped.lookup name =
      if headers.has name then some (headers.values name) else none := by
  have hgroups : ∀ names : List String,
      (names.map fun name => (name, headers.values name)).lookup name =
        if name ∈ names then some (headers.values name) else none := by
    intro names
    induction names with
    | nil => rfl
    | cons first names ih =>
      rw [List.map_cons, List.lookup_cons, ih]
      by_cases hname : name = first
      · subst hname
        simp
      · rw [beq_false_of_ne hname]
        simp [hname]
  have hhas : headers.has name = true ↔ name ∈ (headers.map (·.name)).eraseDups := by
    rw [List.mem_eraseDups, List.mem_map, has, List.any_eq_true]
    simp
  rw [grouped, hgroups]
  simp only [hhas]

/-- Where both have fields with a name, those of the second count. -/
lemma values_merge (headers overrides : Headers) (name : String) :
    (headers.merge overrides).values name =
      if overrides.has name then overrides.values name else headers.values name := by
  have hnames : (overrides.grouped.map (·.1)).Nodup := by
    rw [grouped, List.map_map, Function.comp_def, List.map_id']
    exact nodup_eraseDups
  -- A name has a group only if some field has the name, so that no group is empty.
  have hvalues : ∀ group ∈ overrides.grouped, group.2 ≠ [] := by
    intro group hgroup
    obtain ⟨first, hfirst, rfl⟩ := List.mem_map.mp hgroup
    obtain ⟨field, hfield, rfl⟩ := List.mem_map.mp (List.mem_eraseDups.mp hfirst)
    refine has_iff_values_ne_nil.mp (List.any_eq_true.mpr ⟨field, hfield, ?_⟩)
    exact decide_eq_true rfl
  rw [merge, drained, values_foldl_take_groups _ hnames hvalues, lookup_grouped]
  split
  · rfl
  · rfl

/-- Values of one name need not stand together. -/
example : merge [⟨"a", [1]⟩, ⟨"b", [2]⟩, ⟨"a", [3]⟩] [⟨"a", [4]⟩, ⟨"c", [5]⟩, ⟨"a", [6]⟩] =
    [⟨"b", [2]⟩, ⟨"a", [4]⟩, ⟨"a", [6]⟩, ⟨"c", [5]⟩] := by
  decide

end GraphqlClient.Headers
