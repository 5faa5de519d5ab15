import GraphqlClient.Proofs.Http.Header
import GraphqlClient.Transport.Basic
import Mathlib.Data.List.Induction

/-!
# Precedence of header fields

The header fields of a request come from five sources.  They are merged one after the other, value
by value, with an insertion and a removal in between.  Seen from outside there is one rule: a name
has all the values that the last of the sources gives to it, in their order
(`Transport.headers_precedence`).
-/

namespace GraphqlClient

/-! ### Any number of sources -/

namespace Headers

variable {source : Headers} {sources : List Headers} {name : String}

/-- The values that the last of some sources gives to a name, among those that have a field with
it. -/
def lastSet (sources : List Headers) (name : String) : List Bytes :=
  ((sources.reverse.find? (·.has name)).map (·.values name)).getD []

/-- A further source counts more than all before it. -/
lemma lastSet_append_singleton :
    lastSet (sources ++ [source]) name =
      if source.has name then source.values name else lastSet sources name := by
  unfold lastSet
  rw [List.reverse_append, List.reverse_singleton, List.singleton_append, List.find?_cons]
  cases source.has name with
  | true => rfl
  | false => rfl

/-- What sources that are merged one after the other come to. -/
lemma values_foldl_merge (sources : List Headers) (name : String) :
    (sources.foldl merge []).values name = lastSet sources name := by
  -- The induction is from the back, where the source stands that counts most.
  induction sources using List.reverseRecOn with
  | nil => rfl
  | append_singleton sources source ih =>
    rw [List.foldl_append, List.foldl_cons, List.foldl_nil, values_merge,
      lastSet_append_singleton, ih]

/-- A name has a value exactly if one of the sources gives it one. -/
lemma lastSet_ne_nil_iff :
    lastSet sources name ≠ [] ↔ ∃ source ∈ sources, source.has name = true := by
  induction sources using List.reverseRecOn with
  | nil => simp [lastSet]
  | append_singleton sources source ih =>
    rw [lastSet_append_singleton]
    by_cases hsource : source.has name = true
    · have hvalues : source.values name ≠ [] := has_iff_values_ne_nil.mp hsource
      rw [if_pos hsource]
      exact ⟨fun _ => ⟨source, by simp, hsource⟩, fun _ => hvalues⟩
    · rw [if_neg hsource, ih]
      constructor
      · rintro ⟨earlier, hmem, hhas⟩
        exact ⟨earlier, List.mem_append_left _ hmem, hhas⟩
      · rintro ⟨other, hmem, hhas⟩
        rcases List.mem_append.mp hmem with hearlier | hlast
        · exact ⟨other, hearlier, hhas⟩
        · rw [List.mem_singleton.mp hlast] at hhas
          exact absurd hhas hsource

/-- To insert a field is to merge a source that has no other. -/
lemma values_insert_eq_merge (headers : Headers) (value? : Option Bytes) (inserted name : String) :
    ((value?.map (headers.insert inserted)).getD headers).values name =
      (headers.merge (value?.map fun value => { name := inserted, value }).toList).values name := by
  cases value? with
  | none => rfl
  | some value =>
    have hhas : has [{ name := inserted, value }] name = decide (inserted = name) := by simp [has]
    change (headers.insert inserted value).values name =
      (headers.merge [{ name := inserted, value }]).values name
    rw [values_insert, values_merge, hhas]
    by_cases hname : name = inserted
    · subst hname
      simp [values]
    · rw [if_neg hname, decide_eq_false (Ne.symm hname), if_neg Bool.false_ne_true]

end Headers

/-! ### The sources of a request -/

namespace Transport

/-- The sources of header fields.  Each counts more than those before it. -/
def headerSources (t : Transport) (r : Request) : List Headers :=
  [[{ name := "accept", value := bytesOf "application/json" }],
    t.config.headers,
    (t.authorization?.map fun value => { name := "authorization", value }).toList,
    t.hooks.headers r.context,
    r.headers]

/-- No source has a say in what the body is. -/
lemma values_contentType_headers (t : Transport) (r : Request) :
    (t.headers r).values "content-type" = [] := by
  unfold headers
  dsimp only
  rw [Headers.values_remove, if_pos rfl]

/-- Apart from that, the sources are merged one after the other. -/
lemma values_headers (t : Transport) (r : Request) {name : String} (hname : name ≠ "content-type") :
    (t.headers r).values name = Headers.lastSet (t.headerSources r) name := by
  have haccept : ∀ accept : Headers, (Headers.merge [] accept).values name =
      accept.values name := by
    intro accept
    rw [Headers.values_merge]
    split
    · rfl
    · next hnone => exact (not_ne_iff.mp (mt Headers.has_iff_values_ne_nil.mpr hnone)).symm
  rw [← Headers.values_foldl_merge]
  unfold headers headerSources
  dsimp only [List.foldl_cons, List.foldl_nil]
  rw [Headers.values_remove, if_neg hname]
  simp only [Headers.values_merge _ r.headers, Headers.values_merge _ (t.hooks.headers r.context),
    Headers.values_insert_eq_merge, Headers.values_merge _ (Option.toList _),
    Headers.values_merge _ t.config.headers, haccept]

/-- Each name but that of the body's type has the values of the last source that sets it, all of
them and in order.  A name that no source sets has none. -/
theorem headers_precedence (t : Transport) (r : Request) (name : String) :
    (t.headers r).values name =
        (if name = "content-type" then [] else Headers.lastSet (t.headerSources r) name) ∧
      ((t.headers r).has name = true ↔
        name ≠ "content-type" ∧ ∃ source ∈ t.headerSources r, source.has name = true) := by
  rw [Headers.has_iff_values_ne_nil]
  by_cases hname : name = "content-type"
  · have hnone : (t.headers r).values name = [] := by
      rw [hname]
      exact t.values_contentType_headers r
    rw [hnone, if_pos hname]
    exact ⟨rfl, fun h => absurd rfl h, fun h => absurd hname h.1⟩
  · rw [t.values_headers r hname, if_neg hname, Headers.lastSet_ne_nil_iff]
    exact ⟨rfl, fun h => ⟨hname, h⟩, fun h => h.2⟩

end Transport

end GraphqlClient
