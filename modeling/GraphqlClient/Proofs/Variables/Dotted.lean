import GraphqlClient.Proofs.Variables.Numbering
import Mathlib

/-!
# Paths as text

The map of form fields gives the path to a file as one text, its segments joined by dots.  A key may
hold dots of its own, and then the text no longer says where the segments end: all that can be read
off it is the path with every segment cut at its dots (`Path.ofDotted_dotted`).  Two files so share
their text exactly if their paths come to the same when they are cut.
-/

namespace GraphqlClient

namespace Path

/-! ### Cutting at dots -/

/-- What a text has between its dots, as segments. -/
def ofDotted (text : String) : Path := (text.toList.splitOn '.').map String.ofList

/-- The path with every segment cut at its dots. -/
def cut (path : Path) : Path := path.flatMap ofDotted

variable {p q : Path} {segment : String}

/-- A path is cut at the dots of its first segment, and then in the rest. -/
lemma cut_cons (segment : String) (path : Path) :
    cut (segment :: path) = ofDotted segment ++ cut path :=
  List.flatMap_cons

/-- The first dot between two texts ends the segments of the first. -/
lemma ofDotted_append_dot (text text' : String) :
    ofDotted (text ++ "." ++ text') = ofDotted text ++ ofDotted text' := by
  have htext : (text ++ "." ++ text').toList = text.toList ++ '.' :: text'.toList := by
    rw [String.toList_append, String.toList_append, List.append_assoc]
    rfl
  have hsplit : (text.toList ++ '.' :: text'.toList).splitOn '.' =
      text.toList.splitOn '.' ++ text'.toList.splitOn '.' :=
    List.splitOnP_append_cons _ _ (beq_self_eq_true '.')
  rw [ofDotted, htext, hsplit, List.map_append]
  rfl

/-- A text without dots is one segment. -/
lemma ofDotted_eq_singleton (h : '.' ∉ segment.toList) : ofDotted segment = [segment] := by
  rw [ofDotted, List.splitOn_eq_singleton h, List.map_singleton, String.ofList_toList]

/-- The first segment of a path is written before a dot, if there are more. -/
lemma dotted_cons (segment : String) (h : p ≠ []) :
    dotted (segment :: p) = segment ++ "." ++ dotted p :=
  String.intercalate_cons_of_ne_nil h

/-- Cutting the text of a path at its dots cuts the segments of the path as well. -/
theorem ofDotted_dotted (h : p ≠ []) : ofDotted p.dotted = p.cut := by
  induction p with
  | nil => exact absurd rfl h
  | cons segment p ih =>
    rw [cut_cons]
    by_cases hp : p = []
    · subst hp
      rw [dotted, String.intercalate_singleton, cut, List.flatMap_nil, List.append_nil]
    · rw [dotted_cons segment hp, ofDotted_append_dot, ih hp]

/-- The segments of a text, joined again. -/
lemma dotted_ofDotted (text : String) : (ofDotted text).dotted = text := by
  have hchars : (ofDotted text).map String.toList = text.toList.splitOn '.' := by
    have hid : String.toList ∘ String.ofList = id := funext fun _ => String.toList_ofList
    rw [ofDotted, List.map_map, hid, List.map_id]
  refine String.toList_injective ?_
  rw [dotted, String.toList_intercalate, hchars]
  exact List.intercalate_splitOn '.'

/-- Two paths have one text exactly if they come to the same when they are cut. -/
theorem dotted_eq_dotted_iff (hp : p ≠ []) (hq : q ≠ []) : p.dotted = q.dotted ↔ p.cut = q.cut := by
  rw [← ofDotted_dotted hp, ← ofDotted_dotted hq]
  refine ⟨congrArg ofDotted, fun h => ?_⟩
  rw [← dotted_ofDotted p.dotted, h, dotted_ofDotted]

/-- Without dots there is nothing to cut. -/
lemma cut_eq_self (h : ∀ segment ∈ p, '.' ∉ segment.toList) : p.cut = p := by
  induction p with
  | nil => rfl
  | cons segment p ih =>
    obtain ⟨hsegment, hrest⟩ := List.forall_mem_cons.mp h
    rw [cut_cons, ofDotted_eq_singleton hsegment, ih hrest, List.singleton_append]

/-- Two paths that have one text differ only where one of them has a dot within a segment. -/
lemma eq_or_exists_dot (hp : p ≠ []) (hq : q ≠ []) (h : p.dotted = q.dotted) :
    p = q ∨ ∃ segment ∈ p ++ q, '.' ∈ segment.toList := by
  by_cases hdots : ∃ segment ∈ p ++ q, '.' ∈ segment.toList
  · exact .inr hdots
  · push Not at hdots
    obtain ⟨hdotsp, hdotsq⟩ := List.forall_mem_append.mp hdots
    have hcut := (dotted_eq_dotted_iff hp hq).mp h
    rw [cut_eq_self hdotsp, cut_eq_self hdotsq] at hcut
    exact .inl hcut

end Path

namespace Extraction

/-! ### Texts in the map -/

/-- The paths that the map has for all its form fields. -/
def mappedPaths (e : Extraction) : List String := e.map.flatMap (·.2)

/-- The map of files lists the path of each file. -/
lemma flatMap_snd_fileMap (files : List FilePart) :
    (fileMap files).flatMap (·.2) = files.map (·.path.dotted) := by
  rw [fileMap, List.flatMap_map, List.map_eq_flatMap]

end Extraction

namespace Variables

variable {vs : Variables} {e : Extraction}

/-- The path of a file is not empty. -/
lemma path_ne_nil_of_mem_files {part : FilePart} (h : part ∈ vs.extraction.files) :
    part.path ≠ [] := by
  obtain ⟨rest, hpath, -⟩ := exists_of_mem_files h
  rw [hpath]
  exact List.cons_ne_nil _ _

/-- The map has one text for each file. -/
lemma mappedPaths_extraction (h : vs.DistinctKeys) :
    vs.extraction.mappedPaths = vs.extraction.files.map (·.path.dotted) := by
  rw [extraction_eq_plainExtraction h]
  exact Extraction.flatMap_snd_fileMap _

/-- No two files share a text unless a segment on the way to one of them holds a dot. -/
lemma pairwise_dotted_files (h : vs.DistinctKeys) :
    vs.extraction.files.Pairwise fun part other => part.path.dotted = other.path.dotted →
      ∃ segment ∈ part.path ++ other.path, '.' ∈ segment.toList := by
  have hpaths := List.pairwise_map.mp (nodup_paths_files h)
  refine hpaths.imp_of_mem fun hpart hother hne htext => ?_
  exact (Path.eq_or_exists_dot (path_ne_nil_of_mem_files hpart) (path_ne_nil_of_mem_files hother)
    htext).resolve_left hne

/-- The map has the text of the path to each file, and two files share theirs exactly if the paths
come to the same when they are cut at dots.  This takes a dot within a segment: where no segment on
the way to a file holds one, the texts are distinct, and each can be cut into the path again. -/
theorem extractFiles?_dotted (h : vs.DistinctKeys) (he : vs.extractFiles? = some e) :
    e.mappedPaths = e.files.map (·.path.dotted) ∧
    (∀ part ∈ e.files, ∀ other ∈ e.files,
      part.path.dotted = other.path.dotted ↔ part.path.cut = other.path.cut) ∧
    (e.files.Pairwise fun part other => part.path.dotted = other.path.dotted →
      ∃ segment ∈ part.path ++ other.path, '.' ∈ segment.toList) ∧
    ((∀ part ∈ e.files, ∀ segment ∈ part.path, '.' ∉ segment.toList) →
      e.mappedPaths.Nodup ∧ ∀ part ∈ e.files, Path.ofDotted part.path.dotted = part.path) := by
  obtain ⟨-, rfl⟩ : ¬ vs.extraction.files.isEmpty = true ∧ vs.extraction = e := by
    rwa [extractFiles?, Option.ite_none_left_eq_some, Option.some.injEq] at he
  have hmap := mappedPaths_extraction h
  have happart := pairwise_dotted_files h
  refine ⟨hmap, fun part hpart other hother => ?_, happart, fun hdots => ⟨?_, fun part hpart => ?_⟩⟩
  · exact Path.dotted_eq_dotted_iff (path_ne_nil_of_mem_files hpart)
      (path_ne_nil_of_mem_files hother)
  · rw [hmap]
    refine List.pairwise_map.mpr
      (happart.imp_of_mem fun {part other} hpart hother hshared htext => ?_)
    obtain ⟨segment, hmem, hdot⟩ := hshared htext
    rcases List.mem_append.mp hmem with hmem | hmem
    · exact hdots part hpart segment hmem hdot
    · exact hdots other hother segment hmem hdot
  · rw [Path.ofDotted_dotted (path_ne_nil_of_mem_files hpart), Path.cut_eq_self (hdots part hpart)]

/-- No key of an album holds a dot, so each of its files has a text of its own. -/
theorem extractFiles?_dotted_album :
    ∃ e, album.extractFiles? = some e ∧
      e.mappedPaths = ["variables.pages.1.0", "variables.cover"] ∧ e.mappedPaths.Nodup ∧
      ∀ part ∈ e.files, Path.ofDotted part.path.dotted = part.path := by
  have hsome : album.extractFiles? = some album.extraction := if_neg (by decide +kernel)
  obtain ⟨-, -, -, hplain⟩ := extractFiles?_dotted distinctKeys_album hsome
  obtain ⟨hnodup, hback⟩ := hplain (by decide +kernel)
  exact ⟨_, hsome, by decide +kernel, hnodup, hback⟩

/-- A file under a key with a dot, and a file under a key within a key. -/
def twins : Variables :=
  [("input", .object
    [("a.b", .upload { path := "1.png", contentType? := none }),
      ("a", .object [("b", .upload { path := "2.png", contentType? := none })])])]

/-- Two files whose paths differ in where the segments end claim one place. -/
theorem not_nodup_mappedPaths_twins :
    twins.DistinctKeys ∧
    ∃ e, twins.extractFiles? = some e ∧
      e.files.map (·.path) = [["variables", "input", "a", "b"], ["variables", "input", "a.b"]] ∧
      e.map = [("1", ["variables.input.a.b"]), ("2", ["variables.input.a.b"])] ∧
      ¬ e.mappedPaths.Nodup := by
  have hkeys : twins.DistinctKeys := by
    refine .object (by decide) ?_
    simp only [twins, List.forall_mem_singleton]
    refine .object (by decide) ?_
    simp only [List.forall_mem_cons]
    refine ⟨.upload _, .object (by decide) ?_, by simp⟩
    simp only [List.forall_mem_singleton]
    exact .upload _
  have hsome : twins.extractFiles? = some twins.extraction := if_neg (by decide +kernel)
  exact ⟨hkeys, _, hsome, by decide +kernel, by decide +kernel, by decide +kernel⟩

end Variables

end GraphqlClient
