import GraphqlClient.Document.Lexeme
import Mathlib

/-!
# Where tokens start

The lexemes of a text follow one another without a gap.  None of them ends between a carriage return
and the line feed that belongs to it (`head?_ne_of_lexemeLength?`), so that the line ends of a text
are those of its lexemes together (`lineEnds_append`), although two characters may make one line
end.  Hence the line of a token, which is counted lexeme by lexeme, is one more than the number of
line ends before the place where the token starts, and the tokens of a text start one after the
other (`exists_places`).
-/

namespace GraphqlClient

variable {text before after : List Char} {n : Nat}

/-! ### Counting lines -/

/-- The number of lines in a text.  No further line starts at a line end with nothing behind it. -/
def lineCount (text : List Char) : Nat :=
  lineEnds text + if text.getLast?.any (!isLineEnd ·) then 1 else 0

/-- A first character counts as an end of a line unless it is the first half of one. -/
lemma lineEnds_cons {c : Char} {rest : List Char} (h : c = '\r' → rest.head? ≠ some '\n') :
    lineEnds (c :: rest) = lineEnds rest + if isLineEnd c then 1 else 0 := by
  refine lineEnds.eq_3 c rest ?_
  rintro after rfl rfl
  exact h rfl rfl

/-- The line ends of two texts count together, unless a carriage return at the end of the one makes
a single line end with a line feed at the start of the other. -/
lemma lineEnds_append (h : before.getLast? = some '\r' → after.head? ≠ some '\n') :
    lineEnds (before ++ after) = lineEnds before + lineEnds after := by
  fun_induction lineEnds before with
  | case1 => simp
  | case2 rest ih =>
    have hrest : rest.getLast? = some '\r' → after.head? ≠ some '\n' := by
      intro hlast
      exact h (by simp [List.getLast?_cons, hlast])
    simp only [List.cons_append, lineEnds, ih hrest]
    omega
  | case3 c rest hne ih =>
    cases rest with
    | nil =>
      have hc : c = '\r' → after.head? ≠ some '\n' := fun hc => h (by simp [hc])
      rw [List.singleton_append, lineEnds_cons hc, Nat.add_comm]
      simp [lineEnds]
    | cons d rest =>
      have hrest : (d :: rest).getLast? = some '\r' → after.head? ≠ some '\n' := by
        intro hlast
        exact h (by rw [List.getLast?_cons_cons, hlast])
      have hc : c = '\r' → (d :: rest ++ after).head? ≠ some '\n' := by
        rintro rfl hd
        rw [List.cons_append, List.head?_cons, Option.some.injEq] at hd
        exact hne rest rfl (by rw [hd])
      rw [List.cons_append, lineEnds_cons hc, ih hrest]
      omega

/-- A longer text has no fewer line ends. -/
lemma lineEnds_le_append (before after : List Char) :
    lineEnds before ≤ lineEnds (before ++ after) := by
  fun_induction lineEnds before with
  | case1 => exact Nat.zero_le _
  | case2 rest ih => exact Nat.succ_le_succ ih
  | case3 c rest hne ih =>
    by_cases hc : c = '\r' → (rest ++ after).head? ≠ some '\n'
    · rw [List.cons_append, lineEnds_cons hc]
      exact Nat.add_le_add_right ih _
    · push Not at hc
      obtain ⟨rfl, hhead⟩ := hc
      cases rest with
      | nil =>
        obtain ⟨more, hafter⟩ := List.head?_eq_some_iff.mp hhead
        rw [List.nil_append] at hafter
        rw [hafter]
        simp [lineEnds, isLineEnd]
      | cons d rest =>
        exact absurd (by simpa using hhead) fun hd : d = '\n' => hne rest rfl (by rw [hd])

/-- A text with a character that ends a line has an end of a line. -/
lemma one_le_lineEnds {c : Char} (hc : isLineEnd c = true) (h : c ∈ text) : 1 ≤ lineEnds text := by
  fun_induction lineEnds text with
  | case1 => exact absurd h (List.not_mem_nil)
  | case2 rest ih => exact Nat.le_add_left 1 _
  | case3 d rest hne ih =>
    rcases List.mem_cons.mp h with rfl | hrest
    · rw [if_pos hc]
      exact Nat.le_add_left 1 _
    · exact le_trans (ih hrest) (Nat.le_add_right _ _)

/-- What does not end a line stands on one of the lines of the text. -/
lemma lineEnds_lt_lineCount {c : Char} (hc : isLineEnd c = false) (before after : List Char) :
    lineEnds before < lineCount (before ++ c :: after) := by
  have hreturn : c = '\r' → after.head? ≠ some '\n' := by
    rintro rfl
    cases hc
  have hfeed : before.getLast? = some '\r' → (c :: after).head? ≠ some '\n' := by
    intro _ hhead
    obtain rfl : c = '\n' := by simpa using hhead
    cases hc
  have hends : lineEnds (before ++ c :: after) = lineEnds before + lineEnds after := by
    rw [lineEnds_append hfeed, lineEnds_cons hreturn, hc]
    rfl
  have hlast : (before ++ c :: after).getLast? = some (after.getLast?.getD c) := by
    simp [List.getLast?_append, List.getLast?_cons]
  rw [lineCount, hends, hlast, Option.any_some]
  cases hafter : after.getLast? with
  | none => simp [hc]
  | some d =>
    cases hd : isLineEnd d with
    | false => simp [hd]
    | true =>
      have hone := one_le_lineEnds hd (List.mem_of_getLast? hafter)
      omega

/-! ### Ends of lexemes -/

/-- A character in front does not change which of the next ones is the last. -/
lemma getLast?_take_cons {c d : Char} (h : (text.take n).getLast? = some d) :
    ((c :: text).take (n + 1)).getLast? = some d := by
  rw [List.take_succ_cons, List.getLast?_cons, h]
  rfl

/-- A quoted string ends with a quote. -/
lemma getLast?_of_quotedLength? (h : quotedLength? text = some n) :
    (text.take n).getLast? = some '"' := by
  fun_induction quotedLength? text generalizing n with
  | case1 => cases h
  | case2 rest =>
    cases h
    rfl
  | case3 c hc => cases h
  | case4 c rest hc ih =>
    obtain ⟨m, hm, rfl⟩ := Option.map_eq_some_iff.mp h
    exact getLast?_take_cons (getLast?_take_cons (ih hm))
  | case5 c rest hne hne' hc => cases h
  | case6 c rest hne hne' hc ih =>
    obtain ⟨m, hm, rfl⟩ := Option.map_eq_some_iff.mp h
    exact getLast?_take_cons (ih hm)

/-- So does a block string. -/
lemma getLast?_of_blockLength? (h : blockLength? text = some n) :
    (text.take n).getLast? = some '"' := by
  fun_induction blockLength? text generalizing n with
  | case1 rest =>
    cases h
    rfl
  | case2 rest ih =>
    obtain ⟨m, hm, rfl⟩ := Option.map_eq_some_iff.mp h
    exact getLast?_take_cons (getLast?_take_cons (getLast?_take_cons (getLast?_take_cons (ih hm))))
  | case3 c rest hne hne' ih =>
    obtain ⟨m, hm, rfl⟩ := Option.map_eq_some_iff.mp h
    exact getLast?_take_cons (ih hm)
  | case4 => cases h

/-- No carriage return is among the first characters of a text. -/
def Unbroken (n : Nat) (text : List Char) : Prop := '\r' ∉ text.take n

namespace Unbroken

/-- Of no characters, none is a carriage return. -/
lemma zero (text : List Char) : Unbroken 0 text := by simp [Unbroken]

/-- Another character in front leaves a text unbroken unless it is a carriage return. -/
lemma cons {c : Char} (hc : c ≠ '\r') (h : Unbroken n text) : Unbroken (n + 1) (c :: text) := by
  rw [Unbroken, List.take_succ_cons, List.mem_cons, not_or]
  exact ⟨hc.symm, h⟩

/-- If a text is unbroken up to a place and from there on, then it is all the way. -/
lemma add {m : Nat} (hm : Unbroken m text) (hn : Unbroken n (text.drop m)) :
    Unbroken (m + n) text := by
  rw [Unbroken, List.take_add, List.mem_append, not_or]
  exact ⟨hm, hn⟩

/-- A text is unbroken as long as its characters have a property that a carriage return has not. -/
lemma takeWhile {p : Char → Bool} (hp : p '\r' = false) (text : List Char) :
    Unbroken (text.takeWhile p).length text := by
  have htake : text.take (text.takeWhile p).length = text.takeWhile p :=
    (List.prefix_iff_eq_take.mp (List.takeWhile_prefix p)).symm
  rw [Unbroken, htake]
  intro hmem
  rw [List.mem_takeWhile_imp hmem] at hp
  cases hp

/-- An unbroken stretch does not end with a carriage return. -/
lemma getLast?_ne (h : Unbroken n text) : (text.take n).getLast? ≠ some '\r' := fun hlast =>
  h (List.mem_of_getLast? hlast)

end Unbroken

/-- The fraction of a number is unbroken. -/
lemma unbroken_fraction (h : fractionLength? text = some n) : Unbroken n text := by
  unfold fractionLength? at h
  split at h
  · dsimp only at h
    split at h
    · cases h
    · cases h
      exact .cons (by decide) (.takeWhile rfl _)
  · cases h
    exact .zero text

/-- The exponent of a number is unbroken. -/
lemma unbroken_exponent (h : exponentLength? text = some n) : Unbroken n text := by
  unfold exponentLength? at h
  split at h
  · next e rest =>
    split at h
    · next he =>
      extract_lets sign digits at h
      split at h
      · cases h
      · cases h
        have he' : e ≠ '\r' := by
          rintro rfl
          exact absurd he (by decide)
        have hsign : Unbroken sign rest := by
          simp only [sign]
          split
          · split
            · next hs =>
              refine .cons ?_ (.zero _)
              rintro rfl
              exact absurd hs (by decide)
            · exact .zero _
          · exact .zero _
        rw [Nat.add_assoc, Nat.add_comm 1]
        exact .cons he' (hsign.add (.takeWhile rfl _))
    · cases h
      exact .zero _
  · cases h
    exact .zero []

/-- A number is unbroken. -/
lemma unbroken_number {kind : LexemeKind} (h : numberLength? text = some (kind, n)) :
    Unbroken n text := by
  unfold numberLength? at h
  extract_lets sign whole integer parts at h
  have hsign : Unbroken sign text := by
    simp only [sign]
    split
    · next hminus =>
      obtain ⟨rest, rfl⟩ := List.head?_eq_some_iff.mp hminus
      exact .cons (by decide) (.zero rest)
    · exact .zero text
  have hinteger : Unbroken integer text := hsign.add (.takeWhile rfl _)
  split at h
  · cases h
  · obtain ⟨fraction, hfraction, h⟩ := Option.bind_eq_some_iff.mp h
    obtain ⟨exponent, hexponent, h⟩ := Option.bind_eq_some_iff.mp h
    have hlength : Unbroken (integer + fraction + exponent) text := by
      refine (hinteger.add (unbroken_fraction hfraction)).add ?_
      exact unbroken_exponent hexponent
    dsimp only at h
    split at h
    · split at h
      · cases h
      · cases h
        exact hlength
    · cases h
      exact hlength

/-- A lexeme that ends with a carriage return takes the line feed after it, if there is one.  Only
blanks and line ends can be such a lexeme, and it takes as many of them as there are. -/
theorem head?_ne_of_lexemeLength? {kind : LexemeKind} (h : lexemeLength? text = some (kind, n))
    (hlast : (text.take n).getLast? = some '\r') : (text.drop n).head? ≠ some '\n' := by
  have hfree : ¬ Unbroken n text := fun hfree => hfree.getLast?_ne hlast
  have hquote : (text.take n).getLast? ≠ some '"' := by
    rw [hlast]
    decide
  -- Strings end with a quote, and all other lexemes but blanks have no carriage return at all.
  unfold lexemeLength? at h
  split at h
  · cases h
  · next rest =>
    obtain ⟨m, hm, hkind⟩ := Option.map_eq_some_iff.mp h
    cases hkind
    exact absurd
      (getLast?_take_cons (getLast?_take_cons (getLast?_take_cons (getLast?_of_blockLength? hm))))
        hquote
  · next rest hne =>
    obtain ⟨m, hm, hkind⟩ := Option.map_eq_some_iff.mp h
    cases hkind
    exact absurd (getLast?_take_cons (getLast?_of_quotedLength? hm)) hquote
  · next rest =>
    cases h
    exact absurd (.cons (by decide) (.cons (by decide) (.cons (by decide) (.zero rest)))) hfree
  · next rest =>
    cases h
    rw [Nat.add_comm] at hfree
    exact absurd (.cons (by decide) (.takeWhile rfl rest)) hfree
  · next c rest _ _ _ _ =>
    split at h
    · next hc =>
      cases h
      intro hhead
      rw [Nat.add_comm, List.drop_succ_cons] at hhead
      -- Blanks are taken as long as there are any, and a line feed is one.
      have hdrop : rest.drop (rest.takeWhile isInsignificant).length =
          rest.dropWhile isInsignificant := by
        conv_lhs => arg 2; rw [← List.takeWhile_append_dropWhile (p := isInsignificant) (l := rest)]
        exact List.drop_left
      have hnot := List.head?_dropWhile_not isInsignificant rest
      rw [← hdrop, hhead] at hnot
      cases hnot
    · next hblank =>
      have hc : c ≠ '\r' := by
        rintro rfl
        exact hblank rfl
      split at h
      · cases h
        exact absurd (.cons hc (.zero rest)) hfree
      · split at h
        · cases h
          rw [Nat.add_comm] at hfree
          exact absurd (.cons hc (.takeWhile rfl rest)) hfree
        · split at h
          · exact absurd (unbroken_number h) hfree
          · cases h

/-- What starts with the end of a line means nothing. -/
lemma lexemeLength?_of_isLineEnd {c : Char} {rest : List Char} {kind : LexemeKind}
    (hc : isLineEnd c = true) (h : lexemeLength? (c :: rest) = some (kind, n)) :
    kind = .insignificant := by
  simp only [isLineEnd, Bool.or_eq_true, decide_eq_true_eq] at hc
  rcases hc with (((((rfl | rfl) | rfl) | rfl) | rfl) | rfl) | rfl <;> cases h
  · rfl
  · rfl

/-! ### Tokens in a text -/

/-- A text is cut into lexemes from its start on. -/
inductive CutInto : List Char → List Lexeme → Prop
  | nil : CutInto [] []
  | cons {text : List Char} {kind : LexemeKind} {n : Nat} {ls : List Lexeme} (pos : n ≠ 0)
      (first : lexemeLength? text = some (kind, n)) (rest : CutInto (text.drop n) ls) :
      CutInto text ({ kind := kind, text := text.take n } :: ls)

/-- The lexemes that are found in a text cut it. -/
lemma cutInto_of_lexemes? {ls : List Lexeme} (h : lexemes? text = some ls) : CutInto text ls := by
  fun_induction lexemes? text generalizing ls with
  | case1 =>
    cases h
    exact .nil
  | case2 c rest kind n hfirst ih =>
    obtain ⟨more, hmore, rfl⟩ := Option.map_eq_some_iff.mp h
    exact .cons n.succ_ne_zero hfirst (ih hmore)
  | case3 c rest hnone => cases h

/-- A token stands at a place of a text: the lexeme that starts there means the token, and the line
of the token is one more than the number of line ends before the place. -/
structure PlacedToken.StartsAt (text : List Char) (t : PlacedToken) (place : Nat) : Prop where
  means : ∃ kind n, lexemeLength? (text.drop place) = some (kind, n) ∧
    Lexeme.token? { kind := kind, text := (text.drop place).take n } = some (some t.token)
  line : t.line = lineEnds (text.take place) + 1

/-- The induction is on the lexemes from `place` on; `place` does not split a line end. -/
lemma exists_places_from {whole rest : List Char} {ls : List Lexeme} (hcut : CutInto rest ls)
    {place : Nat} (hrest : whole.drop place = rest)
    (hwhole : (whole.take place).getLast? = some '\r' → (whole.drop place).head? ≠ some '\n')
    {ts : List PlacedToken} (h : tokensFrom? (lineEnds (whole.take place) + 1) ls = some ts) :
    ∃ places : List Nat, List.Forall₂ (PlacedToken.StartsAt whole) ts places ∧
      places.Pairwise (· < ·) ∧ ∀ p ∈ places, place ≤ p := by
  induction hcut generalizing place ts with
  | nil =>
    cases h
    exact ⟨[], .nil, .nil, nofun⟩
  | @cons rest kind n ls pos first _ ih =>
    subst hrest
    set lexeme := (whole.drop place).take n with hlexeme
    have hne : lexeme ≠ [] := by
      intro hempty
      rcases List.take_eq_nil_iff.mp hempty with hn | hdrop
      · exact pos hn
      · rw [hdrop] at first
        cases first
    -- Line ends can be counted lexeme by lexeme because none is split.
    have hjoin : (whole.take place).getLast? = some '\r' → lexeme.head? ≠ some '\n' := by
      intro hlast
      rw [hlexeme, List.head?_take, if_neg pos]
      exact hwhole hlast
    have htake : whole.take (place + n) = whole.take place ++ lexeme := List.take_add
    have hdrop : whole.drop (place + n) = (whole.drop place).drop n := List.drop_drop.symm
    have hline : lineEnds (whole.take (place + n)) =
        lineEnds (whole.take place) + lineEnds lexeme := by
      rw [htake, lineEnds_append hjoin]
    have hnext : (whole.take (place + n)).getLast? = some '\r' →
        (whole.drop (place + n)).head? ≠ some '\n' := by
      intro hlast
      rw [hdrop]
      refine head?_ne_of_lexemeLength? first ?_
      rwa [htake, List.getLast?_append_of_ne_nil _ hne] at hlast
    obtain ⟨token?, htoken, h⟩ := Option.bind_eq_some_iff.mp h
    obtain ⟨more, hmore, h⟩ := Option.bind_eq_some_iff.mp h
    have hmore' : tokensFrom? (lineEnds (whole.take (place + n)) + 1) ls = some more := by
      rw [hline, ← hmore, Nat.add_right_comm]
    obtain ⟨places, hplaces, hascending, hlate⟩ := ih hdrop hnext hmore'
    have hbehind : ∀ p ∈ places, place + 1 ≤ p := by
      intro p hp
      have hlater := hlate p hp
      omega
    -- Blanks and comments move the place on and leave no token.
    cases token? with
    | none =>
      cases h
      exact ⟨places, hplaces, hascending, fun p hp => Nat.le_of_succ_le (hbehind p hp)⟩
    | some token =>
      cases h
      refine ⟨place :: places, .cons ⟨⟨kind, n, first, htoken⟩, rfl⟩ hplaces, ?_, ?_⟩
      · exact List.pairwise_cons.mpr ⟨hbehind, hascending⟩
      · exact List.forall_mem_cons.mpr ⟨Nat.le_refl place, fun p hp =>
          Nat.le_of_succ_le (hbehind p hp)⟩

/-- The tokens of a text start at places of the text that follow one another. -/
theorem exists_places {text : String} {ts : List PlacedToken} (h : tokens? text = some ts) :
    ∃ places : List Nat, List.Forall₂ (PlacedToken.StartsAt text.toList) ts places ∧
      places.Pairwise (· < ·) := by
  obtain ⟨ls, hls, h⟩ := Option.bind_eq_some_iff.mp h
  have hstart : ([] : List Char).getLast? = some '\r' → text.toList.head? ≠ some '\n' := nofun
  have hfrom : tokensFrom? (lineEnds (text.toList.take 0) + 1) ls = some ts := h
  obtain ⟨places, hplaces, hascending, -⟩ :=
    exists_places_from (cutInto_of_lexemes? hls) List.drop_zero hstart hfrom
  exact ⟨places, hplaces, hascending⟩

namespace PlacedToken.StartsAt

variable {t : PlacedToken} {place : Nat}

/-- A name stands in the text as it is. -/
lemma name {name : String} (h : t.StartsAt text place) (hname : t.token = .name name) :
    ∃ n, lexemeLength? (text.drop place) = some (.name, n) ∧
      (text.drop place).take n = name.toList := by
  obtain ⟨kind, n, hlength, hmeans⟩ := h.means
  rw [hname] at hmeans
  cases kind with
  | name =>
    have htext : String.ofList ((text.drop place).take n) = name := by
      simpa [Lexeme.token?] using hmeans
    exact ⟨n, hlength, by rw [← htext, String.toList_ofList]⟩
  | _ => simp [Lexeme.token?] at hmeans

end PlacedToken.StartsAt

/-- A lexeme that is not blank starts on one of the lines of the text. -/
lemma lineEnds_take_lt_lineCount {kind : LexemeKind} {place : Nat}
    (h : lexemeLength? (text.drop place) = some (kind, n)) (hkind : kind ≠ .insignificant) :
    lineEnds (text.take place) < lineCount text := by
  cases hrest : text.drop place with
  | nil =>
    rw [hrest] at h
    cases h
  | cons c rest =>
    have hc : isLineEnd c = false := by
      rw [hrest] at h
      exact Bool.eq_false_iff.mpr fun hc => hkind (lexemeLength?_of_isLineEnd hc h)
    have htext : text = text.take place ++ c :: rest := by
      rw [← hrest, List.take_append_drop]
    have hlt := lineEnds_lt_lineCount hc (text.take place) rest
    rwa [← htext] at hlt

/-- Places further on in a text are on no earlier line. -/
lemma lineEnds_take_le {place place' : Nat} (h : place ≤ place') (text : List Char) :
    lineEnds (text.take place) ≤ lineEnds (text.take place') := by
  have hprefix : text.take place <+: text.take place' := List.take_prefix_take_left h
  obtain ⟨more, hmore⟩ := hprefix
  rw [← hmore]
  exact lineEnds_le_append _ more

end GraphqlClient
