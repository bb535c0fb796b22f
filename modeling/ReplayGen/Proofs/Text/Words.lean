import ReplayGen.Proofs.Text.Spelling

set_option autoImplicit false

namespace ReplayGen

namespace Text

structure IsWord (word : List Char) : Prop where
  nonempty : word ≠ []
  solid : ∀ c ∈ word, isBlank c = false

theorem words_append {word rest : List Char} (isWord : IsWord word)
    (parted : rest.head?.all isBlank = true) : words (word ++ rest) = word :: words rest := by
  obtain ⟨nonempty, solid⟩ := isWord
  induction word with
  | nil => exact absurd rfl nonempty
  | cons first others ih =>
      have firstSolid := solid first (by simp)
      cases others with
      | nil => simp [words, firstSolid, parted]
      | cons second others =>
          have secondSolid := solid second (by simp)
          have later := ih (by simp) fun c member => solid c (by simp [List.mem_cons.mp member])
          rw [List.cons_append, words, firstSolid, later]
          simp [secondSolid]

theorem words_intercalate {parts : List (List Char)} (isWord : ∀ part ∈ parts, IsWord part) :
    words ([' '].intercalate parts) = parts := by
  induction parts with
  | nil => rfl
  | cons part rest ih =>
      have first := isWord part (by simp)
      cases rest with
      | nil => simpa using @words_append part [] first rfl
      | cons next others =>
          have later := ih fun other member => isWord other (List.mem_cons_of_mem part member)
          rw [List.intercalate_cons_cons, List.append_assoc, words_append first rfl,
            List.singleton_append, words_blank _ isBlank_space, later]

theorem isWord_of_mem_words {cs word : List Char} (found : word ∈ words cs) : IsWord word := by
  refine ⟨?_, fun c member => (mem_of_mem_words found c member).2⟩
  rintro rfl
  induction cs with
  | nil => simp at found
  | cons first rest ih =>
      simp only [words] at found
      split at found
      · exact ih found
      · split at found
        · exact ih (by simpa using found)
        · cases parts : words rest with
          | nil => simp [parts] at found
          | cons next others =>
              have later : [] ∈ others := by simpa [parts] using found
              exact ih (by simp [parts, later])

theorem words_cons_of_solid {c : Char} (solid : isBlank c = false) (rest : List Char) :
    ∃ word others, words (c :: rest) = (c :: word) :: others := by
  induction rest generalizing c with
  | nil => exact ⟨[], [], by simp [words, solid]⟩
  | cons next rest ih =>
      by_cases blank : isBlank next = true
      · exact ⟨[], words (next :: rest), by rw [words]; simp [solid, blank]⟩
      · rw [Bool.not_eq_true] at blank
        obtain ⟨word, others, parted⟩ := ih blank
        exact ⟨next :: word, others, by rw [words, parted]; simp [solid, blank]⟩

theorem words_trimStart (cs : List Char) : words (trimStart cs) = words cs := by
  induction cs with
  | nil => rfl
  | cons c rest ih =>
      by_cases blank : isBlank c = true
      · rw [words_blank rest blank, ← ih, trimStart, List.dropWhile_cons_of_pos blank, trimStart]
      · rw [trimStart, List.dropWhile_cons_of_neg blank]

theorem words_spaces_append {spaces : List Char} (each : ∀ c ∈ spaces, c = ' ') (rest : List Char) :
    words (spaces ++ rest) = words rest := by
  induction spaces with
  | nil => rfl
  | cons c others ih =>
      rw [List.forall_mem_cons] at each
      rw [each.1, List.cons_append, words_blank _ isBlank_space]
      exact ih each.2

theorem head?_intercalate (c : Char) (word : List Char) (others : List (List Char)) :
    ([' '].intercalate ((c :: word) :: others)).head? = some c := by
  cases others <;> simp [List.intercalate_cons_cons]

theorem intercalate_append_single (parts : List (List Char)) (last : List Char) :
    [' '].intercalate (parts ++ [last]) =
      (if parts = [] then [] else [' '].intercalate parts ++ [' ']) ++ last := by
  induction parts with
  | nil => simp
  | cons part rest ih =>
      cases rest with
      | nil => simp [List.intercalate_cons_cons]
      | cons next others =>
          rw [List.cons_append, List.cons_append, List.intercalate_cons_cons, ← List.cons_append, ih]
          simp [List.intercalate_cons_cons]

theorem trimEnd_of_getLast {cs : List Char} {c : Char} (last : cs.getLast? = some c)
    (solid : isBlank c = false) : trimEnd cs = cs := by
  obtain ⟨front, rfl⟩ := List.getLast?_eq_some_iff.mp last
  exact trimEnd_append_of_not_blank front solid

theorem trimEnd_intercalate {parts : List (List Char)} (isWord : ∀ part ∈ parts, IsWord part) :
    trimEnd ([' '].intercalate parts) = [' '].intercalate parts := by
  rcases List.eq_nil_or_concat parts with rfl | ⟨front, last, rfl⟩
  · rfl
  · have word := isWord last (by simp)
    obtain ⟨c, ended⟩ := Option.ne_none_iff_exists'.mp (mt List.getLast?_eq_none_iff.mp word.nonempty)
    refine trimEnd_of_getLast ?_ (word.solid c (List.mem_of_getLast? ended))
    rw [List.concat_eq_append, intercalate_append_single, List.getLast?_append, ended]
    rfl

end Text

namespace CType

open Text

def wordsBeforeStar (front : List (List Char)) (rest : List Char) : List (List Char) :=
  front ++ if rest = [] then [] else [rest]

theorem isWord_wordsBeforeStar {cs rest : List Char} {front : List (List Char)}
    (parted : words cs = front ++ [rest ++ ['*']]) :
    ∀ part ∈ wordsBeforeStar front rest, IsWord part := by
  have isWord : ∀ part ∈ front ++ [rest ++ ['*']], IsWord part := fun part member =>
    isWord_of_mem_words (parted ▸ member)
  intro part member
  rw [wordsBeforeStar, List.mem_append] at member
  rcases member with member | member
  · exact isWord part (by simp [member])
  · split at member
    · simp at member
    next nonempty =>
      obtain rfl := List.mem_singleton.mp member
      have last := isWord (part ++ ['*']) (by simp)
      exact ⟨nonempty, fun c inside => last.solid c (by simp [inside])⟩

theorem spell_of_starred {cs rest : List Char} {front : List (List Char)}
    (parted : words cs = front ++ [rest ++ ['*']]) :
    spell cs = [' '].intercalate (wordsBeforeStar front rest) ++ [' ', '*'] := by
  have isWord := isWord_wordsBeforeStar parted
  have trimmed : trimEnd ((if front = [] then [] else [' '].intercalate front ++ [' ']) ++ rest) =
      [' '].intercalate (wordsBeforeStar front rest) := by
    by_cases alone : rest = []
    · subst alone
      simp only [wordsBeforeStar, if_true, List.append_nil] at isWord ⊢
      split
      next empty => rw [empty]; rfl
      next => rw [trimEnd_append_blank _ isBlank_space, trimEnd_intercalate isWord]
    · simp only [wordsBeforeStar, alone, if_false] at isWord ⊢
      rw [← intercalate_append_single, trimEnd_intercalate isWord]
  simp only [spell, parted, intercalate_append_single, ← List.append_assoc]
  rw [beforeStar?_append_star]
  exact congrArg (· ++ [' ', '*']) trimmed

theorem spell_of_unstarred {cs : List Char}
    (unstarred : beforeStar? ([' '].intercalate (words cs)) = none) :
    spell cs = [' '].intercalate (words cs) := by
  simp only [spell, unstarred]

theorem words_of_beforeStar? {cs target : List Char}
    (starred : beforeStar? ([' '].intercalate (words cs)) = some target) :
    ∃ front rest, words cs = front ++ [rest ++ ['*']] := by
  have joined := eq_append_of_beforeStar? starred
  rcases List.eq_nil_or_concat (words cs) with empty | ⟨front, last, parted⟩
  · simp [empty] at joined
  · rw [List.concat_eq_append] at parted
    have member : last ∈ words cs := by simp [parted]
    have word := isWord_of_mem_words member
    rcases List.eq_nil_or_concat last with empty | ⟨rest, c, rfl⟩
    · exact absurd empty word.nonempty
    · rw [List.concat_eq_append] at parted
      rw [parted, intercalate_append_single, ← List.append_assoc] at joined
      obtain rfl : c = '*' := by simpa using List.append_inj_right' joined rfl
      exact ⟨front, rest, parted⟩

/-- The words of a type. A star that ends the last of them is a word of its own. -/
def typeWords (cs : List Char) : List (List Char) :=
  match beforeStar? ((words cs).getLast?.getD []) with
  | some rest => wordsBeforeStar (words cs).dropLast rest ++ [['*']]
  | none => words cs

theorem typeWords_of_starred {cs rest : List Char} {front : List (List Char)}
    (parted : words cs = front ++ [rest ++ ['*']]) :
    typeWords cs = wordsBeforeStar front rest ++ [['*']] := by
  simp [typeWords, parted]

theorem words_of_last_starred {cs rest : List Char}
    (starred : beforeStar? ((words cs).getLast?.getD []) = some rest) :
    ∃ front, words cs = front ++ [rest ++ ['*']] := by
  rcases List.eq_nil_or_concat (words cs) with empty | ⟨front, last, parted⟩
  · simp [empty, beforeStar?] at starred
  · rw [List.concat_eq_append] at parted
    obtain rfl : last = rest ++ ['*'] := by
      simpa [parted] using eq_append_of_beforeStar? starred
    exact ⟨front, parted⟩

theorem typeWords_of_unstarred {cs : List Char}
    (unstarred : beforeStar? ([' '].intercalate (words cs)) = none) :
    typeWords cs = words cs := by
  unfold typeWords
  split
  next rest starred =>
    -- A star that ends the last word would end the text that is joined from all.
    obtain ⟨front, parted⟩ := words_of_last_starred starred
    rw [parted, intercalate_append_single, ← List.append_assoc, beforeStar?_append_star]
      at unstarred
    simp at unstarred
  next => rfl

theorem words_spell (cs : List Char) : words (spell cs) = typeWords cs := by
  cases starred : beforeStar? ([' '].intercalate (words cs)) with
  | none =>
      have isWord : ∀ part ∈ words cs, IsWord part := fun part => isWord_of_mem_words
      rw [spell_of_unstarred starred, words_intercalate isWord, typeWords_of_unstarred starred]
  | some target =>
      obtain ⟨front, rest, parted⟩ := words_of_beforeStar? starred
      have isWord := isWord_wordsBeforeStar parted
      have star : IsWord ['*'] := ⟨by simp, List.forall_mem_singleton.mpr (by decide)⟩
      rw [spell_of_starred parted, typeWords_of_starred parted]
      by_cases alone : wordsBeforeStar front rest = []
      · rw [alone]
        decide
      · have whole : ∀ part ∈ wordsBeforeStar front rest ++ [['*']], IsWord part := by
          simpa [or_imp, forall_and, star] using isWord
        rw [← words_intercalate whole, intercalate_append_single, if_neg alone]
        simp

theorem spell_of_same_words {first second : List Char} (same : words first = words second) :
    spell first = spell second := by
  simp only [spell, same]

theorem spell_spell (cs : List Char) : spell (spell cs) = spell cs := by
  cases starred : beforeStar? ([' '].intercalate (words cs)) with
  | none =>
      have again : words (spell cs) = words cs :=
        (words_spell cs).trans (typeWords_of_unstarred starred)
      rw [spell_of_unstarred (by rw [again, starred]), again, spell_of_unstarred starred]
  | some target =>
      obtain ⟨front, rest, parted⟩ := words_of_beforeStar? starred
      -- The star is a word of its own now, so nothing is left to set apart.
      have again : words (spell cs) = wordsBeforeStar front rest ++ [[] ++ ['*']] :=
        (words_spell cs).trans (typeWords_of_starred parted)
      rw [spell_of_starred again, spell_of_starred parted]
      simp [wordsBeforeStar]

theorem spell_eq_iff {first second : List Char} :
    spell first = spell second ↔ typeWords first = typeWords second := by
  constructor
  · intro same
    rw [← words_spell, same, words_spell]
  · intro same
    rw [← words_spell, ← words_spell] at same
    rw [← spell_spell first, ← spell_spell second, spell_of_same_words same]

theorem normalize_eq_empty {type : String} (spaces : ∀ c ∈ (normalize type).toList, c = ' ') :
    normalize type = "" := by
  rw [normalize, String.toList_ofList] at spaces
  have wordless : spell (spell type.toList) = [] := by
    rw [spell, ← List.append_nil (spell type.toList), words_spaces_append spaces]
    rfl
  rw [normalize, ← spell_spell, wordless]

theorem head?_spell {cs : List Char} {c : Char} (first : (trimStart cs).head? = some c)
    (solid : isBlank c = false) (other : c ≠ '*') : (spell cs).head? = some c := by
  obtain ⟨rest, trimmed⟩ := List.head?_eq_some_iff.mp first
  obtain ⟨word, others, parted⟩ := words_cons_of_solid solid rest
  rw [← trimmed, words_trimStart] at parted
  cases starred : beforeStar? ([' '].intercalate (words cs)) with
  | none => rw [spell_of_unstarred starred, parted, head?_intercalate]
  | some target =>
      obtain ⟨front, rest, ended⟩ := words_of_beforeStar? starred
      rw [spell_of_starred ended, List.head?_append]
      rw [parted] at ended
      have kept : ∃ first others, wordsBeforeStar front rest = (c :: first) :: others := by
        cases front with
        | cons part parts =>
            obtain ⟨rfl, -⟩ := List.cons.inj ended
            exact ⟨word, _, rfl⟩
        | nil =>
            obtain ⟨same, -⟩ := List.cons.inj ended
            cases rest with
            | nil => exact absurd (List.cons.inj same).1 other
            | cons start tail =>
                obtain ⟨rfl, -⟩ := List.cons.inj same
                exact ⟨tail, [], rfl⟩
      obtain ⟨first, others, kept⟩ := kept
      rw [kept, head?_intercalate, Option.some_or]

theorem target_of_spell {cs target : List Char} (pointer : beforeStar? (spell cs) = some target) :
    target = trimEnd target ++ [' '] := by
  cases starred : beforeStar? ([' '].intercalate (words cs)) with
  | none =>
      rw [spell_of_unstarred starred, starred] at pointer
      simp at pointer
  | some _ =>
      obtain ⟨front, rest, parted⟩ := words_of_beforeStar? starred
      have tidy := trimEnd_intercalate (isWord_wordsBeforeStar parted)
      have spelled := eq_append_of_beforeStar? pointer
      rw [spell_of_starred parted] at spelled
      have ended := (List.append_assoc _ [' '] ['*']).trans spelled
      rw [← List.append_cancel_right ended, trimEnd_append_blank _ isBlank_space, tidy]

theorem withoutConst_append_blank {cs : List Char} (other : cs ≠ "const".toList) :
    withoutConst (cs ++ [' ']) = withoutConst cs := by
  have trimmed (cs : List Char) : trim (cs ++ [' ']) = trim cs := by
    rw [trim, trimEnd_append_blank _ isBlank_space, trim]
  have same : constPrefix <+: cs ++ [' '] ↔ constPrefix <+: cs := by
    rw [List.prefix_concat_iff]
    refine or_iff_right fun whole => other ?_
    have split : constPrefix = "const".toList ++ [' '] := by decide
    exact (List.append_cancel_right (split.symm.trans whole)).symm
  unfold withoutConst
  simp only [List.isPrefixOf_iff_prefix, same]
  split
  next prefixed =>
    rw [List.drop_append_of_le_length prefixed.length_le, trimmed]
  next => exact trimmed cs

end CType

end ReplayGen
