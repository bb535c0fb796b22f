import Mathlib.Data.List.Chain
import ReplayGen.Proofs.Text.Words

set_option autoImplicit false

namespace ReplayGen

namespace Text

def solids (cs : List Char) : List Char :=
  cs.filter (!isBlank ·)

theorem flatten_words (cs : List Char) : (words cs).flatten = solids cs := by
  induction cs with
  | nil => rfl
  | cons c rest ih =>
      by_cases blank : isBlank c = true
      · simpa [words, solids, blank] using ih
      · rw [Bool.not_eq_true] at blank
        have kept : solids (c :: rest) = c :: solids rest := by simp [solids, blank]
        simp only [words, blank, Bool.false_eq_true, if_false]
        split
        · rw [List.flatten_cons, ih, kept, List.singleton_append]
        next parted =>
          -- The next character is in the first word of the rest, so there is one.
          cases rest with
          | nil => simp at parted
          | cons next others =>
              obtain ⟨word, later, found⟩ :=
                words_cons_of_solid (by simpa using parted : isBlank next = false) others
              rw [kept, ← ih, found]
              rfl

def Apart (first second : Char) : Prop :=
  first ≠ ' ' ∨ second ≠ ' '

theorem IsWord.ne_space {word : List Char} (isWord : IsWord word) : ∀ c ∈ word, c ≠ ' ' := by
  rintro c member rfl
  exact absurd (isWord.solid ' ' member) (by decide)

theorem isChain_append_of_ne_space {word : List Char} (solid : ∀ c ∈ word, c ≠ ' ')
    (rest : List Char) : (word ++ rest).IsChain Apart ↔ rest.IsChain Apart := by
  induction word with
  | nil => rfl
  | cons c others ih =>
      have later := ih fun d member => solid d (by simp [member])
      rw [List.cons_append, List.isChain_cons, later]
      exact and_iff_right fun _ _ => .inl (solid c (by simp))

theorem isChain_intercalate {parts : List (List Char)} (isWord : ∀ part ∈ parts, IsWord part)
    {rest : List Char} (parted : rest.IsChain Apart) :
    ([' '].intercalate parts ++ rest).IsChain Apart := by
  induction parts with
  | nil => exact parted
  | cons part others ih =>
      have first := (isWord part (by simp)).ne_space
      have later := ih fun other member => isWord other (by simp [member])
      cases others with
      | nil => simpa using (isChain_append_of_ne_space first rest).mpr parted
      | cons next more =>
          have second := isWord next (by simp)
          cases next with
          | nil => exact absurd rfl second.nonempty
          | cons c tail =>
              rw [List.intercalate_cons_cons, List.append_assoc, List.append_assoc,
                isChain_append_of_ne_space first, List.singleton_append, List.isChain_cons]
              refine ⟨?_, later⟩
              rw [List.head?_append, head?_intercalate]
              simpa [Apart] using second.ne_space c (by simp)

theorem getLast?_trimEnd {cs : List Char} {c : Char} (last : (trimEnd cs).getLast? = some c) :
    isBlank c = false := by
  have stopped := List.head?_dropWhile_not isBlank cs.reverse
  rw [trimEnd, List.getLast?_reverse] at last
  rw [last] at stopped
  simpa using stopped

end Text

namespace CType

open Text

structure Tidy (type : List Char) : Prop where
  spaces : ∀ c ∈ type, isBlank c = true → c = ' '
  single : ¬ [' ', ' '] <:+: type
  ended : ∀ c, type.getLast? = some c → isBlank c = false
  starred : ∀ target, type = target ++ ['*'] → target.getLast? = some ' '

theorem isChain_spell (cs : List Char) : (spell cs).IsChain Apart := by
  cases starred : beforeStar? ([' '].intercalate (words cs)) with
  | none =>
      have isWord : ∀ part ∈ words cs, IsWord part := fun part => isWord_of_mem_words
      rw [spell_of_unstarred starred, ← List.append_nil ([' '].intercalate _)]
      exact isChain_intercalate isWord .nil
  | some target =>
      obtain ⟨front, rest, parted⟩ := words_of_beforeStar? starred
      rw [spell_of_starred parted]
      exact isChain_intercalate (isWord_wordsBeforeStar parted) (by simp [Apart])

theorem trimEnd_spell (cs : List Char) : trimEnd (spell cs) = spell cs := by
  cases starred : beforeStar? ([' '].intercalate (words cs)) with
  | none =>
      rw [spell_of_unstarred starred]
      exact trimEnd_intercalate fun part => isWord_of_mem_words
  | some target =>
      obtain ⟨front, rest, parted⟩ := words_of_beforeStar? starred
      rw [spell_of_starred parted]
      exact trimEnd_of_getLast (by simp) (by decide : isBlank '*' = false)

theorem tidy_spell (cs : List Char) : Tidy (spell cs) where
  spaces c member blank := by
    rcases mem_of_mem_spell member with space | rfl | ⟨-, solid⟩
    · exact space
    · exact absurd blank (by decide)
    · exact absurd blank (by simp [solid])
  single := by
    rintro ⟨front, rest, same⟩
    have chain := isChain_spell cs
    rw [← same] at chain
    exact absurd chain.left_of_append.right_of_append (by simp [Apart])
  ended c last := getLast?_trimEnd (trimEnd_spell cs ▸ last)
  starred target spelled := by
    have pointer : beforeStar? (spell cs) = some target := by
      rw [spelled, beforeStar?_append_star]
    rw [target_of_spell pointer]
    simp

theorem flatten_typeWords (cs : List Char) : (typeWords cs).flatten = (words cs).flatten := by
  unfold typeWords
  split
  next rest starred =>
    obtain ⟨front, parted⟩ := words_of_last_starred starred
    by_cases alone : rest = [] <;> simp [parted, wordsBeforeStar, alone]
  next => rfl

theorem solids_spell (cs : List Char) : solids (spell cs) = solids cs := by
  rw [← flatten_words, words_spell, flatten_typeWords, flatten_words]

def SameWords (first second : String) : Prop :=
  typeWords first.toList = typeWords second.toList

instance (first second : String) : Decidable (SameWords first second) :=
  inferInstanceAs (Decidable (_ = _))

theorem normalize_eq_iff {first second : String} :
    normalize first = normalize second ↔ SameWords first second := by
  rw [normalize, normalize, String.ofList_inj, spell_eq_iff, SameWords]

theorem normalize_normalize (type : String) : normalize (normalize type) = normalize type := by
  rw [normalize, normalize, String.toList_ofList, spell_spell]

end CType

end ReplayGen
