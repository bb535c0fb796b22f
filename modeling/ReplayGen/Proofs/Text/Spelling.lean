import ReplayGen.Proofs.Text.Marks
import ReplayGen.CType

set_option autoImplicit false

namespace ReplayGen

namespace Text

def isIdentifier : List Char → Bool
  | [] => false
  | c :: rest => (c.isAlpha || c == '_') && rest.all fun c => c.isAlphanum || c == '_'

theorem wordy_of_isIdentifier {name : String} (identifier : isIdentifier name.toList = true) :
    Wordy name := by
  intro c member
  have plain : c.isAlphanum = true ∨ c = '_' := by
    cases letters : name.toList with
    | nil => simp [letters] at member
    | cons first rest =>
        simp only [letters, isIdentifier, Bool.and_eq_true, Bool.or_eq_true, beq_iff_eq,
          List.all_eq_true] at identifier
        rw [letters, List.mem_cons] at member
        rcases member with rfl | member
        · exact identifier.1.imp_left fun letter => by simp [Char.isAlphanum, letter]
        · exact identifier.2 c member
  rcases plain with letter | rfl
  · exact not_mark_of_isAlphanumeric (isAlphanumeric_of_isAlphanum letter)
  · decide

theorem not_mem_space_of_isIdentifier {name : List Char} (identifier : isIdentifier name = true) :
    ' ' ∉ name := by
  cases name with
  | nil => simp
  | cons first rest =>
      simp only [isIdentifier, Bool.and_eq_true, Bool.or_eq_true, beq_iff_eq, List.all_eq_true] at identifier
      intro member
      rcases List.mem_cons.mp member with rfl | inside
      · exact absurd identifier.1 (by decide)
      · exact absurd (identifier.2 ' ' inside) (by decide)

theorem mem_of_mem_words {cs word : List Char} (found : word ∈ words cs) :
    ∀ c ∈ word, c ∈ cs ∧ isBlank c = false := by
  induction cs generalizing word with
  | nil => simp at found
  | cons first rest ih =>
      have later {word : List Char} (found : word ∈ words rest) :
          ∀ c ∈ word, c ∈ first :: rest ∧ isBlank c = false := fun c member =>
        (ih found c member).imp_left (List.mem_cons_of_mem first)
      by_cases blank : isBlank first = true
      · exact later (words_blank rest blank ▸ found)
      · have own : first ∈ first :: rest ∧ isBlank first = false := by simpa using blank
        simp only [words, blank, Bool.false_eq_true, if_false] at found
        -- The character is a word if a blank follows, and else joins the first word of the rest.
        split at found
        · rcases List.mem_cons.mp found with rfl | found
          · simpa using own.2
          · exact later found
        · cases parts : words rest with
          | nil => simp [parts] at found
          | cons next others =>
              rw [parts, List.modifyHead_cons, List.mem_cons] at found
              rcases found with rfl | found
              · intro c member
                rcases List.mem_cons.mp member with rfl | member
                · exact own
                · exact later (by simp [parts]) c member
              · exact later (by simp [parts, found])

theorem mem_of_mem_intercalate {separator : List Char} {parts : List (List Char)} {c : Char}
    (member : c ∈ separator.intercalate parts) : c ∈ separator ∨ ∃ part ∈ parts, c ∈ part := by
  induction parts with
  | nil => simp at member
  | cons part rest ih =>
      cases rest with
      | nil => exact .inr ⟨part, by simpa using member⟩
      | cons next others =>
          rw [List.intercalate_cons_cons, List.mem_append, List.mem_append] at member
          rcases member with (member | member) | member
          · exact .inr ⟨part, by simp, member⟩
          · exact .inl member
          · exact (ih member).imp_right fun ⟨found, later, inside⟩ =>
              ⟨found, List.mem_cons_of_mem part later, inside⟩

end Text

namespace CType

open Text

def isPlain (type : String) : Bool :=
  type.toList.all fun c => isAlphanumeric c || c == '_' || c == '*' || isBlank c

theorem mem_trimEnd {cs : List Char} {c : Char} (member : c ∈ trimEnd cs) : c ∈ cs := by
  rw [trimEnd, List.mem_reverse] at member
  exact List.mem_reverse.mp ((List.dropWhile_sublist _).subset member)

theorem mem_of_mem_spell {cs : List Char} {c : Char} (member : c ∈ spell cs) :
    c = ' ' ∨ c = '*' ∨ c ∈ cs ∧ isBlank c = false := by
  have joined {c : Char} (member : c ∈ [' '].intercalate (words cs)) :
      c = ' ' ∨ c = '*' ∨ c ∈ cs ∧ isBlank c = false :=
    (mem_of_mem_intercalate member).imp (by simp) fun ⟨word, found, inside⟩ =>
      .inr (mem_of_mem_words found c inside)
  simp only [spell] at member
  split at member
  next target pointer =>
    rw [List.mem_append] at member
    rcases member with member | member
    · apply joined
      rw [eq_append_of_beforeStar? pointer]
      exact List.mem_append_left _ (mem_trimEnd member)
    · simp only [List.mem_cons, List.not_mem_nil, or_false] at member
      exact member.imp_right .inl
  next => exact joined member

theorem wordy_normalize {type : String} (plain : isPlain type = true) :
    Wordy (normalize type) := by
  intro c member
  rw [normalize, String.toList_ofList] at member
  rcases mem_of_mem_spell member with rfl | rfl | ⟨member, solid⟩
  · decide
  · decide
  · have allowed := List.all_eq_true.mp plain c member
    simp only [solid, Bool.or_false, Bool.or_eq_true, beq_iff_eq] at allowed
    rcases allowed with (letter | rfl) | rfl
    · exact not_mark_of_isAlphanumeric letter
    · decide
    · decide

theorem mem_of_mem_withoutConst {cs : List Char} {c : Char} (member : c ∈ withoutConst cs) :
    c ∈ cs := by
  have trimmed : c ∈ if constPrefix.isPrefixOf cs then cs.drop constPrefix.length else cs :=
    mem_trimEnd ((List.dropWhile_sublist _).subset member)
  split at trimmed
  · exact List.mem_of_mem_drop trimmed
  · exact trimmed

theorem mem_of_mem_element {type : String} {c : Char} (member : c ∈ (element type).toList) :
    c ∈ type.toList := by
  unfold element at member
  split at member
  next target pointer =>
    rw [String.toList_ofList] at member
    rw [eq_append_of_beforeStar? pointer]
    exact List.mem_append_left _ (mem_of_mem_withoutConst member)
  next => exact member

theorem wordy_element {type : String} (wordy : Wordy type) : Wordy (element type) :=
  fun c member => wordy c (mem_of_mem_element member)

theorem unbroken_normalize (type : String) : '\n' ∉ (normalize type).toList := by
  rw [normalize, String.toList_ofList]
  intro member
  rcases mem_of_mem_spell member with space | star | ⟨-, solid⟩
  · exact absurd space (by decide)
  · exact absurd star (by decide)
  · exact absurd solid (by decide)

end CType

end ReplayGen
