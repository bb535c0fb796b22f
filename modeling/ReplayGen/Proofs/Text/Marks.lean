import ReplayGen.Proofs.Emission.Lines
import ReplayGen.Text.Alphanumeric
import ReplayGen.Text.Blank

set_option autoImplicit false

namespace ReplayGen.Text

-- The characters that part the words of a line, and the one that ends it.
def marks : List Char :=
  ['\n', '"', '&', '(', ')', '+', ',', '-', '.', '/', ':', ';', '<', '=', '>', '!', '[', '\\',
    ']', '\x7b', '\x7d']

def Wordy (text : String) : Prop :=
  ∀ c ∈ text.toList, c ∉ marks

theorem wordy_literal (chars : List Char) (wordy : chars.all (· ∉ marks) = true) :
    Wordy (String.ofList chars) := by
  simpa [Wordy] using wordy

theorem not_mark_of_isAlphanumeric {c : Char} (letter : isAlphanumeric c = true) : c ∉ marks := by
  have solid : marks.all (fun mark => !isAlphanumeric mark) = true := by decide +kernel
  intro member
  have silent := List.all_eq_true.mp solid c member
  simp [letter] at silent

theorem Wordy.append {first second : String} (firstWordy : Wordy first)
    (secondWordy : Wordy second) : Wordy (first ++ second) := by
  intro c member
  rw [String.toList_append, List.mem_append] at member
  exact member.elim (firstWordy c) (secondWordy c)

theorem Wordy.unbroken {text : String} (wordy : Wordy text) : '\n' ∉ text.toList :=
  fun member => wordy '\n' member (by decide)

theorem Wordy.dotless {text : String} (wordy : Wordy text) : '.' ∉ text.toList :=
  fun member => wordy '.' member (by decide)

theorem not_mark_of_mem_toDigits {n : Nat} {c : Char} (member : c ∈ Nat.toDigits 10 n) :
    c ∉ marks := by
  have digit := Nat.isDigit_of_mem_toDigits (by omega) (by omega) member
  exact not_mark_of_isAlphanumeric (isAlphanumeric_of_isAlphanum (by simp [Char.isAlphanum, digit]))

def fromMark (line : String) : List Char :=
  line.toList.dropWhile (· ∉ marks)

theorem fromMark_append {first : String} (wordy : Wordy first) (second : String) :
    fromMark (first ++ second) = fromMark second := by
  rw [fromMark, String.toList_append, List.dropWhile_append_of_pos]
  · rfl
  · intro c member
    simpa using wordy c member

theorem wordy_indentation (depth : Nat) : Wordy (indentation depth) := by
  intro c member
  rw [indentation, String.toList_ofList] at member
  rw [List.eq_of_mem_replicate member]
  decide

theorem fromMark_render (line : Line) : fromMark line.render = fromMark line.text := by
  unfold Line.render
  split
  next empty =>
    rw [String.isEmpty_iff.mp empty]
  next =>
    exact fromMark_append (wordy_indentation line.depth) line.text

theorem unindented_render (line : Line) : unindented line.render = unindented line.text := by
  rw [unindented, Line.render_toList, unindented]
  split
  next empty =>
    rw [String.isEmpty_iff.mp empty]
    rfl
  next =>
    rw [List.dropWhile_append_of_pos]
    intro c member
    simp [List.eq_of_mem_replicate member]

theorem mem_unindented {line : String} {c : Char} (solid : c ≠ ' ') :
    c ∈ (unindented line).toList ↔ c ∈ line.toList := by
  rw [unindented, String.toList_ofList]
  constructor
  · exact fun member => (List.dropWhile_sublist _).subset member
  · intro member
    rw [← @List.takeWhile_append_dropWhile _ (fun c => decide (c = ' ')) line.toList,
      List.mem_append] at member
    refine member.resolve_left fun indented => solid ?_
    simpa using List.all_eq_true.mp List.all_takeWhile c indented

theorem fromMark_unindented (line : String) : fromMark (unindented line) = fromMark line := by
  -- No space is a mark, so the spaces dropped first are dropped anyway.
  rw [fromMark, fromMark, unindented, String.toList_ofList]
  induction line.toList with
  | nil => rfl
  | cons c rest ih =>
      by_cases space : c = ' '
      · subst space
        rw [List.dropWhile_cons_of_pos (by simp), ih, List.dropWhile_cons_of_pos (by decide)]
      · rw [List.dropWhile_cons_of_neg (by simpa using space)]

end ReplayGen.Text
