import Mathlib.Algebra.Ring.Nat
import ReplayGen.Proofs.Text.Marks
import ReplayGen.Replay.Hooks

set_option autoImplicit false

namespace ReplayGen

namespace Text

def found (sought : List Char) : List Char → Nat
  | [] => 0
  | c :: rest => (if sought <+: c :: rest then 1 else 0) + found sought rest

def mentions (sought : String) (lines : List String) : Nat :=
  (lines.map fun line => found sought.toList line.toList).sum

theorem mentions_append (sought : String) (first second : List String) :
    mentions sought (first ++ second) = mentions sought first + mentions sought second := by
  simp [mentions]

theorem mentions_flatMap {α : Type} (sought : String) (items : List α) (lines : α → List Line) :
    mentions sought ((items.flatMap lines).map Line.render) =
      (items.map fun item => mentions sought ((lines item).map Line.render)).sum := by
  induction items with
  | nil => rfl
  | cons item rest ih =>
      rw [List.flatMap_cons, List.map_append, mentions_append, ih, List.map_cons, List.sum_cons]

theorem found_spaces {sought : List Char} {c : Char} (head : sought.head? = some c) (solid : c ≠ ' ')
    (count : Nat) (text : List Char) :
    found sought (List.replicate count ' ' ++ text) = found sought text := by
  obtain ⟨rest, rfl⟩ := List.head?_eq_some_iff.mp head
  induction count with
  | zero => rfl
  | succ count ih =>
      rw [List.replicate_succ, List.cons_append, found, ih, if_neg, Nat.zero_add]
      exact fun shown => solid (List.cons_prefix_cons.mp shown).1

theorem found_render {sought : List Char} {c : Char} (head : sought.head? = some c) (solid : c ≠ ' ')
    (line : Line) : found sought line.render.toList = found sought line.text.toList := by
  rw [Line.render_toList]
  split
  next empty => rw [String.isEmpty_iff.mp empty]; rfl
  next => exact found_spaces head solid _ _

section Marked

variable {mark : Char} {before after front back : List Char}

theorem prefix_marked_iff (unmarked : mark ∉ before) (plain : mark ∉ front) :
    before ++ mark :: after <+: front ++ mark :: back ↔ before = front ∧ after <+: back := by
  induction before generalizing front with
  | nil =>
      cases front with
      | nil => simp
      | cons c rest =>
          have other : mark ≠ c := fun same => plain (same ▸ List.mem_cons_self)
          simp [other]
  | cons first others ih =>
      rw [List.mem_cons, not_or] at unmarked
      cases front with
      | nil =>
          have other : first ≠ mark := fun same => unmarked.1 same.symm
          simp [other]
      | cons c rest =>
          rw [List.mem_cons, not_or] at plain
          simp [ih unmarked.2 plain.2, and_assoc]

/-- What has some mark once occurs once for each such mark with the same around it. -/
theorem found_marked (some : before ≠ []) (unmarked : mark ∉ before) (plain : mark ∉ front) :
    found (before ++ mark :: after) (front ++ mark :: back) =
      (if before <:+ front ∧ after <+: back then 1 else 0) + found (before ++ mark :: after) back := by
  induction front with
  | nil =>
      have apart : ¬ before ++ mark :: after <+: [] ++ mark :: back := by
        rw [prefix_marked_iff unmarked plain]
        exact fun same => some same.1
      rw [List.nil_append] at apart
      rw [List.nil_append, found, if_neg apart]
      simp [some]
  | cons c rest ih =>
      have shorter : before = c :: rest → ¬ before <:+ rest := by
        rintro rfl inside
        have short := inside.length_le
        rw [List.length_cons] at short
        omega
      have here := @prefix_marked_iff mark before after (c :: rest) back unmarked plain
      rw [List.mem_cons, not_or] at plain
      rw [List.cons_append] at here ⊢
      rw [found, ih plain.2]
      simp only [here, List.suffix_cons_iff]
      by_cases whole : before = c :: rest
      · have later := shorter whole
        simp only [later, or_false, false_and, if_false, Nat.zero_add]
      · simp only [whole, false_or, false_and, if_false, Nat.zero_add]

theorem found_eq_zero {text : List Char} (plain : mark ∉ text) :
    found (before ++ mark :: after) text = 0 := by
  induction text with
  | nil => rfl
  | cons c rest ih =>
      rw [found, ih (fun member => plain (List.mem_cons_of_mem c member)), if_neg]
      exact fun shown => plain (shown.subset (by simp))

end Marked

theorem dotless_literal (chars : List Char) (dotless : '.' ∉ chars) :
    '.' ∉ (String.ofList chars).toList := by
  rwa [String.toList_ofList]

end Text

section RecordedValue

open Text

theorem recordedValue_toList (position : Nat) :
    (recordedValue position).toList =
      "call".toList ++ '.' :: ("arg(".toList ++ Nat.toDigits 10 position ++ [')']) := by
  simp [recordedValue]

theorem not_mem_toDigits {mark : Char} (known : mark ∈ marks) (n : Nat) :
    mark ∉ Nat.toDigits 10 n :=
  fun member => not_mark_of_mem_toDigits member known

theorem toDigits_inj {first second : Nat} (same : Nat.toDigits 10 first = Nat.toDigits 10 second) :
    first = second := by
  have read (n : Nat) : Nat.ofDigitChars 10 (Nat.toDigits 10 n) 0 = n :=
    Nat.ofDigitChars_toDigits (by omega) (by omega)
  rw [← read first, same, read second]

theorem arg_prefix_iff (position other : Nat) (rest : List Char) :
    "arg(".toList ++ Nat.toDigits 10 position ++ [')'] <+:
      "arg(".toList ++ Nat.toDigits 10 other ++ ')' :: rest ↔ position = other := by
  have closed (n : Nat) : ')' ∉ "arg(".toList ++ Nat.toDigits 10 n := by
    rw [List.mem_append, not_or]
    exact ⟨by decide, not_mem_toDigits (by decide) n⟩
  rw [prefix_marked_iff (closed position) (closed other), List.append_cancel_left_eq]
  constructor
  · exact fun same => toDigits_inj same.1
  · rintro rfl
    exact ⟨rfl, List.nil_prefix⟩

variable (position : Nat) {front : List Char}

theorem found_recordedValue (plain : '.' ∉ front) (other : Nat) (back : List Char) :
    found (recordedValue position).toList (front ++ (recordedValue other).toList ++ back) =
      (if position = other then 1 else 0) +
        found (recordedValue position).toList
          ("arg(".toList ++ Nat.toDigits 10 other ++ ')' :: back) := by
  have called : '.' ∉ front ++ "call".toList := by
    rw [List.mem_append, not_or]
    exact ⟨plain, by decide⟩
  have split : front ++ (recordedValue other).toList ++ back = (front ++ "call".toList) ++
      '.' :: ("arg(".toList ++ Nat.toDigits 10 other ++ ')' :: back) := by
    simp [recordedValue_toList]
  have shown := arg_prefix_iff position other back
  rw [split, recordedValue_toList, found_marked (by decide) (by decide) called]
  simp only [List.suffix_append, true_and, shown]

/-- A dot belongs to no mention if the character before it is another than that of `call`. -/
theorem found_apart (plain : '.' ∉ front) (last : front.getLast? ≠ some 'l') (back : List Char) :
    found (recordedValue position).toList (front ++ '.' :: back) =
      found (recordedValue position).toList back := by
  have uncalled : ¬ "call".toList <:+ front := by
    rintro ⟨earlier, rfl⟩
    exact last (by simp)
  rw [recordedValue_toList, found_marked (by decide) (by decide) plain, if_neg, Nat.zero_add]
  exact fun called => uncalled called.1

theorem found_recordedValue_eq_zero {text : List Char} (plain : '.' ∉ text) :
    found (recordedValue position).toList text = 0 := by
  rw [recordedValue_toList]
  exact found_eq_zero plain

variable {before method after : String}

theorem mentions_render (lines : List Line) :
    mentions (recordedValue position) (lines.map Line.render) =
      (lines.map fun line => found (recordedValue position).toList line.text.toList).sum := by
  have head : (recordedValue position).toList.head? = some 'c' := by
    rw [recordedValue_toList]
    rfl
  simp [mentions, Function.comp_def, found_render head (by decide)]

theorem found_passing (plain : '.' ∉ before.toList) (other : Nat) (plainAfter : '.' ∉ after.toList) :
    found (recordedValue position).toList (before ++ (recordedValue other ++ after)).toList =
      if position = other then 1 else 0 := by
  have digits := not_mem_toDigits (by decide : '.' ∈ marks) other
  have rest : '.' ∉ "arg(".toList ++ Nat.toDigits 10 other ++ ')' :: after.toList := by
    simp [digits, plainAfter]
  rw [String.toList_append, String.toList_append, ← List.append_assoc,
    found_recordedValue position plain other, found_recordedValue_eq_zero position rest,
    Nat.add_zero]

theorem found_reading (plain : '.' ∉ before.toList) (other : Nat) (plainMethod : '.' ∉ method.toList) :
    found (recordedValue position).toList (before ++ (recordedValue other ++ (")." ++ method))).toList =
      if position = other then 1 else 0 := by
  have digits := not_mem_toDigits (by decide : '.' ∈ marks) other
  have closed : '.' ∉ "arg(".toList ++ Nat.toDigits 10 other ++ [')', ')'] := by
    simp [digits]
  have last : ("arg(".toList ++ Nat.toDigits 10 other ++ [')', ')']).getLast? ≠ some 'l' := by
    rw [List.getLast?_append]
    simp
  have rest : "arg(".toList ++ Nat.toDigits 10 other ++ ')' :: (")." ++ method).toList =
      ("arg(".toList ++ Nat.toDigits 10 other ++ [')', ')']) ++ '.' :: method.toList := by
    simp
  rw [String.toList_append, String.toList_append, ← List.append_assoc,
    found_recordedValue position plain other, rest, found_apart position closed last,
    found_recordedValue_eq_zero position plainMethod, Nat.add_zero]

theorem found_member (owner : String) (owned : owner.toList.getLast?.any (· != 'l') = true)
    (plain : '.' ∉ (before ++ owner).toList) (plainAfter : '.' ∉ after.toList) :
    found (recordedValue position).toList (before ++ owner ++ ("." ++ after)).toList = 0 := by
  have last : (before ++ owner).toList.getLast? ≠ some 'l' := by
    obtain ⟨c, ended, other⟩ := (Option.any_eq_true _ _).mp owned
    rw [String.toList_append, List.getLast?_append, ended]
    simpa using other
  have dotted : (before ++ owner ++ ("." ++ after)).toList =
      (before ++ owner).toList ++ '.' :: after.toList := by
    simp
  rw [dotted, found_apart position plain last, found_recordedValue_eq_zero position plainAfter]

end RecordedValue

end ReplayGen
