import ReplayGen.Proofs.Text.Spelling

set_option autoImplicit false

namespace ReplayGen.Text

def net (chars : List Char) : Int :=
  (chars.count '\x7b' : Int) - chars.count '\x7d'

def balance (text : String) : Int :=
  net text.toList

def isBrace (c : Char) : Bool :=
  c == '\x7b' || c == '\x7d'

def braces (text : String) : List Char :=
  text.toList.filter isBrace

@[simp] theorem net_nil : net [] = 0 := rfl

theorem net_opening : net ['\x7b'] = 1 := rfl

theorem net_closing : net ['\x7d'] = -1 := rfl

theorem net_pair : net ['\x7b', '\x7d'] = 0 := rfl

theorem net_reopening : net ['\x7d', '\x7b'] = 0 := rfl

theorem net_append (first second : List Char) : net (first ++ second) = net first + net second := by
  simp only [net, List.count_append]
  omega

@[simp] theorem balance_empty : balance "" = 0 := rfl

theorem balance_append (first second : String) :
    balance (first ++ second) = balance first + balance second := by
  rw [balance, String.toList_append, net_append, balance, balance]

theorem net_filter (chars : List Char) : net (chars.filter isBrace) = net chars := by
  rw [net, net, List.count_filter rfl, List.count_filter rfl]

theorem balance_eq (text : String) : balance text = net (braces text) :=
  (net_filter text.toList).symm

theorem braces_append (first second : String) :
    braces (first ++ second) = braces first ++ braces second := by
  simp [braces]

theorem isBrace_of_not_mark {c : Char} (unmarked : c ∉ marks) : isBrace c = false := by
  rw [Bool.eq_false_iff]
  intro brace
  simp only [isBrace, Bool.or_eq_true, beq_iff_eq] at brace
  rcases brace with rfl | rfl <;> exact unmarked (by decide)

theorem filter_isBrace {chars : List Char} (unmarked : ∀ c ∈ chars, c ∉ marks) :
    chars.filter isBrace = [] := by
  rw [List.filter_eq_nil_iff]
  intro c member
  simp [isBrace_of_not_mark (unmarked c member)]

theorem Wordy.braceless {text : String} (wordy : Wordy text) : text.toList.filter isBrace = [] :=
  filter_isBrace wordy

theorem braces_render (line : Line) : braces line.render = braces line.text := by
  unfold Line.render
  split
  next empty => rw [String.isEmpty_iff.mp empty]
  next => rw [braces_append, braces, (wordy_indentation line.depth).braceless, List.nil_append]

def leadingSpaces (line : String) : Nat :=
  (line.toList.takeWhile (· = ' ')).length

def closings (line : String) : Nat :=
  if (unindented line).toList.head? = some '\x7d' then 1 else 0

section Start

variable {text : String} {c : Char}

theorem leadingSpaces_render {line : Line} (head : line.text.toList.head? = some c)
    (flush : c ≠ ' ') : leadingSpaces line.render = 4 * line.depth := by
  obtain ⟨rest, letters⟩ := List.head?_eq_some_iff.mp head
  have nonempty : ¬ line.text.isEmpty = true := by
    rw [String.isEmpty_iff]
    intro empty
    simp [empty] at letters
  have stopped : line.text.toList.takeWhile (· = ' ') = [] := by
    rw [letters]
    exact List.takeWhile_cons_of_neg (by simpa using flush)
  rw [leadingSpaces, Line.render_toList, if_neg nonempty,
    List.takeWhile_append_of_pos (by simp [List.mem_replicate]), stopped]
  simp

theorem closings_render (line : Line) : closings line.render = closings line.text := by
  rw [closings, unindented_render, closings]

theorem closings_of_head? (head : text.toList.head? = some c) (flush : c ≠ ' ') :
    closings text = if c = '\x7d' then 1 else 0 := by
  obtain ⟨rest, letters⟩ := List.head?_eq_some_iff.mp head
  have kept : (unindented text).toList = c :: rest := by
    rw [unindented, String.toList_ofList, letters]
    exact List.dropWhile_cons_of_neg (by simpa using flush)
  simp [closings, kept]

end Start

def Solid (text : String) : Prop :=
  text.toList.head?.any (fun c => c != ' ' && c != '\x7d') = true

instance (text : String) : Decidable (Solid text) :=
  inferInstanceAs (Decidable (_ = true))

theorem solid_iff {text : String} :
    Solid text ↔ ∃ c, text.toList.head? = some c ∧ c ≠ ' ' ∧ c ≠ '\x7d' := by
  simp [Solid, Option.any_eq_true]

theorem Solid.append {first : String} (solid : Solid first) (second : String) :
    Solid (first ++ second) := by
  obtain ⟨c, head, starts⟩ := solid_iff.mp solid
  exact solid_iff.mpr ⟨c, by simp [head], starts⟩

theorem plain_literal (chars : List Char)
    (plain : chars.head?.any (fun c => c != ' ' && c != '\x7d') = true ∧ chars.filter isBrace = []) :
    Solid (String.ofList chars) ∧ braces (String.ofList chars) = [] := by
  rwa [Solid, braces, String.toList_ofList]

theorem solid_of_letter {text : String} {c : Char} (head : text.toList.head? = some c)
    (letter : isAlphanumeric c = true ∨ c = '_') : Solid text := by
  refine solid_iff.mpr ⟨c, head, ?_, ?_⟩
  · rintro rfl
    exact absurd letter (by decide +kernel)
  · rintro rfl
    exact absurd letter (by decide +kernel)

theorem solid_of_isIdentifier {name : String} (identifier : isIdentifier name.toList = true) :
    Solid name := by
  cases letters : name.toList with
  | nil => simp [letters, isIdentifier] at identifier
  | cons first rest =>
      simp only [letters, isIdentifier, Bool.and_eq_true, Bool.or_eq_true, beq_iff_eq] at identifier
      refine solid_of_letter (by rw [letters]; rfl) (identifier.1.imp_left fun letter => ?_)
      exact isAlphanumeric_of_isAlphanum (by simp [Char.isAlphanum, letter])

end ReplayGen.Text
