import ReplayGen.Proofs.Emission.Code

set_option autoImplicit false

/-!
# Paths through code

A run of code passes statements and the heads of blocks, until it falls off the end or
returns. Of a condition nothing is known but that 1 is true, and a loop goes round as often
as it likes. So what holds of all runs holds whatever was recorded.
-/

namespace ReplayGen

namespace Code

def texts : Code → List String
  | done => []
  | statement text rest => text :: rest.texts
  | block head body _ rest => head :: (body.texts ++ rest.texts)
  | turn _ branch => branch.texts

def outermost : Code → List String
  | done => []
  | statement text rest => text :: rest.outermost
  | block head _ _ rest => head :: rest.outermost
  | turn _ branch => branch.outermost

/-- What the body of a block holds up to where it turns, if it does. -/
def first : Code → Code
  | done | turn _ _ => done
  | statement text rest => statement text rest.first
  | block head body tail rest => block head body tail rest.first

def otherwise : Code → Code
  | done => done
  | statement _ rest | block _ _ _ rest => rest.otherwise
  | turn _ branch => branch

theorem texts_first_subset (code : Code) : code.first.texts ⊆ code.texts := by
  induction code with
  | done | turn => simp [first, texts]
  | statement text rest ih => exact List.cons_subset_cons _ ih
  | block head body tail rest _ ih =>
      exact List.cons_subset_cons _ (List.append_subset.mpr
        ⟨List.subset_append_left _ _, List.subset_append_of_subset_right _ ih⟩)

theorem texts_otherwise_subset (code : Code) : code.otherwise.texts ⊆ code.texts := by
  induction code with
  | done | turn => simp [otherwise, texts]
  | statement text rest ih => exact List.subset_cons_of_subset _ ih
  | block head body tail rest _ ih =>
      exact List.subset_cons_of_subset _ (List.subset_append_of_subset_right _ ih)

theorem texts_append (front last : Code) : (front.append last).texts = front.texts ++ last.texts := by
  induction front with
  | done => rfl
  | statement text rest ih => simp [texts, ih]
  | block head body tail rest _ ih => simp [texts, ih]
  | turn text branch ih => simp [texts, ih]

theorem mem_lines_of_mem_texts {code : Code} {text : String} (member : text ∈ code.texts)
    (depth : Nat) : ∃ line ∈ code.lines depth, line.text = text := by
  induction code generalizing depth with
  | done => simp [texts] at member
  | statement said rest ih =>
      rcases List.mem_cons.mp member with rfl | later
      · exact ⟨⟨depth, text⟩, by simp [lines], rfl⟩
      · obtain ⟨line, inside, same⟩ := ih later depth
        exact ⟨line, by simp [lines, inside], same⟩
  | block head body tail rest bodyIh restIh =>
      simp only [texts, List.mem_cons, List.mem_append] at member
      rcases member with rfl | within | later
      · exact ⟨⟨depth, text⟩, by simp [lines], rfl⟩
      · obtain ⟨line, inside, same⟩ := bodyIh within (depth + 1)
        exact ⟨line, by simp [lines, inside], same⟩
      · obtain ⟨line, inside, same⟩ := restIh later depth
        exact ⟨line, by simp [lines, inside], same⟩
  | turn said branch ih =>
      obtain ⟨line, inside, same⟩ := ih member depth
      exact ⟨line, by simp [lines, inside], same⟩

theorem mem_lines_of_mem_outermost {code : Code} {text : String} (member : text ∈ code.outermost)
    (depth : Nat) : ⟨depth, text⟩ ∈ code.lines depth := by
  induction code with
  | done => simp [outermost] at member
  | statement said rest ih =>
      rcases List.mem_cons.mp member with rfl | later
      · simp [lines]
      · simp [lines, ih later]
  | block head body tail rest _ ih =>
      rcases List.mem_cons.mp member with rfl | later
      · simp [lines]
      · simp [lines, ih later]
  | turn said branch ih => simp [lines, ih member]

end Code

inductive Ending where
  | falls
  | returns
  deriving DecidableEq, Repr

def isLoop (head : String) : Bool :=
  "for (".toList.isPrefixOf head.toList

namespace Code

def MayTake (head : String) (body branch : Code) : Prop :=
  branch = body.first ∨ head ≠ "if (1) \x7b" ∧ branch = body.otherwise.first

inductive Runs : Code → List String → Ending → Prop where
  | done : Runs .done [] .falls
  | leave (rest : Code) : Runs (.statement "return;" rest) ["return;"] .returns
  | statement {text : String} {rest : Code} {path : List String} {ending : Ending}
      (goesOn : text ≠ "return;") (later : Runs rest path ending) :
      Runs (.statement text rest) (text :: path) ending
  | block {head tail : String} {body branch rest : Code} {inside path : List String}
      {ending : Ending} (taken : MayTake head body branch) (within : Runs branch inside .falls)
      (later : Runs rest path ending) :
      Runs (.block head body tail rest) (head :: (inside ++ path)) ending
  | leaveBlock {head tail : String} {body branch rest : Code} {inside : List String}
      (taken : MayTake head body branch) (within : Runs branch inside .returns) :
      Runs (.block head body tail rest) (head :: inside) .returns
  | again {head tail : String} {body rest : Code} {inside path : List String} {ending : Ending}
      (loop : isLoop head = true) (within : Runs body.first inside .falls)
      (later : Runs (.block head body tail rest) path ending) :
      Runs (.block head body tail rest) (head :: (inside ++ path)) ending

theorem MayTake.texts_subset {head : String} {body branch : Code} (taken : MayTake head body branch) :
    branch.texts ⊆ body.texts := by
  rcases taken with rfl | ⟨-, rfl⟩
  · exact body.texts_first_subset
  · exact List.Subset.trans body.otherwise.texts_first_subset body.texts_otherwise_subset

theorem Runs.subset_texts {code : Code} {path : List String} {ending : Ending}
    (run : Runs code path ending) : path ⊆ code.texts := by
  induction run with
  | done => simp
  | leave rest => simp [texts]
  | statement _ _ ih => exact List.cons_subset_cons _ ih
  | block taken _ _ inside later =>
      have within := List.Subset.trans inside taken.texts_subset
      exact List.cons_subset_cons _ (List.append_subset.mpr
        ⟨List.subset_append_of_subset_left _ within, List.subset_append_of_subset_right _ later⟩)
  | leaveBlock taken _ inside =>
      have within := List.Subset.trans inside taken.texts_subset
      exact List.cons_subset_cons _ (List.subset_append_of_subset_left _ within)
  | @again _ _ body _ _ _ _ _ _ _ inside later =>
      have within := List.Subset.trans inside body.texts_first_subset
      have whole := List.append_subset.mpr
        ⟨List.subset_cons_of_subset _ (List.subset_append_of_subset_left _ within), later⟩
      exact List.cons_subset.mpr ⟨List.mem_cons_self, whole⟩

theorem Runs.mem_of_returns {code : Code} {path : List String} (run : Runs code path .returns) :
    "return;" ∈ path := by
  generalize returned : Ending.returns = ending at run
  induction run with
  | done => simp at returned
  | leave => simp
  | statement _ _ ih => exact List.mem_cons_of_mem _ (ih returned)
  | block _ _ _ _ ih | again _ _ _ _ ih =>
      exact List.mem_cons_of_mem _ (List.mem_append_right _ (ih returned))
  | leaveBlock _ _ ih => exact List.mem_cons_of_mem _ (ih rfl)

theorem Runs.falls {code : Code} {path : List String} {ending : Ending} (run : Runs code path ending)
    (stays : "return;" ∉ code.texts) : ending = .falls := by
  cases ending with
  | falls => rfl
  | returns => exact absurd (run.subset_texts run.mem_of_returns) stays

theorem Runs.outermost {code : Code} {path : List String} (run : Runs code path .falls) :
    code.outermost.Sublist path := by
  generalize fallen : Ending.falls = ending at run
  induction run with
  | done => simp [Code.outermost]
  | leave => simp at fallen
  | statement _ _ ih => exact (ih fallen).cons_cons _
  | block _ _ _ _ ih => exact ((ih fallen).trans (List.sublist_append_right _ _)).cons_cons _
  | leaveBlock => simp at fallen
  | again _ _ _ _ ih =>
      exact (ih fallen).trans (((List.sublist_append_right _ _).cons _))

theorem Runs.append {front last : Code} {before after : List String} {ending : Ending}
    (run : Runs front before .falls) (later : Runs last after ending) :
    Runs (front.append last) (before ++ after) ending := by
  generalize fallen : Ending.falls = middle at run
  induction run with
  | done => exact later
  | leave => simp at fallen
  | statement goesOn _ ih => exact .statement goesOn (ih fallen)
  | block taken within _ _ ih =>
      rw [List.cons_append, List.append_assoc]
      exact .block taken within (ih fallen)
  | leaveBlock => simp at fallen
  | again loop within _ _ ih =>
      rw [List.cons_append, List.append_assoc]
      exact .again loop within (ih fallen)

theorem Runs.append_of_returns {front : Code} {path : List String} (run : Runs front path .returns)
    (last : Code) : Runs (front.append last) path .returns := by
  generalize returned : Ending.returns = ending at run
  induction run with
  | done => simp at returned
  | leave rest => exact .leave (rest.append last)
  | statement goesOn _ ih => exact .statement goesOn (ih returned)
  | block taken within _ _ ih => exact .block taken within (ih returned)
  | leaveBlock taken within => exact .leaveBlock taken within
  | again loop within _ _ ih => exact .again loop within (ih returned)

theorem Runs.parts {front last : Code} {path : List String} {ending : Ending}
    (run : Runs (front.append last) path ending) :
    ending = .returns ∧ Runs front path .returns ∨
      ∃ before after, path = before ++ after ∧ Runs front before .falls ∧ Runs last after ending := by
  induction front generalizing path ending with
  | done => exact .inr ⟨[], path, rfl, .done, run⟩
  | turn text branch => cases run
  | statement text rest ih =>
      cases run with
      | leave => exact .inl ⟨rfl, .leave rest⟩
      | statement goesOn later =>
          rcases ih later with ⟨returned, left⟩ | ⟨before, after, rfl, fallen, later⟩
          · exact .inl ⟨returned, .statement goesOn left⟩
          · exact .inr ⟨text :: before, after, rfl, .statement goesOn fallen, later⟩
  | block head body tail rest _ ih =>
      -- A loop comes back to the same code, so the rounds are counted by the run.
      generalize whole : (Code.block head body tail rest).append last = code at run
      induction run with
      | done | leave | statement => simp at whole
      | block taken within later =>
          obtain ⟨rfl, rfl, rfl, rfl⟩ := Code.block.inj whole
          rcases ih later with ⟨returned, left⟩ | ⟨before, after, rfl, fallen, later⟩
          · exact .inl ⟨returned, .block taken within left⟩
          · refine .inr ⟨_, after, ?_, .block taken within fallen, later⟩
            simp
      | leaveBlock taken within =>
          obtain ⟨rfl, rfl, rfl, rfl⟩ := Code.block.inj whole
          exact .inl ⟨rfl, .leaveBlock taken within⟩
      | again loop within _ _ rounds =>
          obtain ⟨rfl, rfl, rfl, rfl⟩ := Code.block.inj whole
          rcases rounds rfl with ⟨returned, left⟩ | ⟨before, after, rfl, fallen, later⟩
          · exact .inl ⟨returned, .again loop within left⟩
          · refine .inr ⟨_, after, ?_, .again loop within fallen, later⟩
            simp

theorem runs_append_iff {front last : Code} {path : List String} {ending : Ending} :
    Runs (front.append last) path ending ↔
      ending = .returns ∧ Runs front path .returns ∨
        ∃ before after, path = before ++ after ∧ Runs front before .falls ∧ Runs last after ending := by
  constructor
  · exact Runs.parts
  · rintro (⟨rfl, run⟩ | ⟨before, after, rfl, run, later⟩)
    · exact run.append_of_returns last
    · exact run.append later

theorem otherwise_of_first {code : Code} (straight : code.first = code) : code.otherwise = .done := by
  induction code with
  | done => rfl
  | turn => simp [first] at straight
  | statement text rest ih => exact ih (Code.statement.inj straight).2
  | block head body tail rest _ ih => exact ih (Code.block.inj straight).2.2.2

-- A test that may be false is passed by, if there is no other branch to take.
theorem Runs.skip {head : String} {body rest : Code} {path : List String} {ending : Ending}
    (unforced : head ≠ "if (1) \x7b") (straight : body.first = body) (run : Runs rest path ending)
    (tail : String) : Runs (.block head body tail rest) (head :: path) ending := by
  have skipped : MayTake head body .done := .inr ⟨unforced, by rw [otherwise_of_first straight, first]⟩
  exact .block skipped .done run

theorem exists_runs {code : Code} (stays : "return;" ∉ code.texts)
    (unforced : "if (1) \x7b" ∉ code.texts) :
    (∃ path, Runs code.first path .falls) ∧ ∃ path, Runs code.otherwise.first path .falls := by
  induction code with
  | done => exact ⟨⟨[], .done⟩, ⟨[], .done⟩⟩
  | turn text branch ih => exact ⟨⟨[], .done⟩, (ih stays unforced).1⟩
  | statement text rest ih =>
      simp only [texts, List.mem_cons, not_or] at stays unforced
      obtain ⟨⟨path, run⟩, others⟩ := ih stays.2 unforced.2
      exact ⟨⟨text :: path, .statement (Ne.symm stays.1) run⟩, others⟩
  | block head body tail rest bodyIh restIh =>
      simp only [texts, List.mem_cons, List.mem_append, not_or] at stays unforced
      obtain ⟨-, ⟨inside, skipped⟩⟩ := bodyIh stays.2.1 unforced.2.1
      obtain ⟨⟨path, run⟩, others⟩ := restIh stays.2.2 unforced.2.2
      exact ⟨⟨_, .block (.inr ⟨Ne.symm unforced.1, rfl⟩) skipped run⟩, others⟩

def Passes (kind : String → Bool) (count : Nat) (code : Code) : Prop :=
  ∀ path, Runs code path .falls → path.countP kind = count

section Passes

variable {kind : String → Bool} {count more : Nat}

theorem passes_zero {code : Code} (none : ∀ text ∈ code.texts, kind text = false) :
    code.Passes kind 0 := by
  intro path run
  rw [List.countP_eq_zero]
  intro text member
  simp [none text (run.subset_texts member)]

theorem Passes.statement {rest : Code} (passes : rest.Passes kind count) (text : String) :
    (Code.statement text rest).Passes kind (count + if kind text then 1 else 0) := by
  intro path run
  cases run with
  | statement _ later => rw [List.countP_cons, passes _ later]

theorem Passes.block {head tail : String} {body rest : Code} (once : isLoop head = false)
    (tested : kind head = false) (taken : body.first.Passes kind count)
    (skipped : body.otherwise.first.Passes kind count) (passes : rest.Passes kind more) :
    (Code.block head body tail rest).Passes kind (count + more) := by
  intro path run
  cases run with
  | again loop => simp [once] at loop
  | @block _ _ _ _ _ inside _ _ branch within later =>
      have passed : inside.countP kind = count := by
        rcases branch with rfl | ⟨-, rfl⟩
        · exact taken inside within
        · exact skipped inside within
      rw [List.countP_cons_of_neg (by simp [tested]), List.countP_append, passed, passes _ later]

theorem Passes.append {front last : Code} (passes : front.Passes kind count)
    (others : last.Passes kind more) : (front.append last).Passes kind (count + more) := by
  intro path run
  rcases runs_append_iff.mp run with ⟨returned, -⟩ | ⟨before, after, rfl, fallen, later⟩
  · simp at returned
  · rw [List.countP_append, passes before fallen, others after later]

end Passes

end Code

namespace Reading

def Straight : Reading → Prop
  | ended code => code.first = code
  | left _ _ beyond => beyond.Straight

theorem Straight.map {change : Code → Code} {reading : Reading} (straight : reading.Straight)
    (kept : ∀ code : Code, code.first = code → (change code).first = change code) :
    (reading.map change).Straight := by
  cases reading with
  | ended code => exact kept code straight
  | left code tail beyond => exact straight

end Reading

namespace Script

theorem straight_read {script : Script} {depth : Nat} (closed : depthAfter? depth script = some 0) :
    script.read.Straight := by
  induction script generalizing depth with
  | nil => exact rfl
  | cons step rest ih =>
      obtain ⟨next, stepped, closed⟩ := Option.bind_eq_some_iff.mp closed
      have later := ih closed
      rw [read_cons]
      cases step with
      | raw | note | closeBlock => exact later
      | line | blank => exact later.map fun code same => congrArg (Code.statement _) same
      | openBlock text =>
          cases reading : read rest with
          | ended code =>
              rw [reading] at later
              exact congrArg (Code.statement text) later
          | left body tail beyond =>
              rw [reading] at later
              exact Reading.Straight.map later fun code same => congrArg (Code.block text body tail) same
      | reopenBlock text =>
          cases depth with
          | zero => simp [Step.depthAfter?] at stepped
          | succ depth =>
              obtain rfl := Option.some.inj stepped
              have left := leaves_read closed
              cases reading : read rest with
              | ended code => simp [reading, Reading.leaves] at left
              | left body tail beyond =>
                  rw [reading] at later
                  exact later

theorem Balanced.first_code {script : Script} (balanced : Balanced script) :
    script.code.first = script.code := by
  have straight := straight_read (balanced 0)
  rwa [balanced.read_eq] at straight

theorem Balanced.exists_runs {script : Script} (balanced : Balanced script)
    (stays : "return;" ∉ script.code.texts) (unforced : "if (1) \x7b" ∉ script.code.texts) :
    ∃ path, script.code.Runs path .falls := by
  have run := (Code.exists_runs stays unforced).1
  rwa [balanced.first_code] at run

end Script

end ReplayGen
