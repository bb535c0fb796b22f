import ReplayGen.Proofs.Emission.Lines

set_option autoImplicit false

namespace ReplayGen

/-- Statements in order, and blocks. The body of a block may turn to another branch. -/
inductive Code where
  | done
  | statement (text : String) (rest : Code)
  | block (head : String) (body : Code) (tail : String) (rest : Code)
  | turn (text : String) (branch : Code)
  deriving DecidableEq, Repr

namespace Code

def append : Code → Code → Code
  | done, last => last
  | statement text rest, last => statement text (rest.append last)
  | block head body tail rest, last => block head body tail (rest.append last)
  | turn text branch, last => turn text (branch.append last)

@[simp] theorem done_append (last : Code) : done.append last = last := rfl

@[simp] theorem statement_append (text : String) (rest last : Code) :
    (statement text rest).append last = statement text (rest.append last) := rfl

@[simp] theorem block_append (head tail : String) (body rest last : Code) :
    (block head body tail rest).append last = block head body tail (rest.append last) := rfl

@[simp] theorem turn_append (text : String) (branch last : Code) :
    (turn text branch).append last = turn text (branch.append last) := rfl

@[simp] theorem append_done (code : Code) : code.append done = code := by
  induction code with
  | done => rfl
  | statement text rest ih => simp [ih]
  | block head body tail rest _ ih => simp [ih]
  | turn text branch ih => simp [ih]

-- A line that turns to another branch stands as deep as the block's head.
def lines : Nat → Code → List Line
  | _, done => []
  | depth, statement text rest => ⟨depth, text⟩ :: rest.lines depth
  | depth, block head body tail rest =>
      ⟨depth, head⟩ :: (body.lines (depth + 1) ++ ⟨depth, tail⟩ :: rest.lines depth)
  | depth, turn text branch => ⟨depth - 1, text⟩ :: branch.lines depth

theorem lines_append (first second : Code) (depth : Nat) :
    (first.append second).lines depth = first.lines depth ++ second.lines depth := by
  induction first generalizing depth with
  | done => rfl
  | statement text rest ih => simp [lines, ih]
  | block head body tail rest _ ih => simp [lines, ih]
  | turn text branch ih => simp [lines, ih]

end Code

/-- What a script reads as: code to its end, or code that then leaves a block. -/
inductive Reading where
  | ended (code : Code)
  | left (code : Code) (tail : String) (beyond : Reading)

namespace Reading

def code : Reading → Code
  | ended code | left code _ _ => code

def map (change : Code → Code) : Reading → Reading
  | ended code => ended (change code)
  | left code tail beyond => left (change code) tail beyond

def leaves : Reading → Nat
  | ended _ => 0
  | left _ _ beyond => beyond.leaves + 1

def append : Reading → Reading → Reading
  | ended code, last => last.map code.append
  | left code tail beyond, last => left code tail (beyond.append last)

def lines : Nat → Reading → List Line
  | depth, ended code => code.lines depth
  | depth, left code tail beyond =>
      code.lines depth ++ ⟨depth - 1, tail⟩ :: beyond.lines (depth - 1)

@[simp] theorem code_map (change : Code → Code) (reading : Reading) :
    (reading.map change).code = change reading.code := by
  cases reading <;> rfl

@[simp] theorem leaves_map (change : Code → Code) (reading : Reading) :
    (reading.map change).leaves = reading.leaves := by
  cases reading <;> rfl

theorem map_append {change : Code → Code}
    (front : ∀ code last, change (code.append last) = (change code).append last)
    (reading last : Reading) : (reading.map change).append last = (reading.append last).map change := by
  cases reading with
  | left code tail beyond => rfl
  | ended code => cases last <;> simp [map, append, front]

theorem lines_map {change : Code → Code} {depth : Nat} (added : List Line)
    (adds : ∀ code, (change code).lines depth = added ++ code.lines depth) (reading : Reading) :
    (reading.map change).lines depth = added ++ reading.lines depth := by
  cases reading <;> simp [map, lines, adds]

end Reading

-- A block that is not closed is read as no block.
def Step.read : Step → Reading → Reading
  | .line text, next => next.map (.statement text)
  | .blank, next => next.map (.statement "")
  | .raw _, next | .note _, next => next
  | .openBlock text, .left body tail beyond => beyond.map (.block text body tail)
  | .openBlock text, .ended code => .ended (.statement text code)
  | .closeBlock text, next => .left .done text next
  | .reopenBlock text, next => next.map (.turn text)

namespace Script

def read (script : Script) : Reading :=
  script.foldr Step.read (.ended .done)

def code (script : Script) : Code :=
  script.read.code

@[simp] theorem read_nil : read [] = .ended .done := rfl

theorem read_cons (step : Step) (rest : Script) : read (step :: rest) = step.read rest.read := rfl

theorem leaves_read {script : Script} {depth : Nat} (closed : depthAfter? depth script = some 0) :
    script.read.leaves = depth := by
  induction script generalizing depth with
  | nil => simpa [Reading.leaves] using closed.symm
  | cons step rest ih =>
      obtain ⟨next, stepped, closed⟩ := Option.bind_eq_some_iff.mp closed
      have later := ih closed
      rw [read_cons]
      cases step with
      | line | blank | raw | note =>
          obtain rfl := Option.some.inj stepped
          simpa [Step.read] using later
      | openBlock text =>
          obtain rfl := Option.some.inj stepped
          cases reading : read rest with
          | ended code => simp [reading, Reading.leaves] at later
          | left body tail beyond => simpa [Step.read, reading, Reading.leaves] using later
      | closeBlock | reopenBlock =>
          cases depth with
          | zero => simp [Step.depthAfter?] at stepped
          | succ depth =>
              obtain rfl := Option.some.inj stepped
              simpa [Step.read, Reading.leaves] using later

theorem Balanced.read_eq {script : Script} (balanced : Balanced script) :
    script.read = .ended script.code := by
  have none := leaves_read (balanced 0)
  cases reading : script.read with
  | ended whole => simp [code, reading, Reading.code]
  | left inner tail beyond => simp [reading, Reading.leaves] at none

theorem read_append {first : Script} {depth : Nat} (closed : depthAfter? depth first = some 0)
    (second : Script) : read (first ++ second) = first.read.append second.read := by
  induction first generalizing depth with
  | nil => cases reading : second.read <;> simp [Reading.append, Reading.map, reading]
  | cons step rest ih =>
      obtain ⟨next, stepped, closed⟩ := Option.bind_eq_some_iff.mp closed
      have later := ih closed
      rw [List.cons_append, read_cons, read_cons, later]
      cases step with
      | line | blank | reopenBlock => exact (Reading.map_append (fun _ _ => rfl) _ _).symm
      | raw | note | closeBlock => rfl
      | openBlock text =>
          obtain rfl := Option.some.inj stepped
          -- The block that is opened here is closed in `rest` already.
          have left := leaves_read closed
          cases reading : read rest with
          | ended code => simp [reading, Reading.leaves] at left
          | left body tail beyond => exact (Reading.map_append (fun _ _ => rfl) _ _).symm

theorem Balanced.code_append {first : Script} (balanced : Balanced first) (second : Script) :
    code (first ++ second) = first.code.append second.code := by
  rw [code, read_append (balanced 0), balanced.read_eq, Reading.append, Reading.code_map, code, code]

theorem Balanced.code_block {body : Script} (balanced : Balanced body) (head tail : String) :
    code (.openBlock head :: (body ++ [.closeBlock tail])) = .block head body.code tail .done := by
  have inside : read (body ++ [.closeBlock tail]) = .left body.code tail (.ended .done) := by
    rw [read_append (balanced 0), balanced.read_eq]
    simp [read_cons, Step.read, Reading.append, Reading.map]
  rw [code, read_cons, inside]
  rfl

theorem layout_eq_lines {script : Script} {depth : Nat} (closed : depthAfter? depth script = some 0)
    (outer : Nat) : layout (depth + outer) script = script.read.lines (depth + outer) := by
  induction script generalizing depth with
  | nil => rfl
  | cons step rest ih =>
      obtain ⟨next, stepped, closed⟩ := Option.bind_eq_some_iff.mp closed
      have later := ih closed
      rw [layout_cons, read_cons]
      cases step with
      | raw | note =>
          obtain rfl := Option.some.inj stepped
          exact later
      | line text =>
          obtain rfl := Option.some.inj stepped
          rw [Step.read, Reading.lines_map [⟨_, text⟩] fun _ => rfl, ← later]
          rfl
      | blank =>
          obtain rfl := Option.some.inj stepped
          rw [Step.read, Reading.lines_map [⟨_, ""⟩] fun _ => rfl, ← later]
          rfl
      | openBlock text =>
          obtain rfl := Option.some.inj stepped
          have left := leaves_read closed
          cases reading : read rest with
          | ended code => simp [reading, Reading.leaves] at left
          | left body tail beyond =>
              have adds (code : Code) : (Code.block text body tail code).lines (depth + outer) =
                  (⟨depth + outer, text⟩ :: (body.lines (depth + outer + 1) ++
                    [⟨depth + outer, tail⟩])) ++ code.lines (depth + outer) := by
                simp [Code.lines]
              rw [Nat.add_right_comm, reading] at later
              rw [Step.read, Reading.lines_map _ adds]
              simp [Step.layout, Step.depthAfter?, later, Reading.lines]
      | closeBlock text =>
          cases depth with
          | zero => simp [Step.depthAfter?] at stepped
          | succ depth =>
              obtain rfl := Option.some.inj stepped
              rw [Nat.add_right_comm]
              simp [Step.layout, Step.depthAfter?, Step.read, later, Reading.lines, Code.lines]
      | reopenBlock text =>
          cases depth with
          | zero => simp [Step.depthAfter?] at stepped
          | succ depth =>
              obtain rfl := Option.some.inj stepped
              rw [Nat.add_right_comm] at later ⊢
              rw [Step.read, Reading.lines_map [⟨depth + outer, text⟩] fun _ => rfl, ← later]
              rfl

theorem Balanced.layout_eq_lines {script : Script} (balanced : Balanced script) (depth : Nat) :
    layout depth script = script.code.lines depth := by
  have shown := Script.layout_eq_lines (balanced 0) depth
  rwa [Nat.zero_add, balanced.read_eq] at shown

end Script

end ReplayGen
