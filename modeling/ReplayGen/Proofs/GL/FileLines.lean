import ReplayGen.Proofs.GL.Composition

set_option autoImplicit false

namespace ReplayGen.GL

open Text

def headerLines : List Line :=
  [⟨0, ""⟩, ⟨0, "#include \"glproc.hpp\""⟩, ⟨0, "#include \"glretrace.hpp\""⟩, ⟨0, ""⟩, ⟨0, ""⟩,
    ⟨0, ""⟩]

theorem fileHeader_eq : fileHeader = unlines (headerLines.map Line.render) := by
  decide +kernel

def fileLines (functions : List Function) : List Line :=
  headerLines ++ (functions.flatMap fun function => Script.layout 0 (plan.unit function)) ++
    tableLines (functions.map Function.name)

section File

variable {functions : List Function}

theorem fileLines_eq (functions : List Function) :
    fileLines functions = headerLines ++ Script.layout 0 (plan.file functions) := by
  rw [Plan.layout_file fun function _ => balanced_plan function, fileLines, List.append_assoc]

theorem unbroken_file (worded : ∀ function ∈ functions, function.Worded) :
    Script.Unbroken (plan.file functions) :=
  Plan.unbroken_file (fun function member => unbroken_plan (worded function member).unbroken)
    fun function member => (worded function member).unbroken

theorem generate_eq_unlines (worded : ∀ function ∈ functions, function.Worded) :
    (generate functions).text = unlines ((fileLines functions).map Line.render) := by
  rw [generate_eq, fileLines_eq, List.map_append, unlines_append, ← fileHeader_eq,
    Script.written_eq_unlines (unbroken_file worded)]

theorem lines_generate (worded : ∀ function ∈ functions, function.Worded) :
    lines (generate functions).text = (fileLines functions).map Line.render := by
  have header : ∀ line ∈ headerLines.map Line.render, '\n' ∉ line.toList := by decide +kernel
  rw [generate_eq, fileLines_eq, List.map_append, fileHeader_eq, lines_unlines_append header,
    Script.lines_written (unbroken_file worded)]

end File

end ReplayGen.GL
