import ReplayGen.Proofs.Replay.Lines
import ReplayGen.Replay.GL

set_option autoImplicit false

namespace ReplayGen.GL

section Lines

variable (function : Function)

def bufferCheckLines (buffer binding : String) : List Line :=
  [⟨2, "GLint " ++ buffer ++ " = 0;"⟩,
    ⟨2, "glGetIntegerv(" ++ binding ++ ", &" ++ buffer ++ ");"⟩,
    ⟨2, "if (!" ++ buffer ++ ") \x7b"⟩] ++
    function.giveUpLines 3 ++
    [⟨2, "\x7d"⟩]

def ReadsVertices (name : String) : Prop :=
  name ∈ Role.arrayPointer.functions ∨ name ∈ Role.drawArrays.functions

def ReadsElements (name : String) : Prop :=
  name ∈ Role.drawElements.functions

instance (name : String) : Decidable (ReadsVertices name) :=
  inferInstanceAs (Decidable (_ ∨ _))

instance (name : String) : Decidable (ReadsElements name) :=
  inferInstanceAs (Decidable (_ ∈ _))

omit function in
theorem not_mem_of_mem_drawElements {name : String} (elements : name ∈ Role.drawElements.functions) :
    name ∉ Role.arrayPointer.functions ∧ name ∉ Role.drawArrays.functions := by
  revert name
  simp [Role.functions]

def guardLines : List Line :=
  if ReadsVertices function.name ∨ ReadsElements function.name then
    [⟨1, "if (glretrace::parser.version < 1) \x7b"⟩] ++
      (if ReadsVertices function.name then
        bufferCheckLines function "__array_buffer" "GL_ARRAY_BUFFER_BINDING" else []) ++
      (if ReadsElements function.name then
        bufferCheckLines function "__element_array_buffer" "GL_ELEMENT_ARRAY_BUFFER_BINDING"
        else []) ++
      [⟨1, "\x7d"⟩]
  else []

def PassesBlob (argument : Argument) : Prop :=
  function.name ∈ Role.arrayPointer.functions ∧ argument.name = "pointer" ∨
    function.name ∈ Role.drawElements.functions ∧ argument.name = "indices"

instance (argument : Argument) : Decidable (PassesBlob function argument) :=
  inferInstanceAs (Decidable (_ ∨ _))

def LooksUpProgram (argument : Argument) (position : Nat) : Prop :=
  "glUniform".toList <+: function.name.toList ∧ position = 0 ∧ argument.name = "location"

instance (argument : Argument) (position : Nat) :
    Decidable (LooksUpProgram function argument position) :=
  inferInstanceAs (Decidable (_ ∧ _))

def blobLine (argument : Argument) (position : Nat) : Line :=
  ⟨1, argument.name ++ " = (call.arg(" ++ toString position ++ ")).blob();"⟩

def lookupLines : List Line :=
  [⟨1, "GLint program = -1;"⟩, ⟨1, "glGetIntegerv(GL_CURRENT_PROGRAM, &program);"⟩]

def passageLines (argument : Argument) (position : Nat) : List Line :=
  if PassesBlob function argument then [blobLine argument position]
  else (if LooksUpProgram function argument position then lookupLines else []) ++
    argument.decodingLines position

def sectionLines : List Line :=
  function.arguments.zipIdx.flatMap fun (argument, position) =>
    argument.declarationLine :: passageLines function argument position

def Undecodable : Prop :=
  ∃ argument ∈ function.arguments, argument.kind = .unknown ∧ ¬ PassesBlob function argument

instance : Decidable (Undecodable function) :=
  inferInstanceAs (Decidable (∃ _ ∈ _, _))

def giveUpIfUndecodable : List Line :=
  if Undecodable function then function.giveUpBlockLines else []

-- Each axis grows on its own; the drawable is resized once.
def growWindowLines : List Line :=
  [⟨1, "bool reshape_window = false;"⟩,
    ⟨1, "if (x + width > glretrace::window_width) \x7b"⟩,
    ⟨2, "glretrace::window_width = x + width;"⟩,
    ⟨2, "reshape_window = true;"⟩,
    ⟨1, "\x7d"⟩,
    ⟨1, "if (y + height > glretrace::window_height) \x7b"⟩,
    ⟨2, "glretrace::window_height = y + height;"⟩,
    ⟨2, "reshape_window = true;"⟩,
    ⟨1, "\x7d"⟩,
    ⟨1, "if (reshape_window) \x7b"⟩,
    ⟨2, "// XXX: does not always work"⟩,
    ⟨2, "glretrace::drawable->resize(glretrace::window_width, glretrace::window_height);"⟩,
    ⟨2, "reshape_window = false;"⟩,
    ⟨1, "\x7d"⟩]

def snapshotLines : List Line :=
  [⟨1, "GLint __new_fb = 0;"⟩,
    ⟨1, "glGetIntegerv(GL_FRAMEBUFFER_BINDING_EXT, &__new_fb);"⟩,
    ⟨1, "if (__new_fb != glretrace::fb) \x7b"⟩,
    ⟨2, "glretrace::snapshot(call.no);"⟩,
    ⟨2, "glretrace::fb = __new_fb;"⟩,
    ⟨1, "\x7d"⟩]

def CountsAsDraw (name : String) : Prop :=
  name ∈ Role.drawArrays.functions ∨ name ∈ Role.drawElements.functions ∨
    name ∈ Role.miscDraw.functions

instance (name : String) : Decidable (CountsAsDraw name) :=
  inferInstanceAs (Decidable (_ ∨ _))

def beforeCallLines : List Line :=
  (if function.name = "glViewport" then growWindowLines else []) ++
    (if function.name = "glEnd" then [⟨1, "glretrace::insideGlBeginEnd = false;"⟩] else [])

def afterCallLines : List Line :=
  (if function.name ∈ Role.bindFramebuffer.functions then snapshotLines else []) ++
    (if CountsAsDraw function.name then [⟨1, "glretrace::unsaved_draws++;"⟩] else []) ++
    (if function.name = "glBegin" then [⟨1, "glretrace::insideGlBeginEnd = true;"⟩]
      else [⟨1, "glretrace::checkGlError();"⟩])

def wrapperLines : List Line :=
  beforeCallLines function ++ function.callLines ++ afterCallLines function

def afterGuardLines : List Line :=
  if function.sideEffects then
    sectionLines function ++ giveUpIfUndecodable function ++ wrapperLines function
  else [⟨1, "(void)call;"⟩]

def unitLines : List Line :=
  function.headingLine :: (guardLines function ++ afterGuardLines function ++ Function.closingLines)

def unguardedLines : List Line :=
  function.headingLine :: (afterGuardLines function ++ Function.closingLines)

end Lines

end ReplayGen.GL
