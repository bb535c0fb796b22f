import ReplayGen.Replay.Hooks

set_option autoImplicit false

/-!
# Replaying GL

What GL needs beyond plain replay:

* recordings of format version 0 may hold pointers into the memory of the recorded
  process, which are of use only as offsets into a buffer that is bound;
* the window grows to fit every viewport;
* a change of framebuffer takes a snapshot, and draws are counted;
* `glGetError` is checked after every call but those between `glBegin` and `glEnd`,
  where it would itself be an error;
* vertex and index pointers are passed as recorded blobs, and calls that set a uniform
  look up the current program.
-/

namespace ReplayGen.GL

def viewport : String := "glViewport"

def beginPrimitive : String := "glBegin"

def endPrimitive : String := "glEnd"

def uniformPrefix : String := "glUniform"

def fileHeader : String := "\n#include \"glproc.hpp\"\n#include \"glretrace.hpp\"\n\n\n\n"

def requireBuffer (function : Function) (buffer binding : String) : Script :=
  [.line ("GLint " ++ buffer ++ " = 0;"),
    .line ("glGetIntegerv(" ++ binding ++ ", &" ++ buffer ++ ");"),
    .begins ("if (!" ++ buffer ++ ")")] ++
    function.giveUp ++
    [.ends]

def requireArrayBuffer (function : Function) : Script :=
  requireBuffer function "__array_buffer" "GL_ARRAY_BUFFER_BINDING"

def requireElementBuffer (function : Function) : Script :=
  requireBuffer function "__element_array_buffer" "GL_ELEMENT_ARRAY_BUFFER_BINDING"

/-- In old recordings, a call that reads client-side arrays needs them in buffers. -/
def prologue (function : Function) : Script :=
  let vertices := function.roles.readsVertexArrays
  let elements := function.roles.readsElementArray
  if vertices || elements then
    [.begins "if (glretrace::parser.version < 1)"] ++
      (if vertices then requireArrayBuffer function else []) ++
      (if elements then requireElementBuffer function else []) ++
      [.ends]
  else []

def growWindow : Script :=
  [.line "bool reshape_window = false;",
    .begins "if (x + width > glretrace::window_width)",
    .line "glretrace::window_width = x + width;",
    .line "reshape_window = true;",
    .ends,
    .begins "if (y + height > glretrace::window_height)",
    .line "glretrace::window_height = y + height;",
    .line "reshape_window = true;",
    .ends,
    .begins "if (reshape_window)",
    .line "// XXX: does not always work",
    .line "glretrace::drawable->resize(glretrace::window_width, glretrace::window_height);",
    .line "reshape_window = false;",
    .ends]

def snapshotOnChange : Script :=
  [.line "GLint __new_fb = 0;",
    .line "glGetIntegerv(GL_FRAMEBUFFER_BINDING_EXT, &__new_fb);",
    .begins "if (__new_fb != glretrace::fb)",
    .line "glretrace::snapshot(call.no);",
    .line "glretrace::fb = __new_fb;",
    .ends]

-- The call with the bookkeeping around it. Errors can be checked again from the end of
-- a primitive on, so the flag is cleared before the call that ends it.
def call (function : Function) : Script :=
  (if function.name = viewport then growWindow else []) ++
    (if function.name = endPrimitive then
      [.line "glretrace::insideGlBeginEnd = false;"] else []) ++
    function.callStatement ++
    (if function.roles.has .bindFramebuffer then snapshotOnChange else []) ++
    (if function.roles.countsAsDraw then [.line "glretrace::unsaved_draws++;"] else []) ++
    [if function.name = beginPrimitive then .line "glretrace::insideGlBeginEnd = true;"
      else .line "glretrace::checkGlError();"]

def isBlob (function : Function) (argument : Argument) : Bool :=
  (function.roles.has .arrayPointer && argument.name == "pointer") ||
    (function.roles.has .drawElements && argument.name == "indices")

def isUniformLocation (function : Function) (argument : Argument) : Bool :=
  uniformPrefix.toList.isPrefixOf function.name.toList &&
    argument.index == 0 && argument.name == "location"

def lookUpProgram (function : Function) : Script :=
  [.note (.lookingUpProgram function.name),
    .line "GLint program = -1;",
    .line "glGetIntegerv(GL_CURRENT_PROGRAM, &program);"]

def extract (function : Function) (argument : Argument) (lvalue rvalue : String) : Decoding :=
  if isBlob function argument then
    .supported [.note (.passingBlob function.name argument.name),
      readStatement "blob" lvalue rvalue]
  else
    let plain := argument.decoding lvalue rvalue
    if isUniformLocation function argument then
      { plain with script := lookUpProgram function ++ plain.script }
    else plain

def plan : Plan := { prologue, call, extract }

def file (functions : List Function) : Emit Unit := do
  Emit.step (.raw fileHeader)
  plan.hooks.functions functions

def generate (functions : List Function) : Draft :=
  (file functions).draft {}

end ReplayGen.GL
