import ReplayGen.Catalog.Schema

set_option autoImplicit false

namespace ReplayGen.Catalog.Builtin

def entry (name : String) (arguments : List ArgumentEntry := []) : FunctionEntry :=
  { name, arguments }

def arg (name type : String) : ArgumentEntry :=
  { name, type }

def array (name type : String) : ArgumentEntry :=
  { name, type, array := true }

def returning (type : String) (entry : FunctionEntry) : FunctionEntry :=
  { entry with returnType := some type }

-- A function that only asks for something, so that there is nothing to replay.
def query (entry : FunctionEntry) : FunctionEntry :=
  { entry with sideEffects := false }

-- Written out by hand from the text of the catalog, in its order.
def entries : List FunctionEntry :=
  [entry "glBegin" [arg "mode" "GLenum"],
    entry "glEnd",
    entry "glVertex2f" [arg "x" "GLfloat", arg "y" "GLfloat"],
    entry "glVertex3f" [arg "x" "GLfloat", arg "y" "GLfloat", arg "z" "GLfloat"],
    entry "glColor4f"
      [arg "red" "GLfloat", arg "green" "GLfloat", arg "blue" "GLfloat",
        arg "alpha" "GLfloat"],
    entry "glTexCoord2f" [arg "s" "GLfloat", arg "t" "GLfloat"],
    entry "glNormal3f" [arg "nx" "GLfloat", arg "ny" "GLfloat", arg "nz" "GLfloat"],
    entry "glMatrixMode" [arg "mode" "GLenum"],
    entry "glLoadIdentity",
    entry "glLoadMatrixf" [array "m" "const GLfloat *"],
    entry "glOrtho"
      [arg "left" "GLdouble", arg "right" "GLdouble", arg "bottom" "GLdouble",
        arg "top" "GLdouble", arg "zNear" "GLdouble", arg "zFar" "GLdouble"],
    entry "glPushMatrix",
    entry "glPopMatrix",
    entry "glViewport"
      [arg "x" "GLint", arg "y" "GLint", arg "width" "GLsizei", arg "height" "GLsizei"],
    entry "glScissor"
      [arg "x" "GLint", arg "y" "GLint", arg "width" "GLsizei", arg "height" "GLsizei"],
    entry "glClearColor"
      [arg "red" "GLclampf", arg "green" "GLclampf", arg "blue" "GLclampf",
        arg "alpha" "GLclampf"],
    entry "glClearDepth" [arg "depth" "GLclampd"],
    entry "glClear" [arg "mask" "GLbitfield"],
    entry "glEnable" [arg "cap" "GLenum"],
    entry "glDisable" [arg "cap" "GLenum"],
    query <| returning "GLboolean" <| entry "glIsEnabled" [arg "cap" "GLenum"],
    entry "glDepthFunc" [arg "func" "GLenum"],
    entry "glDepthMask" [arg "flag" "GLboolean"],
    entry "glBlendFunc" [arg "sfactor" "GLenum", arg "dfactor" "GLenum"],
    entry "glFlush",
    entry "glFinish",
    query <| returning "GLenum" <| entry "glGetError",
    query <| entry "glGetIntegerv" [arg "pname" "GLenum", arg "params" "GLint *"],
    entry "glEnableClientState" [arg "array" "GLenum"],
    entry "glDisableClientState" [arg "array" "GLenum"],
    entry "glVertexPointer"
      [arg "size" "GLint", arg "type" "GLenum", arg "stride" "GLsizei",
        arg "pointer" "const GLvoid *"],
    entry "glNormalPointer"
      [arg "type" "GLenum", arg "stride" "GLsizei", arg "pointer" "const GLvoid *"],
    entry "glColorPointer"
      [arg "size" "GLint", arg "type" "GLenum", arg "stride" "GLsizei",
        arg "pointer" "const GLvoid *"],
    entry "glIndexPointer"
      [arg "type" "GLenum", arg "stride" "GLsizei", arg "pointer" "const GLvoid *"],
    entry "glTexCoordPointer"
      [arg "size" "GLint", arg "type" "GLenum", arg "stride" "GLsizei",
        arg "pointer" "const GLvoid *"],
    entry "glEdgeFlagPointer" [arg "stride" "GLsizei", arg "pointer" "const GLvoid *"],
    entry "glFogCoordPointer"
      [arg "type" "GLenum", arg "stride" "GLsizei", arg "pointer" "const GLvoid *"],
    entry "glSecondaryColorPointer"
      [arg "size" "GLint", arg "type" "GLenum", arg "stride" "GLsizei",
        arg "pointer" "const GLvoid *"],
    entry "glInterleavedArrays"
      [arg "format" "GLenum", arg "stride" "GLsizei", arg "pointer" "const GLvoid *"],
    entry "glVertexAttribPointer"
      [arg "index" "GLuint", arg "size" "GLint", arg "type" "GLenum",
        arg "normalized" "GLboolean", arg "stride" "GLsizei",
        arg "pointer" "const GLvoid *"],
    entry "glVertexAttribPointerARB"
      [arg "index" "GLuint", arg "size" "GLint", arg "type" "GLenum",
        arg "normalized" "GLboolean", arg "stride" "GLsizei",
        arg "pointer" "const GLvoid *"],
    entry "glVertexAttribPointerNV"
      [arg "index" "GLuint", arg "fsize" "GLint", arg "type" "GLenum",
        arg "stride" "GLsizei", arg "pointer" "const GLvoid *"],
    entry "glVertexAttribLPointer"
      [arg "index" "GLuint", arg "size" "GLint", arg "type" "GLenum",
        arg "stride" "GLsizei", arg "pointer" "const GLvoid *"],
    entry "glVertexAttribLPointerEXT"
      [arg "index" "GLuint", arg "size" "GLint", arg "type" "GLenum",
        arg "stride" "GLsizei", arg "pointer" "const GLvoid *"],
    entry "glEnableVertexAttribArray" [arg "index" "GLuint"],
    entry "glDisableVertexAttribArray" [arg "index" "GLuint"],
    entry "glBindBuffer" [arg "target" "GLenum", arg "buffer" "GLuint"],
    entry "glBufferData"
      [arg "target" "GLenum", arg "size" "GLsizeiptr", arg "data" "const GLvoid *",
        arg "usage" "GLenum"],
    entry "glBufferSubData"
      [arg "target" "GLenum", arg "offset" "GLintptr", arg "size" "GLsizeiptr",
        arg "data" "const GLvoid *"],
    entry "glBindVertexArray" [arg "array" "GLuint"],
    entry "glDrawArrays"
      [arg "mode" "GLenum", arg "first" "GLint", arg "count" "GLsizei"],
    entry "glDrawArraysEXT"
      [arg "mode" "GLenum", arg "first" "GLint", arg "count" "GLsizei"],
    entry "glDrawArraysIndirect" [arg "mode" "GLenum", arg "indirect" "const GLvoid *"],
    entry "glDrawArraysInstanced"
      [arg "mode" "GLenum", arg "first" "GLint", arg "count" "GLsizei",
        arg "primcount" "GLsizei"],
    entry "glDrawArraysInstancedARB"
      [arg "mode" "GLenum", arg "first" "GLint", arg "count" "GLsizei",
        arg "primcount" "GLsizei"],
    entry "glDrawArraysInstancedEXT"
      [arg "mode" "GLenum", arg "first" "GLint", arg "count" "GLsizei",
        arg "primcount" "GLsizei"],
    entry "glDrawMeshArraysSUN"
      [arg "mode" "GLenum", arg "first" "GLint", arg "count" "GLsizei",
        arg "width" "GLsizei"],
    entry "glMultiDrawArrays"
      [arg "mode" "GLenum", array "first" "const GLint *",
        array "count" "const GLsizei *", arg "primcount" "GLsizei"],
    entry "glMultiDrawArraysEXT"
      [arg "mode" "GLenum", array "first" "const GLint *",
        array "count" "const GLsizei *", arg "primcount" "GLsizei"],
    entry "glMultiModeDrawArraysIBM"
      [array "mode" "const GLenum *", array "first" "const GLint *",
        array "count" "const GLsizei *", arg "primcount" "GLsizei",
        arg "modestride" "GLint"],
    entry "glDrawElements"
      [arg "mode" "GLenum", arg "count" "GLsizei", arg "type" "GLenum",
        arg "indices" "const GLvoid *"],
    entry "glDrawElementsBaseVertex"
      [arg "mode" "GLenum", arg "count" "GLsizei", arg "type" "GLenum",
        arg "indices" "const GLvoid *", arg "basevertex" "GLint"],
    entry "glDrawElementsIndirect"
      [arg "mode" "GLenum", arg "type" "GLenum", arg "indirect" "const GLvoid *"],
    entry "glDrawElementsInstanced"
      [arg "mode" "GLenum", arg "count" "GLsizei", arg "type" "GLenum",
        arg "indices" "const GLvoid *", arg "primcount" "GLsizei"],
    entry "glDrawElementsInstancedARB"
      [arg "mode" "GLenum", arg "count" "GLsizei", arg "type" "GLenum",
        arg "indices" "const GLvoid *", arg "primcount" "GLsizei"],
    entry "glDrawElementsInstancedBaseVertex"
      [arg "mode" "GLenum", arg "count" "GLsizei", arg "type" "GLenum",
        arg "indices" "const GLvoid *", arg "primcount" "GLsizei",
        arg "basevertex" "GLint"],
    entry "glDrawElementsInstancedEXT"
      [arg "mode" "GLenum", arg "count" "GLsizei", arg "type" "GLenum",
        arg "indices" "const GLvoid *", arg "primcount" "GLsizei"],
    entry "glDrawRangeElements"
      [arg "mode" "GLenum", arg "start" "GLuint", arg "end" "GLuint",
        arg "count" "GLsizei", arg "type" "GLenum", arg "indices" "const GLvoid *"],
    entry "glDrawRangeElementsBaseVertex"
      [arg "mode" "GLenum", arg "start" "GLuint", arg "end" "GLuint",
        arg "count" "GLsizei", arg "type" "GLenum", arg "indices" "const GLvoid *",
        arg "basevertex" "GLint"],
    entry "glDrawRangeElementsEXT"
      [arg "mode" "GLenum", arg "start" "GLuint", arg "end" "GLuint",
        arg "count" "GLsizei", arg "type" "GLenum", arg "indices" "const GLvoid *"],
    entry "glMultiDrawElements"
      [arg "mode" "GLenum", array "count" "const GLsizei *", arg "type" "GLenum",
        arg "indices" "const GLvoid * const *", arg "primcount" "GLsizei"],
    entry "glBindFramebuffer" [arg "target" "GLenum", arg "framebuffer" "GLuint"],
    entry "glBindFramebufferARB" [arg "target" "GLenum", arg "framebuffer" "GLuint"],
    entry "glBindFramebufferEXT" [arg "target" "GLenum", arg "framebuffer" "GLuint"],
    entry "glBindRenderbuffer" [arg "target" "GLenum", arg "renderbuffer" "GLuint"],
    entry "glFramebufferTexture2D"
      [arg "target" "GLenum", arg "attachment" "GLenum", arg "textarget" "GLenum",
        arg "texture" "GLuint", arg "level" "GLint"],
    query <| returning "GLenum" <| entry "glCheckFramebufferStatus"
      [arg "target" "GLenum"],
    entry "glActiveTexture" [arg "texture" "GLenum"],
    entry "glBindTexture" [arg "target" "GLenum", arg "texture" "GLuint"],
    entry "glTexParameteri"
      [arg "target" "GLenum", arg "pname" "GLenum", arg "param" "GLint"],
    entry "glTexParameterf"
      [arg "target" "GLenum", arg "pname" "GLenum", arg "param" "GLfloat"],
    entry "glTexImage2D"
      [arg "target" "GLenum", arg "level" "GLint", arg "internalformat" "GLint",
        arg "width" "GLsizei", arg "height" "GLsizei", arg "border" "GLint",
        arg "format" "GLenum", arg "type" "GLenum", arg "pixels" "const GLvoid *"],
    entry "glPixelStorei" [arg "pname" "GLenum", arg "param" "GLint"],
    returning "GLuint" <| entry "glCreateShader" [arg "type" "GLenum"],
    entry "glShaderSource"
      [arg "shader" "GLuint", arg "count" "GLsizei",
        arg "string" "const GLchar * const *", array "length" "const GLint *"],
    entry "glCompileShader" [arg "shader" "GLuint"],
    returning "GLuint" <| entry "glCreateProgram",
    entry "glAttachShader" [arg "program" "GLuint", arg "shader" "GLuint"],
    entry "glBindAttribLocation"
      [arg "program" "GLuint", arg "index" "GLuint", arg "name" "const GLchar *"],
    entry "glLinkProgram" [arg "program" "GLuint"],
    entry "glUseProgram" [arg "program" "GLuint"],
    query <| returning "GLint" <| entry "glGetUniformLocation"
      [arg "program" "GLuint", arg "name" "const GLchar *"],
    query <| returning "GLint" <| entry "glGetAttribLocationARB"
      [arg "programObj" "GLhandleARB", arg "name" "const GLcharARB *"],
    entry "glUseProgramObjectARB" [arg "programObj" "GLhandleARB"],
    entry "glUniform1i" [arg "location" "GLint", arg "v0" "GLint"],
    entry "glUniform1f" [arg "location" "GLint", arg "v0" "GLfloat"],
    entry "glUniform2f" [arg "location" "GLint", arg "v0" "GLfloat", arg "v1" "GLfloat"],
    entry "glUniform4f"
      [arg "location" "GLint", arg "v0" "GLfloat", arg "v1" "GLfloat", arg "v2" "GLfloat",
        arg "v3" "GLfloat"],
    entry "glUniform1iv"
      [arg "location" "GLint", arg "count" "GLsizei", array "value" "const GLint *"],
    entry "glUniform4fv"
      [arg "location" "GLint", arg "count" "GLsizei", array "value" "const GLfloat *"],
    entry "glUniformMatrix4fv"
      [arg "location" "GLint", arg "count" "GLsizei", arg "transpose" "GLboolean",
        array "value" "const GLfloat *"],
    entry "glUniform1iARB" [arg "location" "GLint", arg "v0" "GLint"],
    entry "glUniformBlockBinding"
      [arg "program" "GLuint", arg "uniformBlockIndex" "GLuint",
        arg "uniformBlockBinding" "GLuint"]]

end ReplayGen.Catalog.Builtin
