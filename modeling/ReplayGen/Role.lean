set_option autoImplicit false

namespace ReplayGen

inductive Role where
  | arrayPointer
  | drawArrays
  | drawElements
  | bindFramebuffer
  -- Touches the framebuffer without being a draw call proper.
  | miscDraw
  deriving DecidableEq, Repr

namespace Role

def all : List Role := [arrayPointer, drawArrays, drawElements, bindFramebuffer, miscDraw]

theorem mem_all (role : Role) : role ∈ all := by
  cases role <;> decide

def position : Role → Nat
  | arrayPointer => 0
  | drawArrays => 1
  | drawElements => 2
  | bindFramebuffer => 3
  | miscDraw => 4

theorem position_injective {a b : Role} (same : a.position = b.position) : a = b := by
  cases a <;> cases b <;> simp_all [position]

def name : Role → String
  | arrayPointer => "ARRAY_POINTER"
  | drawArrays => "DRAW_ARRAYS"
  | drawElements => "DRAW_ELEMENTS"
  | bindFramebuffer => "BIND_FRAMEBUFFER"
  | miscDraw => "MISC_DRAW"

def functions : Role → List String
  | arrayPointer =>
      -- The EXT variants also take a pointer, but recordings do not contain them.
      ["glVertexPointer", "glNormalPointer", "glColorPointer", "glIndexPointer",
        "glTexCoordPointer", "glEdgeFlagPointer", "glFogCoordPointer",
        "glSecondaryColorPointer", "glInterleavedArrays", "glVertexAttribPointer",
        "glVertexAttribPointerARB", "glVertexAttribPointerNV", "glVertexAttribLPointer",
        "glVertexAttribLPointerEXT"]
  | drawArrays =>
      ["glDrawArrays", "glDrawArraysEXT", "glDrawArraysIndirect", "glDrawArraysInstanced",
        "glDrawArraysInstancedARB", "glDrawArraysInstancedEXT", "glDrawMeshArraysSUN",
        "glMultiDrawArrays", "glMultiDrawArraysEXT", "glMultiModeDrawArraysIBM"]
  | drawElements =>
      -- The glMultiDrawElements family takes an array of index pointers, not a single one.
      ["glDrawElements", "glDrawElementsBaseVertex", "glDrawElementsIndirect",
        "glDrawElementsInstanced", "glDrawElementsInstancedARB",
        "glDrawElementsInstancedBaseVertex", "glDrawElementsInstancedEXT",
        "glDrawRangeElements", "glDrawRangeElementsBaseVertex", "glDrawRangeElementsEXT"]
  | bindFramebuffer =>
      ["glBindFramebuffer", "glBindFramebufferARB", "glBindFramebufferEXT"]
  | miscDraw => ["glClear", "glEnd"]

end Role

/-- A set of roles, one bit each. Bits that belong to no role are kept. -/
structure Roles where
  bits : BitVec 8
  deriving DecidableEq, Repr

namespace Roles

def empty : Roles := ⟨0⟩

def has (roles : Roles) (role : Role) : Bool :=
  roles.bits.getLsbD role.position

def insert (roles : Roles) (role : Role) : Roles :=
  ⟨roles.bits ||| BitVec.twoPow 8 role.position⟩

def ofList (list : List Role) : Roles :=
  list.foldl insert empty

def toList (roles : Roles) : List Role :=
  Role.all.filter roles.has

@[simp] theorem has_empty (role : Role) : empty.has role = false := by
  simp [empty, has]

theorem has_insert (roles : Roles) (added role : Role) :
    (roles.insert added).has role = (roles.has role || decide (role = added)) := by
  have small : added.position < 8 := by cases added <;> decide
  have same : added.position = role.position ↔ role = added :=
    ⟨fun h => (Role.position_injective h).symm, fun h => h ▸ rfl⟩
  simp [insert, has, BitVec.getLsbD_or, BitVec.getLsbD_twoPow, small, same]

theorem has_foldl_insert (list : List Role) (roles : Roles) (role : Role) :
    (list.foldl insert roles).has role = (roles.has role || decide (role ∈ list)) := by
  induction list generalizing roles with
  | nil => simp
  | cons added rest ih => simp [ih, has_insert, Bool.or_assoc]

@[simp] theorem has_ofList (list : List Role) (role : Role) :
    (ofList list).has role = decide (role ∈ list) := by
  simp [ofList, has_foldl_insert]

def classify (name : String) : Roles :=
  ofList (Role.all.filter (name ∈ ·.functions))

@[simp] theorem has_classify (name : String) (role : Role) :
    (classify name).has role = decide (name ∈ role.functions) := by
  simp [classify, Role.mem_all]

def countsAsDraw (roles : Roles) : Bool :=
  roles.has .drawArrays || roles.has .drawElements || roles.has .miscDraw

def readsVertexArrays (roles : Roles) : Bool :=
  roles.has .arrayPointer || roles.has .drawArrays

def readsElementArray (roles : Roles) : Bool :=
  roles.has .drawElements

def known (roles : Roles) : Roles :=
  ⟨roles.bits &&& (ofList Role.all).bits⟩

def unknownBits (roles : Roles) : BitVec 8 :=
  roles.bits &&& ~~~(ofList Role.all).bits

def hex (bits : BitVec 8) : String :=
  "0x" ++ String.ofList (Nat.toDigits 16 bits.toNat)

def describe (roles : Roles) : String :=
  let names := roles.toList.map Role.name
  let parts := if roles.unknownBits = 0 then names else names ++ [hex roles.unknownBits]
  "Roles(" ++ (if parts.isEmpty then "0x0" else " | ".intercalate parts) ++ ")"

end Roles

end ReplayGen
