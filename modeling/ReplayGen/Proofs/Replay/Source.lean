import ReplayGen.Proofs.Emission.Source
import ReplayGen.Proofs.Replay.Lines

set_option autoImplicit false

namespace ReplayGen

def Expression.recorded (position : Nat) : Expression :=
  .applied (.field (.identifier "call") "arg") [.number position]

def Expression.read (method : String) (value : Expression) : Expression :=
  .applied (.field (.grouped value) method) []

namespace Argument

variable (argument : Argument)

def declarationSource : Source :=
  .simple (.declaration argument.localType argument.name) .done

def copySource (element : Scalar) (position : Nat) : Source :=
  let target := Expression.identifier argument.name
  let array := Expression.identifier argument.arrayLocal
  let index := Expression.identifier argument.indexLocal
  let length := Expression.applied (.field (.arrow array "values") "size") []
  .simple (.pointer "const Trace::Array" argument.arrayLocal
      (.narrowed "const Trace::Array *" (.unary .address (.recorded position)))) <|
    .choice array
      (.simple (.assignment target (.created argument.elementType length)) <|
        .loop argument.indexLocal length
          (.simple (.assignment (.element target index)
            (.read element.reader (.unary .pointee (.element (.arrow array "values") index))))
            .done)
          .done)
      (.simple (.assignment target .null) .done)
      .done

def decodingSource (position : Nat) : Source :=
  let target := Expression.identifier argument.name
  let value := Expression.recorded position
  match argument.kind with
  | .scalar kind => .simple (.assignment target (.read kind.reader value)) .done
  | .text => .simple (.assignment target (.read "toString" value)) .done
  | .address =>
      .simple (.assignment target (.cast argument.type (.read "toPointer" value))) .done
  | .array element => argument.copySource element position
  | .unknown => .simple (.placeholder target) .done

theorem lines_declarationSource :
    argument.declarationSource.lines 1 = [argument.declarationLine] := by
  simp [declarationSource, declarationLine]

theorem lines_decodingSource (position : Nat) :
    (argument.decodingSource position).lines 1 = argument.decodingLines position := by
  unfold decodingSource decodingLines
  cases argument.kind <;>
    simp [copySource, Expression.recorded, Expression.read, arrayLocal, indexLocal,
      ← String.toList_inj]

def temporaries : List String :=
  match argument.kind with
  | .array _ => [argument.arrayLocal]
  | _ => []

theorem declared_decodingSource (position : Nat) :
    (argument.decodingSource position).declared = argument.temporaries := by
  unfold decodingSource temporaries
  cases argument.kind <;> rfl

theorem declaresOnceInside_decodingSource (position : Nat) :
    (argument.decodingSource position).DeclaresOnceInside := by
  unfold decodingSource
  cases argument.kind <;> simp [copySource, Source.DeclaresOnceInside]

theorem undeclared_decodingSource (position : Nat) {visible : List String}
    (call : "call" ∈ visible) (own : argument.name ∈ visible) :
    (argument.decodingSource position).undeclared visible = [] := by
  unfold decodingSource
  cases argument.kind <;>
    simp [copySource, Expression.recorded, Expression.read, call, own]

end Argument

namespace Function

variable (function : Function)

def giveUpSource : Source :=
  let warning := Expression.message ("warning: unsupported call " ++ function.name)
  .simple (.evaluation (.binary .shift (.qualified "std" "cerr") warning)) <|
    .simple .leave .done

def callSource : Source :=
  let call := Expression.called function.name (function.argumentNames.map .identifier)
  match function.returnType with
  | none => .simple (.evaluation call) .done
  | some type =>
      .simple (.declaration type "__result") <|
        .simple (.assignment (.identifier "__result") call) <|
        .simple (.evaluation (.cast "void" (.identifier "__result"))) .done

theorem lines_giveUpSource (depth : Nat) :
    function.giveUpSource.lines depth = function.giveUpLines depth := by
  simp [giveUpSource, giveUpLines, ← String.toList_inj]

theorem lines_callSource : function.callSource.lines 1 = function.callLines := by
  have passed : function.callText =
      function.name ++ "(" ++ ", ".intercalate function.argumentNames ++ ");" := rfl
  unfold callSource callLines
  cases function.returnType <;> simp [passed, ← String.toList_inj]

theorem declared_callSource :
    function.callSource.declared = if function.returnType.isSome then ["__result"] else [] := by
  unfold callSource
  cases function.returnType <;> rfl

theorem declaresOnceInside_callSource : function.callSource.DeclaresOnceInside := by
  unfold callSource
  cases function.returnType <;> simp [Source.DeclaresOnceInside]

theorem undeclared_callSource {visible : List String} (passed : function.argumentNames ⊆ visible) :
    function.callSource.undeclared visible = [] := by
  have known : ∀ name ∈ function.argumentNames, name ∈ visible := fun _ listed => passed listed
  unfold callSource
  cases function.returnType with
  | none => simpa using known
  | some type => simpa using fun name listed hidden => absurd (known name listed) hidden

end Function

end ReplayGen
