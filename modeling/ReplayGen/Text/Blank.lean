set_option autoImplicit false

namespace ReplayGen.Text

-- The code points with the property `White_Space`, as inclusive ranges in order.
def blankRanges : List (Nat × Nat) :=
  [(0x09, 0x0D), (0x20, 0x20), (0x85, 0x85), (0xA0, 0xA0), (0x1680, 0x1680),
    (0x2000, 0x200A), (0x2028, 0x2029), (0x202F, 0x202F), (0x205F, 0x205F), (0x3000, 0x3000)]

def isBlank (c : Char) : Bool :=
  blankRanges.any fun (low, high) => low ≤ c.toNat && c.toNat ≤ high

theorem isBlank_space : isBlank ' ' = true := by decide

def words : List Char → List (List Char)
  | [] => []
  | c :: cs =>
      if isBlank c then words cs
      else if cs.head?.all isBlank then [c] :: words cs
      else (words cs).modifyHead (c :: ·)

@[simp] theorem words_nil : words [] = [] := rfl

theorem words_blank {c : Char} (cs : List Char) (blank : isBlank c = true) :
    words (c :: cs) = words cs := by
  simp [words, blank]

def trimStart (cs : List Char) : List Char :=
  cs.dropWhile isBlank

def trimEnd (cs : List Char) : List Char :=
  (cs.reverse.dropWhile isBlank).reverse

def trim (cs : List Char) : List Char :=
  trimStart (trimEnd cs)

@[simp] theorem trimEnd_nil : trimEnd [] = [] := rfl

theorem trimEnd_append_of_not_blank (cs : List Char) {c : Char} (solid : isBlank c = false) :
    trimEnd (cs ++ [c]) = cs ++ [c] := by
  simp [trimEnd, solid]

theorem trimEnd_append_blank (cs : List Char) {c : Char} (blank : isBlank c = true) :
    trimEnd (cs ++ [c]) = trimEnd cs := by
  simp [trimEnd, blank]

end ReplayGen.Text
