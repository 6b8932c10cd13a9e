import ModelIdl.Text.CodePoints

/-!
# ModelIdl.Text.Blank

The Unicode property `White_Space`. Blank characters separate tokens, and words inside a name.
-/

namespace ModelIdl.Text

/-- The code points with the property `White_Space`. -/
def blankRanges : List CodeRange :=
  [⟨0x9, 0xD, 1⟩, ⟨0x20, 0x20, 1⟩, ⟨0x85, 0x85, 1⟩, ⟨0xA0, 0xA0, 1⟩,
   ⟨0x1680, 0x1680, 1⟩, ⟨0x2000, 0x200A, 1⟩, ⟨0x2028, 0x2029, 1⟩, ⟨0x202F, 0x202F, 1⟩,
   ⟨0x205F, 0x205F, 1⟩, ⟨0x3000, 0x3000, 1⟩]

/-- Is the character blank? -/
def isBlank (c : Char) : Bool :=
  covers blankRanges c.toNat

end ModelIdl.Text
