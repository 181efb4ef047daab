import FileSearch.Text.Ranges

set_option autoImplicit false

namespace FileSearch.Text

-- The 25 code points with the property White_Space.
def blankRanges : List CodeRange :=
  [⟨0x9, 0xd⟩, ⟨0x20, 0x20⟩, ⟨0x85, 0x85⟩, ⟨0xa0, 0xa0⟩, ⟨0x1680, 0x1680⟩, ⟨0x2000, 0x200a⟩,
   ⟨0x2028, 0x2029⟩, ⟨0x202f, 0x202f⟩, ⟨0x205f, 0x205f⟩, ⟨0x3000, 0x3000⟩]

def isBlank (c : Char) : Bool :=
  covers c.toNat blankRanges

def trimLeft (text : List Char) : List Char :=
  text.dropWhile isBlank

def trimRight (text : List Char) : List Char :=
  (trimLeft text.reverse).reverse

def trim (text : List Char) : List Char :=
  trimRight (trimLeft text)

def trimmed (text : String) : String :=
  String.ofList (trim text.toList)

end FileSearch.Text
