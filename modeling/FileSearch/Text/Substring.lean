set_option autoImplicit false

namespace FileSearch.Text

def hasSlice (needle : List Char) : List Char → Bool
  | [] => needle.isEmpty
  | text@(_ :: rest) => needle.isPrefixOf text || hasSlice needle rest

def contains (text needle : String) : Bool :=
  hasSlice needle.toList text.toList

def endsWith (text ending : String) : Bool :=
  ending.toList.isSuffixOf text.toList

end FileSearch.Text
