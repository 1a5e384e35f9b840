/-!
Looking for a text inside another.
-/

namespace FileQuery.Text

def occursIn (needle : List Char) : List Char → Bool
  | [] => needle.isEmpty
  | c :: rest => needle.isPrefixOf (c :: rest) || occursIn needle rest

end FileQuery.Text
