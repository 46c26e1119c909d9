/-!
# Shortened text
-/

namespace Packrat

namespace Text

/-- `s` in at most `limit` characters. Text that is longer is cut, and an
ellipsis takes the place of its last character. -/
def truncate (s : String) (limit : Nat) : String :=
  if s.toList.length ≤ limit then s
  else String.ofList (s.toList.take (limit - 1) ++ ['…'])

end Text

end Packrat
