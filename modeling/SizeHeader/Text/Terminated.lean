/-!
Texts that end at their first NUL, whatever comes behind it. Triples and layout strings are read so.
-/

namespace SizeHeader.Text

def beforeNul (s : String) : List Char := s.toList.takeWhile (· ≠ '\x00')

end SizeHeader.Text
