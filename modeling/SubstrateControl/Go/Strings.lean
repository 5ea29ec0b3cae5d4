import Mathlib.Data.List.DropRight

/-!
# Go strings

The functions of package `strings` the backend uses, on texts of Unicode characters:
`trimSpace`, `trimPrefix`, `trimSuffix`, `hasPrefix`, `contains`, `toLower`, `cutBefore`; and
`isSpace` of package `unicode`.
-/

set_option autoImplicit false

namespace Go

/-- `unicode.IsSpace`. -/
def isSpace (c : Char) : Bool :=
  c ∈ ['\t', '\n', '\x0b', '\x0c', '\r', ' ', '\u0085', '\u00a0', '\u1680', '\u2000', '\u2001',
    '\u2002', '\u2003', '\u2004', '\u2005', '\u2006', '\u2007', '\u2008', '\u2009', '\u200a',
    '\u2028', '\u2029', '\u202f', '\u205f', '\u3000']

/-- `strings.TrimSpace`. -/
def trimSpace (s : String) : String :=
  String.ofList ((s.toList.dropWhile isSpace).rdropWhile isSpace)

/-- `strings.HasPrefix`. -/
def hasPrefix (s pre : String) : Bool := pre.toList.isPrefixOf s.toList

/-- `strings.TrimPrefix`. -/
def trimPrefix (s pre : String) : String :=
  if hasPrefix s pre then String.ofList (s.toList.drop pre.toList.length) else s

/-- `strings.TrimSuffix`. -/
def trimSuffix (s suf : String) : String :=
  if suf.toList.isSuffixOf s.toList then
    String.ofList (s.toList.take (s.toList.length - suf.toList.length))
  else s

/-- `strings.Contains`. -/
def contains (s sub : String) : Bool := s.toList.tails.any fun t => sub.toList.isPrefixOf t

/-- `unicode.ToLower` as far as its result is ASCII; every other rune stays what it is. -/
def lowerRune (c : Char) : Char :=
  if c = '\u212a' then 'k' else if c = '\u0130' then 'i' else c.toLower

/-- `strings.ToLower` of a text that is searched for ASCII. -/
def toLower (s : String) : String := String.ofList (s.toList.map lowerRune)

/-- The first result of `strings.Cut`. -/
def cutBefore (s : String) (sep : Char) : String := String.ofList (s.toList.takeWhile (· != sep))

end Go
