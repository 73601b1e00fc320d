import DiscoveryFiles.Text.CodePoint
import DiscoveryFiles.Text.Printable

/-!
# Quoted strings

A string inside a message is written between single quotes, or between double quotes if it holds a
single one and no double one.  What cannot be printed is written as an escape.
-/

namespace DiscoveryFiles
namespace CodePoints

/-- The last `width` hexadecimal digits of a number, in lower case. -/
def hexDigits (width : Nat) (number : Nat) : Text :=
  (List.range width).reverse.map fun place => Nat.digitChar ((number >>> (4 * place)) % 16)

/-- The mark that a string is written between. -/
def quoteMark (points : CodePoints) : Char :=
  if points.contains (.scalar '\'') && !points.contains (.scalar '"') then '"' else '\''

/-- How one code point is written between quote marks. -/
def quotePoint (mark : Char) (point : CodePoint) : Text :=
  let n := point.number
  match point with
  | .scalar '\\' => ['\\', '\\']
  | .scalar '\t' => ['\\', 't']
  | .scalar '\n' => ['\\', 'n']
  | .scalar '\r' => ['\\', 'r']
  | _ =>
    if point = .scalar mark then ['\\', mark]
    else if Text.isPrintable n then [point.shown]
    else if n < 0x100 then '\\' :: 'x' :: hexDigits 2 n
    else if n < 0x10000 then '\\' :: 'u' :: hexDigits 4 n
    else '\\' :: 'U' :: hexDigits 8 n

/-- A string between quote marks. -/
def quoted (points : CodePoints) : Text :=
  let mark := points.quoteMark
  mark :: points.flatMap (quotePoint mark) ++ [mark]

end CodePoints

/-- A string between quote marks. -/
def quoteWords (words : String) : String :=
  String.ofList (CodePoints.ofString words).quoted

end DiscoveryFiles
