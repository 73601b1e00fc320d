import DiscoveryFiles.Text.Basic

/-!
# Ports

The check of ports that the program is run with.  A run treats it as given, as it is not the program
that decides which texts are numbers.
-/

namespace DiscoveryFiles
namespace CommandLine

/-- Whether a text is made of digits, with single low lines between them at most. -/
def isDigitText : Text → Bool
  | [] => false
  | [c] => c.isDigit
  | c :: '_' :: rest => c.isDigit && isDigitText rest
  | c :: rest => c.isDigit && isDigitText rest

/-- How many characters a number may have. -/
def numberLimit : Nat := 4300

/-- Whether a text reads as a whole number: blank ends, a sign and a fraction of zeros are
allowed. -/
def isWholeNumber (text : Text) : Bool :=
  let text := text.trim
  let unsigned :=
    match text with
    | '+' :: rest | '-' :: rest => rest
    | text => text
  let whole := unsigned.takeWhile (· ≠ '.')
  let fraction := unsigned.drop (whole.length + 1)
  text.length ≤ numberLimit && isDigitText whole && fraction.all (· = '0') &&
    (unsigned.length = whole.length || !fraction.isEmpty)

/-- Whether a port is a whole number. -/
def isPort (port : String) : Bool :=
  isWholeNumber port.toList

end CommandLine
end DiscoveryFiles
