import DiscoveryFiles.Text.Blank

/-!
# Texts

A document is a list of characters.  Its lines are the pieces between line feeds, and a line is
looked at after its blank ends are cut off.
-/

namespace DiscoveryFiles

/-- The characters of a document, in order. -/
abbrev Text := List Char

namespace Text

/-- The pieces of a text between the separators, of which there is always one. -/
def cut (separator : Char) : Text → List Text
  | [] => [[]]
  | c :: rest =>
      if c = separator then [] :: cut separator rest
      else
        match cut separator rest with
        | [] => [[c]]
        | piece :: pieces => (c :: piece) :: pieces

/-- The lines of a text: what stands between its line feeds. -/
def lines (text : Text) : List Text :=
  cut '\n' text

/-- Write pieces one after the other with a separator between them. -/
def join (separator : Text) : List Text → Text
  | [] => []
  | [piece] => piece
  | piece :: pieces => piece ++ separator ++ join separator pieces

/-- The text without its leading blank characters. -/
def trimStart (text : Text) : Text :=
  text.dropWhile fun c => isBlank c.toNat

/-- The text without its trailing blank characters. -/
def trimEnd : Text → Text
  | [] => []
  | c :: rest =>
      match trimEnd rest with
      | [] => if isBlank c.toNat then [] else [c]
      | kept => c :: kept

/-- The text without the blank characters at its two ends. -/
def trim (text : Text) : Text :=
  trimEnd (trimStart text)

/-- Whether a text comes before another one in the order of code points, or is the same. -/
def precedes : Text → Text → Bool
  | [], _ => true
  | _ :: _, [] => false
  | c :: text, d :: other => c.toNat < d.toNat || (c == d && precedes text other)

/-- Whether a text begins with the given words. -/
def begins (text : Text) (words : String) : Bool :=
  words.toList.isPrefixOf text

/-- Whether a text ends with the given words. -/
def ends (text : Text) (words : String) : Bool :=
  words.toList.isSuffixOf text

/-- Whether a condition holds of the text from some place on. -/
def fromSomewhere (condition : Text → Bool) : Text → Bool
  | [] => condition []
  | c :: rest => condition (c :: rest) || fromSomewhere condition rest

/-- Whether a part occurs somewhere in a text. -/
def holds (text part : Text) : Bool :=
  text.fromSomewhere part.isPrefixOf

end Text
end DiscoveryFiles
