import DiscoveryFiles.Text.CodePoint
import DiscoveryFiles.Text.DecimalDigit
import DiscoveryFiles.Text.Quoted

/-!
# Options

Arguments are first told apart into options and operands, and then taken one after the other.  A
long option may be shortened as long as it stays the only one that starts so.
-/

namespace DiscoveryFiles
namespace CommandLine

/-- An option. -/
inductive Flag where
  /-- Show the long description. -/
  | help
  /-- The directory to scan. -/
  | directory
  /-- The directory of test vectors. -/
  | testVectors
  /-- The tag to check the file under. -/
  | fileType
  /-- The directory of the schemas. -/
  | schemaDirectory
  /-- Show only failing results. -/
  | quiet
  /-- The form of the output. -/
  | format
  /-- Show the whole log. -/
  | verbose
  /-- Show the version. -/
  | version
  deriving DecidableEq, Repr

namespace Flag

/-- The spellings of all options, in the order in which they are described. -/
def spellings : List (String × Flag) :=
  [("-h", help), ("--help", help), ("--dir", directory), ("--test-vectors", testVectors),
    ("--type", fileType), ("--schema-dir", schemaDirectory), ("--quiet", quiet),
    ("--format", format), ("--verbose", verbose), ("--version", version)]

/-- The name of an option in messages. -/
def name : Flag → String
  | help => "-h/--help"
  | directory => "--dir"
  | testVectors => "--test-vectors"
  | fileType => "--type"
  | schemaDirectory => "--schema-dir"
  | quiet => "--quiet"
  | format => "--format"
  | verbose => "--verbose"
  | version => "--version"

/-- Whether an option has a value. -/
def hasValue : Flag → Bool
  | directory | testVectors | fileType | schemaDirectory | format => true
  | help | quiet | verbose | version => false

end Flag

/-- The form of the output. -/
inductive Format where
  /-- Text. -/
  | text
  /-- Data. -/
  | json
  deriving DecidableEq, Repr

/-- The form with a name. -/
def Format.ofName? : String → Option Format
  | "text" => some .text
  | "json" => some .json
  | _ => none

/-- What the arguments ask for. -/
structure Options where
  /-- The file to check. -/
  file : Option String
  /-- The directory to scan. -/
  directory : Option String
  /-- The directory of test vectors. -/
  testVectors : Option String
  /-- The tag to check the file under. -/
  fileType : Option String
  /-- The directory of the schemas. -/
  schemaDirectory : Option String
  /-- Whether only failing results are shown. -/
  quiet : Bool
  /-- The form of the output. -/
  format : Format
  /-- Whether the whole log is shown. -/
  verbose : Bool
  deriving DecidableEq, Repr

/-- What is asked for without arguments. -/
def Options.initial : Options :=
  ⟨none, none, none, none, none, false, .text, false⟩

/-- What an argument is. -/
inductive Role where
  /-- A value or the name of a file. -/
  | operand
  /-- The mark behind which there are no options. -/
  | mark
  /-- An option, and a value written in the same argument with whether an equals sign precedes
  it. -/
  | option (flag : Flag) (short : Bool) (value : Option (Bool × String))
  /-- Something that looks like an option but is none. -/
  | unknown
  deriving DecidableEq, Repr

/-- An argument and what it is. -/
structure Argument where
  /-- The argument as given. -/
  text : String
  /-- What it is. -/
  role : Role
  deriving DecidableEq, Repr

/-- Whether a text has the form of a negative number. -/
def isNegativeNumber (text : Text) : Bool :=
  match text with
  | '-' :: rest =>
      let rest := if rest.getLast? = some '\n' then rest.dropLast else rest
      let digits := rest.takeWhile fun c => Text.isDecimal c.toNat
      match rest.drop digits.length with
      | [] => !digits.isEmpty
      | '.' :: decimals => !decimals.isEmpty && decimals.all fun c => Text.isDecimal c.toNat
      | _ => false
  | _ => false

/-- The part of a text before the first equals sign, and the part behind it if there is one. -/
def splitValue (text : Text) : Text × Option Text :=
  match text.dropWhile (· ≠ '=') with
  | [] => (text, none)
  | _ :: value => (text.takeWhile (· ≠ '='), some value)

/-- Whether an option is spelled with a single hyphen. -/
def isShort (spelling : String) : Bool :=
  spelling.length = 2

/-- The options that an argument may stand for when it is no full spelling, each with its
spelling. -/
def candidates (text : Text) : List (String × Role) :=
  match text with
  | '-' :: '-' :: _ =>
      let (stem, value) := splitValue text
      (Flag.spellings.filter fun entry => stem.isPrefixOf entry.1.toList).map fun entry =>
        (entry.1, .option entry.2 false (value.map fun value => (true, String.ofList value)))
  | _ =>
      (Flag.spellings.filter fun entry => entry.1.toList = text.take 2).map fun entry =>
        (entry.1, .option entry.2 true (some (false, String.ofList (text.drop 2))))

/-- What an argument is by itself, or the message that it could be several options. -/
def classify (argument : String) : Except String Role :=
  let text := argument.toList
  match text with
  | '-' :: _ :: _ =>
      match Flag.spellings.lookup argument with
      | some flag => .ok (.option flag (isShort argument) none)
      | none =>
          let (stem, value) := splitValue text
          match value, Flag.spellings.lookup (String.ofList stem) with
          | some value, some flag =>
              .ok (.option flag (isShort (String.ofList stem)) (some (true, String.ofList value)))
          | _, _ =>
              match candidates text with
              | [] =>
                  if isNegativeNumber text || text.contains ' ' then .ok .operand
                  else .ok .unknown
              | [(_, role)] => .ok role
              | several =>
                  .error ("ambiguous option: " ++ argument ++ " could match " ++
                    String.intercalate ", " (several.map Prod.fst))
  | _ => .ok .operand

/-- What all arguments are.  Behind the mark there are only operands. -/
def classifyAll : List String → Except String (List Argument)
  | [] => .ok []
  | "--" :: rest => .ok (⟨"--", .mark⟩ :: rest.map fun text => ⟨text, .operand⟩)
  | text :: rest => do
      let role ← classify text
      let others ← classifyAll rest
      return ⟨text, role⟩ :: others

/-- What reading the arguments ends in. -/
inductive Reading where
  /-- The options that were asked for. -/
  | options (options : Options)
  /-- The long description. -/
  | help
  /-- The version. -/
  | version
  /-- A message that the arguments cannot be used. -/
  | misuse (message : String)
  deriving DecidableEq, Repr

/-- The message about an option. -/
def aboutFlag (flag : Flag) (message : String) : Reading :=
  .misuse ("argument " ++ flag.name ++ ": " ++ message)

/-- The message about a value that an option does not take. -/
def ignoredValue (flag : Flag) (value : String) : Reading :=
  aboutFlag flag ("ignored explicit argument " ++ quoteWords value)

/-- The message about two options that exclude each other. -/
def excluded (flag other : Flag) : Reading :=
  aboutFlag flag ("not allowed with argument " ++ other.name)

/-- Set an option with a value. -/
def Options.setValue (options : Options) (flag : Flag) (value : String) :
    Except Reading Options :=
  match flag with
  | .directory =>
      if options.testVectors.isSome then .error (excluded .directory .testVectors)
      else .ok { options with directory := some value }
  | .testVectors =>
      if options.directory.isSome then .error (excluded .testVectors .directory)
      else .ok { options with testVectors := some value }
  | .fileType => .ok { options with fileType := some value }
  | .schemaDirectory => .ok { options with schemaDirectory := some value }
  | .format =>
      match Format.ofName? value with
      | some format => .ok { options with format }
      | none =>
          .error (aboutFlag .format
            ("invalid choice: " ++ quoteWords value ++ " (choose from 'text', 'json')"))
  | _ => .ok options

/-- Set an option without a value. -/
def Options.setPlain (options : Options) (flag : Flag) : Except Reading Options :=
  match flag with
  | .help => .error .help
  | .version => .error .version
  | .quiet => .ok { options with quiet := true }
  | .verbose => .ok { options with verbose := true }
  | _ => .ok options

/-- Whether the letters behind the short option for help repeat it up to a value, which it does not
take.  Any other letters are passed over, since help is shown first. -/
def helpLetters : Bool → Text → Reading
  | _, [] => .help
  | true, value => ignoredValue .help (String.ofList value)
  | false, 'h' :: '=' :: value => ignoredValue .help (String.ofList value)
  | false, 'h' :: letters => helpLetters false letters
  | false, '-' :: letters => ignoredValue .help (String.ofList ('-' :: letters))
  | false, _ :: _ => .help

/-- How far the arguments have been taken. -/
structure Progress where
  /-- The options so far. -/
  options : Options
  /-- Whether the operand for the file is still to come. -/
  wantsFile : Bool
  /-- The arguments that have no meaning. -/
  extras : List String

/-- Take an argument that is no value of an option. -/
def Progress.takeOperand (progress : Progress) (text : String) : Progress :=
  if progress.wantsFile then
    { progress with options := { progress.options with file := some text }, wantsFile := false }
  else { progress with extras := progress.extras ++ [text] }

/-- Take what follows the last option.  The mark counts as an argument without meaning unless it
stands next to the operand for the file. -/
def Progress.takeRest (progress : Progress) (arguments : List Argument) : Progress :=
  let texts := arguments.map Argument.text
  if progress.wantsFile then
    match arguments with
    | ⟨_, .mark⟩ :: ⟨file, _⟩ :: _ =>
        { progress.takeOperand file with extras := progress.extras ++ texts.drop 2 }
    | [⟨_, .mark⟩] => progress
    | ⟨file, _⟩ :: ⟨_, .mark⟩ :: _ =>
        { progress.takeOperand file with extras := progress.extras ++ texts.drop 2 }
    | ⟨file, _⟩ :: _ =>
        { progress.takeOperand file with extras := progress.extras ++ texts.drop 1 }
    | [] => progress
  else { progress with extras := progress.extras ++ texts }

/-- Whether an argument is an option or looks like one. -/
def Argument.isOption (argument : Argument) : Bool :=
  match argument.role with
  | .option _ _ _ | .unknown => true
  | .operand | .mark => false

/-- Take the arguments one after the other. -/
def take (progress : Progress) (arguments : List Argument) : Except Reading Progress :=
  if !arguments.any Argument.isOption then .ok (progress.takeRest arguments)
  else
    match arguments with
    | [] => .ok progress
    | ⟨text, .operand⟩ :: rest => take (progress.takeOperand text) rest
    | ⟨text, .mark⟩ :: rest => take (progress.takeOperand text) rest
    | ⟨text, .unknown⟩ :: rest =>
        take { progress with extras := progress.extras ++ [text] } rest
    | ⟨_, .option flag _ none⟩ :: rest =>
        if flag.hasValue then
          match rest with
          | ⟨value, .operand⟩ :: rest => do
              let options ← progress.options.setValue flag value
              take { progress with options } rest
          | _ => .error (aboutFlag flag "expected one argument")
        else do
          let options ← progress.options.setPlain flag
          take { progress with options } rest
    | ⟨_, .option flag short (some (equals, value))⟩ :: rest =>
        if flag.hasValue then do
          let options ← progress.options.setValue flag value
          take { progress with options } rest
        else if short && value ≠ "" then .error (helpLetters equals value.toList)
        else .error (ignoredValue flag value)
termination_by arguments.length

/-- Read the arguments. -/
def read (arguments : List String) : Reading :=
  match classifyAll arguments with
  | .error message => .misuse message
  | .ok arguments =>
      match take ⟨.initial, true, []⟩ arguments with
      | .error reading => reading
      | .ok progress =>
          if progress.extras.isEmpty then .options progress.options
          else
            .misuse ("unrecognized arguments: " ++ String.intercalate " " progress.extras)

end CommandLine
end DiscoveryFiles
