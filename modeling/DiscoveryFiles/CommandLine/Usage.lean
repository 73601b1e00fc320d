/-!
# Usage texts

What the command line says about itself.
-/

namespace DiscoveryFiles
namespace CommandLine

/-- The name of the program. -/
def programName : String := "adf-validate"

/-- The version of the program. -/
def version : String := "1.0.0"

/-- The line that names the version. -/
def versionText : String :=
  programName ++ " " ++ version ++ "\n"

/-- The short description of the arguments. -/
def usageText : String :=
  "usage: adf-validate [-h] [--dir DIRECTORY | --test-vectors TEST_VECTORS]\n" ++
  "                    [--type FILE_TYPE] [--schema-dir SCHEMA_DIR] [--quiet]\n" ++
  "                    [--format \x7btext,json\x7d] [--verbose] [--version]\n" ++
  "                    [file]\n"

/-- The long description of the arguments. -/
def helpText : String :=
  usageText ++
  "\n" ++
  "AI Discovery Files Validator v1.0.0\n" ++
  "\n" ++
  "positional arguments:\n" ++
  "  file                  Validate a single file\n" ++
  "\n" ++
  "options:\n" ++
  "  -h, --help            show this help message and exit\n" ++
  "  --dir DIRECTORY       Scan directory for ADF files\n" ++
  "  --test-vectors TEST_VECTORS\n" ++
  "                        Validate test vectors (expects valid/ and invalid/\n" ++
  "                        subdirs)\n" ++
  "  --type FILE_TYPE      Override file type detection\n" ++
  "  --schema-dir SCHEMA_DIR\n" ++
  "                        Path to JSON Schemas\n" ++
  "  --quiet               Only show failing results\n" ++
  "  --format \x7btext,json\x7d  Output format\n" ++
  "  --verbose             Enable debug logging on stderr\n" ++
  "  --version             show program's version number and exit\n" ++
  "\n" ++
  "File types: llms-txt, llm-txt, llms-html, ai-txt, ai-json, identity-json,\n" ++
  "brand-txt, faq-ai-txt, developer-ai-txt, robots-ai-txt\n"

/-- The text for arguments that cannot be used. -/
def misuseText (message : String) : String :=
  usageText ++ programName ++ ": error: " ++ message ++ "\n"

end CommandLine
end DiscoveryFiles
