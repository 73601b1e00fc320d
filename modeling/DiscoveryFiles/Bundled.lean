import DiscoveryFiles.FileTree.Basic
import DiscoveryFiles.Kind.Basic

/-!
# Schemas that come with the program

The schemas of the two kinds of data files, as the texts of their files.
-/

namespace DiscoveryFiles
namespace Bundled

/-- The schema of the interaction policy. -/
def policySchema : String :=
  "\x7b\n" ++
  "  \"$schema\": \"https://json-schema.org/draft/2020-12/schema\",\n" ++
  "  \"$id\": \"https://www.ai-visibility.org.uk/schemas/ai-json.schema.json\",\n" ++
  "  \"title\": \"ai.json (ADF-005)\",\n" ++
  "  \"description\": \"Machine-readable AI interaction policy for a website.\",\n" ++
  "  \"type\": \"object\",\n" ++
  "  \"required\": [\"name\", \"url\", \"permissions\", \"restrictions\"],\n" ++
  "  \"properties\": \x7b\n" ++
  "    \"$schema\": \x7b \"type\": \"string\" \x7d,\n" ++
  "    \"version\": \x7b \"type\": \"string\", " ++
  "\"pattern\": \"^[0-9]+\\\\.[0-9]+(\\\\.[0-9]+)?$\" \x7d,\n" ++
  "    \"name\": \x7b \"type\": \"string\", \"minLength\": 1 \x7d,\n" ++
  "    \"url\": \x7b \"$ref\": \"#/$defs/httpUrl\" \x7d,\n" ++
  "    \"description\": \x7b \"type\": \"string\" \x7d,\n" ++
  "    \"permissions\": \x7b \"$ref\": \"#/$defs/policyList\" \x7d,\n" ++
  "    \"restrictions\": \x7b \"$ref\": \"#/$defs/policyList\" \x7d,\n" ++
  "    \"contact\": \x7b \"$ref\": \"#/$defs/contact\" \x7d,\n" ++
  "    \"lastUpdated\": \x7b \"type\": \"string\", " ++
  "\"pattern\": \"^[0-9]\x7b4\x7d-[0-9]\x7b2\x7d-[0-9]\x7b2\x7d\" \x7d\n" ++
  "  \x7d,\n" ++
  "  \"$defs\": \x7b\n" ++
  "    \"httpUrl\": \x7b\n" ++
  "      \"type\": \"string\",\n" ++
  "      \"minLength\": 1,\n" ++
  "      \"pattern\": \"^https?://\"\n" ++
  "    \x7d,\n" ++
  "    \"policyList\": \x7b\n" ++
  "      \"oneOf\": [\n" ++
  "        \x7b\n" ++
  "          \"type\": \"array\",\n" ++
  "          \"minItems\": 1,\n" ++
  "          \"items\": \x7b \"type\": \"string\", \"minLength\": 1 \x7d\n" ++
  "        \x7d,\n" ++
  "        \x7b\n" ++
  "          \"type\": \"object\"\n" ++
  "        \x7d\n" ++
  "      ]\n" ++
  "    \x7d,\n" ++
  "    \"contact\": \x7b\n" ++
  "      \"type\": \"object\",\n" ++
  "      \"properties\": \x7b\n" ++
  "        \"email\": \x7b \"type\": \"string\", " ++
  "\"pattern\": \"^[^@\\\\s]+@[^@\\\\s]+$\" \x7d,\n" ++
  "        \"url\": \x7b \"$ref\": \"#/$defs/httpUrl\" \x7d\n" ++
  "      \x7d\n" ++
  "    \x7d\n" ++
  "  \x7d\n" ++
  "\x7d\n"

/-- The schema of the identity of an organisation. -/
def identitySchema : String :=
  "\x7b\n" ++
  "  \"$schema\": \"https://json-schema.org/draft/2020-12/schema\",\n" ++
  "  \"$id\": \"https://www.ai-visibility.org.uk/schemas/identity-json.schema.json\",\n" ++
  "  \"title\": \"identity.json (ADF-006)\",\n" ++
  "  \"description\": \"Structured organisational identity for AI systems.\",\n" ++
  "  \"type\": \"object\",\n" ++
  "  \"required\": [\"name\", \"url\", \"type\", \"description\"],\n" ++
  "  \"properties\": \x7b\n" ++
  "    \"$schema\": \x7b \"type\": \"string\" \x7d,\n" ++
  "    \"name\": \x7b \"type\": \"string\", \"minLength\": 1 \x7d,\n" ++
  "    \"url\": \x7b \"$ref\": \"#/$defs/httpUrl\" \x7d,\n" ++
  "    \"type\": \x7b\n" ++
  "      \"type\": \"string\",\n" ++
  "      \"enum\": [\n" ++
  "        \"Organization\",\n" ++
  "        \"Corporation\",\n" ++
  "        \"LocalBusiness\",\n" ++
  "        \"NGO\",\n" ++
  "        \"EducationalOrganization\",\n" ++
  "        \"GovernmentOrganization\",\n" ++
  "        \"Person\"\n" ++
  "      ]\n" ++
  "    \x7d,\n" ++
  "    \"description\": \x7b \"type\": \"string\", \"minLength\": 1 \x7d,\n" ++
  "    \"alternateNames\": \x7b\n" ++
  "      \"type\": \"array\",\n" ++
  "      \"items\": \x7b \"type\": \"string\", \"minLength\": 1 \x7d\n" ++
  "    \x7d,\n" ++
  "    \"founded\": \x7b \"type\": \"integer\" \x7d,\n" ++
  "    \"logo\": \x7b \"$ref\": \"#/$defs/httpUrl\" \x7d,\n" ++
  "    \"sameAs\": \x7b\n" ++
  "      \"type\": \"array\",\n" ++
  "      \"items\": \x7b \"$ref\": \"#/$defs/httpUrl\" \x7d\n" ++
  "    \x7d,\n" ++
  "    \"contact\": \x7b\n" ++
  "      \"type\": \"object\",\n" ++
  "      \"properties\": \x7b\n" ++
  "        \"email\": \x7b \"type\": \"string\", " ++
  "\"pattern\": \"^[^@\\\\s]+@[^@\\\\s]+$\" \x7d,\n" ++
  "        \"telephone\": \x7b \"type\": \"string\", \"minLength\": 1 \x7d\n" ++
  "      \x7d\n" ++
  "    \x7d\n" ++
  "  \x7d,\n" ++
  "  \"$defs\": \x7b\n" ++
  "    \"httpUrl\": \x7b\n" ++
  "      \"type\": \"string\",\n" ++
  "      \"minLength\": 1,\n" ++
  "      \"pattern\": \"^https?://\"\n" ++
  "    \x7d\n" ++
  "  \x7d\n" ++
  "\x7d\n"

/-- The schema files, by name. -/
def files : List (Text × Entry) :=
  [(Kind.aiJson.tag.toList ++ ".schema.json".toList, .file (Utf8.encode policySchema.toList)),
    (Kind.identityJson.tag.toList ++ ".schema.json".toList,
      .file (Utf8.encode identitySchema.toList))]

/-- The directory of the schema files. -/
def directory : Entry :=
  .directory files

end Bundled
end DiscoveryFiles
