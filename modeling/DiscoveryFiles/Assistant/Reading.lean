import DiscoveryFiles.Service.Scan

/-!
# Texts for an assistant

An assistant can read the list of kinds, the schemas, and instructions for a review.
-/

namespace DiscoveryFiles
namespace Assistant

/-- The lines that describe a kind. -/
def kindLines (kind : Kind) : List String :=
  ["- filename: " ++ kind.fileName, "  code: " ++ kind.code, "  type: " ++ kind.tag,
    "  tier: " ++ kind.tier.name]

/-- The list of kinds. -/
def kindsText : String :=
  String.join (("file_types:" :: Kind.all.flatMap kindLines).map (· ++ "\n"))

/-- The address of the list of kinds. -/
def kindsAddress : String := "adf://registry/file-types"

/-- The start of the address of a schema. -/
def schemaAddress : String := "adf://schemas/"

/-- The text at an address, if there is one. -/
def textAt (tree : FileTree) (address : String) : Service (Option String) := do
  if address = kindsAddress then return some kindsText
  else if Text.begins address.toList schemaAddress then
    let type := String.ofList (address.toList.drop schemaAddress.length)
    let text ← SchemaStore.text tree (← get).store type
    return some (String.ofList text)
  else return none

/-- The instructions for a review of a site directory. -/
def reviewText (directory : String) : String :=
  "# AI Discovery Files レビュー: " ++ directory ++ "\n\n" ++
  "## 1. 検証\n\n" ++
  "1. `validate_directory` ツールを directory=`" ++ directory ++ "` で実行してください。\n" ++
  "2. 結果の `results` に各ファイルの検証結果、`cross_result` にファイル間の勧告が含まれます。\n\n" ++
  "## 2. 結果の読み方\n\n" ++
  "- `errors` は仕様の MUST 違反です。1件でもあればそのファイルは不合格（`valid: false`）です。\n" ++
  "- `warnings` は SHOULD 違反です。合否には影響しませんが、改善を提案してください。\n" ++
  "- `cross_result` の警告（必須ティアの欠落、ai.txt と ai.json の整合性など）は" ++
  "手動確認が必要な勧告です。\n\n" ++
  "## 3. 修正案\n\n" ++
  "1. エラーを優先し、ファイルごとに修正案を提示してください。\n" ++
  "2. 修正後の内容は `validate_content` ツールで再検証してから利用者に提示してください。\n" ++
  "3. JSONファイルの期待構造は `adf://schemas/ai-json` と `adf://schemas/identity-json` " ++
  "リソースで確認できます。\n"

end Assistant
end DiscoveryFiles
