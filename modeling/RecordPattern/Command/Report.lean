import RecordPattern.Files.Replace
import RecordPattern.Json.Dump
import RecordPattern.Text.Utf8

namespace RecordPattern.Command

-- The document that is written for one run: its records, how many they are, and the limit.
def payload (limit : Value) (records : List Value) : Value :=
  .mapping false [(.text "count", .int records.length), (.text "limit", limit),
    (.text "matches", .list records)]

-- The document as it is written, with all keys in order.
def payloadContent (payload : Value) : Files.Content JsonError :=
  let output := Json.dump true payload
  ⟨Text.Utf8.encode output.text, output.error⟩

-- Writes the document to a file in one step.
def writeMatches (tree : Files.Tree) (path : Files.Path) (payload : Value)
    (tags : List String) : Files.Tree × Except (Files.WriteError JsonError) Unit :=
  tree.replace path (payloadContent payload) tags

-- A record on a line of its own.
def recordLine (record : Value) : Except JsonError String :=
  (Json.ofValue false record).map Json.compact

end RecordPattern.Command
