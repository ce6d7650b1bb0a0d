import EntitySearch.Declaration.Basic
import EntitySearch.Json.ValueSource

/-! Chat messages as a searchable entity. -/
namespace EntitySearch

open Json (Record Source ShapeError)

structure MessageFile where
  name : String

structure MessageCache where
  company : String
  workspace : String
  channel : String

/-- A message. It has no cache before it is stored. -/
structure Message where
  id : String
  user : String
  text : String
  files : List MessageFile
  cache : Option MessageCache

namespace MessageFile

def format : Record Json ShapeError MessageFile where
  name := "MessageFile"
  blank := ⟨""⟩
  fields := [
    ⟨"name", true, fun _ value => do return ⟨← Json.wholeValue.string value⟩⟩]
  other := none

def toJson (file : MessageFile) : Json :=
  .object [("name", .string file.name)]

end MessageFile

namespace MessageCache

def format : Record Json ShapeError MessageCache where
  name := "MessageCache"
  blank := ⟨"", "", ""⟩
  fields := [
    ⟨"company_id", true, fun cache value => do
      return { cache with company := ← Json.wholeValue.string value }⟩,
    ⟨"workspace_id", true, fun cache value => do
      return { cache with workspace := ← Json.wholeValue.string value }⟩,
    ⟨"channel_id", true, fun cache value => do
      return { cache with channel := ← Json.wholeValue.string value }⟩]
  other := none

def toJson (cache : MessageCache) : Json :=
  .object [
    ("company_id", .string cache.company),
    ("workspace_id", .string cache.workspace),
    ("channel_id", .string cache.channel)]

end MessageCache

namespace Message

def entity : String :=
  "messages"

def declaration : Declaration :=
  Declaration.empty
    |>.withIndex "messages"
    |>.text "text"
    |>.keyword "user_id"
    |>.keyword "company_id"
    |>.keyword "workspace_id"
    |>.keyword "channel_id"
    |>.boolean "has_files"

/-- The names of the files follow the text, so a message is found by its attachments. Author and
place are left out without a cache. -/
def documentMembers (message : Message) : List (String × Json) :=
  (match message.cache with
    | none => []
    | some cache => [
      ("company_id", .string cache.company),
      ("workspace_id", .string cache.workspace),
      ("channel_id", .string cache.channel),
      ("user_id", .string message.user)]) ++
  [("text", .string (message.text ++ " " ++ " ".intercalate (message.files.map (·.name)))),
    ("has_files", .bool (!message.files.isEmpty))]

def document (message : Message) : Json :=
  .object message.documentMembers

def format : Record Json ShapeError Message where
  name := "Message"
  blank := ⟨"", "", "", [], none⟩
  fields := [
    ⟨"id", true, fun message value => do
      return { message with id := ← Json.wholeValue.string value }⟩,
    ⟨"user_id", true, fun message value => do
      return { message with user := ← Json.wholeValue.string value }⟩,
    ⟨"text", true, fun message value => do
      return { message with text := ← Json.wholeValue.string value }⟩,
    ⟨"files", false, fun message value => do
      let files ← Json.listOf (Json.wholeValue.record MessageFile.format) value
      return { message with files }⟩,
    ⟨"cache", false, fun message value => do
      let read := Json.wholeValue.record MessageCache.format
      return { message with cache := ← Json.wholeValue.optional read value }⟩]
  other := none

def ofJson (value : Json) : Except ShapeError Message :=
  Json.wholeValue.record format value

def toJson (message : Message) : Json :=
  .object [
    ("id", .string message.id),
    ("user_id", .string message.user),
    ("text", .string message.text),
    ("files", .array (message.files.map (·.toJson))),
    ("cache", match message.cache with | none => .null | some cache => cache.toJson)]

end Message

end EntitySearch
