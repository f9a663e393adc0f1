import CompletionServer.Json.Access
import CompletionServer.Project.Manager
import CompletionServer.Service.Basic

/-!
# Records as JSON

The JSON form of the records that the server keeps and gives out.
-/

namespace CompletionServer

/-- The JSON form of an item, as it stands in responses. -/
def Item.toJson (item : Item) : Json :=
  .object [("word", .text item.word), ("abbr", .text item.abbr), ("menu", .text item.menu)]

/-- The JSON form of a candidate. -/
def Candidate.toJson (candidate : Candidate) : Json :=
  .object [
    ("source_text", .text candidate.sourceText),
    ("description_key", .text candidate.descriptionKey),
    ("module_name", Json.optionText candidate.moduleName),
    ("context_tag", .text candidate.contextTag),
    ("name", .text candidate.name),
    ("kind", .text candidate.kind),
    ("type_name", .text candidate.typeName),
    ("is_inherited", .bool candidate.isInherited)]

/-- The JSON form of a request. The offset, which may be large, is a text. -/
def Request.toJson (request : Request) : Json :=
  .object [
    ("file_path", .text request.filePath),
    ("byte_offset", .text (toString request.byteOffset)),
    ("prefix", .text request.prefixText),
    ("cache_key", .text request.cacheKey),
    ("relation_type", .integer request.relation.toNat),
    ("session_prefix", .text request.sessionPrefix)]

/-- The JSON form of a project state. -/
def Project.State.toJson (state : Project.State) : Json :=
  .object [
    ("project_file", .text state.projectFile),
    ("module_name", .text state.moduleName),
    ("sdk_root", .text state.sdkRoot),
    ("platform_target", Json.optionText state.platformTarget),
    ("framework_search_paths", Json.texts state.frameworkSearchPaths),
    ("extra_compiler_flags", Json.texts state.compilerFlags),
    ("source_file_paths", Json.texts state.sourceFiles)]

/-- The JSON form of a manager: what is published and how refreshing went. -/
def Project.Manager.toJson (manager : Project.Manager) : Json :=
  .object [
    ("loaded", .bool manager.isLoaded),
    ("refreshing", .bool manager.isRefreshing),
    ("module", Json.optionText (manager.state.map (·.moduleName))),
    ("refresh_count", .integer manager.refreshCount),
    ("last_error", Json.optionText (manager.lastError.map (·.message)))]

/-- The JSON form of a service's figures. -/
def Service.Stats.toJson (stats : Service.Stats) : Json :=
  .object [
    ("hits", .integer stats.hits),
    ("misses", .integer stats.misses),
    ("cacheSize", .integer stats.cacheSize),
    ("cacheCapacity", .integer stats.cacheCapacity),
    ("module", .text stats.projectModule)]

end CompletionServer
