import RepoSearch.Config.Decode
import RepoSearch.Json.Read
import RepoSearch.Json.Write
/-! Writing a configuration as JSON, every setting under its name in declaration order
(the checkout directory only when set), and loading one from the text of a configuration
file: text that is not a valid configuration gives the defaults. -/
namespace RepoSearch.Config

open RepoSearch.Json

def IndexingConfig.toJson (i : IndexingConfig) : Json :=
  .obj [
    ("extensions", Json.strs i.extensions), ("manifest_files", Json.strs i.manifestFiles),
    ("excluded_dirs", Json.strs i.excludedDirs), ("exclude_globs", Json.strs i.excludeGlobs),
    ("max_file_bytes", .nat i.maxFileBytes), ("fallback_window_lines", .nat i.fallbackWindowLines),
    ("lookahead_lines", .nat i.lookaheadLines), ("display_chars", .nat i.displayChars),
    ("context_chars", .nat i.contextChars), ("workers", .nat i.workers)]

def BoostConfig.toJson (b : BoostConfig) : Json :=
  .obj [("quoted_text", .double b.quotedText), ("ui_markup", .double b.uiMarkup),
    ("essential_config", .double b.essentialConfig), ("ui_keywords", Json.strs b.uiKeywords)]

def SearchConfig.toJson (s : SearchConfig) : Json :=
  .obj [
    ("default_limit", .nat s.defaultLimit),
    ("weights", .obj [("lexical", .double s.weights.lexical), ("vector", .double s.weights.vector),
      ("structural", .double s.weights.structural)]),
    ("lexical_ceiling", .double s.lexicalCeiling), ("min_score", .double s.minScore),
    ("min_similarity", .single s.minSimilarity), ("candidate_limit", .nat s.candidateLimit),
    ("lexical_significance", .double s.lexicalSignificance),
    ("vector_significance", .double s.vectorSignificance),
    ("structural", .obj [("base", .double s.structural.base),
      ("navigation_element", .double s.structural.navigationElement),
      ("function", .double s.structural.function)]),
    ("boosts", s.boosts.toJson)]

def Settings.toJson (c : Settings) : Json :=
  let src := c.source
  let m := c.model
  .obj [
    ("db_path", .str c.dbPath),
    ("indexing", c.indexing.toJson),
    ("search", c.search.toJson),
    ("source", .obj ([("remote_url_template", .str src.remoteUrlTemplate)] ++
      (match src.checkoutDir with
       | some d => [("checkout_dir", .str d)]
       | none => []) ++
      [("fetch_timeout_secs", .nat src.fetchTimeoutSecs)])),
    ("model", .obj [("name", .str m.name), ("dimensions", .nat m.dimensions),
      ("model_dir", .str m.modelDir), ("embed_timeout_ms", .nat m.embedTimeoutMs),
      ("max_embed_chars", .nat m.maxEmbedChars)])]

/-- The configuration a file's text gives: the text read strictly, or the defaults when it
is not a valid configuration. -/
def Settings.ofText (text : String) : Settings :=
  match Json.parse text with
  | .ok j =>
    match readConfig true j with
    | .ok c => c
    | .error _ => {}
  | .error _ => {}

/-- The text of a configuration file: pretty JSON. -/
def Settings.fileText (c : Settings) : String := Json.pretty c.toJson

end RepoSearch.Config
