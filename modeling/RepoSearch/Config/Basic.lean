import RepoSearch.Search.Fusion
import RepoSearch.Text.Slice
/-! The configuration of the engine, section by section, with the value each setting takes
when the configuration file does not give it. -/
namespace RepoSearch.Config

open RepoSearch.Search

/-- Which files an index pass reads and how it cuts them. -/
structure IndexingConfig where
  /-- File extensions eligible for indexing, without the dot. -/
  extensions : List String :=
    ["html", "htm", "vue", "svelte", "js", "jsx", "mjs", "cjs", "ts", "tsx", "md", "mdx",
      "css", "scss", "json", "yml", "yaml", "toml", "py", "rs", "go", "java", "rb", "php"]
  /-- Project manifests, indexed whatever their extension. -/
  manifestFiles : List String :=
    ["package.json", "Cargo.toml", "pyproject.toml", "requirements.txt", "go.mod",
      "composer.json", "Gemfile", "pom.xml", "build.gradle"]
  /-- Directory names never entered. -/
  excludedDirs : List String :=
    [".git", "node_modules", "dist", "build", "target", "out", ".next", ".nuxt", "vendor",
      "coverage", "__pycache__", ".venv"]
  excludeGlobs : List String := ["**/*.min.js", "**/*.map", "**/package-lock.json"]
  maxFileBytes : Nat := 512 * 1024
  fallbackWindowLines : Nat := 50
  lookaheadLines : Nat := 10
  /-- Limit of an element symbol's name, in characters. -/
  displayChars : Nat := 80
  /-- Limit of a symbol's context, in characters. -/
  contextChars : Nat := 200
  /-- Files prepared at once within one pass. -/
  workers : Nat := 4
  deriving Inhabited

/-- Weights of the structural score. -/
structure StructuralWeights where
  /-- Score per matching symbol. -/
  base : Float := 0.5
  /-- Element matches when the query names navigation. -/
  navigationElement : Float := 1.0
  /-- Function matches when the query mentions functions. -/
  function : Float := 0.8
  deriving Inhabited

/-- Words that make a query read as a change to a user-facing page. -/
def defaultUiKeywords : List String :=
  ["ui", "header", "nav", "navbar", "navigation", "menu", "title", "heading", "button",
    "footer", "sidebar", "layout", "page", "logo", "banner", "hero", "style", "color"]

/-- Bonuses of the boost rules. -/
structure BoostConfig where
  /-- Per quoted phrase found in a chunk. -/
  quotedText : Float := 2.0
  /-- For template files when the query reads as user-facing work. -/
  uiMarkup : Float := 1.0
  /-- Keeps project manifests in every result set. -/
  essentialConfig : Float := 0.2
  uiKeywords : List String := defaultUiKeywords
  deriving Inhabited

/-- How searches rank and cut. -/
structure SearchConfig where
  defaultLimit : Nat := 10
  weights : FusionWeights := {}
  /-- Assumed ceiling of raw lexical scores. -/
  lexicalCeiling : Float := 10.0
  /-- Results scoring at or below this are dropped. -/
  minScore : Float := 0.1
  /-- Vector hits at or below this similarity are ignored. -/
  minSimilarity : Float32 := (0.1 : Float).toFloat32
  /-- Hits taken from each signal before fusion. -/
  candidateLimit : Nat := 200
  /-- Normalized lexical score needed to name a text match as a reason. -/
  lexicalSignificance : Float := 0.05
  /-- Similarity needed to name semantic similarity as a reason. -/
  vectorSignificance : Float := 0.3
  structural : StructuralWeights := {}
  boosts : BoostConfig := {}
  deriving Inhabited

/-- Where repositories are fetched from and kept. -/
structure SourceConfig where
  /-- Remote address of a repository; `{repository}` is replaced by its name. -/
  remoteUrlTemplate : String := "https://github.com/\x7brepository\x7d.git"
  checkoutDir : Option String := none
  fetchTimeoutSecs : Nat := 300
  deriving Inhabited

/-- The embedding model. -/
structure ModelConfig where
  name : String := "multilingual-e5-small"
  dimensions : Nat := 384
  modelDir : String := "models/multilingual-e5-small"
  embedTimeoutMs : Nat := 10000
  /-- Chunk text is cut to this many characters before embedding. -/
  maxEmbedChars : Nat := 512
  deriving Inhabited

/-- The whole configuration. -/
structure Settings where
  dbPath : String := "./coderank.db"
  indexing : IndexingConfig := {}
  search : SearchConfig := {}
  source : SourceConfig := {}
  model : ModelConfig := {}
  deriving Inhabited

/-- The first rule the configuration breaks, as a message. -/
def Settings.validate (c : Settings) : Option String :=
  let i := c.indexing
  let s := c.search
  let w := s.weights
  if i.fallbackWindowLines = 0 then some "indexing.fallback_window_lines must be positive"
  else if i.workers = 0 then some "indexing.workers must be positive"
  else if i.maxFileBytes = 0 then some "indexing.max_file_bytes must be positive"
  else if i.extensions.isEmpty then some "at least one extension must be indexed"
  else if !(w.lexical ≥ 0 && w.vector ≥ 0 && w.structural ≥ 0) then
    some "search.weights must be non-negative"
  else if !(s.lexicalCeiling > 0) then some "search.lexical_ceiling must be positive"
  else if s.defaultLimit = 0 then some "search.default_limit must be positive"
  else if c.model.dimensions = 0 then some "model.dimensions must be positive"
  else if c.model.maxEmbedChars = 0 then some "model.max_embed_chars must be positive"
  else if !(Text.containsText c.source.remoteUrlTemplate "\x7brepository\x7d") then
    some "source.remote_url_template must contain \x7brepository\x7d"
  else none

end RepoSearch.Config
