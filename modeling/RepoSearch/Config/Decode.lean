import RepoSearch.Config.Basic
import RepoSearch.Json.Typed
/-! Reading a configuration from JSON. Every section and setting may be left out and then
takes its default, except the three fusion weights, the three structural weights and the
three boost bonuses, which must all be given once their section is. Unknown members are
ignored. In `strict` reading a setting given twice is refused. -/
namespace RepoSearch.Config

open RepoSearch.Json RepoSearch.Search

/-- Read fusion weights; all three are required. -/
def readFusionWeights (strict : Bool) (j : Json) : Except String FusionWeights := do
  let given ← checkRecord "struct FusionWeights"
    [.of "lexical" false readDouble, .of "vector" false readDouble,
     .of "structural" false readDouble] strict j
  pure { lexical := ← fieldOr given "lexical" readDouble 0,
         vector := ← fieldOr given "vector" readDouble 0,
         structural := ← fieldOr given "structural" readDouble 0 }

/-- Read structural weights; all three are required. -/
def readStructuralWeights (strict : Bool) (j : Json) : Except String StructuralWeights := do
  let given ← checkRecord "struct StructuralWeights"
    [.of "base" false readDouble, .of "navigation_element" false readDouble,
     .of "function" false readDouble] strict j
  pure { base := ← fieldOr given "base" readDouble 0,
         navigationElement := ← fieldOr given "navigation_element" readDouble 0,
         function := ← fieldOr given "function" readDouble 0 }

/-- Read boost bonuses; the three bonuses are required. -/
def readBoostConfig (strict : Bool) (j : Json) : Except String BoostConfig := do
  let given ← checkRecord "struct BoostConfig"
    [.of "quoted_text" false readDouble, .of "ui_markup" false readDouble,
     .of "essential_config" false readDouble, .of "ui_keywords" true readStrings] strict j
  pure { quotedText := ← fieldOr given "quoted_text" readDouble 0,
         uiMarkup := ← fieldOr given "ui_markup" readDouble 0,
         essentialConfig := ← fieldOr given "essential_config" readDouble 0,
         uiKeywords := ← fieldOr given "ui_keywords" readStrings defaultUiKeywords }

def readSearchConfig (strict : Bool) (j : Json) : Except String SearchConfig := do
  let d : SearchConfig := {}
  let given ← checkRecord "struct SearchConfig"
    [.of "default_limit" true (readNat "usize"), .of "weights" true (readFusionWeights strict),
     .of "lexical_ceiling" true readDouble, .of "min_score" true readDouble,
     .of "min_similarity" true readSingle, .of "candidate_limit" true (readNat "usize"),
     .of "lexical_significance" true readDouble, .of "vector_significance" true readDouble,
     .of "structural" true (readStructuralWeights strict),
     .of "boosts" true (readBoostConfig strict)] strict j
  pure { defaultLimit := ← fieldOr given "default_limit" (readNat "usize") d.defaultLimit,
         weights := ← fieldOr given "weights" (readFusionWeights strict) d.weights,
         lexicalCeiling := ← fieldOr given "lexical_ceiling" readDouble d.lexicalCeiling,
         minScore := ← fieldOr given "min_score" readDouble d.minScore,
         minSimilarity := ← fieldOr given "min_similarity" readSingle d.minSimilarity,
         candidateLimit := ← fieldOr given "candidate_limit" (readNat "usize") d.candidateLimit,
         lexicalSignificance := ← fieldOr given "lexical_significance" readDouble d.lexicalSignificance,
         vectorSignificance := ← fieldOr given "vector_significance" readDouble d.vectorSignificance,
         structural := ← fieldOr given "structural" (readStructuralWeights strict) d.structural,
         boosts := ← fieldOr given "boosts" (readBoostConfig strict) d.boosts }

def readIndexingConfig (strict : Bool) (j : Json) : Except String IndexingConfig := do
  let d : IndexingConfig := {}
  let given ← checkRecord "struct IndexingConfig"
    [.of "extensions" true readStrings, .of "manifest_files" true readStrings,
     .of "excluded_dirs" true readStrings, .of "exclude_globs" true readStrings,
     .of "max_file_bytes" true (readNat "u64"), .of "fallback_window_lines" true (readNat "usize"),
     .of "lookahead_lines" true (readNat "usize"), .of "display_chars" true (readNat "usize"),
     .of "context_chars" true (readNat "usize"), .of "workers" true (readNat "usize")] strict j
  pure { extensions := ← fieldOr given "extensions" readStrings d.extensions,
         manifestFiles := ← fieldOr given "manifest_files" readStrings d.manifestFiles,
         excludedDirs := ← fieldOr given "excluded_dirs" readStrings d.excludedDirs,
         excludeGlobs := ← fieldOr given "exclude_globs" readStrings d.excludeGlobs,
         maxFileBytes := ← fieldOr given "max_file_bytes" (readNat "u64") d.maxFileBytes,
         fallbackWindowLines := ← fieldOr given "fallback_window_lines" (readNat "usize") d.fallbackWindowLines,
         lookaheadLines := ← fieldOr given "lookahead_lines" (readNat "usize") d.lookaheadLines,
         displayChars := ← fieldOr given "display_chars" (readNat "usize") d.displayChars,
         contextChars := ← fieldOr given "context_chars" (readNat "usize") d.contextChars,
         workers := ← fieldOr given "workers" (readNat "usize") d.workers }

def readSourceConfig (strict : Bool) (j : Json) : Except String SourceConfig := do
  let d : SourceConfig := {}
  let given ← checkRecord "struct SourceConfig"
    [.of "remote_url_template" true readString, .of "checkout_dir" true readOptString,
     .of "fetch_timeout_secs" true (readNat "u64")] strict j
  pure { remoteUrlTemplate := ← fieldOr given "remote_url_template" readString d.remoteUrlTemplate,
         checkoutDir := ← fieldOr given "checkout_dir" readOptString d.checkoutDir,
         fetchTimeoutSecs := ← fieldOr given "fetch_timeout_secs" (readNat "u64") d.fetchTimeoutSecs }

def readModelConfig (strict : Bool) (j : Json) : Except String ModelConfig := do
  let d : ModelConfig := {}
  let given ← checkRecord "struct ModelConfig"
    [.of "name" true readString, .of "dimensions" true (readNat "usize"),
     .of "model_dir" true readString, .of "embed_timeout_ms" true (readNat "u64"),
     .of "max_embed_chars" true (readNat "usize")] strict j
  pure { name := ← fieldOr given "name" readString d.name,
         dimensions := ← fieldOr given "dimensions" (readNat "usize") d.dimensions,
         modelDir := ← fieldOr given "model_dir" readString d.modelDir,
         embedTimeoutMs := ← fieldOr given "embed_timeout_ms" (readNat "u64") d.embedTimeoutMs,
         maxEmbedChars := ← fieldOr given "max_embed_chars" (readNat "usize") d.maxEmbedChars }

def readConfig (strict : Bool) (j : Json) : Except String Settings := do
  let d : Settings := {}
  let given ← checkRecord "struct Config"
    [.of "db_path" true readString, .of "indexing" true (readIndexingConfig strict),
     .of "search" true (readSearchConfig strict), .of "source" true (readSourceConfig strict),
     .of "model" true (readModelConfig strict)] strict j
  pure { dbPath := ← fieldOr given "db_path" readString d.dbPath,
         indexing := ← fieldOr given "indexing" (readIndexingConfig strict) d.indexing,
         search := ← fieldOr given "search" (readSearchConfig strict) d.search,
         source := ← fieldOr given "source" (readSourceConfig strict) d.source,
         model := ← fieldOr given "model" (readModelConfig strict) d.model }

end RepoSearch.Config
