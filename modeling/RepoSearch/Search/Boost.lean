import RepoSearch.Config.Basic
import RepoSearch.Language
import RepoSearch.Search.Query
import RepoSearch.Text.Slice
/-! Boost rules, applied after fusion in a fixed order: quoted text (a bonus per quoted
phrase the chunk contains, ignoring case), user-facing work (a bonus for template files
when the query reads as a change to a page) and essential configuration (a bonus that keeps
project manifests in every result set). A rule whose bonus is not positive is left out,
and the manifest rule also needs manifests. -/
namespace RepoSearch.Search

open RepoSearch.Config RepoSearch.Text

/-- One rule's contribution to one chunk. -/
structure Boost where
  rule : String
  score : Float
  reason : String

/-- A boost rule with its bonus. -/
inductive BoostRule where
  | quotedText (bonus : Float)
  | uiTask (bonus : Float)
  | essentialConfig (bonus : Float) (manifests : List String)

namespace BoostRule

def name : BoostRule → String
  | quotedText _ => "quoted_text"
  | uiTask _ => "ui_task"
  | essentialConfig _ _ => "essential_config"

/-- Files whose chunks are always candidates under this rule. -/
def pinnedFiles : BoostRule → List String
  | essentialConfig _ manifests => manifests
  | _ => []

def apply (q : QueryAnalysis) (c : Chunk) : BoostRule → Option Boost
  | quotedText bonus =>
    if q.phrases.isEmpty then none
    else
      let content := lowerFull c.content
      let found := q.phrases.filter fun p => containsText content (lowerFull p)
      if found.isEmpty then none
      else some ⟨"quoted_text", bonus * Float.ofNat found.length,
        "exact text match ('" ++ "', '".intercalate found ++ "')"⟩
  | uiTask bonus =>
    if !q.uiIntent then none
    else
      match Language.byName? c.language with
      | some l => if l.family == .markup then some ⟨"ui_task", bonus, "UI file"⟩ else none
      | none => none
  | essentialConfig bonus manifests =>
    if manifests.contains c.filePath then some ⟨"essential_config", bonus, "essential project config"⟩
    else none

end BoostRule

/-- The rules a boost configuration enables, in order. -/
def boostRules (b : BoostConfig) (manifests : List String) : List BoostRule :=
  (if b.quotedText > 0 then [BoostRule.quotedText b.quotedText] else []) ++
  (if b.uiMarkup > 0 then [BoostRule.uiTask b.uiMarkup] else []) ++
  (if b.essentialConfig > 0 && !manifests.isEmpty then
    [BoostRule.essentialConfig b.essentialConfig manifests] else [])

/-- The contributions of the rules to a chunk, in rule order. -/
def applyBoosts (rules : List BoostRule) (q : QueryAnalysis) (c : Chunk) : List Boost :=
  rules.filterMap (BoostRule.apply q c)

def pinnedFiles (rules : List BoostRule) : List String :=
  rules.flatMap BoostRule.pinnedFiles

end RepoSearch.Search
