/-!
# `TemplateCoverage.Yaml.Problem`: why a YAML text is refused

The rules of the format that a text can break, and of the shape that a document is read into.
-/

set_option autoImplicit false

namespace TemplateCoverage.Yaml

/-- Why a YAML text is refused. -/
inductive Problem where
  | character
  | indicator
  | directive
  | version
  | anchor
  | tag
  | tagHandle
  | header
  | tab
  | escape
  | unclosed
  | colon
  | key
  | context
  | unexpected
  | documents
  | unknownAlias
  | repetition
  | shape
  deriving DecidableEq

/-- The reason in words. -/
def Problem.message : Problem → String
  | .character => "a character is not allowed"
  | .indicator => "a character cannot start a token"
  | .directive => "a directive is malformed"
  | .version => "the version of the document is not supported"
  | .anchor => "an anchor or alias has no proper name"
  | .tag => "a tag is malformed"
  | .tagHandle => "the handle of a tag is not declared"
  | .header => "the first line of a block scalar is malformed"
  | .tab => "a tab stands where indentation is expected"
  | .escape => "an escape is malformed"
  | .unclosed => "a quoted scalar is not closed"
  | .colon => "a colon stands before a bracket or comma"
  | .key => "a key has no colon"
  | .context => "an indicator is not allowed here"
  | .unexpected => "a token is not expected here"
  | .documents => "there is not exactly one document"
  | .unknownAlias => "an alias names no anchor"
  | .repetition => "aliases are followed too often"
  | .shape => "a node has the wrong shape"

end TemplateCoverage.Yaml
