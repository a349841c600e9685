import Triage.Message
import Triage.Yaml.Schema

namespace Triage.Catalog

/-! Reading a catalog from YAML: a mapping from templates to mappings from blocks to
texts. White space at the end of a text is not part of it. -/

def ofYaml? (source : String) : Option Catalog := do
  let document ← Yaml.Document.read? source
  let text? := fun node => (document.text? node).map Text.trimEnd
  document.map? (document.map? text?) document.root

end Triage.Catalog
