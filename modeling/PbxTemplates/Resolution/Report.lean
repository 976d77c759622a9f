import PbxTemplates.Endpoint.Form
import PbxTemplates.Json.Printer
import PbxTemplates.Resolution.Basic
import PbxTemplates.Settings.Basic
import PbxTemplates.Text.Style

/-!
# Reports of resolutions

A resolution is reported twice: its records as JSON, with the counts if that is set, and its counts
in a sentence for people.
-/

namespace PbxTemplates

def ResolutionStats.toJson (s : ResolutionStats) : Json :=
  .obj [("descriptors_built", .num s.descriptorsBuilt),
    ("templates_skipped", .num s.templatesSkipped),
    ("records_emitted", .num s.recordsEmitted)]

def ResolutionStats.summary (color : Bool) (s : ResolutionStats) : String :=
  Text.styled color .green "✓" ++ " "
    ++ Text.styled color .bold (Decimal.text s.recordsEmitted) ++ " endpoint(s) resolved ("
    ++ Decimal.text s.descriptorsBuilt ++ " descriptor(s) built, "
    ++ Text.styled color .dimmed (Decimal.text s.templatesSkipped) ++ " template(s) skipped)"

namespace Resolution

def recordsJson (r : Resolution) : Json := (Form.list ResolvedEndpoint.form).write r.records

/-- What is written of a resolution: its records, or a table of records and counts. -/
def toJson (includeStats : Bool) (r : Resolution) : Json :=
  if includeStats then .obj [("records", r.recordsJson), ("stats", r.stats.toJson)]
  else r.recordsJson

def render (output : OutputSettings) (r : Resolution) : String :=
  Json.text (if output.pretty then .indented else .compact) (r.toJson output.includeStats)

end Resolution

end PbxTemplates
