import IssueQuery.Log.Directive
import IssueQuery.Text.Quoted

/-! Log records and whether the directives in force let them through. -/

namespace IssueQuery.Log

structure Record where
  level : Level
  source : String
  message : String
  fields : List (String × String) := []
  deriving DecidableEq, Repr

namespace Record

def line (record : Record) : String :=
  record.level.name ++ " " ++ record.message ++
    String.join (record.fields.map fun (name, value) => " " ++ name ++ "=" ++ value)

end Record

namespace Directive

def fits (directive : Directive) (record : Record) : Bool :=
  (directive.target.all fun target => target.toList.isPrefixOf record.source.toList) &&
    directive.field.all fun field =>
      field.name == "message" || record.fields.any fun (name, _) => name == field.name

end Directive

/-- The first directive that fits a record decides. -/
def Directives.admit (directives : Directives) (record : Record) : Bool :=
  match directives.records.find? fun directive => directive.fits record with
  | none => false
  | some directive => directive.threshold.admits record.level

def Directives.lines (directives : Directives) (records : List Record) : List String :=
  (records.filter directives.admit).map Record.line

end IssueQuery.Log
