/-!
# Spans

A span is one run of an operation on a subject, an item or a piece of work. Spans are
nested as the operations are: each is opened within the span of the operation that runs
at that time.

As in what is printed, spans are told apart by what they are about and have no number of
their own. Which one of several equal spans a line is in follows from where it stands.
-/

namespace ContentBatch

/-- What an operation works on. -/
inductive Subject where
  | item (path : String)
  | work (name : String)
  deriving DecidableEq, Repr

/-- One run of an operation. -/
structure Span where
  operation : String
  subject : Subject
  deriving DecidableEq, Repr

/-- The span around a step, if there is one. -/
abbrev Scope := Option Span

/-- The label of an operation on an item. -/
def itemLabel (operation path : String) : String :=
  operation ++ "-" ++ path

namespace Span

/-- The span of an operation on an item. -/
def onItem (operation path : String) : Span := ⟨operation, .item path⟩

/-- The span of an operation on a piece of work that has no item. -/
def onWork (operation name : String) : Span := ⟨operation, .work name⟩

/-- The label of a span: the operation, together with the path if it works on an
item. -/
def label (span : Span) : String :=
  match span.subject with
  | .item path => itemLabel span.operation path
  | .work _ => span.operation

/-- What a span tells about itself. -/
def fields (span : Span) : List (String × String) :=
  [("label", span.label), ("operation", span.operation),
    match span.subject with
    | .item path => ("path", path)
    | .work name => ("work", name)]

end Span

namespace Operation

/-- Replicating an item is named by the kind of replication. The other operations have
names of their own. -/
def removeRenditions : String := "removeRenditions"

/-- Running an action for every rendition. -/
def withAllRenditions : String := "withAllRenditions"

/-- Running a workflow. -/
def startWorkflow : String := "synWf"

/-- Trying several times. -/
def retry : String := "retry"

/-- Keeping only assets. -/
def filterNonAssets : String := "filterNonAssets"

/-- Keeping only assets with outdated renditions. -/
def filterOutdated : String := "filterAssetsWithOutdatedRenditions"

end Operation

end ContentBatch
