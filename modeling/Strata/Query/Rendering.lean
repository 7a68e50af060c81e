import Strata.Text.Numeral
import Strata.Query.Stage

/-!
# Pipelines as documents

The documents that state a pipeline in the aggregation language of a document store. A conjunction
whose parts constrain distinct keys becomes one document; otherwise it is written out, so that no
part hides another.
-/

namespace Strata

/-- The key of a comparison. -/
def Comparison.key : Comparison → String
  | eq => "$eq"
  | ne => "$ne"
  | gt => "$gt"
  | gte => "$gte"
  | lt => "$lt"
  | lte => "$lte"

/-- Whether no element occurs twice. -/
def allDistinct : List String → Bool
  | [] => true
  | k :: rest => !rest.contains k && allDistinct rest

/-- The conjunction of documents: one document with all their entries, put in one after the other, or
the list of them where an entry would replace another one. -/
def mergeConditions (parts : List Document) : Document :=
  if allDistinct (parts.flatMap Document.keys) then Document.ofFields parts.flatten
  else [("$and", .array (parts.map .document))]

/-- The statement that a field equals a variable. -/
def correlationDocument (pair : String × String) : Value :=
  .document [("$eq", .array [.string ("$" ++ pair.1), .string ("$$" ++ pair.2)])]

namespace Predicate

mutual

/-- The document of a condition. -/
def toDocument : Predicate → Document
  | all parts => mergeConditions (partDocuments parts)
  | compare path op value => [(path, .document [(op.key, value)])]
  | oneOf path values => [(path, .document [("$in", .array values)])]
  | pattern path text ignoreCase =>
    [(path, .document
      (("$regex", .string text) :: if ignoreCase then [("$options", .string "i")] else []))]
  | correlate pairs =>
    match pairs with
    | [pair] => [("$expr", correlationDocument pair)]
    | pairs => [("$expr", .document [("$and", .array (pairs.map correlationDocument))])]

/-- The documents of parts. -/
def partDocuments : List Predicate → List Document
  | [] => []
  | p :: rest => toDocument p :: partDocuments rest

end

end Predicate

/-- The document of a direction. -/
def Direction.toValue : Direction → Value
  | asc => .int32 1
  | desc => .int32 (-1)

/-- The value of a projected field. -/
def Source.toValue : Source → Value
  | keep => .int32 1
  | path p => .string ("$" ++ p)

/-- A count as a signed number of 64 bits; a larger one is written as the largest. -/
def countValue (n : Nat) : Value := .int64 (Int64.ofInt (min (n : Int) (2 ^ 63 - 1)))

namespace Stage

mutual

/-- The document of a stage. -/
def toDocument : Stage → Document
  | filter p => [("$match", .document p.toDocument)]
  | sort keys =>
    [("$sort", .document (Document.ofFields (keys.map fun k => (k.field, k.direction.toValue))))]
  | limit n => [("$limit", countValue n)]
  | lookup level vars pipeline target =>
    [("$lookup", .document
      [("from", .string level.name),
       ("let", .document (Document.ofFields (vars.map fun v => (v.name, .string v.path)))),
       ("pipeline", .array (pipelineValues pipeline)),
       ("as", .string target)])]
  | unwind field =>
    [("$unwind", .document
      [("path", .string ("$" ++ field)), ("preserveNullAndEmptyArrays", .bool true)])]
  | project fields =>
    [("$project", .document (Document.ofFields (fields.map fun f => (f.name, f.source.toValue))))]

/-- The documents of a pipeline as values. -/
def pipelineValues : List Stage → List Value
  | [] => []
  | s :: rest => .document (toDocument s) :: pipelineValues rest

end

end Stage

/-- The documents of a pipeline. -/
def renderPipeline (stages : List Stage) : List Document := stages.map Stage.toDocument

end Strata
