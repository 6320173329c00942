import PlcLint.Reading.Syntax

/-!
Declarations and code objects read from JSON.
-/

namespace PlcLint.Reading

def declaration (json : Json) : Read Declaration :=
  return {
    name := ← stringField json "name"
    type := ← stringField json "type"
    block := ← stringField json "block"
    init := stringField? json "init"
    location := stringField? json "location"
    span := span? json }

/-- A list of declarations as a table under their names. -/
def declarations (items : List Json) : Read (Table Declaration) := do
  let read ← items.mapM declaration
  return Table.ofList (read.map fun declaration => (declaration.name, declaration))

def routine (kind : RoutineKind) (json : Json) : Read Routine :=
  return {
    name := (stringField? json "name").getD ""
    kind := kind
    returnType := stringField? json "return_type"
    access := (json.get? "access").bind Json.int?
    declarations := ← declarations (arrayField json "declarations")
    body := ← bodyOf (json.get? "body")
    bodySource := stringField? json "body_source"
    source := stringField? json "source"
    filename := stringField? json "filename" }

def property (json : Json) : Read Property :=
  return {
    name := ← stringField json "name"
    filename := stringField? json "filename"
    getter := ← routine .accessor (← field json "getter")
    setter := ← routine .accessor (← field json "setter") }

def functionBlock (json : Json) : Read FunctionBlock :=
  return {
    name := ← stringField json "name"
    access := (json.get? "access").bind Json.int?
    bases := ((json.get? "extends").bind Json.array?).map fun names =>
      names.filterMap Json.string?
    declarations := ← declarations (arrayField json "declarations")
    methods := ← (arrayField json "methods").mapM (routine .method)
    properties := ← (arrayField json "properties").mapM property
    body := ← bodyOf (json.get? "body")
    bodySource := stringField? json "body_source"
    source := stringField? json "source"
    filename := stringField? json "filename" }

def dataKind (json : Json) : DataKind :=
  match stringField? json "kind" with
  | some "enum" => .enumeration ((arrayField json "values").filterMap Json.string?)
  | some "struct" => .record
  | _ => .other

def dataType (json : Json) : Read DataType :=
  return {
    name := ← stringField json "name"
    kind := dataKind json
    declarations := ← declarations (arrayField json "declarations")
    base := stringField? json "extends" }

def function (json : Json) : Read Function :=
  return {
    name := ← stringField json "name"
    returnType := stringField? json "return_type" }

def globalList (json : Json) : Read (String × Table Declaration) :=
  return (← stringField json "name", ← declarations (arrayField json "declarations"))

def code (json : Json) : Read Code := do
  let functions ← (arrayField json "functions").mapM function
  let blocks ← (arrayField json "function_blocks").mapM functionBlock
  let dataTypes ← (arrayField json "data_types").mapM dataType
  let globals ← (arrayField json "globals").mapM globalList
  return {
    functions := Table.ofList (functions.map fun function => (function.name, function))
    blocks := Table.ofList (blocks.map fun block => (block.name, block))
    dataTypes := Table.ofList (dataTypes.map fun type => (type.name, type))
    globals := Table.ofList globals
    interfaces := (arrayField json "interfaces").filterMap Json.string? }

/-- A reading on its own, with serial numbers from zero. -/
def run {α : Type} (reading : Read α) : Except Fault α := (reading.run 0).map Prod.fst

end PlcLint.Reading
