import PlcLint.Inheritance

/-!
Parsed code: function blocks with their methods and properties, functions, data types, global
variables and interfaces.
-/

namespace PlcLint

structure Code where
  functions : Table Function := {}
  blocks : Table FunctionBlock := {}
  dataTypes : Table DataType := {}
  globals : Table (Table Declaration) := {}
  interfaces : List String := []
  inheritance : Inheritance := .byName

namespace Code

/-- A function block with what it inherits in this code. -/
def complete (code : Code) (block : FunctionBlock) : FunctionBlock :=
  code.inheritance.block code.blocks block

/-- A data type with what it inherits in this code. -/
def completeType (code : Code) (type : DataType) : DataType :=
  code.inheritance.type code.dataTypes type

/-- Code put together from two parts. -/
def append (first second : Code) : Code where
  functions := first.functions.update second.functions
  blocks := first.blocks.update second.blocks
  dataTypes := first.dataTypes.update second.dataTypes
  globals := first.globals.update second.globals
  interfaces := first.interfaces ++ second.interfaces
  inheritance := first.inheritance

/-- Code put together from its parts; how it inherits is not up to them. -/
def concat (parts : List Code) (inheritance : Inheritance := .byName) : Code :=
  parts.foldl append { inheritance := inheritance }

end Code

end PlcLint
