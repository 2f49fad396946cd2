import Scaffold.Artifact.Constraint
import Scaffold.Artifact.Imports
import Scaffold.Artifact.Members
import Scaffold.Settings

/-! Data transfer classes: the main one and, with super classes, one to add and one to update. -/

namespace Scaffold.Artifact

open Scaffold.Entity (Field)

/-- The class that data transfer classes extend where a project has it. -/
def baseDtoName : String := "AbstractBaseDTO"

def technicalFields : List String := ["deleted"]

def auditFields : List String :=
  ["createTime", "updateTime", "createBy", "updateBy", "createUser", "updateUser", "deleted",
   "version"]

/-- The fields a data transfer class carries. A base class holds the inherited ones already. -/
def dtoFields (e : Entity) (base : Option Handle) : List Field :=
  (if base.isSome then e.fields else e.allFields).filter fun f => !technicalFields.contains f.name

def excelProperty : String := "com.alibaba.excel.annotation.ExcelProperty"

def excelIgnore : String := "com.alibaba.excel.annotation.ExcelIgnore"

/-- A data transfer class before it is rendered. -/
structure Dto where
  name : String
  kind : ArtifactKind
  fields : List Field
  excel : Bool := false
  base : Option Handle := none

namespace Dto

/-- The marks above a field, each with the import it needs. -/
def fieldMarks (d : Dto) (f : Field) : List (String × String) :=
  (constraints f).map (fun c => (c.text, c.importName))
    ++ if !d.excel then []
       else if f.isId then [("@ExcelIgnore", excelIgnore)]
       else [("@ExcelProperty(\"" ++ stringLiteral f.title ++ "\")", excelProperty)]

def fieldImports (d : Dto) (f : Field) : List String :=
  typeImports f ++ (d.fieldMarks f).map (·.2)

def imports (d : Dto) : List String :=
  d.fields.flatMap d.fieldImports ++ (d.base.map (·.qualifiedName)).toList

def member (f : Field) : Member := ⟨f.wrapperType, f.name⟩

def declaration (d : Dto) (f : Field) : String :=
  Text.unlines (((d.fieldMarks f).map (·.1) ++ ["private " ++ (member f).declared ++ ";"]).map
    ("    " ++ ·))

def heritage (d : Dto) : String :=
  match d.base with
  | some b => " extends " ++ b.name
  | none => ""

def body (d : Dto) : String :=
  let parts := [paragraphs (d.fields.map d.declaration), accessors d.name (d.fields.map member)]
  "public class " ++ d.name ++ d.heritage ++ " \x7b\n"
    ++ paragraphs (parts.filter (!·.isEmpty)) ++ "\n\x7d\n"

def template (d : Dto) (package : String) : Template :=
  javaTemplate d.kind d.name package d.imports d.body

end Dto

def editableFields (fs : List Field) : List Field :=
  fs.filter fun f => !auditFields.contains f.name

/-- The data transfer classes of an entity, in the order in which they are placed. -/
def dtos (e : Entity) (s : Settings) (base : Option Handle) : List Dto :=
  let fields := dtoFields e base
  { name := e.baseName ++ "DTO", kind := .dto, fields, excel := s.excel, base }
    :: if s.withSuper then
        [{ name := e.baseName ++ "AddDTO", kind := .dtoAdd,
           fields := (editableFields fields).filter (!·.isId) },
         { name := e.baseName ++ "UpdateDTO", kind := .dtoUpdate, fields := editableFields fields }]
      else []

def dtoTemplates (e : Entity) (s : Settings) (package : String) (base : Option Handle) :
    List Template :=
  (dtos e s base).map (·.template package)

end Scaffold.Artifact
