import Scaffold.Artifact.Template
import Scaffold.Text.Lines

/-! Mapping documents: how the rows of a table become the fields of an entity, and the statements of
its data access interface. -/

namespace Scaffold.Artifact

open Scaffold.Entity (Field)
open Scaffold.Text

def tableName (e : Entity) : String :=
  ((e.table.map (·.name)).bind nonempty?).getD (Name.table e.baseName)

def enumHandler : String := "org.apache.ibatis.type.EnumOrdinalTypeHandler"

/-- One column of a table and the property that it fills. -/
structure MappingRow where
  column : String
  property : String
  isId : Bool
  isEnum : Bool
  deriving DecidableEq

namespace MappingRow

def ofField (isId : Bool) (f : Field) : MappingRow := ⟨f.column, f.name, isId, f.isEnum⟩

/-- The row as an element of the result map. -/
def element (r : MappingRow) : String :=
  "        <" ++ (if r.isId then "id" else "result") ++ " column=\"" ++ r.column
    ++ "\" property=\"" ++ r.property ++ "\""
    ++ (if r.isEnum then " typeHandler=\"" ++ enumHandler ++ "\"" else "") ++ "/>"

/-- The row as a value of an inserted item. -/
def value (r : MappingRow) : String :=
  "#\x7bitem." ++ r.property ++ (if r.isEnum then ", typeHandler=" ++ enumHandler else "") ++ "\x7d"

end MappingRow

/-- A mapping document before it is rendered. -/
structure Mapping where
  entity : Entity
  dao : Handle
  softDelete : Bool := false

namespace Mapping

/-- One row for each field, in order. The id is the field at the id's place, not one equal to it. -/
def rows (m : Mapping) : List MappingRow :=
  m.entity.allFields.mapIdx fun i f => MappingRow.ofField (m.entity.idIndex? == some i) f

/-- The rows that an insert fills: all but the id, which the database chooses. -/
def insertRows (m : Mapping) : List MappingRow := m.rows.filter (!·.isId)

def table (m : Mapping) : String := tableName m.entity

def idColumn (m : Mapping) : String := (m.entity.idField?.map (·.column)).getD "id"

def deletedColumn (m : Mapping) : String :=
  ((m.entity.findField? "deleted").map (·.column)).getD "deleted"

def notDeleted (m : Mapping) : String := "t1." ++ m.deletedColumn ++ " = 0"

def resultMap (m : Mapping) : List String :=
  ["    <resultMap id=\"resultMap\" type=\"" ++ m.entity.qualifiedName ++ "\">",
   unlines (m.rows.map (·.element)),
   "    </resultMap>"]

def columns (m : Mapping) : List String :=
  ["    <sql id=\"columns\">",
   ",\n".intercalate (m.rows.map fun r => "        t1." ++ r.column),
   "    </sql>"]

def tables (m : Mapping) : List String :=
  ["    <sql id=\"tables\">",
   "        from " ++ m.table ++ " t1",
   "    </sql>"]

def conditions (m : Mapping) : List String :=
  ["    <sql id=\"conditions\">",
   "        <where>",
   "            <if test=\"id != null\">",
   "                and t1." ++ m.idColumn ++ " = #\x7bid\x7d",
   "            </if>",
   "            <if test=\"idNot != null\">",
   "                and t1." ++ m.idColumn ++ " != #\x7bidNot\x7d",
   "            </if>",
   "            <if test=\"ids != null and ids.size() > 0\">",
   "                and t1." ++ m.idColumn ++ " in",
   "                <foreach collection=\"ids\" item=\"item\" open=\"(\" separator=\",\" close=\")\">",
   "                    #\x7bitem\x7d",
   "                </foreach>",
   "            </if>"]
    ++ (if m.softDelete then ["            and " ++ m.notDeleted] else [])
    ++ ["        </where>", "    </sql>"]

def baseSelect : List String :=
  ["    <sql id=\"baseSelect\">",
   "        select",
   "        <include refid=\"columns\"/>",
   "        <include refid=\"tables\"/>",
   "    </sql>"]

def selectQuery : List String :=
  ["    <select id=\"query\" resultMap=\"resultMap\">",
   "        <include refid=\"baseSelect\"/>",
   "        <include refid=\"conditions\"/>",
   "        <if test=\"orderBy != null and orderBy != ''\">",
   "            order by $\x7borderBy\x7d",
   "        </if>",
   "    </select>"]

def selectCount : List String :=
  ["    <select id=\"count\" resultType=\"long\">",
   "        select count(*)",
   "        <include refid=\"tables\"/>",
   "        <include refid=\"conditions\"/>",
   "    </select>"]

def selectAll (m : Mapping) : List String :=
  ["    <select id=\"findAll\" resultMap=\"resultMap\">",
   "        <include refid=\"baseSelect\"/>"]
    ++ (if m.softDelete then ["        where " ++ m.notDeleted] else [])
    ++ ["    </select>"]

def batchAdd (m : Mapping) : List String :=
  ["    <insert id=\"batchAdd\">",
   "        insert into " ++ m.table ++ " (" ++ ", ".intercalate (m.insertRows.map (·.column)) ++ ")",
   "        values",
   "        <foreach collection=\"list\" item=\"item\" separator=\",\">",
   "            (" ++ ", ".intercalate (m.insertRows.map (·.value)) ++ ")",
   "        </foreach>",
   "    </insert>"]

def header (m : Mapping) : List String :=
  ["<?xml version=\"1.0\" encoding=\"UTF-8\"?>",
   "<!DOCTYPE mapper PUBLIC \"-//mybatis.org//DTD Mapper 3.0//EN\" "
     ++ "\"http://mybatis.org/dtd/mybatis-3-mapper.dtd\">",
   "<mapper namespace=\"" ++ m.dao.qualifiedName ++ "\">"]

/-- The parts of the document, in order. -/
def sections (m : Mapping) : List (List String) :=
  [m.header ++ m.resultMap, m.columns, m.tables, m.conditions, baseSelect, selectQuery, selectCount,
   m.selectAll, m.batchAdd ++ ["</mapper>"]]

def text (m : Mapping) : String := "\n\n".intercalate (m.sections.map unlines) ++ "\n"

def template (m : Mapping) : Template where
  kind := .daoXml
  name := m.dao.name ++ ".xml"
  fileName := m.dao.name ++ ".xml"
  content := m.text

end Mapping

end Scaffold.Artifact
