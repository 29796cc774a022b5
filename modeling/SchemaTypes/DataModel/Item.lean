import SchemaTypes.Text.Lines
import SchemaTypes.Text.Quoted

/-!
The items of a generated data model and their source text: records with one public field a line,
unions with one numbered variant an arm, and aliases.
-/
namespace SchemaTypes.DataModel

/-- A type as it is written in a field, a variant or an alias. -/
inductive TypeExpr where
  | text
  | number
  | named (name : String)
  | list (item : TypeExpr)
  | orderedSet (item : TypeExpr)
  | optional (inner : TypeExpr)
  deriving DecidableEq, Repr, Inhabited

def TypeExpr.source : TypeExpr → String
  | .text => "String"
  | .number => "f64"
  | .named name => name
  | .list item => "Vec<" ++ item.source ++ ">"
  | .orderedSet item => "BTreeSet<" ++ item.source ++ ">"
  | .optional inner => "Option<" ++ inner.source ++ ">"

/-- What the comment on a field says about its leaf. -/
inductive LeafNote where
  | uri
  | literal (value : String)
  deriving DecidableEq, Repr

structure FieldItem where
  ident : String
  type : TypeExpr
  title : Option String
  description : Option String
  note : Option LeafNote
  minLength : Option Nat
  maxLength : Option Nat
  /-- The name on the wire, when it is not the identifier. -/
  rename : Option String
  /-- The field may be absent on the wire. -/
  optional : Bool
  deriving Repr

inductive Item where
  | record (name : String) (title description : Option String) (fields : List FieldItem)
  | union (name : String) (arms : List TypeExpr)
  | alias (name : String) (type : TypeExpr)
  deriving Repr

def Item.name : Item → String
  | .record name _ _ _ => name
  | .union name _ => name
  | .alias name _ => name

def line (s : String) : String := s ++ "\n"

def commentLine (indent text : String) : String := line (indent ++ "/// " ++ text)

/-- One comment line for each line of the text. -/
def comment (indent : String) : Option String → String
  | none => ""
  | some text => String.join ((Text.lines text).map (commentLine indent))

def fieldIndent : String := "    "

def LeafNote.text : LeafNote → String
  | .uri => "format: iri"
  | .literal value => "const: " ++ Text.quote value

/-- A comment line for a value that is there. -/
def noteLine (label : String) : Option String → String
  | none => ""
  | some text => commentLine fieldIndent (label ++ text)

namespace FieldItem

def renameLine (field : FieldItem) : String :=
  match field.rename with
  | none => ""
  | some name => line (fieldIndent ++ "#[serde(rename = " ++ Text.quote name ++ ")]")

def optionalLine (field : FieldItem) : String :=
  if field.optional then
    line (fieldIndent ++ "#[serde(default, skip_serializing_if = \"Option::is_none\")]")
  else ""

def source (field : FieldItem) : String :=
  comment fieldIndent field.title ++ comment fieldIndent field.description
    ++ noteLine "" (field.note.map LeafNote.text)
    ++ noteLine "minLength: " (field.minLength.map toString)
    ++ noteLine "maxLength: " (field.maxLength.map toString)
    ++ field.renameLine ++ field.optionalLine
    ++ line (fieldIndent ++ "pub " ++ field.ident ++ ": " ++ field.type.source ++ ",")

end FieldItem

def derives : String := "#[derive(Debug, Clone, PartialEq, Serialize, Deserialize)]"

/-- The arms of a union, numbered from `index` on. -/
def armsSource (index : Nat) : List TypeExpr → String
  | [] => ""
  | arm :: rest =>
    line (fieldIndent ++ "V" ++ toString index ++ "(" ++ arm.source ++ "),")
      ++ armsSource (index + 1) rest

/-- An empty comment line between a title and a description. -/
def commentGap (title description : Option String) : String :=
  if title.isSome && description.isSome then line "///" else ""

def Item.source : Item → String
  | .record name title description fields =>
    line "" ++ comment "" title ++ commentGap title description ++ comment "" description
      ++ line derives ++ line ("pub struct " ++ name ++ " \x7b")
      ++ String.join (fields.map FieldItem.source) ++ line "\x7d"
  | .union name arms =>
    line "" ++ line derives ++ line "#[serde(untagged)]" ++ line ("pub enum " ++ name ++ " \x7b")
      ++ armsSource 0 arms ++ line "\x7d"
  | .alias name type => line "" ++ line ("pub type " ++ name ++ " = " ++ type.source ++ ";")

/-- The text before the first item. -/
def header : String :=
  line "// Generated by json-model. Do not edit." ++
  line "#![allow(dead_code, unused_imports)]" ++
  line "" ++
  line "use serde::\x7bDeserialize, Serialize\x7d;" ++
  line "use std::collections::BTreeSet;"

end SchemaTypes.DataModel
