import SchemaTypes.Schema.Position
import SchemaTypes.Ty.Basic

/-!
What a compilation did, event by event, and the log lines for those events that are shown.
-/
namespace SchemaTypes

/-- What a node says and its type does not carry: a keyword, or a bound on numbers. -/
inductive Remark where
  | keyword (name : String)
  | bound (name : String)

inductive Event where
  /-- A node is about to be compiled. -/
  | visited (position : Position) (node : Json)
  /-- A node was compiled. -/
  | compiled (position : Position) (node : Json) (ty : Ty)
  | resolving (reference : String) (position : Position)
  /-- A name was asked for and found in the block of a number, with this type in the end. -/
  | resolved (block : Nat) (name : String) (ty : Ty)
  | harvesting (count : Nat) (position : Position)
  | ignored (remark : Remark) (position : Position)
  /-- A document is about to be loaded. -/
  | opening (location : Location) (shown : Bool)

inductive Level where
  | trace
  | debug
  | info
  deriving DecidableEq, Repr

def Level.text : Level → String
  | .trace => "TRACE"
  | .debug => "DEBUG"
  | .info => "INFO"

structure LogLine where
  level : Level
  message : String
  fields : Members

def Remark.line (position : Position) : Remark → LogLine
  | .keyword name => ⟨.debug, "keyword is not compiled",
      [("keyword", .str name), ("at", .str position.text)]⟩
  | .bound name => ⟨.debug, "numeric bound is not carried",
      [("keyword", .str name), ("at", .str position.text)]⟩

namespace Event

def log? : Event → Option LogLine
  | .visited position (.obj _) =>
    some ⟨.trace, "compiling node", [("at", .str position.text)]⟩
  | .visited _ _ => none
  | .compiled .. => none
  | .resolving reference position => some ⟨.debug, "resolving reference",
      [("reference", .str reference), ("at", .str position.text)]⟩
  | .resolved .. => none
  | .harvesting count position => some ⟨.debug, "harvesting definitions",
      [("count", .ofNat count), ("at", .str position.text)]⟩
  | .ignored remark position => some (remark.line position)
  | .opening location shown =>
    if shown then
      some ⟨.info, "loading schema document", [("location", .str location.text)]⟩
    else none

def opened? : Event → Option Location
  | .opening location _ => some location
  | _ => none

end Event

end SchemaTypes
