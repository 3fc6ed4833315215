import PayFormula.Value.Basic

/-!
# Complaints about a Request

What is wrong with a request is told in the shape of the request: messages stand under the field,
the key or the place that they are about.  A form is checked completely, so that all its faulty
fields are told at once.
-/

namespace PayFormula

inductive Complaint where
  | messages (texts : List String)
  | parts (complaints : List (String × Complaint))
  deriving Repr

/-- A checked part of a request. -/
abbrev Checked (α : Type) := Except Complaint α

namespace Complaint

mutual

def toValue : Complaint → Value
  | messages texts => .list (texts.map .text)
  | parts complaints => .map (partValues complaints)

def partValues : List (String × Complaint) → List (Value × Value)
  | [] => []
  | (name, complaint) :: rest => (.text name, toValue complaint) :: partValues rest

end

/-- A single message. -/
def of (text : String) : Complaint := messages [text]

/-- The key for a message about a form or a list as a whole. -/
def wholeKey : String := "non_field_errors"

/-- A message about a form or a list as a whole. -/
def ofWhole (text : String) : Complaint := parts [(wholeKey, of text)]

/-- What a check complains about under a name, if it does. -/
def part? {α : Type} (name : String) : Checked α → Option (String × Complaint)
  | .ok _ => none
  | .error complaint => some (name, complaint)

/-- Pass a result on unless there is something to complain about. -/
def settle {α : Type} (complaints : List (String × Complaint)) (result : α) : Checked α :=
  if complaints.isEmpty then .ok result else .error (parts complaints)

end Complaint

end PayFormula
