import ClusterHarness.Json.Basic

/-!
Validation of documents. A check answers with the value that it read or with every issue that it
found, in the order of the fields; an issue names its place in the document.
-/

namespace ClusterHarness.Validation

/-- Where a document comes from: built in memory, or read from its text. The two are told apart by the
wording of a few issues. -/
inductive Source where
  | value
  | text
  deriving DecidableEq, Repr

inductive Step where
  | name (t : Text)
  | position (n : Nat)
  deriving DecidableEq, Repr

/-- Refusals that belong to the meaning of the settings. -/
inductive Rule where
  | userMissing
  | hostMissing
  | negativeTimeout
  | poolNotPositive
  | poolTooSmall
  deriving DecidableEq, Repr

def Rule.message : Rule → Text
  | .userMissing => "user name is missing"
  | .hostMissing => "at least one host must be provided"
  | .negativeTimeout => "socket_timeout cannot be negative"
  | .poolNotPositive => "connection pool limits must be positive"
  | .poolTooSmall => "max_conn_per_route cannot exceed max_conn_total"

inductive Complaint where
  | missing
  | notText
  | notNumber
  | unreadableNumber
  | notInteger
  | unreadableInteger
  | fractionalInteger
  | oversizedInteger
  | infiniteInteger
  | notBoolean
  | unreadableBoolean
  | notList (source : Source)
  | notObject (source : Source)
  | notPath
  | otherWord (word : Text)
  | unknownTag (tag : Text)
  | noTag
  | notModel (model : Text) (source : Source)
  | noAttributes
  | malformedText
  /-- A text that holds a surrogate, where one is read. -/
  | notUnicode
  | rule (r : Rule)
  deriving DecidableEq, Repr

/-- The name of the kind of issue. -/
def Complaint.code : Complaint → Text
  | .missing => "missing"
  | .notText => "string_type"
  | .notNumber => "float_type"
  | .unreadableNumber => "float_parsing"
  | .notInteger => "int_type"
  | .unreadableInteger => "int_parsing"
  | .fractionalInteger => "int_from_float"
  | .oversizedInteger => "int_parsing_size"
  | .infiniteInteger => "finite_number"
  | .notBoolean => "bool_type"
  | .unreadableBoolean => "bool_parsing"
  | .notList _ => "list_type"
  | .notObject _ => "dict_type"
  | .notPath => "path_type"
  | .otherWord _ => "literal_error"
  | .unknownTag _ => "union_tag_invalid"
  | .noTag => "union_tag_not_found"
  | .notModel _ _ => "model_type"
  | .noAttributes => "model_attributes_type"
  | .malformedText => "json_invalid"
  | .notUnicode => "string_unicode"
  | .rule _ => "value_error"

def Complaint.message : Complaint → Text
  | .missing => "Field required"
  | .notText => "Input should be a valid string"
  | .notNumber => "Input should be a valid number"
  | .unreadableNumber => "Input should be a valid number, unable to parse string as a number"
  | .notInteger => "Input should be a valid integer"
  | .unreadableInteger => "Input should be a valid integer, unable to parse string as an integer"
  | .fractionalInteger => "Input should be a valid integer, got a number with a fractional part"
  | .oversizedInteger => "Unable to parse input string as an integer, exceeded maximum size"
  | .infiniteInteger => "Input should be a finite number"
  | .notBoolean => "Input should be a valid boolean"
  | .unreadableBoolean => "Input should be a valid boolean, unable to interpret input"
  | .notList .value => "Input should be a valid list"
  | .notList .text => "Input should be a valid array"
  | .notObject .value => "Input should be a valid dictionary"
  | .notObject .text => "Input should be an object"
  | .notPath => "Input is not a valid path for <class 'pathlib.Path'>"
  | .otherWord word => "Input should be '" ++ word ++ "'"
  | .unknownTag tag =>
    "Input tag '" ++ tag ++ "' found using 'mode' does not match any of the expected tags: "
      ++ "'plain', 'secured-keystore', 'secured-basic-auth'"
  | .noTag => "Unable to extract tag using discriminator 'mode'"
  | .notModel model .value => "Input should be a valid dictionary or instance of " ++ model
  | .notModel _ .text => "Input should be an object"
  | .noAttributes => "Input should be a valid dictionary or object to extract fields from"
  | .malformedText => "Invalid JSON"
  | .notUnicode => "Input should be a valid string, unable to parse raw data as a unicode string"
  | .rule r => "Value error, " ++ r.message

structure Issue where
  place : List Step
  complaint : Complaint
  deriving DecidableEq, Repr

end ClusterHarness.Validation

namespace ClusterHarness

/-- A value that passed, or all issues. -/
abbrev Validated (α : Type) := Except (List Validation.Issue) α

namespace Validated

open Validation

def refuse {α : Type} (c : Complaint) : Validated α := .error [⟨[], c⟩]

/-- Checks both and keeps the issues of both. -/
def both {α β : Type} (a : Validated α) (b : Validated β) : Validated (α × β) :=
  match a, b with
  | .ok x, .ok y => .ok (x, y)
  | .error is, .ok _ => .error is
  | .ok _, .error js => .error js
  | .error is, .error js => .error (is ++ js)

/-- Puts the issues of a part at its place in the whole. -/
def within {α : Type} (step : Step) (a : Validated α) : Validated α :=
  a.mapError fun is => is.map fun i => { i with place := step :: i.place }

/-- Checks every item, from the given position on. -/
def each {α : Type} (check : Json → Validated α) (position : Nat) : List Json → Validated (List α)
  | [] => .ok []
  | v :: vs =>
    (both (within (.position position) (check v)) (each check (position + 1) vs)).map fun (x, xs) => x :: xs

/-- Checks the value of every member. -/
def eachMember {α : Type} (check : Json → Validated α) : Fields Json → Validated (Fields α)
  | [] => .ok []
  | (k, v) :: fields =>
    (both (within (.name k) (check v)) (eachMember check fields)).map fun (x, xs) => (k, x) :: xs

/-- A field that must be there. -/
def required {α : Type} (fields : Fields Json) (name : Text) (check : Json → Validated α) : Validated α :=
  within (.name name) <| match fields.get? name with
    | some v => check v
    | none => refuse .missing

/-- A field with a value to take if it is not there. -/
def withDefault {α : Type} (fields : Fields Json) (name : Text) (default : α) (check : Json → Validated α) :
    Validated α :=
  match fields.get? name with
  | some v => within (.name name) (check v)
  | none => .ok default

end Validated

end ClusterHarness
