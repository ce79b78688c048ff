import Specimen.Pointer

/-!
# Specimen.Schema.Error

Why a schema cannot be used or gives no value. Every error ends the operation that raised
it.
-/

namespace Specimen

/-- What is wrong with a schema, or with a run over it. -/
inductive SchemaError where
  /-- A reference leads to no position of the document. -/
  | unresolvedReference (reference : String) (pointer : Pointer)
  /-- A reference leads out of the document. -/
  | unsupportedReference (reference : String)
  /-- No value meets the constraints. -/
  | unsatisfiable (pointer : Pointer) (reason : String)
  /-- More values were needed than the node budget allows. -/
  | budgetExceeded (limit : Nat)
  /-- A keyword has a value of the wrong form. -/
  | invalidSchema (pointer : Pointer) (reason : String)
  deriving DecidableEq

namespace SchemaError

/-- The stable name of the sort of error. -/
def kind : SchemaError → String
  | .unresolvedReference _ _ => "unresolved_reference"
  | .unsupportedReference _ => "unsupported_reference"
  | .unsatisfiable _ _ => "unsatisfiable"
  | .budgetExceeded _ => "budget_exceeded"
  | .invalidSchema _ _ => "invalid_schema"

/-- The sentence that reports the error. -/
def message : SchemaError → String
  | .unresolvedReference reference pointer =>
    s!"unresolved reference '{reference}' at {pointer}"
  | .unsupportedReference reference => s!"unsupported reference: {reference}"
  | .unsatisfiable pointer reason => s!"unsatisfiable schema at {pointer}: {reason}"
  | .budgetExceeded limit => s!"generation budget of {limit} nodes exceeded"
  | .invalidSchema pointer reason => s!"invalid schema at {pointer}: {reason}"

end SchemaError

namespace Pointer

/-- Reads a pointer; a text that is none is reported as a reference from the root. -/
def parse (text : String) : Except SchemaError Pointer :=
  match parse? text with
  | some pointer => .ok pointer
  | none => .error (.unresolvedReference text .root)

/-- Reads a URI fragment. A fragment that does not decode is reported as it stands, one that
decodes to no pointer in its decoded form. -/
def ofFragment (fragment : String) : Except SchemaError Pointer :=
  match percentDecode? fragment with
  | some text => parse text
  | none => .error (.unresolvedReference ("#" ++ fragment) .root)

end Pointer

end Specimen
