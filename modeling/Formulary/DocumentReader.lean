import Formulary.Datum
/-!
# Readers of documents

The settings of a project are a YAML document. What value a document has is the business of a reader,
which the rest of the library takes as given: all it relies on is that the value is made of finitely many
scalars, lists, tuples, sets and maps, so that no collection holds itself.
-/

set_option autoImplicit false
namespace Formulary

/-- Why a reader gives no value. -/
inductive DocumentError where
  /-- The document is not well formed, in the words of the reader. -/
  | malformed (message : String)
  /-- A part of a well-formed document has the form of a value that does not exist, such as a day that
  no month has. The reader ends with the error of this name. -/
  | raised (name : String)
  deriving DecidableEq, Repr

/-- The value of a document; one with nothing in it is null. -/
abbrev DocumentReader := String → Except DocumentError Datum

end Formulary
