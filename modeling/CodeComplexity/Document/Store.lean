import CodeComplexity.Keyed
import CodeComplexity.Text.CodePoint

/-!
# Open documents

The documents that are open, by identifier, with their latest text.  A document's version is one
when it is opened and grows by one with every change of its text.
-/

namespace CodeComplexity

/-- The identifier of a document. -/
abbrev Uri := Text.LooseText

/-- An open document. -/
structure Document where
  text : Text.LooseText
  version : Nat
  deriving DecidableEq, Repr

/-- The open documents. -/
abbrev Documents := Keyed Document Uri

namespace Documents

/-- Open a document, or open it again from scratch. -/
def openWith (documents : Documents) (uri : Uri) (text : Text.LooseText) : Documents :=
  Keyed.set uri ⟨text, 1⟩ documents

/-- The document with a new text. -/
def revised (document : Document) (text : Text.LooseText) : Document :=
  ⟨text, document.version + 1⟩

/-- Replace an open document's text; there has to be one. -/
def update? (documents : Documents) (uri : Uri) (text : Text.LooseText) : Option Documents :=
  (Keyed.get? documents uri).map fun document => Keyed.set uri (revised document text) documents

def close (documents : Documents) (uri : Uri) : Documents :=
  Keyed.erase uri documents

end Documents

end CodeComplexity
