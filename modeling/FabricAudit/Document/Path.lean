import FabricAudit.Document.Basic
import FabricAudit.Text.Search

set_option autoImplicit false

/-! # Dotted paths

A path such as `services.tenant1.vni` names a place in a document: its components, separated by
dots, are the keys of nested objects. There is no way to write a key that holds a dot, and no way
into a list.
-/

namespace FabricAudit.Document

/-- The document at a dotted path. An absent value and an explicit null are the same: nothing. -/
def resolve (d : Document) (path : String) : Option Document :=
  match d.walk (Text.splitAt '.' path) with
  | some .null => none
  | found => found

end FabricAudit.Document
