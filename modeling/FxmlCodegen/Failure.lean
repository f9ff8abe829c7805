import FxmlCodegen.Markup.Fault

/-!
# Failures

Why a document could not be read or compiled. Each failure has a stable
code, a message for people, and the guarantee it violates.
-/

namespace FxmlCodegen

/-- What is wrong with a file. -/
inductive FileFault where
  | notDirectory
  | notUtf8
  deriving DecidableEq, Inhabited

def FileFault.message : FileFault → String
  | .notDirectory => "not a directory"
  | .notUtf8 => "stream did not contain valid UTF-8"

inductive Failure where
  /-- The root is absent or not an object. -/
  | missingRoot (document : String)
  | missingController (document : String)
  /-- There is no source file for the controller. -/
  | missingTarget (controller document : String)
  /-- No document of the batch is known under this source. -/
  | unresolvedInclude (source : String)
  | missingIdentifier (element : String)
  | unreadableMarkup (document : String) (fault : Markup.Fault)
  | unreadableFile (path : String) (fault : FileFault)
  deriving DecidableEq, Inhabited

namespace Failure

def code : Failure → String
  | .missingRoot _ => "FX-ERR-ROOT"
  | .missingController _ => "FX-ERR-CONTROLLER"
  | .missingTarget _ _ => "FX-ERR-UPDATE-TARGET"
  | .unresolvedInclude _ => "FX-ERR-INCLUDE"
  | .missingIdentifier _ => "FX-ERR-IDENTIFIER"
  | .unreadableMarkup _ _ => "FX-ERR-PARSE"
  | .unreadableFile _ _ => "FX-ERR-IO"

def message : Failure → String
  | .missingRoot document => "No root element found in " ++ document
  | .missingController document => "No fx:controller attribute in " ++ document
  | .missingTarget controller document =>
    "No updater found for qualified name: " ++ controller ++ " (document " ++ document ++ ")"
  | .unresolvedInclude source =>
    "Unresolved include source '" ++ source ++ "': no scanned document registers it"
  | .missingIdentifier element =>
    "Element <" ++ element ++ "> has no identifier; scan the document before lowering it"
  | .unreadableMarkup document fault => "Failed to parse " ++ document ++ ": " ++ fault.message
  | .unreadableFile path fault => "Failed to read " ++ path ++ ": " ++ fault.message

def guarantee : Failure → String
  | .missingRoot _ => "Every document has an instance declaration as its root element."
  | .missingController _ => "The root element of every document declares fx:controller."
  | .missingTarget _ _ => "Generated code is only attached to controllers the model knows about."
  | .unresolvedInclude _ => "Every fx:include source is a document of the same batch."
  | .missingIdentifier _ =>
    "Every declaration, include and property is scanned before it is generated."
  | .unreadableMarkup _ _ => "Documents are well-formed XML."
  | .unreadableFile _ _ => "Discovered documents are readable."

end Failure

end FxmlCodegen
