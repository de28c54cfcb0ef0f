import TexCompletion.Server.Shapes

/-!
# Requests that are not performed

Requests of the protocol that the server knows but does nothing for.  Each is refused only after its
parameters were found to have their shape, so a client that sends wrong ones hears of it first.
-/

namespace TexCompletion.Server.Requests

open Json Shapes

/-! ## Families of parameters -/

/-- Parameters about a place in a document, under which the result may come in parts. -/
def atPlace (name : String) : Shape :=
  .sharing name [] [place, workDone, partialResult]

/-- Parameters about a place in a document, for a result that comes at once. -/
def atPlaceAtOnce (name : String) : Shape :=
  .sharing name [] [place, workDone]

/-- Parameters about a document, and `more` on it. -/
def inDocument (name : String) (more : List Shape.Field) : Shape :=
  .sharing name (.needed "textDocument" identifier :: more) [workDone, partialResult]

/-- Parameters about a document and more on it, for a result that comes at once. -/
def inDocumentAtOnce (name : String) (more : List Shape.Field) : Shape :=
  .sharing name (.needed "textDocument" identifier :: more) [workDone]

/-- Parameters about an item of a hierarchy. -/
def ofItem (name : String) (item : Shape) : Shape :=
  .sharing name [.needed "item" item] [workDone, partialResult]

/-- Parameters about files, each with some fields that are strings. -/
def ofFiles (name file : String) (fields : List String) : Shape :=
  .record name
    [.needed "files" (.array (.record file (fields.map fun field => .needed field .string)))]

/-! ## Methods -/

/-- Requests about a place in a document. -/
def ofPlaces : List (String × Shape) :=
  [("textDocument/declaration", atPlace "GotoDefinitionParams"),
   ("textDocument/definition", atPlace "GotoDefinitionParams"),
   ("textDocument/typeDefinition", atPlace "GotoDefinitionParams"),
   ("textDocument/implementation", atPlace "GotoDefinitionParams"),
   ("textDocument/references", .sharing "ReferenceParams"
    [.needed "context" (.record "ReferenceContext" [.needed "includeDeclaration" .bool])]
    [place, workDone, partialResult]),
   ("textDocument/documentHighlight", atPlace "DocumentHighlightParams"),
   ("textDocument/moniker", atPlace "MonikerParams"),
   ("textDocument/hover", atPlaceAtOnce "HoverParams"),
   ("textDocument/prepareCallHierarchy", atPlaceAtOnce "CallHierarchyPrepareParams"),
   ("textDocument/prepareTypeHierarchy", atPlaceAtOnce "TypeHierarchyPrepareParams"),
   ("textDocument/linkedEditingRange", atPlaceAtOnce "LinkedEditingRangeParams"),
   ("textDocument/signatureHelp", .sharing "SignatureHelpParams"
    [.maybe "context" signatureContext] [place, workDone]),
   ("textDocument/prepareRename", place),
   ("textDocument/rename", .sharing "RenameParams" [.needed "newName" .string]
    [place, workDone]),
   ("textDocument/onTypeFormatting", .sharing "DocumentOnTypeFormattingParams"
    [.needed "ch" .string, .needed "options" formatting] [place])]

/-- Requests about a document. -/
def ofDocuments : List (String × Shape) :=
  [("textDocument/documentLink", inDocument "DocumentLinkParams" []),
   ("textDocument/codeLens", inDocument "CodeLensParams" []),
   ("textDocument/foldingRange", inDocument "FoldingRangeParams" []),
   ("textDocument/documentSymbol", inDocument "DocumentSymbolParams" []),
   ("textDocument/documentColor", inDocument "DocumentColorParams" []),
   ("textDocument/selectionRange", inDocument "SelectionRangeParams"
    [.needed "positions" (.array position)]),
   ("textDocument/semanticTokens/full", inDocument "SemanticTokensParams" []),
   ("textDocument/semanticTokens/full/delta", inDocument "SemanticTokensDeltaParams"
    [.needed "previousResultId" .string]),
   ("textDocument/semanticTokens/range", inDocument "SemanticTokensRangeParams"
    [.needed "range" range]),
   ("textDocument/inlineValue", inDocumentAtOnce "InlineValueParams"
    [.needed "range" range, .needed "context" (.record "InlineValueContext"
      [.needed "frameId" .int32, .needed "stoppedLocation" range])]),
   ("textDocument/inlayHint", inDocumentAtOnce "InlayHintParams" [.needed "range" range]),
   ("textDocument/codeAction", inDocument "CodeActionParams"
    [.needed "range" range, .needed "context" actionContext]),
   ("textDocument/colorPresentation", inDocument "ColorPresentationParams"
    [.needed "color" color, .needed "range" range]),
   ("textDocument/formatting", inDocumentAtOnce "DocumentFormattingParams"
    [.needed "options" formatting]),
   ("textDocument/rangeFormatting", inDocumentAtOnce "DocumentRangeFormattingParams"
    [.needed "range" range, .needed "options" formatting]),
   ("textDocument/willSaveWaitUntil", .record "WillSaveTextDocumentParams"
    [.needed "textDocument" identifier, .needed "reason" .int32])]

/-- Requests about something that an earlier result named. -/
def ofResults : List (String × Shape) :=
  [("callHierarchy/incomingCalls", ofItem "CallHierarchyIncomingCallsParams" callItem),
   ("callHierarchy/outgoingCalls", ofItem "CallHierarchyOutgoingCallsParams" callItem),
   ("typeHierarchy/supertypes", ofItem "TypeHierarchySupertypesParams" typeItem),
   ("typeHierarchy/subtypes", ofItem "TypeHierarchySubtypesParams" typeItem),
   ("documentLink/resolve", documentLink),
   ("codeLens/resolve", codeLens),
   ("inlayHint/resolve", inlayHint),
   ("completionItem/resolve", completionItem),
   ("codeAction/resolve", codeAction),
   ("workspaceSymbol/resolve", symbol)]

/-- Requests about the workspace. -/
def ofWorkspaces : List (String × Shape) :=
  [("workspace/symbol", .sharing "WorkspaceSymbolParams" [.needed "query" .string]
    [partialResult, workDone]),
   ("workspace/willCreateFiles", ofFiles "CreateFilesParams" "FileCreate" ["uri"]),
   ("workspace/willRenameFiles", ofFiles "RenameFilesParams" "FileRename" ["oldUri", "newUri"]),
   ("workspace/willDeleteFiles", ofFiles "DeleteFilesParams" "FileDelete" ["uri"]),
   ("workspace/executeCommand", .sharing "ExecuteCommandParams"
    [.needed "command" .string, .defaulted "arguments" (.array .any)] [workDone])]

/-- The shape of the parameters of a request that is known by name but not performed. -/
def shape? (method : String) : Option Shape :=
  (ofPlaces ++ ofDocuments ++ ofResults ++ ofWorkspaces).lookup method

end TexCompletion.Server.Requests
