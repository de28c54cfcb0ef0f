import TexCompletion.Json.Shape

/-!
# What a client can do

At the beginning of a session a client tells what it can do.  The server makes no use of it, but it
does not begin a session with a client whose description is malformed.
-/

namespace TexCompletion.Server.Client

open Json Shape.Field

/-! ## Parts -/

/-- Fields that are booleans, all of which may be missing. -/
def flags (names : List String) : List Shape.Field :=
  names.map fun name => maybe name .bool

/-- A capability that can be registered later. -/
def dynamic : Shape :=
  .record "DynamicRegistrationClientCapabilities" (flags ["dynamicRegistration"])

/-- A capability that can be refreshed, under the given name. -/
def refreshing (name : String) : Shape :=
  .record name (flags ["refreshSupport"])

/-- The properties that a client can ask for later, under the given name. -/
def resolving (name : String) : Shape :=
  .record name [needed "properties" (.array .string)]

/-- The tags that a client knows.  Once it was only told whether it knows any. -/
def tags : Shape
  | .bool _ => .ok ()
  | v => Shape.record "TagSupport" [needed "valueSet" (.array .int32)] v

/-- The kinds of symbols that a client knows. -/
def symbolKinds : Shape :=
  .record "SymbolKindCapability" [maybe "valueSet" (.array .int32)]

/-- The kinds of text with markup. -/
def markupKinds : Shape :=
  .array (.words ["plaintext", "markdown"])

/-- Where links to places may carry more than the place. -/
def goto : Shape :=
  .record "GotoCapability" (flags ["dynamicRegistration", "linkSupport"])

/-- A field for tags, which counts as missing if it is `null`. -/
def tagField : Shape.Field :=
  defaulted "tagSupport" (.optional tags)

/-! ## The workspace -/

/-- Edits of several documents. -/
def workspaceEdit : Shape :=
  .record "WorkspaceEditClientCapabilities"
    [maybe "documentChanges" .bool,
     maybe "resourceOperations" (.array (.words ["create", "rename", "delete"])),
     maybe "failureHandling"
      (.words ["abort", "transactional", "textOnlyTransactional", "undo"]),
     maybe "normalizesLineEndings" .bool,
     maybe "changeAnnotationSupport"
      (.record "ChangeAnnotationWorkspaceEditClientCapabilities" (flags ["groupsOnLabel"]))]

/-- What a client can do for the workspace. -/
def workspace : Shape :=
  .record "WorkspaceClientCapabilities"
    [maybe "applyEdit" .bool,
     maybe "workspaceEdit" workspaceEdit,
     maybe "didChangeConfiguration" dynamic,
     maybe "didChangeWatchedFiles" (.record "DidChangeWatchedFilesClientCapabilities"
      (flags ["dynamicRegistration", "relativePatternSupport"])),
     maybe "symbol" (.record "WorkspaceSymbolClientCapabilities"
      [maybe "dynamicRegistration" .bool,
       maybe "symbolKind" symbolKinds,
       tagField,
       maybe "resolveSupport" (resolving "WorkspaceSymbolResolveSupportCapability")]),
     maybe "executeCommand" dynamic,
     maybe "workspaceFolders" .bool,
     maybe "configuration" .bool,
     maybe "semanticTokens" (refreshing "SemanticTokensWorkspaceClientCapabilities"),
     maybe "codeLens" (refreshing "CodeLensWorkspaceClientCapabilities"),
     maybe "fileOperations" (.record "WorkspaceFileOperationsClientCapabilities"
      (flags ["dynamicRegistration", "didCreate", "willCreate", "didRename", "willRename",
        "didDelete", "willDelete"])),
     maybe "inlineValue" (refreshing "InlineValueWorkspaceClientCapabilities"),
     maybe "inlayHint" (refreshing "InlayHintWorkspaceClientCapabilities"),
     maybe "diagnostic" (refreshing "DiagnosticWorkspaceClientCapabilities")]

/-! ## Documents -/

/-- The parts of a completion that a client understands. -/
def completionItem : Shape :=
  .record "CompletionItemCapability"
    [maybe "snippetSupport" .bool,
     maybe "commitCharactersSupport" .bool,
     maybe "documentationFormat" markupKinds,
     maybe "deprecatedSupport" .bool,
     maybe "preselectSupport" .bool,
     tagField,
     maybe "insertReplaceSupport" .bool,
     maybe "resolveSupport" (resolving "CompletionItemCapabilityResolveSupport"),
     maybe "insertTextModeSupport" (.record "InsertTextModeSupport"
      [needed "valueSet" (.array .int32)]),
     maybe "labelDetailsSupport" .bool]

/-- Completion. -/
def completion : Shape :=
  .record "CompletionClientCapabilities"
    [maybe "dynamicRegistration" .bool,
     maybe "completionItem" completionItem,
     maybe "completionItemKind" (.record "CompletionItemKindCapability"
      [maybe "valueSet" (.array .int32)]),
     maybe "contextSupport" .bool,
     maybe "insertTextMode" .int32,
     maybe "completionList" (.record "CompletionListCapability"
      [maybe "itemDefaults" (.array .string)])]

/-- Signatures. -/
def signatureHelp : Shape :=
  .record "SignatureHelpClientCapabilities"
    [maybe "dynamicRegistration" .bool,
     maybe "signatureInformation" (.record "SignatureInformationSettings"
      [maybe "documentationFormat" markupKinds,
       maybe "parameterInformation" (.record "ParameterInformationSettings"
        (flags ["labelOffsetSupport"])),
       maybe "activeParameterSupport" .bool]),
     maybe "contextSupport" .bool]

/-- Actions. -/
def codeAction : Shape :=
  .record "CodeActionClientCapabilities"
    [maybe "dynamicRegistration" .bool,
     maybe "codeActionLiteralSupport" (.record "CodeActionLiteralSupport"
      [needed "codeActionKind" (.record "CodeActionKindLiteralSupport"
        [needed "valueSet" (.array .string)])]),
     maybe "isPreferredSupport" .bool,
     maybe "disabledSupport" .bool,
     maybe "dataSupport" .bool,
     maybe "resolveSupport" (resolving "CodeActionCapabilityResolveSupport"),
     maybe "honorsChangeAnnotations" .bool]

/-- Foldable ranges. -/
def foldingRange : Shape :=
  .record "FoldingRangeClientCapabilities"
    [maybe "dynamicRegistration" .bool,
     maybe "rangeLimit" .nat32,
     maybe "lineFoldingOnly" .bool,
     maybe "foldingRangeKind" (.record "FoldingRangeKindCapability"
      [maybe "valueSet" (.array (.words ["comment", "imports", "region"]))]),
     maybe "foldingRange" (.record "FoldingRangeCapability" (flags ["collapsedText"]))]

/-- Tokens with a meaning. -/
def semanticTokens : Shape :=
  .record "SemanticTokensClientCapabilities"
    [maybe "dynamicRegistration" .bool,
     needed "requests" (.record "SemanticTokensClientCapabilitiesRequests"
      [maybe "range" .bool,
       maybe "full" (.oneOf "SemanticTokensFullOptions"
        [.bool, .record "Delta" (flags ["delta"])])]),
     needed "tokenTypes" (.array .string),
     needed "tokenModifiers" (.array .string),
     needed "formats" (.array .string),
     maybe "overlappingTokenSupport" .bool,
     maybe "multilineTokenSupport" .bool,
     maybe "serverCancelSupport" .bool,
     maybe "augmentsSyntaxTokens" .bool]

/-- What a client can do for documents. -/
def textDocument : Shape :=
  .record "TextDocumentClientCapabilities"
    [maybe "synchronization" (.record "TextDocumentSyncClientCapabilities"
      (flags ["dynamicRegistration", "willSave", "willSaveWaitUntil", "didSave"])),
     maybe "completion" completion,
     maybe "hover" (.record "HoverClientCapabilities"
      [maybe "dynamicRegistration" .bool, maybe "contentFormat" markupKinds]),
     maybe "signatureHelp" signatureHelp,
     maybe "references" dynamic,
     maybe "documentHighlight" dynamic,
     maybe "documentSymbol" (.record "DocumentSymbolClientCapabilities"
      [maybe "dynamicRegistration" .bool,
       maybe "symbolKind" symbolKinds,
       maybe "hierarchicalDocumentSymbolSupport" .bool,
       tagField]),
     maybe "formatting" dynamic,
     maybe "rangeFormatting" dynamic,
     maybe "onTypeFormatting" dynamic,
     maybe "declaration" goto,
     maybe "definition" goto,
     maybe "typeDefinition" goto,
     maybe "implementation" goto,
     maybe "codeAction" codeAction,
     maybe "codeLens" dynamic,
     maybe "documentLink" (.record "DocumentLinkClientCapabilities"
      (flags ["dynamicRegistration", "tooltipSupport"])),
     maybe "colorProvider" dynamic,
     maybe "rename" (.record "RenameClientCapabilities"
      [maybe "dynamicRegistration" .bool,
       maybe "prepareSupport" .bool,
       maybe "prepareSupportDefaultBehavior" .int32,
       maybe "honorsChangeAnnotations" .bool]),
     maybe "publishDiagnostics" (.record "PublishDiagnosticsClientCapabilities"
      [maybe "relatedInformation" .bool,
       tagField,
       maybe "versionSupport" .bool,
       maybe "codeDescriptionSupport" .bool,
       maybe "dataSupport" .bool]),
     maybe "foldingRange" foldingRange,
     maybe "selectionRange" (.record "SelectionRangeClientCapabilities"
      (flags ["dynamicRegistration"])),
     maybe "linkedEditingRange" dynamic,
     maybe "callHierarchy" dynamic,
     maybe "semanticTokens" semanticTokens,
     maybe "moniker" dynamic,
     maybe "typeHierarchy" dynamic,
     maybe "inlineValue" dynamic,
     maybe "inlayHint" (.record "InlayHintClientCapabilities"
      [maybe "dynamicRegistration" .bool,
       maybe "resolveSupport" (resolving "InlayHintResolveClientCapabilities")]),
     maybe "diagnostic" (.record "DiagnosticClientCapabilities"
      (flags ["dynamicRegistration", "relatedDocumentSupport"]))]

/-! ## The rest -/

/-- What a client can do with windows. -/
def window : Shape :=
  .record "WindowClientCapabilities"
    [maybe "workDoneProgress" .bool,
     maybe "showMessage" (.record "ShowMessageRequestClientCapabilities"
      [maybe "messageActionItem" (.record "MessageActionItemCapabilities"
        (flags ["additionalPropertiesSupport"]))]),
     maybe "showDocument" (.record "ShowDocumentClientCapabilities"
      [needed "support" .bool])]

/-- What a client can do in general. -/
def general : Shape :=
  .record "GeneralClientCapabilities"
    [maybe "regularExpressions" (.record "RegularExpressionsClientCapabilities"
      [needed "engine" .string, maybe "version" .string]),
     maybe "markdown" (.record "MarkdownClientCapabilities"
      [needed "parser" .string, maybe "version" .string,
       maybe "allowedTags" (.array .string)]),
     maybe "staleRequestSupport" (.record "StaleRequestSupportClientCapabilities"
      [needed "cancel" .bool, needed "retryOnContentModified" (.array .string)]),
     maybe "positionEncodings" (.array .string)]

/-- What a client can do. -/
def capabilities : Shape :=
  .record "ClientCapabilities"
    [maybe "workspace" workspace,
     maybe "textDocument" textDocument,
     maybe "window" window,
     maybe "general" general,
     maybe "experimental" .any]

end TexCompletion.Server.Client
