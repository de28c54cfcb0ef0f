import TexCompletion.Json.Shape
import TexCompletion.Server.Parts

/-!
# Shapes of the protocol

The shapes of what messages speak of: places, edits, diagnostics, symbols, hints.  They are checked
where a client sends them, and nothing of them is kept.
-/

namespace TexCompletion.Server.Shapes

open Json

/-! ## Places -/

/-- A URL. -/
def url : Shape :=
  .decoded Url.decoder

/-- A position in a document. -/
def position : Shape :=
  .decoded Parts.position

/-- A range of a document. -/
def range : Shape :=
  .decoded Parts.range

/-- A document. -/
def identifier : Shape :=
  .decoded Parts.identifier

/-- A document and a position in it. -/
def place : Shape :=
  .decoded (.record Parts.place)

/-- A range of some document. -/
def location : Shape :=
  .record "Location" [.needed "uri" url, .needed "range" range]

/-! ## Following a request -/

/-- A number or a string. -/
def numberOrString : Shape :=
  .oneOf "NumberOrString" [.int32, .string]

/-- The token under which progress is reported. -/
def workDone : Shape :=
  .record "WorkDoneProgressParams" [.maybe "workDoneToken" numberOrString]

/-- The token under which parts of the result are reported. -/
def partialResult : Shape :=
  .record "PartialResultParams" [.maybe "partialResultToken" numberOrString]

/-! ## Texts -/

/-- The kinds of text with markup. -/
def markupKind : Shape :=
  .words ["plaintext", "markdown"]

/-- A text with markup. -/
def markup : Shape :=
  .record "MarkupContent" [.needed "kind" markupKind, .needed "value" .string]

/-- A text with or without markup, for the choice of the given name. -/
def textOrMarkup (choice : String) : Shape :=
  .oneOf choice [.string, markup]

/-- A documentation. -/
def documentation : Shape :=
  textOrMarkup "Documentation"

/-! ## Commands and edits -/

/-- A command. -/
def command : Shape :=
  .record "Command"
    [.needed "title" .string, .needed "command" .string, .maybe "arguments" (.array .any)]

/-- An edit of a text. -/
def textEdit : Shape :=
  .record "TextEdit" [.needed "range" range, .needed "newText" .string]

/-- An edit that inserts or replaces. -/
def insertReplaceEdit : Shape :=
  .record "InsertReplaceEdit"
    [.needed "newText" .string, .needed "insert" range, .needed "replace" range]

/-- Edits of one document. -/
def documentEdit : Shape :=
  .record "TextDocumentEdit"
    [.needed "textDocument" (.record "OptionalVersionedTextDocumentIdentifier"
      [.needed "uri" url, .maybe "version" .int32]),
     .needed "edits" (.array textEdit)]

/-- The creation, renaming or deletion of a file. -/
def fileOperation : Shape :=
  .tagged "kind"
    [("create", .record "CreateFile"
      [.needed "uri" url,
       .maybe "options" (.record "CreateFileOptions"
        [.maybe "overwrite" .bool, .maybe "ignoreIfExists" .bool]),
       .maybe "annotationId" .string]),
     ("rename", .record "RenameFile"
      [.needed "oldUri" url, .needed "newUri" url,
       .maybe "options" (.record "RenameFileOptions"
        [.maybe "overwrite" .bool, .maybe "ignoreIfExists" .bool]),
       .maybe "annotationId" .string]),
     ("delete", .record "DeleteFile"
      [.needed "uri" url,
       .maybe "options" (.record "DeleteFileOptions"
        [.maybe "recursive" .bool, .maybe "ignoreIfNotExists" .bool,
         .maybe "annotationId" .string])])]

/-- An edit of several documents. -/
def workspaceEdit : Shape :=
  .record "WorkspaceEdit"
    [.defaulted "changes" (.optional (.table "map" url (.array textEdit))),
     .maybe "documentChanges" (.oneOf "DocumentChanges"
      [.array documentEdit,
       .array (.oneOf "DocumentChangeOperation" [fileOperation, documentEdit])]),
     .maybe "changeAnnotations" (.table "a map" .string (.record "ChangeAnnotation"
      [.needed "label" .string, .maybe "needsConfirmation" .bool,
       .maybe "description" .string]))]

/-! ## Diagnostics -/

/-- A diagnostic. -/
def diagnostic : Shape :=
  .record "Diagnostic"
    [.needed "range" range,
     .maybe "severity" .int32,
     .maybe "code" numberOrString,
     .maybe "codeDescription" (.record "CodeDescription" [.needed "href" url]),
     .maybe "source" .string,
     .needed "message" .string,
     .maybe "relatedInformation" (.array (.record "DiagnosticRelatedInformation"
      [.needed "location" location, .needed "message" .string])),
     .maybe "tags" (.array .int32),
     .maybe "data" .any]

/-! ## Symbols -/

/-- A function and where it is, in a hierarchy of calls. -/
def callItem : Shape :=
  .record "CallHierarchyItem"
    [.needed "name" .string, .needed "kind" .int32, .maybe "tags" (.array .int32),
     .maybe "detail" .string, .needed "uri" url, .needed "range" range,
     .needed "selectionRange" range, .maybe "data" .any]

/-- A type and where it is, in a hierarchy of types. -/
def typeItem : Shape :=
  .record "TypeHierarchyItem"
    [.needed "name" .string, .needed "kind" .int32, .maybe "tags" .int32,
     .maybe "detail" .string, .needed "uri" url, .needed "range" range,
     .needed "selectionRange" range, .maybe "data" .any]

/-- A symbol of the workspace. -/
def symbol : Shape :=
  .record "WorkspaceSymbol"
    [.needed "name" .string, .needed "kind" .int32, .maybe "tags" (.array .int32),
     .maybe "containerName" .string,
     .needed "location" (.oneOf "OneOf"
      [location, .record "WorkspaceLocation" [.needed "uri" url]]),
     .maybe "data" .any]

/-! ## Hints and links -/

/-- A part of the label of a hint. -/
def labelPart : Shape :=
  .record "InlayHintLabelPart"
    [.needed "value" .string, .maybe "tooltip" (textOrMarkup "InlayHintLabelPartTooltip"),
     .maybe "location" location, .maybe "command" command]

/-- A hint inside a text. -/
def inlayHint : Shape :=
  .record "InlayHint"
    [.needed "position" position,
     .needed "label" (.oneOf "InlayHintLabel" [.string, .array labelPart]),
     .maybe "kind" .int32,
     .maybe "textEdits" (.array textEdit),
     .maybe "tooltip" (textOrMarkup "InlayHintTooltip"),
     .maybe "paddingLeft" .bool,
     .maybe "paddingRight" .bool,
     .maybe "data" .any]

/-- A link inside a text. -/
def documentLink : Shape :=
  .record "DocumentLink"
    [.needed "range" range, .maybe "target" url, .maybe "tooltip" .string, .maybe "data" .any]

/-- A command that is shown with a range. -/
def codeLens : Shape :=
  .record "CodeLens"
    [.needed "range" range, .maybe "command" command, .maybe "data" .any]

/-! ## Completions and signatures -/

/-- A completion. -/
def completionItem : Shape :=
  .record "CompletionItem"
    [.needed "label" .string,
     .maybe "labelDetails" (.record "CompletionItemLabelDetails"
      [.maybe "detail" .string, .maybe "description" .string]),
     .maybe "kind" .int32,
     .maybe "detail" .string,
     .maybe "documentation" documentation,
     .maybe "deprecated" .bool,
     .maybe "preselect" .bool,
     .maybe "sortText" .string,
     .maybe "filterText" .string,
     .maybe "insertText" .string,
     .maybe "insertTextFormat" .int32,
     .maybe "insertTextMode" .int32,
     .maybe "textEdit" (.oneOf "CompletionTextEdit" [textEdit, insertReplaceEdit]),
     .maybe "additionalTextEdits" (.array textEdit),
     .maybe "command" command,
     .maybe "commitCharacters" (.array .string),
     .maybe "data" .any,
     .maybe "tags" (.array .int32)]

/-- How completion was asked for. -/
def completionContext : Shape :=
  .record "CompletionContext"
    [.needed "triggerKind" .int32, .maybe "triggerCharacter" .string]

/-- A parameter of a function. -/
def parameter : Shape :=
  .record "ParameterInformation"
    [.needed "label" (.oneOf "ParameterLabel" [.string, .twice .nat32]),
     .maybe "documentation" documentation]

/-- The signatures of a function. -/
def signatures : Shape :=
  .record "SignatureHelp"
    [.needed "signatures" (.array (.record "SignatureInformation"
      [.needed "label" .string, .maybe "documentation" documentation,
       .maybe "parameters" (.array parameter), .maybe "activeParameter" .nat32])),
     .maybe "activeSignature" .nat32,
     .maybe "activeParameter" .nat32]

/-- How signatures were asked for. -/
def signatureContext : Shape :=
  .record "SignatureHelpContext"
    [.needed "triggerKind" .int32, .maybe "triggerCharacter" .string,
     .needed "isRetrigger" .bool, .maybe "activeSignatureHelp" signatures]

/-! ## Actions -/

/-- What an action is asked for. -/
def actionContext : Shape :=
  .record "CodeActionContext"
    [.needed "diagnostics" (.array diagnostic), .maybe "only" (.array .string),
     .maybe "triggerKind" .int32]

/-- An action. -/
def codeAction : Shape :=
  .record "CodeAction"
    [.needed "title" .string,
     .maybe "kind" .string,
     .maybe "diagnostics" (.array diagnostic),
     .maybe "edit" workspaceEdit,
     .maybe "command" command,
     .maybe "isPreferred" .bool,
     .maybe "disabled" (.record "CodeActionDisabled" [.needed "reason" .string]),
     .maybe "data" .any]

/-- How to lay out a text. -/
def formatting : Shape :=
  .sharing "FormattingOptions"
    [.needed "tabSize" .nat32,
     .needed "insertSpaces" .bool,
     .maybe "trimTrailingWhitespace" .bool,
     .maybe "insertFinalNewline" .bool,
     .maybe "trimFinalNewlines" .bool]
    [.table "a map" .string (.oneOf "FormattingProperty" [.bool, .int32, .string])]

/-- A color. -/
def color : Shape :=
  .record "Color"
    [.needed "red" .number, .needed "green" .number, .needed "blue" .number,
     .needed "alpha" .number]

end TexCompletion.Server.Shapes
