/-
  The tools that a language model can call.

  * `Tool` are the tools, `Tool.schema` what they are called with;
  * `Tool.definition` is what the model is told about a tool.
-/
import ChatRelay.Tool.Form

namespace ChatRelay

/-- The tools. -/
inductive Tool where
  | richContent
  | html
  | escalate
  | requestAgent
deriving DecidableEq

namespace Tool

/-- The name of a tool. -/
def name : Tool → String
  | richContent => "send_rich_content"
  | html => "send_html_content"
  | escalate => "escalate_to_live_agent"
  | requestAgent => "request_live_agent"

/-- All tools. -/
def all : List Tool := [richContent, html, escalate, requestAgent]

/-- The tool of a name. -/
def ofName? (s : String) : Option Tool := all.find? (·.name = s)

/-! ## Forms -/

/-- A button, as a model describes it. -/
def buttonPart : Part where
  name := "ToolButton"
  fields := [
    ⟨"text", "Button label", true⟩,
    ⟨"bot_action", "Action triggered when clicked", false⟩,
    ⟨"link", "URL to open", false⟩,
    ⟨"icon", "Icon name (e.g., \"right-arrow\")", false⟩,
    ⟨"type", "Button style (primary, secondary, danger, splash)", false⟩,
    ⟨"title", "Title (shown above button for splash type)", false⟩]

/-- An entry of a list or a card, as a model describes it. -/
def itemPart : Part where
  name := "ToolItem"
  fields := [
    ⟨"text", "Text for list item or card body", false⟩,
    ⟨"bot_action", "Bot action for list item", false⟩,
    ⟨"link", "Link URL for list item", false⟩,
    ⟨"title", "Title for card", false⟩,
    ⟨"subtitle", "Subtitle for card", false⟩,
    ⟨"imageUrl", "Image URL for card", false⟩,
    ⟨"imageAlt", "Image alt text for card", false⟩,
    ⟨"buttonText", "Button text for card", false⟩,
    ⟨"buttonAction", "Button action for card", false⟩]

/-- An optional text. -/
def optionalText (name : String) (about : String) : Parameter := { name, about := some about }

/-- The form of a rich content message; it takes further fields. -/
def richContentForm : Form where
  name := "RichContentToolInput"
  about := some "Flat rich content description produced by the model."
  isOpen := true
  parameters := [
    { name := "type"
      shape := .text (some Content.Kind.text.name)
      about := some ("The type of rich content to send. One of: " ++
        ", ".intercalate (Content.Kind.all.map Content.Kind.name) ++
        ". Use \"list\" for bullet points/numbered lists.") },
    optionalText "text" "Main text content. Required for \"text\", \"information\", \"splash\".",
    optionalText "plainText" "Fallback plain text.",
    optionalText "title" "Title for card, list, map, or splash.",
    optionalText "subtitle" "Subtitle for card.",
    optionalText "imageSrc" "Source URL for image.",
    optionalText "imageAlt" "Alt text for image.",
    optionalText "imageLink" "Link URL for image.",
    { name := "buttons"
      shape := .parts buttonPart
      about := some "Buttons for \"buttons\" or \"splash\" type." },
    optionalText "cardButtonText" "Button text for card.",
    optionalText "cardButtonAction" "Button action for card.",
    { name := "replies", shape := .texts, about := some "List of quick reply options." },
    optionalText "format" "Quick reply format: \"default\" or \"cloud\".",
    { name := "items"
      shape := .parts itemPart
      about := some "Items for \"list\" or \"carousel\"." },
    { name := "ordered"
      shape := .flag
      about := some "True for numbered list, false for bullet points" },
    { name := "footer" },
    optionalText "fileName" "File name.",
    optionalText "fileSize" "File size.",
    optionalText "fileUrl" "File or Link URL.",
    optionalText "mapMode" "place, view, directions, streetview or search",
    { name := "parameters" },
    optionalText "mapLinkUrl" "Link URL for map.",
    optionalText "mapLinkText" "Link text for map."]

/-- The form of an HTML message. -/
def htmlForm : Form where
  name := "HtmlToolInput"
  parameters := [{
    name := "html"
    about := some ("The raw HTML content to send. Use valid HTML tags for formatting " ++
      "(e.g., <b>bold</b>, <ul><li>item</li></ul>), not Markdown.")
    needed := true }]

/-- The form of an escalation. -/
def escalationForm : Form where
  name := "EscalationToolInput"
  parameters := [
    optionalText "reason" "The reason for escalating to a live agent.",
    optionalText "text"
      "The text to display to the user (e.g. \"Connecting you to a live agent...\")."]

/-! ## Definitions -/

/-- What a tool is for. -/
def description : Tool → String
  | richContent =>
    "Use this tool for any response that includes a list, options, or structured data. " ++
    "Never output markdown lists in plain text; use the \"list\" type instead. " ++
    "Use \"carousel\" for products/items, \"card\" for single items, \"map\" for locations, " ++
    "and \"buttons\"/\"quickReply\" for choices. This tool sends the message directly to the " ++
    "user; do not repeat the content in your final response."
  | html =>
    "Use this tool to send messages formatted with HTML, such as tables, bold text and headers. " ++
    "Convert any Markdown to valid HTML before sending. Do not use this for simple text messages."
  | escalate =>
    "Use this tool when the user explicitly requests a live agent or human support. " ++
    "This triggers the handoff process. You can provide the \"text\" to show the user."
  | requestAgent =>
    "Flag the conversation for escalation when the user asks to speak to a human, " ++
    "live agent, or support representative. Input should be a JSON string with a \"reason\" " ++
    "property."

/-- The schema of what a tool is called with. -/
def schema : Tool → Json
  | richContent => richContentForm.schema
  | html => htmlForm.schema
  | escalate => escalationForm.schema
  | requestAgent => .object [
    ("type", .text "object"),
    ("properties", .object [("input", .object (typeSchema "string"))])]

/-- What the model is told about a tool. -/
def definition (t : Tool) : Json :=
  .object [
    ("name", .text t.name), ("description", .text t.description), ("parameters_schema", t.schema)]

/-- What the model is told about all tools. -/
def definitions : List Json := all.map definition

end Tool

end ChatRelay
