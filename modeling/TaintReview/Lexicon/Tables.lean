import TaintReview.Category

namespace TaintReview.Lexicon

/-!
# Tables of words

Which words speak for which category, which phrases claim a role, and how much a hedge is
worth.  All tables are ordered: a look-up takes the first entry that fits, so the order of
the entries decides.
-/

/-- Words that speak for categories, in order of priority. -/
abbrev CategoryTable := List (Category × List String)

/-- Words that speak for the categories of sources. -/
def sourceKeywords : CategoryTable :=
  [(.userInput,
     ["user input", "request", "form", "query param", "argv", "stdin", "cookie", "header",
      "upload"]),
   (.databaseRead, ["database", "sql", "select", "fetch", "cursor", "orm", "record"]),
   (.fileRead, ["file", "read", "open", "path", "load"]),
   (.networkReceive, ["network", "socket", "http", "recv", "download", "api response"]),
   (.environmentVariable, ["environment", "env var", "getenv", "environ"]),
   (.configuration, ["config", "setting", "option", "ini", "yaml"])]

/-- Words that speak for the categories of sinks. -/
def sinkKeywords : CategoryTable :=
  [(.databaseWrite,
     ["database", "sql", "insert", "update", "delete", "execute query", "commit"]),
   (.fileWrite, ["file", "write", "save", "dump", "persist"]),
   (.networkSend, ["network", "socket", "send", "post", "upload", "http request"]),
   (.commandExecution,
     ["command", "exec", "shell", "subprocess", "system", "spawn", "eval"]),
   (.markupRendering, ["html", "render", "template", "markup", "dom"]),
   (.logging, ["log", "logger", "audit", "trace"]),
   (.responseGeneration, ["response", "reply", "return to client", "redirect"])]

/-- Verbs that introduce the claim of a role. -/
def claimVerbs : List String := ["is", "acts as", "serves as", "might be"]

/-- Adjectives that may stand before the role. -/
def claimQualifiers : List String := ["potential", "possible", "likely"]

/-- What a hedge says about the confidence of a statement, the strongest first. -/
def hedges : List (String × Float) :=
  [("definitely", 0.9), ("likely", 0.7), ("probably", 0.6), ("possibly", 0.4), ("might", 0.3)]

/-- The confidence of a statement without a hedge. -/
def defaultHedge : Float := 0.5

/-- The words by which source candidates are looked for, unless others are set. -/
def defaultSourceKeywords : List String :=
  ["input", "request", "read", "param", "form", "cookie", "header", "recv", "receive", "environ",
   "getenv", "config", "load", "fetch", "download", "stdin"]

/-- The words by which sink candidates are looked for, unless others are set. -/
def defaultSinkKeywords : List String :=
  ["execute", "exec", "query", "write", "save", "send", "render", "template", "html", "command",
   "subprocess", "shell", "eval", "log", "response", "redirect"]

/-! ### Vulnerabilities -/

/-- The vulnerability that a kind of sink suggests, and what to do about it. -/
structure Profile where
  vulnerabilityType : String
  recommendations : List String
deriving DecidableEq, Repr

/-- The profiles of the categories that have one of their own. -/
def profiles : List (Category × Profile) :=
  [(.databaseWrite,
     ⟨"SQL Injection",
      ["Use parameterized queries or prepared statements",
       "Validate and constrain input before it reaches the query layer"]⟩),
   (.commandExecution,
     ⟨"Command Injection",
      ["Avoid invoking a shell; pass arguments as a list",
       "Allow-list permitted commands and arguments"]⟩),
   (.markupRendering,
     ⟨"Cross-Site Scripting",
      ["Enable context-aware output escaping in the template engine",
       "Sanitize untrusted markup before rendering"]⟩),
   (.fileWrite,
     ⟨"Path Traversal",
      ["Canonicalize paths and confine writes to an allowed directory",
       "Reject path separators and parent references in file names"]⟩),
   (.networkSend,
     ⟨"Server-Side Request Forgery",
      ["Allow-list destination hosts and schemes",
       "Do not forward untrusted data to internal services"]⟩),
   (.logging,
     ⟨"Log Injection",
      ["Strip or encode line breaks in logged values",
       "Avoid logging secrets and personal data"]⟩),
   (.responseGeneration,
     ⟨"Information Disclosure",
      ["Filter internal fields out of client responses",
       "Validate redirect targets against an allow-list"]⟩)]

/-- The profile of all other categories. -/
def fallbackProfile : Profile :=
  ⟨"Untrusted Data Flow", ["Validate untrusted data before it reaches the sink"]⟩

/-- The profile of a category. -/
def profile (category : Category) : Profile := (profiles.lookup category).getD fallbackProfile

end TaintReview.Lexicon
