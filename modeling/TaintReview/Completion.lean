import TaintReview.Error
import TaintReview.Text.Basic

namespace TaintReview

open Text

/-!
# The completion service

A service that completes prompts by a script: the first rule whose text occurs in the user's
prompt gives the answer.  It keeps a record of all calls.
-/

/-- A call of the service. -/
structure CompletionCall where
  system : String
  user : String
  temperature : Float32
  maxTokens : UInt32
deriving DecidableEq

/-- The call as members; the temperature is written in prose. -/
def CompletionCall.toFields (c : CompletionCall) : Fields :=
  [("max_tokens", .ofUInt32 c.maxTokens), ("system", .string c.system),
   ("temperature", .string (Decimal.prose (.ofFloat32 c.temperature))),
   ("user", .string c.user)]

/-- What a rule answers. -/
inductive ScriptedReply where
  | text (text : String)
  | failure (message : String)
deriving DecidableEq, Repr

/-- A completion service with its script and its record. -/
structure Completion where
  /-- Texts to look for in the user's prompt, with their answers. -/
  rules : List (String × ScriptedReply) := []
  /-- The answer when no rule applies. -/
  fallback : String := ""
  calls : List CompletionCall := []

namespace Completion

/-- The outcome of an answer. -/
def outcome : ScriptedReply → Except ServiceError String
  | .text text => .ok text
  | .failure message => .error (.completion message)

/-- The answer to a user's prompt. -/
def answer (c : Completion) (user : String) : Except ServiceError String :=
  match c.rules.find? fun rule => containsText rule.1 user with
  | some (_, reply) => outcome reply
  | none => .ok c.fallback

/-- Record a call. -/
def noteCall (c : Completion) (call : CompletionCall) : Completion :=
  { c with calls := c.calls ++ [call] }

/-- The answer depends on the script only, not on earlier calls. -/
@[simp] theorem answer_noteCall (c : Completion) (call : CompletionCall) (user : String) :
    (c.noteCall call).answer user = c.answer user := rfl

end Completion

end TaintReview
